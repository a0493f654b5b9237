import Mathlib

/-!
# Entries that stand for earlier ones

The entries of a growing list are numbered.  An entry is either an original one, or it stands for a
list of earlier entries.  `expand parts n` is the list of the original entries that the entry `n`
stands for in the end.  It depends on the entries up to `n` only (`expand_congr`), so it stays the
same while the list grows.
-/

namespace Hartevo

/-- The original entries behind an entry.  Parts that are not earlier do not count. -/
def expand (parts : ℕ → Option (List ℕ)) (n : ℕ) : List ℕ :=
  match parts n with
  | none => [n]
  | some earlier => earlier.flatMap fun m => if _h : m < n then expand parts m else []
termination_by n

variable {parts parts' : ℕ → Option (List ℕ)} {n : ℕ}

/-- An original entry stands for itself. -/
lemma expand_of_none (h : parts n = none) : expand parts n = [n] := by
  rw [expand, h]

/-- Another entry stands for what its parts stand for. -/
lemma expand_of_some {earlier : List ℕ} (h : parts n = some earlier)
    (he : ∀ m ∈ earlier, m < n) : expand parts n = earlier.flatMap (expand parts) := by
  rw [expand, h]
  refine List.flatMap_congr fun m hm => ?_
  rw [dif_pos (he m hm)]

/-- An expansion does not depend on later entries. -/
lemma expand_congr (h : ∀ m ≤ n, parts m = parts' m) : expand parts n = expand parts' n := by
  induction n using Nat.strong_induction_on with
  | _ n ih =>
    have hp := h n le_rfl
    rw [expand, expand, ← hp]
    rcases parts n with _ | earlier
    · rfl
    · refine List.flatMap_congr fun m _ => ?_
      split
      · next hm => exact ih m hm fun k hk => h k (hk.trans hm.le)
      · rfl

end Hartevo
