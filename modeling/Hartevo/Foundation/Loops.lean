import Hartevo.Foundation.Command

/-!
# Loops that can fail

A loop over a list that stops at the first error is `List.foldlM` in `Except`.  Two rules read such
a loop.  `foldlM_invariant` is for what every passed step keeps, and `foldlM_transfer` for a second
loop that passes wherever the first one does.  `forSeen` is the loop that checks every element
against those before it; `forSeen_ok` reads it as a statement about all pairs.

The second part is about errors.  `Avoids bad x` says that the computation `x` does not end with an
error of `bad`, whatever else it does; it is proved along the structure of the computation.
-/

namespace Hartevo

open List

variable {ε ε' α β : Type}

/-! ## Reading a loop -/

section Loops

variable {f g : β → α → Except ε β} {items : List α} {b r : β}

/-- What every passed step keeps holds at the end. -/
lemma foldlM_invariant (I : β → Prop) (hstep : ∀ a ∈ items, ∀ b b', I b → f b a = .ok b' → I b')
    (hb : I b) (h : items.foldlM f b = .ok r) : I r := by
  induction items generalizing b with
  | nil =>
    cases h
    exact hb
  | cons a items ih =>
    rw [foldlM_cons, bind_ok] at h
    obtain ⟨b', hf, hr⟩ := h
    refine ih (fun a' ha' => hstep a' (mem_cons_of_mem _ ha')) ?_ hr
    exact hstep a mem_cons_self b b' hb hf

/-- A loop that passes still passes, with the same result, if every passed step does. -/
lemma foldlM_transfer
    (hstep : ∀ a ∈ items, ∀ b b', f b a = .ok b' → g b a = .ok b') (h : items.foldlM f b = .ok r) :
    items.foldlM g b = .ok r := by
  induction items generalizing b with
  | nil => exact h
  | cons a items ih =>
    rw [foldlM_cons, bind_ok] at h ⊢
    obtain ⟨b', hf, hr⟩ := h
    refine ⟨b', hstep a mem_cons_self b b' hf, ?_⟩
    exact ih (fun a' ha' => hstep a' (mem_cons_of_mem _ ha')) hr

/-- Two loops are the same if their steps agree on the elements. -/
lemma foldlM_congr (hstep : ∀ a ∈ items, ∀ b, f b a = g b a) (b : β) :
    items.foldlM f b = items.foldlM g b := by
  induction items generalizing b with
  | nil => rfl
  | cons a items ih =>
    rw [foldlM_cons, foldlM_cons, hstep a mem_cons_self]
    exact bind_congr fun b' => ih (fun a' ha' => hstep a' (mem_cons_of_mem _ ha')) b'

end Loops

/-- Check every element of a list, given the elements before it. -/
def forSeen (check : List α → α → Except ε Unit) (seen : List α) : List α → Except ε Unit
  | [] => .ok ()
  | a :: rest => do
    check seen a
    forSeen check (a :: seen) rest

/-- If a check asks something of an element alone and something of it and each earlier one, the loop
asks the one of all elements and the other of all pairs. -/
lemma forSeen_ok {check : List α → α → Except ε Unit} {P : α → Prop} {R : α → α → Prop}
    {seen items : List α} (hc : ∀ seen a, check seen a = .ok () ↔ P a ∧ ∀ b ∈ seen, R b a) :
    forSeen check seen items = .ok () ↔
      (∀ a ∈ items, P a ∧ ∀ b ∈ seen, R b a) ∧ items.Pairwise R := by
  induction items generalizing seen with
  | nil => simp [forSeen]
  | cons a rest ih =>
    rw [forSeen, check_ok, hc, ih, forall_mem_cons, pairwise_cons]
    simp only [forall_mem_cons]
    constructor
    · rintro ⟨ha, hr, hp⟩
      exact ⟨⟨ha, fun b hb => ⟨(hr b hb).1, (hr b hb).2.2⟩⟩, fun b hb => (hr b hb).2.1, hp⟩
    · rintro ⟨⟨ha, hr⟩, hf, hp⟩
      exact ⟨ha, fun b hb => ⟨(hr b hb).1, hf b hb, (hr b hb).2⟩, hp⟩

/-! ## Errors that do not occur -/

/-- The computation does not end with one of the errors. -/
def Avoids (bad : ε → Prop) (x : Except ε α) : Prop :=
  ∀ e, x = .error e → ¬bad e

namespace Avoids

variable {bad : ε → Prop} {error : ε} {x : Except ε α}

lemma ok (a : α) : Avoids bad (.ok a : Except ε α) := by
  intro e h
  cases h

lemma pure (a : α) : Avoids bad (Pure.pure a : Except ε α) := ok a

lemma of_eq_ok {a : α} (h : x = .ok a) : Avoids bad x := h ▸ ok a

lemma bind {f : α → Except ε β} (hx : Avoids bad x) (hf : ∀ a, x = .ok a → Avoids bad (f a)) :
    Avoids bad (x >>= f) := by
  intro e h
  rcases bind_eq_error.mp h with he | ⟨a, hok, he⟩
  · exact hx e he
  · exact hf a hok e he

lemma rejectIf {condition : Bool} (h : condition = true → ¬bad error) :
    Avoids bad (rejectIf condition error) := by
  intro e he
  rcases hc : condition with _ | _
  · rw [hc] at he
    cases he
  · rw [hc] at he
    cases he
    exact h hc

lemma okOr {value : Option α} (h : value = none → ¬bad error) : Avoids bad (okOr value error) := by
  intro e he
  rcases value with _ | a
  · cases he
    exact h rfl
  · cases he

/-- A check that does not fail with one of the errors needs no look at its condition. -/
lemma rejectIf_bind {condition : Bool} {f : Unit → Except ε β} (he : ¬bad error)
    (hf : Avoids bad (f ())) : Avoids bad (Hartevo.rejectIf condition error >>= f) :=
  (rejectIf fun _ => he).bind fun _ _ => hf

lemma okOr_bind {value : Option α} {f : α → Except ε β} (he : ¬bad error)
    (hf : ∀ a, Avoids bad (f a)) : Avoids bad (Hartevo.okOr value error >>= f) :=
  (okOr fun _ => he).bind fun a _ => hf a

lemma mapError {g : ε' → ε} {x : Except ε' α} (h : ∀ e, x = .error e → ¬bad (g e)) :
    Avoids bad (x.mapError g) := by
  intro e he
  rcases x with e' | a
  · cases he
    exact h e' rfl
  · cases he

/-- A loop avoids the errors that none of its steps has, on the states that satisfy an invariant. -/
lemma foldlM {f : β → α → Except ε β} (I : β → Prop) {items : List α} {b : β}
    (hstep : ∀ a ∈ items, ∀ b, I b → Avoids bad (f b a) ∧ ∀ b', f b a = .ok b' → I b') (hb : I b) :
    Avoids bad (items.foldlM f b) := by
  induction items generalizing b with
  | nil => exact ok b
  | cons a items ih =>
    rw [foldlM_cons]
    obtain ⟨hf, hk⟩ := hstep a mem_cons_self b hb
    refine hf.bind fun b' hb' => ?_
    exact ih (fun a' ha' => hstep a' (mem_cons_of_mem _ ha')) (hk b' hb')

/-- A loop avoids the errors that none of its steps has. -/
lemma foldlM_of_step {f : β → α → Except ε β} {items : List α}
    (hstep : ∀ a ∈ items, ∀ b, Avoids bad (f b a)) (b : β) : Avoids bad (items.foldlM f b) :=
  foldlM (fun _ => True) (fun a ha b _ => ⟨hstep a ha b, fun _ _ => trivial⟩) trivial

end Avoids

end Hartevo
