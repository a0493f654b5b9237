import Mathlib

/-!
# Ranked relations

A relation is *ranked* when some natural number decreases along every edge.  A ranked relation has
no cycle.  Being ranked is kept when edges are dropped, and when a vertex without edges receives
edges to other vertices: this is how a graph that only ever grows by new vertices stays acyclic,
although no cycle is ever looked for.
-/

namespace Hartevo

variable {α : Type*} {r r' : α → α → Prop}

/-- Some rank decreases along every edge. -/
def Ranked (r : α → α → Prop) : Prop :=
  ∃ rank : α → ℕ, ∀ a b, r a b → rank b < rank a

/-- A ranked relation has no cycle. -/
lemma Ranked.acyclic (h : Ranked r) (a : α) : ¬Relation.TransGen r a a := by
  obtain ⟨rank, hr⟩ := h
  have hp : ∀ b, Relation.TransGen r a b → rank b < rank a := by
    intro b hab
    induction hab with
    | single he => exact hr _ _ he
    | tail _ he ih => exact (hr _ _ he).trans ih
  exact fun hc => lt_irrefl _ (hp a hc)

/-- A relation without edges is ranked. -/
lemma Ranked.of_empty (h : ∀ a b, ¬r a b) : Ranked r :=
  ⟨fun _ => 0, fun a b hab => absurd hab (h a b)⟩

/-- A relation stays ranked when edges are dropped. -/
lemma Ranked.mono (h : Ranked r) (hsub : ∀ a b, r' a b → r a b) : Ranked r' := by
  obtain ⟨rank, hr⟩ := h
  exact ⟨rank, fun a b hab => hr a b (hsub a b hab)⟩

/-- A relation stays ranked when a vertex `v` to which no edge leads receives edges to vertices
other than itself. -/
lemma Ranked.add_source {v : α} (h : Ranked r) {targets : List α}
    (hv : ∀ a, ¬r a v) (hs : v ∉ targets)
    (hsub : ∀ a b, r' a b → (a ≠ v ∧ r a b) ∨ (a = v ∧ b ∈ targets)) : Ranked r' := by
  classical
  obtain ⟨rank, hr⟩ := h
  refine ⟨Function.update rank v ((targets.map rank).sum + 1), ?_⟩
  intro a b hab
  rcases hsub a b hab with ⟨ha, he⟩ | ⟨rfl, hb⟩
  · have hbv : b ≠ v := by
      rintro rfl
      exact hv a he
    rw [Function.update_of_ne ha, Function.update_of_ne hbv]
    exact hr a b he
  · have hba : b ≠ a := by
      rintro rfl
      exact hs hb
    rw [Function.update_self, Function.update_of_ne hba]
    exact Nat.lt_succ_of_le (List.le_sum_of_mem (List.mem_map_of_mem hb))

end Hartevo
