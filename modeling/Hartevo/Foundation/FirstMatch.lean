import Mathlib

/-!
# The first match in a list

A record in a list is looked up with `List.find?` and written through a reference to the element
that the lookup found.  `replaceFirst p a l` is the list after such a write: the first element of
`l` that satisfies `p` is `a` now.  The lemmas say what a write leaves alone, and how a later lookup
sees it.
-/

namespace Hartevo

open List

variable {α β : Type*} {p q : α → Bool} {f : α → β} {a b : α} {l : List α}

/-- A condition that no two elements of a list share holds of at most one of them. -/
lemma length_filter_le_one (h : l.Pairwise fun a b => p a = true → p b = false) :
    (l.filter p).length ≤ 1 := by
  induction l with
  | nil => exact Nat.zero_le 1
  | cons a l ih =>
    obtain ⟨hh, ht⟩ := pairwise_cons.mp h
    by_cases ha : p a = true
    · have hr : l.filter p = [] := by
        rw [filter_eq_nil_iff]
        intro b hb
        rw [hh b hb ha]
        exact Bool.false_ne_true
      rw [filter_cons_of_pos ha, hr]
      exact Nat.le_refl 1
    · rw [filter_cons_of_neg ha]
      exact ih ht

section Around

variable {P Q : α → Prop} {before after : List α}

/-- Of two elements the earlier one satisfies `P` or the later one `Q`; so an element that satisfies
neither stands after elements with `P` and before elements with `Q`. -/
lemma pairwise_or_around (h : (before ++ a :: after).Pairwise fun x y => P x ∨ Q y) (hP : ¬P a)
    (hQ : ¬Q a) : (∀ x ∈ before, P x) ∧ ∀ x ∈ after, Q x := by
  obtain ⟨-, ht, hc⟩ := pairwise_append.mp h
  obtain ⟨ha, -⟩ := pairwise_cons.mp ht
  exact ⟨fun x hx => (hc x hx a mem_cons_self).resolve_right hQ,
    fun x hx => (ha x hx).resolve_left hP⟩

lemma pairwise_or_of_around (hb : ∀ x ∈ before, P x) (ha : ∀ x ∈ after, Q x) :
    (before ++ a :: after).Pairwise fun x y => P x ∨ Q y := by
  refine pairwise_append.mpr ⟨?_, pairwise_cons.mpr ⟨fun x hx => Or.inr (ha x hx), ?_⟩,
    fun x hx _ _ => Or.inl (hb x hx)⟩
  · exact pairwise_of_forall_mem_list fun x hx _ _ => Or.inl (hb x hx)
  · exact pairwise_of_forall_mem_list fun _ _ y hy => Or.inr (ha y hy)

end Around

/-- An element of a longer list is an old one, or the new one at the end. -/
lemma getElem?_concat_cases {i : ℕ} (h : (l ++ [a])[i]? = some b) :
    l[i]? = some b ∨ i = l.length ∧ b = a := by
  by_cases hi : i < l.length
  · rw [getElem?_append_left hi] at h
    exact .inl h
  · rw [getElem?_append_right (not_lt.mp hi), getElem?_singleton] at h
    split at h
    · next hz => exact .inr ⟨by omega, (Option.some.inj h).symm⟩
    · cases h

/-- The list with its first element that satisfies `p` replaced by `a`. -/
def replaceFirst (p : α → Bool) (a : α) : List α → List α
  | [] => []
  | b :: l => if p b then a :: l else b :: replaceFirst p a l

/-- A list splits at its first match. -/
lemma exists_split_of_find? (h : l.find? p = some b) :
    ∃ before after, l = before ++ b :: after ∧ (∀ x ∈ before, p x = false) ∧
      ∀ a, replaceFirst p a l = before ++ a :: after := by
  induction l with
  | nil => cases h
  | cons x l ih =>
    rw [find?_cons] at h
    split at h
    · next hx =>
      cases h
      exact ⟨[], l, rfl, fun _ hmem => absurd hmem not_mem_nil, fun a => by
        simp [replaceFirst, hx]⟩
    · next hx =>
      obtain ⟨before, after, rfl, hb, hw⟩ := ih h
      refine ⟨x :: before, after, rfl, ?_, fun a => ?_⟩
      · intro y hy
        rcases mem_cons.mp hy with rfl | hy
        · exact hx
        · exact hb y hy
      · rw [replaceFirst, if_neg (by simp [hx]), hw a, cons_append]

/-- A write to a list that is split at its first match. -/
lemma replaceFirst_append {before after : List α} (hbe : ∀ x ∈ before, p x = false)
    (hb : p b = true) : replaceFirst p a (before ++ b :: after) = before ++ a :: after := by
  induction before with
  | nil => simp [replaceFirst, hb]
  | cons x before ih =>
    obtain ⟨hx, hr⟩ := forall_mem_cons.mp hbe
    rw [cons_append, replaceFirst, if_neg (by simp [hx]), ih hr, cons_append]

/-- A write changes no attribute that it keeps. -/
lemma map_replaceFirst (h : l.find? p = some b) (hf : f a = f b) :
    (replaceFirst p a l).map f = l.map f := by
  obtain ⟨before, after, rfl, -, hw⟩ := exists_split_of_find? h
  rw [hw a]
  simp [hf]

/-- What is in the list after a write is the new element or was there before. -/
lemma mem_replaceFirst (h : b ∈ replaceFirst p a l) : b = a ∨ b ∈ l := by
  induction l with
  | nil => cases h
  | cons x l ih =>
    unfold replaceFirst at h
    split at h
    · rcases mem_cons.mp h with rfl | hmem
      · exact .inl rfl
      · exact .inr (mem_cons_of_mem x hmem)
    · rcases mem_cons.mp h with rfl | hmem
      · exact .inr mem_cons_self
      · exact (ih hmem).imp_right (mem_cons_of_mem x)

/-- A write that changes an attribute of the element it hits changes the list of the attributes. -/
lemma map_replaceFirst_ne (h : l.find? p = some b) (hf : f a ≠ f b) :
    (replaceFirst p a l).map f ≠ l.map f := by
  obtain ⟨before, after, rfl, -, hw⟩ := exists_split_of_find? h
  rw [hw a, map_append, map_append]
  intro hs
  have ht := append_cancel_left hs
  exact hf (List.cons.inj ht).1

/-- A write that changes the element it hits changes the list. -/
lemma replaceFirst_ne (h : l.find? p = some b) (hne : a ≠ b) : replaceFirst p a l ≠ l := by
  intro hs
  exact map_replaceFirst_ne (f := id) h hne (congrArg (List.map id) hs)

/-- The second of two writes to the same place remains. -/
lemma replaceFirst_replaceFirst (ha : p a = true) :
    replaceFirst p b (replaceFirst p a l) = replaceFirst p b l := by
  induction l with
  | nil => rfl
  | cons x l ih =>
    by_cases hx : p x = true
    · simp [replaceFirst, hx, ha]
    · simp [replaceFirst, hx, ih]

/-- Writing back what was found changes nothing. -/
lemma replaceFirst_self (h : l.find? p = some b) : replaceFirst p b l = l := by
  obtain ⟨before, after, rfl, -, hw⟩ := exists_split_of_find? h
  exact hw b

/-- After a write of an element that satisfies the predicate, the lookup finds it. -/
lemma find?_replaceFirst (h : l.find? p = some b) (ha : p a = true) :
    (replaceFirst p a l).find? p = some a := by
  obtain ⟨before, after, rfl, hb, hw⟩ := exists_split_of_find? h
  rw [hw a, find?_append, find?_eq_none.mpr fun x hx => by simp [hb x hx]]
  simp [ha]

/-- A write is not seen by the lookup of something that neither the old nor the new element is. -/
lemma find?_replaceFirst_of_not (h : l.find? p = some b) (ha : q a = false) (hb : q b = false) :
    (replaceFirst p a l).find? q = l.find? q := by
  obtain ⟨before, after, rfl, -, hw⟩ := exists_split_of_find? h
  rw [hw a, find?_append, find?_append]
  simp [ha, hb]

/-- A write that starts to satisfy a filter adds the new element to what is filtered. -/
lemma mem_map_filter_replaceFirst {y : β} (h : l.find? p = some b) (ha : q a = true)
    (hb : q b = false) :
    y ∈ ((replaceFirst p a l).filter q).map f ↔ y = f a ∨ y ∈ (l.filter q).map f := by
  obtain ⟨before, after, rfl, -, hw⟩ := exists_split_of_find? h
  rw [hw a]
  simp only [filter_append, filter_cons, ha, hb, if_true, Bool.false_eq_true, if_false,
    map_append, map_cons, mem_append, mem_cons]
  tauto

/-- At every position a write leaves the element alone, or replaces the first match. -/
lemma getElem?_replaceFirst {i : ℕ} (h : l[i]? = some b) :
    ∃ c, (replaceFirst p a l)[i]? = some c ∧ (c = b ∨ c = a ∧ l.find? p = some b) := by
  induction l generalizing i with
  | nil => cases h
  | cons x l ih =>
    by_cases hx : p x = true
    · rw [replaceFirst, if_pos hx]
      cases i with
      | zero =>
        cases h
        exact ⟨a, rfl, Or.inr ⟨rfl, by simp [hx]⟩⟩
      | succ i => exact ⟨b, h, Or.inl rfl⟩
    · rw [replaceFirst, if_neg hx]
      cases i with
      | zero => exact ⟨b, h, Or.inl rfl⟩
      | succ i =>
        obtain ⟨c, hc, hca⟩ := ih h
        refine ⟨c, hc, hca.imp_right fun hf => ?_⟩
        rw [find?_cons_of_neg (by simpa using hx)]
        exact hf

/-- The first match has a position, and a write puts the new element there. -/
lemma exists_set_of_find? (h : l.find? p = some b) :
    ∃ i : ℕ, l[i]? = some b ∧ ∀ a, replaceFirst p a l = l.set i a := by
  obtain ⟨before, after, rfl, -, hw⟩ := exists_split_of_find? h
  refine ⟨before.length, by simp, fun a => ?_⟩
  rw [hw a]
  simp

/-- After a write the new element is where the first match was. -/
lemma exists_getElem?_of_find? (h : l.find? p = some b) :
    ∃ i : ℕ, l[i]? = some b ∧ ∀ a, (replaceFirst p a l)[i]? = some a := by
  obtain ⟨i, hi, hw⟩ := exists_set_of_find? h
  refine ⟨i, hi, fun a => ?_⟩
  have hlt : i < l.length := (List.getElem?_eq_some_iff.mp hi).1
  rw [hw a, getElem?_set_self hlt]

end Hartevo
