import Mathlib

/-!
# Spans of a list and their replacement

`slice l i j` lists the entries of `l` from position `i` to position `j`, both included, and `splice
l i j a` puts the single entry `a` in their place.  As long as `i ≤ j`, the list is what stands
before the span, the span and what stands after it (`eq_append_slice`); the statements about a
replacement are read off that decomposition.

`position` is the first position of an entry.
-/

namespace Hartevo

open List

variable {α β : Type} {i j : ℕ} {a x : α} {l : List α}

/-- The entries from position `i` to position `j`. -/
def slice (l : List α) (i j : ℕ) : List α :=
  (l.take (j + 1)).drop i

/-- The list with the entries from position `i` to position `j` replaced by one entry. -/
def splice (l : List α) (i j : ℕ) (a : α) : List α :=
  l.take i ++ a :: l.drop (j + 1)

lemma take_append_slice (l : List α) (h : i ≤ j) : l.take i ++ slice l i j = l.take (j + 1) := by
  have hb : l.take i = (l.take (j + 1)).take i := by
    rw [take_take, Nat.min_eq_left (by omega)]
  rw [slice, hb, take_append_drop]

/-- A list is what stands before a span, the span, and what stands after it. -/
lemma eq_append_slice (l : List α) (h : i ≤ j) : l = l.take i ++ slice l i j ++ l.drop (j + 1) := by
  rw [take_append_slice l h, take_append_drop]

/-- An entry of a list with a replaced span is the new one or stands outside of the span. -/
lemma mem_splice : x ∈ splice l i j a ↔ x = a ∨ x ∈ l.take i ∨ x ∈ l.drop (j + 1) := by
  simp only [splice, mem_append, mem_cons]
  tauto

/-- Replacing a span by an entry that reads as the span does not change a reading of the list. -/
lemma flatMap_splice {f : α → List β} (hij : i ≤ j) (ha : f a = (slice l i j).flatMap f) :
    (splice l i j a).flatMap f = l.flatMap f := by
  conv_rhs => rw [eq_append_slice l hij]
  simp only [splice, flatMap_append, flatMap_cons, ha, append_assoc]

/-- Replacing a span by a new entry keeps a list free of repetitions, and nothing of the span is
left. -/
lemma nodup_splice (hij : i ≤ j) (hl : l.Nodup) (ha : a ∉ l) :
    (splice l i j a).Nodup ∧ ∀ x ∈ slice l i j, x ∉ splice l i j a := by
  have hs := eq_append_slice l hij
  have hw := hl
  rw [hs, append_assoc, nodup_append] at hw
  obtain ⟨hb, hr, hap⟩ := hw
  rw [nodup_append] at hr
  obtain ⟨-, haf, hsp⟩ := hr
  have hab : a ∉ l.take i := fun h => ha (mem_of_mem_take h)
  have haa : a ∉ l.drop (j + 1) := fun h => ha (mem_of_mem_drop h)
  constructor
  · rw [splice, nodup_append, nodup_cons]
    refine ⟨hb, ⟨haa, haf⟩, ?_⟩
    intro x hx y hy
    rcases mem_cons.mp hy with rfl | hy
    · rintro rfl
      exact hab hx
    · exact hap x hx y (mem_append_right _ hy)
  · intro x hx hmem
    have hxl : x ∈ l := mem_of_mem_take (mem_of_mem_drop hx)
    rcases mem_splice.mp hmem with rfl | hmem | hmem
    · exact ha hxl
    · exact hap x hmem x (mem_append_left _ hx) rfl
    · exact hsp x hx x hmem rfl

/-- The first position of an entry. -/
def position [DecidableEq α] (l : List α) (a : α) : Option ℕ :=
  l.findIdx? (· = a)

end Hartevo
