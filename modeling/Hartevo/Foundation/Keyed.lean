import Mathlib

/-!
# Lists whose elements have distinct keys

A table is often kept as a list whose elements carry different keys.  An element of it is found by
its key, whatever its position, and the list is determined up to order by its elements: lookups do
not depend on the order, and neither does the list in the order of its keys.

`sortByKey` sorts a list in increasing order of a key, and keeps the order of elements with the same
key.  Several keys in order of importance are one key of a lexicographic product.
-/

namespace Hartevo

open List

section Lookup

variable {α κ : Type*} [BEq κ] [LawfulBEq κ] {key : α → κ} {l l' : List α} {a : α}

/-- An element is found by its key. -/
lemma find?_key_of_mem (hd : (l.map key).Nodup) (ha : a ∈ l) :
    (l.find? fun b => key b == key a) = some a := by
  cases hf : l.find? fun b => key b == key a with
  | none => exact absurd (BEq.rfl) (find?_eq_none.mp hf a ha)
  | some b =>
    have hkey : key b = key a := by simpa using find?_some hf
    rw [inj_on_of_nodup_map hd (mem_of_find?_eq_some hf) ha hkey]

/-- A lookup by key finds exactly the element with the key. -/
lemma find?_key_eq_some_iff {k : κ} (hd : (l.map key).Nodup) :
    (l.find? fun b => key b == k) = some a ↔ a ∈ l ∧ key a = k := by
  constructor
  · intro hf
    exact ⟨mem_of_find?_eq_some hf, by simpa using find?_some hf⟩
  · rintro ⟨ha, rfl⟩
    exact find?_key_of_mem hd ha

/-- The order of the list does not matter for a lookup. -/
lemma find?_key_perm (hp : l.Perm l') (hd : (l.map key).Nodup) (k : κ) :
    (l.find? fun b => key b == k) = l'.find? fun b => key b == k := by
  have hd' : (l'.map key).Nodup := (hp.map key).nodup_iff.mp hd
  refine Option.ext fun a => ?_
  rw [find?_key_eq_some_iff hd, find?_key_eq_some_iff hd', hp.mem_iff]

omit [BEq κ] [LawfulBEq κ] in
/-- A new key at the end keeps the keys distinct. -/
lemma nodup_map_concat (h : (l.map key).Nodup) (hf : ∀ b ∈ l, key b ≠ key a) :
    ((l ++ [a]).map key).Nodup := by
  rw [map_append, nodup_append]
  refine ⟨h, by simp, fun k hk k' hk' => ?_⟩
  obtain ⟨b, hb, rfl⟩ := mem_map.mp hk
  rw [map_singleton, mem_singleton] at hk'
  rw [hk']
  exact hf b hb

end Lookup

section Sorting

variable {α κ : Type*} [LinearOrder κ] {key : α → κ} {l l' : List α}

/-- The list in increasing order of a key. -/
def sortByKey (key : α → κ) (l : List α) : List α :=
  l.insertionSort fun a b => key a ≤ key b

lemma sortByKey_perm (key : α → κ) (l : List α) : (sortByKey key l).Perm l :=
  perm_insertionSort _ l

@[simp] lemma mem_sortByKey {a : α} : a ∈ sortByKey key l ↔ a ∈ l := (sortByKey_perm key l).mem_iff

@[simp] lemma length_sortByKey : (sortByKey key l).length = l.length :=
  (sortByKey_perm key l).length_eq

lemma pairwise_sortByKey (key : α → κ) (l : List α) :
    (sortByKey key l).Pairwise fun a b => key a ≤ key b := by
  have : Std.Total fun a b => key a ≤ key b := ⟨fun a b => le_total (key a) (key b)⟩
  have : IsTrans α fun a b => key a ≤ key b := ⟨fun a b c => le_trans⟩
  exact pairwise_insertionSort _ l

/-- Lists with the same elements are the same in the order of a key that tells them apart. -/
lemma sortByKey_eq_of_perm (hp : l.Perm l')
    (hkey : ∀ a ∈ l, ∀ b ∈ l, key a = key b → a = b) : sortByKey key l = sortByKey key l' := by
  have hs : (sortByKey key l).Perm (sortByKey key l') :=
    (sortByKey_perm key l).trans (hp.trans (sortByKey_perm key l').symm)
  refine List.Perm.eq_of_pairwise ?_ (pairwise_sortByKey key l) (pairwise_sortByKey key l') hs
  intro a b ha hb hab hba
  refine hkey a (mem_sortByKey.mp ha) b ?_ (le_antisymm hab hba)
  exact hp.mem_iff.mpr (mem_sortByKey.mp hb)

end Sorting

end Hartevo
