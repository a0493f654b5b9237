import Mathlib

/-!
# Ordered maps and sets

The ordered collections `BTreeMap` and `BTreeSet` are the extensional search trees of the standard
library, ordered by `compare`.  Two of them are equal as soon as they have the same bindings, and
`toList` lists the bindings in increasing order of the keys, which is the iteration order of the
collections they stand for.

The lemmas below relate the two readings of a map that the developments built on it need: the
lookup `m[k]?` and the list of values `m.vals`.  Counting the values that satisfy a predicate is
how a quota over the entries of a table is expressed, so the counting lemmas say by how much an
insertion changes such a count.
-/

namespace Hartevo

/-- Ordered maps, iterated in increasing order of the keys. -/
abbrev BTreeMap (K V : Type) [Ord K] := Std.ExtTreeMap K V compare

/-- Ordered sets, iterated in increasing order. -/
abbrev BTreeSet (K : Type) [Ord K] := Std.ExtTreeSet K compare

end Hartevo

namespace Std

open Hartevo (BTreeMap BTreeSet)

section Maps

variable {K V : Type} [Ord K] [TransOrd K] {k a : K} {v : V} {p : V → Bool}

/-- The values of a map, in increasing order of their keys. -/
def ExtTreeMap.vals (m : BTreeMap K V) : List V :=
  m.toList.map Prod.snd

variable [LawfulEqOrd K]

/-- A value occurs in the list of values exactly when some key is bound to it. -/
lemma ExtTreeMap.mem_vals {m : BTreeMap K V} : v ∈ m.vals ↔ ∃ k : K, m[k]? = some v := by
  simp only [ExtTreeMap.vals, List.mem_map, Prod.exists, exists_eq_right]
  exact exists_congr fun k => ExtTreeMap.mem_toList_iff_getElem?_eq_some

/-- A search among the values finds nothing exactly when no bound value matches. -/
lemma ExtTreeMap.vals_any_eq_false_iff {m : BTreeMap K V} :
    m.vals.any p = false ↔ ∀ (k : K) (v : V), m[k]? = some v → p v = false := by
  simp only [List.any_eq_false, ExtTreeMap.mem_vals, Bool.not_eq_true]
  exact ⟨fun h k v hk => h v ⟨k, hk⟩, fun h v ⟨k, hk⟩ => h k v hk⟩

/-- Distinct positions of the binding list carry distinct keys, so the list has no repetition. -/
lemma ExtTreeMap.toList_nodup (m : BTreeMap K V) : m.toList.Nodup := by
  refine (ExtTreeMap.distinct_keys_toList (t := m)).imp ?_
  rintro a b hab rfl
  exact hab ReflCmp.compare_self

/-- Lookup after an insertion, with the comparison resolved to equality of keys. -/
lemma ExtTreeMap.getElem?_insert_iff [DecidableEq K] (m : BTreeMap K V) (k a : K) (v : V) :
    (m.insert k v)[a]? = if k = a then some v else m[a]? := by
  rw [ExtTreeMap.getElem?_insert]
  simp only [LawfulEqCmp.compare_eq_iff_eq]

/-- Lookup of the inserted key. -/
@[simp] lemma ExtTreeMap.getElem?_insert_same (m : BTreeMap K V) (k : K) (v : V) :
    (m.insert k v)[k]? = some v := by
  rw [ExtTreeMap.getElem?_insert, if_pos ReflCmp.compare_self]

/-- Lookup of another key after an insertion. -/
lemma ExtTreeMap.getElem?_insert_ne (m : BTreeMap K V) (v : V) (h : k ≠ a) :
    (m.insert k v)[a]? = m[a]? := by
  rw [ExtTreeMap.getElem?_insert, if_neg]
  rwa [LawfulEqCmp.compare_eq_iff_eq]

/-- The bindings after an insertion are the new one and the old ones at the other keys. -/
lemma ExtTreeMap.toList_insert_perm (m : BTreeMap K V) (k : K) (v : V) :
    (m.insert k v).toList.Perm ((k, v) :: (m.erase k).toList) := by
  classical
  rw [List.perm_ext_iff_of_nodup (ExtTreeMap.toList_nodup _)]
  · rintro ⟨a, w⟩
    rw [List.mem_cons, ExtTreeMap.mem_toList_iff_getElem?_eq_some,
      ExtTreeMap.mem_toList_iff_getElem?_eq_some, ExtTreeMap.getElem?_erase,
      ExtTreeMap.getElem?_insert_iff]
    by_cases h : k = a
    · subst h
      simp [eq_comm]
    · simp [h, Ne.symm h]
  · refine List.nodup_cons.mpr ⟨fun h => ?_, ExtTreeMap.toList_nodup _⟩
    rw [ExtTreeMap.mem_toList_iff_getElem?_eq_some, ExtTreeMap.getElem?_erase] at h
    simp at h

/-- A map splits into one of its bindings and the bindings at the other keys. -/
lemma ExtTreeMap.toList_perm_cons_erase {m : BTreeMap K V} (h : m[k]? = some v) :
    m.toList.Perm ((k, v) :: (m.erase k).toList) := by
  classical
  have hs : m.insert k v = m := by
    refine ExtTreeMap.ext_getElem? fun a => ?_
    rw [ExtTreeMap.getElem?_insert_iff]
    split
    · next ha => rw [← ha, h]
    · rfl
  conv_lhs => rw [← hs]
  exact ExtTreeMap.toList_insert_perm m k v

end Maps

/-! ## Counting the values of a map -/

section Counting

variable {K V : Type} [Ord K] [TransOrd K] [LawfulEqOrd K] {m : BTreeMap K V} {v w : V}
  {p : V → Bool} {k : K}

/-- The number of values of a map that satisfy a predicate. -/
def ExtTreeMap.countVals (m : BTreeMap K V) (p : V → Bool) : ℕ :=
  m.vals.countP p

/-- The contribution of one value to a count. -/
def ExtTreeMap.tally (p : V → Bool) (v : V) : ℕ :=
  if p v then 1 else 0

@[simp] lemma ExtTreeMap.tally_of_true (h : p v = true) : ExtTreeMap.tally p v = 1 := by
  simp [tally, h]

@[simp] lemma ExtTreeMap.tally_of_false (h : p v = false) : ExtTreeMap.tally p v = 0 := by
  simp [tally, h]

/-- Nothing is counted in the empty map. -/
@[simp] lemma ExtTreeMap.countVals_empty (p : V → Bool) : (∅ : BTreeMap K V).countVals p = 0 := by
  simp [ExtTreeMap.countVals, ExtTreeMap.vals]

/-- A count after an insertion is the contribution of the new value plus the count at the other
keys. -/
lemma ExtTreeMap.countVals_insert (m : BTreeMap K V) (k : K) (v : V) (p : V → Bool) :
    (m.insert k v).countVals p = (m.erase k).countVals p + ExtTreeMap.tally p v := by
  unfold ExtTreeMap.countVals ExtTreeMap.vals
  rw [((ExtTreeMap.toList_insert_perm m k v).map Prod.snd).countP_eq, List.map_cons,
    List.countP_cons]
  rfl

/-- A count splits into the contribution of one binding and the count at the other keys. -/
lemma ExtTreeMap.countVals_split (h : m[k]? = some v)
    (p : V → Bool) : m.countVals p = (m.erase k).countVals p + ExtTreeMap.tally p v := by
  unfold ExtTreeMap.countVals ExtTreeMap.vals
  rw [((ExtTreeMap.toList_perm_cons_erase h).map Prod.snd).countP_eq, List.map_cons,
    List.countP_cons]
  rfl

/-- Replacing the value at a bound key moves a count by the difference of the contributions. -/
lemma ExtTreeMap.countVals_replace (h : m[k]? = some v) (p : V → Bool) :
    (m.insert k w).countVals p + ExtTreeMap.tally p v = m.countVals p + ExtTreeMap.tally p w := by
  rw [ExtTreeMap.countVals_insert, ExtTreeMap.countVals_split h]
  omega

/-- Binding a fresh key adds the contribution of its value. -/
lemma ExtTreeMap.countVals_insert_fresh (h : m[k]? = none) (v : V)
    (p : V → Bool) : (m.insert k v).countVals p = m.countVals p + ExtTreeMap.tally p v := by
  have he : m.erase k = m := by
    refine ExtTreeMap.ext_getElem? fun a => ?_
    rw [ExtTreeMap.getElem?_erase]
    split
    · next ha => rw [← LawfulEqCmp.compare_eq_iff_eq.mp ha, h]
    · rfl
  rw [ExtTreeMap.countVals_insert, he]

/-- Mapping the values leaves a count alone when it leaves every contribution alone. -/
lemma ExtTreeMap.countVals_map {f : K → V → V}
    (h : ∀ (k : K) (v : V), m[k]? = some v → p (f k v) = p v) :
    (ExtTreeMap.map f m).countVals p = m.countVals p := by
  unfold ExtTreeMap.countVals ExtTreeMap.vals
  rw [ExtTreeMap.toList_map, List.map_map, List.countP_map, List.countP_map]
  refine List.countP_congr fun x hx => ?_
  have hb := ExtTreeMap.mem_toList_iff_getElem?_eq_some.mp (show (x.1, x.2) ∈ m.toList from hx)
  simp [h x.1 x.2 hb]

end Counting

/-! ## Sets of keys -/

section Sets

variable {K : Type} [Ord K] [TransOrd K] [LawfulEqOrd K] {a k : K} {s : BTreeSet K}
  {l : List K} {p : K → Bool}

/-- A check of every element reads as a statement about membership. -/
lemma ExtTreeSet.toList_all_iff : s.toList.all p = true ↔ ∀ k ∈ s, p k = true := by
  simp only [List.all_eq_true, ExtTreeSet.mem_toList]

/-- A search among the elements finds nothing exactly when no element matches. -/
lemma ExtTreeSet.toList_any_eq_false_iff : s.toList.any p = false ↔ ∀ k ∈ s, p k = false := by
  simp only [List.any_eq_false, ExtTreeSet.mem_toList, Bool.not_eq_true]

/-- Membership after an insertion, with the comparison resolved to equality. -/
lemma ExtTreeSet.mem_insert_iff : a ∈ s.insert k ↔ a = k ∨ a ∈ s := by
  rw [ExtTreeSet.mem_insert, LawfulEqCmp.compare_eq_iff_eq, eq_comm]

/-- Membership after a removal, with the comparison resolved to equality. -/
lemma ExtTreeSet.mem_erase_iff : a ∈ s.erase k ↔ a ≠ k ∧ a ∈ s := by
  rw [ExtTreeSet.mem_erase, ne_eq, LawfulEqCmp.compare_eq_iff_eq, ne_eq, eq_comm]

lemma ExtTreeSet.nodup_toList (s : BTreeSet K) : s.toList.Nodup := by
  refine (ExtTreeSet.distinct_toList (t := s)).imp ?_
  rintro a b hab rfl
  exact hab ReflCmp.compare_self

/-- A set whose elements are all listed has at most as many elements as the list. -/
lemma ExtTreeSet.size_le_length_of_subset (h : ∀ k ∈ s, k ∈ l) : s.size ≤ l.length := by
  classical
  have hsub : s.toList.toFinset ⊆ l.toFinset := by
    intro k hk
    rw [List.mem_toFinset] at hk ⊢
    exact h k (ExtTreeSet.mem_toList.mp hk)
  calc s.size = s.toList.toFinset.card := by
        rw [List.toFinset_card_of_nodup s.nodup_toList, ExtTreeSet.length_toList]
    _ ≤ l.toFinset.card := Finset.card_le_card hsub
    _ ≤ l.length := List.toFinset_card_le l

/-- A list whose set has as many elements as the list has no duplicates. -/
lemma ExtTreeSet.nodup_of_size_ofList
    (h : (ExtTreeSet.ofList l : BTreeSet K).size = l.length) : l.Nodup := by
  classical
  have hsub : ∀ k ∈ (ExtTreeSet.ofList l : BTreeSet K), k ∈ l.dedup := by
    intro k hk
    rw [List.mem_dedup]
    rw [ExtTreeSet.mem_ofList, List.contains_iff_mem] at hk
    exact hk
  have hsi : l.length ≤ l.dedup.length := h ▸ ExtTreeSet.size_le_length_of_subset hsub
  have hs : l.dedup = l := (List.dedup_sublist l).eq_of_length_le hsi
  exact List.dedup_eq_self.mp hs

end Sets

end Std
