import Hartevo.Foundation.BTree
import Hartevo.Foundation.Keyed

/-!
# Tables of records by their identifiers

A list of records is made into a table from which a record is read by its identifier.  When two
records have the same identifier the table keeps the later one, and has fewer entries than there are
records.

`indexBy` is the table, and `mem_indexBy` says which identifiers it has.  `latestBy` keeps of
several records with one key the one that is newer than the others.  The lemmas about sets of
identifiers read the comparison of two such sets as a statement about their elements.
-/

namespace Hartevo

open List

/-- Two lexicographic keys compare as equal only if they are the same. -/
instance lexLawfulEqOrd {A B : Type} [LinearOrder A] [LinearOrder B] :
    Std.LawfulEqOrd (A ×ₗ B) where
  eq_of_compare h := compare_eq_iff_eq.mp h

open Std

variable {K α : Type} [Ord K] [TransOrd K] {k : K} {records : List α} {record : α}

/-- The records by their identifiers. -/
def indexBy (id : α → K) (records : List α) : BTreeMap K α :=
  records.foldl (fun index record => index.insert (id record) record) ∅

lemma indexBy_concat (id : α → K) (records : List α) (record : α) :
    indexBy id (records ++ [record]) = (indexBy id records).insert (id record) record := by
  simp [indexBy]

variable [LawfulEqOrd K]

/-- A record of the table is one of the list, under its own identifier. -/
lemma mem_of_getElem?_indexBy {id : α → K} (h : (indexBy id records)[k]? = some record) :
    record ∈ records ∧ id record = k := by
  classical
  induction records using List.reverseRecOn with
  | nil => simp [indexBy] at h
  | append_singleton records other ih =>
    rw [indexBy_concat, ExtTreeMap.getElem?_insert_iff] at h
    split at h
    · next hid =>
      obtain rfl := Option.some.inj h
      exact ⟨mem_append_right _ (mem_singleton_self _), hid⟩
    · obtain ⟨hmem, hid⟩ := ih h
      exact ⟨mem_append_left _ hmem, hid⟩

/-- The identifiers of the table are those of the records. -/
lemma mem_indexBy {id : α → K} : k ∈ indexBy id records ↔ ∃ record ∈ records, id record = k := by
  constructor
  · intro hmem
    obtain ⟨record, hrec⟩ :=
      Option.isSome_iff_exists.mp (ExtTreeMap.mem_iff_isSome_getElem?.mp hmem)
    exact ⟨record, mem_of_getElem?_indexBy hrec⟩
  · rintro ⟨record, hmem, rfl⟩
    induction records using List.reverseRecOn with
    | nil => cases hmem
    | append_singleton records other ih =>
      rw [indexBy_concat, ExtTreeMap.mem_insert, LawfulEqCmp.compare_eq_iff_eq]
      rcases mem_append.mp hmem with hold | hnew
      · exact .inr (ih hold)
      · rw [mem_singleton.mp hnew]
        exact .inl rfl

/-- A table with an entry for every record has them under different identifiers. -/
lemma nodup_of_size_indexBy {id : α → K} (h : (indexBy id records).size = records.length) :
    (records.map id).Nodup := by
  classical
  have hs (records : List α) : (indexBy id records).size ≤ records.length := by
    induction records using List.reverseRecOn with
    | nil => simp [indexBy]
    | append_singleton records record ih =>
      rw [indexBy_concat, ExtTreeMap.size_insert, length_append, length_singleton]
      split <;> omega
  induction records using List.reverseRecOn with
  | nil => exact nodup_nil
  | append_singleton records record ih =>
    rw [indexBy_concat, ExtTreeMap.size_insert, length_append, length_singleton] at h
    have hb := hs records
    split at h
    · omega
    · next hf =>
      refine nodup_map_concat (ih (by omega)) fun other ho heq => hf ?_
      exact mem_indexBy.mpr ⟨other, ho, heq⟩

/-! ## The newest records -/

/-- The newest record of every key; of two that are equally new the earlier one is kept. -/
def latestBy (key : α → K) (newer : α → α → Bool) (records : List α) : BTreeMap K α :=
  records.foldl (fun latest record =>
    if latest[key record]?.all (newer record) then latest.insert (key record) record else latest) ∅

omit [LawfulEqOrd K] in
lemma latestBy_concat (key : α → K) (newer : α → α → Bool) (records : List α) (record : α) :
    latestBy key newer (records ++ [record]) =
      if (latestBy key newer records)[key record]?.all (newer record) then
        (latestBy key newer records).insert (key record) record
      else latestBy key newer records := by
  rw [latestBy, foldl_append]
  rfl

/-- A record that is kept is one of the list, under its own key. -/
lemma mem_of_getElem?_latestBy {key : α → K} {newer : α → α → Bool}
    (h : (latestBy key newer records)[k]? = some record) : record ∈ records ∧ key record = k := by
  classical
  induction records using List.reverseRecOn with
  | nil => simp [latestBy] at h
  | append_singleton records other ih =>
    have hold (hk : (latestBy key newer records)[k]? = some record) :
        record ∈ records ++ [other] ∧ key record = k :=
      ⟨mem_append_left _ (ih hk).1, (ih hk).2⟩
    rw [latestBy_concat] at h
    split at h
    · rw [ExtTreeMap.getElem?_insert_iff] at h
      split at h
      · next hkey =>
        obtain rfl := Option.some.inj h
        exact ⟨mem_append_right _ (mem_singleton_self _), hkey⟩
      · exact hold h
    · exact hold h

/-- A change of the records that touches neither keys nor their order in time can be made before or
after the newest ones are taken. -/
lemma latestBy_map {key : α → K} {newer : α → α → Bool} {f : α → α}
    (hkey : ∀ a, key (f a) = key a) (hn : ∀ a b, newer (f a) (f b) = newer a b) (records : List α) :
    latestBy key newer (records.map f) = (latestBy key newer records).map fun _ => f := by
  classical
  induction records using List.reverseRecOn with
  | nil =>
    refine ExtTreeMap.ext_getElem? fun k => ?_
    simp [latestBy]
  | append_singleton records record ih =>
    have hl : (latestBy key newer (records.map f))[key record]?.all (newer (f record)) =
        (latestBy key newer records)[key record]?.all (newer record) := by
      rw [ih, ExtTreeMap.getElem?_map]
      rcases (latestBy key newer records)[key record]? with _ | current
      · rfl
      · exact hn record current
    rw [map_append, map_singleton, latestBy_concat, latestBy_concat, hkey, hl]
    split
    · refine ExtTreeMap.ext_getElem? fun k => ?_
      rw [ExtTreeMap.getElem?_insert_iff, ExtTreeMap.getElem?_map, ExtTreeMap.getElem?_insert_iff,
        ih, ExtTreeMap.getElem?_map]
      split
      · rfl
      · rfl
    · exact ih

/-! ## Sets of identifiers -/

omit [LawfulEqOrd K] in
lemma contains_eq_false_iff {index : BTreeMap K α} : index.contains k = false ↔ k ∉ index := by
  rw [← ExtTreeMap.contains_iff_mem, Bool.not_eq_true]

lemma mem_ofList {ids : List K} : k ∈ (ExtTreeSet.ofList ids : BTreeSet K) ↔ k ∈ ids := by
  classical
  rw [ExtTreeSet.mem_ofList, contains_iff_mem]

/-- The identifiers of a table, as a set. -/
def keySet (index : BTreeMap K α) : BTreeSet K :=
  .ofList index.keys

lemma mem_keySet {index : BTreeMap K α} : k ∈ keySet index ↔ k ∈ index := by
  rw [keySet, mem_ofList, ExtTreeMap.mem_keys]

/-- Two sets are the same if they have the same elements. -/
lemma treeSet_eq_iff {s t : BTreeSet K} : s = t ↔ ∀ k, k ∈ s ↔ k ∈ t :=
  ⟨fun h k => by rw [h], ExtTreeSet.ext_mem⟩

/-- A table whose identifiers are some of those of another one, but not all, is smaller. -/
lemma size_lt_of_keys {β : Type} {m : BTreeMap K α} {m' : BTreeMap K β}
    (hsub : ∀ k, k ∈ m → k ∈ m') (hk : k ∈ m') (hnew : k ∉ m) : m.size < m'.size := by
  classical
  have hn : (k :: m.keys).Nodup := by
    refine nodup_cons.mpr ⟨fun hmem => hnew (ExtTreeMap.mem_keys.mp hmem), ?_⟩
    exact ExtTreeMap.nodup_keys
  have hs : k :: m.keys ⊆ m'.keys := by
    intro a ha
    rcases mem_cons.mp ha with rfl | hold
    · exact ExtTreeMap.mem_keys.mpr hk
    · exact ExtTreeMap.mem_keys.mpr (hsub a (ExtTreeMap.mem_keys.mp hold))
  have hl := (subperm_of_subset hn hs).length_le
  rw [length_cons, ExtTreeMap.length_keys, ExtTreeMap.length_keys] at hl
  exact hl

end Hartevo
