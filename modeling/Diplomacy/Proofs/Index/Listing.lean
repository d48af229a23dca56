import Diplomacy.Index
import Diplomacy.Proofs.Repository.Memory

/-!
The listing of an index. Order is not stored but recovered by sorting on
positions, so a listing is pinned down by two facts: its positions ascend, and
it holds exactly the entries of the table. Every operation is read off as what
it does to the listed records: a new identifier goes to the end, a replacement
stays in place, and a removal keeps the order of the rest. So the index takes a
commit that is not out of date as a repository in memory does, and loading keeps
the last record of each identifier.
-/

namespace Diplomacy.Index

variable {index : Index} {record : Relationship} {id : RelationshipId} {entry : Entry}

/-! ## Entries in order -/

/-- The entries in first-recorded order. -/
def listing (index : Index) : List Entry :=
  (index.entries.toList.map (·.2)).mergeSort fun left right => left.position ≤ right.position

theorem toList_eq_map_listing (index : Index) :
    index.toList = index.listing.map (·.record) := rfl

theorem mem_listing : entry ∈ index.listing ↔ index.entries[entry.record.id]? = some entry := by
  rw [listing, List.mem_mergeSort, List.mem_map]
  constructor
  · rintro ⟨⟨id, other⟩, member, rfl⟩
    have found := Std.HashMap.mem_toList_iff_getElem?_eq_some.mp member
    exact index.id_eq id other found ▸ found
  · intro found
    exact ⟨(entry.record.id, entry), Std.HashMap.mem_toList_iff_getElem?_eq_some.mpr found, rfl⟩

/-- No entry of the table is listed twice, since the keys of the table differ. -/
theorem positions_distinct (index : Index) :
    (index.entries.toList.map (·.2)).Pairwise fun left right =>
      left.position ≠ right.position := by
  rw [List.pairwise_map]
  apply List.Pairwise.imp_of_mem _ Std.HashMap.distinct_keys_toList
  intro ⟨left, leftEntry⟩ ⟨right, rightEntry⟩ leftMember rightMember different equal
  have same := index.position_injective left right leftEntry rightEntry
    (Std.HashMap.mem_toList_iff_getElem?_eq_some.mp leftMember)
    (Std.HashMap.mem_toList_iff_getElem?_eq_some.mp rightMember) equal
  simp [same] at different

/-- Sorting the entries of the table in any way puts no two at one position. -/
theorem ascending_of_sorted {entries : List Entry}
    (permuted : entries.Perm (index.entries.toList.map (·.2)))
    (sorted : entries.Pairwise fun left right => left.position ≤ right.position) :
    entries.Pairwise fun left right => left.position < right.position := by
  have distinct : entries.Pairwise fun left right => left.position ≠ right.position :=
    (permuted.pairwise_iff fun different => different.symm).mpr index.positions_distinct
  apply (sorted.and distinct).imp
  intro left right ⟨ordered, different⟩
  exact Nat.lt_of_le_of_ne ordered different

theorem listing_ascending (index : Index) :
    index.listing.Pairwise fun left right => left.position < right.position := by
  apply ascending_of_sorted (List.mergeSort_perm _ _)
  apply (List.pairwise_mergeSort _ _ _).imp
  · intro left right ordered
    exact of_decide_eq_true ordered
  · intro first second third lower upper
    exact decide_eq_true (Nat.le_trans (of_decide_eq_true lower) (of_decide_eq_true upper))
  · intro left right
    simpa using Nat.le_total left.position right.position

/-- A list of entries at ascending positions that holds what the table holds is
the listing. -/
theorem listing_eq_of_ascending {entries : List Entry}
    (ascending : entries.Pairwise fun left right => left.position < right.position)
    (members : ∀ entry, entry ∈ entries ↔ index.entries[entry.record.id]? = some entry) :
    index.listing = entries := by
  have nodup {list : List Entry}
      (rising : list.Pairwise fun left right => left.position < right.position) :
      list.Nodup := by
    apply rising.imp
    rintro left right ordered rfl
    exact Nat.lt_irrefl _ ordered
  apply List.Perm.eq_of_pairwise _ index.listing_ascending ascending
  · rw [List.perm_ext_iff_of_nodup (nodup index.listing_ascending) (nodup ascending)]
    intro entry
    rw [mem_listing, members]
  · intro left right _ _ lower upper
    exact absurd (Nat.lt_trans lower upper) (Nat.lt_irrefl _)

/-- In whichever order the table iterates, and however its entries are sorted by
position, the outcome is the listing. -/
theorem eq_listing_of_sorted {entries : List Entry}
    (permuted : entries.Perm (index.entries.toList.map (·.2)))
    (sorted : entries.Pairwise fun left right => left.position ≤ right.position) :
    entries = index.listing := by
  refine (listing_eq_of_ascending (ascending_of_sorted permuted sorted) fun entry => ?_).symm
  rw [← mem_listing, listing, List.mem_mergeSort, permuted.mem_iff]

/-! ## Listed records -/

theorem get?_eq_some_iff :
    index.get? id = some record ↔ record ∈ index.toList ∧ record.id = id := by
  simp only [get?, toList_eq_map_listing, Option.map_eq_some_iff, List.mem_map, mem_listing]
  constructor
  · rintro ⟨entry, found, rfl⟩
    have own := index.id_eq id entry found
    exact ⟨⟨entry, own ▸ found, rfl⟩, own⟩
  · rintro ⟨⟨entry, found, rfl⟩, rfl⟩
    exact ⟨entry, found, rfl⟩

theorem get?_eq_none_iff : index.get? id = none ↔ ∀ record ∈ index.toList, record.id ≠ id := by
  rw [Option.eq_none_iff_forall_ne_some]
  constructor
  · intro absent record member own
    exact absent record (get?_eq_some_iff.mpr ⟨member, own⟩)
  · intro absent record found
    have ⟨member, own⟩ := get?_eq_some_iff.mp found
    exact absent record member own

/-- Every identifier is listed once. -/
theorem nodup_ids (index : Index) : (index.toList.map (·.id)).Nodup := by
  rw [toList_eq_map_listing, List.map_map, List.Nodup, List.pairwise_map]
  apply List.Pairwise.imp_of_mem _ index.listing_ascending
  intro left right leftMember rightMember ordered equal
  have leftFound := mem_listing.mp leftMember
  have rightFound := mem_listing.mp rightMember
  rw [show left.record.id = right.record.id from equal, rightFound] at leftFound
  rw [Option.some.inj leftFound] at ordered
  exact Nat.lt_irrefl _ ordered

/-- Looking an identifier up is looking through the list. -/
theorem find?_toList (index : Index) (id : RelationshipId) :
    index.toList.find? (·.id = id) = index.get? id := by
  apply Option.ext
  intro record
  exact (MemoryRepository.find?_eq_some_iff index.nodup_ids).trans get?_eq_some_iff.symm

/-! ## Operations -/

@[simp] theorem toList_empty : empty.toList = [] := by
  simp [toList, empty]

/-- Recording an identifier puts its record at the end, and drops what was
recorded under it before. -/
theorem toList_append (index : Index) (record : Relationship) :
    (index.append record).toList = index.toList.filter (·.id ≠ record.id) ++ [record] := by
  have entries : (index.append record).listing =
      index.listing.filter (·.record.id ≠ record.id) ++ [⟨index.nextPosition, record⟩] := by
    apply listing_eq_of_ascending
    · rw [List.pairwise_append]
      refine ⟨index.listing_ascending.filter _, List.pairwise_singleton _ _, ?_⟩
      intro left leftMember right rightMember
      rw [List.mem_singleton.mp rightMember]
      exact index.position_lt _ left (mem_listing.mp (List.mem_filter.mp leftMember).1)
    · intro entry
      simp only [List.mem_append, List.mem_filter, mem_listing, List.mem_singleton, append]
      grind
  rw [toList_eq_map_listing, toList_eq_map_listing, entries, List.map_append, List.filter_map]
  rfl

/-- A replacement takes the place of the record it replaces. -/
theorem toList_replace (found : index.entries[record.id]? = some entry) :
    (index.replace record entry found).toList =
      index.toList.map fun other => if other.id = record.id then record else other := by
  have entries : (index.replace record entry found).listing =
      index.listing.map fun other =>
        if other.record.id = record.id then { other with record } else other := by
    apply listing_eq_of_ascending
    · rw [List.pairwise_map]
      apply index.listing_ascending.imp
      intro left right ordered
      split <;> split <;> exact ordered
    · intro other
      have own := index.id_eq record.id entry found
      simp only [List.mem_map, mem_listing, replace, Std.HashMap.getElem?_insert]
      grind
  rw [toList_eq_map_listing, toList_eq_map_listing, entries, List.map_map, List.map_map]
  apply List.map_congr_left
  intro other _
  simp only [Function.comp]
  split <;> rfl

/-- A removal takes out the record of its identifier and nothing else. -/
theorem toList_remove (index : Index) (id : RelationshipId) :
    (index.remove id).2.toList = index.toList.filter (·.id ≠ id) := by
  have entries : (index.remove id).2.listing = index.listing.filter (·.record.id ≠ id) := by
    apply listing_eq_of_ascending
    · exact index.listing_ascending.filter _
    · intro entry
      simp only [List.mem_filter, mem_listing, remove]
      grind
  rw [toList_eq_map_listing, toList_eq_map_listing, entries, List.filter_map]
  rfl

/-- A commit that is not older than the indexed record is installed where a
repository in memory would place it. -/
theorem toList_applyCommitted
    (current : ∀ old, index.get? record.id = some old →
      old.version.value ≤ record.version.value) :
    (index.applyCommitted record).1 = true ∧
      (index.applyCommitted record).2.toList = MemoryRepository.place record index.toList := by
  unfold applyCommitted
  split
  · next entry found =>
      have indexed : index.get? record.id = some entry.record := by rw [get?, found]; rfl
      have ⟨member, own⟩ := get?_eq_some_iff.mp indexed
      rw [if_neg (Nat.not_lt.mpr (current _ indexed)),
        MemoryRepository.place_of_mem index.nodup_ids member own]
      exact ⟨rfl, toList_replace found⟩
  · next missing =>
      have unknown : index.get? record.id = none := by rw [get?, missing]; rfl
      have absent := get?_eq_none_iff.mp unknown
      rw [MemoryRepository.place_of_absent absent, toList_append,
        List.filter_eq_self.mpr fun other member => decide_eq_true (absent other member)]
      exact ⟨rfl, rfl⟩

theorem get?_remove (index : Index) (id other : RelationshipId) :
    (index.remove id).2.get? other = if other = id then none else index.get? other := by
  simp only [get?, remove, Std.HashMap.getElem?_erase]
  grind

/-- An index that lists a record where a repository in memory would place it
differs from the one before in that record only. -/
theorem get?_of_placed {after : Index}
    (listed : after.toList = MemoryRepository.place record index.toList) (id : RelationshipId) :
    after.get? id = if record.id = id then some record else index.get? id := by
  rw [← find?_toList, listed, MemoryRepository.find?_place, find?_toList]

/-- A commit older than the indexed record is ignored. -/
theorem applyCommitted_of_lt {old : Relationship} (indexed : index.get? record.id = some old)
    (late : record.version.value < old.version.value) :
    index.applyCommitted record = (false, index) := by
  unfold applyCommitted
  split
  · next entry found =>
      rw [get?, found] at indexed
      cases indexed
      rw [if_pos late]
  · next missing =>
      rw [get?, missing] at indexed
      cases indexed

/-- A commit is ignored if a newer record is indexed, and placed if none is. -/
theorem applyCommitted_cases (index : Index) (record : Relationship) :
    (∃ newer, index.get? record.id = some newer ∧ record.version.value < newer.version.value ∧
        index.applyCommitted record = (false, index)) ∨
      (∀ old, index.get? record.id = some old → old.version.value ≤ record.version.value) ∧
        (index.applyCommitted record).1 = true ∧
        (index.applyCommitted record).2.toList = MemoryRepository.place record index.toList := by
  by_cases late : ∃ newer, index.get? record.id = some newer ∧
      record.version.value < newer.version.value
  · rcases late with ⟨newer, indexed, late⟩
    exact .inl ⟨newer, indexed, late, applyCommitted_of_lt indexed late⟩
  · have current : ∀ old, index.get? record.id = some old →
        old.version.value ≤ record.version.value :=
      fun old indexed => Nat.le_of_not_lt fun older => late ⟨old, indexed, older⟩
    exact .inr ⟨current, toList_applyCommitted current⟩

/-- The index after several commits. -/
def commitAll (index : Index) (records : List Relationship) : Index :=
  records.foldl (fun index record => (index.applyCommitted record).2) index

/-- Committing records under new identifiers lists them after the others. -/
theorem toList_commitAll {records : List Relationship}
    (distinct : ((index.toList ++ records).map (·.id)).Nodup) :
    (index.commitAll records).toList = index.toList ++ records := by
  induction records generalizing index with
  | nil => exact (List.append_nil _).symm
  | cons record records induction =>
      have absent : ∀ other ∈ index.toList, other.id ≠ record.id := by
        intro other member
        rw [List.map_append, List.nodup_append] at distinct
        exact distinct.2.2 other.id (List.mem_map_of_mem member) record.id
          (List.mem_map_of_mem List.mem_cons_self)
      have unknown := get?_eq_none_iff.mpr absent
      have committed : (index.applyCommitted record).2.toList = index.toList ++ [record] := by
        rw [← MemoryRepository.place_of_absent absent]
        refine (toList_applyCommitted fun old found => ?_).2
        cases unknown.symm.trans found
      rw [commitAll, List.foldl_cons]
      change ((index.applyCommitted record).2.commitAll records).toList = _
      rw [induction (by rwa [committed, List.append_assoc]), committed, List.append_assoc]
      rfl

/-! ## Loading -/

/-- Of several records with one identifier only the last one, where it stands. -/
def latest : List Relationship → List Relationship
  | [] => []
  | record :: records =>
      if record.id ∈ records.map (·.id) then latest records else record :: latest records

theorem latest_of_distinct {records : List Relationship}
    (distinct : (records.map (·.id)).Nodup) : latest records = records := by
  induction records with
  | nil => rfl
  | cons record records induction =>
      rcases List.nodup_cons.mp distinct with ⟨fresh, rest⟩
      rw [latest, if_neg fresh, induction rest]

/-- Recording more records drops what was recorded under their identifiers before. -/
theorem toList_foldl_append (records : List Relationship) (index : Index) :
    (records.foldl append index).toList =
      index.toList.filter (·.id ∉ records.map (·.id)) ++ latest records := by
  induction records generalizing index with
  | nil =>
      have kept : index.toList.filter (·.id ∉ ([] : List Relationship).map (·.id)) =
          index.toList := List.filter_eq_self.mpr fun _ _ => decide_eq_true List.not_mem_nil
      rw [kept]
      exact (List.append_nil _).symm
  | cons record records induction =>
      have earlier : (index.toList.filter (·.id ≠ record.id)).filter
          (·.id ∉ records.map (·.id)) =
            index.toList.filter (·.id ∉ (record :: records).map (·.id)) := by
        rw [List.filter_filter]
        refine List.filter_congr fun other _ => ?_
        rw [Bool.eq_iff_iff]
        simp only [Bool.and_eq_true, decide_eq_true_eq, List.map_cons, List.mem_cons, not_or]
        exact and_comm
      rw [List.foldl_cons, induction, toList_append, List.filter_append, earlier,
        List.append_assoc, latest]
      by_cases again : record.id ∈ records.map (·.id)
      · have dropped : decide (record.id ∉ records.map (·.id)) = false :=
          decide_eq_false (not_not_intro again)
        rw [if_pos again, List.filter_cons, dropped]
        rfl
      · have kept : decide (record.id ∉ records.map (·.id)) = true := decide_eq_true again
        rw [if_neg again, List.filter_cons, kept]
        rfl

theorem toList_ofRecords_eq_latest (records : List Relationship) :
    (ofRecords records).toList = latest records := by
  rw [ofRecords, toList_foldl_append, toList_empty, List.filter_nil, List.nil_append]

/-- Loading records with distinct identifiers lists them as they are. -/
theorem toList_ofRecords {records : List Relationship}
    (distinct : (records.map (·.id)).Nodup) : (ofRecords records).toList = records :=
  (toList_ofRecords_eq_latest records).trans (latest_of_distinct distinct)

end Diplomacy.Index
