import Mathlib.Data.List.Nodup
import Diplomacy.Proofs.Repository.Memory
import Diplomacy.Proofs.Repository.Revision
import Diplomacy.Proofs.Repository.Row
import Diplomacy.Repository.Table

/-!
Tables whose rows all read as records. Looking for the row of an identifier
finds the row of the record with that identifier, and the three ways in which a
write changes the rows are matched by the same change of the records.
-/

namespace Diplomacy.TableRepository

variable {table : TableRepository} {rows : List Row} {records : List Relationship}
  {record committed : Relationship} {id : RelationshipId} {row : Row}

/-- Each row reads as the record at its place. -/
def Reads (rows : List Row) (records : List Relationship) : Prop :=
  List.Forall₂ (fun row record => row.toRelationship = .ok record) rows records

/-- A table can be listed exactly if every row reads. -/
theorem listAll_eq_ok_iff : table.listAll = .ok records ↔ Reads table.rows records :=
  mapError_eq_ok_iff.trans mapM_eq_ok_iff

theorem isRowOf_eq_true_iff : isRowOf id row = true ↔ row.id = Row.key id := by
  rw [isRowOf, decide_eq_true_iff]

theorem isRowOf_iff (read : row.toRelationship = .ok record) :
    isRowOf id row = true ↔ record.id = id :=
  isRowOf_eq_true_iff.trans (Row.id_eq_key_iff read)

/-- The row of an identifier and the record of that identifier stand at the same
place, or neither is there. -/
theorem find?_isRowOf (reads : Reads rows records) (id : RelationshipId) :
    Option.Rel (fun row record => row.toRelationship = .ok record)
      (rows.find? (isRowOf id)) (records.find? (·.id = id)) := by
  induction reads with
  | nil => exact .none
  | @cons row record _ _ read _ induction =>
      by_cases same : record.id = id
      · rw [List.find?_cons_of_pos ((isRowOf_iff read).mpr same),
          List.find?_cons_of_pos (by simp [same])]
        exact .some read
      · rw [List.find?_cons_of_neg (mt (isRowOf_iff read).mp same),
          List.find?_cons_of_neg (by simp [same])]
        exact induction

theorem find?_isRowOf_of_absent (reads : Reads rows records)
    (absent : records.find? (·.id = id) = none) : rows.find? (isRowOf id) = none := by
  have found := find?_isRowOf reads id
  rw [absent] at found
  cases row? : rows.find? (isRowOf id) with
  | none => rfl
  | some row =>
      rw [row?] at found
      exact absurd found Option.not_rel_some_none

theorem find?_isRowOf_of_present (reads : Reads rows records)
    (present : records.find? (·.id = id) = some record) :
    ∃ row, rows.find? (isRowOf id) = some row ∧ row.toRelationship = .ok record := by
  have found := find?_isRowOf reads id
  rw [present] at found
  cases row? : rows.find? (isRowOf id) with
  | none =>
      rw [row?] at found
      exact absurd found Option.not_rel_none_some
  | some row =>
      rw [row?] at found
      cases found with
      | some read => exact ⟨row, rfl, read⟩

/-- Where no identifier has two rows, the records have distinct identifiers. -/
theorem distinct_of_reads (reads : Reads rows records)
    (distinct : rows.Pairwise fun left right =>
      ∀ id, isRowOf id left = true → isRowOf id right = false) :
    (records.map (·.id)).Nodup := by
  induction reads with
  | nil => exact .nil
  | @cons row record rows records read reads induction =>
      rw [List.pairwise_cons] at distinct
      rw [List.map_cons, List.nodup_cons]
      refine ⟨?_, induction distinct.2⟩
      intro again
      rcases List.mem_map.mp again with ⟨other, member, same⟩
      have listed : ∃ found, records.find? (·.id = record.id) = some found := by
        rw [← Option.isSome_iff_exists, List.find?_isSome]
        exact ⟨other, member, decide_eq_true same⟩
      rcases listed with ⟨found, present⟩
      rcases find?_isRowOf_of_present reads present with ⟨otherRow, located, _⟩
      have mine := (isRowOf_iff read).mpr rfl
      have theirs := distinct.1 otherRow (List.mem_of_find?_eq_some located) record.id mine
      exact absurd (List.find?_some located) (Bool.eq_false_iff.mp theirs)

theorem exists_record_of_mem (reads : Reads rows records) :
    ∀ row ∈ rows, ∃ record, row.toRelationship = .ok record := by
  induction reads with
  | nil => simp
  | cons read _ induction => exact List.forall_mem_cons.mpr ⟨⟨_, read⟩, induction⟩

theorem version_lt_of_reads (reads : Reads rows records) :
    ∀ record ∈ records, record.version.value < 0x8000_0000_0000_0000 := by
  induction reads with
  | nil => simp
  | cons read _ induction =>
      have version := (Row.toRelationship_eq_ok_iff.mp read).2.2.2.2
      exact List.forall_mem_cons.mpr ⟨Row.version_lt_of_readVersion version, induction⟩

theorem countP_isRowOf (reads : Reads rows records) (id : RelationshipId) :
    rows.countP (isRowOf id) = (records.map (·.id)).count id := by
  induction reads with
  | nil => rfl
  | @cons row record _ _ read _ induction =>
      rw [List.countP_cons, List.map_cons, List.count_cons, induction]
      by_cases mine : record.id = id
      · simp [(isRowOf_iff read).mpr mine, mine]
      · simp [mt (isRowOf_iff read).mp mine, mine]

/-- The row that is found for an identifier is the only one that has its key, and so
the only one that has its key and its version. -/
theorem countP_version (reads : Reads rows records) (distinct : (records.map (·.id)).Nodup)
    (found : rows.find? (isRowOf id) = some row) :
    rows.countP (fun other => isRowOf id other && other.version = row.version) = 1 := by
  apply Nat.le_antisymm
  · calc rows.countP (fun other => isRowOf id other && other.version = row.version)
        ≤ rows.countP (isRowOf id) := List.countP_mono_left (by simp +contextual)
      _ = (records.map (·.id)).count id := countP_isRowOf reads id
      _ ≤ 1 := List.nodup_iff_count_le_one.mp distinct id
  · refine List.countP_pos_iff.mpr ⟨row, List.mem_of_find?_eq_some found, ?_⟩
    simpa using List.find?_some found

theorem reads_append (reads : Reads rows records) (read : row.toRelationship = .ok record) :
    Reads (rows ++ [row]) (records ++ [record]) :=
  List.rel_append reads (.cons read .nil)

/-- Where no other row has the key of a row that is found, writing over it asks for
the key only. -/
theorem rewrite_eq_map {old : Row} (single : rows.countP (isRowOf id) ≤ 1)
    (found : rows.find? (isRowOf id) = some old) (row : Row) :
    rewrite id old.version row rows =
      rows.map fun other => if isRowOf id other then row else other := by
  have only : ∀ other ∈ rows, isRowOf id other = true → other = old := by
    induction rows with
    | nil => simp
    | cons head rows induction =>
        intro other member mine
        by_cases here : isRowOf id head = true
        · rw [List.find?_cons_of_pos here] at found
          rw [List.countP_cons_of_pos here, Nat.succ_le_succ_iff, Nat.le_zero,
            List.countP_eq_zero] at single
          rcases List.mem_cons.mp member with same | later
          · exact same.trans (Option.some.inj found)
          · exact absurd mine (single other later)
        · rw [List.find?_cons_of_neg here] at found
          rw [List.countP_cons_of_neg here] at single
          rcases List.mem_cons.mp member with rfl | later
          · exact absurd mine here
          · exact induction single found other later mine
  refine List.map_congr_left fun other member => ?_
  by_cases mine : isRowOf id other = true
  · have same := only other member mine
    simp [same]
  · simp [mine]

/-- Writing over the row of an identifier replaces its record. -/
theorem reads_rewrite {old : Row} (reads : Reads rows records)
    (distinct : (records.map (·.id)).Nodup) (found : rows.find? (isRowOf record.id) = some old)
    (read : row.toRelationship = .ok record) :
    Reads (rewrite record.id old.version row rows)
      (records.map fun other => if other.id = record.id then record else other) := by
  have single : rows.countP (isRowOf record.id) ≤ 1 := by
    rw [countP_isRowOf reads]
    exact List.nodup_iff_count_le_one.mp distinct record.id
  rw [rewrite_eq_map single found]
  clear found single distinct
  induction reads with
  | nil => exact .nil
  | @cons other _ _ _ otherRead _ induction =>
      refine .cons ?_ induction
      by_cases same : isRowOf record.id other = true
      · simpa only [if_pos same, if_pos ((isRowOf_iff otherRead).mp same)] using read
      · simpa only [if_neg same, if_neg (mt (isRowOf_iff otherRead).mpr same)] using otherRead

theorem reads_delete (reads : Reads rows records) (id : RelationshipId) :
    Reads (rows.filter fun row => !isRowOf id row) (records.filter (·.id ≠ id)) := by
  induction reads with
  | nil => exact .nil
  | @cons row _ _ _ read _ induction =>
      by_cases same : isRowOf id row = true
      · have equal := (isRowOf_iff read).mp same
        rw [List.filter_cons_of_neg (by simp [same]), List.filter_cons_of_neg (by simp [equal])]
        exact induction
      · have different := mt (isRowOf_iff read).mpr same
        rw [List.filter_cons_of_pos (by simp [same]), List.filter_cons_of_pos (by simp [different])]
        exact .cons read induction

/-- A version cell, if there is one, reads as a version. -/
abbrev Versioned : Option Cell → Option Version → Prop :=
  Option.Rel fun cell version => Row.readVersion cell = .ok version

/-- What is to be written depends on the stored version only, however its cell
is found. -/
theorem revision_eq (record : Relationship) {previous : Option Cell} {stored : Option Version}
    (agree : Versioned previous stored) :
    revision record previous = do
      let committed ← record.nextRevision stored
      let row ← (Row.ofRelationship committed).mapError Row.Fault.toRepositoryError
      return (committed, row) := by
  cases agree with
  | none => rfl
  | some read =>
      rw [revision, Row.readStoredVersion_eq_ok_iff.mpr read]
      rfl

section

variable {previous : Option Cell} {stored : Option Version} {error : RepositoryError}
  (agree : Versioned previous stored)

include agree

theorem revision_of_refused (refused : record.nextRevision stored = .error error) :
    revision record previous = .error error := by
  rw [revision_eq record agree, refused]
  rfl

theorem revision_of_written (accepted : record.nextRevision stored = .ok committed)
    (written : Row.ofRelationship committed = .ok row) :
    revision record previous = .ok (committed, row) := by
  rw [revision_eq record agree, accepted]
  simp only [bind, Except.bind, written]
  rfl

theorem revision_of_exceeds (accepted : record.nextRevision stored = .ok committed)
    (exceeds : 0x8000_0000_0000_0000 ≤ committed.version.value) :
    revision record previous =
      .error (Row.Fault.badContent (.versionRange committed.version)).toRepositoryError := by
  rw [revision_eq record agree, accepted]
  simp only [bind, Except.bind, Row.ofRelationship_eq_error exceeds]
  rfl

end

/-- The version cell found for an identifier reads as the version of its record. -/
theorem version_rowOf? (reads : Reads table.rows records) (id : RelationshipId) :
    Versioned ((table.rowOf? id).map (·.version))
      ((records.find? (·.id = id)).map (·.version)) := by
  have found := find?_isRowOf reads id
  rw [rowOf?]
  generalize table.rows.find? (isRowOf id) = row? at found
  generalize records.find? (·.id = id) = record? at found
  cases found with
  | none => exact .none
  | some read => exact .some (Row.toRelationship_eq_ok_iff.mp read).2.2.2.2

/-! ## Operations -/

theorem upsert_of_revision_eq_error {error : RepositoryError}
    (refused : revision record ((table.rowOf? record.id).map (·.version)) = .error error) :
    table.upsert record = (.error error, table) := by
  simp only [upsert, refused]

theorem upsert_of_error (reads : Reads table.rows records) {error : RepositoryError}
    (refused : record.nextRevision ((records.find? (·.id = record.id)).map (·.version))
      = .error error) :
    table.upsert record = (.error error, table) :=
  upsert_of_revision_eq_error (revision_of_refused (version_rowOf? reads record.id) refused)

theorem upsert_of_exceeds (reads : Reads table.rows records)
    (accepted : record.nextRevision ((records.find? (·.id = record.id)).map (·.version))
      = .ok committed)
    (exceeds : 0x8000_0000_0000_0000 ≤ committed.version.value) :
    table.upsert record =
      (.error (Row.Fault.badContent (.versionRange committed.version)).toRepositoryError,
        table) :=
  upsert_of_revision_eq_error
    (revision_of_exceeds (version_rowOf? reads record.id) accepted exceeds)

theorem upsert_of_fits (reads : Reads table.rows records)
    (distinct : (records.map (·.id)).Nodup)
    (accepted : record.nextRevision ((records.find? (·.id = record.id)).map (·.version))
      = .ok committed)
    (fits : committed.version.value < 0x8000_0000_0000_0000) :
    ∃ next, table.upsert record = (.ok committed, next) ∧
      Reads next.rows (MemoryRepository.place committed records) := by
  rcases Row.exists_ofRelationship_eq_ok fits with ⟨row, written, read⟩
  have revised := revision_of_written (version_rowOf? reads record.id) accepted written
  have advanced := (Relationship.nextRevision_eq_ok_iff.mp accepted).2
  have same : committed.id = record.id := by rw [(Relationship.eq_of_advance advanced).2]
  simp only [upsert, revised]
  refine ⟨_, rfl, ?_⟩
  rw [← same]
  cases stored : records.find? (·.id = committed.id) with
  | none =>
      have absent : ∀ other ∈ records, other.id ≠ committed.id := by simpa using stored
      rw [MemoryRepository.place_of_absent absent, rowOf?, find?_isRowOf_of_absent reads stored]
      exact reads_append reads read
  | some other =>
      rcases find?_isRowOf_of_present reads stored with ⟨previous, present, _⟩
      have ⟨member, own⟩ := (MemoryRepository.find?_eq_some_iff distinct).mp stored
      rw [MemoryRepository.place_of_mem distinct member own, rowOf?, present]
      exact reads_rewrite reads distinct present read

theorem delete_of_absent (reads : Reads table.rows records)
    (absent : records.find? (·.id = id) = none) :
    table.delete id = (.error (.notFound id), table) := by
  rw [delete, rowOf?, find?_isRowOf_of_absent reads absent]
  rfl

theorem delete_of_present (reads : Reads table.rows records)
    (present : records.find? (·.id = id) = some record) :
    ∃ next, table.delete id = (.ok (), next) ∧ Reads next.rows (records.filter (·.id ≠ id)) := by
  rcases find?_isRowOf_of_present reads present with ⟨row, found, _⟩
  rw [delete, rowOf?, found]
  exact ⟨_, rfl, reads_delete reads id⟩

end Diplomacy.TableRepository
