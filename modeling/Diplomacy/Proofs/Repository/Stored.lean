import Diplomacy.Proofs.Repository.Backend

/-!
What a repository stores for one identifier: nothing, a version, or a cell that
is not a version. This is all that the locking rule looks at, so it is told
here without asking that the repository can be listed. A write that is accepted
finds nothing or the submitted version, and leaves the next one; a refusal
leaves the state as it was; and neither a write nor a deletion touches what is
stored for another identifier.
-/

namespace Diplomacy

namespace MemoryRepository

variable {repository next : MemoryRepository} {record committed : Relationship}
  {id other : RelationshipId} {error : RepositoryError}

theorem upsert_eq_ok (accepted : repository.upsert record = (.ok committed, next)) :
    record.nextRevision ((repository.stored record.id).map (·.version)) = .ok committed ∧
      next.records = place committed repository.records := by
  rw [upsert] at accepted
  split at accepted
  · next revised =>
      cases accepted
      exact ⟨revised, rfl⟩
  · cases accepted

theorem stored_of_place (placed : next.records = place committed repository.records)
    (id : RelationshipId) :
    next.stored id = if committed.id = id then some committed else repository.stored id := by
  rw [stored, placed, find?_place]
  rfl

theorem state_of_upsert_error (refused : repository.upsert record = (.error error, next)) :
    next = repository := by
  rw [upsert] at refused
  split at refused
  · cases refused
  · cases refused
    rfl

theorem find?_eraseP (records : List Relationship) (differs : other ≠ id) :
    (records.eraseP (·.id = id)).find? (·.id = other) = records.find? (·.id = other) := by
  induction records with
  | nil => rfl
  | cons record records induction =>
      by_cases here : record.id = id
      · have elsewhere : record.id ≠ other := fun same => differs (same.symm.trans here)
        rw [List.eraseP_cons_of_pos (by simp [here]), List.find?_cons_of_neg (by simp [elsewhere])]
      · rw [List.eraseP_cons_of_neg (by simp [here]), List.find?_cons, List.find?_cons, induction]

theorem stored_delete (id : RelationshipId) (differs : other ≠ id) :
    (repository.delete id).2.stored other = repository.stored other := by
  rw [delete]
  split
  · exact find?_eraseP repository.records differs
  · rfl

theorem state_of_delete_error (refused : repository.delete id = (.error error, next)) :
    next = repository := by
  rw [delete] at refused
  split at refused
  · cases refused
  · cases refused
    rfl

end MemoryRepository

namespace TableRepository

variable {table next : TableRepository} {record committed : Relationship} {row : Row}
  {id other : RelationshipId} {error : RepositoryError}

theorem isRowOf_of_ne (mine : isRowOf id row = true) (differs : other ≠ id) :
    isRowOf other row = false := by
  rw [isRowOf_eq_true_iff] at mine
  rw [← Bool.not_eq_true, isRowOf_eq_true_iff, mine]
  intro same
  exact differs (Identifier.bytes_injective (Cell.blob.inj same)).symm

/-- Writing over the row of an identifier leaves the rows of the others alone. -/
theorem find?_rewrite_of_ne (rows : List Row) (version : Cell) (mine : isRowOf id row = true)
    (differs : other ≠ id) :
    (rewrite id version row rows).find? (isRowOf other) = rows.find? (isRowOf other) := by
  induction rows with
  | nil => rfl
  | cons old rows induction =>
      rw [rewrite, List.map_cons, ← rewrite]
      by_cases here : isRowOf id old = true
      · have untouched : isRowOf other
            (if isRowOf id old && old.version = version then row else old) = false := by
          split
          · exact isRowOf_of_ne mine differs
          · exact isRowOf_of_ne here differs
        rw [List.find?_cons_of_neg (Bool.eq_false_iff.mp untouched),
          List.find?_cons_of_neg (Bool.eq_false_iff.mp (isRowOf_of_ne here differs)), induction]
      · simp only [here, Bool.false_and, Bool.false_eq_true, if_false, List.find?_cons, induction]

theorem find?_rewrite_self {rows : List Row} {old : Row} (mine : isRowOf id row = true)
    (found : rows.find? (isRowOf id) = some old) :
    (rewrite id old.version row rows).find? (isRowOf id) = some row := by
  induction rows with
  | nil => cases found
  | cons head rows induction =>
      rw [rewrite, List.map_cons, ← rewrite]
      by_cases here : isRowOf id head = true
      · rw [List.find?_cons_of_pos here] at found
        cases found
        simp [here, mine]
      · rw [List.find?_cons_of_neg here] at found
        simp [here, induction found]

theorem find?_append_row (rows : List Row) (mine : isRowOf id row = true)
    (absent : rows.find? (isRowOf id) = none) (other : RelationshipId) :
    (rows ++ [row]).find? (isRowOf other) =
      if other = id then some row else rows.find? (isRowOf other) := by
  by_cases same : other = id
  · subst same
    simp [List.find?_append, absent, mine]
  · simp [List.find?_append, same, isRowOf_of_ne mine same]

theorem exists_of_revision {previous : Option Cell}
    (revised : revision record previous = .ok (committed, row)) :
    ∃ stored, Versioned previous stored ∧ record.nextRevision stored = .ok committed ∧
      row.toRelationship = .ok committed := by
  have written : ∀ stored, Versioned previous stored →
      record.nextRevision stored = .ok committed ∧ row.toRelationship = .ok committed := by
    intro stored agree
    rw [revision_eq record agree] at revised
    rcases bind_eq_ok_iff.mp revised with ⟨advanced, revision, rest⟩
    rcases bind_eq_ok_iff.mp rest with ⟨written, converted, equal⟩
    cases equal
    exact ⟨revision, Row.toRelationship_of_ofRelationship (mapError_eq_ok_iff.mp converted)⟩
  cases previous with
  | none => exact ⟨none, .none, written none .none⟩
  | some cell =>
      cases read : Row.readStoredVersion record.id cell with
      | error fault =>
          rw [revision, read] at revised
          cases revised
      | ok version =>
          have agree := Row.readStoredVersion_eq_ok_iff.mp read
          exact ⟨some version, .some agree, written (some version) (.some agree)⟩

/-- A write that is accepted leaves a row of the committed record, and the rows
of all other identifiers as they were. -/
theorem upsert_eq_ok (accepted : table.upsert record = (.ok committed, next)) :
    ∃ row stored, Versioned ((table.rowOf? record.id).map (·.version)) stored ∧
      record.nextRevision stored = .ok committed ∧ row.toRelationship = .ok committed ∧
      ∀ other, next.rowOf? other =
        if other = record.id then some row else table.rowOf? other := by
  rw [upsert] at accepted
  split at accepted
  · cases accepted
  · next committed row revised =>
      cases accepted
      rcases exists_of_revision revised with ⟨stored, agree, revision, read⟩
      refine ⟨row, stored, agree, revision, read, ?_⟩
      have mine : isRowOf record.id row = true := by
        have advanced := (Relationship.nextRevision_eq_ok_iff.mp revision).2
        rw [isRowOf_iff read, (Relationship.eq_of_advance advanced).2]
      intro other
      cases found : table.rows.find? (isRowOf record.id) with
      | none =>
          simp only [rowOf?, found]
          exact find?_append_row table.rows mine found other
      | some previous =>
          simp only [rowOf?, found]
          by_cases same : other = record.id
          · rw [if_pos same, same]
            exact find?_rewrite_self mine found
          · rw [if_neg same]
            exact find?_rewrite_of_ne table.rows previous.version mine same

theorem state_of_upsert_error (refused : table.upsert record = (.error error, next)) :
    next = table := by
  rw [upsert] at refused
  split at refused
  · cases refused
    rfl
  · cases refused

theorem rowOf?_delete (id : RelationshipId) (differs : other ≠ id) :
    (table.delete id).2.rowOf? other = table.rowOf? other := by
  rw [delete]
  split
  · simp only [rowOf?, List.find?_filter]
    congr 1
    funext row
    cases mine : isRowOf id row with
    | false => simp
    | true => simp [isRowOf_of_ne mine differs]
  · rfl

theorem state_of_delete_error (refused : table.delete id = (.error error, next)) :
    next = table := by
  rw [delete] at refused
  split at refused
  · cases refused
  · cases refused
    rfl

end TableRepository

namespace Backend

/-- What the locking rule finds for an identifier: nothing, the stored version,
or the fault of a cell that holds none. -/
def stored : {backend : Backend} → backend.State → RelationshipId →
    Option (Except RepositoryError Version)
  | .memory, repository, id => (repository.stored id).map fun record => .ok record.version
  | .table, state, id => (state.rowOf? id).map fun row =>
      (Row.readStoredVersion id row.version).mapError Row.Fault.toRepositoryError

theorem storedVersion_eq_ok_iff {id : RelationshipId} {cell : Cell} {version : Version} :
    (Row.readStoredVersion id cell).mapError Row.Fault.toRepositoryError = .ok version ↔
      Row.readVersion cell = .ok version :=
  mapError_eq_ok_iff.trans Row.readStoredVersion_eq_ok_iff

variable {backend : Backend} {state next : backend.State} {records : List Relationship}
  {record committed : Relationship} {id other : RelationshipId} {error : RepositoryError}
  {actual : Version}

/-- In a state that can be listed, the versions are those of the listed records. -/
theorem stored_eq_of_listAll (listed : Repository.listAll state = .ok records)
    (id : RelationshipId) :
    stored state id = (records.find? (·.id = id)).map fun record => .ok record.version := by
  cases backend with
  | memory =>
      cases listed
      rfl
  | table =>
      have found := TableRepository.find?_isRowOf
        (TableRepository.listAll_eq_ok_iff.mp listed) id
      rw [stored, TableRepository.rowOf?]
      generalize List.find? _ _ = row? at found
      generalize List.find? _ _ = record? at found
      cases found with
      | none => rfl
      | some read =>
          have version := (Row.toRelationship_eq_ok_iff.mp read).2.2.2.2
          exact congrArg some (storedVersion_eq_ok_iff.mpr version)

/-- What an accepted write finds and leaves. -/
structure Accepts (state : backend.State) (record committed : Relationship)
    (next : backend.State) : Prop where
  found : stored state record.id = none ∨ stored state record.id = some (.ok record.version)
  successor : committed.version.value = record.version.value + 1
  left : stored next record.id = some (.ok committed.version)
  others : ∀ other ≠ record.id, stored next other = stored state other

theorem accepts_of_upsert (accepted : Repository.upsert state record = (.ok committed, next)) :
    Accepts state record committed next := by
  cases backend with
  | memory =>
      rcases MemoryRepository.upsert_eq_ok accepted with ⟨revision, placed⟩
      rcases Relationship.nextRevision_eq_ok_iff.mp revision with ⟨agrees, advanced⟩
      rcases Relationship.eq_of_advance advanced with ⟨successor, kept⟩
      have same : committed.id = record.id := by rw [kept]
      have after := MemoryRepository.stored_of_place placed
      refine ⟨?_, successor, ?_, ?_⟩
      · cases found : MemoryRepository.stored state record.id with
        | none => exact .inl (congrArg (Option.map _) found)
        | some old =>
            have current : old.version = record.version := by
              apply agrees
              rw [found]
              rfl
            exact .inr (current ▸ congrArg (Option.map _) found)
      · rw [stored, after, if_pos same]
        rfl
      · intro other differs
        rw [stored, after, if_neg (same ▸ differs.symm)]
        rfl
  | table =>
      rcases TableRepository.upsert_eq_ok accepted with ⟨row, version, agree, revision, read, rows⟩
      rcases Relationship.nextRevision_eq_ok_iff.mp revision with ⟨agrees, advanced⟩
      have successor := (Relationship.eq_of_advance advanced).1
      refine ⟨?_, successor, ?_, ?_⟩
      · cases found : TableRepository.rowOf? state record.id with
        | none => exact .inl (congrArg (Option.map _) found)
        | some old =>
            rw [found] at agree
            cases agree with
            | @some _ version read =>
                rw [agrees version rfl] at read
                exact .inr ((congrArg (Option.map _) found).trans
                  (congrArg some (storedVersion_eq_ok_iff.mpr read)))
      · rw [stored, rows, if_pos rfl]
        have version := (Row.toRelationship_eq_ok_iff.mp read).2.2.2.2
        exact congrArg some (storedVersion_eq_ok_iff.mpr version)
      · intro other differs
        rw [stored, rows, if_neg differs]
        rfl

/-- A write that submits another version than the stored one is a conflict, and
changes nothing. -/
theorem upsert_of_other_version (found : stored state record.id = some (.ok actual))
    (differs : actual ≠ record.version) :
    Repository.upsert state record =
      (.error (.conflict record.id record.version actual), state) := by
  have refused := Relationship.nextRevision_of_mismatch differs
  cases backend with
  | memory =>
      rw [stored, Option.map_eq_some_iff] at found
      rcases found with ⟨old, here, version⟩
      cases version
      change MemoryRepository.upsert state record = _
      simp only [MemoryRepository.upsert, here, Option.map_some, refused]
  | table =>
      rw [stored, Option.map_eq_some_iff] at found
      rcases found with ⟨row, here, read⟩
      have agree := storedVersion_eq_ok_iff.mp read
      apply TableRepository.upsert_of_revision_eq_error
      rw [here]
      exact TableRepository.revision_of_refused (.some agree) refused

theorem state_of_upsert_error (refused : Repository.upsert state record = (.error error, next)) :
    next = state := by
  cases backend with
  | memory => exact MemoryRepository.state_of_upsert_error refused
  | table => exact TableRepository.state_of_upsert_error refused

theorem stored_upsert (state : backend.State) (differs : other ≠ record.id) :
    stored (Repository.upsert state record).2 other = stored state other := by
  cases attempt : Repository.upsert state record with
  | mk answer next =>
      cases answer with
      | error error => rw [state_of_upsert_error attempt]
      | ok committed => exact (accepts_of_upsert attempt).others other differs

/-- A write takes out nothing that is stored. -/
theorem stored_upsert_ne_none (record : Relationship) (present : stored state id ≠ none) :
    stored (Repository.upsert state record).2 id ≠ none := by
  by_cases same : id = record.id
  · subst same
    cases attempt : Repository.upsert state record with
    | mk answer next =>
        cases answer with
        | error error =>
            rw [state_of_upsert_error attempt]
            exact present
        | ok committed =>
            rw [(accepts_of_upsert attempt).left]
            exact Option.some_ne_none _
  · rw [stored_upsert state same]
    exact present

theorem stored_delete (state : backend.State) (differs : other ≠ id) :
    stored (Repository.delete state id).2 other = stored state other := by
  cases backend with
  | memory => exact congrArg (Option.map _) (MemoryRepository.stored_delete id differs)
  | table => exact congrArg (Option.map _) (TableRepository.rowOf?_delete id differs)

theorem delete_of_unstored (unstored : stored state id = none) :
    Repository.delete state id = (.error (.notFound id), state) := by
  cases backend with
  | memory =>
      have absent : MemoryRepository.stored state id = none := Option.map_eq_none_iff.mp unstored
      change MemoryRepository.delete state id = _
      rw [MemoryRepository.delete, absent]
      rfl
  | table =>
      have absent : TableRepository.rowOf? state id = none := Option.map_eq_none_iff.mp unstored
      change TableRepository.delete state id = _
      rw [TableRepository.delete, absent]
      rfl

theorem state_of_delete_error (refused : Repository.delete state id = (.error error, next)) :
    next = state := by
  cases backend with
  | memory => exact MemoryRepository.state_of_delete_error refused
  | table => exact TableRepository.state_of_delete_error refused

end Backend

end Diplomacy
