import Diplomacy.Proofs.Repository.Stored

/-!
What the repositories answer in a state that can be listed. The list alone
decides, up to the limit at which versions end: a refusal leaves the state as it
was, and an accepted write changes the list as it changes a repository in memory.
-/

namespace Diplomacy.Backend

variable {backend : Backend} {state : backend.State} {records : List Relationship}
  {record stored : Relationship} {id : RelationshipId}

/-- The version that is stored for an identifier, if it is the submitted one. -/
theorem agrees_iff :
    (∀ actual ∈ (records.find? (·.id = record.id)).map (·.version), actual = record.version) ↔
      ∀ stored, records.find? (·.id = record.id) = some stored →
        stored.version = record.version := by
  cases records.find? (·.id = record.id) <;> simp

/-- A write that submits another version than the stored one is a conflict. -/
theorem upsert_of_mismatch (holds : Holds state records)
    (found : records.find? (·.id = record.id) = some stored)
    (differs : stored.version ≠ record.version) :
    Repository.upsert state record =
      (.error (.conflict record.id record.version stored.version), state) := by
  apply upsert_of_other_version _ differs
  rw [stored_eq_of_listAll holds.listAll_eq, found]
  rfl

/-- A write that agrees with what is stored but has no next version fails below. -/
theorem upsert_of_exhausted (holds : Holds state records)
    (agrees : ∀ stored, records.find? (·.id = record.id) = some stored →
      stored.version = record.version)
    (exhausted : backend.limit ≤ record.version.value) :
    ∃ description causes,
      Repository.upsert state record = (.error (.storage description causes), state) := by
  have revision := Relationship.nextRevision_of_agrees (agrees_iff.mpr agrees)
  cases backend with
  | memory =>
      rcases Relationship.exists_advance_eq_error exhausted with ⟨description, causes, failed⟩
      refine ⟨description, causes, ?_⟩
      rw [failed, ← holds.records_eq] at revision
      change MemoryRepository.upsert state record = _
      simp only [MemoryRepository.upsert, MemoryRepository.stored, revision]
  | table =>
      by_cases room : record.version.value < 0xffff_ffff_ffff_ffff
      · rcases Relationship.exists_advance_eq_ok room with ⟨committed, advanced⟩
        have successor := (Relationship.eq_of_advance advanced).1
        rw [advanced] at revision
        have exceeds : 0x8000_0000_0000_0000 ≤ committed.version.value := by
          simp only [limit] at exhausted
          omega
        exact ⟨_, _, TableRepository.upsert_of_exceeds holds.reads revision exceeds⟩
      · rcases Relationship.exists_advance_eq_error (Nat.le_of_not_lt room) with
          ⟨description, causes, failed⟩
        rw [failed] at revision
        exact ⟨description, causes, TableRepository.upsert_of_error holds.reads revision⟩

/-- A write that agrees with what is stored and has a next version is committed. -/
theorem upsert_of_agrees (holds : Holds state records)
    (agrees : ∀ stored, records.find? (·.id = record.id) = some stored →
      stored.version = record.version)
    (room : record.version.value < backend.limit) :
    ∃ committed next, Repository.upsert state record = (.ok committed, next) ∧
      committed.version.value = record.version.value + 1 ∧
      committed = { record with version := committed.version } ∧
      Holds next (MemoryRepository.place committed records) := by
  have small : record.version.value < 0xffff_ffff_ffff_ffff := by
    cases backend <;> simp only [limit] at room <;> omega
  rcases Relationship.exists_advance_eq_ok small with ⟨committed, advanced⟩
  rcases Relationship.eq_of_advance advanced with ⟨successor, kept⟩
  have revision := Relationship.nextRevision_of_agrees (agrees_iff.mpr agrees)
  rw [advanced] at revision
  have distinct := MemoryRepository.nodup_place holds.distinct committed
  refine ⟨committed, ?_⟩
  cases backend with
  | memory =>
      refine ⟨⟨MemoryRepository.place committed records⟩, ?_, successor, kept, ⟨rfl, distinct⟩⟩
      rw [← holds.records_eq] at revision ⊢
      change MemoryRepository.upsert state record = _
      simp only [MemoryRepository.upsert, MemoryRepository.stored, revision]
  | table =>
      have fits : committed.version.value < 0x8000_0000_0000_0000 := by
        simp only [limit] at room
        omega
      rcases TableRepository.upsert_of_fits holds.reads holds.distinct revision fits with
        ⟨next, written, reads⟩
      exact ⟨next, written, successor, kept,
        ⟨TableRepository.listAll_eq_ok_iff.mpr reads, distinct⟩⟩

/-- A deletion of what is not stored is refused. -/
theorem delete_of_absent (holds : Holds state records)
    (absent : records.find? (·.id = id) = none) :
    Repository.delete state id = (.error (.notFound id), state) := by
  cases backend with
  | memory =>
      rw [← holds.records_eq] at absent
      change MemoryRepository.delete state id = _
      rw [MemoryRepository.delete, MemoryRepository.stored, absent]
      rfl
  | table => exact TableRepository.delete_of_absent holds.reads absent

/-- A deletion takes out the record of its identifier and nothing else. -/
theorem delete_of_present (holds : Holds state records)
    (present : records.find? (·.id = id) = some record) :
    ∃ next, Repository.delete state id = (.ok (), next) ∧
      Holds next (records.filter (·.id ≠ id)) := by
  have distinct : ((records.filter (·.id ≠ id)).map (·.id)).Nodup :=
    (List.filter_sublist.map _).nodup holds.distinct
  cases backend with
  | memory =>
      refine ⟨⟨records.filter (·.id ≠ id)⟩, ?_, ⟨rfl, distinct⟩⟩
      rw [← MemoryRepository.eraseP_eq_filter holds.distinct]
      rw [← holds.records_eq] at present ⊢
      change MemoryRepository.delete state id = _
      rw [MemoryRepository.delete, MemoryRepository.stored, present]
      rfl
  | table =>
      rcases TableRepository.delete_of_present holds.reads present with ⟨next, deleted, reads⟩
      exact ⟨next, deleted, TableRepository.listAll_eq_ok_iff.mpr reads, distinct⟩

/-- A write is refused without effect, or commits a version above the stored one
and places the record. -/
theorem upsert_cases (holds : Holds state records) (record : Relationship) :
    (∃ error, Repository.upsert state record = (.error error, state)) ∨
      ∃ committed next, Repository.upsert state record = (.ok committed, next) ∧
        (∀ stored, records.find? (·.id = committed.id) = some stored →
          stored.version.value ≤ committed.version.value) ∧
        Holds next (MemoryRepository.place committed records) := by
  by_cases agrees : ∀ stored, records.find? (·.id = record.id) = some stored →
      stored.version = record.version
  · rcases Nat.lt_or_ge record.version.value backend.limit with room | exhausted
    · rcases upsert_of_agrees holds agrees room with
        ⟨committed, next, written, successor, kept, after⟩
      refine .inr ⟨committed, next, written, ?_, after⟩
      intro stored found
      rw [kept] at found
      rw [agrees stored found, successor]
      exact Nat.le_succ _
    · rcases upsert_of_exhausted holds agrees exhausted with ⟨description, causes, failed⟩
      exact .inl ⟨_, failed⟩
  · simp only [not_forall] at agrees
    rcases agrees with ⟨stored, found, differs⟩
    exact .inl ⟨_, upsert_of_mismatch holds found differs⟩

/-- A deletion is refused without effect, or takes out a record. -/
theorem delete_cases (holds : Holds state records) (id : RelationshipId) :
    (∃ error, Repository.delete state id = (.error error, state)) ∨
      ∃ next, Repository.delete state id = (.ok (), next) ∧
        Holds next (records.filter (·.id ≠ id)) := by
  cases found : records.find? (·.id = id) with
  | none => exact .inl ⟨_, delete_of_absent holds found⟩
  | some record => exact .inr (delete_of_present holds found)

end Diplomacy.Backend
