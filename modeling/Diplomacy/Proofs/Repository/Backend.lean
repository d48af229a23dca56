import Diplomacy.Proofs.Repository.Memory
import Diplomacy.Proofs.Repository.Table

/-!
The two repositories taken together. A state of either one holds a list of
records if that is what it lists and no identifier stands in it twice.
-/

namespace Diplomacy

/-- The kinds of repository. -/
inductive Backend where
  | memory
  | table
deriving DecidableEq

namespace Backend

/-- The state of a repository. -/
abbrev State : Backend → Type
  | .memory => MemoryRepository
  | .table => TableRepository

instance : (backend : Backend) → Repository backend.State
  | .memory => inferInstanceAs (Repository MemoryRepository)
  | .table => inferInstanceAs (Repository TableRepository)

/-- The least version whose successor cannot be stored. -/
def limit : Backend → Nat
  | .memory => 0xffff_ffff_ffff_ffff
  | .table => 0x7fff_ffff_ffff_ffff

/-- No identifier is stored twice, as the primary key of a table ensures. Its
other cells may hold anything. -/
def Distinct : (backend : Backend) → backend.State → Prop
  | .memory, repository => (repository.records.map (·.id)).Nodup
  | .table, state => state.rows.Pairwise fun left right =>
      ∀ id, TableRepository.isRowOf id left = true → TableRepository.isRowOf id right = false

/-- A state holds a list of records. -/
structure Holds {backend : Backend} (state : backend.State) (records : List Relationship) :
    Prop where
  listAll_eq : Repository.listAll state = .ok records
  distinct : (records.map (·.id)).Nodup

variable {backend : Backend} {state : backend.State} {records : List Relationship}

theorem Holds.records_eq {state : memory.State} (holds : Holds state records) :
    state.records = records :=
  Except.ok.inj holds.listAll_eq

theorem Holds.reads {state : table.State} (holds : Holds state records) :
    TableRepository.Reads state.rows records :=
  TableRepository.listAll_eq_ok_iff.mp holds.listAll_eq

/-- A state that can be listed holds what it lists. -/
theorem Distinct.holds (distinct : backend.Distinct state)
    (listed : Repository.listAll state = .ok records) : Holds state records := by
  refine ⟨listed, ?_⟩
  cases backend with
  | memory =>
      cases listed
      exact distinct
  | table =>
      exact TableRepository.distinct_of_reads (TableRepository.listAll_eq_ok_iff.mp listed) distinct

end Backend

end Diplomacy
