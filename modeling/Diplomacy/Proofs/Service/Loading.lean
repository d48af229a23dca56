import Diplomacy.Proofs.Repository.Faults
import Diplomacy.Service.Basic

/-!
Loading a service from a table. One bad cell anywhere is enough that there is no
service, and what is reported of the table is its first fault; where every row
is sound, each stands for one record, in the order of insertion.
-/

namespace Diplomacy.Service

variable {σ ω : Type}

/-- A repository that cannot be listed gives no service, and its error is passed on. -/
theorem load_of_error [Repository σ] {repository : σ} {error : RepositoryError}
    (failed : Repository.listAll repository = .error error) (config : Config)
    (primaryThread : ThreadId) :
    (load repository config primaryThread : Except LoadFailure (Service σ ω)) =
      .error { error } := by
  rw [load, failed]

/-- A table is loaded as a whole if every row is sound; otherwise the first column
that does not take its cell, in the first row that has one, is reported as a failure
of the storage, and no service is built. -/
theorem loading_is_all_or_nothing (table : TableRepository) :
    ((∃ records, table.listAll = .ok records) ↔ ∀ row ∈ table.rows, row.Sound) ∧
      (∀ records, table.listAll = .ok records → List.Forall₂ Row.StandsFor table.rows records) ∧
      ∀ error, table.listAll = .error error →
        (∃ description causes, error = .storage description causes) ∧
          (∃ earlier row later column fault, table.rows = earlier ++ row :: later ∧
            (∀ other ∈ earlier, other.Sound) ∧ row.FirstFault column fault ∧
            error = fault.toRepositoryError) ∧
          ∀ (ω : Type) (config : Config) (primaryThread : ThreadId),
            (load table config primaryThread : Except LoadFailure (Service TableRepository ω)) =
              .error { error } := by
  refine ⟨TableRepository.exists_listAll_iff, ?_, ?_⟩
  · intro records listed
    exact TableRepository.listAll_eq_ok_iff_standsFor.mp listed
  · intro error failed
    have first := TableRepository.firstFault_of_listAll failed
    refine ⟨?_, first, fun ω => load_of_error failed⟩
    rcases first with ⟨_, _, _, _, fault, _, _, _, rfl⟩
    exact ⟨_, _, rfl⟩

end Diplomacy.Service
