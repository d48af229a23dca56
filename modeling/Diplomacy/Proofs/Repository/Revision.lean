import Diplomacy.Repository.Basic

/-!
The locking rule, case by case. A submitted version that is not the stored one
is a conflict; otherwise all depends on the counter, which either gives the next
version or is at its end.
-/

namespace Diplomacy.Relationship

variable {record committed : Relationship} {stored : Option Version} {actual : Version}

theorem nextRevision_of_mismatch (differs : actual ≠ record.version) :
    record.nextRevision (some actual) = .error (.conflict record.id record.version actual) := by
  rw [nextRevision, if_neg differs]

theorem nextRevision_of_agrees (agrees : ∀ actual ∈ stored, actual = record.version) :
    record.nextRevision stored = record.advance := by
  cases stored with
  | none => rfl
  | some actual => rw [nextRevision, if_pos (agrees actual rfl)]

theorem eq_of_advance (advanced : record.advance = .ok committed) :
    committed.version.value = record.version.value + 1 ∧
      committed = { record with version := committed.version } := by
  rcases advance_eq_ok_iff.mp advanced with ⟨version, successor, rfl⟩
  exact ⟨successor, rfl⟩

/-- A counter that is not at its end gives the next version. -/
theorem exists_advance_eq_ok (room : record.version.value < 0xffff_ffff_ffff_ffff) :
    ∃ committed, record.advance = .ok committed := by
  refine ⟨{ record with version := ⟨record.version.value + 1, by omega⟩ }, ?_⟩
  exact advance_eq_ok_iff.mpr ⟨_, rfl, rfl⟩

/-- A counter at its end is a failure of the storage. -/
theorem exists_advance_eq_error (exhausted : 0xffff_ffff_ffff_ffff ≤ record.version.value) :
    ∃ description causes, record.advance = .error (.storage description causes) := by
  unfold advance
  split
  · next version equal =>
      have successor := Version.next?_eq_some_iff.mp equal
      have bound := version.value_lt
      omega
  · exact ⟨_, _, rfl⟩

end Diplomacy.Relationship
