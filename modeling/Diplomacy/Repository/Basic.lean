import Diplomacy.Repository.Error

/-!
Durable storage of relationship records, and the locking rule that every
repository shares. A write submits the version that the writer last saw; it is
refused if another version is stored, and otherwise commits the next version.
-/

namespace Diplomacy

/-- Storage with state of type `σ`. An operation gives its answer and the state
after it. -/
class Repository (σ : Type) where
  /-- Every stored record, oldest first. -/
  listAll : σ → Except RepositoryError (List Relationship)
  /-- Insert or replace a record by its identifier; the answer is the record as committed. -/
  upsert : σ → Relationship → Except RepositoryError Relationship × σ
  delete : σ → RelationshipId → Except RepositoryError Unit × σ

namespace Relationship

/-- The record with the next version, unless its counter is exhausted. -/
def advance (relationship : Relationship) : Except RepositoryError Relationship :=
  match relationship.version.next? with
  | some version => .ok { relationship with version }
  | none => .error (.storage s!"Version counter exhausted for relationship {relationship.id}" [])

/-- The record as it is to be committed, if `stored` is the version that the
repository holds for its identifier. A record that is not stored yet may be
submitted with any version. -/
def nextRevision (relationship : Relationship) :
    (stored : Option Version) → Except RepositoryError Relationship
  | none => relationship.advance
  | some actual =>
      if actual = relationship.version then relationship.advance
      else .error (.conflict relationship.id relationship.version actual)

/-- Advancing changes the version only, by one. -/
theorem advance_eq_ok_iff {relationship committed : Relationship} :
    relationship.advance = .ok committed ↔
      ∃ version : Version, version.value = relationship.version.value + 1 ∧
        committed = { relationship with version } := by
  unfold advance
  split
  · next version equal =>
      have successor := Version.next?_eq_some_iff.mp equal
      constructor
      · intro same
        exact ⟨version, successor, (Except.ok.inj same).symm⟩
      · intro ⟨other, value, same⟩
        rw [same, show other = version from Version.ext (value.trans successor.symm)]
  · next equal =>
      constructor
      · intro same
        cases same
      · intro ⟨other, value, _⟩
        rw [Version.next?_eq_some_iff.mpr value] at equal
        cases equal

/-- A revision is committed exactly if the stored version, if any, is the
submitted one and the counter can advance. -/
theorem nextRevision_eq_ok_iff {relationship committed : Relationship}
    {stored : Option Version} :
    relationship.nextRevision stored = .ok committed ↔
      (∀ actual ∈ stored, actual = relationship.version) ∧
        relationship.advance = .ok committed := by
  cases stored with
  | none => simp [nextRevision]
  | some actual => by_cases equal : actual = relationship.version <;> simp [nextRevision, equal]

end Relationship

end Diplomacy
