import Diplomacy.Repository.Basic

/-!
A repository held in memory: the records in insertion order. A replaced record
keeps its place.
-/

namespace Diplomacy

/-- The records of a repository in memory, oldest first. -/
structure MemoryRepository where
  records : List Relationship := []
deriving DecidableEq

namespace MemoryRepository

variable (repository : MemoryRepository)

/-- The first stored record with an identifier. -/
def stored (id : RelationshipId) : Option Relationship :=
  repository.records.find? (·.id = id)

def size : Nat := repository.records.length

def isEmpty : Bool := repository.records.isEmpty

/-- Put a record in the place of the first one with its identifier, or at the
end if there is none. -/
def place (committed : Relationship) : List Relationship → List Relationship
  | [] => [committed]
  | record :: records =>
      if record.id = committed.id then committed :: records
      else record :: place committed records

/-- Insert or replace a record under the locking rule. -/
def upsert (relationship : Relationship) :
    Except RepositoryError Relationship × MemoryRepository :=
  let version := (repository.stored relationship.id).map (·.version)
  match relationship.nextRevision version with
  | .ok committed => (.ok committed, { records := place committed repository.records })
  | .error error => (.error error, repository)

/-- Take out the first record with an identifier. -/
def delete (id : RelationshipId) : Except RepositoryError Unit × MemoryRepository :=
  if (repository.stored id).isSome then
    (.ok (), { records := repository.records.eraseP (·.id = id) })
  else (.error (.notFound id), repository)

end MemoryRepository

instance : Repository MemoryRepository where
  listAll repository := .ok repository.records
  upsert := MemoryRepository.upsert
  delete := MemoryRepository.delete

end Diplomacy
