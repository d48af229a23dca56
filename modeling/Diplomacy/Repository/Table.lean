import Diplomacy.Repository.Row

/-!
A repository over a table of rows, in the order of their insertion. Only a blob
equal to the sixteen bytes of an identifier matches it. A write that is refused
leaves the table as it was, and one that is committed touches a single row.
-/

namespace Diplomacy

/-- The rows of a table of relationships, oldest first. -/
structure TableRepository where
  rows : List Row := []
deriving DecidableEq

namespace TableRepository

/-- The repository over a database. In a new database the table is made first,
and what an old one holds is taken as it is. -/
def ofDatabase (database : Option (List Row)) : TableRepository where
  rows := database.getD []

variable (table : TableRepository)

/-- The database that is left when the repository is closed. Each write is
committed before it is answered, so that all of them are in it. -/
def database : Option (List Row) := some table.rows

def isRowOf (id : RelationshipId) (row : Row) : Bool := row.id = Row.key id

def rowOf? (id : RelationshipId) : Option Row := table.rows.find? (isRowOf id)

/-- Every record, or the first fault of the first bad row. -/
def listAll : Except RepositoryError (List Relationship) :=
  (table.rows.mapM Row.toRelationship).mapError Row.Fault.toRepositoryError

/-- The row to be written for a submitted record and the record as committed.
`previous` is the version cell stored for the record's identifier, if any. -/
def revision (relationship : Relationship) (previous : Option Cell) :
    Except RepositoryError (Relationship × Row) := do
  let stored ← match previous with
    | none => pure none
    | some cell =>
        ((Row.readStoredVersion relationship.id cell).map some).mapError
          Row.Fault.toRepositoryError
  let committed ← relationship.nextRevision stored
  let row ← (Row.ofRelationship committed).mapError Row.Fault.toRepositoryError
  return (committed, row)

/-- Write a row over the rows of an identifier that hold a version, however many
they are. -/
def rewrite (id : RelationshipId) (version : Cell) (row : Row) (rows : List Row) : List Row :=
  rows.map fun other => if isRowOf id other && other.version = version then row else other

/-- Insert or replace a record under the locking rule. -/
def upsert (relationship : Relationship) : Except RepositoryError Relationship × TableRepository :=
  let previous := table.rowOf? relationship.id
  match revision relationship (previous.map (·.version)) with
  | .error error => (.error error, table)
  | .ok (committed, row) =>
      let rows := match previous with
        | some old => rewrite relationship.id old.version row table.rows
        | none => table.rows ++ [row]
      (.ok committed, { rows })

def delete (id : RelationshipId) : Except RepositoryError Unit × TableRepository :=
  if (table.rowOf? id).isSome then
    (.ok (), { rows := table.rows.filter fun row => !isRowOf id row })
  else (.error (.notFound id), table)

end TableRepository

instance : Repository TableRepository where
  listAll := TableRepository.listAll
  upsert := TableRepository.upsert
  delete := TableRepository.delete

end Diplomacy
