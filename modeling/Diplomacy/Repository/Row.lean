import Diplomacy.Identifier.Bytes
import Diplomacy.Repository.Basic

/-!
Rows of a stored table. A row has five cells of any kind, since a table may have
been written by another program; a canonical row holds three identifier blobs,
the name of a stance and a signed version. Reading a row checks the stance
first, then the identifiers from left to right, then the version, and reports
the first cell that does not fit.
-/

namespace Diplomacy

inductive Cell where
  | null
  | integer (value : Int64)
  /-- A floating-point number, by its bits. -/
  | real (bits : UInt64)
  | text (value : String)
  | blob (bytes : List UInt8)
deriving DecidableEq

def Cell.kind : Cell → String
  | .null => "Null"
  | .integer _ => "Integer"
  | .real _ => "Real"
  | .text _ => "Text"
  | .blob _ => "Blob"

structure Row where
  id : Cell
  faction : Cell
  target : Cell
  stance : Cell
  version : Cell
deriving DecidableEq

namespace Row

/-! ## Faults -/

/-- A cell of the right kind whose content is no part of a record, or a content
that no cell can hold. -/
inductive BadContent where
  | unknownStance (name : String)
  | blobLength (found : Nat)
  | negativeVersion
  | negativeStoredVersion (id : RelationshipId)
  | versionRange (version : Version)
deriving DecidableEq

def BadContent.message : BadContent → String
  | .unknownStance name => s!"Invalid data: Unknown relationship type: {name}"
  | .blobLength found => s!"Invalid data: Expected 16 bytes for identifier, got {found}"
  | .negativeVersion => "Invalid data: Negative relationship version"
  | .negativeStoredVersion id => s!"Invalid data: Negative version stored for {id}"
  | .versionRange version => s!"Invalid data: Version {version} exceeds the storable range"

/-- What can go wrong between rows and records. Columns are given by their place
and name in the query that read them. -/
inductive Fault where
  /-- A cell of the wrong kind. -/
  | kind (found : String) (index : Nat) (column : String)
  /-- A cell whose content cannot be converted. -/
  | conversion (found : String) (index : Nat) (content : BadContent)
  /-- Bad content outside the reading of a row. -/
  | badContent (content : BadContent)
deriving DecidableEq

namespace Fault

/-- The explanations of a fault, each below the one before. -/
def explanations : Fault → List String
  | .kind found index column =>
      let database := s!"Invalid column type {found} at index: {index}, name: {column}"
      [s!"Database error: {database}", database]
  | .conversion found index content =>
      let database := s!"Conversion error from type {found} at index: {index}, {content.message}"
      [s!"Database error: {database}", database, content.message]
  | .badContent content => [content.message]

/-- A fault as the failure of the repository; its outermost explanation is the
description. -/
def toRepositoryError (fault : Fault) : RepositoryError :=
  .storage (fault.explanations.headD "") fault.explanations

end Fault

/-! ## Reading -/

def readStance : Cell → Except Fault Stance
  | .text name =>
      match Stance.parse? name with
      | some stance => .ok stance
      | none => .error (.conversion "Text" 3 (.unknownStance name))
  | cell => .error (.kind cell.kind 3 "relationship_type")

def readIdentifier {kind : Identifier.Kind} (index : Nat) (column : String) :
    Cell → Except Fault (Identifier kind)
  | .blob bytes =>
      match Identifier.ofBytes? bytes with
      | some identifier => .ok identifier
      | none => .error (.conversion "Blob" index (.blobLength bytes.length))
  | cell => .error (.kind cell.kind index column)

/-- The version that a signed integer stands for, unless it is negative. -/
def version? (value : Int64) : Option Version :=
  if 0 ≤ value.toInt then Version.ofNat? value.toInt.toNat else none

/-- The version in a cell of a listed row. -/
def readVersion : Cell → Except Fault Version
  | .integer value =>
      match version? value with
      | some version => .ok version
      | none => .error (.conversion "Integer" 4 .negativeVersion)
  | cell => .error (.kind cell.kind 4 "version")

/-- The version stored for an identifier, read by itself. -/
def readStoredVersion (id : RelationshipId) : Cell → Except Fault Version
  | .integer value =>
      match version? value with
      | some version => .ok version
      | none => .error (.badContent (.negativeStoredVersion id))
  | cell => .error (.kind cell.kind 0 "version")

def toRelationship (row : Row) : Except Fault Relationship := do
  let stance ← readStance row.stance
  let id ← readIdentifier 0 "id" row.id
  let faction ← readIdentifier 1 "faction_id" row.faction
  let target ← readIdentifier 2 "target_id" row.target
  let version ← readVersion row.version
  return { id, faction, target, stance, version }

/-! ## Writing -/

/-- The signed integer that stores a version. Integers are signed, so that the
upper half of the versions cannot be stored. -/
def storedVersion (version : Version) : Except Fault Int64 :=
  if version.value < 0x8000_0000_0000_0000 then .ok (Int64.ofNat version.value)
  else .error (.badContent (.versionRange version))

def key (id : RelationshipId) : Cell := .blob id.bytes

/-- The canonical row of a record, its version being stored as `version`. -/
def canonical (relationship : Relationship) (version : Int64) : Row where
  id := key relationship.id
  faction := .blob relationship.faction.bytes
  target := .blob relationship.target.bytes
  stance := .text relationship.stance.name
  version := .integer version

def ofRelationship (relationship : Relationship) : Except Fault Row :=
  (storedVersion relationship.version).map (canonical relationship)

end Row

end Diplomacy
