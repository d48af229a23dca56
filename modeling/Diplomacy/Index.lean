import Std.Data.HashMap
import Diplomacy.Relationship

/-!
The index of committed records: look-up by identifier, and a listing in
first-recorded order. Every entry carries the position at which its identifier
was recorded; a replacement keeps the position, so that the listing does not
depend on the order in which the table of entries iterates.
-/

namespace Diplomacy

namespace Index

/-- A record and its position in first-recorded order. -/
structure Entry where
  position : Nat
  record : Relationship
deriving DecidableEq

end Index

structure Index where
  entries : Std.HashMap RelationshipId Index.Entry
  /-- The position of the next identifier to be recorded. -/
  nextPosition : Nat
  /-- Records are found under their own identifiers. -/
  id_eq : ∀ (id : RelationshipId) (entry : Index.Entry),
    entries[id]? = some entry → entry.record.id = id
  /-- Positions are handed out in order. -/
  position_lt : ∀ (id : RelationshipId) (entry : Index.Entry),
    entries[id]? = some entry → entry.position < nextPosition
  /-- No position is handed out twice. -/
  position_injective : ∀ (left right : RelationshipId) (leftEntry rightEntry : Index.Entry),
    entries[left]? = some leftEntry → entries[right]? = some rightEntry →
      leftEntry.position = rightEntry.position → left = right

namespace Index

def empty : Index where
  entries := ∅
  nextPosition := 0
  id_eq := by simp
  position_lt := by simp
  position_injective := by simp

instance : Inhabited Index := ⟨empty⟩

variable (index : Index)

def get? (id : RelationshipId) : Option Relationship := index.entries[id]?.map (·.record)

def size : Nat := index.entries.size

def isEmpty : Bool := index.entries.isEmpty

/-- Every record, first recorded first. -/
def toList : List Relationship :=
  ((index.entries.toList.map (·.2)).mergeSort fun left right =>
    left.position ≤ right.position).map (·.record)

/-- Record an identifier at the next position, also if it was recorded before. -/
def append (record : Relationship) : Index where
  entries := index.entries.insert record.id { position := index.nextPosition, record }
  nextPosition := index.nextPosition + 1
  id_eq id entry found := by
    have := index.id_eq id entry
    grind
  position_lt id entry found := by
    have := index.position_lt id entry
    grind
  position_injective left right leftEntry rightEntry leftFound rightFound equal := by
    have := index.position_lt left leftEntry
    have := index.position_lt right rightEntry
    have := index.position_injective left right leftEntry rightEntry
    grind

/-- Put a record in the place of an entry with its identifier. -/
def replace (record : Relationship) (entry : Entry)
    (found : index.entries[record.id]? = some entry) : Index where
  entries := index.entries.insert record.id { entry with record }
  nextPosition := index.nextPosition
  id_eq id other found := by
    have := index.id_eq id other
    grind
  position_lt id other found := by
    have := index.position_lt id other
    have := index.position_lt record.id entry
    grind
  position_injective left right leftEntry rightEntry leftFound rightFound equal := by
    have := index.position_injective left right leftEntry rightEntry
    have := index.position_injective record.id right entry rightEntry
    have := index.position_injective left record.id leftEntry entry
    grind

/-- Install a record that the repository has committed, and tell whether it was
installed. A record older than the indexed one is ignored, so that a late
writer does not undo a newer commit. -/
def applyCommitted (record : Relationship) : Bool × Index :=
  match found : index.entries[record.id]? with
  | some entry =>
      if record.version.value < entry.record.version.value then (false, index)
      else (true, index.replace record entry found)
  | none => (true, index.append record)

def remove (id : RelationshipId) : Option Relationship × Index :=
  (index.get? id,
    { entries := index.entries.erase id
      nextPosition := index.nextPosition
      id_eq := fun other entry found => index.id_eq other entry (by grind)
      position_lt := fun other entry found => index.position_lt other entry (by grind)
      position_injective := fun left right leftEntry rightEntry leftFound rightFound =>
        index.position_injective left right leftEntry rightEntry (by grind) (by grind) })

/-- The index of records in first-recorded order. Of several records with one
identifier only the last is kept. -/
def ofRecords (records : List Relationship) : Index := records.foldl append empty

end Index

end Diplomacy
