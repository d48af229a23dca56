import Diplomacy.Identifier.Basic
import Diplomacy.Stance

/-!
Relationship records: directed edges between two factions. A record is replaced
as a whole, and its version tells which replacement it is; a record that was
never committed has version zero.
-/

namespace Diplomacy

/-- The number of a record's commits, as a 64-bit counter. -/
structure Version where
  value : Nat
  value_lt : value < 0x1_0000_0000_0000_0000
deriving DecidableEq

namespace Version

/-- The version with the given number, if the counter can hold it. -/
def ofNat? (value : Nat) : Option Version :=
  if fits : value < 0x1_0000_0000_0000_0000 then some ⟨value, fits⟩ else none

/-- The version of a record that was never committed. -/
def uncommitted : Version := ⟨0, by decide⟩

instance : Inhabited Version := ⟨uncommitted⟩

instance : ToString Version := ⟨fun version => toString version.value⟩

/-- The version after this one, unless the counter is exhausted. -/
def next? (version : Version) : Option Version := ofNat? (version.value + 1)

@[ext] theorem ext {left right : Version} (equal : left.value = right.value) : left = right := by
  cases left
  cases right
  simpa using equal

theorem ofNat?_eq_some_iff {value : Nat} {version : Version} :
    ofNat? value = some version ↔ version.value = value := by
  unfold ofNat?
  split
  · constructor
    · intro equal
      cases equal
      rfl
    · intro equal
      exact congrArg some (Version.ext equal.symm)
  · constructor
    · intro equal
      cases equal
    · intro equal
      exact absurd (equal ▸ version.value_lt) ‹_›

theorem next?_eq_some_iff {version next : Version} :
    version.next? = some next ↔ next.value = version.value + 1 :=
  ofNat?_eq_some_iff

end Version

structure Relationship where
  id : RelationshipId
  /-- The faction that declares the relationship. -/
  faction : FactionId
  /-- The faction that the declaration points at. -/
  target : FactionId
  stance : Stance
  version : Version
deriving DecidableEq

namespace Relationship

def declare (id : RelationshipId) (faction target : FactionId) (stance : Stance) :
    Relationship where
  id := id
  faction := faction
  target := target
  stance := stance
  version := .uncommitted

variable (relationship : Relationship)

/-- Whether the edge goes from one given faction to another. -/
def connects (faction target : FactionId) : Bool :=
  relationship.faction = faction && relationship.target = target

/-- Whether the edge touches a faction on either end. -/
def involves (faction : FactionId) : Bool :=
  relationship.faction = faction || relationship.target = faction

end Relationship

end Diplomacy
