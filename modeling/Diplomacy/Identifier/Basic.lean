/-!
Identifiers of factions and of relationships: 128-bit values whose kind is part
of the type, so that a faction can never stand where a relationship is meant.
Identifiers are compared and ordered by value.
-/

namespace Diplomacy

/-- What an identifier names. -/
inductive Identifier.Kind where
  | faction
  | relationship
deriving DecidableEq, Repr

/-- An opaque 128-bit identifier. -/
structure Identifier (kind : Identifier.Kind) where
  value : Nat
  value_lt : value < 0x1_0000_0000_0000_0000_0000_0000_0000_0000
deriving DecidableEq

/-- Names a faction, whose own data lives elsewhere. -/
abbrev FactionId := Identifier .faction

/-- Names a relationship record; fixed for the record's lifetime. -/
abbrev RelationshipId := Identifier .relationship

namespace Identifier

def Kind.label : Kind → String
  | .faction => "faction"
  | .relationship => "relationship"

variable {kind : Kind}

/-- The identifier with the given value, if it fits 128 bits. -/
def ofNat? (value : Nat) : Option (Identifier kind) :=
  if fits : value < 0x1_0000_0000_0000_0000_0000_0000_0000_0000 then some ⟨value, fits⟩ else none

instance : Inhabited (Identifier kind) := ⟨⟨0, by decide⟩⟩

instance : Hashable (Identifier kind) := ⟨fun identifier => hash identifier.value⟩

instance : LT (Identifier kind) := ⟨fun left right => left.value < right.value⟩

instance : LE (Identifier kind) := ⟨fun left right => left.value ≤ right.value⟩

instance (left right : Identifier kind) : Decidable (left < right) :=
  inferInstanceAs (Decidable (left.value < right.value))

instance (left right : Identifier kind) : Decidable (left ≤ right) :=
  inferInstanceAs (Decidable (left.value ≤ right.value))

/-- Two identifiers of one kind with the same value are the same. -/
@[ext] theorem ext {left right : Identifier kind} (equal : left.value = right.value) :
    left = right := by
  cases left
  cases right
  simpa using equal

theorem ofNat?_eq_some_iff {number : Nat} {identifier : Identifier kind} :
    ofNat? number = some identifier ↔ number = identifier.value := by
  constructor
  · intro found
    rcases Option.dite_none_right_eq_some.mp found with ⟨fits, equal⟩
    cases equal
    rfl
  · rintro rfl
    exact dif_pos identifier.value_lt

/-- Ascending by value. -/
def sort (identifiers : List (Identifier kind)) : List (Identifier kind) :=
  identifiers.mergeSort fun left right => left.value ≤ right.value

end Identifier

end Diplomacy
