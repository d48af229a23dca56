/-!
JSON values, as far as a reader of settings looks into them. Numbers are told
apart only as natural numbers and all others; `-0` and `1e1` are among the
others, being written as fractions are.
-/

namespace Diplomacy.Json

/-- The text of a JSON string, or `none` if the string escapes half of a
surrogate pair and so is no Unicode text. -/
abbrev Text := Option String

/-- A JSON value. Members keep their order, and a name may be repeated. -/
inductive Value where
  | null
  | bool (value : Bool)
  | natural (value : Nat)
  | otherNumber
  | string (text : Text)
  | array (items : List Value)
  | object (members : List (Text × Value))

instance : Inhabited Value := ⟨.null⟩

-- Values lie in lists of values, so that equality has to be decided by hand.
mutual

/-- Tell whether two values are the same, part by part. -/
def Value.decEq (left right : Value) : Decidable (left = right) :=
  if alike : left.ctorIdx = right.ctorIdx then
    match left, right, alike with
    | .null, .null, _ => isTrue rfl
    | .bool left, .bool right, _ => decidable_of_iff (left = right) (by simp)
    | .natural left, .natural right, _ => decidable_of_iff (left = right) (by simp)
    | .otherNumber, .otherNumber, _ => isTrue rfl
    | .string left, .string right, _ => decidable_of_iff (left = right) (by simp)
    | .array left, .array right, _ =>
        have := Value.decEqItems left right
        decidable_of_iff (left = right) (by simp)
    | .object left, .object right, _ =>
        have := Value.decEqMembers left right
        decidable_of_iff (left = right) (by simp)
  else isFalse fun same => alike (same ▸ rfl)

def Value.decEqItems : (left right : List Value) → Decidable (left = right)
  | [], [] => isTrue rfl
  | left :: lefts, right :: rights =>
      have := Value.decEq left right
      have := Value.decEqItems lefts rights
      decidable_of_iff (left = right ∧ lefts = rights) (by simp)
  | [], _ :: _ => isFalse nofun
  | _ :: _, [] => isFalse nofun

def Value.decEqMembers : (left right : List (Text × Value)) → Decidable (left = right)
  | [], [] => isTrue rfl
  | (name, left) :: lefts, (other, right) :: rights =>
      have := Value.decEq left right
      have := Value.decEqMembers lefts rights
      decidable_of_iff (name = other ∧ left = right ∧ lefts = rights) (by simp [and_assoc])
  | [], _ :: _ => isFalse nofun
  | _ :: _, [] => isFalse nofun

end

instance : DecidableEq Value := Value.decEq

end Diplomacy.Json
