/-!
TOML values and the rules by which a document's lines build its tables. A table
remembers how it came about, because that decides which later lines may add to
it: dotted keys may only go through tables that no header has defined, a header
may only take over a table that earlier headers merely implied, and a value,
inline tables included, is closed.
-/

namespace Diplomacy.Toml

/-- How a table came about. -/
inductive Origin where
  /-- By a header of its own; the root and the elements of table arrays count as such. -/
  | header
  /-- As a part of a longer header. -/
  | implied
  /-- As a part of a dotted key. -/
  | dotted
  /-- As a value in braces. -/
  | inline
deriving DecidableEq, Repr

/-- A value. Floating point numbers and moments in time are kept only as such. -/
inductive Value where
  | text (value : String)
  | integer (value : Int)
  | float
  | boolean (value : Bool)
  | moment
  | array (items : List Value)
  | table (origin : Origin) (entries : List (String × Value))
  /-- An array of tables made by headers; each item is a table. -/
  | tables (items : List Value)

instance : Inhabited Value := ⟨.float⟩

-- Values lie in lists of values, so that equality has to be decided by hand.
mutual

/-- Tell whether two values are the same, part by part. -/
def Value.decEq (left right : Value) : Decidable (left = right) :=
  if alike : left.ctorIdx = right.ctorIdx then
    match left, right, alike with
    | .text left, .text right, _ => decidable_of_iff (left = right) (by simp)
    | .integer left, .integer right, _ => decidable_of_iff (left = right) (by simp)
    | .float, .float, _ => isTrue rfl
    | .boolean left, .boolean right, _ => decidable_of_iff (left = right) (by simp)
    | .moment, .moment, _ => isTrue rfl
    | .array left, .array right, _ =>
        have := Value.decEqItems left right
        decidable_of_iff (left = right) (by simp)
    | .table origin left, .table other right, _ =>
        have := Value.decEqEntries left right
        decidable_of_iff (origin = other ∧ left = right) (by simp)
    | .tables left, .tables right, _ =>
        have := Value.decEqItems left right
        decidable_of_iff (left = right) (by simp)
  else isFalse fun same => alike (same ▸ rfl)

def Value.decEqItems : (left right : List Value) → Decidable (left = right)
  | [], [] => isTrue rfl
  | left :: lefts, right :: rights =>
      have := Value.decEq left right
      have := Value.decEqItems lefts rights
      decidable_of_iff (left = right ∧ lefts = rights) (by simp)
  | [], _ :: _ => isFalse nofun
  | _ :: _, [] => isFalse nofun

def Value.decEqEntries : (left right : List (String × Value)) → Decidable (left = right)
  | [], [] => isTrue rfl
  | (key, left) :: lefts, (other, right) :: rights =>
      have := Value.decEq left right
      have := Value.decEqEntries lefts rights
      decidable_of_iff (key = other ∧ left = right ∧ lefts = rights) (by simp [and_assoc])
  | [], _ :: _ => isFalse nofun
  | _ :: _, [] => isFalse nofun

end

instance : DecidableEq Value := Value.decEq

/-- The entries of a table. No key occurs twice. -/
abbrev Entries := List (String × Value)

namespace Entries

def get? (entries : Entries) (key : String) : Option Value :=
  (entries.find? (·.1 = key)).map (·.2)

/-- Set a key: in its place if it is there, at the end otherwise. -/
def set (entries : Entries) (key : String) (value : Value) : Entries :=
  if entries.any (·.1 = key) then
    entries.map fun entry => if entry.1 = key then (key, value) else entry
  else entries ++ [(key, value)]

/-- Change the table at a path. Missing tables on the way are made, with the
origin that `along` gives; an array of tables stands for its last element. A
dotted key does not go through a table that has a header. -/
def descend (along : Origin) (change : Origin → Entries → Option Entries) :
    (path : List String) → Origin → Entries → Option Entries
  | [], origin, entries => change origin entries
  | key :: path, _, entries =>
      match entries.get? key with
      | none =>
          (descend along change path along []).map fun below =>
            entries.set key (.table along below)
      | some (.table origin below) =>
          if origin = .inline || (along = .dotted && origin = .header) then none
          else (descend along change path origin below).map fun below =>
            entries.set key (.table origin below)
      | some (.tables items) =>
          match items.getLast? with
          | some (.table origin below) =>
              (descend along change path origin below).map fun below =>
                entries.set key (.tables (items.dropLast ++ [.table origin below]))
          | _ => none
      | some _ => none

/-- Add the value of a dotted key, given by its parts. The table that it lands
in must have been made by dotted keys, unless it is the current one. -/
def assign (entries : Entries) (key : List String) (value : Value) : Option Entries :=
  match key.getLast? with
  | none => none
  | some last =>
      let path := key.dropLast
      let add (origin : Origin) (below : Entries) : Option Entries :=
        if (path.isEmpty || origin = .dotted) && (below.get? last).isNone then
          some (below.set last value)
        else none
      descend .dotted add path .header entries

/-- Add the values of dotted keys one after another. -/
def assignAll (entries : Entries) (pairs : List (List String × Value)) : Option Entries :=
  pairs.foldlM (fun entries (key, value) => entries.assign key value) entries

end Entries

end Diplomacy.Toml
