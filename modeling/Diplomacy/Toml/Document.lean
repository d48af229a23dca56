import Diplomacy.Toml.Value

/-!
Documents: the lines of a text, and the root table that they build.
-/

namespace Diplomacy.Toml

/-- A line that is neither blank nor a comment. Keys are given by their parts. -/
inductive Line where
  | entry (key : List String) (value : Value)
  | table (path : List String)
  /-- The header of a new element of an array of tables. -/
  | element (path : List String)

structure Section where
  path : List String
  /-- Whether the header adds an element to an array of tables. -/
  isElement : Bool
  pairs : List (List String × Value)

/-- The entries before the first header, and the sections after them. -/
def sections : List Line → List (List String × Value) × List Section
  | [] => ([], [])
  | line :: lines =>
      let (pairs, rest) := sections lines
      match line with
      | .entry key value => ((key, value) :: pairs, rest)
      | .table path => ([], { path, isElement := false, pairs } :: rest)
      | .element path => ([], { path, isElement := true, pairs } :: rest)

/-- Add a section to the root table. A table may have one header only. -/
def Section.addTo (root : Entries) (part : Section) : Option Entries :=
  match part.path.getLast? with
  | none => none
  | some last =>
      let add (_ : Origin) (entries : Entries) : Option Entries :=
        match part.isElement, entries.get? last with
        | false, none =>
            (Entries.assignAll [] part.pairs).map fun below =>
              entries.set last (.table .header below)
        | false, some (.table .implied below) =>
            (Entries.assignAll below part.pairs).map fun below =>
              entries.set last (.table .header below)
        | true, none =>
            (Entries.assignAll [] part.pairs).map fun below =>
              entries.set last (.tables [.table .header below])
        | true, some (.tables items) =>
            (Entries.assignAll [] part.pairs).map fun below =>
              entries.set last (.tables (items ++ [.table .header below]))
        | _, _ => none
      root.descend .implied add part.path.dropLast .header

def ofLines (lines : List Line) : Option Entries := do
  let (pairs, rest) := sections lines
  let root ← Entries.assignAll [] pairs
  rest.foldlM Section.addTo root

end Diplomacy.Toml
