import Diplomacy.Config.Basic

/-!
Reading a configuration from the values of a data format. A configuration is
read from a table, whose unknown keys are passed over and whose missing ones
take their defaults, or from an array of at most four values in the order of the
fields. No value is converted: a bound must be a natural number, the switch a
truth value, and the filter a text.
-/

namespace Diplomacy.Config

/-- A value, as far as a field can take it. -/
inductive Setting where
  | natural (value : Nat)
  | truth (value : Bool)
  | text (value : String)
  | other
deriving DecidableEq, Repr

inductive Source where
  | table (entries : List (String × Setting))
  | array (items : List Setting)
  | other
deriving DecidableEq, Repr

/-- The fields of a configuration, in order. -/
inductive Field where
  | maxTreeDepth
  | maxTreeNodes
  | warnOnMultipleLieges
  | logFilter
deriving DecidableEq, Repr

namespace Field

/-- The fields in order. -/
def all : List Field := [.maxTreeDepth, .maxTreeNodes, .warnOnMultipleLieges, .logFilter]

def key : Field → String
  | .maxTreeDepth => "max_tree_depth"
  | .maxTreeNodes => "max_tree_nodes"
  | .warnOnMultipleLieges => "warn_on_multiple_lieges"
  | .logFilter => "log_filter"

def ofKey? (key : String) : Option Field := all.find? (·.key = key)

/-- A configuration with one field set, if the value fits the field. Bounds
are numbers of 64 bits. -/
def set? (config : Config) : Field → Setting → Option Config
  | .maxTreeDepth, .natural value =>
      if value < 0x1_0000_0000_0000_0000 then some { config with maxTreeDepth := value } else none
  | .maxTreeNodes, .natural value =>
      if value < 0x1_0000_0000_0000_0000 then some { config with maxTreeNodes := value } else none
  | .warnOnMultipleLieges, .truth value => some { config with warnOnMultipleLieges := value }
  | .logFilter, .text value => some { config with logFilter := value }
  | _, _ => none

end Field

/-- Set the fields that are named in a table; each at most once. `seen` holds
the fields that were set before. -/
def setEntries? (seen : List Field) (config : Config) :
    List (String × Setting) → Option Config
  | [] => some config
  | (key, setting) :: entries =>
      match Field.ofKey? key with
      | none => setEntries? seen config entries
      | some field =>
          if field ∈ seen then none
          else (field.set? config setting).bind fun config =>
            setEntries? (field :: seen) config entries

/-- Set fields one after another; there may not be more values than fields. -/
def setItems? (config : Config) : (fields : List Field) → List Setting → Option Config
  | _, [] => some config
  | [], _ :: _ => none
  | field :: fields, setting :: settings =>
      (field.set? config setting).bind fun config => setItems? config fields settings

/-- The configuration that a value of a data format holds. -/
def ofSource? : Source → Option Config
  | .table entries => setEntries? [] {} entries
  | .array items => setItems? {} Field.all items
  | .other => none

end Diplomacy.Config
