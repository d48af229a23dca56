import Diplomacy.Config.Settings
import Diplomacy.Json.Printer
import Diplomacy.Json.Reader

/-!
Configurations as JSON text: an object of the four fields in order.
-/

namespace Diplomacy.Config

def toJson (config : Config) : String :=
  String.ofList (Json.writeObject
    [(Field.maxTreeDepth.key, Json.writeNatural config.maxTreeDepth),
     (Field.maxTreeNodes.key, Json.writeNatural config.maxTreeNodes),
     (Field.warnOnMultipleLieges.key, Json.writeBool config.warnOnMultipleLieges),
     (Field.logFilter.key, Json.writeString config.logFilter)])

def settingOfJson : Json.Value → Setting
  | .natural value => .natural value
  | .bool value => .truth value
  | .string (some value) => .text value
  | _ => .other

/-- A JSON value as the source of a configuration. The names of an object must
be Unicode text, also those that are passed over. -/
def sourceOfJson : Json.Value → Source
  | .object members =>
      match members.mapM fun (name, value) => name.map fun key => (key, settingOfJson value) with
      | some entries => .table entries
      | none => .other
  | .array items => .array (items.map settingOfJson)
  | _ => .other

/-- Read a configuration from JSON text, without validating it. -/
def ofJson? (text : String) : Option Config :=
  (Json.parse? text).bind fun value => ofSource? (sourceOfJson value)

end Diplomacy.Config
