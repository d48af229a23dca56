import Diplomacy.Config.Settings
import Diplomacy.Toml.Reader

/-!
Configurations as TOML text. The fields stand either in a table or array under
the key `relations`, or at the root. The sectioned layout is tried first; if it
does not fit for any reason, the root is read as a configuration, which passes
over the key `relations` as over any other unknown one.
-/

namespace Diplomacy.Config

def settingOfToml : Toml.Value → Setting
  | .integer value => if 0 ≤ value then .natural value.toNat else .other
  | .boolean value => .truth value
  | .text value => .text value
  | _ => .other

def sourceOfEntries (entries : Toml.Entries) : Source :=
  .table (entries.map fun (key, value) => (key, settingOfToml value))

/-- A TOML value as the source of a configuration. A moment in time counts as a
table without known keys. -/
def sourceOfToml : Toml.Value → Source
  | .table _ entries => sourceOfEntries entries
  | .array items => .array (items.map settingOfToml)
  | .tables items => .array (items.map settingOfToml)
  | .moment => .table []
  | _ => .other

def sectionKey : String := "relations"

/-- The configuration of a document, in either layout. -/
def ofEntries? (root : Toml.Entries) : Option Config :=
  ((root.get? sectionKey).bind fun value => ofSource? (sourceOfToml value))
    <|> ofSource? (sourceOfEntries root)

inductive LoadError where
  | fileRead (reason : String)
  /-- The text is no TOML, or holds no configuration. -/
  | malformed
  | invalid (error : Invalid)
deriving DecidableEq, Repr

/-- The configuration of a document, if it is valid. -/
def ofDocument (root : Toml.Entries) : Except LoadError Config :=
  match ofEntries? root with
  | none => .error .malformed
  | some config =>
      match config.validate with
      | .ok () => .ok config
      | .error error => .error (.invalid error)

/-- Read a configuration from TOML text, and validate it. -/
def ofToml (text : String) : Except LoadError Config :=
  match Toml.parse? text with
  | none => .error .malformed
  | some root => ofDocument root

/-- Read a configuration from a file, given by its bytes, or by nothing if it
is missing. -/
def ofFile : Option ByteArray → Except LoadError Config
  | none => .error (.fileRead "No such file or directory (os error 2)")
  | some bytes =>
      match String.fromUTF8? bytes with
      | some text => ofToml text
      | none => .error (.fileRead "stream did not contain valid UTF-8")

/-- The wording of a file that cannot be read and of an invalid configuration;
the wording for malformed text is left open. -/
def LoadError.message? : LoadError → Option String
  | .fileRead reason => some s!"Failed to read config file: {reason}"
  | .malformed => none
  | .invalid error => some error.message

end Diplomacy.Config
