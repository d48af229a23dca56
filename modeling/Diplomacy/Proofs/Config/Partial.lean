import Mathlib.Data.Finset.Basic
import Diplomacy.Config.Json
import Diplomacy.Proofs.Config.Layouts
import Diplomacy.Proofs.Steps

/-!
Tables that give some of the fields. In either format, a table that gives a
configuration's values for some fields and names no others is read as that
configuration with its other fields at their defaults, wherever the keys stand
and whatever unknown ones stand among them. A single value that is no value of
its field in any configuration makes the reading fail.
-/

namespace Diplomacy.Config

/-- Both bounds are numbers of 64 bits. -/
structure Representable (config : Config) : Prop where
  depth : config.maxTreeDepth < 0x1_0000_0000_0000_0000
  nodes : config.maxTreeNodes < 0x1_0000_0000_0000_0000

/-- A configuration with only some of its fields kept, and the defaults elsewhere. -/
def keeping (config : Config) (fields : Finset Field) : Config where
  maxTreeDepth := if .maxTreeDepth ∈ fields then config.maxTreeDepth else 64
  maxTreeNodes := if .maxTreeNodes ∈ fields then config.maxTreeNodes else 4096
  warnOnMultipleLieges :=
    if .warnOnMultipleLieges ∈ fields then config.warnOnMultipleLieges else true
  logFilter := if .logFilter ∈ fields then config.logFilter else "info"

/-- The JSON value of a field. -/
def jsonValue (config : Config) : Field → Json.Value
  | .maxTreeDepth => .natural config.maxTreeDepth
  | .maxTreeNodes => .natural config.maxTreeNodes
  | .warnOnMultipleLieges => .bool config.warnOnMultipleLieges
  | .logFilter => .string (some config.logFilter)

/-- The TOML value of a field. -/
def tomlValue (config : Config) : Field → Toml.Value
  | .maxTreeDepth => .integer config.maxTreeDepth
  | .maxTreeNodes => .integer config.maxTreeNodes
  | .warnOnMultipleLieges => .boolean config.warnOnMultipleLieges
  | .logFilter => .text config.logFilter

/-- A table with distinct keys, in any order, that gives some fields the values
of a format and names no other field. Its remaining keys are unknown ones. -/
structure Gives {α : Type} (value : Field → α) (fields : Finset Field)
    (entries : List (String × α)) : Prop where
  distinct : (entries.map (·.1)).Nodup
  named : ∀ field ∈ fields, (field.key, value field) ∈ entries
  unnamed : ∀ field ∉ fields, field.key ∉ entries.map (·.1)

variable {config : Config} {fields : Finset Field} {field : Field} {setting : Setting}

/-! ## Settings -/

theorem get_keeping (config : Config) (fields : Finset Field) (field : Field) :
    field.get (config.keeping fields) =
      if field ∈ fields then field.get config else field.get {} := by
  cases field <;> simp only [keeping, Field.get] <;> split <;> rfl

theorem keeping_univ (every : ∀ field, field ∈ fields) : config.keeping fields = config := by
  apply Field.ext_get
  intro field
  rw [get_keeping, if_pos (every field)]

theorem representable_iff_takes :
    config.Representable ↔ ∀ field : Field, field.Takes (field.get config) := by
  constructor
  · intro representable field
    cases field with
    | maxTreeDepth => exact representable.depth
    | maxTreeNodes => exact representable.nodes
    | warnOnMultipleLieges => trivial
    | logFilter => trivial
  · intro takes
    exact ⟨takes .maxTreeDepth, takes .maxTreeNodes⟩

/-- A field takes only what some configuration sets it to. -/
theorem exists_get_eq (takes : field.Takes setting) :
    ∃ config : Config, config.Representable ∧ field.get config = setting := by
  have defaults : Representable {} := ⟨by decide, by decide⟩
  rcases Field.exists_set? takes {} with ⟨config, set⟩
  have changed := (Field.get_of_set? set).2
  refine ⟨config, representable_iff_takes.mpr fun other => ?_, (changed field).trans (if_pos rfl)⟩
  rw [changed other]
  split
  · next same => exact same ▸ takes
  · exact representable_iff_takes.mp defaults other

/-- Where no field is named twice, a table gives each field the setting that stands at its key. -/
theorem given_of_mem {entries : List (String × Setting)} (distinct : (named entries).Nodup)
    (member : (field.key, setting) ∈ entries) : given entries field = some setting := by
  induction entries with
  | nil => cases member
  | cons entry entries induction =>
      rcases entry with ⟨key, first⟩
      have known : Field.ofKey? field.key = some field := Field.ofKey?_eq_some_iff.mpr rfl
      rcases List.mem_cons.mp member with here | there
      · cases here
        rw [given_cons_of_known known, if_pos rfl]
      · have later : field ∈ named entries := List.mem_filterMap.mpr ⟨_, there, known⟩
        cases other : Field.ofKey? key with
        | none =>
            rw [given_cons_of_unknown other]
            simp only [named, List.filterMap_cons, other] at distinct
            exact induction distinct there
        | some otherField =>
            simp only [named, List.filterMap_cons, other, List.nodup_cons] at distinct
            have differs : field ≠ otherField := by
              rintro rfl
              exact distinct.1 later
            rw [given_cons_of_known other, if_neg differs]
            exact induction distinct.2 there

theorem Gives.given {α : Type} {value : Field → α} {entries : List (String × α)}
    (gives : Gives value fields entries) (settingOf : α → Setting) (field : Field) :
    given (entries.map fun (key, value) => (key, settingOf value)) field =
      if field ∈ fields then some (settingOf (value field)) else none := by
  have keys : (entries.map fun (key, value) => (key, settingOf value)).map (·.1) =
      entries.map (·.1) := by
    rw [List.map_map]
    rfl
  split
  · next kept =>
      apply given_of_mem
      · apply nodup_named
        rw [keys]
        exact gives.distinct
      · exact List.mem_map.mpr ⟨_, gives.named field kept, rfl⟩
  · next left =>
      apply given_eq_none
      intro named
      rcases List.mem_filterMap.mp named with ⟨entry, member, known⟩
      apply gives.unnamed field left
      rw [← keys, Field.ofKey?_eq_some_iff.mp known]
      exact List.mem_map_of_mem member

/-- A table of settings that gives some fields what a configuration sets them to. -/
theorem ofTable_of_gives {α : Type} {value : Field → α} {settingOf : α → Setting}
    {entries : List (String × α)} (representable : config.Representable)
    (gives : Gives value fields entries)
    (sets : ∀ field, settingOf (value field) = field.get config) :
    ofSource? (.table (entries.map fun (key, value) => (key, settingOf value))) =
      some (config.keeping fields) := by
  have given : given (entries.map fun (key, value) => (key, settingOf value)) =
      fun field => if field ∈ fields then some (field.get config) else none := by
    funext field
    rw [gives.given settingOf field, sets]
  rw [ofTable_eq_some_iff, given]
  refine ⟨nodup_named ?distinct, ?fits, ?merges⟩
  case distinct =>
    rw [List.map_map]
    exact gives.distinct
  case fits =>
    intro field setting found
    rcases Option.ite_none_right_eq_some.mp found with ⟨_, equal⟩
    cases equal
    exact representable_iff_takes.mp representable field
  case merges =>
    intro field
    rw [get_keeping]
    dsimp only
    split <;> rfl

/-- Wherever a setting that does not fit stands in a table, the table is refused. -/
theorem ofTable_of_misfit {entries : List (String × Setting)}
    (member : (field.key, setting) ∈ entries) (misfit : ¬ field.Takes setting) :
    ofSource? (.table entries) = none := by
  rw [Option.eq_none_iff_forall_ne_some]
  intro config read
  rcases ofTable_eq_some_iff.mp read with ⟨distinct, fits, _⟩
  exact misfit (fits field setting (given_of_mem distinct member))

/-! ## JSON -/

theorem settingOfJson_jsonValue (config : Config) (field : Field) :
    settingOfJson (config.jsonValue field) = field.get config := by
  cases field <;> rfl

theorem eq_jsonValue {value : Json.Value} (same : settingOfJson value = field.get config) :
    config.jsonValue field = value := by
  unfold settingOfJson at same
  split at same
  · cases field <;> simp_all [Field.get, jsonValue]
  · cases field <;> simp_all [Field.get, jsonValue]
  · cases field <;> simp_all [Field.get, jsonValue]
  · cases field <;> cases same

theorem ofJsonObject_of_misfit {members : List (Json.Text × Json.Value)} {value : Json.Value}
    (member : (some field.key, value) ∈ members)
    (misfit : ∀ config : Config, config.Representable → config.jsonValue field ≠ value) :
    ofSource? (sourceOfJson (.object members)) = none := by
  rw [sourceOfJson]
  split
  · next entries done =>
      have entry : (field.key, settingOfJson value) ∈ entries := mem_of_mapM_eq_some done member rfl
      apply ofTable_of_misfit entry
      intro takes
      rcases exists_get_eq takes with ⟨config, representable, same⟩
      exact misfit config representable (eq_jsonValue same.symm)
  · rfl

theorem sourceOfJson_object (entries : List (String × Json.Value)) :
    sourceOfJson (.object (entries.map fun (key, value) => (some key, value))) =
      .table (entries.map fun (key, value) => (key, settingOfJson value)) := by
  have named : (entries.map fun (key, value) => (some key, value)).mapM
      (fun (name, value) => name.map fun key => (key, settingOfJson value)) =
        some (entries.map fun (key, value) => (key, settingOfJson value)) := by
    rw [mapM_eq_some_iff, List.forall₂_map_left_iff, List.forall₂_map_right_iff, List.forall₂_same]
    intro entry _
    rfl
  rw [sourceOfJson, named]

/-! ## TOML -/

theorem settingOfToml_tomlValue (config : Config) (field : Field) :
    settingOfToml (config.tomlValue field) = field.get config := by
  cases field <;> simp [settingOfToml, tomlValue, Field.get]

theorem eq_tomlValue {value : Toml.Value} (same : settingOfToml value = field.get config) :
    config.tomlValue field = value := by
  unfold settingOfToml at same
  split at same
  · split at same
    · cases field <;> simp_all [Field.get, tomlValue] <;> omega
    · cases field <;> cases same
  · cases field <;> simp_all [Field.get, tomlValue]
  · cases field <;> simp_all [Field.get, tomlValue]
  · cases field <;> cases same

theorem ofTomlEntries_of_misfit {entries : Toml.Entries} {value : Toml.Value}
    (member : (field.key, value) ∈ entries)
    (misfit : ∀ config : Config, config.Representable → config.tomlValue field ≠ value) :
    ofSource? (sourceOfEntries entries) = none := by
  have entry : (field.key, settingOfToml value) ∈ settingsOf entries :=
    List.mem_map.mpr ⟨_, member, rfl⟩
  apply ofTable_of_misfit entry
  intro takes
  rcases exists_get_eq takes with ⟨config, representable, same⟩
  exact misfit config representable (eq_tomlValue same.symm)

/-- What a document is read as if it has no section that can be read. -/
theorem ofToml_of_bare {text : String} {root : Toml.Entries} {outcome : Option Config}
    (parsed : Toml.parse? text = some root)
    (sectionless : ((root.get? sectionKey).bind fun value => ofSource? (sourceOfToml value)) = none)
    (read : ofSource? (sourceOfEntries root) = outcome) :
    ofToml text = match outcome with
      | some config => checked config
      | none => .error .malformed := by
  have entries : ofEntries? root = outcome := by
    rw [ofEntries?, sectionless, read]
    rfl
  cases outcome with
  | none => simp only [ofToml, parsed, ofDocument, entries]
  | some config => exact ofToml_eq parsed entries

/-- A JSON object or a TOML table that gives a configuration's values for some
of the fields is read as this configuration with the defaults elsewhere, in
whatever order its keys stand and whatever unknown keys are among them. If one
value is no value of its field in any configuration, the table is refused. A
document is read as its root table unless it has a section that can be read. -/
theorem partial_tables_merge_with_defaults :
    (∀ (config : Config) (fields : Finset Field) (entries : List (String × Json.Value)),
      config.Representable → Gives config.jsonValue fields entries →
      let object := Json.Value.object (entries.map fun (key, value) => (some key, value))
      ofSource? (sourceOfJson object) = some (config.keeping fields) ∧
      ∀ text, Json.parse? text = some object → ofJson? text = some (config.keeping fields)) ∧
    (∀ (members : List (Json.Text × Json.Value)) (field : Field) (value : Json.Value),
      (some field.key, value) ∈ members →
      (∀ config : Config, config.Representable → config.jsonValue field ≠ value) →
      ofSource? (sourceOfJson (.object members)) = none ∧
      ∀ text, Json.parse? text = some (.object members) → ofJson? text = none) ∧
    (∀ (config : Config) (fields : Finset Field) (entries : Toml.Entries),
      config.Representable → Gives config.tomlValue fields entries →
      ofSource? (sourceOfEntries entries) = some (config.keeping fields) ∧
      ∀ text, Toml.parse? text = some entries →
        ((entries.get? sectionKey).bind fun value => ofSource? (sourceOfToml value)) = none →
        ofToml text = checked (config.keeping fields)) ∧
    (∀ (entries : Toml.Entries) (field : Field) (value : Toml.Value), (field.key, value) ∈ entries →
      (∀ config : Config, config.Representable → config.tomlValue field ≠ value) →
      ofSource? (sourceOfEntries entries) = none ∧
      ∀ text, Toml.parse? text = some entries →
        ((entries.get? sectionKey).bind fun value => ofSource? (sourceOfToml value)) = none →
        ofToml text = .error .malformed) := by
  refine ⟨?jsonMerges, ?jsonRefused, ?tomlMerges, ?tomlRefused⟩
  case jsonMerges =>
    intro config fields entries representable gives object
    have read : ofSource? (sourceOfJson object) = some (config.keeping fields) := by
      rw [sourceOfJson_object]
      exact ofTable_of_gives representable gives config.settingOfJson_jsonValue
    refine ⟨read, fun text parsed => ?_⟩
    rw [ofJson?, parsed]
    exact read
  case jsonRefused =>
    intro members field value member misfit
    have refused := ofJsonObject_of_misfit member misfit
    refine ⟨refused, fun text parsed => ?_⟩
    rw [ofJson?, parsed]
    exact refused
  case tomlMerges =>
    intro config fields entries representable gives
    have read : ofSource? (sourceOfEntries entries) = some (config.keeping fields) :=
      ofTable_of_gives representable gives config.settingOfToml_tomlValue
    exact ⟨read, fun text parsed sectionless => ofToml_of_bare parsed sectionless read⟩
  case tomlRefused =>
    intro entries field value member misfit
    have refused := ofTomlEntries_of_misfit member misfit
    exact ⟨refused, fun text parsed sectionless => ofToml_of_bare parsed sectionless refused⟩

/-- One of four fields stands between unknown keys; a bound is negative. -/
theorem table_with_unknown_keys_merges :
    ofJson? "\x7b\"relations\":[null],\"max_tree_depth\":3,\"max-tree-nodes\":-1\x7d" =
      some { maxTreeDepth := 3 } ∧
    ofToml "other = 1\nmax_tree_depth = -1" = .error .malformed := by
  let config : Config := { maxTreeDepth := 3, maxTreeNodes := 5 }
  let entries := [("relations", Json.Value.array [.null]), ("max_tree_depth", .natural 3),
    ("max-tree-nodes", .otherNumber)]
  let table : Toml.Entries := [("other", .integer 1), ("max_tree_depth", .integer (-1))]
  have gives : Gives config.jsonValue {.maxTreeDepth} entries := by
    refine ⟨by decide, ?_, ?_⟩
    · intro field kept
      rw [Finset.mem_singleton.mp kept]
      exact .tail _ (.head _)
    · intro field left
      cases field with
      | maxTreeDepth => exact absurd (Finset.mem_singleton_self _) left
      | maxTreeNodes => decide
      | warnOnMultipleLieges => decide
      | logFilter => decide
  rcases partial_tables_merge_with_defaults with ⟨merges, _, _, refused⟩
  constructor
  · apply (merges config {.maxTreeDepth} entries ⟨by decide, by decide⟩ gives).2
    decide +kernel
  · apply (refused table .maxTreeDepth (.integer (-1)) (.tail _ (.head _)) ?misfit).2
      "other = 1\nmax_tree_depth = -1" (by decide +kernel) rfl
    case misfit =>
      rintro config - ⟨⟩

end Diplomacy.Config
