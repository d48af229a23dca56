import Diplomacy.Proofs.Config.Partial
import Diplomacy.Proofs.Json.Written

/-!
Configurations as JSON text. The text that is written for a configuration is an
object that gives every field its value, so that reading it, as any table, gives
back the configuration itself.
-/

namespace Diplomacy.Config

variable {config : Config}

/-- A field as a member of the object that is written. -/
def writtenField (config : Config) : Field → Json.Member
  | .maxTreeDepth => ⟨Field.maxTreeDepth.key, _, _, Json.readsBack_natural config.maxTreeDepth⟩
  | .maxTreeNodes => ⟨Field.maxTreeNodes.key, _, _, Json.readsBack_natural config.maxTreeNodes⟩
  | .warnOnMultipleLieges =>
      ⟨Field.warnOnMultipleLieges.key, _, _, Json.readsBack_bool config.warnOnMultipleLieges⟩
  | .logFilter => ⟨Field.logFilter.key, _, _, Json.readsBack_string config.logFilter⟩

/-- Every field with its value, as the object holds them. -/
def jsonEntries (config : Config) : List (String × Json.Value) :=
  Field.all.map fun field => (field.key, config.jsonValue field)

theorem parse?_toJson (config : Config) :
    Json.parse? config.toJson =
      some (.object (config.jsonEntries.map fun (key, value) => (some key, value))) :=
  Json.parse?_writeObject (Field.all.map config.writtenField)

theorem mem_all (field : Field) : field ∈ Field.all := by
  cases field <;> decide

theorem gives_jsonEntries (config : Config) :
    Gives config.jsonValue Field.all.toFinset config.jsonEntries where
  distinct := by
    have keys : config.jsonEntries.map (·.1) = Field.all.map Field.key := rfl
    rw [keys]
    decide
  named field _ := List.mem_map.mpr ⟨field, mem_all field, rfl⟩
  unnamed field left := absurd (List.mem_toFinset.mpr (mem_all field)) left

/-- The text that is written for a configuration is read as this configuration,
and it is then as valid as it was. -/
theorem written_json_reads_back (representable : config.Representable) :
    ofJson? config.toJson = some config ∧
      (ofJson? config.toJson).map validate = some config.validate := by
  have read : ofJson? config.toJson = some config := by
    rw [ofJson?, parse?_toJson, Option.bind_some, sourceOfJson_object,
      ofTable_of_gives representable config.gives_jsonEntries config.settingOfJson_jsonValue,
      keeping_univ fun field => List.mem_toFinset.mpr (mem_all field)]
  refine ⟨read, ?_⟩
  rw [read]
  rfl

/-- A configuration with the largest bound, an invalid one, and a filter of characters that are
escaped by a letter, escaped by their numbers, or not escaped. -/
def awkward : Config where
  maxTreeDepth := 0xFFFF_FFFF_FFFF_FFFF
  maxTreeNodes := 0
  warnOnMultipleLieges := false
  logFilter := "\"\\/\x08\x0c\n\r\t\x00\x1f\x7fé😀"

theorem awkward_reads_back :
    awkward.toJson =
      "\x7b\"max_tree_depth\":18446744073709551615,\"max_tree_nodes\":0," ++
        "\"warn_on_multiple_lieges\":false,\"log_filter\":\"\\\"\\\\/\\b\\f\\n\\r\\t\\u0000\\u001f\x7fé😀\"\x7d" ∧
    ofJson? awkward.toJson = some awkward ∧
    (ofJson? awkward.toJson).map validate = some (.error .nodesAreZero) := by
  refine ⟨by decide +kernel, written_json_reads_back ⟨by decide, by decide⟩⟩

end Diplomacy.Config
