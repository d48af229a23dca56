import Diplomacy.Config.Toml
import Diplomacy.Proofs.Config.Merging
import Diplomacy.Proofs.Toml.Distinct

/-!
The two layouts of a configuration file. A table that fits is the same
configuration at the root of a document and in its section, or the same invalid
one. They part where it does not fit: at the root it is refused, but in the
section it is passed over, and the defaults are taken without a word.
-/

namespace Diplomacy.Config

variable {root table : Toml.Entries} {origin : Toml.Origin} {config : Config}

/-- The setting that a TOML table gives a field. -/
def settingIn (entries : Toml.Entries) (field : Field) : Option Setting :=
  (entries.get? field.key).map settingOfToml

/-- A configuration that was read, if it is valid. -/
def checked (config : Config) : Except LoadError Config :=
  match config.validate with
  | .ok () => .ok config
  | .error error => .error (.invalid error)

/-- The entries of a TOML table as the settings that a configuration is read from. -/
abbrev settingsOf (entries : Toml.Entries) : List (String × Setting) :=
  entries.map fun (key, value) => (key, settingOfToml value)

theorem given_settingsOf (entries : Toml.Entries) : given (settingsOf entries) = settingIn entries := by
  funext field
  simp only [given, settingsOf, settingIn, Toml.Entries.get?, List.find?_map, Option.map_map]
  rfl

theorem nodup_named_settingsOf (proper : root.Proper) : (named (settingsOf root)).Nodup := by
  apply nodup_named
  rw [List.map_map]
  exact proper.distinct

/-- A table that fits reads as the settings that it gives, merged with the defaults. -/
theorem exists_ofEntries (proper : root.Proper) (fits : Fits (settingIn root)) :
    ∃ config, ofSource? (sourceOfEntries root) = some config ∧ Merges {} (settingIn root) config := by
  rw [← given_settingsOf] at fits ⊢
  exact exists_ofTable (nodup_named_settingsOf proper) fits

theorem ofEntries_eq_none (misfit : ¬ Fits (settingIn root)) :
    ofSource? (sourceOfEntries root) = none := by
  rw [← given_settingsOf] at misfit
  exact ofTable_eq_none misfit

theorem ofSection_eq (proper : root.Proper) (inside : table.Proper)
    (same : ∀ field, settingIn root field = settingIn table field) :
    ofSource? (sourceOfToml (.table origin table)) = ofSource? (sourceOfEntries root) := by
  refine ofTable_eq (nodup_named_settingsOf inside) (nodup_named_settingsOf proper) fun field => ?_
  rw [given_settingsOf, given_settingsOf, same]

theorem ofEntries?_of_bare (unsectioned : root.get? sectionKey = none) :
    ofEntries? root = ofSource? (sourceOfEntries root) := by
  rw [ofEntries?, unsectioned]
  rfl

theorem ofEntries?_of_section :
    ofEntries? [(sectionKey, .table origin table)] =
      some ((ofSource? (sourceOfToml (.table origin table))).getD {}) := by
  have bare : ofSource? (sourceOfEntries [(sectionKey, .table origin table)]) = some {} := rfl
  rw [ofEntries?, bare]
  cases read : ofSource? (sourceOfToml (.table origin table)) <;>
    simp [Toml.Entries.get?, read]

theorem ofToml_eq {text : String} (parsed : Toml.parse? text = some root)
    (read : ofEntries? root = some config) : ofToml text = checked config := by
  simp only [ofToml, parsed, ofDocument, read]
  rfl

/-- A table at the root of one document and in the section of another. Both give
the same outcome if the table fits; otherwise only the root layout refuses it. -/
theorem layouts_agree_or_section_is_passed_over {bare sectioned : String}
    (parsed : Toml.parse? bare = some root)
    (sectionParsed : Toml.parse? sectioned = some [(sectionKey, .table origin table)])
    (same : ∀ field, settingIn root field = settingIn table field)
    (unsectioned : root.get? sectionKey = none) :
    (Fits (settingIn root) → ∃ config, Merges {} (settingIn root) config ∧
      ofToml bare = checked config ∧ ofToml sectioned = checked config) ∧
    (¬ Fits (settingIn root) → ofToml bare = .error .malformed ∧ ofToml sectioned = .ok {}) := by
  have proper := Toml.proper_of_parse? parsed
  have inside : table.Proper := Toml.Entries.proper_of_table
    ((Toml.proper_of_parse? sectionParsed).values _ (List.mem_singleton.mpr rfl))
  have sectionRead : ofSource? (sourceOfToml (.table origin table)) =
      ofSource? (sourceOfEntries root) := ofSection_eq proper inside same
  have rootRead := ofEntries?_of_bare unsectioned
  constructor
  · intro fits
    rcases exists_ofEntries proper fits with ⟨config, read, merges⟩
    refine ⟨config, merges, ofToml_eq parsed (rootRead.trans read), ofToml_eq sectionParsed ?_⟩
    rw [ofEntries?_of_section, sectionRead, read]
    rfl
  · intro misfit
    have refused := ofEntries_eq_none misfit
    constructor
    · simp only [ofToml, parsed, ofDocument, rootRead, refused]
    · have defaults : checked {} = .ok {} := by decide
      rw [← defaults]
      apply ofToml_eq sectionParsed
      rw [ofEntries?_of_section, sectionRead, refused]
      rfl

def bareFile : String := "max_tree_depth = 3\nfactions = [7]\nlog_filter = \"warn\"\n"

def bareTable : Toml.Entries :=
  [("max_tree_depth", .integer 3), ("factions", .array [.integer 7]), ("log_filter", .text "warn")]

def sectionedFile : String := "[relations]\nlog_filter = \"warn\"\nmax_tree_depth = 3\n"

def sectionTable : Toml.Entries := [("log_filter", .text "warn"), ("max_tree_depth", .integer 3)]

theorem fits_bareTable : Fits (settingIn bareTable) := by
  intro field setting found
  cases field with
  | maxTreeDepth =>
      cases found
      exact Nat.lt_of_lt_of_le (by decide : 3 < 4) (by decide)
  | maxTreeNodes => cases found
  | warnOnMultipleLieges => cases found
  | logFilter =>
      cases found
      trivial

theorem layouts_agree_on_files :
    ∃ config, config.maxTreeDepth = 3 ∧ config.maxTreeNodes = 4096 ∧
      ofToml bareFile = checked config ∧ ofToml sectionedFile = checked config := by
  have parsed : Toml.parse? bareFile = some bareTable := by decide +kernel
  have sectionParsed : Toml.parse? sectionedFile =
      some [(sectionKey, .table .header sectionTable)] := by decide +kernel
  have same : ∀ field, settingIn bareTable field = settingIn sectionTable field := by
    intro field
    cases field <;> rfl
  have agree := layouts_agree_or_section_is_passed_over parsed sectionParsed same rfl
  rcases agree.1 fits_bareTable with ⟨config, merges, bare, sectioned⟩
  exact ⟨config, Setting.natural.inj (merges .maxTreeDepth),
    Setting.natural.inj (merges .maxTreeNodes), bare, sectioned⟩

/-- A bound that does not fit is refused at the root, but not in the section. -/
theorem negative_bound_in_section_is_passed_over :
    ofToml "max_tree_depth = -1" = .error .malformed ∧
      ofToml "[relations]\nmax_tree_depth = -1" = .ok {} := by
  decide +kernel

end Diplomacy.Config
