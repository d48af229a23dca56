import Mathlib.Data.List.Nodup
import Diplomacy.Config.Settings

/-!
Merging a table of settings with the defaults. The table must name no field
twice, and each setting that it gives must fit its field; then the fields that
it names take their settings and the others stay at their defaults, in whatever
order the entries stand and whatever else stands among them.
-/

namespace Diplomacy.Config

namespace Field

variable {field other : Field} {config result : Config} {setting : Setting} {key : String}

/-- What a configuration sets a field to. -/
def get (config : Config) : Field → Setting
  | .maxTreeDepth => .natural config.maxTreeDepth
  | .maxTreeNodes => .natural config.maxTreeNodes
  | .warnOnMultipleLieges => .truth config.warnOnMultipleLieges
  | .logFilter => .text config.logFilter

/-- A setting of the field's own kind. -/
def Takes : Field → Setting → Prop
  | .maxTreeDepth, .natural value => value < 0x1_0000_0000_0000_0000
  | .maxTreeNodes, .natural value => value < 0x1_0000_0000_0000_0000
  | .warnOnMultipleLieges, .truth _ => True
  | .logFilter, .text _ => True
  | _, _ => False

theorem ofKey?_eq_some_iff : ofKey? key = some field ↔ field.key = key := by
  constructor
  · intro found
    have named := List.find?_some found
    exact of_decide_eq_true named
  · rintro rfl
    cases field <;> decide

theorem ext_get (same : ∀ field, get config field = get result field) : config = result := by
  have depth := same .maxTreeDepth
  have nodes := same .maxTreeNodes
  have warn := same .warnOnMultipleLieges
  have filter := same .logFilter
  cases config
  cases result
  simp_all [get]

theorem get_of_set? (set : field.set? config setting = some result) :
    field.Takes setting ∧
      ∀ other, get result other = if other = field then setting else get config other := by
  cases field with
  | maxTreeDepth =>
      cases setting with
      | natural value =>
          rcases Option.ite_none_right_eq_some.mp set with ⟨small, equal⟩
          cases equal
          exact ⟨small, fun other => by cases other <;> rfl⟩
      | _ => cases set
  | maxTreeNodes =>
      cases setting with
      | natural value =>
          rcases Option.ite_none_right_eq_some.mp set with ⟨small, equal⟩
          cases equal
          exact ⟨small, fun other => by cases other <;> rfl⟩
      | _ => cases set
  | warnOnMultipleLieges =>
      cases setting with
      | truth value =>
          cases set
          exact ⟨trivial, fun other => by cases other <;> rfl⟩
      | _ => cases set
  | logFilter =>
      cases setting with
      | text value =>
          cases set
          exact ⟨trivial, fun other => by cases other <;> rfl⟩
      | _ => cases set

theorem exists_set? (takes : field.Takes setting) (config : Config) :
    ∃ result, field.set? config setting = some result := by
  cases field <;> cases setting <;> first | exact absurd takes id | skip
  · exact ⟨_, if_pos takes⟩
  · exact ⟨_, if_pos takes⟩
  · exact ⟨_, rfl⟩
  · exact ⟨_, rfl⟩

/-- A field is set exactly if it takes the setting, and no other field changes. -/
theorem set?_eq_some_iff :
    field.set? config setting = some result ↔
      field.Takes setting ∧
        ∀ other, get result other = if other = field then setting else get config other := by
  constructor
  · exact get_of_set?
  · intro ⟨takes, changed⟩
    rcases exists_set? takes config with ⟨written, set⟩
    rw [set]
    refine congrArg some (ext_get fun other => ?_)
    rw [(get_of_set? set).2 other, changed other]

end Field

variable {seen : List Field} {config result : Config} {entries left right : List (String × Setting)}
  {field : Field}

/-! ## Tables -/

/-- The fields that a table names. -/
def named (entries : List (String × Setting)) : List Field :=
  entries.filterMap fun entry => Field.ofKey? entry.1

/-- Distinct keys name distinct fields. -/
theorem nodup_named (distinct : (entries.map (·.1)).Nodup) : (named entries).Nodup := by
  have fields : named entries = (entries.map (·.1)).filterMap Field.ofKey? := by
    rw [List.filterMap_map]
    rfl
  rw [fields]
  refine distinct.filterMap fun left right field named again => ?_
  rw [← Field.ofKey?_eq_some_iff.mp named, Field.ofKey?_eq_some_iff.mp again]

/-- The setting that a table gives a field. -/
def given (entries : List (String × Setting)) (field : Field) : Option Setting :=
  (entries.find? (·.1 = field.key)).map (·.2)

theorem given_eq_none (unnamed : field ∉ named entries) : given entries field = none := by
  rw [given, Option.map_eq_none_iff, List.find?_eq_none]
  intro entry member found
  refine unnamed (List.mem_filterMap.mpr ⟨entry, member, ?_⟩)
  exact Field.ofKey?_eq_some_iff.mpr (of_decide_eq_true found).symm

theorem given_cons_of_unknown {key : String} {setting : Setting}
    (unknown : Field.ofKey? key = none) (field : Field) :
    given ((key, setting) :: entries) field = given entries field := by
  have differs : key ≠ field.key := by
    intro same
    rw [Field.ofKey?_eq_some_iff.mpr same.symm] at unknown
    cases unknown
  rw [given, List.find?_cons_of_neg (by simpa using differs), given]

theorem given_cons_of_known {key : String} {setting : Setting} {named : Field}
    (known : Field.ofKey? key = some named) (field : Field) :
    given ((key, setting) :: entries) field =
      if field = named then some setting else given entries field := by
  have same := Field.ofKey?_eq_some_iff.mp known
  by_cases here : field = named
  · subst here
    simp [given, same]
  · have differs : key ≠ field.key := by
      intro again
      rw [Field.ofKey?_eq_some_iff.mpr again.symm] at known
      exact here (Option.some.inj known)
    rw [if_neg here, given, List.find?_cons_of_neg (by simpa using differs), given]

/-- Every setting that a table gives fits its field. -/
def Fits (given : Field → Option Setting) : Prop :=
  ∀ field setting, given field = some setting → field.Takes setting

/-- A configuration with the given settings, and with those of another one elsewhere. -/
def Merges (config : Config) (given : Field → Option Setting) (result : Config) : Prop :=
  ∀ field, field.get result = (given field).getD (field.get config)

theorem fits_cons {key : String} {setting : Setting} (known : Field.ofKey? key = some field)
    (once : field ∉ named entries) :
    Fits (given ((key, setting) :: entries)) ↔ field.Takes setting ∧ Fits (given entries) := by
  have gives : ∀ other, given ((key, setting) :: entries) other =
      if other = field then some setting else given entries other := given_cons_of_known known
  constructor
  · intro fits
    refine ⟨fits field setting (by rw [gives, if_pos rfl]), fun other value found => ?_⟩
    apply fits
    rw [gives, if_neg, found]
    rintro rfl
    rw [given_eq_none once] at found
    cases found
  · rintro ⟨takes, fits⟩ other value found
    rw [gives] at found
    split at found
    · next here =>
        cases found
        exact here ▸ takes
    · exact fits other value found

theorem merges_cons {key : String} {setting : Setting} {next : Config}
    (known : Field.ofKey? key = some field) (once : field ∉ named entries)
    (changed : ∀ other, other.get next = if other = field then setting else other.get config) :
    Merges next (given entries) result ↔
      Merges config (given ((key, setting) :: entries)) result := by
  refine forall_congr' fun other => ?_
  rw [given_cons_of_known known, changed]
  split
  · next here =>
      subst here
      rw [given_eq_none once]
      rfl
  · rfl

/-- The entries are read from left to right, `seen` being the fields named before. -/
theorem setEntries?_eq_some_iff :
    setEntries? seen config entries = some result ↔
      (named entries).Nodup ∧ (∀ field ∈ named entries, field ∉ seen) ∧
        Fits (given entries) ∧ Merges config (given entries) result := by
  induction entries generalizing seen config with
  | nil =>
      constructor
      · rintro ⟨⟩
        refine ⟨.nil, by simp [named], ?_, fun field => rfl⟩
        intro field setting found
        cases found
      · rintro ⟨_, _, _, merges⟩
        exact congrArg some (Field.ext_get fun field => (merges field).symm)
  | cons entry entries induction =>
      rcases entry with ⟨key, setting⟩
      cases known : Field.ofKey? key with
      | none =>
          have same : given ((key, setting) :: entries) = given entries :=
            funext (given_cons_of_unknown known)
          simp only [setEntries?, induction, same, named, List.filterMap_cons, known]
      | some field =>
          have names : named ((key, setting) :: entries) = field :: named entries := by
            simp [named, known]
          simp only [setEntries?, known, names, List.nodup_cons, List.forall_mem_cons]
          by_cases again : field ∈ seen
          · simp [again]
          rw [if_neg again, Option.bind_eq_some_iff]
          constructor
          · rintro ⟨next, set, rest⟩
            rcases Field.set?_eq_some_iff.mp set with ⟨takes, changed⟩
            rcases induction.mp rest with ⟨distinct, fresh, fits, merges⟩
            have once : field ∉ named entries := fun member =>
              fresh field member List.mem_cons_self
            refine ⟨⟨once, distinct⟩, ⟨again, fun other member before => ?_⟩,
              (fits_cons known once).mpr ⟨takes, fits⟩, (merges_cons known once changed).mp merges⟩
            exact fresh other member (List.mem_cons_of_mem _ before)
          · rintro ⟨⟨once, distinct⟩, ⟨_, fresh⟩, fits, merges⟩
            rcases (fits_cons known once).mp fits with ⟨takes, fits⟩
            rcases Field.exists_set? takes config with ⟨next, set⟩
            have changed := (Field.set?_eq_some_iff.mp set).2
            refine ⟨next, set, induction.mpr ⟨distinct, fun other member before => ?_, fits,
              (merges_cons known once changed).mpr merges⟩⟩
            rcases List.mem_cons.mp before with rfl | before
            · exact once member
            · exact fresh other member before

theorem ofTable_eq_some_iff :
    ofSource? (.table entries) = some result ↔
      (named entries).Nodup ∧ Fits (given entries) ∧ Merges {} (given entries) result := by
  rw [ofSource?, setEntries?_eq_some_iff]
  simp

theorem exists_merges {given : Field → Option Setting} (fits : Fits given) :
    ∃ result, Merges {} given result := by
  have source : ∀ field : Field, ∃ config, field.get config = (given field).getD (field.get {}) := by
    intro field
    cases found : given field with
    | none => exact ⟨{}, rfl⟩
    | some setting =>
        rcases Field.exists_set? (fits field setting found) {} with ⟨config, set⟩
        exact ⟨config, ((Field.set?_eq_some_iff.mp set).2 field).trans (if_pos rfl)⟩
  rcases source .maxTreeDepth with ⟨depth, depthSame⟩
  rcases source .maxTreeNodes with ⟨nodes, nodesSame⟩
  rcases source .warnOnMultipleLieges with ⟨warn, warnSame⟩
  rcases source .logFilter with ⟨filter, filterSame⟩
  refine ⟨⟨depth.maxTreeDepth, nodes.maxTreeNodes, warn.warnOnMultipleLieges,
    filter.logFilter⟩, fun field => ?_⟩
  cases field with
  | maxTreeDepth => exact depthSame
  | maxTreeNodes => exact nodesSame
  | warnOnMultipleLieges => exact warnSame
  | logFilter => exact filterSame

theorem exists_ofTable (distinct : (named entries).Nodup) (fits : Fits (given entries)) :
    ∃ config, ofSource? (.table entries) = some config ∧ Merges {} (given entries) config := by
  rcases exists_merges fits with ⟨config, merges⟩
  exact ⟨config, ofTable_eq_some_iff.mpr ⟨distinct, fits, merges⟩, merges⟩

theorem ofTable_eq_none (misfit : ¬ Fits (given entries)) : ofSource? (.table entries) = none := by
  rw [Option.eq_none_iff_forall_ne_some]
  intro config read
  exact misfit (ofTable_eq_some_iff.mp read).2.1

/-- Where no field is named twice, a table counts by the settings that it gives,
not by their order or by what stands among them. -/
theorem ofTable_eq (leftDistinct : (named left).Nodup) (rightDistinct : (named right).Nodup)
    (same : ∀ field, given left field = given right field) :
    ofSource? (.table left) = ofSource? (.table right) := by
  ext config
  simp only [ofTable_eq_some_iff, leftDistinct, rightDistinct, funext same]

end Diplomacy.Config
