import Mathlib.Data.List.Induction
import Mathlib.Data.List.MinMax
import Mathlib.Data.List.Nodup
import Diplomacy.Proofs.Index.Roster

/-!
Commits of one record that reach the index in any order. Writers may race from the
repository to the index, so that a commit can come after a newer one. As long as
the record is not removed, what is indexed only ever gets newer, and in the end it
is the newest of the commits, whatever happens to other records meanwhile.
-/

namespace Diplomacy

/-- The record that a change commits, if it is one of an identifier. -/
def Change.arrival? (id : RelationshipId) : Change → Option Relationship
  | .commit record => if record.id = id then some record else none
  | .remove _ => none

/-- The records of an identifier that some changes commit, in their order. -/
def arrivals (id : RelationshipId) (changes : List Change) : List Relationship :=
  changes.filterMap (Change.arrival? id)

theorem Change.arrival?_eq_some_iff {id : RelationshipId} {change : Change}
    {record : Relationship} :
    change.arrival? id = some record ↔ change = .commit record ∧ record.id = id := by
  cases change with
  | commit other =>
      simp only [arrival?, Option.ite_none_right_eq_some, Option.some.injEq, commit.injEq]
      constructor
      · rintro ⟨own, rfl⟩
        exact ⟨rfl, own⟩
      · rintro ⟨rfl, own⟩
        exact ⟨own, rfl⟩
  | remove other => simp [arrival?]

/-- Of records with distinct versions one is the newest, if no other has a greater version. -/
theorem argmax_version_eq_some_iff {records : List Relationship} {record : Relationship}
    (distinct : (records.map (·.version)).Nodup) :
    records.argmax (·.version.value) = some record ↔
      record ∈ records ∧ ∀ other ∈ records, other.version.value ≤ record.version.value := by
  rw [List.argmax_eq_some_iff]
  constructor
  · rintro ⟨member, greatest, -⟩
    exact ⟨member, greatest⟩
  · rintro ⟨member, greatest⟩
    refine ⟨member, greatest, fun other listed atLeast => ?_⟩
    have equal := Version.ext (Nat.le_antisymm atLeast (greatest other listed))
    rw [List.inj_on_of_nodup_map distinct member listed equal]

namespace Index

variable {index : Index} {id : RelationshipId} {change : Change} {changes : List Change}
  {old : Relationship}

/-- The index after some changes. -/
def after (index : Index) (changes : List Change) : Index :=
  (changeAll Index.change changes index).2

/-- The record that is indexed for an identifier and those that are committed for it. -/
def contenders (index : Index) (id : RelationshipId) (changes : List Change) :
    List Relationship :=
  (index.get? id).toList ++ arrivals id changes

theorem after_append (index : Index) (first rest : List Change) :
    index.after (first ++ rest) = (index.after first).after rest := by
  simp only [after, changeAll_append]

theorem contenders_append (index : Index) (id : RelationshipId) (first rest : List Change) :
    index.contenders id (first ++ rest) = index.contenders id first ++ arrivals id rest := by
  rw [contenders, contenders, arrivals, List.filterMap_append, List.append_assoc]
  rfl

/-! ## One change -/

/-- What is indexed for an identifier changes only by its commits and its removal. -/
theorem get?_change_of_other (index : Index) (other : change.arrival? id = none)
    (spared : change ≠ .remove id) : (index.change change).2.get? id = index.get? id := by
  cases change with
  | commit record =>
      have differs : record.id ≠ id := by simpa [Change.arrival?] using other
      dsimp only [Index.change]
      rcases applyCommitted_cases index record with ⟨-, -, -, ignored⟩ | ⟨-, -, listed⟩
      · rw [ignored]
      · rw [get?_of_placed listed, if_neg differs]
  | remove removed =>
      have differs : id ≠ removed := fun same => spared (same ▸ rfl)
      exact (get?_remove index removed id).trans (if_neg differs)

/-- A commit is indexed unless a newer record is. -/
theorem get?_change_of_commit (index : Index) (record : Relationship) :
    (∃ newer, index.get? record.id = some newer ∧ record.version.value < newer.version.value ∧
        index.change (.commit record) = (.commit false, index)) ∨
      (∀ old, index.get? record.id = some old → old.version.value ≤ record.version.value) ∧
        (index.change (.commit record)).1 = .commit true ∧
        (index.change (.commit record)).2.get? record.id = some record := by
  dsimp only [Index.change]
  rcases applyCommitted_cases index record with
    ⟨newer, indexed, late, ignored⟩ | ⟨current, installed, listed⟩
  · exact .inl ⟨newer, indexed, late, by rw [ignored]⟩
  · refine .inr ⟨current, by rw [installed], ?_⟩
    rw [get?_of_placed listed, if_pos rfl]

theorem exists_get?_change (indexed : index.get? id = some old) (spared : change ≠ .remove id) :
    ∃ new, (index.change change).2.get? id = some new ∧
      old.version.value ≤ new.version.value := by
  cases arrived : change.arrival? id with
  | none =>
      rw [get?_change_of_other index arrived spared]
      exact ⟨old, indexed, Nat.le_refl _⟩
  | some record =>
      rcases Change.arrival?_eq_some_iff.mp arrived with ⟨rfl, rfl⟩
      rcases get?_change_of_commit index record with ⟨-, -, -, ignored⟩ | ⟨current, -, found⟩
      · rw [ignored]
        exact ⟨old, indexed, Nat.le_refl _⟩
      · exact ⟨record, found, current old indexed⟩

/-! ## Runs -/

/-- A record that is not removed is only ever replaced by one that is at least as new. -/
theorem exists_get?_after (indexed : index.get? id = some old) (spared : .remove id ∉ changes) :
    ∃ new, (index.after changes).get? id = some new ∧ old.version.value ≤ new.version.value := by
  induction changes generalizing index old with
  | nil => exact ⟨old, indexed, Nat.le_refl _⟩
  | cons change changes induction =>
      rw [List.mem_cons, not_or] at spared
      rcases exists_get?_change indexed (Ne.symm spared.1) with ⟨middle, found, older⟩
      rcases induction found spared.2 with ⟨new, last, newer⟩
      exact ⟨new, last, Nat.le_trans older newer⟩

theorem get?_after (spared : .remove id ∉ changes)
    (distinct : ((index.contenders id changes).map (·.version)).Nodup) :
    (index.after changes).get? id =
      (index.contenders id changes).argmax (·.version.value) := by
  induction changes using List.reverseRecOn with
  | nil =>
      change index.get? id = ((index.get? id).toList ++ []).argmax _
      cases index.get? id with
      | none => rfl
      | some indexed => rfl
  | append_singleton changes last induction =>
      rw [List.mem_append, not_or, List.mem_singleton] at spared
      rw [contenders_append] at distinct ⊢
      have earlier := induction spared.1
        (((List.sublist_append_left _ _).map _).nodup distinct)
      rw [after_append]
      change ((index.after changes).change last).2.get? id = _
      cases arrived : last.arrival? id with
      | none =>
          have unmoved : arrivals id [last] = [] := by simp [arrivals, arrived]
          rw [get?_change_of_other _ arrived (Ne.symm spared.2), earlier, unmoved, List.append_nil]
      | some record =>
          have joined : arrivals id [last] = [record] := by simp [arrivals, arrived]
          rcases Change.arrival?_eq_some_iff.mp arrived with ⟨rfl, rfl⟩
          rw [joined] at distinct ⊢
          rw [List.argmax_concat, ← earlier]
          rcases get?_change_of_commit (index.after changes) record with
            ⟨newer, indexed, late, ignored⟩ | ⟨current, -, found⟩
          · rw [ignored, indexed]
            exact (if_neg (Nat.lt_asymm late)).symm
          · rw [found]
            cases indexed : (index.after changes).get? record.id with
            | none => rfl
            | some old =>
                -- An equal version would be replaced as well, but no contender has one.
                have listed : old ∈ index.contenders record.id changes :=
                  List.argmax_mem (earlier.symm.trans indexed)
                have differs : old.version ≠ record.version := by
                  rw [List.map_append, List.nodup_append] at distinct
                  exact distinct.2.2 _ (List.mem_map_of_mem listed) _ List.mem_cons_self
                have older : old.version.value < record.version.value :=
                  Nat.lt_of_le_of_ne (current old indexed) fun same => differs (Version.ext same)
                exact (if_pos older).symm

/-- Whether the index installs a commit among others is told by what it then holds. -/
theorem receipt_of_commit (index : Index) (earlier later : List Change) (record : Relationship) :
    ∃ installed,
      (changeAll Index.change (earlier ++ .commit record :: later) index).1[earlier.length]? =
        some (.commit installed) ∧
      (installed = false ↔ ∃ newer, (index.after earlier).get? record.id = some newer ∧
        record.version.value < newer.version.value) := by
  have receipt :
      (changeAll Index.change (earlier ++ .commit record :: later) index).1[earlier.length]? =
        some ((index.after earlier).change (.commit record)).1 := by
    rw [changeAll_append, List.getElem?_append_right (length_changeAll ..).le, length_changeAll,
      Nat.sub_self]
    rfl
  rw [receipt]
  rcases get?_change_of_commit (index.after earlier) record with
    ⟨newer, indexed, late, ignored⟩ | ⟨current, installed, -⟩
  · rw [ignored]
    exact ⟨false, rfl, fun _ => ⟨newer, indexed, late⟩, fun _ => rfl⟩
  · rw [installed]
    refine ⟨true, rfl, Bool.noConfusion, ?_⟩
    rintro ⟨newer, indexed, late⟩
    exact absurd late (Nat.not_lt.mpr (current newer indexed))

/-- Commits of an identifier with distinct versions, among any changes but its
removal. In whatever order they come, the newest contender is indexed at the end.
What is indexed never gets older, and a commit is refused exactly if a newer record
has been indexed by the time it comes. -/
theorem late_commits_never_roll_back (index : Index) (id : RelationshipId)
    {changes : List Change} (spared : .remove id ∉ changes)
    (distinct : ((index.contenders id changes).map (·.version)).Nodup) :
    (index.after changes).get? id = (index.contenders id changes).argmax (·.version.value) ∧
      (∀ reordered, .remove id ∉ reordered → (arrivals id reordered).Perm (arrivals id changes) →
        (index.after reordered).get? id = (index.after changes).get? id) ∧
      (∀ earlier later, earlier <+: later → later <+: changes →
        ∀ old, (index.after earlier).get? id = some old →
          ∃ new, (index.after later).get? id = some new ∧
            old.version.value ≤ new.version.value) ∧
      ∀ earlier record later, changes = earlier ++ .commit record :: later → record.id = id →
        ∃ installed,
          (changeAll Index.change changes index).1[earlier.length]? = some (.commit installed) ∧
          (installed = false ↔ ∃ before newer, before <+: earlier ∧
            (index.after before).get? id = some newer ∧
            record.version.value < newer.version.value) := by
  have rises : ∀ {earlier later}, earlier <+: later → later <+: changes →
      ∀ {old}, (index.after earlier).get? id = some old →
        ∃ new, (index.after later).get? id = some new ∧
          old.version.value ≤ new.version.value := by
    rintro earlier _ ⟨between, rfl⟩ ⟨rest, split⟩ old indexed
    rw [after_append]
    refine exists_get?_after indexed fun removed => spared ?_
    rw [← split]
    exact List.mem_append_left rest (List.mem_append_right earlier removed)
  refine ⟨get?_after spared distinct, ?reorder, fun _ _ sooner within _ => rises sooner within,
    ?refusal⟩
  case reorder =>
    intro reordered others permuted
    have contending : (index.contenders id reordered).Perm (index.contenders id changes) :=
      permuted.append_left _
    have alike := (contending.map (·.version)).nodup_iff.mpr distinct
    rw [get?_after others alike, get?_after spared distinct]
    apply Option.ext
    intro record
    rw [argmax_version_eq_some_iff alike, argmax_version_eq_some_iff distinct]
    simp only [contending.mem_iff]
  case refusal =>
    rintro earlier record later rfl rfl
    rcases receipt_of_commit index earlier later record with ⟨installed, receipt, refused⟩
    refine ⟨installed, receipt, refused.trans ⟨?_, ?_⟩⟩
    · rintro ⟨newer, indexed, late⟩
      exact ⟨earlier, newer, List.prefix_refl _, indexed, late⟩
    · rintro ⟨before, newer, sooner, indexed, late⟩
      rcases rises sooner (List.prefix_append _ _) indexed with ⟨latest, found, newest⟩
      exact ⟨latest, found, Nat.lt_of_lt_of_le late newest⟩

/-! ## A treaty that is overtaken -/

def treaty : Relationship where
  id := ⟨80, by decide⟩
  faction := ⟨81, by decide⟩
  target := ⟨82, by decide⟩
  stance := .ally
  version := ⟨3, by decide⟩

def otherTreaty : Relationship := { treaty with id := ⟨83, by decide⟩ }

/-- The fifth version of the treaty overtakes the second and the fourth. -/
def overtaking : List Change :=
  [.commit { treaty with version := ⟨5, by decide⟩ }, .commit otherTreaty,
   .commit { treaty with stance := .atWar, version := ⟨2, by decide⟩ }, .remove otherTreaty.id,
   .commit { treaty with stance := .atWar, version := ⟨4, by decide⟩ }]

theorem treaty_is_not_rolled_back :
    .remove treaty.id ∉ overtaking ∧
      (((ofRecords [treaty]).contenders treaty.id overtaking).map (·.version)).Nodup ∧
      ((ofRecords [treaty]).after overtaking).get? treaty.id =
        some { treaty with version := ⟨5, by decide⟩ } ∧
      ((ofRecords [treaty]).after overtaking.reverse).get? treaty.id =
        some { treaty with version := ⟨5, by decide⟩ } := by
  have indexed : (ofRecords [treaty]).get? treaty.id = some treaty := by
    rw [← find?_toList, toList_ofRecords (by decide)]
    decide
  have spared : ∀ changes ∈ [overtaking, overtaking.reverse], .remove treaty.id ∉ changes := by
    simp [overtaking, otherTreaty, treaty]
  have contending : (ofRecords [treaty]).contenders treaty.id overtaking =
      treaty :: arrivals treaty.id overtaking := by rw [contenders, indexed]; rfl
  have distinct : (((ofRecords [treaty]).contenders treaty.id overtaking).map (·.version)).Nodup := by
    rw [contending]
    decide
  rcases late_commits_never_roll_back (ofRecords [treaty]) treaty.id
    (spared overtaking (by simp)) distinct with ⟨newest, reordered, -, -⟩
  have outcome : ((ofRecords [treaty]).after overtaking).get? treaty.id =
      some { treaty with version := ⟨5, by decide⟩ } := by
    rw [newest, contending]
    decide
  have reversed := reordered overtaking.reverse (spared overtaking.reverse (by simp)) (by
    rw [arrivals, List.filterMap_reverse]
    exact List.reverse_perm _)
  exact ⟨spared overtaking (by simp), distinct, outcome, reversed.trans outcome⟩

end Index

end Diplomacy
