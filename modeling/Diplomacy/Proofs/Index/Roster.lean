import Diplomacy.Proofs.Index.Listing

/-!
The index beside a plain list. A roster is a list of records that says what the
index is for: a commit goes in the place of the record with its identifier, unless
that one is newer, or to the end, and a removal closes the gap. An index and a
roster that are loaded from the same records answer all changes alike, and after
them everything that the index tells is read off the roster.
-/

namespace Diplomacy

/-! ## Changes -/

/-- A change to the committed records. -/
inductive Change where
  | commit (record : Relationship)
  | remove (id : RelationshipId)

inductive Receipt where
  /-- Whether the committed record was installed. -/
  | commit (installed : Bool)
  /-- The record that was taken out, if there was one. -/
  | removal (removed : Option Relationship)
deriving DecidableEq

/-- What several changes answer, one after the other, and what they leave. -/
def changeAll {σ : Type} (change : σ → Change → Receipt × σ) :
    List Change → σ → List Receipt × σ
  | [], state => ([], state)
  | first :: rest, state =>
      let (receipt, state) := change state first
      let (receipts, state) := changeAll change rest state
      (receipt :: receipts, state)

section

variable {σ : Type} (change : σ → Change → Receipt × σ)

theorem changeAll_append (first rest : List Change) (state : σ) :
    changeAll change (first ++ rest) state =
      ((changeAll change first state).1 ++
          (changeAll change rest (changeAll change first state).2).1,
        (changeAll change rest (changeAll change first state).2).2) := by
  induction first generalizing state with
  | nil => rfl
  | cons head first induction => simp only [List.cons_append, changeAll, induction]

theorem length_changeAll (changes : List Change) (state : σ) :
    (changeAll change changes state).1.length = changes.length := by
  induction changes generalizing state with
  | nil => rfl
  | cons head changes induction => simp only [changeAll, List.length_cons, induction]

end

def Index.change (index : Index) : Change → Receipt × Index
  | .commit record =>
      let answer := index.applyCommitted record
      (.commit answer.1, answer.2)
  | .remove id =>
      let answer := index.remove id
      (.removal answer.1, answer.2)

/-- Records in first-recorded order, as a plain list. -/
abbrev Roster := List Relationship

namespace Roster

/-- Whether a record with the identifier of another one is newer. -/
def supersedes (newer older : Relationship) : Bool :=
  newer.id = older.id && older.version.value < newer.version.value

def change (roster : Roster) : Change → Receipt × Roster
  | .commit record =>
      if roster.any (supersedes · record) then (.commit false, roster)
      else (.commit true, MemoryRepository.place record roster)
  | .remove id => (.removal (roster.find? (·.id = id)), roster.filter (·.id ≠ id))

end Roster

namespace Index

variable {index : Index} {record : Relationship}

/-! ## One change -/

/-- A newer record is listed exactly if the indexed one is newer. -/
theorem any_supersedes_iff :
    index.toList.any (Roster.supersedes · record) = true ↔
      ∃ newer, index.get? record.id = some newer ∧
        record.version.value < newer.version.value := by
  simp only [List.any_eq_true, Roster.supersedes, Bool.and_eq_true, decide_eq_true_eq,
    get?_eq_some_iff, and_assoc]

theorem change_toList (index : Index) (change : Change) :
    Roster.change index.toList change =
      ((index.change change).1, (index.change change).2.toList) := by
  cases change with
  | commit record =>
      dsimp only [Roster.change, Index.change]
      rcases applyCommitted_cases index record with
        ⟨newer, indexed, late, ignored⟩ | ⟨current, installed, listed⟩
      · rw [if_pos (any_supersedes_iff.mpr ⟨newer, indexed, late⟩), ignored]
      · have unsurpassed : ¬index.toList.any (Roster.supersedes · record) = true := by
          rw [any_supersedes_iff]
          rintro ⟨newer, indexed, late⟩
          exact Nat.not_lt.mpr (current newer indexed) late
        rw [if_neg unsurpassed, installed, listed]
  | remove id =>
      rw [Roster.change, find?_toList, ← toList_remove]
      rfl

/-- A change hands out one position at most. -/
theorem nextPosition_change_le (index : Index) (change : Change) :
    (index.change change).2.nextPosition ≤ index.nextPosition + 1 := by
  cases change with
  | commit record =>
      dsimp only [Index.change]
      rw [applyCommitted]
      split
      · split
        · exact Nat.le_succ _
        · exact Nat.le_succ _
      · exact Nat.le_refl _
  | remove id => exact Nat.le_succ _

/-! ## Runs -/

theorem changeAll_toList (changes : List Change) (index : Index) :
    changeAll Roster.change changes index.toList =
      ((changeAll Index.change changes index).1,
        (changeAll Index.change changes index).2.toList) := by
  induction changes generalizing index with
  | nil => rfl
  | cons first rest induction =>
      simp only [changeAll, change_toList, induction]

theorem nextPosition_changeAll_le (changes : List Change) (index : Index) :
    (changeAll Index.change changes index).2.nextPosition ≤
      index.nextPosition + changes.length := by
  induction changes generalizing index with
  | nil => exact Nat.le_refl _
  | cons first rest induction =>
      have one := nextPosition_change_le index first
      have others := induction (index.change first).2
      rw [List.length_cons]
      change (changeAll Index.change rest (index.change first).2).2.nextPosition ≤ _
      omega

theorem nextPosition_ofRecords (records : List Relationship) :
    (ofRecords records).nextPosition = records.length := by
  have loads : ∀ index : Index,
      (records.foldl append index).nextPosition = index.nextPosition + records.length := by
    induction records with
    | nil => exact fun index => rfl
    | cons record records induction =>
        intro index
        rw [List.foldl_cons, induction, List.length_cons]
        change index.nextPosition + 1 + records.length = _
        omega
  exact (loads empty).trans (Nat.zero_add _)

/-! ## What an index tells -/

/-- An index tells what a roster holds, each identifier once. -/
structure Tells (index : Index) (roster : Roster) : Prop where
  toList_eq : index.toList = roster
  /-- The table may iterate in any order, and its entries be sorted in any way. -/
  sorted_eq : ∀ entries : List Entry, entries.Perm (index.entries.toList.map (·.2)) →
    (entries.Pairwise fun left right => left.position ≤ right.position) →
      entries.map (·.record) = roster
  size_eq : index.size = roster.length
  isEmpty_eq : index.isEmpty = roster.isEmpty
  get?_eq : ∀ id, index.get? id = roster.find? (·.id = id)
  nodup_ids : (roster.map (·.id)).Nodup

theorem length_toList (index : Index) : index.toList.length = index.size := by
  rw [toList_eq_map_listing, List.length_map, listing, List.length_mergeSort, List.length_map,
    Std.HashMap.length_toList, size]

theorem isEmpty_toList (index : Index) : index.toList.isEmpty = index.isEmpty := by
  rw [Bool.eq_iff_iff, List.isEmpty_iff_length_eq_zero, length_toList, isEmpty,
    Std.HashMap.isEmpty_eq_size_eq_zero, beq_iff_eq]
  rfl

theorem tells_toList (index : Index) : index.Tells index.toList where
  toList_eq := rfl
  sorted_eq entries permuted sorted := by
    rw [eq_listing_of_sorted permuted sorted, toList_eq_map_listing]
  size_eq := index.length_toList.symm
  isEmpty_eq := index.isEmpty_toList.symm
  get?_eq id := (index.find?_toList id).symm
  nodup_ids := index.nodup_ids

/-- An index that is loaded and then changed answers as a plain list does, and
tells what that holds. Loading keeps the last record of each identifier where it
stands. As many positions are handed out as there were records and changes, at most,
so that a counter of 64 bits is not used up by fewer than `2 ^ 64` of them. -/
theorem index_is_a_roster (records : List Relationship) (changes : List Change) :
    let roster := changeAll Roster.change changes (latest records)
    let index := changeAll Index.change changes (ofRecords records)
    index.1 = roster.1 ∧ index.2.Tells roster.2 ∧
      index.2.nextPosition ≤ records.length + changes.length := by
  intro roster index
  have same : roster = (index.1, index.2.toList) := by
    rw [← changeAll_toList, toList_ofRecords_eq_latest]
  rw [same]
  refine ⟨rfl, tells_toList index.2, ?_⟩
  rw [← nextPosition_ofRecords]
  exact nextPosition_changeAll_le changes (ofRecords records)

end Index

end Diplomacy
