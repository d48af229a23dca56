import Diplomacy.Proofs.Steps
import Diplomacy.Toml.Reader

/-!
No table of a document has a key twice, however deep it lies. Keys are only ever
added by setting them, so that every step that builds a table keeps this.
-/

namespace Diplomacy.Toml

/-- A value in which no table has a key twice. -/
inductive Value.Proper : Value → Prop where
  | text (value : String) : Proper (.text value)
  | integer (value : Int) : Proper (.integer value)
  | float : Proper .float
  | boolean (value : Bool) : Proper (.boolean value)
  | moment : Proper .moment
  | array {items : List Value} (each : ∀ item ∈ items, Proper item) : Proper (.array items)
  | table {origin : Origin} {entries : List (String × Value)}
      (distinct : (entries.map (·.1)).Nodup) (values : ∀ entry ∈ entries, Proper entry.2) :
      Proper (.table origin entries)
  | tables {items : List Value} (each : ∀ item ∈ items, Proper item) : Proper (.tables items)

namespace Entries

variable {entries below result : Entries} {key : String} {value : Value} {origin : Origin}

structure Proper (entries : Entries) : Prop where
  distinct : (entries.map (·.1)).Nodup
  values : ∀ entry ∈ entries, entry.2.Proper

theorem proper_nil : Proper [] := ⟨.nil, by simp⟩

theorem proper_of_table (proper : (Value.table origin entries).Proper) : entries.Proper := by
  cases proper with
  | table distinct values => exact ⟨distinct, values⟩

theorem Proper.table (proper : entries.Proper) : (Value.table origin entries).Proper :=
  .table proper.distinct proper.values

theorem mem_of_get? (found : entries.get? key = some value) : (key, value) ∈ entries := by
  rcases Option.map_eq_some_iff.mp found with ⟨entry, located, rfl⟩
  have same := List.find?_some located
  rw [← of_decide_eq_true same]
  exact List.mem_of_find?_eq_some located

theorem Proper.of_get? (proper : entries.Proper) (found : entries.get? key = some value) :
    value.Proper :=
  proper.values _ (mem_of_get? found)

theorem Proper.set (proper : entries.Proper) (fits : value.Proper) :
    (entries.set key value).Proper := by
  rw [Entries.set]
  split
  · constructor
    · have keys : (entries.map fun entry => if entry.1 = key then (key, value) else entry).map
          (·.1) = entries.map (·.1) := by
        rw [List.map_map]
        refine List.map_congr_left fun entry _ => ?_
        by_cases same : entry.1 = key <;> simp [same]
      rw [keys]
      exact proper.distinct
    · intro entry member
      rcases List.mem_map.mp member with ⟨old, kept, rfl⟩
      split
      · exact fits
      · exact proper.values old kept
  · next absent =>
      constructor
      · rw [List.map_append, List.nodup_append]
        refine ⟨proper.distinct, List.pairwise_singleton _ _, ?_⟩
        rintro left member right single rfl
        rw [List.map_singleton, List.mem_singleton] at single
        rcases List.mem_map.mp member with ⟨entry, member, same⟩
        exact absent (List.any_eq_true.mpr ⟨entry, member, decide_eq_true (same.trans single)⟩)
      · intro entry member
        rcases List.mem_append.mp member with member | single
        · exact proper.values entry member
        · rw [List.mem_singleton.mp single]
          exact fits

theorem proper_replace_last {items : List Value} (proper : ∀ item ∈ items, item.Proper)
    (fits : value.Proper) : (Value.tables (items.dropLast ++ [value])).Proper := by
  refine .tables fun item member => ?_
  rcases List.mem_append.mp member with member | single
  · exact proper item ((List.dropLast_sublist items).subset member)
  · rw [List.mem_singleton.mp single]
    exact fits

/-- Changing the table at a path changes the tables on the way by setting one key each. -/
theorem Proper.descend {along : Origin} {change : Origin → Entries → Option Entries}
    {path : List String}
    (keeps : ∀ origin entries result, Proper entries → change origin entries = some result →
      Proper result)
    (proper : entries.Proper)
    (changed : Entries.descend along change path origin entries = some result) :
    result.Proper := by
  induction path generalizing origin entries result with
  | nil => exact keeps origin entries result proper changed
  | cons key path induction =>
      rw [Entries.descend] at changed
      split at changed
      · rcases Option.map_eq_some_iff.mp changed with ⟨below, made, rfl⟩
        exact proper.set (induction proper_nil made).table
      · next found =>
          split at changed
          · cases changed
          · rcases Option.map_eq_some_iff.mp changed with ⟨below, made, rfl⟩
            exact proper.set (induction (proper_of_table (proper.of_get? found)) made).table
      · next items found =>
          cases proper.of_get? found with
          | tables each =>
              split at changed
              · next last =>
                  have inside := proper_of_table (each _ (List.mem_of_getLast? last))
                  rcases Option.map_eq_some_iff.mp changed with ⟨below, made, rfl⟩
                  exact proper.set (proper_replace_last each (induction inside made).table)
              · cases changed
      · cases changed

theorem Proper.assign {path : List String} (proper : entries.Proper) (fits : value.Proper)
    (assigned : entries.assign path value = some result) : result.Proper := by
  rw [Entries.assign] at assigned
  split at assigned
  · cases assigned
  · refine proper.descend ?_ assigned
    intro origin below result inside added
    split at added
    · cases added
      exact inside.set fits
    · cases added

theorem Proper.assignAll {pairs : List (List String × Value)} (proper : entries.Proper)
    (fits : ∀ pair ∈ pairs, pair.2.Proper) (assigned : entries.assignAll pairs = some result) :
    result.Proper :=
  foldlM_keeps proper (fun _ pair member _ kept added => kept.assign (fits pair member) added)
    assigned

end Entries

/-! ## Documents -/

/-- Every value that a line gives. -/
def Line.Proper : Line → Prop
  | .entry _ value => value.Proper
  | _ => True

theorem proper_of_sections {lines : List Line} (proper : ∀ line ∈ lines, line.Proper) :
    (∀ pair ∈ (sections lines).1, pair.2.Proper) ∧
      ∀ part ∈ (sections lines).2, ∀ pair ∈ part.pairs, pair.2.Proper := by
  induction lines with
  | nil => simp [sections]
  | cons line lines induction =>
      rcases List.forall_mem_cons.mp proper with ⟨first, rest⟩
      rcases induction rest with ⟨pairs, parts⟩
      rw [sections]
      cases line with
      | entry key value => exact ⟨List.forall_mem_cons.mpr ⟨first, pairs⟩, parts⟩
      | table path => exact ⟨by simp, List.forall_mem_cons.mpr ⟨pairs, parts⟩⟩
      | element path => exact ⟨by simp, List.forall_mem_cons.mpr ⟨pairs, parts⟩⟩

theorem Entries.Proper.addTo {root result : Entries} {part : Section} (proper : root.Proper)
    (fits : ∀ pair ∈ part.pairs, pair.2.Proper) (added : part.addTo root = some result) :
    result.Proper := by
  rw [Section.addTo] at added
  split at added
  · cases added
  · refine proper.descend ?_ added
    intro origin entries result inside made
    have table : ∀ {below made : Entries}, below.Proper → below.assignAll part.pairs = some made →
        (Value.table .header made).Proper :=
      fun inside assigned => (inside.assignAll fits assigned).table
    split at made
    · rcases Option.map_eq_some_iff.mp made with ⟨below, assigned, rfl⟩
      exact inside.set (table proper_nil assigned)
    · next found =>
        rcases Option.map_eq_some_iff.mp made with ⟨below, assigned, rfl⟩
        exact inside.set (table (proper_of_table (inside.of_get? found)) assigned)
    · rcases Option.map_eq_some_iff.mp made with ⟨below, assigned, rfl⟩
      exact inside.set (.tables (by simpa using table proper_nil assigned))
    · next items _ found =>
        rcases Option.map_eq_some_iff.mp made with ⟨below, assigned, rfl⟩
        cases inside.of_get? found with
        | tables each =>
            refine inside.set (.tables fun item member => ?_)
            rcases List.mem_append.mp member with member | single
            · exact each item member
            · rw [List.mem_singleton.mp single]
              exact table proper_nil assigned
    · cases made

theorem proper_of_ofLines {lines : List Line} {root : Entries}
    (proper : ∀ line ∈ lines, line.Proper) (made : ofLines lines = some root) : root.Proper := by
  rcases proper_of_sections proper with ⟨pairs, parts⟩
  rw [ofLines, Option.bind_eq_bind, Option.bind_eq_some_iff] at made
  rcases made with ⟨bare, assigned, folded⟩
  exact foldlM_keeps (Entries.proper_nil.assignAll pairs assigned)
    (fun _ part member _ kept added => kept.addTo (parts part member) added) folded

/-! ## Readers -/

variable {characters rest : List Char} {value : Value}

theorem proper_of_integer? {negative : Bool} {size : Nat}
    (read : integer? negative size = some value) : value.Proper := by
  rcases Option.ite_none_right_eq_some.mp read with ⟨_, same⟩
  cases same
  exact .integer _

theorem proper_of_readRadix {radix : Nat}
    (read : readRadix radix characters = some (value, rest)) : value.Proper := by
  simp only [readRadix, Option.bind_eq_bind, Option.bind_eq_some_iff] at read
  rcases read with ⟨_, _, _, found, same⟩
  cases same
  exact proper_of_integer? found

theorem proper_of_readDecimal {negative : Bool}
    (read : readDecimal negative characters = some (value, rest)) : value.Proper := by
  simp only [readDecimal, Option.bind_eq_bind, Option.bind_eq_some_iff] at read
  rcases read with ⟨_, _, _, _, _, _, read⟩
  split at read
  · rcases Option.bind_eq_some_iff.mp read with ⟨_, found, same⟩
    cases same
    exact proper_of_integer? found
  · rcases Option.ite_none_left_eq_some.mp read with ⟨_, same⟩
    cases same
    exact .float

theorem proper_of_readNumber (read : readNumber characters = some (value, rest)) :
    value.Proper := by
  unfold readNumber at read
  split at read
  · exact proper_of_readRadix read
  · exact proper_of_readRadix read
  · exact proper_of_readRadix read
  · dsimp only at read
    split at read
    · cases read
      exact .float
    · exact proper_of_readDecimal read

theorem proper_of_readScalar (read : readScalar characters = some (value, rest)) :
    value.Proper := by
  rw [readScalar] at read
  split at read
  · rcases Option.map_eq_some_iff.mp read with ⟨_, _, same⟩
    cases same
    exact .moment
  · split at read
    · rcases Option.map_eq_some_iff.mp read with ⟨_, _, same⟩
      cases same
      exact .moment
    · exact proper_of_readNumber read

/-- What the readers of values, of the items of an array and of the entries of an
inline table give, for texts of some number of parts. -/
structure ReadsProper (fuel : Nat) : Prop where
  value : ∀ levels characters value rest,
    readValue fuel levels characters = some (value, rest) → value.Proper
  items : ∀ levels characters items rest,
    readItems fuel levels characters = some (items, rest) → ∀ item ∈ items, item.Proper
  pairs : ∀ levels characters pairs rest,
    readPairs fuel levels characters = some (pairs, rest) → ∀ pair ∈ pairs, pair.2.Proper

theorem ReadsProper.nextValue {fuel : Nat} (reads : ReadsProper fuel) {levels : Nat}
    (read : readValue (fuel + 1) levels characters = some (value, rest)) : value.Proper := by
  unfold readValue at read
  split at read
  · rcases Option.map_eq_some_iff.mp read with ⟨_, _, same⟩
    cases same
    exact .text _
  · rcases Option.map_eq_some_iff.mp read with ⟨_, _, same⟩
    cases same
    exact .text _
  · rcases Option.map_eq_some_iff.mp read with ⟨_, _, same⟩
    cases same
    exact .boolean _
  · rcases Option.map_eq_some_iff.mp read with ⟨_, _, same⟩
    cases same
    exact .boolean _
  · rcases Option.map_eq_some_iff.mp read with ⟨_, found, same⟩
    cases same
    exact .array (reads.items _ _ _ _ found)
  · split at read
    · cases read
      exact Entries.proper_nil.table
    · simp only [Option.bind_eq_bind, Option.bind_eq_some_iff] at read
      rcases read with ⟨_, found, _, assigned, same⟩
      cases same
      exact (Entries.proper_nil.assignAll (reads.pairs _ _ _ _ found) assigned).table
  · cases read
  · cases read
  · exact proper_of_readScalar read

theorem ReadsProper.nextItems {fuel levels : Nat} (reads : ReadsProper fuel) {items : List Value}
    (read : readItems (fuel + 1) levels characters = some (items, rest)) :
    ∀ item ∈ items, item.Proper := by
  simp only [readItems, Option.bind_eq_bind, Option.bind_eq_some_iff] at read
  rcases read with ⟨_, _, read⟩
  split at read
  · cases read
    simp
  · rcases Option.bind_eq_some_iff.mp read with ⟨_, found, read⟩
    have first := reads.value _ _ _ _ found
    rcases Option.bind_eq_some_iff.mp read with ⟨_, _, read⟩
    split at read
    · cases read
      simpa using first
    · rcases Option.bind_eq_some_iff.mp read with ⟨_, others, same⟩
      cases same
      exact List.forall_mem_cons.mpr ⟨first, reads.items _ _ _ _ others⟩
    · cases read

theorem ReadsProper.nextPairs {fuel levels : Nat} (reads : ReadsProper fuel)
    {pairs : List (List String × Value)}
    (read : readPairs (fuel + 1) levels characters = some (pairs, rest)) :
    ∀ pair ∈ pairs, pair.2.Proper := by
  simp only [readPairs, Option.bind_eq_bind, Option.bind_eq_some_iff] at read
  rcases read with ⟨_, _, _, _, _, found, read⟩
  have first := reads.value _ _ _ _ found
  split at read
  · cases read
    simpa using first
  · rcases Option.bind_eq_some_iff.mp read with ⟨_, others, same⟩
    cases same
    exact List.forall_mem_cons.mpr ⟨first, reads.pairs _ _ _ _ others⟩
  · cases read

theorem readsProper (fuel : Nat) : ReadsProper fuel := by
  induction fuel with
  | zero =>
      constructor
      · intro _ _ _ _ read
        simp [readValue] at read
      · intro _ _ _ _ read
        simp [readItems] at read
      · intro _ _ _ _ read
        simp [readPairs] at read
  | succ fuel reads =>
      constructor
      · intro _ _ _ _ read
        exact reads.nextValue read
      · intro _ _ _ _ read
        exact reads.nextItems read
      · intro _ _ _ _ read
        exact reads.nextPairs read

theorem proper_of_readHeader {line : Line} (read : readHeader characters = some (line, rest)) :
    line.Proper := by
  unfold readHeader at read
  split at read
  · simp only [Option.bind_eq_bind, Option.bind_eq_some_iff] at read
    rcases read with ⟨_, _, _, _, _, _, same⟩
    cases same
    trivial
  · simp only [Option.bind_eq_bind, Option.bind_eq_some_iff] at read
    rcases read with ⟨_, _, _, _, _, _, same⟩
    cases same
    trivial

theorem proper_of_readEntry {line : Line} (read : readEntry characters = some (line, rest)) :
    line.Proper := by
  simp only [readEntry, Option.bind_eq_bind, Option.bind_eq_some_iff] at read
  rcases read with ⟨_, _, _, _, _, found, _, _, same⟩
  cases same
  exact (readsProper _).value _ _ _ _ found

theorem proper_of_readLines {fuel : Nat} {lines : List Line}
    (read : readLines fuel characters = some lines) : ∀ line ∈ lines, line.Proper := by
  induction fuel generalizing characters lines with
  | zero => simp [readLines] at read
  | succ fuel induction =>
      unfold readLines at read
      split at read
      · cases read
        simp
      · exact induction read
      · rcases Option.bind_eq_some_iff.mp read with ⟨_, _, read⟩
        exact induction read
      · simp only [Option.bind_eq_bind, Option.bind_eq_some_iff] at read
        rcases read with ⟨_, header, _, others, same⟩
        cases same
        exact List.forall_mem_cons.mpr ⟨proper_of_readHeader header, induction others⟩
      · simp only [Option.bind_eq_bind, Option.bind_eq_some_iff] at read
        rcases read with ⟨_, entry, _, others, same⟩
        cases same
        exact List.forall_mem_cons.mpr ⟨proper_of_readEntry entry, induction others⟩

theorem proper_of_parse? {text : String} {root : Entries} (parsed : parse? text = some root) :
    root.Proper := by
  rcases Option.bind_eq_some_iff.mp parsed with ⟨lines, read, made⟩
  exact proper_of_ofLines (proper_of_readLines read) made

end Diplomacy.Toml
