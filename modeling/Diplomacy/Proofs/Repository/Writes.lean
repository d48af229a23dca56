import Diplomacy.Proofs.Repository.Stored

/-!
Writes to a table whatever its cells hold. Nothing is asked of the rows but what
the primary key keeps, and even so an accepted write puts one canonical row at
one place, a deletion takes out one row, and all that is refused leaves the
table as it was. A write reads two cells only: the key of each row, and the
version of the row that has the key.
-/

namespace Diplomacy.TableRepository

variable {table next : TableRepository} {rows earlier later : List Row} {old row : Row}
  {record committed : Relationship} {id : RelationshipId} {previous : Option Cell}
  {stored : Option Version} {error : RepositoryError}

/-! ## Outcomes -/

/-- No two rows have the same key cell. A primary key of blobs may be null, and
nulls are not compared. -/
def Keyed (rows : List Row) : Prop :=
  rows.Pairwise fun left right => left.id ≠ .null → left.id ≠ right.id

/-- The record is committed with the next version, which fits a signed integer,
and its canonical row stands between the given ones. -/
inductive Commits (record : Relationship) (earlier later : List Row) :
    Except RepositoryError Relationship × TableRepository → Prop where
  | intro (version : Version) (cell : Int64)
      (successor : version.value = record.version.value + 1)
      (fits : cell.toInt = version.value) :
      Commits record earlier later (.ok { record with version },
        { rows := earlier ++ Row.canonical { record with version } cell :: later })

/-- The storage fails, and the table is left alone. -/
inductive Fails (table : TableRepository) :
    Except RepositoryError Relationship × TableRepository → Prop where
  | intro (description : String) (causes : List String) :
      Fails table (.error (.storage description causes), table)

/-- What a write does where no row has the key of the record. -/
structure Inserts (table : TableRepository) (record : Relationship) : Prop where
  commits : record.version.value ≤ 0x7fff_ffff_ffff_fffe →
    Commits record table.rows [] (table.upsert record)
  full : 0x7fff_ffff_ffff_fffe < record.version.value → Fails table (table.upsert record)

/-- What a write does where `old` has the key of the record, among the other rows. -/
structure Updates (table : TableRepository) (record : Relationship) (earlier : List Row)
    (old : Row) (later : List Row) : Prop where
  conflict : ∀ value : Int64, old.version = .integer value → 0 ≤ value.toInt →
    value.toInt ≠ record.version.value →
      ∃ actual : Version, (actual.value : Int) = value.toInt ∧
        table.upsert record = (.error (.conflict record.id record.version actual), table)
  commits : ∀ value : Int64, old.version = .integer value → value.toInt = record.version.value →
    record.version.value ≤ 0x7fff_ffff_ffff_fffe →
      Commits record earlier later (table.upsert record)
  full : ∀ value : Int64, old.version = .integer value → value.toInt = record.version.value →
    0x7fff_ffff_ffff_fffe < record.version.value → Fails table (table.upsert record)
  fault : (∀ value : Int64, old.version = .integer value → value.toInt < 0) →
    Fails table (table.upsert record)

/-- What a deletion does. -/
structure Deletes (table : TableRepository) (id : RelationshipId) : Prop where
  absent : (∀ row ∈ table.rows, row.id ≠ Row.key id) →
    table.delete id = (.error (.notFound id), table)
  present : ∀ earlier old later, table.rows = earlier ++ old :: later → old.id = Row.key id →
    table.delete id = (.ok (), { rows := earlier ++ later })

/-! ## The row to be written -/

section

variable (agree : Versioned previous stored) (agrees : ∀ actual ∈ stored, actual = record.version)

include agree agrees

theorem exists_revision_eq_ok (room : record.version.value ≤ 0x7fff_ffff_ffff_fffe) :
    ∃ (version : Version) (cell : Int64), version.value = record.version.value + 1 ∧
      cell.toInt = version.value ∧
      revision record previous =
        .ok ({ record with version }, Row.canonical { record with version } cell) := by
  have below : record.version.value + 1 < 0x8000_0000_0000_0000 := by omega
  let version : Version := ⟨record.version.value + 1, by omega⟩
  have advanced : record.nextRevision stored = .ok { record with version } :=
    Relationship.nextRevision_eq_ok_iff.mpr
      ⟨agrees, Relationship.advance_eq_ok_iff.mpr ⟨version, rfl, rfl⟩⟩
  refine ⟨version, Int64.ofNat version.value, rfl, Int64.toInt_ofNat_of_lt below, ?_⟩
  exact revision_of_written agree advanced (Row.ofRelationship_eq_ok below)

/-- Beyond the signed integers the counter either ends or cannot be stored. -/
theorem exists_revision_eq_error (full : 0x7fff_ffff_ffff_fffe < record.version.value) :
    ∃ description causes, revision record previous = .error (.storage description causes) := by
  have unopposed := Relationship.nextRevision_of_agrees agrees
  rcases Nat.lt_or_ge record.version.value 0xffff_ffff_ffff_ffff with room | exhausted
  · rcases Relationship.exists_advance_eq_ok room with ⟨committed, advanced⟩
    have successor := (Relationship.eq_of_advance advanced).1
    have exceeds : 0x8000_0000_0000_0000 ≤ committed.version.value := by omega
    exact ⟨_, _, revision_of_exceeds agree (unopposed.trans advanced) exceeds⟩
  · rcases Relationship.exists_advance_eq_error exhausted with ⟨description, causes, refused⟩
    exact ⟨description, causes, revision_of_refused agree (unopposed.trans refused)⟩

end

/-- A cell that is no version stops the write before the locking rule is asked. -/
theorem revision_of_fault {cell : Cell} {fault : Row.Fault}
    (read : Row.readStoredVersion record.id cell = .error fault) :
    revision record (some cell) = .error fault.toRepositoryError := by
  rw [revision, read]
  rfl

/-! ## The place of a key -/

theorem rowOf?_of_absent (absent : ∀ row ∈ table.rows, row.id ≠ Row.key id) :
    table.rowOf? id = none := by
  rw [rowOf?, List.find?_eq_none]
  intro row member mine
  exact absent row member (isRowOf_eq_true_iff.mp mine)

/-- With one row of a key, no row before it or after it has the key. -/
theorem alone_of_keyed (keyed : Keyed (earlier ++ old :: later)) (mine : old.id = Row.key id) :
    (∀ other ∈ earlier, isRowOf id other = false) ∧
      ∀ other ∈ later, isRowOf id other = false := by
  rcases List.pairwise_append.mp keyed with ⟨_, after, before⟩
  have key_ne_null : Row.key id ≠ .null := by simp [Row.key]
  constructor
  · intro other member
    rw [← Bool.not_eq_true, isRowOf_eq_true_iff]
    intro same
    exact before other member old List.mem_cons_self (same ▸ key_ne_null) (same.trans mine.symm)
  · intro other member
    rw [← Bool.not_eq_true, isRowOf_eq_true_iff]
    intro same
    exact (List.pairwise_cons.mp after).1 other member (mine ▸ key_ne_null) (mine.trans same.symm)

theorem rowOf?_of_split (split : table.rows = earlier ++ old :: later)
    (before : ∀ other ∈ earlier, isRowOf id other = false) (mine : old.id = Row.key id) :
    table.rowOf? id = some old := by
  rw [rowOf?, split, List.find?_eq_some_iff_append]
  exact ⟨isRowOf_eq_true_iff.mpr mine, earlier, later, rfl, by simpa using before⟩

theorem rewrite_of_absent (absent : ∀ other ∈ rows, isRowOf id other = false) (version : Cell)
    (row : Row) : rewrite id version row rows = rows := by
  rw [rewrite]
  refine (List.map_congr_left fun other member => ?_).trans (List.map_id _)
  simp [absent other member]

/-- The row found by its key still has the version that was read from it, so that
the write reaches it, and it alone. -/
theorem rewrite_of_split (before : ∀ other ∈ earlier, isRowOf id other = false)
    (after : ∀ other ∈ later, isRowOf id other = false) (mine : old.id = Row.key id) (row : Row) :
    rewrite id old.version row (earlier ++ old :: later) = earlier ++ row :: later := by
  have reached : rewrite id old.version row [old] = [row] := by
    simp [rewrite, isRowOf_eq_true_iff.mpr mine]
  calc rewrite id old.version row (earlier ++ old :: later)
      = rewrite id old.version row earlier ++
          (rewrite id old.version row [old] ++ rewrite id old.version row later) := by
        simp [rewrite]
    _ = earlier ++ row :: later := by
        rw [rewrite_of_absent before, rewrite_of_absent after, reached]
        rfl

/-! ## Operations -/

theorem inserts_of_absent (absent : ∀ row ∈ table.rows, row.id ≠ Row.key record.id) :
    Inserts table record := by
  have missing := rowOf?_of_absent absent
  refine ⟨?commits, ?full⟩
  case commits =>
    intro room
    rcases exists_revision_eq_ok .none (by simp) room with
      ⟨version, cell, successor, fits, revised⟩
    have appended : table.upsert record = (.ok { record with version },
        { rows := table.rows ++ [Row.canonical { record with version } cell] }) := by
      simp only [upsert, missing, Option.map_none, revised]
    rw [appended]
    exact .intro version cell successor fits
  case full =>
    intro full
    rcases exists_revision_eq_error .none (by simp) full with ⟨description, causes, refused⟩
    rw [upsert_of_revision_eq_error (by rw [missing]; exact refused)]
    exact .intro description causes

theorem updates_of_present (keyed : Keyed table.rows)
    (split : table.rows = earlier ++ old :: later) (mine : old.id = Row.key record.id) :
    Updates table record earlier old later := by
  rcases alone_of_keyed (split ▸ keyed) mine with ⟨before, after⟩
  have found := rowOf?_of_split split before mine
  -- All that is refused is refused for the version cell of the row that is found.
  have refuses : ∀ error, revision record (some old.version) = .error error →
      table.upsert record = (.error error, table) := by
    intro error refused
    apply upsert_of_revision_eq_error
    rw [found]
    exact refused
  refine ⟨?conflict, ?commits, ?full, ?fault⟩
  case conflict =>
    intro value cell natural differs
    rcases Row.exists_version?_eq_some natural with ⟨actual, represented⟩
    have same := Row.version?_eq_some_iff.mp represented
    have read := Row.readVersion_eq_ok_iff.mpr ⟨value, cell, represented⟩
    have other : actual ≠ record.version := fun agrees => differs (agrees ▸ same.symm)
    have mismatch := Relationship.nextRevision_of_mismatch other
    exact ⟨actual, same, refuses _ (revision_of_refused (.some read) mismatch)⟩
  case commits =>
    intro value cell agrees room
    have read := Row.readVersion_eq_ok_iff.mpr
      ⟨value, cell, Row.version?_eq_some_iff.mpr agrees.symm⟩
    rcases exists_revision_eq_ok (.some read) (by simp) room with
      ⟨version, cell, successor, fits, revised⟩
    have replaced : table.upsert record = (.ok { record with version },
        { rows := earlier ++ Row.canonical { record with version } cell :: later }) := by
      simp only [upsert, found, Option.map_some, revised]
      rw [split, rewrite_of_split before after mine]
    rw [replaced]
    exact .intro version cell successor fits
  case full =>
    intro value cell agrees full
    have read := Row.readVersion_eq_ok_iff.mpr
      ⟨value, cell, Row.version?_eq_some_iff.mpr agrees.symm⟩
    rcases exists_revision_eq_error (.some read) (by simp) full with
      ⟨description, causes, refused⟩
    rw [refuses _ refused]
    exact .intro description causes
  case fault =>
    intro unfit
    rcases Row.exists_readStoredVersion_eq_error record.id unfit with ⟨fault, read⟩
    rw [refuses _ (revision_of_fault read)]
    exact .intro _ _

theorem deletes_of_keyed (keyed : Keyed table.rows) (id : RelationshipId) : Deletes table id := by
  refine ⟨?absent, ?present⟩
  case absent =>
    intro absent
    rw [delete, rowOf?_of_absent absent]
    rfl
  case present =>
    intro earlier old later split mine
    rcases alone_of_keyed (split ▸ keyed) mine with ⟨before, after⟩
    have kept : ∀ {rows : List Row}, (∀ other ∈ rows, isRowOf id other = false) →
        rows.filter (fun row => !isRowOf id row) = rows := by
      intro rows others
      rw [List.filter_eq_self]
      intro other member
      rw [others other member]
      rfl
    rw [delete, rowOf?_of_split split before mine, split, List.filter_append,
      List.filter_cons_of_neg (by simp [isRowOf_eq_true_iff.mpr mine]), kept before, kept after]
    rfl

/-- There is no acceptance without the write: whatever is accepted is an insertion
or an update of the one row with the key. -/
theorem commits_of_upsert_eq_ok (keyed : Keyed table.rows)
    (accepted : table.upsert record = (.ok committed, next)) :
    ∃ earlier later, Commits record earlier later (.ok committed, next) ∧
      (table.rows = earlier ∧ later = [] ∨
        ∃ old, table.rows = earlier ++ old :: later ∧ old.id = Row.key record.id) := by
  have succeeds : ¬ Fails table (table.upsert record) := by
    rw [accepted]
    intro fails
    cases fails
  by_cases absent : ∀ row ∈ table.rows, row.id ≠ Row.key record.id
  · have inserts := inserts_of_absent absent
    rcases Nat.lt_or_ge 0x7fff_ffff_ffff_fffe record.version.value with full | room
    · exact absurd (inserts.full full) succeeds
    · exact ⟨table.rows, [], accepted ▸ inserts.commits room, .inl ⟨rfl, rfl⟩⟩
  · simp only [not_forall, not_not] at absent
    rcases absent with ⟨old, member, mine⟩
    rcases List.append_of_mem member with ⟨earlier, later, split⟩
    have updates := updates_of_present keyed split mine
    refine ⟨earlier, later, ?_, .inr ⟨old, split, mine⟩⟩
    by_cases integer : ∃ value : Int64, old.version = .integer value ∧ 0 ≤ value.toInt
    · rcases integer with ⟨value, cell, natural⟩
      by_cases agrees : value.toInt = record.version.value
      · rcases Nat.lt_or_ge 0x7fff_ffff_ffff_fffe record.version.value with full | room
        · exact absurd (updates.full value cell agrees full) succeeds
        · exact accepted ▸ updates.commits value cell agrees room
      · rcases updates.conflict value cell natural agrees with ⟨actual, _, refused⟩
        rw [accepted] at refused
        cases refused
    · refine absurd (updates.fault fun value cell => ?_) succeeds
      exact Int.not_le.mp fun natural => integer ⟨value, cell, natural⟩

/-- Whatever the cells of a table hold, a write or a deletion changes the row of its
identifier and no other, or nothing at all. -/
theorem writes_touch_one_row (keyed : Keyed table.rows) (record : Relationship)
    (id : RelationshipId) :
    ((∀ row ∈ table.rows, row.id ≠ Row.key record.id) → Inserts table record) ∧
      (∀ earlier old later, table.rows = earlier ++ old :: later → old.id = Row.key record.id →
        Updates table record earlier old later) ∧
      (∀ committed next, table.upsert record = (.ok committed, next) →
        ∃ earlier later, Commits record earlier later (.ok committed, next) ∧
          (table.rows = earlier ∧ later = [] ∨
            ∃ old, table.rows = earlier ++ old :: later ∧ old.id = Row.key record.id)) ∧
      (∀ error next, table.upsert record = (.error error, next) → next = table) ∧
      Deletes table id ∧
      ∀ error next, table.delete id = (.error error, next) → next = table := by
  refine ⟨inserts_of_absent, fun _ _ _ => updates_of_present keyed, ?_, ?_,
    deletes_of_keyed keyed id, ?_⟩
  · intro committed next
    exact commits_of_upsert_eq_ok keyed
  · intro error next
    exact state_of_upsert_error
  · intro error next
    exact state_of_delete_error

/-! ## A damaged table -/

/-- A homage whose row was damaged, except for its key and its version. -/
def homage : Relationship where
  id := ⟨31, by decide⟩
  faction := ⟨32, by decide⟩
  target := ⟨33, by decide⟩
  stance := .ally
  version := ⟨6, by decide⟩

def damaged : TableRepository where
  rows :=
    [{ id := .null, faction := .null, target := .text "", stance := .blob [], version := .text "6" },
      { id := .null, faction := .null, target := .null, stance := .null, version := .integer 6 },
      { id := Row.key homage.id, faction := .null, target := .integer 4,
        stance := .text "NEUTRAL", version := .integer 6 },
      { id := .text "homage", faction := .null, target := .null, stance := .null,
        version := .integer (-1) }]

/-- Two null keys are no obstacle, and the damaged columns are written over. -/
theorem damaged_row_is_replaced :
    Keyed damaged.rows ∧
      Commits homage (damaged.rows.take 2) (damaged.rows.drop 3) (damaged.upsert homage) := by
  have keyed : Keyed damaged.rows := by
    simp [Keyed, damaged, Row.key]
  have updates := (writes_touch_one_row keyed homage homage.id).2.1 (damaged.rows.take 2) _
    (damaged.rows.drop 3) rfl rfl
  exact ⟨keyed, updates.commits 6 rfl rfl (by decide)⟩

end Diplomacy.TableRepository
