import Mathlib.Data.List.Induction
import Diplomacy.Proofs.Repository.Agreement

/-!
What a table holds, told from the answers that its writers were given. A table
that is written through its repository only can be loaded back at any time, also
after it was closed and opened again: it lists the last answer to a write of
each identifier that was not deleted since, in the order in which the identifiers
came to be stored.
-/

namespace Diplomacy

namespace Repository

/-! ## What was said of an identifier -/

/-- A successful write of an identifier, answered by the committed record. -/
def Exchange.Commits (id : RelationshipId) (committed : Relationship) : Exchange → Prop
  | .upserted record (.ok answer) => record.id = id ∧ answer = committed
  | _ => False

/-- A successful write or deletion of an identifier. -/
def Exchange.Changes (id : RelationshipId) (exchange : Exchange) : Prop :=
  (∃ committed, exchange.Commits id committed) ∨ exchange.Deletes id

/-- The last change of an identifier is a write, and this is the answer to it. -/
def Stands (past : List Exchange) (id : RelationshipId) (committed : Relationship) : Prop :=
  ∃ before write after, past = before ++ write :: after ∧ write.Commits id committed ∧
    ∀ later ∈ after, ¬ later.Changes id

/-- The first write of an identifier since its last deletion comes right after
`before`. -/
def Created (past before : List Exchange) (id : RelationshipId) : Prop :=
  ∃ write after, past = before ++ write :: after ∧ (∃ committed, write.Commits id committed) ∧
    (∀ committed, ¬ Stands before id committed) ∧ ∀ later ∈ after, ¬ later.Deletes id

/-- One identifier was created before another. -/
def Precedes (past : List Exchange) (left right : RelationshipId) : Prop :=
  ∃ earlier later, Created past earlier left ∧ Created past later right ∧
    earlier.length < later.length

variable {past before : List Exchange} {exchange : Exchange} {id left right : RelationshipId}
  {committed : Relationship}

/-- A place in a list with one more element is the last one or a place before it. -/
theorem concat_eq_append_cons_iff {α : Type} {list front back : List α} {last middle : α} :
    list ++ [last] = front ++ middle :: back ↔
      (list = front ∧ last = middle ∧ back = []) ∨
        ∃ rest, back = rest ++ [last] ∧ list = front ++ middle :: rest := by
  constructor
  · intro equal
    rcases List.eq_nil_or_concat back with rfl | ⟨rest, end', rfl⟩
    · rcases List.append_inj' equal rfl with ⟨same, single⟩
      exact .inl ⟨same, List.head_eq_of_cons_eq single, rfl⟩
    · rw [List.concat_eq_append, ← List.cons_append, ← List.append_assoc] at equal
      rcases List.append_inj' equal rfl with ⟨same, single⟩
      cases single
      exact .inr ⟨rest, List.concat_eq_append, same⟩
  · rintro (⟨rfl, rfl, rfl⟩ | ⟨rest, rfl, rfl⟩)
    · rfl
    · simp

/-- One more exchange is the last word on an identifier, or leaves it. -/
theorem stands_concat :
    Stands (past ++ [exchange]) id committed ↔
      exchange.Commits id committed ∨ (¬ exchange.Changes id ∧ Stands past id committed) := by
  constructor
  · rintro ⟨before, write, after, split, commits, unchanged⟩
    rcases concat_eq_append_cons_iff.mp split with ⟨rfl, rfl, rfl⟩ | ⟨rest, rfl, rfl⟩
    · exact .inl commits
    · refine .inr ⟨unchanged exchange (by simp), before, write, rest, rfl, commits, ?_⟩
      intro later member
      exact unchanged later (List.mem_append_left _ member)
  · rintro (commits | ⟨unchanged, before, write, after, rfl, commits, rest⟩)
    · exact ⟨past, exchange, [], rfl, commits, by simp⟩
    · refine ⟨before, write, after ++ [exchange], by simp, commits, ?_⟩
      intro later member
      rcases List.mem_append.mp member with member | single
      · exact rest later member
      · rw [List.mem_singleton.mp single]
        exact unchanged

theorem not_stands_nil : ¬ Stands [] id committed := by
  rintro ⟨before, write, after, split, _⟩
  simp at split

theorem Created.concat (created : Created past before id) (kept : ¬ exchange.Deletes id) :
    Created (past ++ [exchange]) before id := by
  rcases created with ⟨write, after, rfl, commits, fresh, rest⟩
  refine ⟨write, after ++ [exchange], by simp, commits, fresh, ?_⟩
  intro later member
  rcases List.mem_append.mp member with member | single
  · exact rest later member
  · rw [List.mem_singleton.mp single]
    exact kept

theorem created_concat (commits : exchange.Commits id committed)
    (fresh : ∀ committed, ¬ Stands past id committed) : Created (past ++ [exchange]) past id :=
  ⟨exchange, [], rfl, ⟨committed, commits⟩, fresh, by simp⟩

theorem Created.length_lt (created : Created past before id) : before.length < past.length := by
  rcases created with ⟨write, after, rfl, _⟩
  simp

/-- An identifier that was written and not deleted after that stands. -/
theorem exists_stands (write : Exchange) (commits : ∃ committed, write.Commits id committed)
    (after : List Exchange) (kept : ∀ later ∈ after, ¬ later.Deletes id) :
    ∃ committed, Stands (before ++ write :: after) id committed := by
  induction after using List.reverseRecOn with
  | nil =>
      rcases commits with ⟨committed, commits⟩
      exact ⟨committed, stands_concat.mpr (.inl commits)⟩
  | append_singleton after last induction =>
      rcases induction fun later member => kept later (List.mem_append_left _ member) with
        ⟨committed, stands⟩
      rw [← List.cons_append, ← List.append_assoc]
      by_cases again : ∃ other, last.Commits id other
      · rcases again with ⟨other, commits⟩
        exact ⟨other, stands_concat.mpr (.inl commits)⟩
      · refine ⟨committed, stands_concat.mpr (.inr ⟨?_, stands⟩)⟩
        rintro (commits | deletes)
        · exact again commits
        · exact kept last (by simp) deletes

/-- An identifier is created at one place: before a later one it would stand. -/
theorem Created.length_le {other : List Exchange} (first : Created past before id)
    (second : Created past other id) : other.length ≤ before.length := by
  by_contra longer
  rcases first with ⟨write, after, split, commits, _, kept⟩
  rcases second with ⟨again, rest, splitAgain, _, fresh, _⟩
  rcases List.append_eq_append_iff.mp (split.symm.trans splitAgain) with
    ⟨between, rfl, tail⟩ | ⟨between, rfl, tail⟩
  · cases between with
    | nil => simp at longer
    | cons head between =>
        cases tail
        rcases exists_stands write commits between fun later member =>
          kept later (List.mem_append_left _ member) with ⟨committed, stands⟩
        exact fresh committed stands
  · simp at longer

theorem Precedes.concat (precedes : Precedes past left right) (kept : ¬ exchange.Deletes left)
    (other : ¬ exchange.Deletes right) : Precedes (past ++ [exchange]) left right := by
  rcases precedes with ⟨earlier, later, first, second, shorter⟩
  exact ⟨earlier, later, first.concat kept, second.concat other, shorter⟩

/-! ## Records as they were told -/

/-- Records that are what the past says of them. -/
structure Recounts (past : List Exchange) (records : List Relationship) : Prop where
  stands : ∀ id record, records.find? (·.id = id) = some record ↔ Stands past id record
  created : ∀ id ∈ records.map (·.id), ∃ before, Created past before id
  ordered : (records.map (·.id)).Pairwise (Precedes past)
  positive : ∀ record ∈ records, 1 ≤ record.version.value

variable {records : List Relationship}

theorem recounts_nil : Recounts [] [] where
  stands id record := by
    constructor
    · intro found
      cases found
    · intro stands
      exact absurd stands not_stands_nil
  created id member := by cases member
  ordered := .nil
  positive record member := by cases member

theorem Recounts.not_stands (recounts : Recounts past records)
    (absent : id ∉ records.map (·.id)) (record : Relationship) : ¬ Stands past id record := by
  intro stands
  have found := (recounts.stands id record).mpr stands
  have own := List.find?_some found
  exact absent (List.mem_map.mpr ⟨record, List.mem_of_find?_eq_some found, of_decide_eq_true own⟩)

theorem Recounts.unchanged (recounts : Recounts past records)
    (inert : ∀ id, ¬ exchange.Changes id) : Recounts (past ++ [exchange]) records where
  stands id record := by
    rw [recounts.stands, stands_concat]
    constructor
    · intro stands
      exact .inr ⟨inert id, stands⟩
    · rintro (commits | ⟨_, stands⟩)
      · exact absurd (.inl ⟨record, commits⟩) (inert id)
      · exact stands
  created id member := by
    rcases recounts.created id member with ⟨before, created⟩
    exact ⟨before, created.concat fun deletes => inert id (.inr deletes)⟩
  ordered := recounts.ordered.imp fun precedes =>
    precedes.concat (fun deletes => inert _ (.inr deletes)) fun deletes => inert _ (.inr deletes)
  positive := recounts.positive

/-- A write keeps the place of what stood, and puts what did not at the end. -/
theorem Recounts.place {record : Relationship} (recounts : Recounts past records)
    (same : committed.id = record.id) (positive : 1 ≤ committed.version.value) :
    Recounts (past ++ [.upserted record (.ok committed)])
      (MemoryRepository.place committed records) where
  stands id other := by
    rw [MemoryRepository.find?_place, stands_concat, same]
    by_cases here : record.id = id
    · simp [Exchange.Changes, Exchange.Commits, here]
    · simp [Exchange.Changes, Exchange.Commits, Exchange.Deletes, here, recounts.stands]
  created id member := by
    have commits : (Exchange.upserted record (.ok committed)).Commits committed.id committed :=
      ⟨same.symm, rfl⟩
    rw [MemoryRepository.ids_place] at member
    split at member
    · rcases recounts.created id member with ⟨before, created⟩
      exact ⟨before, created.concat not_false⟩
    · next absent =>
        rcases List.mem_append.mp member with member | single
        · rcases recounts.created id member with ⟨before, created⟩
          exact ⟨before, created.concat not_false⟩
        · rw [List.mem_singleton.mp single]
          exact ⟨past, created_concat commits (recounts.not_stands absent)⟩
  ordered := by
    have commits : (Exchange.upserted record (.ok committed)).Commits committed.id committed :=
      ⟨same.symm, rfl⟩
    have kept : (records.map (·.id)).Pairwise
        (Precedes (past ++ [.upserted record (.ok committed)])) :=
      recounts.ordered.imp fun precedes => precedes.concat not_false not_false
    rw [MemoryRepository.ids_place]
    split
    · exact kept
    · next absent =>
        rw [List.pairwise_append]
        refine ⟨kept, List.pairwise_singleton _ _, ?_⟩
        intro left member right single
        rw [List.mem_singleton.mp single]
        rcases recounts.created left member with ⟨before, created⟩
        exact ⟨before, past, created.concat not_false,
          created_concat commits (recounts.not_stands absent), created.length_lt⟩
  positive other member := by
    rcases MemoryRepository.mem_of_mem_place member with rfl | member
    · exact positive
    · exact recounts.positive other member

theorem mem_ids_filter {other : RelationshipId}
    (member : other ∈ (records.filter (·.id ≠ id)).map (·.id)) :
    other ∈ records.map (·.id) ∧ ¬ (Exchange.deleted id (.ok ())).Deletes other := by
  rcases List.mem_map.mp member with ⟨record, kept, rfl⟩
  rcases List.mem_filter.mp kept with ⟨found, differs⟩
  exact ⟨List.mem_map_of_mem found, fun same => of_decide_eq_true differs same.symm⟩

/-- A deletion takes out what stood, and leaves the others in order. -/
theorem Recounts.delete (recounts : Recounts past records) (id : RelationshipId) :
    Recounts (past ++ [.deleted id (.ok ())]) (records.filter (·.id ≠ id)) where
  stands other record := by
    rw [stands_concat, MemoryRepository.find?_filter]
    by_cases here : id = other
    · simp [Exchange.Changes, Exchange.Commits, Exchange.Deletes, here]
    · simp [Exchange.Changes, Exchange.Commits, Exchange.Deletes, here, recounts.stands]
  created other member := by
    rcases mem_ids_filter member with ⟨found, kept⟩
    rcases recounts.created other found with ⟨before, created⟩
    exact ⟨before, created.concat kept⟩
  ordered := by
    have remaining := recounts.ordered.sublist
      ((List.filter_sublist (p := (·.id ≠ id))).map Relationship.id)
    refine remaining.imp_of_mem fun member other precedes => ?_
    exact precedes.concat (mem_ids_filter member).2 (mem_ids_filter other).2
  positive other member := recounts.positive other (List.mem_of_mem_filter member)

end Repository

namespace Backend

open Repository

variable {past : List Exchange} {state : table.State} {records : List Relationship}
  {record : Relationship} {id : RelationshipId}

/-! ## Calls -/

/-- Why a table refuses a write: the submitted version is not the stored one, or it
has no next version, or none that a cell can hold. -/
inductive Refusal (record : Relationship) : RepositoryError → Prop where
  | conflict (actual : Version) (differs : actual ≠ record.version) :
      Refusal record (.conflict record.id record.version actual)
  | exhausted (full : record.version.value = 0xffff_ffff_ffff_ffff) :
      Refusal record
        (.storage s!"Version counter exhausted for relationship {record.id}" [])
  | unstorable (version : Version) (successor : version.value = record.version.value + 1)
      (exceeds : 0x8000_0000_0000_0000 ≤ version.value) :
      Refusal record (Row.Fault.badContent (.versionRange version)).toRepositoryError

theorem refusal_of_ruling {error : RepositoryError}
    (refused : ruling records record = .error error) : Refusal record error := by
  have advance : record.advance = .error error → Refusal record error := by
    intro exhausted
    rw [Relationship.advance] at exhausted
    split at exhausted
    · cases exhausted
    · next none =>
        cases exhausted
        refine .exhausted ?_
        have bound := record.version.value_lt
        by_contra room
        have next : record.version.next? = some ⟨record.version.value + 1, by omega⟩ :=
          Version.next?_eq_some_iff.mpr rfl
        rw [none] at next
        cases next
  rw [ruling] at refused
  cases found : (records.find? (·.id = record.id)).map (·.version) with
  | none =>
      rw [found] at refused
      exact advance refused
  | some actual =>
      rw [found, Relationship.nextRevision] at refused
      split at refused
      · exact advance refused
      · next differs =>
          cases refused
          exact .conflict actual differs

/-- A write to a table is refused for one of three reasons, or is committed. -/
theorem table_upsert_cases (holds : Holds state records) (record : Relationship) :
    (∃ error, Repository.upsert state record = (.error error, state) ∧ Refusal record error) ∨
      ∃ committed next, Repository.upsert state record = (.ok committed, next) ∧
        committed.id = record.id ∧ 1 ≤ committed.version.value ∧
        Holds next (MemoryRepository.place committed records) := by
  cases decided : ruling records record with
  | error error => exact .inl ⟨error, upsert_of_refused holds decided, refusal_of_ruling decided⟩
  | ok committed =>
      have advanced := (Relationship.nextRevision_eq_ok_iff.mp decided).2
      rcases Relationship.eq_of_advance advanced with ⟨successor, kept⟩
      rcases Nat.lt_or_ge record.version.value table.limit with room | past
      · rcases upsert_of_accepted holds decided room with ⟨next, written, placed⟩
        exact .inr ⟨committed, next, written, by rw [kept], by omega, placed⟩
      · have exceeds : 0x8000_0000_0000_0000 ≤ committed.version.value := by
          simp only [limit] at past
          omega
        exact .inl ⟨_, TableRepository.upsert_of_exceeds holds.reads decided exceeds,
          .unstorable committed.version successor exceeds⟩

/-- A call adds to the past what it changes in the records. -/
theorem recounts_serve (holds : Holds state records) (recounts : Recounts past records)
    (request : Request) :
    ∃ after, Holds (serve state request).2 after ∧
      Recounts (past ++ [(serve state request).1]) after := by
  cases request with
  | list =>
      refine ⟨records, holds, recounts.unchanged ?_⟩
      simp [serve, Exchange.Changes, Exchange.Commits, Exchange.Deletes]
  | upsert record =>
      rw [serve]
      rcases table_upsert_cases holds record with
        ⟨error, refused, _⟩ | ⟨committed, next, written, same, positive, placed⟩
      · rw [refused]
        refine ⟨records, holds, recounts.unchanged ?_⟩
        simp [Exchange.Changes, Exchange.Commits, Exchange.Deletes]
      · rw [written]
        exact ⟨_, placed, recounts.place same positive⟩
  | delete id =>
      rw [serve]
      cases found : records.find? (·.id = id) with
      | none =>
          rw [delete_of_absent holds found]
          refine ⟨records, holds, recounts.unchanged ?_⟩
          simp [Exchange.Changes, Exchange.Commits, Exchange.Deletes]
      | some record =>
          rcases delete_of_present holds found with ⟨next, deleted, rest⟩
          rw [deleted]
          exact ⟨_, rest, recounts.delete id⟩

/-! ## Databases over time -/

/-- A call of the repository that is open on a database, or closing it and opening
another one on the same database. -/
inductive Step where
  | call (request : Request)
  | reopen

def Step.next : Step → table.State → table.State
  | .call request, state => (serve state request).2
  | .reopen, state => TableRepository.ofDatabase state.database

def Step.exchanges : Step → table.State → List Exchange
  | .call request, state => [(serve state request).1]
  | .reopen, _ => []

/-- The repository that is open after some steps. -/
def reach : List Step → table.State → table.State
  | [], state => state
  | step :: steps, state => reach steps (step.next state)

/-- The calls among some steps, each with its answer. -/
def transcript : List Step → table.State → List Exchange
  | [], _ => []
  | step :: steps, state => step.exchanges state ++ transcript steps (step.next state)

theorem recounts_step (holds : Holds state records) (recounts : Recounts past records)
    (step : Step) :
    ∃ after, Holds (step.next state) after ∧ Recounts (past ++ step.exchanges state) after := by
  cases step with
  | call request => exact recounts_serve holds recounts request
  | reopen =>
      rw [Step.exchanges, List.append_nil]
      exact ⟨records, holds, recounts⟩

theorem recounts_reach (steps : List Step) (holds : Holds state records)
    (recounts : Recounts past records) :
    ∃ after, Holds (reach steps state) after ∧
      Recounts (past ++ transcript steps state) after := by
  induction steps generalizing state records past with
  | nil =>
      rw [transcript, List.append_nil]
      exact ⟨records, holds, recounts⟩
  | cons step steps induction =>
      rcases recounts_step holds recounts step with ⟨next, nextHolds, nextRecounts⟩
      rw [transcript, ← List.append_assoc]
      exact induction nextHolds nextRecounts

/-- A table lists exactly what its writers were told, and no cell of it is at fault. -/
structure LoadsBack (past : List Exchange) (state : table.State) (records : List Relationship) :
    Prop where
  listed : Repository.listAll state = .ok records
  once : (records.map (·.id)).Nodup
  /-- Listed is the answer to the last successful write, unless a deletion came after it. -/
  stands : ∀ id record, record ∈ records ∧ record.id = id ↔ Stands past id record
  created : ∀ id ∈ records.map (·.id), ∃ before, Created past before id
  /-- Identifiers are listed in the order of their first writes since their last deletions. -/
  ordered : (records.map (·.id)).Pairwise fun left right => ∀ earlier later,
    Created past earlier left → Created past later right → earlier.length < later.length
  versions : ∀ record ∈ records,
    1 ≤ record.version.value ∧ record.version.value ≤ 0x7fff_ffff_ffff_ffff
  /-- Every row that is looked at, in a list or for a write, can be read. -/
  reads : ∀ row ∈ state.rows, (∃ record, row.toRelationship = .ok record) ∧
    ∀ id, ∃ version, Row.readStoredVersion id row.version = .ok version
  /-- The row that a write replaces is the only one with its key and version. -/
  single : ∀ id row, state.rowOf? id = some row →
    state.rows.countP (fun other =>
      TableRepository.isRowOf id other && other.version = row.version) = 1
  refusals : ∀ record error next, Repository.upsert state record = (.error error, next) →
    next = state ∧ Refusal record error

theorem loadsBack_of_recounts (holds : Holds state records) (recounts : Recounts past records) :
    LoadsBack past state records where
  listed := holds.listAll_eq
  once := holds.distinct
  stands id record := by
    rw [← MemoryRepository.find?_eq_some_iff holds.distinct]
    exact recounts.stands id record
  created := recounts.created
  ordered := by
    refine recounts.ordered.imp fun precedes earlier later first second => ?_
    rcases precedes with ⟨before, between, created, other, shorter⟩
    calc earlier.length
        ≤ before.length := created.length_le first
      _ < between.length := shorter
      _ ≤ later.length := second.length_le other
  versions record member := by
    refine ⟨recounts.positive record member, ?_⟩
    have bound := TableRepository.version_lt_of_reads holds.reads record member
    omega
  reads row member := by
    rcases TableRepository.exists_record_of_mem holds.reads row member with ⟨record, read⟩
    refine ⟨⟨record, read⟩, fun id => ⟨record.version, ?_⟩⟩
    exact Row.readStoredVersion_eq_ok_iff.mpr (Row.toRelationship_eq_ok_iff.mp read).2.2.2.2
  single id row found := TableRepository.countP_version holds.reads holds.distinct found
  refusals record error next refused := by
    rcases table_upsert_cases holds record with ⟨other, same, refusal⟩ | ⟨_, _, written, _⟩
    · rw [same] at refused
      cases refused
      exact ⟨rfl, refusal⟩
    · rw [written] at refused
      cases refused

/-- Whatever is written through repositories on a new database, one after another,
is listed by the last one. -/
theorem written_tables_load_back (steps : List Step) :
    ∃ records, LoadsBack (transcript steps (TableRepository.ofDatabase none))
      (reach steps (TableRepository.ofDatabase none)) records := by
  have empty : Holds (fresh .table) [] := ⟨rfl, .nil⟩
  rcases recounts_reach steps empty recounts_nil with ⟨records, holds, recounts⟩
  exact ⟨records, loadsBack_of_recounts holds recounts⟩

end Backend

end Diplomacy
