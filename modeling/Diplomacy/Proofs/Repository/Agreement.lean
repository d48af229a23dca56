import Diplomacy.Proofs.Repository.Answers
import Diplomacy.Proofs.Repository.History

/-!
The two repositories side by side. As long as they hold the same records they
answer every call alike, refusals and their texts included, and hold the same
records again. Only one kind of write parts them: one that the locking rule
accepts and whose next version is past the signed integers of a table. In memory
it is committed, and a table refuses it and stays as it was.
-/

namespace Diplomacy.Backend

open Repository

variable {backend : Backend} {records : List Relationship} {record committed : Relationship}

/-! ## The locking rule decides -/

/-- What the locking rule makes of a write, given the records that are held. -/
abbrev ruling (records : List Relationship) (record : Relationship) :
    Except RepositoryError Relationship :=
  record.nextRevision ((records.find? (·.id = record.id)).map (·.version))

theorem upsert_of_refused {state : backend.State} (holds : Holds state records)
    {error : RepositoryError} (refused : ruling records record = .error error) :
    Repository.upsert state record = (.error error, state) := by
  cases backend with
  | memory =>
      rw [← holds.records_eq] at refused
      change MemoryRepository.upsert state record = _
      simp only [MemoryRepository.upsert, MemoryRepository.stored, refused]
  | table => exact TableRepository.upsert_of_error holds.reads refused

/-- A write that the locking rule accepts is committed as the rule has it, if the
repository can store the version. -/
theorem upsert_of_accepted {state : backend.State} (holds : Holds state records)
    (accepted : ruling records record = .ok committed)
    (room : record.version.value < backend.limit) :
    ∃ next, Repository.upsert state record = (.ok committed, next) ∧
      Holds next (MemoryRepository.place committed records) := by
  rcases Relationship.nextRevision_eq_ok_iff.mp accepted with ⟨agrees, advanced⟩
  rcases upsert_of_agrees holds (agrees_iff.mp agrees) room with
    ⟨written, next, answered, successor, kept, placed⟩
  have same : written = committed := by
    rw [kept]
    rcases Relationship.advance_eq_ok_iff.mp advanced with ⟨version, value, rfl⟩
    rw [show written.version = version from Version.ext (successor.trans value.symm)]
  subst same
  exact ⟨next, answered, placed⟩

/-! ## In lockstep -/

def Alike (left : memory.State) (right : table.State) : Prop :=
  ∃ records, Holds left records ∧ Holds right records

/-- A version that has a successor, but none that a table can store. -/
def PastTables (version : Version) : Prop :=
  table.limit ≤ version.value ∧ version.value < memory.limit

/-- The locking rule accepts a write: nothing is stored under its identifier, or
the version that it submits. -/
def Admits (state : backend.State) (record : Relationship) : Prop :=
  stored state record.id = none ∨ stored state record.id = some (.ok record.version)

/-- A call that parts the repositories. -/
def Parts (state : memory.State) : Request → Prop
  | .upsert record => PastTables record.version ∧ Admits state record
  | _ => False

/-- No call parts the repositories, each being made in the state that the ones
before it leave. -/
def Together : List Request → memory.State → Prop
  | [], _ => True
  | request :: requests, state =>
      ¬ Parts state request ∧ Together requests (serve state request).2

variable {left : memory.State} {right : table.State}

theorem agrees_of_admits {state : backend.State} (holds : Holds state records)
    (admits : Admits state record) :
    ∀ stored, records.find? (·.id = record.id) = some stored →
      stored.version = record.version := by
  intro old found
  rw [Admits, stored_eq_of_listAll holds.listAll_eq, found] at admits
  rcases admits with absent | same
  · cases absent
  · exact Except.ok.inj (Option.some.inj same)

theorem admits_of_ruling {state : backend.State} (holds : Holds state records)
    (accepted : ruling records record = .ok committed) : Admits state record := by
  have agrees := agrees_iff.mp (Relationship.nextRevision_eq_ok_iff.mp accepted).1
  rw [Admits, stored_eq_of_listAll holds.listAll_eq]
  cases found : records.find? (·.id = record.id) with
  | none => exact .inl rfl
  | some old =>
      rw [← agrees old found]
      exact .inr rfl

/-- A write that the locking rule accepts, and that does not part the
repositories, submits a version whose successor both of them can store. -/
theorem lt_limit_of_not_parts (holds : Holds left records)
    (accepted : ruling records record = .ok committed) (keeps : ¬ Parts left (.upsert record)) :
    record.version.value < table.limit := by
  have advanced := (Relationship.nextRevision_eq_ok_iff.mp accepted).2
  have successor := (Relationship.eq_of_advance advanced).1
  have bound := committed.version.value_lt
  by_contra past
  refine keeps ⟨⟨Nat.le_of_not_lt past, ?_⟩, admits_of_ruling holds accepted⟩
  simp only [limit]
  omega

theorem alike_serve (alike : Alike left right) {request : Request}
    (keeps : ¬ Parts left request) :
    (serve left request).1 = (serve right request).1 ∧
      Alike (serve left request).2 (serve right request).2 := by
  rcases alike with ⟨records, leftHolds, rightHolds⟩
  cases request with
  | list =>
      refine ⟨?_, records, leftHolds, rightHolds⟩
      rw [serve, serve, leftHolds.listAll_eq, rightHolds.listAll_eq]
  | upsert record =>
      rw [serve, serve]
      cases decided : ruling records record with
      | error error =>
          rw [upsert_of_refused leftHolds decided, upsert_of_refused rightHolds decided]
          exact ⟨rfl, records, leftHolds, rightHolds⟩
      | ok committed =>
          have room := lt_limit_of_not_parts leftHolds decided keeps
          have wider : record.version.value < memory.limit := by
            simp only [limit] at room ⊢
            omega
          rcases upsert_of_accepted leftHolds decided wider with ⟨leftNext, written, leftPlaced⟩
          rcases upsert_of_accepted rightHolds decided room with ⟨rightNext, stored, rightPlaced⟩
          rw [written, stored]
          exact ⟨rfl, _, leftPlaced, rightPlaced⟩
  | delete id =>
      rw [serve, serve]
      cases found : records.find? (·.id = id) with
      | none =>
          rw [delete_of_absent leftHolds found, delete_of_absent rightHolds found]
          exact ⟨rfl, records, leftHolds, rightHolds⟩
      | some record =>
          rcases delete_of_present leftHolds found with ⟨leftNext, leftDeleted, leftRest⟩
          rcases delete_of_present rightHolds found with ⟨rightNext, rightDeleted, rightRest⟩
          rw [leftDeleted, rightDeleted]
          exact ⟨rfl, _, leftRest, rightRest⟩

theorem alike_settle (requests : List Request) (alike : Alike left right)
    (together : Together requests left) :
    history requests left = history requests right ∧
      Alike (settle requests left) (settle requests right) := by
  induction requests generalizing left right with
  | nil => exact ⟨rfl, alike⟩
  | cons request requests induction =>
      rcases alike_serve alike together.1 with ⟨same, next⟩
      rcases induction next together.2 with ⟨rest, after⟩
      refine ⟨?_, after⟩
      rw [history, history, same, rest]

theorem together_of_forall (requests : List Request) (state : memory.State)
    (within : ∀ record, .upsert record ∈ requests → ¬ PastTables record.version) :
    Together requests state := by
  induction requests generalizing state with
  | nil => trivial
  | cons request requests induction =>
      constructor
      · intro parts
        cases request with
        | list => exact parts
        | upsert record => exact within record List.mem_cons_self parts.1
        | delete id => exact parts
      · exact induction _ fun record member => within record (List.mem_cons_of_mem _ member)

/-! ## Parting -/

theorem answers_of_parts (alike : Alike left right) (past : PastTables record.version)
    (admits : Admits left record) :
    (∃ version next, version.value = record.version.value + 1 ∧
      Repository.upsert left record = (.ok { record with version }, next) ∧
      next.records = MemoryRepository.place { record with version } left.records) ∧
      ∃ description causes,
        Repository.upsert right record = (.error (.storage description causes), right) := by
  rcases alike with ⟨records, leftHolds, rightHolds⟩
  have agrees := agrees_of_admits leftHolds admits
  constructor
  · rcases upsert_of_agrees leftHolds agrees past.2 with
      ⟨committed, next, written, successor, kept, placed⟩
    refine ⟨committed.version, next, successor, kept ▸ written, ?_⟩
    rw [placed.records_eq, leftHolds.records_eq, ← kept]
  · exact upsert_of_exhausted rightHolds agrees past.1

/-- A repository that was just set up. -/
def fresh : (backend : Backend) → backend.State
  | .memory => {}
  | .table => {}

theorem alike_fresh : Alike (fresh .memory) (fresh .table) :=
  ⟨[], ⟨rfl, .nil⟩, ⟨rfl, .nil⟩⟩

/-- What two new repositories have in common, and where they part. -/
structure Interchangeable : Prop where
  /-- Without a version past the tables, all answers are the same. -/
  below : ∀ requests : List Request,
    (∀ record, .upsert record ∈ requests → ¬ PastTables record.version) →
      history requests (fresh .memory) = history requests (fresh .table)
  /-- All answers are the same as well up to the first write that submits such a
  version and is not refused by the locking rule. -/
  before : ∀ requests : List Request, Together requests (fresh .memory) →
    history requests (fresh .memory) = history requests (fresh .table)
  /-- That write is committed in memory. A table fails at it, and stays as it was. -/
  parting : ∀ requests record, Together requests (fresh .memory) → PastTables record.version →
    Admits (settle requests (fresh .memory)) record →
      (∃ version next, version.value = record.version.value + 1 ∧
        Repository.upsert (settle requests (fresh .memory)) record =
          (.ok { record with version }, next) ∧
        next.records = MemoryRepository.place { record with version }
          (settle requests (fresh .memory)).records) ∧
      ∃ description causes,
        Repository.upsert (settle requests (fresh .table)) record =
          (.error (.storage description causes), settle requests (fresh .table))

/-- The repositories are interchangeable below the versions that a table cannot store. -/
theorem interchangeable_below_the_limit : Interchangeable where
  below requests within :=
    (alike_settle requests alike_fresh (together_of_forall requests _ within)).1
  before requests together := (alike_settle requests alike_fresh together).1
  parting requests _ together past admits :=
    answers_of_parts (alike_settle requests alike_fresh together).2 past admits

def charter : Relationship where
  id := ⟨20, by decide⟩
  faction := ⟨21, by decide⟩
  target := ⟨22, by decide⟩
  stance := .ally
  version := .uncommitted

/-- The least version past the tables. -/
def brink : Version := ⟨0x7fff_ffff_ffff_ffff, by decide⟩

def amendment : Relationship := { charter with id := ⟨23, by decide⟩, version := brink }

/-- A commit, a conflict at the brink, an exhausted counter, a deletion of
nothing, and the list of all records. -/
def negotiation : List Request :=
  [.upsert charter, .upsert { charter with version := brink },
    .upsert { amendment with version := ⟨0xffff_ffff_ffff_ffff, by decide⟩ },
    .delete amendment.id, .list]

theorem parting_after_negotiation :
    Together negotiation (fresh .memory) ∧ PastTables amendment.version ∧
      Admits (settle negotiation (fresh .memory)) amendment ∧
      history negotiation (fresh .memory) = history negotiation (fresh .table) ∧
      (∃ version next, version.value = amendment.version.value + 1 ∧
        Repository.upsert (settle negotiation (fresh .memory)) amendment =
          (.ok { amendment with version }, next) ∧
        next.records = MemoryRepository.place { amendment with version }
          (settle negotiation (fresh .memory)).records) ∧
      ∃ description causes,
        Repository.upsert (settle negotiation (fresh .table)) amendment =
          (.error (.storage description causes), settle negotiation (fresh .table)) := by
  have past : PastTables amendment.version := ⟨by decide, by decide⟩
  have admits : Admits (settle negotiation (fresh .memory)) amendment := .inl rfl
  have together : Together negotiation (fresh .memory) := by
    refine ⟨?_, ?_, ?_, id, id, trivial⟩
    · intro parts
      exact absurd parts.1.1 (by decide)
    · intro parts
      rcases parts.2 with absent | same
      · cases absent
      · cases same
    · intro parts
      exact absurd parts.1.2 (by decide)
  exact ⟨together, past, admits, interchangeable_below_the_limit.before negotiation together,
    interchangeable_below_the_limit.parting negotiation amendment together past admits⟩

end Diplomacy.Backend
