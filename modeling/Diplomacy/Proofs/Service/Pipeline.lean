import Diplomacy.Proofs.Repository.History
import Diplomacy.Proofs.Service.Interference

/-!
The order of things in a mutation, whatever its hooks do and whatever the
repository answers. First come the hooks, if the mutation is announced at all.
Then, unless one of them vetoed, comes the one call of the repository, and last
the index, which follows only a confirmed call. The repository is arbitrary, so
it may commit a record other than the submitted one, or one that is older than
the indexed one.
-/

namespace Diplomacy

/-! ## What an answer makes of the index -/

namespace Index

variable {before after : Index} {committed : Relationship} {id : RelationshipId}

/-- What becomes of the index when the repository has committed a record. -/
inductive Takes (committed : Relationship) (before : Index) : (after : Index) → Prop where
  | installed {after : Index}
      (current : ∀ old, before.get? committed.id = some old →
        old.version.value ≤ committed.version.value)
      (found : after.get? committed.id = some committed)
      (others : ∀ id ≠ committed.id, after.get? id = before.get? id)
      (listed : after.toList = MemoryRepository.place committed before.toList) :
      Takes committed before after
  /-- A newer record is indexed already, and stays. -/
  | superseded {newer : Relationship} (indexed : before.get? committed.id = some newer)
      (late : committed.version.value < newer.version.value) : Takes committed before before

/-- What becomes of the index when the repository has deleted an identifier. -/
structure Drops (id : RelationshipId) (before after : Index) : Prop where
  gone : after.get? id = none
  others : ∀ other ≠ id, after.get? other = before.get? other
  listed : after.toList = before.toList.filter (·.id ≠ id)

theorem takes_of_toList
    (current : ∀ old, before.get? committed.id = some old →
      old.version.value ≤ committed.version.value)
    (listed : after.toList = MemoryRepository.place committed before.toList) :
    Takes committed before after := by
  refine .installed current ?_ ?_ listed
  · exact (get?_of_placed listed committed.id).trans (if_pos rfl)
  · exact fun id other => (get?_of_placed listed id).trans (if_neg other.symm)

theorem takes_applyCommitted (before : Index) (committed : Relationship) :
    Takes committed before (before.applyCommitted committed).2 := by
  rcases applyCommitted_cases before committed with
    ⟨newer, indexed, late, ignored⟩ | ⟨current, _, listed⟩
  · rw [ignored]
    exact .superseded indexed late
  · exact takes_of_toList current listed

theorem drops_remove (before : Index) (id : RelationshipId) :
    Drops id before (before.remove id).2 where
  gone := (get?_remove before id id).trans (if_pos rfl)
  others other differs := (get?_remove before id other).trans (if_neg differs)
  listed := toList_remove before id

end Index

/-! ## Calls on record -/

variable {σ ω α : Type}

/-- A repository together with the writes that were asked of it, oldest first. -/
structure Recorded (σ : Type) where
  repository : σ
  calls : List Repository.Request

instance [Repository σ] : Repository (Recorded σ) where
  listAll state := Repository.listAll state.repository
  upsert state record :=
    let (answer, repository) := Repository.upsert state.repository record
    (answer, { repository, calls := state.calls ++ [.upsert record] })
  delete state id :=
    let (answer, repository) := Repository.delete state.repository id
    (answer, { repository, calls := state.calls ++ [.delete id] })

/-- The session after one more write of the repository. Its host, its hooks and
its settings are as they were. -/
def Session.called (asked : Session (Recorded σ) ω) (request : Repository.Request)
    (repository : σ) (index : Index) (journal : List Notice) : Session (Recorded σ) ω :=
  { asked with
    service :=
      { asked.service with
        repository := { repository, calls := asked.service.repository.calls ++ [request] }
        index
        journal } }

/-- A write of the repository, and what the index makes of its answer. -/
structure Mutation (σ α : Type) where
  request : Repository.Request
  call : σ → Except RepositoryError α × σ
  Indexes : (answer : α) → (before after : Index) → Prop

namespace Mutation

variable [Repository σ]

def save (record : Relationship) : Mutation σ Relationship where
  request := .upsert record
  call state := Repository.upsert state record
  Indexes := Index.Takes

def delete (id : RelationshipId) : Mutation σ Unit where
  request := .delete id
  call state := Repository.delete state id
  Indexes _ := Index.Drops id

end Mutation

namespace Run

/-! ## The verdict of the hooks -/

/-- Of hooks that are consulted in turn, one comes to no decision, and those
before it let the event pass. -/
def Stuck (consulting : Hook σ ω → Event → Run σ ω Decision) (event : Event)
    (hooks : List (Hook σ ω)) (session : Session σ ω) : Prop :=
  ∃ earlier hook later between, hooks = earlier ++ hook :: later ∧
    AllProceed consulting event earlier session between ∧ consulting hook event between = none

/-- A mutation is not announced at all, or all hooks let it pass. -/
inductive Cleared (consulting : Hook σ ω → Event → Run σ ω Decision) (session : Session σ ω) :
    Option Event → (asked : Session σ ω) → Prop where
  | unannounced : Cleared consulting session none session
  | passed {event : Event} {asked : Session σ ω}
      (passed : AllProceed consulting event session.service.hooks.hooks session asked) :
      Cleared consulting session (some event) asked

section

variable {consulting : Hook σ ω → Event → Run σ ω Decision} {event : Event}
  {hooks : List (Hook σ ω)} {session : Session σ ω}

variable (consulting event hooks session) in
/-- Hooks that are consulted in turn let an event pass, veto it or get stuck. -/
theorem verdict :
    (∃ asked, AllProceed consulting event hooks session asked) ∨
      (∃ reason asked, FirstVeto consulting event hooks session reason asked) ∨
      Stuck consulting event hooks session := by
  induction hooks generalizing session with
  | nil => exact .inl ⟨session, .nil session⟩
  | cons hook hooks induction =>
      cases ran : consulting hook event session with
      | none => exact .inr (.inr ⟨[], hook, hooks, session, rfl, .nil session, ran⟩)
      | some result =>
          rcases result with ⟨_ | reason, between⟩
          · rcases induction between with ⟨asked, passed⟩ | ⟨reason, asked, vetoed⟩ | stuck
            · exact .inl ⟨asked, .cons ran passed⟩
            · exact .inr (.inl ⟨reason, asked, .later ran vetoed⟩)
            · rcases stuck with ⟨earlier, other, later, last, rfl, passed, stuck⟩
              exact .inr (.inr ⟨hook :: earlier, other, later, last, rfl, .cons ran passed, stuck⟩)
          · exact .inr (.inl ⟨reason, between, .here ran⟩)

theorem consultUntilVeto_of_stuck (stuck : Stuck consulting event hooks session) :
    Registry.consultUntilVeto consulting event hooks session = none := by
  rcases stuck with ⟨earlier, hook, later, between, rfl, passed, stuck⟩
  induction passed with
  | nil session => exact bind_eq_none stuck
  | cons proceeds _ induction => exact (bind_apply proceeds).trans (induction stuck)

theorem announce_of_stuck (stuck : Stuck consulting event session.service.hooks.hooks session) :
    announce consulting event session = none := by
  rw [announce, get_bind_apply]
  exact bind_eq_none (consultUntilVeto_of_stuck stuck)

end

/-! ## The stages of a mutation -/

/-- What becomes of a mutation that was cleared. -/
inductive Carried (mutation : Mutation σ α) (asked : Session (Recorded σ) ω) :
    Except Failure α → (after : Session (Recorded σ) ω) → Prop where
  | failed {error : RepositoryError} {failure : Failure} {repository : σ} {journal : List Notice}
      (answered : mutation.call asked.service.repository.repository = (.error error, repository))
      (cause : failure.cause = .repository error)
      (conflict : failure.kind = .conflict ↔
        ∃ id expected actual, error = .conflict id expected actual)
      (uncancelled : failure.kind ≠ .cancelled) :
      Carried mutation asked (.error failure)
        (asked.called mutation.request repository asked.service.index journal)
  | succeeded {answer : α} {repository : σ} {index : Index} {journal : List Notice}
      (answered : mutation.call asked.service.repository.repository = (.ok answer, repository))
      (indexed : mutation.Indexes answer asked.service.index index) :
      Carried mutation asked (.ok answer)
        (asked.called mutation.request repository index journal)

/-- What becomes of a mutation that is announced by an event, or not at all. -/
inductive Pipelined (consulting : Hook (Recorded σ) ω → Event → Run (Recorded σ) ω Decision)
    (event? : Option Event) (mutation : Mutation σ α) (session : Session (Recorded σ) ω) :
    Option (Except Failure α × Session (Recorded σ) ω) → Prop where
  | undecided {event : Event} (announced : event? = some event)
      (stuck : Stuck consulting event session.service.hooks.hooks session) :
      Pipelined consulting event? mutation session none
  | cancelled {event : Event} {reason : String} {asked : Session (Recorded σ) ω}
      {journal : List Notice} (announced : event? = some event)
      (vetoed : FirstVeto consulting event session.service.hooks.hooks session reason asked) :
      Pipelined consulting event? mutation session
        (some (.error { kind := .cancelled, cause := .veto reason },
          { asked with service := { asked.service with journal } }))
  | carried {asked after : Session (Recorded σ) ω} {answer : Except Failure α}
      (cleared : Cleared consulting session event? asked)
      (carried : Carried mutation asked answer after) :
      Pipelined consulting event? mutation session (some (answer, after))

variable {consulting : Hook (Recorded σ) ω → Event → Run (Recorded σ) ω Decision}
  {mutation : Mutation σ α}

/-- What follows an announcement is pipelined if it passes a veto on and carries
the mutation out once it is cleared. -/
theorem pipelined_of_announced {next : Except Failure Unit → Run (Recorded σ) ω (Except Failure α)}
    (vetoed : ∀ failure session, next (.error failure) session = some (.error failure, session))
    (carries : ∀ asked, ∃ answer after, next (.ok ()) asked = some (answer, after) ∧
      Carried mutation asked answer after)
    (event : Event) (session : Session (Recorded σ) ω) :
    Pipelined consulting (some event) mutation session
      ((announce consulting event >>= next) session) := by
  rcases verdict consulting event session.service.hooks.hooks session with
    ⟨asked, passed⟩ | ⟨reason, asked, veto⟩ | stuck
  · rcases carries asked with ⟨answer, after, ran, carried⟩
    rw [bind_apply (announce_of_allProceed passed), ran]
    exact .carried (.passed passed) carried
  · rw [bind_apply (announce_of_firstVeto veto), vetoed]
    exact .cancelled rfl veto
  · rw [bind_eq_none (announce_of_stuck stuck)]
    exact .undecided rfl stuck

theorem kind_ofRepositoryError (error : RepositoryError) :
    ((Failure.ofRepositoryError error).kind = .conflict ↔
        ∃ id expected actual, error = .conflict id expected actual) ∧
      (Failure.ofRepositoryError error).kind ≠ .cancelled := by
  cases error <;> simp [Failure.ofRepositoryError, RepositoryError.isConflict]

variable [Repository σ]

theorem carried_commit (asked : Session (Recorded σ) ω) (record : Relationship) :
    Carried (.save record) asked (asked.service.commit record).1
      { asked with service := (asked.service.commit record).2 } := by
  cases called : Repository.upsert asked.service.repository.repository record with
  | mk answer repository =>
      have recorded : Repository.upsert asked.service.repository record =
          (answer, ⟨repository, asked.service.repository.calls ++ [.upsert record]⟩) := by
        simp only [Repository.upsert, called]
      cases answer with
      | error error =>
          rcases kind_ofRepositoryError error with ⟨conflict, uncancelled⟩
          rw [Service.commit_of_error recorded]
          exact .failed called rfl conflict uncancelled
      | ok committed =>
          rw [Service.commit, recorded]
          exact .succeeded called (Index.takes_applyCommitted asked.service.index committed)

theorem carried_discard (asked : Session (Recorded σ) ω) (id : RelationshipId) :
    Carried (.delete id) asked (asked.service.discard id).1
      { asked with service := (asked.service.discard id).2 } := by
  cases called : Repository.delete asked.service.repository.repository id with
  | mk answer repository =>
      have recorded : Repository.delete asked.service.repository id =
          (answer, ⟨repository, asked.service.repository.calls ++ [.delete id]⟩) := by
        simp only [Repository.delete, called]
      cases answer with
      | error error =>
          rcases kind_ofRepositoryError error with ⟨conflict, uncancelled⟩
          rw [Service.discard_of_error recorded]
          exact .failed called rfl conflict uncancelled
      | ok =>
          rw [Service.discard, recorded]
          exact .succeeded called (Index.drops_remove asked.service.index id)

theorem save_pipelined (caller : ThreadId) (record : Relationship)
    (session : Session (Recorded σ) ω) :
    let event? : Option Event := match session.service.index.get? record.id with
      | none => some (.create record (session.service.isAsync caller))
      | some _ => none
    Pipelined consulting event? (.save record) session
      (save consulting caller record session) := by
  have carries : ∀ asked : Session (Recorded σ) ω, ∃ answer after,
      commitAnnounced record (.ok ()) asked = some (answer, after) ∧
        Carried (.save record) asked answer after :=
    fun asked => ⟨_, _, rfl, carried_commit asked record⟩
  rw [save_apply]
  cases session.service.index.get? record.id with
  | none => exact pipelined_of_announced (fun _ _ => rfl) carries _ session
  | some indexed =>
      rcases carries session with ⟨answer, after, ran, carried⟩
      rw [if_neg Bool.noConfusion, ran]
      exact .carried .unannounced carried

theorem delete_pipelined (caller : ThreadId) (id : RelationshipId)
    (session : Session (Recorded σ) ω) :
    Pipelined consulting (some (.delete id (session.service.isAsync caller))) (.delete id) session
      (delete consulting caller id session) := by
  rw [delete_apply]
  refine pipelined_of_announced (fun _ _ => rfl) (fun asked => ?_) _ session
  exact ⟨_, _, rfl, carried_discard asked id⟩

/-- Every mutation goes through the pipeline. A save is announced exactly if its
identifier is not indexed to begin with, and a deletion always is. A hook finds
the index that the mutation began with, unless a save or a deletion within a
hook succeeded before its turn. -/
theorem mutations_follow_pipeline (nesting : Nat) (caller : ThreadId)
    (session : Session (Recorded σ) ω) :
    let isAsync := session.service.isAsync caller
    (∀ record : Relationship,
      let event? : Option Event := match session.service.index.get? record.id with
        | none => some (.create record isAsync)
        | some _ => none
      Pipelined (consult nesting) event? (.save record) session
        (save (consult nesting) caller record session)) ∧
      (∀ id : RelationshipId,
        Pipelined (consult nesting) (some (.delete id isAsync)) (.delete id) session
          (delete (consult nesting) caller id session)) ∧
      ∀ event earlier asked, AllProceed (consult nesting) event earlier session asked →
        Ineffective (incidentsOfHooks (consult nesting) (incidents nesting) event earlier session) →
        asked.service.index = session.service.index :=
  ⟨fun record => save_pipelined caller record session,
    fun id => delete_pipelined caller id session,
    fun _ _ _ passed ineffective => index_of_allProceed passed ineffective⟩

end Run

end Diplomacy
