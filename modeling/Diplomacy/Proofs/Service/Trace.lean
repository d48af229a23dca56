import Diplomacy.Service.Mutation

/-!
What happens in a run. A hook may come back to the service, so that a run begins
dispatches and completes calls that its result does not show. They are the incidents of
the run. They are collected in one walk that follows the reactions at every depth;
which calls were completed, and which hooks were registered by them, is read off the
incidents.
-/

namespace Diplomacy

variable {σ ω : Type}

/-! ## Calls and dispatches -/

/-- A call of the service and the answer to it. -/
inductive Call (σ ω : Type) where
  | save (caller : ThreadId) (record : Relationship) (answer : Except Failure Relationship)
  | delete (caller : ThreadId) (id : RelationshipId) (answer : Except Failure Unit)
  | register (hook : Hook σ ω)
  | ask (query : Query) (answer : query.Answer)

/-- The hook that a call adds. -/
def Call.registered? : Call σ ω → Option (Hook σ ω)
  | .register hook => some hook
  | _ => none

/-- A call as it is made, with its answer and the session after it. -/
def Call.Performed [Repository σ] (nesting : Nat) (session : Session σ ω) :
    Call σ ω → (after : Session σ ω) → Prop
  | .save caller record answer, after =>
      Run.save (Run.consult nesting) caller record session = some (answer, after)
  | .delete caller id answer, after =>
      Run.delete (Run.consult nesting) caller id session = some (answer, after)
  | .register hook, after => after = { session with service := session.service.register hook }
  | .ask query answer, after => Run.ask query session = some (answer, after)

/-- A completed call and the session as the call left it. -/
structure Completion (σ ω : Type) where
  call : Call σ ω
  session : Session σ ω

/-- What happens in a run on its way to the result. -/
inductive Incident (σ ω : Type) where
  /-- A dispatch of an event begins in a session. -/
  | dispatched (event : Event) (begun : Session σ ω)
  | completed (completion : Completion σ ω)

def Incident.completion? : Incident σ ω → Option (Completion σ ω)
  | .dispatched _ _ => none
  | .completed completion => some completion

namespace Run

variable {α : Type}

/-! ## What is read off the incidents -/

/-- The calls that are completed among some incidents, in that order. -/
def completions (incidents : List (Incident σ ω)) : List (Completion σ ω) :=
  incidents.filterMap Incident.completion?

/-- The hooks that are registered among some incidents, in that order. -/
def registrations (incidents : List (Incident σ ω)) : List (Hook σ ω) :=
  (completions incidents).filterMap fun completion => completion.call.registered?

variable {event : Event} {begun session after : Session σ ω} {completion : Completion σ ω}
  {first rest : List (Incident σ ω)}

@[simp] theorem completions_nil : completions ([] : List (Incident σ ω)) = [] := rfl

@[simp] theorem completions_dispatched_cons :
    completions (.dispatched event begun :: rest) = completions rest := rfl

@[simp] theorem completions_completed_cons :
    completions (.completed completion :: rest) = completion :: completions rest := rfl

@[simp] theorem completions_append :
    completions (first ++ rest) = completions first ++ completions rest :=
  List.filterMap_append

@[simp] theorem registrations_dispatched_cons :
    registrations (.dispatched event begun :: rest) = registrations rest := rfl

@[simp] theorem registrations_completed_cons :
    registrations (.completed completion :: rest) =
      completion.call.registered?.toList ++ registrations rest := by
  rw [registrations, completions_completed_cons, List.filterMap_cons]
  cases completion.call.registered? <;> rfl

/-! ## The incidents of a run -/

/-- The incidents after a step, if the step has a result. -/
def incidentsAfter (result : Option (α × Session σ ω))
    (later : α → Session σ ω → List (Incident σ ω)) : List (Incident σ ω) :=
  match result with
  | none => []
  | some (answer, after) => later answer after

/-- The incidents within a call, its completion if it has a result, and what follows. -/
def incidentsOfCall (within : List (Incident σ ω)) (call : α → Call σ ω)
    (result : Option (α × Session σ ω)) (later : α → Session σ ω → List (Incident σ ω)) :
    List (Incident σ ω) :=
  within ++ incidentsAfter result fun answer after =>
    .completed { call := call answer, session := after } :: later answer after

section

variable (consulting : Hook σ ω → Event → Run σ ω Decision)
  (incidents : Hook σ ω → Event → Session σ ω → List (Incident σ ω))

/-- The incidents while hooks are consulted one after another until one vetoes, if
`incidents` gives those of a single consultation. -/
def incidentsOfHooks (event : Event) : List (Hook σ ω) → Session σ ω → List (Incident σ ω)
  | [], _ => []
  | hook :: hooks, session =>
      incidents hook event session ++
        incidentsAfter (consulting hook event session) fun decision after =>
          match decision with
          | .proceed => incidentsOfHooks event hooks after
          | .cancel _ => []

/-- The incidents of a dispatch, its beginning included. -/
def incidentsOfDispatch (event : Event) (session : Session σ ω) : List (Incident σ ω) :=
  .dispatched event session ::
    incidentsOfHooks consulting incidents event session.service.hooks.hooks session

variable [Repository σ]

/-- The incidents within a save: those of its announcement, if it is announced. -/
def incidentsOfSave (caller : ThreadId) (record : Relationship) (session : Session σ ω) :
    List (Incident σ ω) :=
  if (session.service.index.get? record.id).isNone then
    incidentsOfDispatch consulting incidents (.create record (session.service.isAsync caller))
      session
  else []

/-- The incidents within a deletion. -/
def incidentsOfDelete (caller : ThreadId) (id : RelationshipId) (session : Session σ ω) :
    List (Incident σ ω) :=
  incidentsOfDispatch consulting incidents (.delete id (session.service.isAsync caller)) session

/-- The incidents while a reaction makes its calls. -/
def incidentsOfReaction : Reaction σ ω → Session σ ω → List (Incident σ ω)
  | .decide _, _ => []
  | .save caller record next, session =>
      incidentsOfCall (incidentsOfSave consulting incidents caller record session)
        (.save caller record) (save consulting caller record session) fun answer after =>
          incidentsOfReaction (next answer) after
  | .delete caller id next, session =>
      incidentsOfCall (incidentsOfDelete consulting incidents caller id session)
        (.delete caller id) (delete consulting caller id session) fun answer after =>
          incidentsOfReaction (next answer) after
  | .register hook next, session =>
      let after := { session with service := session.service.register hook }
      .completed { call := .register hook, session := after } :: incidentsOfReaction next after
  | .ask query next, session =>
      incidentsOfCall [] (.ask query) (ask query session) fun answer after =>
        incidentsOfReaction (next answer) after
  | .repository change next, session =>
      let service := { session.service with repository := change session.service.repository }
      incidentsOfReaction (next session.service.repository) { session with service }
  | .host change next, session =>
      incidentsOfReaction (next session.host) { session with host := change session.host }

end

/-- The incidents while a hook is consulted. -/
def incidents [Repository σ] :
    (nesting : Nat) → Hook σ ω → Event → Session σ ω → List (Incident σ ω)
  | 0, _, _, _ => []
  | nesting + 1, hook, event, session =>
      incidentsOfReaction (consult nesting) (incidents nesting) (hook event) session

/-! ## What holds of every completion -/

variable {Sound : Completion σ ω → Prop} {result : Option (α × Session σ ω)}
  {later : α → Session σ ω → List (Incident σ ω)}

theorem forall_mem_incidentsAfter
    (sound : ∀ answer after, result = some (answer, after) →
      ∀ completion ∈ completions (later answer after), Sound completion) :
    ∀ completion ∈ completions (incidentsAfter result later), Sound completion := by
  cases result with
  | none => exact List.forall_mem_nil _
  | some outcome => exact sound outcome.1 outcome.2 rfl

theorem forall_mem_incidentsOfCall {within : List (Incident σ ω)} {call : α → Call σ ω}
    (inner : ∀ completion ∈ completions within, Sound completion)
    (sound : ∀ answer after, result = some (answer, after) →
      Sound { call := call answer, session := after } ∧
        ∀ completion ∈ completions (later answer after), Sound completion) :
    ∀ completion ∈ completions (incidentsOfCall within call result later), Sound completion := by
  rw [incidentsOfCall, completions_append, List.forall_mem_append]
  refine ⟨inner, forall_mem_incidentsAfter fun answer after ran => ?_⟩
  rw [completions_completed_cons, List.forall_mem_cons]
  exact sound answer after ran

end Run

end Diplomacy
