import Diplomacy.Proofs.Service.Runs

/-!
What a dispatch does with the hooks. Its own calls are told by running it with hooks
that are put on record as they are consulted, whatever kind of hooks they are and
whatever they do to the state that they share. What becomes of the hooks of a service
is told by the incidents of a run: hooks are registered, and dispatches begin, at any
depth. Each dispatch finds the hooks that were registered before it began, and nothing
but a registration changes them.
-/

namespace Diplomacy

/-! ## The calls of one dispatch -/

namespace Registry

variable {η τ : Type}

/-- A hook as it was consulted on an event. There is no answer if it came to no decision. -/
structure Consultation (η : Type) where
  hook : η
  event : Event
  answer : Option Decision

/-- Computations on a state that may have no result, with the consultations that were
made on the way. -/
abbrev OnRecord (η τ : Type) := StateT τ (OptionT (StateM (List (Consultation η))))

/-- Consult a hook and put that on record. -/
def recording (consulting : η → Event → StateT τ Option Decision) (hook : η) (event : Event) :
    OnRecord η τ Decision := fun state past =>
  let outcome := consulting hook event state
  (outcome, past ++ [{ hook, event, answer := outcome.map (·.1) }])

/-- How a dispatch consults the hooks that are registered, and what it results in. -/
inductive Dispatched (event : Event) :
    (hooks : List η) → List (Consultation η) → Option Decision → Prop where
  | passed (hooks : List η) :
      Dispatched event hooks (hooks.map fun hook => ⟨hook, event, some .proceed⟩) (some .proceed)
  | vetoed (earlier : List η) (hook : η) (later : List η) (reason : String) :
      Dispatched event (earlier ++ hook :: later)
        ((earlier.map fun hook => ⟨hook, event, some .proceed⟩) ++
          [⟨hook, event, some (.cancel reason)⟩])
        (some (.cancel reason))
  /-- A hook comes to no decision, and so does the dispatch. -/
  | undecided (earlier : List η) (hook : η) (later : List η) :
      Dispatched event (earlier ++ hook :: later)
        ((earlier.map fun hook => ⟨hook, event, some .proceed⟩) ++ [⟨hook, event, none⟩]) none

variable {event : Event} {hook : η} {hooks : List η} {calls : List (Consultation η)}
  {result : Option Decision}

theorem Dispatched.cons (hook : η) (rest : Dispatched event hooks calls result) :
    Dispatched event (hook :: hooks) (⟨hook, event, some .proceed⟩ :: calls) result := by
  cases rest with
  | passed hooks => exact .passed (hook :: hooks)
  | vetoed earlier vetoing later reason => exact .vetoed (hook :: earlier) vetoing later reason
  | undecided earlier stuck later => exact .undecided (hook :: earlier) stuck later

variable (consulting : η → Event → StateT τ Option Decision)

theorem consultUntilVeto_recording_cons (event : Event) (hook : η) (hooks : List η) (state : τ)
    (past : List (Consultation η)) :
    consultUntilVeto (recording consulting) event (hook :: hooks) state past =
      match consulting hook event state with
      | none => (none, past ++ [⟨hook, event, none⟩])
      | some (.cancel reason, after) =>
          (some (.cancel reason, after), past ++ [⟨hook, event, some (.cancel reason)⟩])
      | some (.proceed, after) =>
          consultUntilVeto (recording consulting) event hooks after
            (past ++ [⟨hook, event, some .proceed⟩]) := by
  simp only [consultUntilVeto, recording, bind, StateT.bind, OptionT.bind, OptionT.mk]
  cases consulting hook event state with
  | none => rfl
  | some outcome =>
      rcases outcome with ⟨_ | reason, after⟩
      · rfl
      · rfl

theorem consultUntilVeto_cons (event : Event) (hook : η) (hooks : List η) (state : τ) :
    consultUntilVeto consulting event (hook :: hooks) state =
      match consulting hook event state with
      | none => none
      | some (.cancel reason, after) => some (.cancel reason, after)
      | some (.proceed, after) => consultUntilVeto consulting event hooks after := by
  simp only [consultUntilVeto, bind, StateT.bind]
  cases consulting hook event state with
  | none => rfl
  | some outcome =>
      rcases outcome with ⟨_ | reason, after⟩
      · rfl
      · rfl

/-- Recording the consultations changes nothing about a dispatch, and shows the hooks
up to the first veto, each consulted once and in order. -/
theorem exists_dispatched (event : Event) (hooks : List η) (state : τ)
    (past : List (Consultation η)) :
    ∃ calls,
      consultUntilVeto (recording consulting) event hooks state past =
        (consultUntilVeto consulting event hooks state, past ++ calls) ∧
      Dispatched event hooks calls
        ((consultUntilVeto consulting event hooks state).map (·.1)) := by
  induction hooks generalizing state past with
  | nil => exact ⟨[], by rw [List.append_nil]; rfl, .passed []⟩
  | cons hook hooks induction =>
      rw [consultUntilVeto_recording_cons, consultUntilVeto_cons]
      cases consulting hook event state with
      | none => exact ⟨_, rfl, .undecided [] hook hooks⟩
      | some outcome =>
          rcases outcome with ⟨_ | reason, after⟩
          · rcases induction after (past ++ [⟨hook, event, some .proceed⟩]) with
              ⟨calls, recorded, dispatched⟩
            rw [List.append_assoc] at recorded
            exact ⟨_, recorded, dispatched.cons hook⟩
          · exact ⟨_, rfl, .vetoed [] hook hooks reason⟩

end Registry

namespace Run

variable {σ ω α β : Type}

/-! ## What becomes of the hooks -/

/-- Incidents lead from some registered hooks to others: a call that registers a hook adds
it at the end, and a dispatch finds the hooks that are registered by then. -/
inductive Leads : (hooks : List (Hook σ ω)) → List (Incident σ ω) →
    (last : List (Hook σ ω)) → Prop where
  | nil (hooks : List (Hook σ ω)) : Leads hooks [] hooks
  | completed {hooks last : List (Hook σ ω)} {incidents : List (Incident σ ω)}
      (completion : Completion σ ω)
      (rest : Leads (hooks ++ completion.call.registered?.toList) incidents last) :
      Leads hooks (.completed completion :: incidents) last
  | dispatched {last : List (Hook σ ω)} {incidents : List (Incident σ ω)} (event : Event)
      (begun : Session σ ω) (rest : Leads begun.service.hooks.hooks incidents last) :
      Leads begun.service.hooks.hooks (.dispatched event begun :: incidents) last

variable {hooks between last : List (Hook σ ω)} {first rest : List (Incident σ ω)}

theorem Leads.trans (begins : Leads hooks first between) (continues : Leads between rest last) :
    Leads hooks (first ++ rest) last := by
  induction begins with
  | nil => exact continues
  | completed completion _ induction => exact .completed completion (induction continues)
  | dispatched event begun _ induction => exact .dispatched event begun (induction continues)

theorem Leads.last_eq (leads : Leads hooks first last) :
    last = hooks ++ registrations first := by
  induction leads with
  | nil hooks => exact (List.append_nil hooks).symm
  | completed completion _ induction =>
      rw [induction, List.append_assoc, registrations_completed_cons]
  | dispatched event begun _ induction => exact induction

theorem Leads.begun_eq (leads : Leads hooks first last) {earlier later : List (Incident σ ω)}
    {event : Event} {begun : Session σ ω}
    (split : first = earlier ++ .dispatched event begun :: later) :
    begun.service.hooks.hooks = hooks ++ registrations earlier := by
  induction leads generalizing earlier with
  | nil hooks => simp at split
  | completed completion _ induction =>
      cases earlier with
      | nil => cases split
      | cons head earlier =>
          rcases List.cons.inj split with ⟨rfl, tail⟩
          rw [induction tail, List.append_assoc, registrations_completed_cons]
  | dispatched event begun _ induction =>
      cases earlier with
      | nil =>
          cases split
          exact (List.append_nil _).symm
      | cons head earlier =>
          rcases List.cons.inj split with ⟨rfl, tail⟩
          rw [registrations_dispatched_cons]
          exact induction tail

/-- Incidents lead from the hooks of a session to those of the session that a run leaves. -/
def Tracks (session : Session σ ω) (incidents : List (Incident σ ω))
    (result : Option (α × Session σ ω)) : Prop :=
  ∃ last, Leads session.service.hooks.hooks incidents last ∧
    ∀ answer after, result = some (answer, after) → after.service.hooks.hooks = last

variable {session : Session σ ω} {incidents : List (Incident σ ω)}
  {result : Option (α × Session σ ω)}

theorem tracks_nil
    (kept : ∀ answer after, result = some (answer, after) →
      after.service.hooks.hooks = session.service.hooks.hooks) : Tracks session [] result :=
  ⟨_, .nil _, kept⟩

theorem Tracks.bind {step : Run σ ω α} {next : α → Run σ ω β}
    {later : α → Session σ ω → List (Incident σ ω)}
    (begins : Tracks session incidents (step session))
    (continues : ∀ answer between, Tracks between (later answer between) (next answer between)) :
    Tracks session (incidents ++ incidentsAfter (step session) later)
      ((step >>= next) session) := by
  rcases begins with ⟨between, leads, ends⟩
  cases ran : step session with
  | none =>
      refine ⟨between, leads.trans (.nil between), ?_⟩
      rw [bind_eq_none ran]
      rintro _ _ ⟨⟩
  | some outcome =>
      rcases outcome with ⟨answer, middle⟩
      rcases continues answer middle with ⟨last, follows, finishes⟩
      rw [ends answer middle ran] at follows
      rw [bind_apply ran]
      exact ⟨last, leads.trans follows, finishes⟩

/-- A call that registers no hook may stand for itself among the incidents. -/
theorem Tracks.bind_call {step : Run σ ω α} {next : α → Run σ ω β} {call : α → Call σ ω}
    {later : α → Session σ ω → List (Incident σ ω)}
    (begins : Tracks session incidents (step session))
    (adds : ∀ answer, (call answer).registered? = none)
    (continues : ∀ answer between, Tracks between (later answer between) (next answer between)) :
    Tracks session (incidentsOfCall incidents call (step session) later)
      ((step >>= next) session) := by
  refine begins.bind fun answer between => ?_
  rcases continues answer between with ⟨last, leads, ends⟩
  refine ⟨last, .completed _ ?_, ends⟩
  rw [adds, Option.toList_none, List.append_nil]
  exact leads

theorem Tracks.bind_nil {step : Run σ ω α} {next : α → Run σ ω β}
    (begins : Tracks session incidents (step session))
    (kept : ∀ answer between final after, next answer between = some (final, after) →
      after.service.hooks.hooks = between.service.hooks.hooks) :
    Tracks session incidents ((step >>= next) session) := by
  have tracks := begins.bind fun answer between => tracks_nil (kept answer between)
  have nothing : (incidentsAfter (step session) fun _ _ => []) = ([] : List (Incident σ ω)) := by
    cases step session <;> rfl
  rwa [nothing, List.append_nil] at tracks

section

variable {consulting : Hook σ ω → Event → Run σ ω Decision}
  {arising : Hook σ ω → Event → Session σ ω → List (Incident σ ω)}
  (tracks : ∀ hook event session,
    Tracks session (arising hook event session) (consulting hook event session))

include tracks

theorem tracks_consultUntilVeto (event : Event) (hooks : List (Hook σ ω))
    (session : Session σ ω) :
    Tracks session (incidentsOfHooks consulting arising event hooks session)
      (Registry.consultUntilVeto consulting event hooks session) := by
  induction hooks generalizing session with
  | nil =>
      refine tracks_nil fun decision after ran => ?_
      cases ran
      rfl
  | cons hook hooks induction =>
      apply (tracks hook event session).bind
      intro decision between
      cases decision with
      | proceed => exact induction between
      | cancel reason =>
          refine tracks_nil fun decision after ran => ?_
          cases ran
          rfl

theorem tracks_dispatch (event : Event) (session : Session σ ω) :
    Tracks session (incidentsOfDispatch consulting arising event session)
      (session.service.hooks.dispatch consulting event session) := by
  rcases tracks_consultUntilVeto tracks event session.service.hooks.hooks session with
    ⟨last, leads, ends⟩
  exact ⟨last, .dispatched event session leads, ends⟩

theorem tracks_announce (event : Event) (session : Session σ ω) :
    Tracks session (incidentsOfDispatch consulting arising event session)
      (announce consulting event session) := by
  rw [announce, get_bind_apply]
  apply (tracks_dispatch tracks event session).bind_nil
  intro decision between announced after ran
  cases decision with
  | proceed =>
      cases ran
      rfl
  | cancel reason =>
      cases ran
      rfl

variable [Repository σ]

theorem tracks_save (caller : ThreadId) (record : Relationship) (session : Session σ ω) :
    Tracks session (incidentsOfSave consulting arising caller record session)
      (save consulting caller record session) := by
  have kept : ∀ (announced : Except Failure Unit) (between : Session σ ω) answer after,
      commitAnnounced record announced between = some (answer, after) →
        after.service.hooks.hooks = between.service.hooks.hooks := by
    intro announced between answer after ran
    cases announced with
    | error failure =>
        cases ran
        rfl
    | ok =>
        cases ran
        exact congrArg Registry.hooks (Service.hooks_commit between.service record)
  rw [save_apply, incidentsOfSave]
  split
  · exact (tracks_announce tracks _ session).bind_nil kept
  · exact tracks_nil (kept _ session)

theorem tracks_delete (caller : ThreadId) (id : RelationshipId) (session : Session σ ω) :
    Tracks session (incidentsOfDelete consulting arising caller id session)
      (delete consulting caller id session) := by
  rw [delete_apply]
  apply (tracks_announce tracks _ session).bind_nil
  intro announced between answer after ran
  cases announced with
  | error failure =>
      cases ran
      rfl
  | ok =>
      cases ran
      exact congrArg Registry.hooks (Service.hooks_discard between.service id)

theorem tracks_react (reaction : Reaction σ ω) (session : Session σ ω) :
    Tracks session (incidentsOfReaction consulting arising reaction session)
      (react consulting reaction session) := by
  induction reaction generalizing session with
  | decide decision =>
      refine tracks_nil fun answer after ran => ?_
      cases ran
      rfl
  | save caller record next induction =>
      exact (tracks_save tracks caller record session).bind_call (fun _ => rfl) induction
  | delete caller id next induction =>
      exact (tracks_delete tracks caller id session).bind_call (fun _ => rfl) induction
  | register hook next _ induction =>
      rcases induction { session with service := session.service.register hook } with
        ⟨last, leads, ends⟩
      exact ⟨last, .completed _ leads, ends⟩
  | ask query next induction =>
      have asked : Tracks session [] (ask query session) := by
        refine tracks_nil fun answer after ran => ?_
        cases ran
        rfl
      exact asked.bind_call (fun _ => rfl) induction
  | repository change next induction =>
      rcases induction session.service.repository
          { session with service :=
            { session.service with repository := change session.service.repository } } with
        ⟨last, leads, ends⟩
      exact ⟨last, leads, ends⟩
  | host change next induction =>
      rcases induction session.host { session with host := change session.host } with
        ⟨last, leads, ends⟩
      exact ⟨last, leads, ends⟩

end

variable [Repository σ]

theorem tracks_consult (nesting : Nat) (hook : Hook σ ω) (event : Event) (session : Session σ ω) :
    Tracks session (Run.incidents nesting hook event session)
      (consult nesting hook event session) := by
  induction nesting generalizing hook event session with
  | zero =>
      refine tracks_nil fun answer after ran => ?_
      cases ran
  | succ nesting induction => exact tracks_react induction (hook event) session

/-- What some incidents of a run tell of the hooks. Each dispatch begins with the hooks
that the run began with and those registered since, in order, and the run leaves them
all behind. -/
structure Recount (session : Session σ ω) (incidents : List (Incident σ ω))
    (result : Option (α × Session σ ω)) : Prop where
  begun : ∀ earlier event begun later, incidents = earlier ++ .dispatched event begun :: later →
    begun.service.hooks.hooks = session.service.hooks.hooks ++ registrations earlier
  left : ∀ answer after, result = some (answer, after) →
    after.service.hooks.hooks = session.service.hooks.hooks ++ registrations incidents

omit [Repository σ] in
theorem Tracks.recount (tracks : Tracks session incidents result) :
    Recount session incidents result := by
  rcases tracks with ⟨last, leads, ends⟩
  refine ⟨fun _ _ _ _ split => leads.begun_eq split, fun answer after ran => ?_⟩
  rw [ends answer after ran, leads.last_eq]

end Run

/-- A dispatch consults the hooks that it began with, up to the first veto. In a service
hooks may register others and mutate records, which starts dispatches of its own; and
nothing becomes of the hooks but that others are registered after them. -/
theorem hooks_are_consulted_as_registered :
    (∀ (η τ : Type) (consulting : η → Event → StateT τ Option Decision) (registry : Registry η)
        (event : Event) (state : τ), ∃ calls,
      registry.dispatch (Registry.recording consulting) event state [] =
        (registry.dispatch consulting event state, calls) ∧
      Registry.Dispatched event registry.hooks calls
        ((registry.dispatch consulting event state).map (·.1))) ∧
      ∀ (σ ω : Type) [Repository σ] (nesting : Nat) (session : Session σ ω),
        (∀ event, Run.Recount session
          (Run.incidentsOfDispatch (Run.consult nesting) (Run.incidents nesting) event session)
          (session.service.hooks.dispatch (Run.consult nesting) event session)) ∧
        ∀ program : Reaction σ ω, Run.Recount session
          (Run.incidentsOfReaction (Run.consult nesting) (Run.incidents nesting) program session)
          (Run.react (Run.consult nesting) program session) := by
  refine ⟨?own, fun σ ω _ nesting session => ⟨?dispatch, ?program⟩⟩
  case own =>
    intro η τ consulting registry event state
    exact Registry.exists_dispatched consulting event registry.hooks state []
  case dispatch =>
    intro event
    exact (Run.tracks_dispatch (Run.tracks_consult nesting) event session).recount
  case program =>
    intro program
    exact (Run.tracks_react (Run.tracks_consult nesting) program session).recount

end Diplomacy
