import Diplomacy.Proofs.Service.Trace

/-!
What holds all along a run. A property of services that every single step keeps
holds after each completed call of a run, nested calls included, as long as the
reactions involved are confined to harmless accesses to the repository. Some saves
and deletions need not keep it, if the property itself has a hook registered that
vetoes them: hooks are never taken out again, and none of them is passed over.
-/

namespace Diplomacy

variable {σ ω : Type}

/-! ## Confined reactions -/

/-- A reaction whose changes to the repository behind the service's back are all
harmless, and which saves and deletes only if `writes` holds. The hooks that it
registers are confined likewise, and write only if `hooksWrite` holds. -/
inductive Reaction.Confined (Harmless : (σ → σ) → Prop) (hooksWrite : Prop) :
    (writes : Prop) → Reaction σ ω → Prop where
  | decide {writes : Prop} (decision : Decision) : Confined Harmless hooksWrite writes
      (.decide decision)
  | save {writes : Prop} {caller : ThreadId} {record : Relationship}
      {next : Except Failure Relationship → Reaction σ ω} (may : writes)
      (rest : ∀ answer, Confined Harmless hooksWrite writes (next answer)) :
      Confined Harmless hooksWrite writes (.save caller record next)
  | delete {writes : Prop} {caller : ThreadId} {id : RelationshipId}
      {next : Except Failure Unit → Reaction σ ω} (may : writes)
      (rest : ∀ answer, Confined Harmless hooksWrite writes (next answer)) :
      Confined Harmless hooksWrite writes (.delete caller id next)
  | register {writes : Prop} {hook : Hook σ ω} {next : Reaction σ ω}
      (inner : ∀ event, Confined Harmless hooksWrite hooksWrite (hook event))
      (rest : Confined Harmless hooksWrite writes next) :
      Confined Harmless hooksWrite writes (.register hook next)
  | ask {writes : Prop} {query : Query} {next : query.Answer → Reaction σ ω}
      (rest : ∀ answer, Confined Harmless hooksWrite writes (next answer)) :
      Confined Harmless hooksWrite writes (.ask query next)
  | repository {writes : Prop} {change : σ → σ} {next : σ → Reaction σ ω}
      (harmless : Harmless change)
      (rest : ∀ before, Confined Harmless hooksWrite writes (next before)) :
      Confined Harmless hooksWrite writes (.repository change next)
  | host {writes : Prop} {change : ω → ω} {next : ω → Reaction σ ω}
      (rest : ∀ before, Confined Harmless hooksWrite writes (next before)) :
      Confined Harmless hooksWrite writes (.host change next)

/-- A hook that is confined whatever event it is given. -/
def Hook.Confined (Harmless : (σ → σ) → Prop) (hooksWrite : Prop) (hook : Hook σ ω) : Prop :=
  ∀ event, (hook event).Confined Harmless hooksWrite hooksWrite

/-- A hook that vetoes an event in every session in which it comes to a decision. -/
def Hook.Vetoes [Repository σ] (hook : Hook σ ω) (event : Event) : Prop :=
  ∀ nesting session decision after,
    Run.consult nesting hook event session = some (decision, after) →
      ∃ reason, decision = .cancel reason

/-! ## Steps -/

namespace Service

/-- Every registered hook is confined. -/
def HooksConfined (Harmless : (σ → σ) → Prop) (hooksWrite : Prop) (service : Service σ ω) :
    Prop :=
  ∀ hook ∈ service.hooks.hooks, hook.Confined Harmless hooksWrite

/-- A property of services that every step of a confined run keeps, and that
leaves none but confined hooks to be consulted. Saves of barred identifiers and
deletions of kept ones are excepted: the property has them vetoed. -/
structure Guarded [Repository σ] (Barred Kept : RelationshipId → Prop)
    (Harmless : (σ → σ) → Prop) (hooksWrite : Prop) (Inv : Service σ ω → Prop) : Prop where
  hooks : ∀ service, Inv service → service.HooksConfined Harmless hooksWrite
  note : ∀ service notices, Inv service → Inv (service.note notices)
  commit : ∀ service record, ¬ Barred record.id → Inv service → Inv (service.commit record).2
  discard : ∀ service id, ¬ Kept id → Inv service → Inv (service.discard id).2
  register : ∀ service hook, hook.Confined Harmless hooksWrite → Inv service →
    Inv (service.register hook)
  repository : ∀ service change, Harmless change → Inv service →
    Inv { service with repository := change service.repository }
  barred : ∀ service record isAsync, Barred record.id → Inv service →
    service.index.get? record.id = none ∧
      ∃ hook ∈ service.hooks.hooks, hook.Vetoes (.create record isAsync)
  kept : ∀ service id isAsync, Kept id → Inv service →
    ∃ hook ∈ service.hooks.hooks, hook.Vetoes (.delete id isAsync)

/-- A property of services that every step of a confined run keeps without exception. -/
abbrev Upheld [Repository σ] (Harmless : (σ → σ) → Prop) (hooksWrite : Prop)
    (Inv : Service σ ω → Prop) : Prop :=
  Guarded (fun _ => False) (fun _ => False) Harmless hooksWrite Inv

variable [Repository σ] {Harmless : (σ → σ) → Prop} {hooksWrite : Prop}

theorem hooks_commit (service : Service σ ω) (record : Relationship) :
    (service.commit record).2.hooks = service.hooks := by
  unfold commit
  cases h : Repository.upsert service.repository record with
  | mk answer repository => cases answer <;> rfl

theorem hooks_discard (service : Service σ ω) (id : RelationshipId) :
    (service.discard id).2.hooks = service.hooks := by
  unfold discard
  cases h : Repository.delete service.repository id with
  | mk answer repository => cases answer <;> rfl

/-- A property of the repository and the index alone is upheld, together with
the confinement of the hooks, if the three steps that reach them keep it. -/
theorem Upheld.of_contents {Inv : σ → Index → Prop}
    (commit : ∀ (service : Service σ ω) record, Inv service.repository service.index →
      Inv (service.commit record).2.repository (service.commit record).2.index)
    (discard : ∀ (service : Service σ ω) id, Inv service.repository service.index →
      Inv (service.discard id).2.repository (service.discard id).2.index)
    (harmless : ∀ repository index change, Harmless change → Inv repository index →
      Inv (change repository) index) :
    Upheld Harmless hooksWrite fun service : Service σ ω =>
      Inv service.repository service.index ∧ service.HooksConfined Harmless hooksWrite where
  hooks _ holds := holds.2
  note _ _ holds := holds
  commit service record _ holds := by
    refine ⟨commit service record holds.1, ?_⟩
    rw [HooksConfined, hooks_commit]
    exact holds.2
  discard service id _ holds := by
    refine ⟨discard service id holds.1, ?_⟩
    rw [HooksConfined, hooks_discard]
    exact holds.2
  register service hook confined holds := by
    refine ⟨holds.1, ?_⟩
    intro other member
    rcases List.mem_append.mp member with member | member
    · exact holds.2 other member
    · exact List.mem_singleton.mp member ▸ confined
  repository service change allowed holds :=
    ⟨harmless _ _ change allowed holds.1, holds.2⟩
  barred _ _ _ barred := absurd barred id
  kept _ _ _ kept := absurd kept id

end Service

namespace Run

variable {α β : Type} {Inv : Service σ ω → Prop}

theorem bind_eq_some_iff {first : Run σ ω α} {next : α → Run σ ω β} {session after : Session σ ω}
    {answer : β} :
    (first >>= next) session = some (answer, after) ↔
      ∃ middle between, first session = some (middle, between) ∧
        next middle between = some (answer, after) := by
  cases h : first session with
  | none => simp [bind, StateT.bind, h]
  | some result =>
      rcases result with ⟨middle, between⟩
      simp only [bind, StateT.bind, h, Option.bind_some]
      constructor
      · intro ran
        exact ⟨middle, between, rfl, ran⟩
      · intro ⟨_, _, equal, ran⟩
        cases equal
        exact ran

theorem bind_apply {first : Run σ ω α} {next : α → Run σ ω β} {session between : Session σ ω}
    {answer : α} (ran : first session = some (answer, between)) :
    (first >>= next) session = next answer between := by
  simp only [bind, StateT.bind, ran, Option.bind_some]

theorem bind_eq_none {first : Run σ ω α} {next : α → Run σ ω β} {session : Session σ ω}
    (stuck : first session = none) : (first >>= next) session = none := by
  simp only [bind, StateT.bind, stuck, Option.bind_none]

/-- A run may look at the session that it starts in. -/
theorem get_bind_apply (next : Session σ ω → Run σ ω α) (session : Session σ ω) :
    (get >>= next) session = next session session := rfl

/-- A run that keeps a property of services, if it has a result. -/
def Keeps (Inv : Service σ ω → Prop) (run : Run σ ω α) : Prop :=
  ∀ session answer after, Inv session.service → run session = some (answer, after) →
    Inv after.service

theorem Keeps.pure (answer : α) : Keeps Inv (Pure.pure answer : Run σ ω α) := by
  intro session other after holds equal
  cases equal
  exact holds

theorem Keeps.bind {first : Run σ ω α} {next : α → Run σ ω β} (keeps : Keeps Inv first)
    (rest : ∀ answer, Keeps Inv (next answer)) : Keeps Inv (first >>= next) := by
  intro session answer after holds ran
  rcases bind_eq_some_iff.mp ran with ⟨middle, between, ranFirst, ranNext⟩
  exact rest middle between answer after (keeps session middle between holds ranFirst) ranNext

theorem Keeps.onService {step : Service σ ω → α × Service σ ω}
    (keeps : ∀ service, Inv service → Inv (step service).2) : Keeps Inv (onService step) := by
  intro session answer after holds ran
  cases ran
  exact keeps session.service holds

theorem Keeps.get_bind {next : Session σ ω → Run σ ω α}
    (rest : ∀ session, Inv session.service → Keeps Inv (next session)) :
    Keeps Inv (get >>= next) := by
  intro session answer after holds ran
  exact rest session holds session answer after holds ran

/-! ## Saving and deleting -/

variable [Repository σ] {consulting : Hook σ ω → Event → Run σ ω Decision}

/-- What follows an announcement: the commit, unless there was a veto. -/
def commitAnnounced (record : Relationship) :
    Except Failure Unit → Run σ ω (Except Failure Relationship)
  | .error failure => pure (.error failure)
  | .ok () => onService fun service => service.commit record

theorem save_apply (session : Session σ ω) (caller : ThreadId) (record : Relationship) :
    save consulting caller record session =
      if (session.service.index.get? record.id).isNone then
        (announce consulting (.create record (session.service.isAsync caller)) >>=
          commitAnnounced record) session
      else commitAnnounced record (.ok ()) session := by
  rw [save, get_bind_apply]
  dsimp only
  split <;> rfl

/-- What follows the announcement of a deletion. -/
def discardAnnounced (id : RelationshipId) :
    Except Failure Unit → Run σ ω (Except Failure Unit)
  | .error failure => pure (.error failure)
  | .ok () => onService fun service => service.discard id

theorem delete_apply (session : Session σ ω) (caller : ThreadId) (id : RelationshipId) :
    delete consulting caller id session =
      (announce consulting (.delete id (session.service.isAsync caller)) >>=
        discardAnnounced id) session := rfl

/-! ## Vetoes -/

variable {nesting : Nat}

/-- A hook that vetoes an event is not passed over, whichever others are consulted. -/
theorem cancel_of_consultUntilVeto {hook : Hook σ ω} {event : Event} (vetoes : hook.Vetoes event)
    {hooks : List (Hook σ ω)} (member : hook ∈ hooks) {session after : Session σ ω}
    {decision : Decision}
    (ran : Registry.consultUntilVeto (consult nesting) event hooks session =
      some (decision, after)) :
    ∃ reason, decision = .cancel reason := by
  induction hooks generalizing session with
  | nil => cases member
  | cons other hooks induction =>
      rcases bind_eq_some_iff.mp ran with ⟨first, between, consulted, rest⟩
      cases first with
      | cancel reason =>
          cases rest
          exact ⟨reason, rfl⟩
      | proceed =>
          rcases List.mem_cons.mp member with rfl | member
          · rcases vetoes nesting session .proceed between consulted with ⟨reason, proceeds⟩
            cases proceeds
          · exact induction member rest

theorem error_of_announce {event : Event} {session after : Session σ ω}
    (vetoed : ∃ hook ∈ session.service.hooks.hooks, hook.Vetoes event)
    {announced : Except Failure Unit}
    (ran : announce (consult nesting) event session = some (announced, after)) :
    ∃ reason, announced = .error (.cancelled reason) := by
  rcases vetoed with ⟨hook, member, vetoes⟩
  rw [announce, get_bind_apply] at ran
  rcases bind_eq_some_iff.mp ran with ⟨decision, asked, dispatched, rest⟩
  rcases cancel_of_consultUntilVeto vetoes member dispatched with ⟨reason, rfl⟩
  cases rest
  exact ⟨reason, rfl⟩

/-! ## Runs -/

section

variable {Barred Kept : RelationshipId → Prop} {Harmless : (σ → σ) → Prop}
  {hooksWrite writes : Prop} (guarded : Service.Guarded Barred Kept Harmless hooksWrite Inv)

include guarded

theorem save_of_barred {caller : ThreadId} {record : Relationship} (barred : Barred record.id)
    {session after : Session σ ω} (holds : Inv session.service)
    {answer : Except Failure Relationship}
    (ran : save (consult nesting) caller record session = some (answer, after)) :
    ∃ reason, answer = .error (.cancelled reason) ∧
      announce (consult nesting) (.create record (session.service.isAsync caller)) session =
        some (.error (.cancelled reason), after) := by
  rcases guarded.barred session.service record (session.service.isAsync caller) barred holds with
    ⟨absent, vetoed⟩
  rw [save_apply, absent] at ran
  rcases bind_eq_some_iff.mp ran with ⟨announced, asked, consulted, rest⟩
  rcases error_of_announce vetoed consulted with ⟨reason, rfl⟩
  cases rest
  exact ⟨reason, rfl, consulted⟩

theorem delete_of_kept {caller : ThreadId} {id : RelationshipId} (kept : Kept id)
    {session after : Session σ ω} (holds : Inv session.service) {answer : Except Failure Unit}
    (ran : delete (consult nesting) caller id session = some (answer, after)) :
    ∃ reason, answer = .error (.cancelled reason) ∧
      announce (consult nesting) (.delete id (session.service.isAsync caller)) session =
        some (.error (.cancelled reason), after) := by
  have vetoed := guarded.kept session.service id (session.service.isAsync caller) kept holds
  rw [delete_apply] at ran
  rcases bind_eq_some_iff.mp ran with ⟨announced, asked, consulted, rest⟩
  rcases error_of_announce vetoed consulted with ⟨reason, rfl⟩
  cases rest
  exact ⟨reason, rfl, consulted⟩

theorem keeps_ask (query : Query) : Keeps Inv (ask query : Run σ ω query.Answer) :=
  Keeps.onService fun service => guarded.note service _

variable (consults : ∀ hook : Hook σ ω, hook.Confined Harmless hooksWrite → ∀ event,
  Keeps Inv (consult nesting hook event))

include consults

theorem keeps_announce (event : Event) : Keeps Inv (announce (consult nesting) event) := by
  -- The hooks consulted are those registered at the start, whatever is registered meanwhile.
  have polls : ∀ hooks : List (Hook σ ω), (∀ hook ∈ hooks, hook.Confined Harmless hooksWrite) →
      Keeps Inv (Registry.consultUntilVeto (consult nesting) event hooks) := by
    intro hooks confined
    induction hooks with
    | nil => exact Keeps.pure _
    | cons hook hooks induction =>
        apply Keeps.bind (consults hook (confined hook List.mem_cons_self) event)
        intro decision
        cases decision with
        | cancel reason => exact Keeps.pure _
        | proceed =>
            exact induction fun other member => confined other (List.mem_cons_of_mem _ member)
  apply Keeps.get_bind
  intro session holds
  apply Keeps.bind (polls session.service.hooks.hooks (guarded.hooks session.service holds))
  intro decision
  cases decision with
  | proceed => exact Keeps.pure _
  | cancel reason => exact Keeps.onService fun service => guarded.note service _

theorem keeps_save (caller : ThreadId) (record : Relationship) :
    Keeps Inv (save (consult nesting) caller record) := by
  intro session answer after holds ran
  have announces := keeps_announce guarded consults
    (.create record (session.service.isAsync caller))
  by_cases barred : Barred record.id
  · rcases save_of_barred guarded barred holds ran with ⟨_, _, announced⟩
    exact announces session _ after holds announced
  · have commits : ∀ announced, Keeps Inv (commitAnnounced record announced) := by
      intro announced
      cases announced with
      | error failure => exact Keeps.pure _
      | ok => exact Keeps.onService fun service => guarded.commit service record barred
    rw [save_apply] at ran
    split at ran
    · exact Keeps.bind announces commits session answer after holds ran
    · exact commits _ session answer after holds ran

theorem keeps_delete (caller : ThreadId) (id : RelationshipId) :
    Keeps Inv (delete (consult nesting) caller id) := by
  intro session answer after holds ran
  have announces := keeps_announce guarded consults (.delete id (session.service.isAsync caller))
  by_cases kept : Kept id
  · rcases delete_of_kept guarded kept holds ran with ⟨_, _, announced⟩
    exact announces session _ after holds announced
  · rw [delete_apply] at ran
    refine Keeps.bind announces (fun announced => ?_) session answer after holds ran
    cases announced with
    | error failure => exact Keeps.pure _
    | ok => exact Keeps.onService fun service => guarded.discard service id kept

theorem keeps_react {reaction : Reaction σ ω}
    (confined : reaction.Confined Harmless hooksWrite writes) :
    Keeps Inv (react (consult nesting) reaction) := by
  induction confined with
  | decide decision => exact Keeps.pure _
  | save _ _ induction => exact Keeps.bind (keeps_save guarded consults _ _) induction
  | delete _ _ induction => exact Keeps.bind (keeps_delete guarded consults _ _) induction
  | register inner _ _ induction =>
      apply Keeps.bind _ fun _ => induction
      exact Keeps.onService fun service => guarded.register service _ inner
  | ask _ induction => exact Keeps.bind (keeps_ask guarded _) induction
  | repository harmless _ induction =>
      apply Keeps.bind _ induction
      exact Keeps.onService fun service => guarded.repository service _ harmless
  | @host _ change next _ induction =>
      intro session answer after holds ran
      exact induction session.host { session with host := change session.host } answer after
        holds ran

/-! ## Completed calls -/

variable {Sound : Completion σ ω → Prop}
  (sound : ∀ session call after, Inv session.service → Call.Performed nesting session call after →
    Inv after.service → Sound { call, session := after })
  (completes : ∀ hook : Hook σ ω, hook.Confined Harmless hooksWrite → ∀ event session,
    Inv session.service → ∀ completion ∈ completions (incidents nesting hook event session),
      Sound completion)

include completes

theorem forall_mem_incidentsOfDispatch (event : Event) {session : Session σ ω}
    (holds : Inv session.service) :
    ∀ completion ∈ completions
      (incidentsOfDispatch (consult nesting) (incidents nesting) event session),
      Sound completion := by
  have polls : ∀ (hooks : List (Hook σ ω)) (session : Session σ ω), Inv session.service →
      (∀ hook ∈ hooks, hook.Confined Harmless hooksWrite) →
      ∀ completion ∈ completions
        (incidentsOfHooks (consult nesting) (incidents nesting) event hooks session),
        Sound completion := by
    intro hooks
    induction hooks with
    | nil =>
        intro session _ _
        exact List.forall_mem_nil _
    | cons hook hooks induction =>
        intro session holds confined
        have first := confined hook List.mem_cons_self
        rw [incidentsOfHooks, completions_append, List.forall_mem_append]
        refine ⟨completes hook first event session holds, forall_mem_incidentsAfter ?_⟩
        intro decision after ran
        cases decision with
        | cancel reason => exact List.forall_mem_nil _
        | proceed =>
            exact induction after (consults hook first event session _ after holds ran)
              fun other later => confined other (List.mem_cons_of_mem _ later)
  exact polls session.service.hooks.hooks session holds (guarded.hooks session.service holds)

theorem forall_mem_incidentsOfSave (caller : ThreadId) (record : Relationship)
    {session : Session σ ω} (holds : Inv session.service) :
    ∀ completion ∈ completions
      (incidentsOfSave (consult nesting) (incidents nesting) caller record session),
      Sound completion := by
  unfold incidentsOfSave
  split
  · exact forall_mem_incidentsOfDispatch guarded consults completes _ holds
  · exact List.forall_mem_nil _

include sound

/-- What holds of every call that is made in a service with the property holds of
every completed call of a confined reaction. -/
theorem forall_mem_incidentsOfReaction {reaction : Reaction σ ω}
    (confined : reaction.Confined Harmless hooksWrite writes) :
    ∀ session : Session σ ω, Inv session.service →
      ∀ completion ∈ completions
        (incidentsOfReaction (consult nesting) (incidents nesting) reaction session),
        Sound completion := by
  induction confined with
  | decide decision =>
      intro session _
      exact List.forall_mem_nil _
  | @save _ caller record next _ _ induction =>
      intro session holds
      have within := forall_mem_incidentsOfSave guarded consults completes caller record holds
      refine forall_mem_incidentsOfCall within fun answer after ran => ?_
      have kept := keeps_save guarded consults caller record session answer after holds ran
      exact ⟨sound session _ after holds ran kept, induction answer after kept⟩
  | @delete _ caller id next _ _ induction =>
      intro session holds
      have within := forall_mem_incidentsOfDispatch guarded consults completes
        (.delete id (session.service.isAsync caller)) holds
      refine forall_mem_incidentsOfCall within fun answer after ran => ?_
      have kept := keeps_delete guarded consults caller id session answer after holds ran
      exact ⟨sound session _ after holds ran kept, induction answer after kept⟩
  | @register _ hook next inner _ _ induction =>
      intro session holds
      have kept := guarded.register session.service hook inner holds
      rw [incidentsOfReaction, completions_completed_cons, List.forall_mem_cons]
      exact ⟨sound session (.register hook) _ holds rfl kept, induction _ kept⟩
  | @ask _ query next _ induction =>
      intro session holds
      refine forall_mem_incidentsOfCall (List.forall_mem_nil _) fun answer after ran => ?_
      have kept := keeps_ask guarded query session answer after holds ran
      exact ⟨sound session _ after holds ran kept, induction answer after kept⟩
  | @repository _ change next harmless _ induction =>
      intro session holds
      exact induction _ _ (guarded.repository session.service change harmless holds)
  | host _ induction =>
      intro session holds
      exact induction _ _ holds

omit sound completes

/-- Every completed call of a confined reaction leaves a service with the property. -/
theorem holds_of_mem_incidentsOfReaction
    (completes : ∀ hook : Hook σ ω, hook.Confined Harmless hooksWrite → ∀ event session,
      Inv session.service → ∀ completion ∈ completions (incidents nesting hook event session),
        Inv completion.session.service)
    {reaction : Reaction σ ω} (confined : reaction.Confined Harmless hooksWrite writes) :
    ∀ session : Session σ ω, Inv session.service →
      ∀ completion ∈ completions
        (incidentsOfReaction (consult nesting) (incidents nesting) reaction session),
        Inv completion.session.service :=
  forall_mem_incidentsOfReaction guarded consults (fun _ _ _ _ _ kept => kept) completes confined

end

section

variable {Barred Kept : RelationshipId → Prop} {Harmless : (σ → σ) → Prop} {hooksWrite : Prop}
  (guarded : Service.Guarded Barred Kept Harmless hooksWrite Inv) (nesting : Nat)

include guarded

theorem keeps_consult {hook : Hook σ ω} (confined : hook.Confined Harmless hooksWrite)
    (event : Event) : Keeps Inv (consult nesting hook event) := by
  induction nesting generalizing hook event with
  | zero =>
      intro session answer after holds ran
      cases ran
  | succ nesting induction =>
      exact keeps_react guarded (fun _ confined event => induction confined event) (confined event)

/-- What holds of every call that is made in a service with the property holds of
every call completed while a confined hook is consulted, however deeply nested. -/
theorem forall_mem_incidents {Sound : Completion σ ω → Prop}
    (sound : ∀ nesting session call after, Inv session.service →
      Call.Performed nesting session call after → Inv after.service →
        Sound { call, session := after })
    {hook : Hook σ ω} (confined : hook.Confined Harmless hooksWrite) (event : Event)
    (session : Session σ ω) (holds : Inv session.service) :
    ∀ completion ∈ completions (incidents nesting hook event session), Sound completion := by
  induction nesting generalizing hook event session with
  | zero => exact List.forall_mem_nil _
  | succ nesting induction =>
      exact forall_mem_incidentsOfReaction guarded
        (fun _ confined event => keeps_consult guarded nesting confined event) (sound nesting)
        (fun _ confined event session holds => induction confined event session holds)
        (confined event) session holds

/-- Every call completed while a confined hook is consulted, however deeply
nested, leaves a service with the property. -/
theorem holds_of_mem_incidents {hook : Hook σ ω}
    (confined : hook.Confined Harmless hooksWrite) (event : Event) (session : Session σ ω)
    (holds : Inv session.service) :
    ∀ completion ∈ completions (incidents nesting hook event session),
      Inv completion.session.service :=
  forall_mem_incidents guarded nesting (fun _ _ _ _ _ _ kept => kept) confined event session
    holds

end

end Run

end Diplomacy
