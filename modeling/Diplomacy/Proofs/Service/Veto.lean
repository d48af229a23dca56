import Diplomacy.Proofs.Service.Outcome
import Diplomacy.Proofs.Service.Pipeline

/-!
Standing vetoes. A hook that vetoes all creations of some identifiers, none of
which is stored when no mutation is under way, keeps them out for good; and a
hook that vetoes their deletions keeps what is stored of them. Neither hooks
that come back to the service nor hooks that are registered later get around it:
updates are not announced, but there is nothing to update, since the index has
no identifier that the repository has not.
-/

namespace Diplomacy

variable {σ ω : Type}

namespace Service

variable {backend : Backend} {ρ : Type} [Repository ρ] {below : ρ → backend.State}

/-! ## What is stored -/

theorem repository_commit (service : Service ρ ω) (record : Relationship) :
    (service.commit record).2.repository = (Repository.upsert service.repository record).2 := by
  unfold commit
  cases Repository.upsert service.repository record with
  | mk answer repository => cases answer <;> rfl

theorem repository_discard (service : Service ρ ω) (id : RelationshipId) :
    (service.discard id).2.repository = (Repository.delete service.repository id).2 := by
  unfold discard
  cases Repository.delete service.repository id with
  | mk answer repository => cases answer <;> rfl

theorem stored_commit (relays : Repository.Relays below) (service : Service ρ ω)
    {record : Relationship} {id : RelationshipId} (differs : id ≠ record.id) :
    Backend.stored (below (service.commit record).2.repository) id =
      Backend.stored (below service.repository) id := by
  rw [repository_commit]
  rcases relays.upsert service.repository record with ⟨_, _, _, kept⟩ | ⟨_, direct⟩
  · rw [kept]
  · rw [direct, Backend.stored_upsert _ differs]

theorem stored_commit_ne_none (relays : Repository.Relays below) (service : Service ρ ω)
    (record : Relationship) {id : RelationshipId}
    (present : Backend.stored (below service.repository) id ≠ none) :
    Backend.stored (below (service.commit record).2.repository) id ≠ none := by
  rw [repository_commit]
  rcases relays.upsert service.repository record with ⟨_, _, _, kept⟩ | ⟨_, direct⟩
  · rw [kept]
    exact present
  · rw [direct]
    exact Backend.stored_upsert_ne_none record present

theorem stored_discard (relays : Repository.Relays below) (service : Service ρ ω)
    {id other : RelationshipId} (differs : other ≠ id) :
    Backend.stored (below (service.discard id).2.repository) other =
      Backend.stored (below service.repository) other := by
  rw [repository_discard]
  rcases relays.delete service.repository id with ⟨_, _, _, kept⟩ | ⟨_, direct⟩
  · rw [kept]
  · rw [direct, Backend.stored_delete _ differs]

/-- A deletion stores nothing. -/
theorem stored_discard_eq_none (relays : Repository.Relays below) (service : Service ρ ω)
    (id : RelationshipId) {other : RelationshipId}
    (absent : Backend.stored (below service.repository) other = none) :
    Backend.stored (below (service.discard id).2.repository) other = none := by
  by_cases same : other = id
  · subst same
    rw [repository_discard]
    rcases relays.delete service.repository other with ⟨_, _, _, kept⟩ | ⟨_, direct⟩
    · rw [kept]
      exact absent
    · rw [direct, Backend.delete_of_unstored absent]
      exact absent
  · rw [stored_discard relays service same]
    exact absent

omit [Repository ρ] in
/-- A service that mirrors its repository indexes just what is stored. -/
theorem get?_eq_none_iff {service : Service ρ ω}
    (mirrors : Mirrors below service.repository service.index) {id : RelationshipId} :
    service.index.get? id = none ↔ Backend.stored (below service.repository) id = none := by
  rw [Backend.stored_eq_of_listAll mirrors.listAll_eq, Option.map_eq_none_iff,
    Index.find?_toList]

/-! ## The invariant -/

/-- Nothing is stored of barred identifiers, and something of held ones. Hooks are
registered that veto creating the former and deleting kept ones. -/
structure Standing (below : ρ → backend.State) (Barred Kept Held : RelationshipId → Prop)
    (service : Service ρ ω) : Prop where
  mirrors : Mirrors below service.repository service.index
  confined : service.HooksConfined (Outside below) True
  absent : ∀ id, Barred id → Backend.stored (below service.repository) id = none
  present : ∀ id, Held id → Backend.stored (below service.repository) id ≠ none
  barred : ∀ record isAsync, Barred record.id →
    ∃ hook ∈ service.hooks.hooks, hook.Vetoes (.create record isAsync)
  kept : ∀ id isAsync, Kept id → ∃ hook ∈ service.hooks.hooks, hook.Vetoes (.delete id isAsync)

variable {Barred Kept Held : RelationshipId → Prop}

/-- Standing vetoes are kept by what leaves the hooks as they are and writes nothing against them. -/
theorem Standing.of_hooks {service after : Service ρ ω}
    (standing : service.Standing below Barred Kept Held) (same : after.hooks = service.hooks)
    (mirrors : Mirrors below after.repository after.index)
    (absent : ∀ id, Barred id → Backend.stored (below after.repository) id = none)
    (present : ∀ id, Held id → Backend.stored (below after.repository) id ≠ none) :
    after.Standing below Barred Kept Held where
  mirrors := mirrors
  confined := by
    rw [HooksConfined, same]
    exact standing.confined
  absent := absent
  present := present
  barred := by
    rw [same]
    exact standing.barred
  kept := by
    rw [same]
    exact standing.kept

theorem guarded_standing (relays : Repository.Relays below) (held : ∀ id, Held id → Kept id) :
    Guarded Barred Kept (Outside below) True
      fun service : Service ρ ω => service.Standing below Barred Kept Held where
  hooks _ standing := standing.confined
  note _ _ standing := { standing with }
  commit service record free standing := by
    refine standing.of_hooks (hooks_commit service record)
      (mirrors_commit relays service record standing.mirrors) ?_ ?_
    · intro id barred
      rw [stored_commit relays service fun equal => free (equal ▸ barred)]
      exact standing.absent id barred
    · intro id held
      exact stored_commit_ne_none relays service record (standing.present id held)
  discard service id free standing := by
    refine standing.of_hooks (hooks_discard service id)
      (mirrors_discard relays service id standing.mirrors) ?_ ?_
    · intro other barred
      exact stored_discard_eq_none relays service id (standing.absent other barred)
    · intro other holds
      have differs : other ≠ id := fun equal => free (equal ▸ held other holds)
      rw [stored_discard relays service differs]
      exact standing.present other holds
  register service hook confined standing := by
    refine ⟨standing.mirrors, ?_, standing.absent, standing.present, ?_, ?_⟩
    · exact List.forall_mem_append.mpr ⟨standing.confined, List.forall_mem_singleton.mpr confined⟩
    · intro record isAsync barred
      rcases standing.barred record isAsync barred with ⟨vetoing, member, vetoes⟩
      exact ⟨vetoing, List.mem_append_left _ member, vetoes⟩
    · intro id isAsync kept
      rcases standing.kept id isAsync kept with ⟨vetoing, member, vetoes⟩
      exact ⟨vetoing, List.mem_append_left _ member, vetoes⟩
  repository service change outside standing := by
    have same : below (change service.repository) = below service.repository := outside _
    refine standing.of_hooks rfl ?_ ?_ ?_
    · rw [Mirrors, same]
      exact standing.mirrors
    · rw [same]
      exact standing.absent
    · rw [same]
      exact standing.present
  barred service record isAsync barred standing :=
    ⟨(get?_eq_none_iff standing.mirrors).mpr (standing.absent record.id barred),
      standing.barred record isAsync barred⟩
  kept service id isAsync kept standing := standing.kept id isAsync kept

end Service

/-! ## Calls under standing vetoes -/

namespace Call

def Saves (Barred : RelationshipId → Prop) : Call σ ω → Prop
  | .save _ record _ => Barred record.id
  | _ => False

def Deletes (Kept : RelationshipId → Prop) : Call σ ω → Prop
  | .delete _ id _ => Kept id
  | _ => False

/-- A save or a deletion that a hook vetoed. -/
def Cancelled : Call σ ω → Prop
  | .save _ _ answer => ∃ reason, answer = .error (.cancelled reason)
  | .delete _ _ answer => ∃ reason, answer = .error (.cancelled reason)
  | _ => False

end Call

namespace Run

section

variable [Repository σ] {nesting : Nat} {session after : Session σ ω}

/-- An event that a registered hook vetoes is vetoed, by that hook or by one
before it, unless one of them comes to no decision. -/
theorem verdict_of_vetoes {event : Event} {hooks : List (Hook σ ω)}
    (vetoed : ∃ hook ∈ hooks, hook.Vetoes event) (session : Session σ ω) :
    (∃ reason asked, FirstVeto (consult nesting) event hooks session reason asked) ∨
      Stuck (consult nesting) event hooks session := by
  rcases vetoed with ⟨hook, member, vetoes⟩
  rcases verdict (consult nesting) event hooks session with ⟨asked, passed⟩ | verdict
  · rcases cancel_of_consultUntilVeto vetoes member (consultUntilVeto_of_allProceed passed) with
      ⟨reason, proceeds⟩
    cases proceeds
  · exact verdict

variable {Inv : Service σ ω → Prop} {Barred Kept : RelationshipId → Prop}
  {Harmless : (σ → σ) → Prop} {hooksWrite : Prop}
  (guarded : Service.Guarded Barred Kept Harmless hooksWrite Inv)

include guarded

theorem cancelled_of_performed (holds : Inv session.service) {call : Call σ ω}
    (performed : call.Performed nesting session after) :
    (call.Saves Barred → call.Cancelled) ∧ (call.Deletes Kept → call.Cancelled) := by
  cases call with
  | save caller record answer =>
      refine ⟨fun barred => ?_, fun deletes => absurd deletes id⟩
      rcases save_of_barred guarded barred holds performed with ⟨reason, same, _⟩
      exact ⟨reason, same⟩
  | delete caller id answer =>
      refine ⟨fun saves => absurd saves not_false, fun kept => ?_⟩
      rcases delete_of_kept guarded kept holds performed with ⟨reason, same, _⟩
      exact ⟨reason, same⟩
  | register hook => exact ⟨fun saves => absurd saves id, fun deletes => absurd deletes id⟩
  | ask query answer => exact ⟨fun saves => absurd saves id, fun deletes => absurd deletes id⟩

end

variable {backend : Backend} {ρ : Type} [Repository ρ] {below : ρ → backend.State}
  {session : Session ρ ω}

/-- A call that is completed in a session or later, at the top or nested in hooks,
whatever is done there, if the repository is written by the service only. -/
def Ahead (below : ρ → backend.State) (session : Session ρ ω) (completion : Completion ρ ω) :
    Prop :=
  ∃ program nesting, program.Confined (Service.Outside below) True True ∧
    completion ∈ completions
      (incidentsOfReaction (consult nesting) (incidents nesting) program session)

/-- Some identifiers are recorded nowhere, and a save of one of them is vetoed,
unless a hook comes to no decision. -/
structure ShutOut (below : ρ → backend.State) (Barred : RelationshipId → Prop)
    (session : Session ρ ω) : Prop where
  unindexed : ∀ id, Barred id → (session.service.ask (.get id)).1 = none
  unstored : ∀ id, Barred id → Backend.stored (below session.service.repository) id = none
  cancelled : ∀ nesting caller record, Barred record.id →
    let event := Event.create record (session.service.isAsync caller)
    (∃ reason asked after,
      FirstVeto (consult nesting) event session.service.hooks.hooks session reason asked ∧
        save (consult nesting) caller record session = some (.error (.cancelled reason), after)) ∨
      Stuck (consult nesting) event session.service.hooks.hooks session ∧
        save (consult nesting) caller record session = none

theorem shutOut_of_standing {Barred Kept Held : RelationshipId → Prop}
    (standing : session.service.Standing below Barred Kept Held) :
    ShutOut below Barred session where
  unindexed id barred := (Service.get?_eq_none_iff standing.mirrors).mpr (standing.absent id barred)
  unstored := standing.absent
  cancelled nesting caller record barred := by
    have absent := (Service.get?_eq_none_iff standing.mirrors).mpr (standing.absent record.id barred)
    have fresh : (session.service.index.get? record.id).isNone = true := by
      rw [absent]
      rfl
    have vetoed := standing.barred record (session.service.isAsync caller) barred
    rcases verdict_of_vetoes vetoed session with ⟨reason, asked, veto⟩ | stuck
    · exact .inl ⟨reason, asked, _, veto, save_of_firstVeto fresh veto⟩
    · refine .inr ⟨stuck, ?_⟩
      rw [save_apply, if_pos fresh]
      exact bind_eq_none (announce_of_stuck stuck)

/-- A completed call under standing vetoes. -/
structure Respects (below : ρ → backend.State) (Barred Kept Held : RelationshipId → Prop)
    (completion : Completion ρ ω) : Prop where
  standing : completion.session.service.Standing below Barred Kept Held
  saves : completion.call.Saves Barred → completion.call.Cancelled
  deletes : completion.call.Deletes Kept → completion.call.Cancelled

theorem respects_of_ahead (relays : Repository.Relays below)
    {Barred Kept Held : RelationshipId → Prop} (held : ∀ id, Held id → Kept id)
    (standing : session.service.Standing below Barred Kept Held) {completion : Completion ρ ω}
    (ahead : Ahead below session completion) : Respects below Barred Kept Held completion := by
  rcases ahead with ⟨program, nesting, confined, member⟩
  have guarded : Service.Guarded Barred Kept (Service.Outside below) True
      fun service : Service ρ ω => service.Standing below Barred Kept Held :=
    Service.guarded_standing relays held
  have sound : ∀ nesting (session : Session ρ ω) call after,
      session.service.Standing below Barred Kept Held →
      Call.Performed nesting session call after →
      after.service.Standing below Barred Kept Held →
      Respects below Barred Kept Held { call, session := after } := by
    intro nesting session call after holds performed kept
    rcases cancelled_of_performed guarded holds performed with ⟨saves, deletes⟩
    exact ⟨kept, saves, deletes⟩
  exact forall_mem_incidentsOfReaction guarded
    (fun _ confined event => keeps_consult guarded nesting confined event) (sound nesting)
    (fun _ confined event session => forall_mem_incidents guarded nesting sound confined event
      session)
    confined session standing completion member

/-- In a session that a program has left, a hook that vetoes all creations of some
identifiers shuts them out for good if none of them is stored, and a hook that
vetoes their deletions keeps those that are stored. -/
theorem standing_vetoes_are_never_bypassed (backend : Backend) {ρ ω : Type} [Repository ρ]
    {below : ρ → backend.State} (relays : Repository.Relays below) {repository : ρ}
    (distinct : backend.Distinct (below repository)) {config : Config} {primaryThread : ThreadId}
    {service : Service ρ ω}
    (loaded : Service.load repository config primaryThread = .ok service) (host : ω)
    {program : Reaction ρ ω} (confined : program.Confined (Service.Outside below) True True)
    {depth : Nat} {decision : Decision} {session : Session ρ ω}
    (reached : react (consult depth) program { service, host } = some (decision, session))
    (chosen : RelationshipId → Prop) :
    ((∀ id, chosen id → Backend.stored (below session.service.repository) id = none) →
      (∃ hook ∈ session.service.hooks.hooks, ∀ record isAsync, chosen record.id →
        hook.Vetoes (.create record isAsync)) →
      ShutOut below chosen session ∧ ∀ completion, Ahead below session completion →
        ShutOut below chosen completion.session ∧
          (completion.call.Saves chosen → completion.call.Cancelled)) ∧
    ((∃ hook ∈ session.service.hooks.hooks, ∀ id isAsync, chosen id →
        hook.Vetoes (.delete id isAsync)) →
      ∀ completion, Ahead below session completion →
        (∀ id, chosen id → Backend.stored (below session.service.repository) id ≠ none →
          (completion.session.service.ask (.get id)).1 ≠ none ∧
            Backend.stored (below completion.session.service.repository) id ≠ none) ∧
          (completion.call.Deletes chosen → completion.call.Cancelled)) := by
  have upheld : Service.Upheld (Service.Outside below) True fun service : Service ρ ω =>
      Service.Mirrors below service.repository service.index ∧
        service.HooksConfined (Service.Outside below) True := Service.upheld_mirrors relays True
  have start := keeps_react upheld
    (fun _ confined event => keeps_consult upheld depth confined event) confined
    { service, host } decision session (Service.mirrors_load relays distinct loaded True) reached
  constructor
  · rintro unstored ⟨hook, member, vetoes⟩
    have standing : session.service.Standing below chosen (fun _ => False) (fun _ => False) :=
      { mirrors := start.1
        confined := start.2
        absent := unstored
        present := fun _ held => absurd held id
        barred := fun record isAsync barred => ⟨hook, member, vetoes record isAsync barred⟩
        kept := fun _ _ kept => absurd kept id }
    refine ⟨shutOut_of_standing standing, fun completion ahead => ?_⟩
    have respects := respects_of_ahead relays (fun _ held => held) standing ahead
    exact ⟨shutOut_of_standing respects.standing, respects.saves⟩
  · rintro ⟨hook, member, vetoes⟩ completion ahead
    let held (id : RelationshipId) : Prop :=
      chosen id ∧ Backend.stored (below session.service.repository) id ≠ none
    have standing : session.service.Standing below (fun _ => False) chosen held :=
      { mirrors := start.1
        confined := start.2
        absent := fun _ barred => absurd barred id
        present := fun _ held => held.2
        barred := fun _ _ barred => absurd barred id
        kept := fun id isAsync kept => ⟨hook, member, vetoes id isAsync kept⟩ }
    have respects := respects_of_ahead relays (fun _ held => held.1) standing ahead
    refine ⟨fun id kept present => ?_, respects.deletes⟩
    have still := respects.standing.present id ⟨kept, present⟩
    exact ⟨mt (Service.get?_eq_none_iff respects.standing.mirrors).mp still, still⟩

/-! ## A smuggler under a standing veto -/

def contraband : Relationship := { Service.pledge with id := ⟨9, by decide⟩ }

/-- On any other creation the hook tries to save the contraband, and to delete the pledge. -/
def smuggler : Hook Backend.memory.State Unit
  | .create record _ =>
      if record.id = contraband.id then .decide .proceed
      else .save 0 contraband fun _ => .delete 0 Service.pledge.id fun _ => .decide .proceed
  | .delete _ _ => .decide .proceed

def censor : Hook Backend.memory.State Unit
  | .create record _ =>
      .decide (if record.id = contraband.id then .cancel "contraband" else .proceed)
  | .delete id _ => .decide (if id = Service.pledge.id then .cancel "pledged" else .proceed)

def patrolling : Reaction Backend.memory.State Unit :=
  .register smuggler <| .register censor <| .decide .proceed

theorem confined_patrolling :
    patrolling.Confined (Service.Outside fun state : Backend.memory.State => state) True True := by
  refine .register (fun event => ?_) (.register (fun event => ?_) (.decide _))
  · cases event with
    | create record isAsync =>
        rw [smuggler]
        split
        · exact .decide _
        · exact .save trivial fun _ => .delete trivial fun _ => .decide _
    | delete id isAsync => exact .decide _
  · cases event with
    | create record isAsync => exact .decide _
    | delete id isAsync => exact .decide _

/-- A hook that does nothing but veto an event. -/
theorem vetoes_of_decide [Repository σ] {hook : Hook σ ω} {event : Event} {reason : String}
    (reacts : hook event = .decide (.cancel reason)) : hook.Vetoes event := by
  intro nesting session decision after ran
  cases nesting with
  | zero => cases ran
  | succ nesting =>
      rw [consult, reacts] at ran
      cases ran
      exact ⟨reason, rfl⟩

theorem smuggler_fails :
    ∃ (service : Service Backend.memory.State Unit) (session : Session Backend.memory.State Unit),
      Service.load archive {} 0 = .ok service ∧ Backend.memory.Distinct archive ∧
        react (consult 0) patrolling { service, host := () } = some (.proceed, session) ∧
        ∀ completion, Ahead (fun state => state) session completion →
          (completion.session.service.ask (.get contraband.id)).1 = none ∧
            (completion.session.service.ask (.get Service.pledge.id)).1 ≠ none := by
  have distinct : Backend.memory.Distinct archive := List.pairwise_singleton _ _
  have relays : Repository.Relays fun state : Backend.memory.State => state :=
    Repository.relays_self
  have loads : ∃ service : Service Backend.memory.State Unit,
      Service.load archive {} 0 = .ok service ∧ service.repository = archive := ⟨_, rfl, rfl⟩
  rcases loads with ⟨service, loaded, repository⟩
  let session : Session Backend.memory.State Unit :=
    { service := (service.register smuggler).register censor, host := () }
  have reached : react (consult 0) patrolling { service, host := () } =
      some (.proceed, session) := rfl
  have member : censor ∈ session.service.hooks.hooks :=
    List.mem_append_right _ (List.mem_singleton.mpr rfl)
  have unstored : ∀ id, id = contraband.id → Backend.stored session.service.repository id = none := by
    rintro id rfl
    change Backend.stored service.repository contraband.id = none
    rw [repository]
    rfl
  have stored : Backend.stored session.service.repository Service.pledge.id ≠ none := by
    change Backend.stored service.repository Service.pledge.id ≠ none
    rw [repository]
    exact Option.some_ne_none _
  have creations : ∀ (record : Relationship) isAsync, record.id = contraband.id →
      censor.Vetoes (.create record isAsync) := by
    intro record isAsync same
    apply vetoes_of_decide
    rw [censor, if_pos same]
  have deletions : ∀ id isAsync, id = Service.pledge.id → censor.Vetoes (.delete id isAsync) := by
    intro id isAsync same
    apply vetoes_of_decide
    rw [censor, if_pos same]
  have bypassed := standing_vetoes_are_never_bypassed .memory relays distinct loaded ()
    confined_patrolling reached
  have closed := (bypassed (· = contraband.id)).1 unstored ⟨censor, member, creations⟩
  have held := (bypassed (· = Service.pledge.id)).2 ⟨censor, member, deletions⟩
  refine ⟨service, session, loaded, distinct, reached, fun completion ahead => ⟨?_, ?_⟩⟩
  · exact (closed.2 completion ahead).1.unindexed contraband.id rfl
  · exact ((held completion ahead).1 Service.pledge.id rfl stored).1

end Run

end Diplomacy
