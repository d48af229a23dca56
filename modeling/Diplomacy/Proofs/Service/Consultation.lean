import Diplomacy.Proofs.Service.Runs

/-!
How the hooks decide on a mutation. They are consulted in turn, each in the
session that the one before it left behind, and the first veto counts. Hooks
that neither save nor delete always come to a decision, and leave the repository
and the index as they found them.
-/

namespace Diplomacy.Run

variable {σ ω : Type}

/-- Hooks that are consulted in turn all let an event pass. -/
inductive AllProceed (consulting : Hook σ ω → Event → Run σ ω Decision) (event : Event) :
    List (Hook σ ω) → Session σ ω → Session σ ω → Prop where
  | nil (session : Session σ ω) : AllProceed consulting event [] session session
  | cons {hook : Hook σ ω} {hooks : List (Hook σ ω)} {session between after : Session σ ω}
      (proceeds : consulting hook event session = some (.proceed, between))
      (rest : AllProceed consulting event hooks between after) :
      AllProceed consulting event (hook :: hooks) session after

/-- Of hooks that are consulted in turn, one vetoes an event for a reason, and
those before it let it pass. -/
def FirstVeto (consulting : Hook σ ω → Event → Run σ ω Decision) (event : Event)
    (hooks : List (Hook σ ω)) (session : Session σ ω) (reason : String)
    (after : Session σ ω) : Prop :=
  ∃ earlier hook later between, hooks = earlier ++ hook :: later ∧
    AllProceed consulting event earlier session between ∧
    consulting hook event between = some (.cancel reason, after)

variable {consulting : Hook σ ω → Event → Run σ ω Decision} {event : Event} {hook : Hook σ ω}
  {hooks : List (Hook σ ω)} {session between after : Session σ ω} {reason : String}

theorem FirstVeto.here (vetoes : consulting hook event session = some (.cancel reason, after)) :
    FirstVeto consulting event (hook :: hooks) session reason after :=
  ⟨[], hook, hooks, session, rfl, .nil session, vetoes⟩

theorem FirstVeto.later (proceeds : consulting hook event session = some (.proceed, between))
    (vetoed : FirstVeto consulting event hooks between reason after) :
    FirstVeto consulting event (hook :: hooks) session reason after := by
  rcases vetoed with ⟨earlier, vetoing, later, last, rfl, passed, vetoes⟩
  exact ⟨hook :: earlier, vetoing, later, last, rfl, .cons proceeds passed, vetoes⟩

/-! ## Dispatch and announcement -/

theorem consultUntilVeto_of_allProceed
    (passed : AllProceed consulting event hooks session after) :
    Registry.consultUntilVeto consulting event hooks session = some (.proceed, after) := by
  induction passed with
  | nil session => rfl
  | cons proceeds _ induction => exact bind_eq_some_iff.mpr ⟨_, _, proceeds, induction⟩

theorem consultUntilVeto_of_firstVeto
    (vetoed : FirstVeto consulting event hooks session reason after) :
    Registry.consultUntilVeto consulting event hooks session = some (.cancel reason, after) := by
  rcases vetoed with ⟨earlier, vetoing, later, between, rfl, passed, vetoes⟩
  induction passed with
  | nil session => exact bind_eq_some_iff.mpr ⟨_, _, vetoes, rfl⟩
  | cons proceeds _ induction =>
      exact bind_eq_some_iff.mpr ⟨_, _, proceeds, induction vetoes⟩

theorem announce_of_allProceed
    (passed : AllProceed consulting event session.service.hooks.hooks session after) :
    announce consulting event session = some (.ok (), after) := by
  rw [announce, get_bind_apply]
  exact bind_eq_some_iff.mpr ⟨_, _, consultUntilVeto_of_allProceed passed, rfl⟩

theorem announce_of_firstVeto
    (vetoed : FirstVeto consulting event session.service.hooks.hooks session reason after) :
    announce consulting event session =
      some (.error (.cancelled reason),
        { after with service := after.service.note [.cancelled event reason] }) := by
  rw [announce, get_bind_apply]
  exact bind_eq_some_iff.mpr ⟨_, _, consultUntilVeto_of_firstVeto vetoed, rfl⟩

section

variable [Repository σ] {caller : ThreadId} {record : Relationship} {id : RelationshipId}
  {asked : Session σ ω}

theorem save_of_allProceed (fresh : (session.service.index.get? record.id).isNone = true)
    (passed : AllProceed consulting (.create record (session.service.isAsync caller))
      session.service.hooks.hooks session asked) :
    save consulting caller record session = commitAnnounced record (.ok ()) asked := by
  rw [save_apply, if_pos fresh]
  exact bind_eq_some_iff.mpr ⟨_, _, announce_of_allProceed passed, rfl⟩

theorem save_of_firstVeto (fresh : (session.service.index.get? record.id).isNone = true)
    (vetoed : FirstVeto consulting (.create record (session.service.isAsync caller))
      session.service.hooks.hooks session reason asked) :
    let event := .create record (session.service.isAsync caller)
    save consulting caller record session =
      some (.error (.cancelled reason),
        { asked with service := asked.service.note [.cancelled event reason] }) := by
  rw [save_apply, if_pos fresh]
  exact bind_eq_some_iff.mpr ⟨_, _, announce_of_firstVeto vetoed, rfl⟩

theorem delete_of_allProceed
    (passed : AllProceed consulting (.delete id (session.service.isAsync caller))
      session.service.hooks.hooks session asked) :
    delete consulting caller id session =
      some ((asked.service.discard id).1,
        { asked with service := (asked.service.discard id).2 }) := by
  rw [delete, get_bind_apply]
  exact bind_eq_some_iff.mpr ⟨_, _, announce_of_allProceed passed, rfl⟩

theorem delete_of_firstVeto
    (vetoed : FirstVeto consulting (.delete id (session.service.isAsync caller))
      session.service.hooks.hooks session reason asked) :
    let event := .delete id (session.service.isAsync caller)
    delete consulting caller id session =
      some (.error (.cancelled reason),
        { asked with service := asked.service.note [.cancelled event reason] }) := by
  dsimp only
  rw [delete, get_bind_apply]
  exact bind_eq_some_iff.mpr ⟨_, _, announce_of_firstVeto vetoed, rfl⟩

end

/-! ## Hooks that do not write -/

/-- The repository and the index are as they were. -/
structure Unwritten (session after : Session σ ω) : Prop where
  repository : after.service.repository = session.service.repository
  index : after.service.index = session.service.index

theorem Unwritten.refl (session : Session σ ω) : Unwritten session session := ⟨rfl, rfl⟩

theorem Unwritten.trans (first : Unwritten session between) (second : Unwritten between after) :
    Unwritten session after :=
  ⟨second.repository.trans first.repository, second.index.trans first.index⟩

variable [Repository σ] {Harmless : (σ → σ) → Prop} {hooksWrite : Prop}
  (idle : ∀ change, Harmless change → ∀ state, change state = state)

include idle

variable (consulting) in
/-- A reaction that neither saves nor deletes comes to a decision and writes nothing. -/
theorem react_of_quiet {reaction : Reaction σ ω}
    (quiet : reaction.Confined Harmless hooksWrite False) (session : Session σ ω) :
    ∃ decision after, react consulting reaction session = some (decision, after) ∧
      Unwritten session after := by
  -- The flag is an index of `Confined`, so the induction needs it as a variable.
  generalize writes : False = may at quiet
  induction quiet generalizing session with
  | decide decision => exact ⟨decision, session, rfl, .refl session⟩
  | save may => exact absurd may (writes ▸ not_false)
  | delete may => exact absurd may (writes ▸ not_false)
  | register _ _ _ induction =>
      rcases induction _ writes with ⟨decision, after, ran, unwritten⟩
      exact ⟨decision, after, ran, unwritten.repository, unwritten.index⟩
  | ask _ induction =>
      rcases induction _ _ writes with ⟨decision, after, ran, unwritten⟩
      exact ⟨decision, after, ran, unwritten.repository, unwritten.index⟩
  | @repository _ change next harmless _ induction =>
      rcases induction session.service.repository
          { session with service :=
            { session.service with repository := change session.service.repository } } writes with
        ⟨decision, after, ran, unwritten⟩
      refine ⟨decision, after, ran, ?_, unwritten.index⟩
      exact unwritten.repository.trans (idle change harmless _)
  | @host _ change next _ induction =>
      rcases induction session.host { session with host := change session.host } writes with
        ⟨decision, after, ran, unwritten⟩
      exact ⟨decision, after, ran, unwritten.repository, unwritten.index⟩

/-- Hooks that neither save nor delete come to a verdict and write nothing. -/
theorem verdict_of_quiet (nesting : Nat) (event : Event) {hooks : List (Hook σ ω)}
    (quiet : ∀ hook ∈ hooks, hook.Confined Harmless False) (session : Session σ ω) :
    ∃ after, Unwritten session after ∧
      (AllProceed (consult (nesting + 1)) event hooks session after ∨
        ∃ reason, FirstVeto (consult (nesting + 1)) event hooks session reason after) := by
  induction hooks generalizing session with
  | nil => exact ⟨session, .refl session, .inl (.nil session)⟩
  | cons hook hooks induction =>
      have first := react_of_quiet (consult nesting) idle (quiet hook List.mem_cons_self event)
      rcases first session with ⟨decision, between, ran, unwritten⟩
      cases decision with
      | cancel reason => exact ⟨between, unwritten, .inr ⟨reason, .here ran⟩⟩
      | proceed =>
          have others : ∀ hook ∈ hooks, hook.Confined Harmless False :=
            fun other later => quiet other (List.mem_cons_of_mem _ later)
          rcases induction others between with ⟨after, rest, verdict⟩
          refine ⟨after, unwritten.trans rest, ?_⟩
          rcases verdict with passed | ⟨reason, vetoed⟩
          · exact .inl (.cons ran passed)
          · exact .inr ⟨reason, .later ran vetoed⟩

end Diplomacy.Run
