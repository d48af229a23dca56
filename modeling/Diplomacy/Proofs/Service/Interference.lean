import Diplomacy.Proofs.Service.Coherence
import Diplomacy.Proofs.Service.Consultation

/-!
What hooks do to the index of the service that consults them. They reach it only
through the service, so it changes only by a save or a deletion that succeeds,
by a hook or by a hook that is consulted on its account.
-/

namespace Diplomacy

variable {σ ω : Type}

/-- A save or a deletion that succeeded. -/
def Call.Effective : Call σ ω → Prop
  | .save _ _ (.ok _) => True
  | .delete _ _ (.ok _) => True
  | _ => False

namespace Run

/-- No call that is completed among some incidents is a save or a deletion that succeeded. -/
def Ineffective (incidents : List (Incident σ ω)) : Prop :=
  ∀ completion ∈ completions incidents, ¬ completion.call.Effective

variable {first rest : List (Incident σ ω)}

theorem ineffective_append :
    Ineffective (first ++ rest) ↔ Ineffective first ∧ Ineffective rest := by
  simp only [Ineffective, completions_append, List.forall_mem_append]

theorem ineffective_completed_cons {completion : Completion σ ω} :
    Ineffective (.completed completion :: rest) ↔
      ¬ completion.call.Effective ∧ Ineffective rest := by
  simp only [Ineffective, completions_completed_cons, List.forall_mem_cons]

theorem ineffective_incidentsOfCall {α : Type} {within : List (Incident σ ω)} {call : α → Call σ ω}
    {answer : α} {after : Session σ ω} {later : α → Session σ ω → List (Incident σ ω)} :
    Ineffective (incidentsOfCall within call (some (answer, after)) later) ↔
      Ineffective within ∧ ¬ (call answer).Effective ∧ Ineffective (later answer after) :=
  ineffective_append.trans (and_congr_right' ineffective_completed_cons)

/-- A consultation whose completed calls are all ineffective leaves the index alone. -/
def Spares (consulting : Hook σ ω → Event → Run σ ω Decision)
    (arising : Hook σ ω → Event → Session σ ω → List (Incident σ ω)) : Prop :=
  ∀ hook event session decision after, consulting hook event session = some (decision, after) →
    Ineffective (arising hook event session) → after.service.index = session.service.index

variable {consulting : Hook σ ω → Event → Run σ ω Decision}
  {arising : Hook σ ω → Event → Session σ ω → List (Incident σ ω)}
  (spares : Spares consulting arising) {event : Event} {session after : Session σ ω}

include spares

theorem index_of_consultUntilVeto {hooks : List (Hook σ ω)} {decision : Decision}
    (ran : Registry.consultUntilVeto consulting event hooks session = some (decision, after))
    (ineffective : Ineffective (incidentsOfHooks consulting arising event hooks session)) :
    after.service.index = session.service.index := by
  induction hooks generalizing session with
  | nil =>
      cases ran
      rfl
  | cons hook hooks induction =>
      rcases bind_eq_some_iff.mp ran with ⟨first, between, consulted, rest⟩
      rw [incidentsOfHooks, consulted, ineffective_append] at ineffective
      have spared := spares hook event session first between consulted ineffective.1
      cases first with
      | cancel reason =>
          cases rest
          exact spared
      | proceed => exact (induction rest ineffective.2).trans spared

theorem index_of_announce {announced : Except Failure Unit}
    (ran : announce consulting event session = some (announced, after))
    (ineffective : Ineffective (incidentsOfDispatch consulting arising event session)) :
    after.service.index = session.service.index := by
  rw [announce, get_bind_apply] at ran
  rcases bind_eq_some_iff.mp ran with ⟨decision, asked, dispatched, rest⟩
  have spared := index_of_consultUntilVeto spares dispatched ineffective
  cases decision with
  | proceed =>
      cases rest
      exact spared
  | cancel reason =>
      cases rest
      exact spared

variable [Repository σ] {caller : ThreadId}

omit spares in
theorem index_of_commitAnnounced {record : Relationship} {announced : Except Failure Unit}
    {answer : Except Failure Relationship}
    (ran : commitAnnounced record announced session = some (answer, after))
    (failed : ∀ committed, answer ≠ .ok committed) :
    after.service.index = session.service.index := by
  cases announced with
  | error failure =>
      cases ran
      rfl
  | ok =>
      cases ran
      cases called : Repository.upsert session.service.repository record with
      | mk upserted repository =>
          cases upserted with
          | error error => exact congrArg (·.2.index) (Service.commit_of_error called)
          | ok committed => exact absurd (Service.commit_of_ok called).1 (failed committed)

omit spares in
theorem index_of_discardAnnounced {id : RelationshipId} {announced : Except Failure Unit}
    {answer : Except Failure Unit}
    (ran : discardAnnounced id announced session = some (answer, after))
    (failed : answer ≠ .ok ()) : after.service.index = session.service.index := by
  cases announced with
  | error failure =>
      cases ran
      rfl
  | ok =>
      cases ran
      cases called : Repository.delete session.service.repository id with
      | mk deleted repository =>
          cases deleted with
          | error error => exact congrArg (·.2.index) (Service.discard_of_error called)
          | ok => exact absurd (Service.discard_of_ok called).1 failed

theorem index_of_save {record : Relationship} {answer : Except Failure Relationship}
    (ran : save consulting caller record session = some (answer, after))
    (ineffective : Ineffective (incidentsOfSave consulting arising caller record session))
    (failed : ∀ committed, answer ≠ .ok committed) :
    after.service.index = session.service.index := by
  rw [save_apply] at ran
  split at ran
  · next fresh =>
      rw [incidentsOfSave, if_pos fresh] at ineffective
      rcases bind_eq_some_iff.mp ran with ⟨announced, asked, consulted, committed⟩
      exact (index_of_commitAnnounced committed failed).trans
        (index_of_announce spares consulted ineffective)
  · exact index_of_commitAnnounced ran failed

theorem index_of_delete {id : RelationshipId} {answer : Except Failure Unit}
    (ran : delete consulting caller id session = some (answer, after))
    (ineffective : Ineffective (incidentsOfDelete consulting arising caller id session))
    (failed : answer ≠ .ok ()) : after.service.index = session.service.index := by
  rw [delete_apply] at ran
  rcases bind_eq_some_iff.mp ran with ⟨announced, asked, consulted, discarded⟩
  exact (index_of_discardAnnounced discarded failed).trans
    (index_of_announce spares consulted ineffective)

theorem index_of_react {reaction : Reaction σ ω} {decision : Decision}
    (ran : react consulting reaction session = some (decision, after))
    (ineffective : Ineffective (incidentsOfReaction consulting arising reaction session)) :
    after.service.index = session.service.index := by
  induction reaction generalizing session with
  | decide decision =>
      cases ran
      rfl
  | save caller record next induction =>
      rcases bind_eq_some_iff.mp ran with ⟨answer, between, saved, rest⟩
      rw [incidentsOfReaction, saved] at ineffective
      rcases ineffective_incidentsOfCall.mp ineffective with ⟨nested, failed, later⟩
      refine (induction answer rest later).trans (index_of_save spares saved nested ?_)
      rintro committed rfl
      exact failed trivial
  | delete caller id next induction =>
      rcases bind_eq_some_iff.mp ran with ⟨answer, between, deleted, rest⟩
      rw [incidentsOfReaction, deleted] at ineffective
      rcases ineffective_incidentsOfCall.mp ineffective with ⟨nested, failed, later⟩
      refine (induction answer rest later).trans (index_of_delete spares deleted nested ?_)
      rintro rfl
      exact failed trivial
  | register hook next _ induction =>
      have kept := induction (show react consulting next
        { session with service := session.service.register hook } = _ from ran)
      exact kept (ineffective_completed_cons.mp ineffective).2
  | ask query next induction =>
      rcases bind_eq_some_iff.mp ran with ⟨answer, between, asked, rest⟩
      rw [incidentsOfReaction, asked] at ineffective
      rcases ineffective_incidentsOfCall.mp ineffective with ⟨_, _, later⟩
      refine (induction answer rest later).trans ?_
      cases asked
      rfl
  | repository change next induction =>
      have kept := induction session.service.repository (show react consulting _
        { session with service :=
          { session.service with repository := change session.service.repository } } = _ from ran)
      exact kept ineffective
  | host change next induction =>
      have kept := induction session.host (show react consulting _
        { session with host := change session.host } = _ from ran)
      exact kept ineffective

omit spares in
/-- Consultations, however deeply nested, change the index only by saves and
deletions that succeed. -/
theorem spares_consult (nesting : Nat) :
    Spares (consult nesting : Hook σ ω → Event → Run σ ω Decision) (incidents nesting) := by
  induction nesting with
  | zero =>
      intro hook event session decision after ran
      cases ran
  | succ nesting induction =>
      intro hook event session decision after ran ineffective
      exact index_of_react induction ran ineffective

omit spares in
/-- A hook finds the index as it was before any hook was consulted, unless a
nested save or deletion succeeded before its turn. -/
theorem index_of_allProceed {nesting : Nat} {earlier : List (Hook σ ω)}
    (passed : AllProceed (consult nesting) event earlier session after)
    (ineffective : Ineffective
      (incidentsOfHooks (consult nesting) (incidents nesting) event earlier session)) :
    after.service.index = session.service.index :=
  index_of_consultUntilVeto (spares_consult nesting) (consultUntilVeto_of_allProceed passed)
    ineffective

end Run

end Diplomacy
