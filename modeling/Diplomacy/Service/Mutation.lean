import Diplomacy.Service.Basic

/-!
The mutations of a service: announce, persist, then index. A record whose
identifier is not indexed is announced to the hooks before it is saved, and
every deletion is announced. Unless a hook vetoes, the repository is called
once, and the index follows only what the repository has confirmed.

Hooks may come back to the service while they are consulted. A run is therefore
given a nesting: how many consultations may be going on at once. A run that
would exceed it has no result, and any nesting that is large enough for a run
gives the same one.
-/

namespace Diplomacy

namespace Service

variable {σ ω : Type} [Repository σ] (service : Service σ ω)

/-- Save a record without announcing it. -/
def commit (record : Relationship) : Except Failure Relationship × Service σ ω :=
  let (answer, repository) := Repository.upsert service.repository record
  let service := { service with repository }
  match answer with
  | .error error =>
      (.error (.ofRepositoryError error), service.note [.saveFailed record.id error])
  | .ok committed =>
      let (applied, index) := service.index.applyCommitted committed
      let service := { service with index }
      let late : List Notice :=
        if applied then [] else [.superseded record.id committed.version]
      (.ok committed, service.note (late ++ [.saved record.id committed]))

/-- Delete a record without announcing it. -/
def discard (id : RelationshipId) : Except Failure Unit × Service σ ω :=
  let (answer, repository) := Repository.delete service.repository id
  let service := { service with repository }
  match answer with
  | .error error => (.error (.ofRepositoryError error), service.note [.deleteFailed id error])
  | .ok () =>
      let service := { service with index := (service.index.remove id).2 }
      (.ok (), service.note [.deleted id])

end Service

/-- A service and the state of the application that embeds it. -/
structure Session (σ ω : Type) where
  service : Service σ ω
  host : ω

/-- A computation in a session. It has no result if hooks are nested too deeply. -/
abbrev Run (σ ω : Type) := StateT (Session σ ω) Option

namespace Run

variable {σ ω : Type}

/-- Let the service do something. -/
def onService {α : Type} (step : Service σ ω → α × Service σ ω) : Run σ ω α := fun session =>
  let (answer, service) := step session.service
  some (answer, { session with service })

/-- Ask the service, and keep the warnings in its journal. -/
def ask (query : Query) : Run σ ω query.Answer :=
  onService fun service =>
    let (answer, warnings) := service.ask query
    (answer, service.note (warnings.map .warning))

/-- Announce a mutation to the hooks; a veto is the failure of the mutation. -/
def announce (consult : Hook σ ω → Event → Run σ ω Decision) (event : Event) :
    Run σ ω (Except Failure Unit) := do
  let session ← get
  match ← session.service.hooks.dispatch consult event with
  | .proceed => pure (.ok ())
  | .cancel reason =>
      onService fun service =>
        (.error (.cancelled reason), service.note [.cancelled event reason])

def save [Repository σ] (consult : Hook σ ω → Event → Run σ ω Decision) (caller : ThreadId)
    (record : Relationship) : Run σ ω (Except Failure Relationship) := do
  let session ← get
  let announced ←
    if (session.service.index.get? record.id).isNone then
      announce consult (.create record (session.service.isAsync caller))
    else pure (.ok ())
  match announced with
  | .error failure => pure (.error failure)
  | .ok () => onService fun service => service.commit record

def delete [Repository σ] (consult : Hook σ ω → Event → Run σ ω Decision) (caller : ThreadId)
    (id : RelationshipId) : Run σ ω (Except Failure Unit) := do
  let session ← get
  match ← announce consult (.delete id (session.service.isAsync caller)) with
  | .error failure => pure (.error failure)
  | .ok () => onService fun service => service.discard id

/-- Make the calls of a reaction, up to its decision. -/
def react [Repository σ] (consult : Hook σ ω → Event → Run σ ω Decision) :
    Reaction σ ω → Run σ ω Decision
  | .decide decision => pure decision
  | .save caller record next => do react consult (next (← save consult caller record))
  | .delete caller id next => do react consult (next (← delete consult caller id))
  | .register hook next => do
      onService fun service => ((), service.register hook)
      react consult next
  | .ask query next => do react consult (next (← ask query))
  | .repository change next => do
      let before ← onService fun service =>
        (service.repository, { service with repository := change service.repository })
      react consult (next before)
  | .host change next => do
      let session ← get
      set { session with host := change session.host }
      react consult (next session.host)

/-- Consult a hook, with at most `nesting` consultations going on at once. -/
def consult [Repository σ] : (nesting : Nat) → Hook σ ω → Event → Run σ ω Decision
  | 0, _, _ => failure
  | nesting + 1, hook, event => react (consult nesting) (hook event)

end Run

end Diplomacy
