import Diplomacy.Service.Failure
import Diplomacy.Service.Query
import Diplomacy.Event

/-!
What a hook does when it is consulted. A hook may come back to the service that
consults it, save and delete records, register further hooks and ask questions,
before it decides. The type of hooks cannot mention a service that holds them,
so a hook is given by the tree of its calls: each call is followed by what the
hook does for each possible answer, until it decides.

Outside the service, a hook sees the repository, of state `σ`, and the state of
the application that embeds the service, of type `ω`.
-/

namespace Diplomacy

/-- Identifies the thread that a call is made on. -/
abbrev ThreadId := Nat

/-- The calls that a hook makes, and its decision at the end. -/
inductive Reaction (σ ω : Type) : Type where
  | decide (decision : Decision)
  | save (caller : ThreadId) (record : Relationship)
      (next : Except Failure Relationship → Reaction σ ω)
  | delete (caller : ThreadId) (id : RelationshipId)
      (next : Except Failure Unit → Reaction σ ω)
  | register (hook : Event → Reaction σ ω) (next : Reaction σ ω)
  | ask (query : Query) (next : query.Answer → Reaction σ ω)
  /-- Reach the repository behind the service's back. `next` is given its state
  before the change. -/
  | repository (change : σ → σ) (next : σ → Reaction σ ω)
  /-- Reach the state of the application. `next` is given the state before the change. -/
  | host (change : ω → ω) (next : ω → Reaction σ ω)

instance (σ ω : Type) : Inhabited (Reaction σ ω) := ⟨.decide .proceed⟩

/-- An observer that is consulted before a mutation is committed. -/
abbrev Hook (σ ω : Type) := Event → Reaction σ ω

end Diplomacy
