import Diplomacy.Relationship

/-!
Announcements of pending mutations, and the answers that hooks give to them.
A mutation is announced before it reaches the repository, so that a hook may
veto it.
-/

namespace Diplomacy

inductive Event where
  /-- A record whose identifier was not seen before is about to be created. -/
  | create (record : Relationship) (isAsync : Bool)
  /-- The record with an identifier is about to be deleted. -/
  | delete (id : RelationshipId) (isAsync : Bool)
deriving DecidableEq

namespace Event

def id : Event → RelationshipId
  | .create record _ => record.id
  | .delete id _ => id

def record? : Event → Option Relationship
  | .create record _ => some record
  | .delete _ _ => none

/-- Whether the mutation was asked for away from the primary thread. -/
def isAsync : Event → Bool
  | .create _ isAsync => isAsync
  | .delete _ isAsync => isAsync

def kind : Event → String
  | .create _ _ => "create"
  | .delete _ _ => "delete"

end Event

inductive Decision where
  | proceed
  | cancel (reason : String)
deriving DecidableEq, Repr, Inhabited

namespace Decision

def isCancelled : Decision → Bool
  | .proceed => false
  | .cancel _ => true

def reason? : Decision → Option String
  | .proceed => none
  | .cancel reason => some reason

end Decision

end Diplomacy
