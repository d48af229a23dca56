import Diplomacy.Config.Basic
import Diplomacy.Hierarchy.Climb
import Diplomacy.Hierarchy.Descent

/-!
The questions that a service answers, with the type of each answer. Every
answer is computed from one snapshot of the index, and no question can fail.
-/

namespace Diplomacy

inductive Query where
  | get (id : RelationshipId)
  | list
  | between (faction target : FactionId)
  | outgoing (faction : FactionId)
  | outgoingOfStance (faction : FactionId) (stance : Stance)
  | liege (faction : FactionId)
  | vassals (faction : FactionId)
  | allies (faction : FactionId)
  | atWarWith (faction : FactionId)
  | isAtWar (left right : FactionId)
  | areAllied (left right : FactionId)
  | vassalTree (root : FactionId)
  | liegeChain (start : FactionId)
  | hookCount
  | config
  | describe
deriving DecidableEq

abbrev Query.Answer : Query → Type
  | .get _ => Option Relationship
  | .list => List Relationship
  | .between _ _ => List Relationship
  | .outgoing _ => List Relationship
  | .outgoingOfStance _ _ => List Relationship
  | .liege _ => Option FactionId
  | .vassals _ => List FactionId
  | .allies _ => List FactionId
  | .atWarWith _ => List FactionId
  | .isAtWar _ _ => Bool
  | .areAllied _ _ => Bool
  | .vassalTree _ => VassalTree
  | .liegeChain _ => LiegeChain
  | .hookCount => Nat
  | .config => Config
  | .describe => String

end Diplomacy
