import Diplomacy.EdgeList.Basic
import Diplomacy.Hierarchy.Warning

/-!
The rules by which directed claims become facts. A one-sided claim does not
bind: an alliance needs an `ALLY` edge in both directions, and vassalage a
`VASSAL` edge one way with a `LIEGE` edge back. War is the exception, where one
declaration in either direction is enough. Every list of factions names each
faction once, at the place of the first edge that speaks for it.
-/

namespace Diplomacy.EdgeList

variable (edges : EdgeList)

/-- Whether an edge is acknowledged by its target, where its stance asks for that. -/
def isReciprocated (edge : Relationship) : Bool :=
  match edge.stance.reciprocal with
  | some expected => edges.records edge.target edge.faction expected
  | none => true

/-- The targets of a faction's acknowledged edges of a stance. -/
def confirmed (faction : FactionId) (stance : Stance) : List FactionId :=
  (((edges.outgoingOfStance faction stance).filter edges.isReciprocated).map
    (·.target)).eraseDups

def vassalsOf (faction : FactionId) : List FactionId := edges.confirmed faction .vassal

/-- The factions allied with a faction in both directions. -/
def alliesOf (faction : FactionId) : List FactionId := edges.confirmed faction .ally

/-- The verified liege of a faction. Only its first recorded `LIEGE` edge is
consulted, even if a later one is acknowledged. -/
def liegeOf (faction : FactionId) : Option FactionId :=
  ((edges.outgoingOfStance faction .liege).head?.filter edges.isReciprocated).map (·.target)

/-- What an audit says about a faction's `LIEGE` edges. -/
def liegeAudit (faction : FactionId) : List Hierarchy.Warning :=
  let count := (edges.liegeClaims faction).length
  if 1 < count then [.multipleLieges faction count] else []

/-- The verified liege of a faction, with the audit's warnings when they are asked for. -/
def auditedLiegeOf (faction : FactionId) (audit : Bool) :
    Option FactionId × List Hierarchy.Warning :=
  (edges.liegeOf faction, if audit then edges.liegeAudit faction else [])

/-- The other end of an edge that touches a faction. -/
def otherEnd (faction : FactionId) (edge : Relationship) : FactionId :=
  if edge.faction = faction then edge.target else edge.faction

/-- The factions at war with a faction, declared by either side. -/
def atWarWith (faction : FactionId) : List FactionId :=
  ((edges.filter fun edge => edge.stance = .atWar && edge.involves faction).map
    (otherEnd faction)).eraseDups

/-- Whether either of two factions has declared war on the other. -/
def isAtWar (left right : FactionId) : Bool :=
  edges.records left right .atWar || edges.records right left .atWar

/-- Whether two factions are allied in both directions. -/
def areAllied (left right : FactionId) : Bool :=
  edges.records left right .ally && edges.records right left .ally

end Diplomacy.EdgeList
