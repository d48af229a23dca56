import Diplomacy.Relationship

/-!
Raw queries over a snapshot of the recorded edges, in first-recorded order. A
raw query reports claims as they were made, whether or not the other side
agrees; the rules by which claims bind are in `EdgeList.Reciprocity`.
-/

namespace Diplomacy

/-- A snapshot of relationship records, first recorded first. -/
abbrev EdgeList := List Relationship

namespace EdgeList

variable (edges : EdgeList)

def between (faction target : FactionId) : EdgeList :=
  edges.filter (·.connects faction target)

def outgoing (faction : FactionId) : EdgeList :=
  edges.filter (·.faction = faction)

/-- The edges of one stance that a faction declares. -/
def outgoingOfStance (faction : FactionId) (stance : Stance) : EdgeList :=
  (edges.outgoing faction).filter (·.stance = stance)

/-- Whether a faction records an edge of a stance to another. -/
def records (faction target : FactionId) (stance : Stance) : Bool :=
  (edges.between faction target).any (·.stance = stance)

/-- The targets of a faction's `LIEGE` edges, first recorded first. -/
def liegeClaims (faction : FactionId) : List FactionId :=
  (edges.outgoingOfStance faction .liege).map (·.target)

/-- A faction records a stance exactly if the snapshot holds such an edge. -/
theorem records_iff {edges : EdgeList} {faction target : FactionId} {stance : Stance} :
    edges.records faction target stance = true ↔
      ∃ edge ∈ edges, edge.faction = faction ∧ edge.target = target ∧ edge.stance = stance := by
  simp [records, between, Relationship.connects, and_assoc]

/-- The outgoing edges of a stance, as one condition on each edge. -/
theorem mem_outgoingOfStance {edges : EdgeList} {faction : FactionId} {stance : Stance}
    {edge : Relationship} :
    edge ∈ edges.outgoingOfStance faction stance ↔
      edge ∈ edges ∧ edge.faction = faction ∧ edge.stance = stance := by
  grind [outgoingOfStance, outgoing]

end EdgeList

end Diplomacy
