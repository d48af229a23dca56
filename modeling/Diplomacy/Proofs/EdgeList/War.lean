import Diplomacy.Proofs.EdgeList.Confirmation

/-!
War seen from both ends. One declaration is enough, whoever makes it, so two
factions are at war exactly if one of them has declared it on the other. The
enemies of a faction are the other ends of the declarations that touch it, in the
order of the first declaration that joins each to it.
-/

namespace Diplomacy

/-- Whether two factions are the ends of an edge, in either direction. -/
def Relationship.joins (edge : Relationship) (left right : FactionId) : Bool :=
  edge.connects left right || edge.connects right left

namespace EdgeList

/-- The number of edges before the first declaration of war that joins two factions. -/
def firstWar (edges : EdgeList) (left right : FactionId) : Nat :=
  edges.findIdx fun edge => edge.stance = .atWar && edge.joins left right

variable {edges : EdgeList} {edge : Relationship} {left right : FactionId}

/-- Seen from one faction, an edge joins it to the edge's other end and to no other
faction, also if both ends are that faction itself. -/
theorem joins_eq_otherEnd (left right : FactionId) (edge : Relationship) :
    edge.joins left right = (edge.involves left && otherEnd left edge = right) := by
  rw [Bool.eq_iff_iff]
  simp only [Relationship.joins, Relationship.connects, Relationship.involves,
    Bool.or_eq_true, Bool.and_eq_true, decide_eq_true_eq]
  by_cases own : edge.faction = left
  · rw [show otherEnd left edge = edge.target from if_pos own]
    constructor
    · rintro (⟨_, target⟩ | ⟨faction, target⟩)
      · exact ⟨.inl own, target⟩
      · exact ⟨.inl own, target.trans (own.symm.trans faction)⟩
    · rintro ⟨_, target⟩
      exact .inl ⟨own, target⟩
  · rw [show otherEnd left edge = edge.faction from if_neg own]
    constructor
    · rintro (⟨faction, _⟩ | ⟨faction, target⟩)
      · exact absurd faction own
      · exact ⟨.inr target, faction⟩
    · rintro ⟨faction | target, other⟩
      · exact absurd faction own
      · exact .inr ⟨other, target⟩

theorem exists_joins_iff :
    (∃ edge ∈ edges, edge.stance = .atWar ∧ edge.joins left right = true) ↔
      edges.HasEdge left right .atWar ∨ edges.HasEdge right left .atWar := by
  simp only [HasEdge, Relationship.joins, Relationship.connects, Bool.or_eq_true,
    Bool.and_eq_true, decide_eq_true_eq]
  constructor
  · rintro ⟨edge, held, declares, ⟨own, target⟩ | ⟨own, target⟩⟩
    · exact .inl ⟨edge, held, own, target, declares⟩
    · exact .inr ⟨edge, held, own, target, declares⟩
  · rintro (⟨edge, held, own, target, declares⟩ | ⟨edge, held, own, target, declares⟩)
    · exact ⟨edge, held, declares, .inl ⟨own, target⟩⟩
    · exact ⟨edge, held, declares, .inr ⟨own, target⟩⟩

theorem mem_atWarWith_iff :
    right ∈ edges.atWarWith left ↔
      edges.HasEdge left right .atWar ∨ edges.HasEdge right left .atWar := by
  rw [← exists_joins_iff, atWarWith, List.mem_eraseDups, List.mem_map]
  simp only [List.mem_filter, joins_eq_otherEnd, Bool.and_eq_true, decide_eq_true_eq, and_assoc]

theorem isAtWar_iff :
    edges.isAtWar left right = true ↔
      edges.HasEdge left right .atWar ∨ edges.HasEdge right left .atWar := by
  rw [isAtWar, Bool.or_eq_true, records_iff_hasEdge, records_iff_hasEdge]

/-- Enemies stand in the order of the first declarations that join them to a
faction, made by either side. -/
theorem pairwise_atWarWith (edges : EdgeList) (faction : FactionId) :
    (edges.atWarWith faction).Pairwise fun earlier later =>
      edges.firstWar faction earlier < edges.firstWar faction later := by
  have place : ∀ enemy, edges.findIdx (fun edge =>
      (edge.stance = .atWar && edge.involves faction) && otherEnd faction edge = enemy) =
        edges.firstWar faction enemy := by
    intro enemy
    simp only [firstWar, joins_eq_otherEnd, Bool.and_assoc]
  have ordered := pairwise_eraseDups_map_filter edges
    (fun edge => edge.stance = .atWar && edge.involves faction) (otherEnd faction)
  simp only [place] at ordered
  exact ordered

/-- Two factions, which may be the same, are at war, whichever of them and whichever
way one asks, exactly if one of them declares it, and a faction's enemies are listed
in the order in which the first declarations joined them to it. -/
theorem war_is_symmetric (edges : EdgeList) (left right : FactionId) :
    let declared := edges.HasEdge left right .atWar ∨ edges.HasEdge right left .atWar
    (right ∈ edges.atWarWith left ↔ declared) ∧ (left ∈ edges.atWarWith right ↔ declared) ∧
      (edges.isAtWar left right = true ↔ declared) ∧
      (edges.isAtWar right left = true ↔ declared) ∧
      (edges.atWarWith left).Nodup ∧
      (edges.atWarWith left).Pairwise fun earlier later =>
        edges.firstWar left earlier < edges.firstWar left later := by
  intro declared
  refine ⟨mem_atWarWith_iff, mem_atWarWith_iff.trans or_comm, isAtWar_iff,
    isAtWar_iff.trans or_comm, nodup_eraseDups _, ?_⟩
  exact pairwise_atWarWith edges left

end EdgeList

end Diplomacy
