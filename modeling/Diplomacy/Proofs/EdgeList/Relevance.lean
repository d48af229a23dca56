import Diplomacy.Proofs.EdgeList.Vassalage

/-!
What a question reads of a snapshot. Two snapshots agree on some edges if they
declare the same by them, in the same order, whatever the identifiers and versions
of the records are and whatever else they hold. A question about a faction has the
same answer in snapshots that agree on the edges of its own stances that touch the
faction.
-/

namespace Diplomacy

/-- What an edge declares, apart from the identifier and version of its record. -/
structure Declaration where
  faction : FactionId
  target : FactionId
  stance : Stance
deriving DecidableEq

namespace Declaration

variable (declaration : Declaration) (stances : List Stance) (faction : FactionId)

/-- Whether the declaration is of one of some stances and touches a faction on
either end. -/
def touches : Bool :=
  declaration.stance ∈ stances &&
    (declaration.faction = faction || declaration.target = faction)

def otherEnd : FactionId :=
  if declaration.faction = faction then declaration.target else declaration.faction

end Declaration

def Relationship.declaration (edge : Relationship) : Declaration where
  faction := edge.faction
  target := edge.target
  stance := edge.stance

namespace EdgeList

/-- The declarations that count, in the order of their edges. -/
def declarations (edges : EdgeList) (counts : Declaration → Bool) : List Declaration :=
  (edges.map (·.declaration)).filter counts

/-- Two snapshots hold the same declarations that count, in the same order. -/
def Agree (counts : Declaration → Bool) (left right : EdgeList) : Prop :=
  left.declarations counts = right.declarations counts

instance (counts : Declaration → Bool) (left right : EdgeList) :
    Decidable (Agree counts left right) :=
  inferInstanceAs (Decidable (left.declarations counts = right.declarations counts))

variable {edges left right : EdgeList} {counts narrower : Declaration → Bool}
  {faction target : FactionId} {stance counterpart : Stance} {stances : List Stance}

theorem touches_declaration (edge : Relationship) (stances : List Stance) (faction : FactionId) :
    edge.declaration.touches stances faction =
      (decide (edge.stance ∈ stances) && edge.involves faction) := rfl

theorem touches_of_mem (member : stance ∈ stances) (faction target : FactionId) :
    Declaration.touches ⟨faction, target, stance⟩ stances faction = true ∧
      Declaration.touches ⟨target, faction, stance⟩ stances faction = true := by
  simp [Declaration.touches, member]

/-! ## Reading declarations -/

theorem hasEdge_iff_mem_declarations (counted : counts ⟨faction, target, stance⟩ = true) :
    edges.HasEdge faction target stance ↔
      ⟨faction, target, stance⟩ ∈ edges.declarations counts := by
  rw [declarations, List.mem_filter, List.mem_map, and_iff_left counted]
  simp only [HasEdge, Relationship.declaration, Declaration.mk.injEq]

theorem targets_eq_map_declarations (edges : EdgeList) (faction : FactionId) (stance : Stance) :
    edges.targets faction stance =
      (edges.declarations fun declaration =>
        declaration.stance = stance && declaration.faction = faction).map (·.target) := by
  rw [targets, outgoingOfStance, outgoing, List.filter_filter, declarations, List.filter_map,
    List.map_map]
  rfl

theorem atWarWith_eq_map_declarations (edges : EdgeList) (faction : FactionId) :
    edges.atWarWith faction =
      ((edges.declarations (·.touches [.atWar] faction)).map (·.otherEnd faction)).eraseDups := by
  have same : (fun edge : Relationship => edge.stance = .atWar && edge.involves faction) =
      fun edge => edge.declaration.touches [.atWar] faction := by
    funext edge
    simp only [touches_declaration, List.mem_singleton]
  rw [atWarWith, same, declarations, List.filter_map, List.map_map]
  rfl

/-- The declarations of a narrower kind are found among those of a wider one. -/
theorem declarations_of_narrower
    (within : ∀ declaration, narrower declaration = true → counts declaration = true) :
    edges.declarations narrower = (edges.declarations counts).filter narrower := by
  rw [declarations, declarations, List.filter_filter]
  refine List.filter_congr fun declaration _ => ?_
  rw [Bool.eq_iff_iff, Bool.and_eq_true]
  exact ⟨fun narrow => ⟨narrow, within declaration narrow⟩, And.left⟩

/-! ## Snapshots that agree -/

namespace Agree

section

variable (agree : Agree counts left right)

include agree

theorem narrow (within : ∀ declaration, narrower declaration = true → counts declaration = true) :
    Agree narrower left right := by
  rw [Agree, declarations_of_narrower within, declarations_of_narrower within, agree]

theorem hasEdge (counted : counts ⟨faction, target, stance⟩ = true) :
    left.HasEdge faction target stance ↔ right.HasEdge faction target stance := by
  rw [hasEdge_iff_mem_declarations counted, hasEdge_iff_mem_declarations counted, agree]

theorem records (counted : counts ⟨faction, target, stance⟩ = true) :
    left.records faction target stance = right.records faction target stance := by
  rw [Bool.eq_iff_iff, records_iff_hasEdge, records_iff_hasEdge]
  exact agree.hasEdge counted

theorem targets (counted : ∀ target, counts ⟨faction, target, stance⟩ = true) :
    left.targets faction stance = right.targets faction stance := by
  have outgoing : Agree (fun declaration =>
      declaration.stance = stance && declaration.faction = faction) left right := by
    apply agree.narrow
    rintro ⟨own, target, held⟩ outgoing
    simp only [Bool.and_eq_true, decide_eq_true_eq] at outgoing
    rcases outgoing with ⟨rfl, rfl⟩
    exact counted target
  rw [targets_eq_map_declarations, targets_eq_map_declarations, outgoing]

theorem confirmed (answered : stance.reciprocal = some counterpart)
    (counted : ∀ target, counts ⟨faction, target, stance⟩ = true)
    (countedBack : ∀ target, counts ⟨target, faction, counterpart⟩ = true) :
    left.confirmed faction stance = right.confirmed faction stance := by
  have acknowledged : (left.records · faction counterpart) =
      (right.records · faction counterpart) :=
    funext fun target => agree.records (countedBack target)
  rw [confirmed_eq_filter_targets answered, confirmed_eq_filter_targets answered,
    agree.targets counted, acknowledged]

theorem liegeOf (counted : ∀ target, counts ⟨faction, target, .liege⟩ = true)
    (countedBack : ∀ target, counts ⟨target, faction, .vassal⟩ = true) :
    left.liegeOf faction = right.liegeOf faction := by
  have claims : left.liegeClaims faction = right.liegeClaims faction := agree.targets counted
  apply Option.ext
  intro liege
  rw [liegeOf_eq_some_iff, liegeOf_eq_some_iff, claims, agree.hasEdge (countedBack liege)]

end

/-! ## Questions about one faction -/

theorem alliances (agree : Agree (·.touches [.ally] faction) left right) :
    left.alliesOf faction = right.alliesOf faction ∧
      ∀ other, left.areAllied faction other = right.areAllied faction other := by
  have touching := touches_of_mem (List.mem_singleton_self Stance.ally) faction
  constructor
  · exact agree.confirmed rfl (fun target => (touching target).1) fun target => (touching target).2
  · intro other
    rw [areAllied, areAllied, agree.records (touching other).1, agree.records (touching other).2]

theorem wars (agree : Agree (·.touches [.atWar] faction) left right) :
    left.atWarWith faction = right.atWarWith faction ∧
      ∀ other, left.isAtWar faction other = right.isAtWar faction other := by
  have touching := touches_of_mem (List.mem_singleton_self Stance.atWar) faction
  constructor
  · rw [atWarWith_eq_map_declarations, atWarWith_eq_map_declarations, agree]
  · intro other
    rw [isAtWar, isAtWar, agree.records (touching other).1, agree.records (touching other).2]

theorem fealties (agree : Agree (·.touches [.vassal, .liege] faction) left right) :
    left.vassalsOf faction = right.vassalsOf faction ∧
      left.liegeClaims faction = right.liegeClaims faction ∧
      left.liegeOf faction = right.liegeOf faction := by
  have vassal := touches_of_mem (by decide : Stance.vassal ∈ [.vassal, .liege]) faction
  have liege := touches_of_mem (by decide : Stance.liege ∈ [.vassal, .liege]) faction
  refine ⟨?vassals, ?claims, ?liege⟩
  case vassals =>
    exact agree.confirmed rfl (fun target => (vassal target).1) fun target => (liege target).2
  case claims => exact agree.targets fun target => (liege target).1
  case liege =>
    exact agree.liegeOf (fun target => (liege target).1) fun target => (vassal target).2

end Agree

end EdgeList

end Diplomacy
