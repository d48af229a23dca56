import Diplomacy.Proofs.EdgeList.Relevance
import Diplomacy.Proofs.Hierarchy.Correspondence

/-!
What a hierarchy reads of a snapshot. A derivation asks for the vassals or the
lieges of one faction after the other and looks at nothing else, so it depends on
the edges of vassalage, on all of them, and on no other edges.
-/

namespace Diplomacy.Hierarchy

variable {left right : EdgeList}

theorem visit_congr (same : ∀ faction, left.vassalsOf faction = right.vassalsOf faction)
    (limits : Limits) (levels : Nat) : visit left limits levels = visit right limits levels := by
  induction levels with
  | zero =>
      funext faction progress
      rw [visit, visit, same]
  | succ levels induction =>
      funext faction progress
      rw [visit, visit, same, induction]

theorem climb_congr
    (same : ∀ faction audit, left.auditedLiegeOf faction audit = right.auditedLiegeOf faction audit)
    (limits : Limits) (start : FactionId) (levels : Nat) (below : List FactionId)
    (current : FactionId) :
    climb left limits start levels below current =
      climb right limits start levels below current := by
  fun_induction climb left limits start levels below current with
  | case1 levels below current audit audited =>
      rw [same] at audited
      rw [climb.eq_def]
      simp only [audited]
  | case2 below current audit liege levels seen audited =>
      rw [same] at audited
      rw [climb.eq_def]
      simp only [audited, if_pos seen]
  | case3 below current audit liege fresh audited =>
      rw [same] at audited
      rw [climb.eq_def]
      simp only [audited, if_neg fresh]
  | case4 below current audit liege fresh levels lieges warnings climbed audited induction =>
      rw [same] at audited
      rw [climb.eq_def]
      simp only [audited, if_neg fresh, ← induction, climbed]

/-- A hierarchy looks at nothing but vassals, lieges and claimed lieges. -/
theorem hierarchies_congr
    (same : ∀ faction, left.vassalsOf faction = right.vassalsOf faction ∧
      left.liegeClaims faction = right.liegeClaims faction ∧
      left.liegeOf faction = right.liegeOf faction)
    (limits : Limits) (root : FactionId) :
    vassalTree left limits root = vassalTree right limits root ∧
      liegeChain left limits root = liegeChain right limits root := by
  have audited : ∀ faction audit,
      left.auditedLiegeOf faction audit = right.auditedLiegeOf faction audit := by
    intro faction audit
    rcases same faction with ⟨_, claims, lieges⟩
    rw [EdgeList.auditedLiegeOf, EdgeList.auditedLiegeOf, EdgeList.liegeAudit,
      EdgeList.liegeAudit, claims, lieges]
  constructor
  · rw [vassalTree, vassalTree, visit_congr fun faction => (same faction).1]
  · rw [liegeChain, liegeChain, climb_congr audited]

/-- Each question about a faction is answered from the edges of its own stances that
touch the faction, and a hierarchy from the edges of vassalage. -/
theorem answers_depend_on_own_edges (left right : EdgeList) (faction : FactionId) :
    (EdgeList.Agree (·.touches [.ally] faction) left right →
        left.alliesOf faction = right.alliesOf faction ∧
          ∀ other, left.areAllied faction other = right.areAllied faction other) ∧
      (EdgeList.Agree (·.touches [.atWar] faction) left right →
        left.atWarWith faction = right.atWarWith faction ∧
          ∀ other, left.isAtWar faction other = right.isAtWar faction other) ∧
      (EdgeList.Agree (·.touches [.vassal, .liege] faction) left right →
        left.vassalsOf faction = right.vassalsOf faction ∧
          left.liegeClaims faction = right.liegeClaims faction ∧
          left.liegeOf faction = right.liegeOf faction) ∧
      (EdgeList.Agree (·.stance ∈ [.vassal, .liege]) left right →
        ∀ limits root,
          vassalTree left limits root = vassalTree right limits root ∧
            liegeChain left limits root = liegeChain right limits root) := by
  refine ⟨EdgeList.Agree.alliances, EdgeList.Agree.wars, EdgeList.Agree.fealties, ?_⟩
  intro agree
  apply hierarchies_congr
  intro faction
  apply EdgeList.Agree.fealties
  apply agree.narrow
  intro declaration touching
  exact (Bool.and_eq_true_iff.mp touching).1

/-- The records of a court where the crown has an ally and an enemy. -/
def embassy : EdgeList :=
  court ++
    [.declare ⟨40, by decide⟩ crown duke .ally, .declare ⟨41, by decide⟩ duke crown .ally,
     .declare ⟨42, by decide⟩ earl crown .atWar]

/-- The same declarations by other records, each committed once, and among them two
that do not touch the crown. -/
def laterEmbassy : EdgeList :=
  .declare ⟨43, by decide⟩ duke earl .ally ::
    (embassy.map fun edge => { edge with id := ⟨45, by decide⟩, version := ⟨1, by decide⟩ }) ++
      [.declare ⟨44, by decide⟩ duke earl .atWar]

theorem crown_is_answered_alike :
    let limits : Limits := { maxDepth := 2, maxNodes := 5, warnOnMultipleLieges := true }
    embassy.alliesOf crown = [duke] ∧
      (embassy.alliesOf crown = laterEmbassy.alliesOf crown ∧
        ∀ other, embassy.areAllied crown other = laterEmbassy.areAllied crown other) ∧
      (embassy.atWarWith crown = laterEmbassy.atWarWith crown ∧
        ∀ other, embassy.isAtWar crown other = laterEmbassy.isAtWar crown other) ∧
      (embassy.vassalsOf crown = laterEmbassy.vassalsOf crown ∧
        embassy.liegeClaims crown = laterEmbassy.liegeClaims crown ∧
        embassy.liegeOf crown = laterEmbassy.liegeOf crown) ∧
      vassalTree embassy limits crown = vassalTree laterEmbassy limits crown ∧
      liegeChain embassy limits crown = liegeChain laterEmbassy limits crown := by
  intro limits
  rcases answers_depend_on_own_edges embassy laterEmbassy crown with
    ⟨allied, enemies, fealty, hierarchies⟩
  exact ⟨by decide, allied (by decide), enemies (by decide), fealty (by decide),
    hierarchies (by decide) limits crown⟩

end Diplomacy.Hierarchy
