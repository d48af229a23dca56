import Mathlib.Data.List.Chain
import Diplomacy.Hierarchy.Climb

/-!
Ascents: lines of lieges, each the verified liege of the one before, none of them
seen before and no more than the limit on the depth allows. A climb is an ascent,
and it is the longest one, since every other ascent from the same faction is a
part of it. So two ascents that end at the same faction are the same.
-/

namespace Diplomacy

/-! ## Chains and their factions -/

namespace LiegeChain

/-- Folding a list of factions into a chain loses nothing. -/
theorem factions_ofFactions? (factions : List FactionId) :
    (ofFactions? factions).elim [] LiegeChain.factions = factions := by
  induction factions with
  | nil => rfl
  | cons faction factions induction =>
      change (extend faction (ofFactions? factions)).factions = faction :: factions
      cases folded : ofFactions? factions with
      | none =>
          rw [folded] at induction
          rw [← induction]
          rfl
      | some chain =>
          rw [folded] at induction
          exact congrArg _ induction

theorem getLast?_factions (chain : LiegeChain) :
    chain.factions.getLast? = some chain.outermost := by
  induction chain with
  | top faction => rfl
  | under faction liege induction =>
      rw [factions, List.getLast?_cons, induction]
      rfl

end LiegeChain

namespace Hierarchy

variable {edges : EdgeList} {limits : Limits} {start current liege : FactionId}
  {levels : Nat} {below lieges : List FactionId}

/-! ## One step -/

theorem climb_of_unsworn (unsworn : edges.liegeOf current = none) :
    climb edges limits start levels below current =
      ([], (edges.auditedLiegeOf current limits.warnOnMultipleLieges).2) := by
  rw [climb.eq_def]
  simp only [EdgeList.auditedLiegeOf, unsworn]

theorem climb_of_seen (verified : edges.liegeOf current = some liege) (seen : liege ∈ below) :
    climb edges limits start levels below current =
      ([], (edges.auditedLiegeOf current limits.warnOnMultipleLieges).2 ++
        [.chainCycle current liege]) := by
  rw [climb.eq_def]
  simp only [EdgeList.auditedLiegeOf, verified, if_pos seen]

theorem climb_zero : (climb edges limits start 0 below current).1 = [] := by
  rw [climb.eq_def]
  cases verified : edges.liegeOf current with
  | none => simp only [EdgeList.auditedLiegeOf, verified]
  | some liege =>
      simp only [EdgeList.auditedLiegeOf, verified]
      split <;> rfl

theorem climb_succ (verified : edges.liegeOf current = some liege) (fresh : liege ∉ below) :
    climb edges limits start (levels + 1) below current =
      let above := climb edges limits start levels (liege :: below) liege
      (liege :: above.1,
        (edges.auditedLiegeOf current limits.warnOnMultipleLieges).2 ++ above.2) := by
  rw [climb.eq_def]
  simp only [EdgeList.auditedLiegeOf, verified, if_neg fresh]

/-! ## Ascents -/

/-- Lieges above `current`, none of which is among the factions `below`. -/
structure Ascent (edges : EdgeList) (levels : Nat) (below : List FactionId) (current : FactionId)
    (lieges : List FactionId) : Prop where
  verified : (current :: lieges).IsChain fun faction liege => edges.liegeOf faction = some liege
  distinct : lieges.Nodup
  fresh : ∀ liege ∈ lieges, liege ∉ below
  shallow : lieges.length ≤ levels

theorem Ascent.nil : Ascent edges levels below current [] :=
  ⟨.singleton current, .nil, fun _ member => (List.not_mem_nil member).elim, Nat.zero_le _⟩

theorem Ascent.cons (verified : edges.liegeOf current = some liege) (fresh : liege ∉ below)
    (ascent : Ascent edges levels (liege :: below) liege lieges) :
    Ascent edges (levels + 1) below current (liege :: lieges) where
  verified := List.isChain_cons_cons.mpr ⟨verified, ascent.verified⟩
  distinct := List.nodup_cons.mpr
    ⟨fun member => ascent.fresh liege member List.mem_cons_self, ascent.distinct⟩
  fresh other member := by
    rcases List.mem_cons.mp member with rfl | member
    · exact fresh
    · exact fun seen => ascent.fresh other member (List.mem_cons_of_mem _ seen)
  shallow := Nat.succ_le_succ ascent.shallow

theorem Ascent.of_cons (ascent : Ascent edges (levels + 1) below current (liege :: lieges)) :
    edges.liegeOf current = some liege ∧ liege ∉ below ∧
      Ascent edges levels (liege :: below) liege lieges := by
  rcases List.isChain_cons_cons.mp ascent.verified with ⟨verified, above⟩
  rcases List.nodup_cons.mp ascent.distinct with ⟨unrepeated, distinct⟩
  refine ⟨verified, ascent.fresh liege List.mem_cons_self, above, distinct, ?_,
    Nat.le_of_succ_le_succ ascent.shallow⟩
  intro other member seen
  rcases List.mem_cons.mp seen with rfl | seen
  · exact unrepeated member
  · exact ascent.fresh other (List.mem_cons_of_mem _ member) seen

theorem ascent_climb (edges : EdgeList) (limits : Limits) (start : FactionId) (levels : Nat)
    (below : List FactionId) (current : FactionId) :
    Ascent edges levels below current (climb edges limits start levels below current).1 := by
  induction levels generalizing below current with
  | zero =>
      rw [climb_zero]
      exact .nil
  | succ levels induction =>
      cases verified : edges.liegeOf current with
      | none =>
          rw [climb_of_unsworn verified]
          exact .nil
      | some liege =>
          by_cases seen : liege ∈ below
          · rw [climb_of_seen verified seen]
            exact .nil
          · rw [climb_succ verified seen]
            exact .cons verified seen (induction _ _)

theorem Ascent.isPrefix_climb (ascent : Ascent edges levels below current lieges)
    (limits : Limits) (start : FactionId) :
    lieges <+: (climb edges limits start levels below current).1 := by
  induction lieges generalizing levels below current with
  | nil => exact List.nil_prefix
  | cons liege lieges induction =>
      cases levels with
      | zero => exact absurd ascent.shallow (Nat.not_succ_le_zero _)
      | succ levels =>
          rcases ascent.of_cons with ⟨verified, fresh, rest⟩
          rw [climb_succ verified fresh]
          exact List.cons_prefix_cons.mpr ⟨rfl, induction rest⟩

/-- Lines without repetition that end alike are the same, if one of them is the
start of the other. -/
theorem eq_of_isPrefix {left right : List FactionId} {last : FactionId}
    (begins : left <+: right) (distinct : right.Nodup) (leftLast : left.getLast? = some last)
    (rightLast : right.getLast? = some last) : left = right := by
  rcases begins with ⟨rest, rfl⟩
  cases rest with
  | nil => exact (List.append_nil left).symm
  | cons faction rest =>
      rw [List.getLast?_append, List.getLast?_cons, Option.some_or] at rightLast
      have again : last ∈ faction :: rest :=
        List.mem_of_getLast? (List.getLast?_cons.trans rightLast)
      exact absurd rfl
        ((List.nodup_append.mp distinct).2.2 last (List.mem_of_getLast? leftLast) last again)

theorem Ascent.nodup (ascent : Ascent edges levels [current] current lieges) :
    (current :: lieges).Nodup :=
  List.nodup_cons.mpr
    ⟨fun member => ascent.fresh current member List.mem_cons_self, ascent.distinct⟩

theorem Ascent.unique {others : List FactionId} {last : FactionId}
    (ascent : Ascent edges levels [current] current lieges)
    (other : Ascent edges levels [current] current others)
    (ends : (current :: lieges).getLast? = some last)
    (otherEnds : (current :: others).getLast? = some last) : lieges = others := by
  -- Both are parts of one climb, under whatever limits.
  let limits : Limits := { maxDepth := levels, maxNodes := 0, warnOnMultipleLieges := false }
  have line : current :: lieges = current :: others := by
    rcases List.prefix_or_prefix_of_prefix (ascent.isPrefix_climb limits current)
        (other.isPrefix_climb limits current) with begins | begins
    · exact eq_of_isPrefix (List.cons_prefix_cons.mpr ⟨rfl, begins⟩) other.nodup ends otherEnds
    · exact (eq_of_isPrefix (List.cons_prefix_cons.mpr ⟨rfl, begins⟩) ascent.nodup otherEnds
        ends).symm
  exact (List.cons.inj line).2

/-- The factions of a liege chain: its start and what a climb from there passes. -/
theorem factions_liegeChain (edges : EdgeList) (limits : Limits) (start : FactionId) :
    (liegeChain edges limits start).1.factions =
      start :: (climb edges limits start limits.maxDepth [start] start).1 :=
  LiegeChain.factions_ofFactions?
    (start :: (climb edges limits start limits.maxDepth [start] start).1)

end Hierarchy

end Diplomacy
