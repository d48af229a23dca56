import Mathlib.Order.Bounds.Defs
import Diplomacy.Proofs.EdgeList.Vassalage
import Diplomacy.Proofs.Hierarchy.Ascent
import Diplomacy.Proofs.Hierarchy.Descent

/-!
How far a climb gets and what is told about it. From a faction, lieges can be
counted upwards as long as there are verified ones. A liege chain has as many of
them as the depth allows without coming back to a faction, and no limits are
needed for that to end: each liege that is entered declares an edge of its own.
The warnings of a chain are the audits of its factions, one by one, and what is
told about the liege that was not entered, if its last faction has one.
-/

namespace Diplomacy

namespace EdgeList

variable (edges : EdgeList)

/-- The faction that is a number of steps above another, if there are as many
verified lieges. -/
def liegeAbove (start : FactionId) : (steps : Nat) → Option FactionId
  | 0 => some start
  | steps + 1 => (liegeAbove start steps).bind edges.liegeOf

/-- The number of `LIEGE` edges that a faction declares. -/
def liegeEdges (faction : FactionId) : Nat :=
  edges.countP fun edge => edge.faction = faction ∧ edge.stance = .liege

theorem length_liegeClaims (faction : FactionId) :
    (edges.liegeClaims faction).length = edges.liegeEdges faction := by
  rw [liegeClaims, outgoingOfStance, outgoing, List.length_map, List.filter_filter,
    ← List.countP_eq_length_filter, liegeEdges]
  simp only [and_comm, Bool.decide_and]

/-- Verified lieges declare an edge, the one that acknowledges their vassal. -/
theorem mem_declarers_of_liegeOf {edges : EdgeList} {faction liege : FactionId}
    (verified : edges.liegeOf faction = some liege) : liege ∈ edges.declarers :=
  mem_declarers_of_vassal (mem_vassalsOf_of_liegeOf verified)

end EdgeList

namespace Hierarchy

variable {edges : EdgeList} {limits : Limits} {start current liege : FactionId} {levels : Nat}
  {below lieges : List FactionId}

/-! ## What is told -/

/-- The audits of several factions: each one that declares several `LIEGE` edges
is told about, in order, if that is asked for. -/
def audits (edges : EdgeList) (limits : Limits) (factions : List FactionId) : List Warning :=
  if limits.warnOnMultipleLieges then
    (factions.filter fun faction => 1 < edges.liegeEdges faction).map fun faction =>
      .multipleLieges faction (edges.liegeEdges faction)
  else []

/-- What is told where a climb from `start` ends at `last`: why its liege, if there
is one, does not join the factions that were passed. -/
def halt? (edges : EdgeList) (limits : Limits) (start : FactionId) (passed : List FactionId)
    (last : FactionId) : Option Warning :=
  (edges.liegeOf last).map fun liege =>
    if passed.contains liege then .chainCycle last liege else .chainDepth start limits.maxDepth

theorem audits_nil (edges : EdgeList) (limits : Limits) : audits edges limits [] = [] := by
  unfold audits
  split <;> rfl

theorem audits_cons (edges : EdgeList) (limits : Limits) (faction : FactionId)
    (factions : List FactionId) :
    audits edges limits (faction :: factions) =
      (edges.auditedLiegeOf faction limits.warnOnMultipleLieges).2 ++
        audits edges limits factions := by
  rw [audits, audits, EdgeList.auditedLiegeOf]
  cases limits.warnOnMultipleLieges with
  | false => rfl
  | true =>
      rw [EdgeList.liegeAudit, EdgeList.length_liegeClaims]
      by_cases several : 1 < edges.liegeEdges faction <;> simp [several]

theorem halt?_of_unsworn {passed : List FactionId} (unsworn : edges.liegeOf current = none) :
    halt? edges limits start passed current = none := by
  rw [halt?, unsworn, Option.map_none]

theorem halt?_of_mem {passed : List FactionId} (verified : edges.liegeOf current = some liege)
    (seen : liege ∈ passed) :
    halt? edges limits start passed current = some (.chainCycle current liege) := by
  rw [halt?, verified, Option.map_some, if_pos (List.contains_iff_mem.mpr seen)]

theorem halt?_of_not_mem {passed : List FactionId} (verified : edges.liegeOf current = some liege)
    (fresh : liege ∉ passed) :
    halt? edges limits start passed current = some (.chainDepth start limits.maxDepth) := by
  rw [halt?, verified, Option.map_some, if_neg (mt List.contains_iff_mem.mp fresh)]

theorem warnings_climb (edges : EdgeList) (limits : Limits) (start : FactionId) (levels : Nat)
    (below : List FactionId) (current : FactionId) :
    (climb edges limits start levels below current).2 =
      audits edges limits (current :: (climb edges limits start levels below current).1) ++
        (halt? edges limits start
          ((climb edges limits start levels below current).1.reverse ++ below)
          ((climb edges limits start levels below current).1.getLastD current)).toList := by
  fun_induction climb edges limits start levels below current with
  | case1 levels below current audit audited =>
      rcases Prod.mk.inj audited with ⟨unsworn, -⟩
      rw [audits_cons, audited, audits_nil, List.getLastD_nil, halt?_of_unsworn unsworn]
      simp
  | case2 below current audit liege levels seen audited =>
      rcases Prod.mk.inj audited with ⟨verified, -⟩
      rw [audits_cons, audited, audits_nil, List.getLastD_nil,
        halt?_of_mem verified (List.mem_append_right _ seen)]
      simp
  | case3 below current audit liege fresh audited =>
      rcases Prod.mk.inj audited with ⟨verified, -⟩
      have unseen : liege ∉ List.reverse [] ++ below := fresh
      rw [audits_cons, audited, audits_nil, List.getLastD_nil, halt?_of_not_mem verified unseen]
      simp
  | case4 below current audit liege fresh levels lieges warnings climbed audited induction =>
      rw [climbed] at induction
      dsimp only at induction ⊢
      rw [audits_cons, audited, List.getLastD_cons, List.reverse_cons, List.append_assoc, induction,
        List.append_assoc]
      rfl

/-- A climb that passes over a new liege has used up its levels. -/
theorem length_climb_of_not_mem
    (verified : edges.liegeOf ((climb edges limits start levels below current).1.getLastD current) =
      some liege)
    (fresh : liege ∉ (climb edges limits start levels below current).1.reverse ++ below) :
    (climb edges limits start levels below current).1.length = levels := by
  fun_induction climb edges limits start levels below current with
  | case1 levels below current audit audited =>
      rcases Prod.mk.inj audited with ⟨unsworn, -⟩
      cases unsworn.symm.trans verified
  | case2 below current audit other levels seen audited =>
      rcases Prod.mk.inj audited with ⟨own, -⟩
      cases own.symm.trans verified
      exact absurd seen fresh
  | case3 below current audit other unseen audited => rfl
  | case4 below current audit other unseen levels lieges warnings climbed audited induction =>
      rw [climbed] at induction
      dsimp only at induction verified fresh ⊢
      rw [List.getLastD_cons] at verified
      rw [List.reverse_cons, List.append_assoc] at fresh
      rw [List.length_cons, induction verified fresh]

/-! ## Liege chains -/

theorem depth_liegeChain (edges : EdgeList) (limits : Limits) (start : FactionId) :
    (liegeChain edges limits start).1.depth =
      (climb edges limits start limits.maxDepth [start] start).1.length := by
  rw [LiegeChain.depth, factions_liegeChain, List.length_cons, Nat.add_sub_cancel]

theorem outermost_liegeChain (edges : EdgeList) (limits : Limits) (start : FactionId) :
    (liegeChain edges limits start).1.outermost =
      (climb edges limits start limits.maxDepth [start] start).1.getLastD start := by
  have ends := LiegeChain.getLast?_factions (liegeChain edges limits start).1
  rw [factions_liegeChain, List.getLast?_cons, ← List.getLastD_eq_getLast?] at ends
  exact (Option.some.inj ends).symm

theorem contains_factions_liegeChain (edges : EdgeList) (limits : Limits)
    (start faction : FactionId) :
    (liegeChain edges limits start).1.factions.contains faction =
      ((climb edges limits start limits.maxDepth [start] start).1.reverse ++ [start]).contains
        faction := by
  rw [factions_liegeChain, ← List.reverse_cons, List.contains_reverse]

/-- The warnings of a chain are the audits of its factions and what is told about
the liege that does not join them. -/
theorem warnings_liegeChain (edges : EdgeList) (limits : Limits) (start : FactionId) :
    (liegeChain edges limits start).2 =
      audits edges limits (liegeChain edges limits start).1.factions ++
        (halt? edges limits start (liegeChain edges limits start).1.factions
          (liegeChain edges limits start).1.outermost).toList := by
  have told := warnings_climb edges limits start limits.maxDepth [start] start
  rw [← factions_liegeChain, ← outermost_liegeChain, halt?] at told
  simp only [← contains_factions_liegeChain] at told
  exact told

/-- A chain that passes over a new liege is as deep as the limit allows. -/
theorem depth_liegeChain_of_not_mem
    (verified : edges.liegeOf (liegeChain edges limits start).1.outermost = some liege)
    (fresh : liege ∉ (liegeChain edges limits start).1.factions) :
    (liegeChain edges limits start).1.depth = limits.maxDepth := by
  rw [outermost_liegeChain] at verified
  rw [← List.contains_iff_mem, contains_factions_liegeChain, List.contains_iff_mem] at fresh
  rw [depth_liegeChain]
  exact length_climb_of_not_mem verified fresh

/-! ## How far a chain gets -/

/-- Whether lieges can be counted for a number of steps, within the limit on the
depth, and no faction comes up twice on the way. -/
structure Climbable (edges : EdgeList) (maxDepth : Nat) (start : FactionId) (steps : Nat) :
    Prop where
  present : ∀ step ≤ steps, (edges.liegeAbove start step).isSome
  distinct : ∀ later ≤ steps, ∀ earlier < later,
    edges.liegeAbove start earlier ≠ edges.liegeAbove start later
  shallow : steps ≤ maxDepth

theorem liegeAbove_of_isChain
    (verified : (start :: lieges).IsChain fun faction liege => edges.liegeOf faction = some liege)
    {step : Nat} (within : step < (start :: lieges).length) :
    edges.liegeAbove start step = some (start :: lieges)[step] := by
  induction step with
  | zero => rfl
  | succ step induction =>
      rw [EdgeList.liegeAbove, induction (Nat.lt_of_succ_lt within), Option.bind_some]
      exact List.isChain_iff_getElem.mp verified step within

theorem Ascent.climbable {maxDepth : Nat} (ascent : Ascent edges maxDepth [start] start lieges) :
    Climbable edges maxDepth start lieges.length where
  present step within := by
    rw [liegeAbove_of_isChain ascent.verified (Nat.lt_succ_of_le within)]
    rfl
  distinct later within earlier before same := by
    have bound := Nat.lt_succ_of_le within
    rw [liegeAbove_of_isChain ascent.verified (before.trans bound),
      liegeAbove_of_isChain ascent.verified bound, Option.some.injEq,
      ascent.nodup.getElem_inj_iff] at same
    exact Nat.ne_of_lt before same
  shallow := ascent.shallow

theorem map_some_factions_liegeChain (edges : EdgeList) (limits : Limits) (start : FactionId) :
    (liegeChain edges limits start).1.factions.map some =
      (List.range ((liegeChain edges limits start).1.depth + 1)).map (edges.liegeAbove start) := by
  have verified := (ascent_climb edges limits start limits.maxDepth [start] start).verified
  rw [factions_liegeChain, depth_liegeChain]
  apply List.ext_getElem
  · simp
  · intro step within counted
    rw [List.getElem_map, List.getElem_map, List.getElem_range]
    exact (liegeAbove_of_isChain verified (by simpa using within)).symm

/-- Counting the lieges of a chain leads to its outermost one. -/
theorem liegeAbove_depth_liegeChain (edges : EdgeList) (limits : Limits) (start : FactionId) :
    edges.liegeAbove start (liegeChain edges limits start).1.depth =
      some (liegeChain edges limits start).1.outermost := by
  have ends := congrArg List.getLast? (map_some_factions_liegeChain edges limits start)
  rw [List.getLast?_map, LiegeChain.getLast?_factions, List.range_succ, List.map_append,
    List.map_singleton, List.getLast?_append, List.getLast?_singleton, Option.some_or] at ends
  exact (Option.some.inj ends).symm

/-- Lieges cannot be counted further than a chain goes: the liege of its last
faction, if there is one, stands in it already or is one too many. -/
theorem Climbable.le_depth {steps : Nat} (climbable : Climbable edges limits.maxDepth start steps) :
    steps ≤ (liegeChain edges limits start).1.depth := by
  by_contra further
  have next := Nat.lt_of_not_le further
  have above : edges.liegeAbove start ((liegeChain edges limits start).1.depth + 1) =
      edges.liegeOf (liegeChain edges limits start).1.outermost := by
    rw [EdgeList.liegeAbove, liegeAbove_depth_liegeChain, Option.bind_some]
  rcases Option.isSome_iff_exists.mp (above ▸ climbable.present _ next) with ⟨liege, verified⟩
  have fresh : liege ∉ (liegeChain edges limits start).1.factions := by
    intro passed
    have counted := List.mem_map_of_mem (f := some) passed
    rw [map_some_factions_liegeChain, List.mem_map] at counted
    rcases counted with ⟨step, before, same⟩
    apply climbable.distinct _ next step (List.mem_range.mp before)
    rw [same, above, verified]
  have deepest := depth_liegeChain_of_not_mem verified fresh
  have shallow := climbable.shallow
  omega

/-- Below a liege that was not seen yet, one faction fewer can be entered. -/
theorem card_enterable_liege_lt (verified : edges.liegeOf current = some liege)
    (fresh : liege ∉ below) :
    (enterable edges (liege :: below)).card < (enterable edges below).card :=
  card_enterable_cons_lt (EdgeList.mem_declarers_of_liegeOf verified) fresh

/-- With a level for every faction that it may still enter, a climb meets no limit
on the depth. -/
theorem climb_of_enough_levels {others : Limits} {otherLevels : Nat}
    (audit : limits.warnOnMultipleLieges = others.warnOnMultipleLieges)
    (enough : (enterable edges below).card ≤ levels)
    (otherEnough : (enterable edges below).card ≤ otherLevels) :
    climb edges limits start levels below current =
      climb edges others start otherLevels below current := by
  fun_induction climb edges limits start levels below current generalizing otherLevels with
  | case1 levels below current warnings audited =>
      rcases Prod.mk.inj audited with ⟨unsworn, -⟩
      rw [climb_of_unsworn unsworn, ← audit, audited]
  | case2 below current warnings liege levels seen audited =>
      rcases Prod.mk.inj audited with ⟨verified, -⟩
      rw [climb_of_seen verified seen, ← audit, audited]
  | case3 below current warnings liege fresh audited =>
      -- The liege is still to be entered, so there is a level left.
      have fewer := card_enterable_liege_lt (Prod.mk.inj audited).1 fresh
      omega
  | case4 below current warnings liege fresh levels lieges later climbed audited induction =>
      rcases Prod.mk.inj audited with ⟨verified, -⟩
      have fewer := card_enterable_liege_lt verified fresh
      cases otherLevels with
      | zero => omega
      | succ otherLevels =>
          have above := induction (Nat.le_of_lt_succ (fewer.trans_le enough))
            (Nat.le_of_lt_succ (fewer.trans_le otherEnough))
          rw [climb_succ verified fresh, ← above, climbed, ← audit, audited]

/-- The limit on the depth makes no difference once it allows for every faction
that declares an edge. -/
theorem liegeChain_of_deep_limits (edges : EdgeList) (limits : Limits) (start : FactionId)
    {maxDepth : Nat} (deep : edges.declarers.card ≤ maxDepth) :
    liegeChain edges { limits with maxDepth } start =
      liegeChain edges { limits with maxDepth := edges.declarers.card } start := by
  have fewer : (enterable edges [start]).card ≤ edges.declarers.card :=
    Finset.card_le_card Finset.sdiff_subset
  have same : climb edges { limits with maxDepth } start maxDepth [start] start =
      climb edges { limits with maxDepth := edges.declarers.card } start edges.declarers.card
        [start] start :=
    climb_of_enough_levels rfl (fewer.trans deep) fewer
  rw [liegeChain, same]
  rfl

theorem depth_liegeChain_le (edges : EdgeList) (limits : Limits) (start : FactionId) :
    (liegeChain edges limits start).1.depth ≤ limits.maxDepth := by
  rw [depth_liegeChain]
  exact (ascent_climb edges limits start limits.maxDepth [start] start).shallow

theorem depth_liegeChain_le_card (edges : EdgeList) (limits : Limits) (start : FactionId) :
    (liegeChain edges limits start).1.depth ≤ edges.declarers.card := by
  rcases Nat.le_total limits.maxDepth edges.declarers.card with few | many
  · exact (depth_liegeChain_le edges limits start).trans few
  · have same := liegeChain_of_deep_limits edges limits start many
    exact (congrArg (·.1.depth) same).trans_le (depth_liegeChain_le edges _ start)

/-- Which lieges a climb passes does not depend on what is told about it. -/
theorem lieges_climb_of_limits (edges : EdgeList) (limits others : Limits) (start : FactionId)
    (levels : Nat) (below : List FactionId) (current : FactionId) :
    (climb edges limits start levels below current).1 =
      (climb edges others start levels below current).1 := by
  have begins := (ascent_climb edges limits start levels below current).isPrefix_climb others start
  have covers := (ascent_climb edges others start levels below current).isPrefix_climb limits start
  exact begins.eq_of_length_le covers.length_le

/-- A liege chain is the longest line of verified lieges that the limit on the
depth allows and that names no faction twice, whether or not its factions are
audited. It ends without a limit as well. Its warnings are the audits that were
asked for and, if its last faction has a liege, why that one does not join it. -/
theorem liegeChain_is_longest_audited_climb (edges : EdgeList) (limits : Limits)
    (start : FactionId) :
    let chain := (liegeChain edges limits start).1
    let warnings := (liegeChain edges limits start).2
    chain.factions.map some = (List.range (chain.depth + 1)).map (edges.liegeAbove start) ∧
      IsGreatest {steps | Climbable edges limits.maxDepth start steps} chain.depth ∧
      (∀ audit, (liegeChain edges { limits with warnOnMultipleLieges := audit } start).1 = chain) ∧
      (chain.depth ≤ edges.declarers.card ∧
        ∀ maxDepth, edges.declarers.card ≤ maxDepth →
          liegeChain edges { limits with maxDepth } start =
            liegeChain edges { limits with maxDepth := edges.declarers.card } start) ∧
      warnings = audits edges limits chain.factions ++
        (halt? edges limits start chain.factions chain.outermost).toList ∧
      ∀ liege, edges.liegeOf chain.outermost = some liege → liege ∉ chain.factions →
        chain.depth = limits.maxDepth := by
  intro chain warnings
  refine ⟨map_some_factions_liegeChain edges limits start, ⟨?_, ?_⟩, ?_,
    ⟨depth_liegeChain_le_card edges limits start, ?_⟩, warnings_liegeChain edges limits start, ?_⟩
  · have ascent := ascent_climb edges limits start limits.maxDepth [start] start
    exact (depth_liegeChain edges limits start).symm ▸ ascent.climbable
  · exact fun steps climbable => climbable.le_depth
  · intro audit
    have same := lieges_climb_of_limits edges { limits with warnOnMultipleLieges := audit } limits
      start limits.maxDepth [start] start
    exact congrArg (fun lieges => (LiegeChain.ofFactions? (start :: lieges)).getD (.top start)) same
  · exact fun maxDepth deep => liegeChain_of_deep_limits edges limits start deep
  · exact fun liege verified fresh => depth_liegeChain_of_not_mem verified fresh

end Hierarchy

end Diplomacy
