import Diplomacy.Proofs.Hierarchy.Budget
import Diplomacy.Proofs.Hierarchy.Growth

/-!
What the warnings of a vassal tree tell. Each place of the tree is told about by
itself: a faction that stands above itself already, or one whose vassals are left
out because it stands at the limit on the depth. After these comes the report of a
spent budget, if the unfolding has a place that was left out for want of room. So
the warnings can be read off from the tree and the unfolding, in order, and a tree
without warnings shows all vassals of each of its factions.
-/

namespace Diplomacy.Hierarchy

open VassalTree

/-! ## What is told -/

/-- What is told about a place of a tree, if anything. -/
def cutoff? (edges : EdgeList) (limits : Limits) (place : Place) : Option Warning :=
  if place.above.contains place.faction then
    place.above.head?.map (.treeCycle · place.faction)
  else if place.above.length = limits.maxDepth ∧ edges.vassalsOf place.faction ≠ [] then
    some (.treeDepth place.faction limits.maxDepth)
  else none

/-- The report of a spent budget, given the first place that is left out. It
names the faction right above that place. -/
def overflow? (maxNodes : Nat) (leftOut : Option Place) : Option Warning :=
  leftOut.bind fun place => place.above.head?.map (.treeBudget · maxNodes)

/-- What a part of a descent tells about the places that it attached, and about
the first one that it left out. -/
structure Tells (edges : EdgeList) (limits : Limits) (progress after : Progress)
    (attached : List Place) (leftOut : Option Place) : Prop where
  warnings : after.warnings = progress.warnings ++ attached.filterMap (cutoff? edges limits) ++
    (overflow? limits.maxNodes leftOut).toList
  reported : after.budgetReported = leftOut.isSome

section

variable {edges : EdgeList} {limits : Limits} {progress between after : Progress}

theorem Tells.trans {earlier later : List Place} {leftOut : Option Place}
    (first : Tells edges limits progress between earlier none)
    (second : Tells edges limits between after later leftOut) :
    Tells edges limits progress after (earlier ++ later) leftOut where
  warnings := by
    rw [second.warnings, first.warnings, List.filterMap_append]
    simp only [overflow?, Option.bind_none, Option.toList_none, List.append_nil,
      List.append_assoc]
  reported := second.reported

theorem attachEach_of_reported {visit : FactionId → Progress → VassalTree × Progress}
    {maxNodes : Nat} (spent : maxNodes ≤ progress.nodes)
    (reported : progress.budgetReported = true) (faction : FactionId)
    (vassals : List FactionId) :
    attachEach visit maxNodes faction vassals progress = ([], progress) := by
  cases vassals with
  | nil => rfl
  | cons vassal vassals => rw [attachEach_of_spent spent, Progress.spent, if_pos reported]

/-- A leaf is told about as the one place that it has. -/
theorem tells_leaf {above : List FactionId} {faction : FactionId} {index : Nat}
    (later : 0 < index)
    (warned : after.warnings = progress.warnings ++
      (cutoff? edges limits { above, tree := leaf faction }).toList)
    (unreported : after.budgetReported = false) :
    Tells edges limits progress after ((leaf faction).placesFrom above)
      ((leaf faction).placesFrom above)[index]? := by
  have single : (leaf faction).placesFrom above = [{ above, tree := leaf faction }] := rfl
  rw [single, List.getElem?_eq_none (Nat.succ_le_of_lt later)]
  refine ⟨?_, unreported⟩
  rw [warned, List.filterMap_cons]
  cases cutoff? edges limits { above, tree := leaf faction } <;> simp [overflow?]

/-- A faction that is expanded is not told about itself. -/
theorem tells_node {above : List FactionId} {faction : FactionId} {trees ideals : List VassalTree}
    {room : Nat} (uncut : cutoff? edges limits { above, tree := .node faction trees } = none)
    (below : Tells edges limits (progress.attach.enter faction) after
      (placesOfAll (faction :: above) trees)
      (placesOfAll (faction :: above) ideals)[room - 1]?) :
    Tells edges limits progress (after.leave faction)
      ((VassalTree.node faction trees).placesFrom above)
      ((VassalTree.node faction ideals).placesFrom above)[max 1 room]? := by
  rw [placesFrom, placesFrom, show max 1 room = (room - 1) + 1 by omega, List.getElem?_cons_succ]
  refine ⟨?_, below.reported⟩
  rw [List.filterMap_cons_none uncut]
  exact below.warnings

/-! ## Descents -/

section

variable {visit : FactionId → Progress → VassalTree × Progress} {faction : FactionId}
  {above : List FactionId} {ideal : FactionId → VassalTree}
  (tells : ∀ vassal progress, progress.path = faction :: above → vassal ∉ faction :: above →
    progress.budgetReported = false →
      Tells edges limits progress (visit vassal progress).2
        ((visit vassal progress).1.placesFrom (faction :: above))
        ((ideal vassal).placesFrom (faction :: above))[max 1 (limits.maxNodes - progress.nodes)]?)
  (cyclic : ∀ vassal ∈ faction :: above, ideal vassal = .leaf vassal)

include tells cyclic

theorem tells_attachOne (vassal : FactionId) (stands : progress.path = faction :: above)
    (room : progress.nodes < limits.maxNodes) (unreported : progress.budgetReported = false) :
    Tells edges limits progress (attachOne visit faction vassal progress).2
      ((attachOne visit faction vassal progress).1.placesFrom (faction :: above))
      ((ideal vassal).placesFrom (faction :: above))[limits.maxNodes - progress.nodes]? := by
  have positive : 0 < limits.maxNodes - progress.nodes := Nat.sub_pos_of_lt room
  unfold attachOne
  split
  · next repeated =>
      rw [stands, List.contains_iff_mem] at repeated
      rw [cyclic vassal repeated]
      refine tells_leaf positive ?_ unreported
      rw [cutoff?, if_pos]
      · rfl
      · exact List.contains_iff_mem.mpr repeated
  · next fresh =>
      rw [stands, List.contains_iff_mem] at fresh
      have visited := tells vassal progress stands fresh unreported
      rwa [Nat.max_eq_right positive] at visited

variable (restores : ∀ vassal progress, vassal ∉ progress.path →
    (visit vassal progress).2.path = progress.path)
  (counts : ∀ vassal progress,
    (visit vassal progress).2.nodes = progress.nodes + (visit vassal progress).1.size)
  (follows : ∀ vassal progress, progress.path = faction :: above → vassal ∉ faction :: above →
    (visit vassal progress).1 = (ideal vassal).prune (limits.maxNodes - progress.nodes))

include restores counts follows

/-- If each visited vassal is told about up to the budget, then so are all of
them together. -/
theorem tells_attachEach (vassals : List FactionId) (progress : Progress)
    (stands : progress.path = faction :: above) (unreported : progress.budgetReported = false) :
    Tells edges limits progress (attachEach visit limits.maxNodes faction vassals progress).2
      (placesOfAll (faction :: above) (attachEach visit limits.maxNodes faction vassals progress).1)
      (placesOfAll (faction :: above) (vassals.map ideal))[limits.maxNodes - progress.nodes]? := by
  induction vassals generalizing progress with
  | nil =>
      refine ⟨?_, unreported⟩
      change progress.warnings = progress.warnings ++ [] ++ (overflow? limits.maxNodes none).toList
      simp [overflow?]
  | cons vassal vassals induction =>
      rw [List.map_cons, placesOfAll]
      rcases Nat.lt_or_ge progress.nodes limits.maxNodes with room | spent
      · have first := tells_attachOne tells cyclic vassal stands room unreported
        have pruned := attachOne_eq_prune follows cyclic faction vassal stands
        have counted := nodes_attachOne counts faction vassal progress
        have back := (path_attachOne restores faction vassal progress).trans stands
        rw [pruned, size_prune] at counted
        rw [attachEach_of_room room]
        dsimp only
        rw [placesOfAll, List.getElem?_append, length_placesFrom]
        split
        · next large =>
            -- The first tree takes all the room, and nothing is attached after it.
            rw [List.getElem?_eq_getElem (by rwa [length_placesFrom])] at first ⊢
            rw [attachEach_of_reported (by omega) first.reported, placesOfAll, List.append_nil]
            exact first
        · next small =>
            rw [List.getElem?_eq_none (by rwa [length_placesFrom, ← Nat.not_lt])] at first
            have rest := induction _ back first.reported
            rw [show limits.maxNodes - (attachOne visit faction vassal progress).2.nodes =
              limits.maxNodes - progress.nodes - (ideal vassal).size by omega] at rest
            exact first.trans rest
      · rw [attachEach_of_spent spent, Nat.sub_eq_zero_of_le spent]
        cases ideal vassal with
        | node own vassals =>
            rw [placesFrom, List.cons_append, List.getElem?_cons_zero, Progress.spent, unreported]
            exact ⟨by simp [placesOfAll, overflow?, Progress.warn], rfl⟩

end

/-- A descent tells about each place of the tree that it produces, and about the
first place of the unfolding that it left out. -/
theorem tells_visit (edges : EdgeList) (limits : Limits) {levels : Nat} {faction : FactionId}
    {progress : Progress} (fresh : faction ∉ progress.path)
    (deep : progress.path.length + levels = limits.maxDepth)
    (unreported : progress.budgetReported = false) :
    Tells edges limits progress (visit edges limits levels faction progress).2
      ((visit edges limits levels faction progress).1.placesFrom progress.path)
      ((unfold edges levels progress.path faction).placesFrom
        progress.path)[max 1 (limits.maxNodes - progress.nodes)]? := by
  have later : 0 < max 1 (limits.maxNodes - progress.nodes) := by omega
  induction levels generalizing faction progress with
  | zero =>
      rw [visit]
      split
      · next childless =>
          refine tells_leaf later ?_ unreported
          rw [cutoff?, if_neg, if_neg]
          · exact (List.append_nil _).symm
          · exact fun told => told.2 (List.isEmpty_iff.mp childless)
          · exact mt List.contains_iff_mem.mp fresh
      · next vassals =>
          refine tells_leaf later ?_ unreported
          rw [cutoff?, if_neg, if_pos]
          · rfl
          · exact ⟨deep, mt List.isEmpty_iff.mpr vassals⟩
          · exact mt List.contains_iff_mem.mp fresh
  | succ levels induction =>
      have below : Tells edges limits (progress.attach.enter faction)
          (attachEach (visit edges limits levels) limits.maxNodes faction (edges.vassalsOf faction)
            (progress.attach.enter faction)).2
          (placesOfAll (faction :: progress.path)
            (attachEach (visit edges limits levels) limits.maxNodes faction
              (edges.vassalsOf faction) (progress.attach.enter faction)).1)
          (placesOfAll (faction :: progress.path) ((edges.vassalsOf faction).map
            (unfold edges levels (faction :: progress.path))))[limits.maxNodes -
              (progress.nodes + 1)]? := by
        refine tells_attachEach ?_ ?_ (path_visit edges limits levels)
          (nodes_visit edges limits levels) ?_ _ _ (Progress.path_attach_enter fresh) unreported
        · intro vassal visiting stands freshly unreported
          have deeper : visiting.path.length + levels = limits.maxDepth := by
            rw [stands, List.length_cons]
            omega
          rw [← stands] at freshly ⊢
          exact induction freshly deeper unreported (by omega)
        · intro vassal repeated
          exact unfold_of_mem edges levels repeated
        · intro vassal visiting stands freshly
          rw [← stands] at freshly ⊢
          exact visit_eq_prune edges limits levels vassal visiting freshly
      rw [visit_succ, unfold_of_not_mem edges levels fresh]
      refine tells_node ?_ below
      rw [cutoff?, if_neg, if_neg]
      · exact fun told => absurd told.1 (show progress.path.length ≠ limits.maxDepth by omega)
      · exact mt List.contains_iff_mem.mp fresh

end

/-! ## Vassal trees -/

theorem warnings_vassalTree (edges : EdgeList) (limits : Limits) (root : FactionId) :
    (vassalTree edges limits root).2 =
      (vassalTree edges limits root).1.places.filterMap (cutoff? edges limits) ++
        (overflow? limits.maxNodes
          (unfold edges limits.maxDepth [] root).places[max 1 limits.maxNodes]?).toList := by
  have deep : Progress.start.path.length + limits.maxDepth = limits.maxDepth := Nat.zero_add _
  exact (tells_visit edges limits List.not_mem_nil deep rfl).warnings

theorem isTreeBudget_of_cutoff? {edges : EdgeList} {limits : Limits} {place : Place}
    {warning : Warning} (told : cutoff? edges limits place = some warning) :
    warning.isTreeBudget = false := by
  unfold cutoff? at told
  split at told
  · rcases Option.map_eq_some_iff.mp told with ⟨liege, _, rfl⟩
    rfl
  · split at told
    · cases told
      rfl
    · cases told

theorem countP_cutoffs (edges : EdgeList) (limits : Limits) (places : List Place) :
    (places.filterMap (cutoff? edges limits)).countP Warning.isTreeBudget = 0 := by
  rw [List.countP_eq_zero]
  intro warning member
  rcases List.mem_filterMap.mp member with ⟨place, _, raised⟩
  exact Bool.eq_false_iff.mp (isTreeBudget_of_cutoff? raised)

/-- Only the first place has nothing above it. -/
theorem exists_liege {tree : VassalTree} {index : Nat} (later : 0 < index)
    (within : index < tree.places.length) :
    ∃ liege, tree.places[index].above.head? = some liege := by
  cases tree with
  | node faction vassals =>
      rcases Nat.exists_eq_succ_of_ne_zero (Nat.ne_of_gt later) with ⟨index, rfl⟩
      have member : (VassalTree.node faction vassals).places[index + 1] ∈
          placesOfAll [faction] vassals :=
        List.getElem_mem (Nat.lt_of_succ_lt_succ within)
      rcases exists_suffix_lineage member with ⟨tree, _, suffixed⟩
      have length := suffixed.length_le
      simp only [Place.lineage, List.length_cons] at length
      have placed : (VassalTree.node faction vassals).places[index + 1].above ≠ [] :=
        List.ne_nil_of_length_pos (by omega)
      exact ⟨_, List.head?_eq_some_head placed⟩

/-- The budget is reported exactly if a place is left out, unless that is the root. -/
theorem countP_overflow? (maxNodes : Nat) (tree : VassalTree) {index : Nat} (later : 0 < index) :
    (overflow? maxNodes tree.places[index]?).toList.countP Warning.isTreeBudget =
      if index < tree.size then 1 else 0 := by
  rw [← length_placesFrom [] tree, ← places]
  split
  · next within =>
      rcases exists_liege later within with ⟨liege, stands⟩
      rw [List.getElem?_eq_getElem within]
      simp [overflow?, stands, Warning.isTreeBudget]
  · next outside =>
      rw [List.getElem?_eq_none (Nat.le_of_not_lt outside)]
      rfl

/-- A place of an unfolding shows all vassals of its faction, unless the faction
stands above itself or no level is left. -/
theorem cut_or_expanded (edges : EdgeList) {levels : Nat} {path : List FactionId}
    {faction : FactionId} :
    ∀ place ∈ (unfold edges levels path faction).placesFrom path,
      place.faction ∈ place.above ∨
        (place.above.length = path.length + levels ∧ place.tree.vassals = []) ∨
          place.tree.vassals.map (·.faction) = edges.vassalsOf place.faction := by
  induction levels generalizing path faction with
  | zero =>
      intro place member
      rw [List.mem_singleton.mp member]
      exact .inr (.inl ⟨rfl, rfl⟩)
  | succ levels induction =>
      intro place member
      by_cases above : faction ∈ path
      · rw [unfold_of_mem edges _ above] at member
        rw [List.mem_singleton.mp member]
        exact .inl above
      · rw [unfold_of_not_mem edges levels above] at member
        rcases List.mem_cons.mp member with rfl | member
        · exact .inr (.inr (map_faction_unfold edges levels (faction :: path) _))
        · rcases mem_placesOfAll_iff.mp member with ⟨tree, below, member⟩
          rcases List.mem_map.mp below with ⟨vassal, _, rfl⟩
          rw [show path.length + (levels + 1) = (faction :: path).length + levels by
            rw [List.length_cons]; omega]
          exact induction place member

/-- A place of an unfolding of which nothing is told shows all vassals of its faction. -/
theorem expanded_of_uncut {edges : EdgeList} {limits : Limits} {root : FactionId} {place : Place}
    (member : place ∈ (unfold edges limits.maxDepth [] root).places)
    (uncut : cutoff? edges limits place = none) :
    place.tree.vassals.map (·.faction) = edges.vassalsOf place.faction := by
  unfold cutoff? at uncut
  split at uncut
  · next repeated =>
      -- Something stands above a faction that is repeated, so a cycle would be told.
      rw [Option.map_eq_none_iff, List.head?_eq_none_iff] at uncut
      rw [uncut, List.contains_nil] at repeated
      cases repeated
  · next unrepeated =>
      rcases cut_or_expanded edges place member with repeated | ⟨depth, bare⟩ | expanded
      · exact absurd (List.contains_iff_mem.mpr repeated) unrepeated
      · by_contra incomplete
        rw [if_pos] at uncut
        · cases uncut
        · refine ⟨depth.trans (Nat.zero_add _), fun childless => incomplete ?_⟩
          rw [bare, childless, List.map_nil]
      · exact expanded

/-- The warnings of a vassal tree tell what was cut: first, in pre-order, about
each place where a faction stands above itself or has vassals below the limit on
the depth, and then about the budget, once, if the unfolding does not fit. A tree
without warnings shows every faction with all its vassals. -/
theorem warnings_tell_what_was_cut (edges : EdgeList) (limits : Limits) (root : FactionId) :
    let tree := (vassalTree edges limits root).1
    let warnings := (vassalTree edges limits root).2
    let whole := unfold edges limits.maxDepth [] root
    warnings = tree.places.filterMap (cutoff? edges limits) ++
        (overflow? limits.maxNodes whole.places[max 1 limits.maxNodes]?).toList ∧
      warnings.countP Warning.isTreeBudget =
        (if max 1 limits.maxNodes < whole.size then 1 else 0) ∧
      (warnings = [] → ∀ place ∈ tree.places,
        place.tree.vassals.map (·.faction) = edges.vassalsOf place.faction) := by
  intro tree warnings whole
  have told : warnings = tree.places.filterMap (cutoff? edges limits) ++
      (overflow? limits.maxNodes whole.places[max 1 limits.maxNodes]?).toList :=
    warnings_vassalTree edges limits root
  refine ⟨told, ?_, ?_⟩
  · rw [told, List.countP_append, countP_cutoffs, countP_overflow? _ _ (by omega), Nat.zero_add]
  · intro silent place member
    have complete : tree = whole :=
      vassalTree_eq_unfold edges limits root fun warning raised => by
        change warning ∈ warnings at raised
        rw [silent] at raised
        cases raised
    have uncut := (List.append_eq_nil_iff.mp (told.symm.trans silent)).1
    rw [complete] at member uncut
    exact expanded_of_uncut member (List.filterMap_eq_nil_iff.mp uncut place member)

end Diplomacy.Hierarchy
