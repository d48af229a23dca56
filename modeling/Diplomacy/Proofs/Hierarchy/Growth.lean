import Mathlib.Data.List.Chain
import Diplomacy.Proofs.EdgeList.Vassalage
import Diplomacy.Proofs.Hierarchy.Descent
import Diplomacy.Proofs.Hierarchy.Lineage

/-!
Which lineages a vassal tree has. Each of them leads from vassal to liege up to
the root, is no longer than the limit on the depth allows, and names no faction
twice, except that the last vassal may stand above already and is then a leaf.
No lineage occurs twice, and as long as the budget is not spent, none is missing.
-/

namespace Diplomacy.Hierarchy

open VassalTree

/-- What holds of every place of the tree of `root`. -/
structure Grown (edges : EdgeList) (maxDepth : Nat) (root : FactionId) (place : Place) : Prop where
  descends : place.lineage.IsChain fun vassal liege => vassal ∈ edges.vassalsOf liege
  distinct : place.above.Nodup
  shallow : place.above.length ≤ maxDepth
  rooted : place.lineage.getLast? = some root
  /-- A faction that stands above already is not expanded. -/
  cut : place.faction ∈ place.above → place.tree.vassals = []

/-! ## Unfoldings -/

theorem faction_unfold (edges : EdgeList) (levels : Nat) (path : List FactionId)
    (faction : FactionId) : (unfold edges levels path faction).faction = faction := by
  cases levels with
  | zero => rfl
  | succ levels =>
      by_cases above : faction ∈ path
      · rw [unfold_of_mem edges _ above]
        rfl
      · rw [unfold_of_not_mem edges levels above]
        rfl

theorem map_faction_unfold (edges : EdgeList) (levels : Nat) (path vassals : List FactionId) :
    (vassals.map (unfold edges levels path)).map (·.faction) = vassals := by
  rw [List.map_map]
  refine (List.map_congr_left fun vassal _ => ?_).trans (List.map_id _)
  exact faction_unfold edges levels path vassal

theorem grown_unfold (edges : EdgeList) {levels maxDepth : Nat} {path : List FactionId}
    {faction root : FactionId}
    (descends : (faction :: path).IsChain fun vassal liege => vassal ∈ edges.vassalsOf liege)
    (distinct : path.Nodup) (shallow : path.length + levels ≤ maxDepth)
    (rooted : (faction :: path).getLast? = some root) :
    ∀ place ∈ (unfold edges levels path faction).placesFrom path,
      Grown edges maxDepth root place := by
  induction levels generalizing path faction with
  | zero =>
      intro place member
      rw [List.mem_singleton.mp member]
      exact ⟨descends, distinct, shallow, rooted, fun _ => rfl⟩
  | succ levels induction =>
      have within : path.length ≤ maxDepth := (Nat.le_add_right _ _).trans shallow
      intro place member
      by_cases above : faction ∈ path
      · rw [unfold_of_mem edges _ above] at member
        rw [List.mem_singleton.mp member]
        exact ⟨descends, distinct, within, rooted, fun _ => rfl⟩
      · rw [unfold_of_not_mem edges levels above] at member
        rcases List.mem_cons.mp member with rfl | member
        · exact ⟨descends, distinct, within, rooted, fun again => absurd again above⟩
        · rcases mem_placesOfAll_iff.mp member with ⟨tree, below, member⟩
          rcases List.mem_map.mp below with ⟨vassal, sworn, rfl⟩
          have deeper : (faction :: path).length + levels ≤ maxDepth := by
            rw [List.length_cons]
            omega
          exact induction (List.isChain_cons_cons.mpr ⟨sworn, descends⟩)
            (List.nodup_cons.mpr ⟨above, distinct⟩) deeper rooted place member

theorem nodup_lineages_unfold (edges : EdgeList) (levels : Nat) (path : List FactionId)
    (faction : FactionId) :
    (((unfold edges levels path faction).placesFrom path).map (·.lineage)).Nodup := by
  induction levels generalizing path faction with
  | zero => exact List.pairwise_singleton _ _
  | succ levels induction =>
      by_cases above : faction ∈ path
      · rw [unfold_of_mem edges _ above]
        exact List.pairwise_singleton _ _
      · rw [unfold_of_not_mem edges levels above, placesFrom, List.map_cons, List.nodup_cons]
        constructor
        · intro member
          rcases List.mem_map.mp member with ⟨place, member, same⟩
          rcases exists_suffix_lineage member with ⟨tree, _, suffixed⟩
          -- A place below the root has a longer lineage than the root.
          have longer := (same ▸ suffixed).length_le
          simp only [Place.lineage, List.length_cons] at longer
          omega
        · apply nodup_lineages_of_all
          · rw [map_faction_unfold]
            exact edges.nodup_vassalsOf faction
          · intro tree member
            rcases List.mem_map.mp member with ⟨vassal, _, rfl⟩
            exact induction (faction :: path) vassal

/-- An unfolding has every lineage that the depth allows. -/
theorem exists_place_of_isChain (edges : EdgeList) {levels : Nat} {above line : List FactionId}
    {faction : FactionId}
    (descends : (line ++ [faction]).IsChain fun vassal liege => vassal ∈ edges.vassalsOf liege)
    (distinct : (line ++ faction :: above).Nodup) (shallow : line.length ≤ levels) :
    ∃ place ∈ (unfold edges levels above faction).placesFrom above,
      place.lineage = line ++ faction :: above := by
  induction line using List.reverseRecOn generalizing levels above faction with
  | nil =>
      cases unfolded : unfold edges levels above faction with
      | node root vassals =>
          have own := faction_unfold edges levels above faction
          rw [unfolded] at own
          exact ⟨_, List.mem_cons_self, congrArg (· :: above) own⟩
  | append_singleton line vassal induction =>
      rw [List.length_append, List.length_singleton] at shallow
      rw [List.append_assoc] at distinct descends
      cases levels with
      | zero => omega
      | succ levels =>
          have fresh : faction ∉ above :=
            (List.nodup_cons.mp (List.nodup_append.mp (List.nodup_append.mp distinct).2.1).2.1).1
          rcases List.isChain_split.mp descends with ⟨lower, upper⟩
          rcases induction lower distinct (Nat.le_of_succ_le_succ shallow) with
            ⟨place, member, lineage⟩
          have sworn := (List.isChain_cons_cons.mp upper).1
          refine ⟨place, ?_, by rw [lineage, List.append_assoc]; rfl⟩
          rw [unfold_of_not_mem edges levels fresh]
          exact List.mem_cons_of_mem _
            (mem_placesOfAll_iff.mpr ⟨_, List.mem_map_of_mem sworn, member⟩)

/-! ## Vassal trees -/

theorem grown_vassalTree (edges : EdgeList) (limits : Limits) (root : FactionId) :
    ∀ place ∈ (vassalTree edges limits root).1.places,
      Grown edges limits.maxDepth root place := by
  intro place member
  rw [vassalTree_eq_prune] at member
  rcases exists_place_of_mem_prune member with ⟨whole, wholeMember, keeps⟩
  have grown : Grown edges limits.maxDepth root whole :=
    grown_unfold edges (.singleton root) .nil (by simp) rfl whole wholeMember
  refine ⟨keeps.lineage ▸ grown.descends, keeps.above ▸ grown.distinct,
    keeps.above ▸ grown.shallow, keeps.lineage ▸ grown.rooted, ?_⟩
  intro again
  have same : place.faction = whole.faction := (List.cons.inj keeps.lineage).1
  rw [same, keeps.above] at again
  rcases keeps.tree with ⟨budget, pruned⟩
  rw [pruned, vassals_prune, grown.cut again, pruneAll]

theorem nodup_lineages_vassalTree (edges : EdgeList) (limits : Limits) (root : FactionId) :
    ((vassalTree edges limits root).1.places.map (·.lineage)).Nodup := by
  rw [vassalTree_eq_prune, map_lineage_prune]
  exact (List.take_sublist _ _).nodup (nodup_lineages_unfold edges limits.maxDepth [] root)

end Diplomacy.Hierarchy
