import Mathlib.Data.List.Forall2
import Mathlib.Data.List.Nodup
import Mathlib.Data.List.Perm.Subperm
import Diplomacy.Proofs.Hierarchy.Pruning

/-!
The places of a tree. A faction may occur in a tree more than once, so that a
node is told by its place: its lineage leads from its own faction, by the one
above it, up to the root. The places are listed in pre-order, and what is listed
of a tree, counted in it or looked for is read off from them.
-/

namespace Diplomacy.VassalTree

/-- A node of a tree: the factions above it, nearest first, and the tree that
is rooted at it. -/
structure Place where
  above : List FactionId
  tree : VassalTree

namespace Place

variable (place : Place)

def faction : FactionId := place.tree.faction

/-- The factions from the one at a place up to the root. -/
def lineage : List FactionId := place.faction :: place.above

end Place

mutual

/-- The places of a tree in pre-order, the root standing below `above`. -/
def placesFrom (above : List FactionId) : VassalTree → List Place
  | .node faction vassals =>
      { above, tree := .node faction vassals } :: placesOfAll (faction :: above) vassals

def placesOfAll (above : List FactionId) : List VassalTree → List Place
  | [] => []
  | tree :: trees => tree.placesFrom above ++ placesOfAll above trees

end

def places (tree : VassalTree) : List Place := tree.placesFrom []

theorem mem_placesOfAll_iff {above : List FactionId} {trees : List VassalTree} {place : Place} :
    place ∈ placesOfAll above trees ↔ ∃ tree ∈ trees, place ∈ tree.placesFrom above := by
  induction trees with
  | nil => simp [placesOfAll]
  | cons tree trees induction => simp [placesOfAll, induction]

/-! ## What is read off from the places -/

mutual

theorem preorderFrom_eq_map_places (above : List FactionId) : ∀ tree : VassalTree,
    tree.preorderFrom above.length =
      (tree.placesFrom above).map fun place => (place.above.length, place.faction)
  | .node faction vassals => by
      rw [preorderFrom, placesFrom, List.map_cons]
      exact congrArg _ (preordersFrom_eq_map_places (faction :: above) vassals)

theorem preordersFrom_eq_map_places (above : List FactionId) : ∀ trees : List VassalTree,
    preordersFrom above.length trees =
      (placesOfAll above trees).map fun place => (place.above.length, place.faction)
  | [] => rfl
  | tree :: trees => by
      rw [preordersFrom, placesOfAll, List.map_append, preorderFrom_eq_map_places above tree,
        preordersFrom_eq_map_places above trees]

end

mutual

/-- Which factions are listed does not depend on the depth of the root. -/
theorem map_snd_preorderFrom (left right : Nat) : ∀ tree : VassalTree,
    (tree.preorderFrom left).map (·.2) = (tree.preorderFrom right).map (·.2)
  | .node faction vassals => by
      rw [preorderFrom, preorderFrom, List.map_cons, List.map_cons,
        map_snd_preordersFrom (left + 1) (right + 1) vassals]

theorem map_snd_preordersFrom (left right : Nat) : ∀ trees : List VassalTree,
    (preordersFrom left trees).map (·.2) = (preordersFrom right trees).map (·.2)
  | [] => rfl
  | tree :: trees => by
      rw [preordersFrom, preordersFrom, List.map_append, List.map_append,
        map_snd_preorderFrom left right tree, map_snd_preordersFrom left right trees]

end

theorem preordersFrom_append (depth : Nat) (left right : List VassalTree) :
    preordersFrom depth (left ++ right) =
      preordersFrom depth left ++ preordersFrom depth right := by
  induction left with
  | nil => rfl
  | cons tree trees induction =>
      rw [List.cons_append, preordersFrom, preordersFrom, induction, List.append_assoc]

/-- Draining pending trees lists them in pre-order, one after the other. -/
theorem drain_eq_map_preorders (depth : Nat) (pending : List VassalTree) :
    drain pending = (preordersFrom depth pending).map (·.2) := by
  induction pending using drain.induct with
  | case1 => rw [drain]; rfl
  | case2 faction vassals rest induction =>
      rw [drain, induction, preordersFrom_append, preordersFrom, preorderFrom, List.map_append,
        List.map_append, List.map_cons, map_snd_preordersFrom (depth + 1) depth vassals]
      rfl

theorem factions_eq_map_preorder (tree : VassalTree) :
    tree.factions = tree.preorder.map (·.2) := by
  rw [factions, drain_eq_map_preorders 0, preordersFrom, preordersFrom, List.append_nil, preorder]

theorem factions_eq_map_places (tree : VassalTree) :
    tree.factions = tree.places.map (·.faction) := by
  have preorder : tree.preorder =
      tree.places.map fun place => (place.above.length, place.faction) :=
    preorderFrom_eq_map_places [] tree
  rw [factions_eq_map_preorder, preorder, List.map_map]
  rfl

mutual

theorem contains_iff (wanted : FactionId) (above : List FactionId) : ∀ tree : VassalTree,
    tree.contains wanted = true ↔ ∃ place ∈ tree.placesFrom above, place.faction = wanted
  | .node faction vassals => by
      rw [contains, Bool.or_eq_true, decide_eq_true_iff, placesFrom,
        anyContains_iff wanted (faction :: above) vassals]
      simp only [List.mem_cons, or_and_right, exists_or, exists_eq_left]
      rfl

theorem anyContains_iff (wanted : FactionId) (above : List FactionId) :
    ∀ trees : List VassalTree, anyContains wanted trees = true ↔
      ∃ place ∈ placesOfAll above trees, place.faction = wanted
  | [] => by simp [anyContains, placesOfAll]
  | tree :: trees => by
      rw [anyContains, Bool.or_eq_true, contains_iff wanted above tree,
        anyContains_iff wanted above trees, placesOfAll]
      simp only [List.mem_append, or_and_right, exists_or]

end

/-- A faction occurs at most as often as there are lineages for it, where no two
places have the same lineage. -/
theorem count_factions_le {tree : VassalTree} (distinct : (tree.places.map (·.lineage)).Nodup)
    {faction : FactionId} {lineages : List (List FactionId)}
    (known : ∀ place ∈ tree.places, place.faction = faction → place.lineage ∈ lineages) :
    tree.factions.count faction ≤ lineages.length := by
  let standing := tree.places.filter (·.faction = faction)
  have nodup : (standing.map (·.lineage)).Nodup := (List.filter_sublist.map _).nodup distinct
  have included : standing.map (·.lineage) ⊆ lineages := by
    intro lineage member
    rcases List.mem_map.mp member with ⟨place, standing, rfl⟩
    rcases List.mem_filter.mp standing with ⟨listed, own⟩
    exact known place listed (of_decide_eq_true own)
  calc tree.factions.count faction
      = tree.places.countP (·.faction = faction) := by
        rw [factions_eq_map_places, List.count_eq_countP, List.countP_map]
        congr 1
    _ = (standing.map (·.lineage)).length := by
        rw [List.countP_eq_length_filter, List.length_map]
    _ ≤ lineages.length := (nodup.subperm included).length_le

mutual

theorem suffix_lineage {above : List FactionId} {place : Place} : ∀ {tree : VassalTree},
    place ∈ tree.placesFrom above → tree.faction :: above <:+ place.lineage
  | .node faction vassals, member => by
      rcases List.mem_cons.mp member with rfl | member
      · exact List.suffix_rfl
      · rcases exists_suffix_lineage member with ⟨tree, _, suffixed⟩
        exact (List.suffix_cons _ _).trans suffixed

theorem exists_suffix_lineage {above : List FactionId} {place : Place} :
    ∀ {trees : List VassalTree}, place ∈ placesOfAll above trees →
      ∃ tree ∈ trees, tree.faction :: above <:+ place.lineage
  | tree :: trees, member => by
      rcases List.mem_append.mp member with member | member
      · exact ⟨tree, List.mem_cons_self, suffix_lineage member⟩
      · rcases exists_suffix_lineage member with ⟨other, later, suffixed⟩
        exact ⟨other, List.mem_cons_of_mem _ later, suffixed⟩

end

/-- Trees side by side share no lineage, if their roots differ. -/
theorem nodup_lineages_of_all {above : List FactionId} {trees : List VassalTree}
    (siblings : (trees.map (·.faction)).Nodup)
    (each : ∀ tree ∈ trees, ((tree.placesFrom above).map (·.lineage)).Nodup) :
    ((placesOfAll above trees).map (·.lineage)).Nodup := by
  induction trees with
  | nil => exact .nil
  | cons tree trees induction =>
      rw [List.map_cons, List.nodup_cons] at siblings
      rw [placesOfAll, List.map_append, List.nodup_append]
      refine ⟨each tree List.mem_cons_self,
        induction siblings.2 fun other later => each other (List.mem_cons_of_mem _ later), ?_⟩
      intro left leftMember right rightMember same
      rcases List.mem_map.mp leftMember with ⟨place, member, rfl⟩
      rcases List.mem_map.mp rightMember with ⟨later, laterMember, rfl⟩
      rcases exists_suffix_lineage laterMember with ⟨other, sibling, suffixed⟩
      rw [← same] at suffixed
      have ends := List.suffix_of_suffix_length_le (suffix_lineage member) suffixed (Nat.le_refl _)
      have equal := (List.cons.inj (ends.eq_of_length rfl)).1
      exact siblings.1 (List.mem_map.mpr ⟨other, sibling, equal.symm⟩)

/-! ## Pruning -/

theorem length_placesFrom (above : List FactionId) (tree : VassalTree) :
    (tree.placesFrom above).length = tree.size := by
  rw [← length_preorderFrom above.length, preorderFrom_eq_map_places, List.length_map]

@[simp] theorem faction_prune (budget : Nat) : ∀ tree : VassalTree,
    (tree.prune budget).faction = tree.faction
  | .node faction vassals => by rw [prune, VassalTree.faction, VassalTree.faction]

theorem vassals_prune (budget : Nat) : ∀ tree : VassalTree,
    (tree.prune budget).vassals = pruneAll (budget - 1) tree.vassals
  | .node faction vassals => by rw [prune, VassalTree.vassals, VassalTree.vassals]

/-- A place of a pruned tree stands for one of the whole tree. -/
structure Place.Keeps (kept whole : Place) : Prop where
  above : kept.above = whole.above
  tree : ∃ budget, kept.tree = whole.tree.prune budget

theorem Place.Keeps.lineage {kept whole : Place} (keeps : kept.Keeps whole) :
    kept.lineage = whole.lineage := by
  rcases keeps.tree with ⟨budget, pruned⟩
  rw [Place.lineage, Place.lineage, keeps.above, Place.faction, pruned, faction_prune]
  rfl

mutual

/-- The places of a pruned tree are the first ones of the whole tree. -/
theorem placesFrom_prune (above : List FactionId) (budget : Nat) : ∀ tree : VassalTree,
    List.Forall₂ Place.Keeps ((tree.prune budget).placesFrom above)
      ((tree.placesFrom above).take (max 1 budget))
  | .node faction vassals => by
      have rest : max 1 budget = (budget - 1) + 1 := by omega
      rw [prune, placesFrom, placesFrom, rest, List.take_succ_cons]
      refine .cons ⟨rfl, budget, ?_⟩ (placesOfAll_pruneAll (faction :: above) (budget - 1) vassals)
      rw [prune]

theorem placesOfAll_pruneAll (above : List FactionId) (budget : Nat) :
    ∀ trees : List VassalTree,
      List.Forall₂ Place.Keeps (placesOfAll above (pruneAll budget trees))
        ((placesOfAll above trees).take budget)
  | [] => by
      rw [pruneAll, placesOfAll, List.take_nil]
      exact .nil
  | tree :: trees => by
      rw [pruneAll]
      split
      · next empty =>
          rw [empty, List.take_zero, placesOfAll]
          exact .nil
      · next some =>
          have positive : max 1 budget = budget := by omega
          have first := placesFrom_prune above budget tree
          rw [positive] at first
          rw [placesOfAll, placesOfAll, List.take_append, length_placesFrom]
          exact List.rel_append first (placesOfAll_pruneAll above (budget - tree.size) trees)

end

theorem map_lineage_prune (budget : Nat) (tree : VassalTree) :
    (tree.prune budget).places.map (·.lineage) =
      (tree.places.map (·.lineage)).take (max 1 budget) := by
  rw [← List.map_take, ← List.forall₂_eq_eq_eq, List.forall₂_map_left_iff,
    List.forall₂_map_right_iff]
  exact (placesFrom_prune [] budget tree).imp fun kept whole keeps => keeps.lineage

theorem exists_place_of_mem_prune {budget : Nat} {tree : VassalTree} {kept : Place}
    (member : kept ∈ (tree.prune budget).places) : ∃ whole ∈ tree.places, kept.Keeps whole := by
  rcases List.mem_iff_getElem.mp member with ⟨index, bound, rfl⟩
  have keeps := List.forall₂_iff_get.mp (placesFrom_prune [] budget tree)
  have within : index < ((tree.placesFrom []).take (max 1 budget)).length := keeps.1 ▸ bound
  exact ⟨_, List.mem_of_mem_take (List.getElem_mem within), keeps.2 index bound within⟩

end Diplomacy.VassalTree
