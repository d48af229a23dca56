import Mathlib.Logic.Function.Iterate
import Diplomacy.Proofs.Hierarchy.Ascent
import Diplomacy.Proofs.Hierarchy.Lineage

/-!
Hierarchies against the lists of their factions. The factions of a tree are listed
with a stack of pending trees, turn by turn, and yet in the order of the recursion:
a faction, and then whatever its vassals give. A chain holds the same as the list
of its factions, so that folding the list and listing the chain undo each other.
-/

namespace Diplomacy

/-! ## Trees -/

namespace VassalTree

/-- What has been listed of a tree, and a stack of the trees that are to follow.
The top of the stack is its last tree. -/
structure Listing where
  listed : List FactionId
  stack : List VassalTree

/-- Take the top tree off, list its faction and push its vassals, the last one
first. Without a tree on the stack there is nothing left to do. -/
def Listing.turn (listing : Listing) : Listing :=
  match listing.stack.getLast? with
  | none => listing
  | some tree =>
      { listed := listing.listed ++ [tree.faction]
        stack := listing.stack.dropLast ++ tree.vassals.reverse }

/-- Vassals that are pushed in reverse are on top of the stack in order. -/
theorem Listing.turn_reverse (listed : List FactionId) (faction : FactionId)
    (vassals pending : List VassalTree) :
    turn { listed, stack := (node faction vassals :: pending).reverse } =
      { listed := listed ++ [faction], stack := (vassals ++ pending).reverse } := by
  simp [turn, VassalTree.faction, VassalTree.vassals]

/-- After a turn for each pending node the stack is empty. -/
theorem Listing.iterate_turn (listed : List FactionId) (pending : List VassalTree) :
    turn^[sizes pending] { listed, stack := pending.reverse } =
      { listed := listed ++ drain pending, stack := [] } := by
  induction pending using drain.induct generalizing listed with
  | case1 =>
      rw [drain, List.append_nil]
      rfl
  | case2 faction vassals rest induction =>
      have turns : sizes (node faction vassals :: rest) = sizes (vassals ++ rest) + 1 := by
        rw [sizes, size, sizes_append]
        omega
      rw [turns, Function.iterate_succ_apply, turn_reverse, induction, drain, List.append_assoc]
      rfl

theorem drain_append (left right : List VassalTree) :
    drain (left ++ right) = drain left ++ drain right := by
  rw [drain_eq_map_preorders 0, drain_eq_map_preorders 0 left, drain_eq_map_preorders 0 right,
    preordersFrom_append, List.map_append]

theorem drain_eq_flatMap (pending : List VassalTree) :
    drain pending = pending.flatMap factions := by
  induction pending with
  | nil => rw [drain, List.flatMap_nil]
  | cons tree pending induction =>
      rw [← List.singleton_append, drain_append, induction, List.singleton_append,
        List.flatMap_cons, factions]

theorem factions_node (faction : FactionId) (vassals : List VassalTree) :
    (node faction vassals).factions = faction :: vassals.flatMap factions := by
  rw [factions, drain, List.append_nil, drain_eq_flatMap]

/-- The factions of a tree are listed from a stack in the order of the recursion.
The list is as long as the tree is large, and holds what the tree contains. -/
theorem factions_are_listed_in_preorder (tree : VassalTree) :
    Listing.turn^[tree.size] { listed := [], stack := [tree] } =
        { listed := tree.factions, stack := [] } ∧
      tree.factions = tree.faction :: tree.vassals.flatMap factions ∧
      tree.factions = tree.preorder.map (·.2) ∧
      tree.factions.length = tree.size ∧
      ∀ faction, tree.contains faction = true ↔ faction ∈ tree.factions := by
  refine ⟨?_, ?_, factions_eq_map_preorder tree, ?_, ?_⟩
  · exact Listing.iterate_turn [] [tree]
  · cases tree with
    | node faction vassals => exact factions_node faction vassals
  · rw [factions_eq_map_preorder, List.length_map, preorder, length_preorderFrom]
  · intro faction
    rw [factions_eq_map_places, List.mem_map]
    exact contains_iff faction [] tree

end VassalTree

/-! ## Chains -/

namespace LiegeChain

theorem ofFactions?_cons (faction : FactionId) (factions : List FactionId) :
    ofFactions? (faction :: factions) = some (extend faction (ofFactions? factions)) := rfl

theorem ofFactions?_factions (chain : LiegeChain) : ofFactions? chain.factions = some chain := by
  induction chain with
  | top faction => rfl
  | under faction liege induction => rw [factions, ofFactions?_cons, induction, extend]

/-- Factions are folded into a chain from the outermost liege down. -/
theorem ofFactions?_eq_foldl (factions : List FactionId) :
    ofFactions? factions =
      factions.reverse.foldl (fun liege faction => some (extend faction liege)) none :=
  List.foldl_reverse.symm

theorem exists_ofFactions? (start : FactionId) (lieges : List FactionId) :
    ∃ chain, ofFactions? (start :: lieges) = some chain ∧ chain.factions = start :: lieges := by
  refine ⟨_, ofFactions?_cons start lieges, ?_⟩
  exact factions_ofFactions? (start :: lieges)

/-- Every list of factions that is not empty folds into a chain that lists it, one
shorter in depth and with the last faction outermost. Every chain comes back from
its list. The factions of a liege chain are never none, so it is always folded. -/
theorem folding_and_listing_are_inverse :
    (∀ factions, ofFactions? factions =
      factions.reverse.foldl (fun liege faction => some (extend faction liege)) none) ∧
      (∀ start lieges, ∃ chain, ofFactions? (start :: lieges) = some chain ∧
        chain.factions = start :: lieges ∧
        chain.depth + 1 = (start :: lieges).length ∧
        (start :: lieges).getLast? = some chain.outermost) ∧
      (∀ chain, ofFactions? chain.factions = some chain) ∧
      ∀ edges limits start,
        let lieges := (Hierarchy.climb edges limits start limits.maxDepth [start] start).1
        ofFactions? (start :: lieges) = some (Hierarchy.liegeChain edges limits start).1 := by
  refine ⟨ofFactions?_eq_foldl, ?_, ofFactions?_factions, ?_⟩
  · intro start lieges
    rcases exists_ofFactions? start lieges with ⟨chain, folded, listed⟩
    refine ⟨chain, folded, listed, ?_, ?_⟩
    · rw [depth, listed, List.length_cons, Nat.add_sub_cancel]
    · rw [← listed, getLast?_factions]
  · intro edges limits start lieges
    rw [← Hierarchy.factions_liegeChain, ofFactions?_factions]

end LiegeChain

end Diplomacy
