import Diplomacy.Hierarchy.VassalTree

/-!
Trees cut to a number of nodes. The nodes that are kept are the first ones in
pre-order, so a cut tree is again a tree; its root is kept even if the number
is zero.
-/

namespace Diplomacy.VassalTree

mutual

/-- The first nodes of a tree in pre-order, at most `budget` of them, and at least the root. -/
def prune (budget : Nat) : VassalTree → VassalTree
  | .node faction vassals => .node faction (pruneAll (budget - 1) vassals)

/-- The first nodes of several trees in pre-order, at most `budget` of them. -/
def pruneAll (budget : Nat) : List VassalTree → List VassalTree
  | [] => []
  | tree :: trees =>
      if budget = 0 then []
      else tree.prune budget :: pruneAll (budget - tree.size) trees

end

@[simp] theorem pruneAll_zero (trees : List VassalTree) : pruneAll 0 trees = [] := by
  cases trees <;> rfl

mutual

theorem length_preorderFrom (depth : Nat) :
    ∀ tree : VassalTree, (tree.preorderFrom depth).length = tree.size
  | .node faction vassals => by
      rw [preorderFrom, size, List.length_cons, length_preordersFrom, Nat.add_comm]

theorem length_preordersFrom (depth : Nat) :
    ∀ trees : List VassalTree, (preordersFrom depth trees).length = sizes trees
  | [] => rfl
  | tree :: trees => by
      rw [preordersFrom, sizes, List.length_append, length_preorderFrom, length_preordersFrom]

end

mutual

/-- What is kept is what comes first. -/
theorem preorderFrom_prune (depth budget : Nat) : ∀ tree : VassalTree,
    (tree.prune budget).preorderFrom depth = (tree.preorderFrom depth).take (max 1 budget)
  | .node faction vassals => by
      have rest : max 1 budget = (budget - 1) + 1 := by omega
      rw [prune, preorderFrom, preorderFrom, preordersFrom_pruneAll, rest, List.take_succ_cons]

theorem preordersFrom_pruneAll (depth budget : Nat) : ∀ trees : List VassalTree,
    preordersFrom depth (pruneAll budget trees) = (preordersFrom depth trees).take budget
  | [] => by rw [pruneAll, preordersFrom, List.take_nil]
  | tree :: trees => by
      rw [pruneAll]
      split
      · next empty => rw [empty, List.take_zero, preordersFrom]
      · next some =>
          have positive : max 1 budget = budget := by omega
          rw [preordersFrom, preordersFrom, preorderFrom_prune, preordersFrom_pruneAll,
            positive, List.take_append, length_preorderFrom]

end

theorem size_prune (budget : Nat) (tree : VassalTree) :
    (tree.prune budget).size = min (max 1 budget) tree.size := by
  rw [← length_preorderFrom 0, preorderFrom_prune, List.length_take, length_preorderFrom]

mutual

/-- A tree within the budget is kept whole. -/
theorem prune_of_size_le (budget : Nat) : ∀ tree : VassalTree,
    tree.size ≤ max 1 budget → tree.prune budget = tree
  | .node faction vassals => by
      intro small
      rw [size] at small
      rw [prune, pruneAll_of_sizes_le (budget - 1) vassals (by omega)]

theorem pruneAll_of_sizes_le (budget : Nat) : ∀ trees : List VassalTree,
    sizes trees ≤ budget → pruneAll budget trees = trees
  | [] => fun _ => by rw [pruneAll]
  | tree :: trees => by
      intro small
      rw [sizes] at small
      have positive := tree.size_pos
      have some : budget ≠ 0 := by omega
      rw [pruneAll, if_neg some, prune_of_size_le budget tree (by omega),
        pruneAll_of_sizes_le (budget - tree.size) trees (by omega)]

end

end Diplomacy.VassalTree
