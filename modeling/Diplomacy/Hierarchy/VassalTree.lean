import Diplomacy.Identifier.Basic

/-!
Vassal trees: a faction over the trees of its vassals, in query order. A tree
can be listed in pre-order with the depth of each node, and rebuilt from such a
list.
-/

namespace Diplomacy

inductive VassalTree where
  | node (faction : FactionId) (vassals : List VassalTree)

namespace VassalTree

def leaf (faction : FactionId) : VassalTree := .node faction []

instance : Inhabited VassalTree := ⟨leaf default⟩

def faction : VassalTree → FactionId
  | .node faction _ => faction

def vassals : VassalTree → List VassalTree
  | .node _ vassals => vassals

mutual

def size : VassalTree → Nat
  | .node _ vassals => 1 + sizes vassals

def sizes : List VassalTree → Nat
  | [] => 0
  | tree :: trees => tree.size + sizes trees

end

mutual

def contains (wanted : FactionId) : VassalTree → Bool
  | .node faction vassals => faction = wanted || anyContains wanted vassals

/-- Whether a faction occurs in one of several trees. -/
def anyContains (wanted : FactionId) : List VassalTree → Bool
  | [] => false
  | tree :: trees => tree.contains wanted || anyContains wanted trees

end

mutual

/-- The nodes of a tree in pre-order, with their depths, the root's being `depth`. -/
def preorderFrom (depth : Nat) : VassalTree → List (Nat × FactionId)
  | .node faction vassals => (depth, faction) :: preordersFrom (depth + 1) vassals

/-- The nodes of several trees, one tree after the other. -/
def preordersFrom (depth : Nat) : List VassalTree → List (Nat × FactionId)
  | [] => []
  | tree :: trees => tree.preorderFrom depth ++ preordersFrom depth trees

end

/-- The nodes of a tree in pre-order, with the root at depth zero. -/
def preorder (tree : VassalTree) : List (Nat × FactionId) := tree.preorderFrom 0

theorem size_pos (tree : VassalTree) : 0 < tree.size := by
  cases tree
  simp only [size]
  omega

theorem sizes_append (left right : List VassalTree) :
    sizes (left ++ right) = sizes left + sizes right := by
  induction left with
  | nil => simp [sizes]
  | cons tree trees induction => simp [sizes, induction, Nat.add_assoc]

/-- The factions of the pending trees, taken off the front one at a time: a
tree gives its faction and leaves its vassals pending before the rest. -/
def drain : (pending : List VassalTree) → List FactionId
  | [] => []
  | .node faction vassals :: rest => faction :: drain (vassals ++ rest)
termination_by pending => sizes pending
decreasing_by
  simp only [sizes_append, sizes, size]
  omega

/-- All factions of a tree in pre-order, each as often as it occurs. -/
def factions (tree : VassalTree) : List FactionId := drain [tree]

/-- A tree is never empty: it has at least its root. -/
def isEmpty (_ : VassalTree) : Bool := false

/-! ## Rebuilding -/

/-- The trees that a pre-order list starts with, all rooted at `depth`, and the
rest of the list, which is at a smaller depth. Each node takes the deeper nodes
after it as its vassals. `none` if a node is deeper than its place allows. -/
def forest? : (fuel depth : Nat) → List (Nat × FactionId) →
    Option (List VassalTree × List (Nat × FactionId))
  | 0, _, _ => none
  | _ + 1, _, [] => some ([], [])
  | fuel + 1, depth, (level, faction) :: rest =>
      if level < depth then some ([], (level, faction) :: rest)
      else if level = depth then do
        let (vassals, rest) ← forest? fuel (depth + 1) rest
        let (trees, rest) ← forest? fuel depth rest
        pure (.node faction vassals :: trees, rest)
      else none

/-- The tree with a given pre-order list. -/
def ofPreorder? (nodes : List (Nat × FactionId)) : Option VassalTree :=
  match forest? (nodes.length + 1) 0 nodes with
  | some ([tree], []) => some tree
  | _ => none

end VassalTree

end Diplomacy
