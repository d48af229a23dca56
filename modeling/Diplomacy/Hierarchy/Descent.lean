import Diplomacy.EdgeList.Reciprocity
import Diplomacy.Hierarchy.Limits
import Diplomacy.Hierarchy.VassalTree

/-!
The vassal tree of a faction. The recorded edges promise no acyclicity, so a
vassal that already stands above is kept as a leaf, and no level beyond the
depth limit is entered. A faction with several lieges is expanded under each of
them, so the number of nodes is bounded as well: once the budget is spent, no
further vassal is attached anywhere.

The unfolding is the tree without a budget. It is a plain recursion, and what
the bounded descent produces is measured against it.
-/

namespace Diplomacy.Hierarchy

structure Progress where
  /-- The factions above the place where the descent is, each once, nearest first. -/
  path : List FactionId
  nodes : Nat
  budgetReported : Bool
  /-- The warnings raised, in order. -/
  warnings : List Warning
deriving DecidableEq

namespace Progress

def start : Progress := { path := [], nodes := 0, budgetReported := false, warnings := [] }

variable (progress : Progress)

def attach : Progress := { progress with nodes := progress.nodes + 1 }

def warn (warning : Warning) : Progress :=
  { progress with warnings := progress.warnings ++ [warning] }

def enter (faction : FactionId) : Progress :=
  { progress with path := progress.path.insert faction }

def leave (faction : FactionId) : Progress :=
  { progress with path := progress.path.filter (· ≠ faction) }

/-- The budget keeps a vassal of a faction out; only the first time is reported. -/
def spent (faction : FactionId) (maxNodes : Nat) : Progress :=
  if progress.budgetReported then progress
  else { progress.warn (.treeBudget faction maxNodes) with budgetReported := true }

@[simp] theorem path_attach : progress.attach.path = progress.path := rfl

@[simp] theorem path_warn (warning : Warning) : (progress.warn warning).path = progress.path := rfl

@[simp] theorem path_spent (faction : FactionId) (maxNodes : Nat) :
    (progress.spent faction maxNodes).path = progress.path := by
  unfold spent
  split <;> rfl

variable {progress} {faction : FactionId}

theorem path_enter (fresh : faction ∉ progress.path) :
    (progress.enter faction).path = faction :: progress.path :=
  List.insert_of_not_mem fresh

theorem path_attach_enter (fresh : faction ∉ progress.path) :
    (progress.attach.enter faction).path = faction :: progress.path :=
  path_enter fresh

/-- Coming back undoes going below, unless the faction was on the path before. -/
theorem leave_enter (fresh : faction ∉ progress.path) :
    (progress.enter faction).leave faction = progress := by
  have kept : (faction :: progress.path).filter (· ≠ faction) = progress.path := by
    rw [List.filter_cons_of_neg (by simp), List.filter_eq_self]
    intro other member
    exact decide_eq_true fun same => fresh (same ▸ member)
  rw [leave, path_enter fresh, kept]
  rfl

end Progress

/-- Attach vassals of a faction one by one until the budget is spent. A vassal
that stands above already becomes a leaf, any other one is handed to `visit`. -/
def attachEach (visit : FactionId → Progress → VassalTree × Progress) (maxNodes : Nat)
    (faction : FactionId) : List FactionId → Progress → List VassalTree × Progress
  | [], progress => ([], progress)
  | vassal :: vassals, progress =>
      if maxNodes ≤ progress.nodes then ([], progress.spent faction maxNodes)
      else
        let (tree, progress) :=
          if vassal ∈ progress.path then
            (.leaf vassal, (progress.warn (.treeCycle faction vassal)).attach)
          else visit vassal progress
        let (trees, progress) := attachEach visit maxNodes faction vassals progress
        (tree :: trees, progress)

/-- The tree of a faction with at most `levels` further levels. -/
def visit (edges : EdgeList) (limits : Limits) : (levels : Nat) → FactionId → Progress →
    VassalTree × Progress
  | 0, faction, progress =>
      if (edges.vassalsOf faction).isEmpty then (.leaf faction, progress.attach)
      else (.leaf faction, progress.attach.warn (.treeDepth faction limits.maxDepth))
  | levels + 1, faction, progress =>
      let (trees, progress) :=
        attachEach (visit edges limits levels) limits.maxNodes faction
          (edges.vassalsOf faction) (progress.attach.enter faction)
      (.node faction trees, progress.leave faction)

/-- The vassal tree of a faction and the warnings raised while deriving it. -/
def vassalTree (edges : EdgeList) (limits : Limits) (root : FactionId) :
    VassalTree × List Warning :=
  let (tree, progress) := visit edges limits limits.maxDepth root .start
  (tree, progress.warnings)

/-- The tree of a faction below the factions of `path`, without a budget: a
leaf where the faction is on the path already or no level is left, otherwise
the faction over the unfoldings of all its vassals. -/
def unfold (edges : EdgeList) : (levels : Nat) → (path : List FactionId) → FactionId → VassalTree
  | 0, _, faction => .leaf faction
  | levels + 1, path, faction =>
      if faction ∈ path then .leaf faction
      else
        .node faction ((edges.vassalsOf faction).map (unfold edges levels (faction :: path)))

end Diplomacy.Hierarchy
