import Mathlib.Data.Finset.Card
import Mathlib.Data.Finset.Dedup
import Diplomacy.Hierarchy.Descent
import Diplomacy.Proofs.Hierarchy.Pruning

/-!
The bounded descent against the unfolding. A descent comes back to the path it
started from and counts every node that it attaches, so the room that is left
at a faction depends on the sizes of the trees before it alone: what the
descent produces is the unfolding, pruned to the node budget.

A faction is only entered if it declares an edge and is not on the path yet. So
a descent nests no deeper than there are such factions, whatever the limits are.
-/

namespace Diplomacy

/-- The factions that declare an edge. -/
def EdgeList.declarers (edges : EdgeList) : Finset FactionId :=
  (edges.map (·.faction)).toFinset

theorem EdgeList.mem_declarers_of_vassal {edges : EdgeList} {faction vassal : FactionId}
    (member : vassal ∈ edges.vassalsOf faction) : faction ∈ edges.declarers := by
  rw [EdgeList.vassalsOf, EdgeList.confirmed, List.mem_eraseDups, List.mem_map] at member
  rcases member with ⟨edge, acknowledged, _⟩
  have recorded := EdgeList.mem_outgoingOfStance.mp (List.mem_filter.mp acknowledged).1
  rw [EdgeList.declarers, List.mem_toFinset, List.mem_map]
  exact ⟨edge, recorded.1, recorded.2.1⟩

namespace Hierarchy

namespace Progress

variable (progress : Progress) (faction : FactionId)

@[simp] theorem nodes_attach : progress.attach.nodes = progress.nodes + 1 := rfl

@[simp] theorem nodes_warn (warning : Warning) :
    (progress.warn warning).nodes = progress.nodes := rfl

@[simp] theorem nodes_enter : (progress.enter faction).nodes = progress.nodes := rfl

@[simp] theorem nodes_leave : (progress.leave faction).nodes = progress.nodes := rfl

@[simp] theorem nodes_spent (maxNodes : Nat) :
    (progress.spent faction maxNodes).nodes = progress.nodes := by
  unfold spent
  split <;> rfl

end Progress

/-! ## One vassal after the other -/

/-- Attach one vassal of a faction, for which there is room. -/
def attachOne (visit : FactionId → Progress → VassalTree × Progress) (faction vassal : FactionId)
    (progress : Progress) : VassalTree × Progress :=
  if progress.path.contains vassal then
    (.leaf vassal, (progress.warn (.treeCycle faction vassal)).attach)
  else visit vassal progress

section

variable {visit : FactionId → Progress → VassalTree × Progress} {maxNodes : Nat}
  {faction vassal : FactionId} {vassals : List FactionId} {progress : Progress}

theorem attachEach_of_spent (spent : maxNodes ≤ progress.nodes) :
    attachEach visit maxNodes faction (vassal :: vassals) progress =
      ([], progress.spent faction maxNodes) :=
  if_pos spent

theorem attachEach_of_room (room : progress.nodes < maxNodes) :
    attachEach visit maxNodes faction (vassal :: vassals) progress =
      let first := attachOne visit faction vassal progress
      let rest := attachEach visit maxNodes faction vassals first.2
      (first.1 :: rest.1, rest.2) := by
  apply (if_neg (Nat.not_le.mpr room)).trans
  simp only [attachOne, List.contains_iff_mem]

/-- Attaching the vassals of a faction, one comes to a certain one of them while
there is room, with the progress made by then. -/
inductive ComesTo (visit : FactionId → Progress → VassalTree × Progress) (maxNodes : Nat)
    (faction : FactionId) :
    (vassals : List FactionId) → Progress → (sought : FactionId) → (reached : Progress) → Prop where
  | first {vassal : FactionId} {vassals : List FactionId} {progress : Progress}
      (room : progress.nodes < maxNodes) :
      ComesTo visit maxNodes faction (vassal :: vassals) progress vassal progress
  | after {vassal sought : FactionId} {vassals : List FactionId} {progress reached : Progress}
      (room : progress.nodes < maxNodes)
      (comes : ComesTo visit maxNodes faction vassals
        (attachOne visit faction vassal progress).2 sought reached) :
      ComesTo visit maxNodes faction (vassal :: vassals) progress sought reached

theorem ComesTo.room {sought : FactionId} {reached : Progress}
    (comes : ComesTo visit maxNodes faction vassals progress sought reached) :
    reached.nodes < maxNodes := by
  induction comes with
  | first room => exact room
  | after _ _ induction => exact induction

theorem ComesTo.mem {sought : FactionId} {reached : Progress}
    (comes : ComesTo visit maxNodes faction vassals progress sought reached) :
    sought ∈ vassals := by
  induction comes with
  | first _ => exact List.mem_cons_self
  | after _ _ induction => exact List.mem_cons_of_mem _ induction

/-- The tree of a visit that one comes to is attached. -/
theorem ComesTo.visit_mem {sought : FactionId} {reached : Progress}
    (comes : ComesTo visit maxNodes faction vassals progress sought reached)
    (fresh : sought ∉ reached.path) :
    (visit sought reached).1 ∈ (attachEach visit maxNodes faction vassals progress).1 := by
  induction comes with
  | @first vassal vassals progress room =>
      rw [attachEach_of_room room, attachOne, if_neg (mt List.contains_iff_mem.mp fresh)]
      exact List.mem_cons_self
  | after room _ induction =>
      rw [attachEach_of_room room]
      exact List.mem_cons_of_mem _ (induction fresh)

/-- What is attached depends only on the visits of the vassals that one comes to
and that do not stand above already. -/
theorem attachEach_congr {other : FactionId → Progress → VassalTree × Progress}
    (agree : ∀ sought reached, ComesTo visit maxNodes faction vassals progress sought reached →
      sought ∉ reached.path → visit sought reached = other sought reached) :
    attachEach visit maxNodes faction vassals progress =
      attachEach other maxNodes faction vassals progress := by
  induction vassals generalizing progress with
  | nil => rfl
  | cons vassal vassals induction =>
      rcases Nat.lt_or_ge progress.nodes maxNodes with room | spent
      · have first : attachOne visit faction vassal progress =
            attachOne other faction vassal progress := by
          unfold attachOne
          split
          · rfl
          · next fresh =>
              exact agree vassal progress (.first room) (mt List.contains_iff_mem.mpr fresh)
        have rest := induction fun sought reached comes => agree sought reached (.after room comes)
        rw [attachEach_of_room room, attachEach_of_room room]
        dsimp only
        rw [rest, first]
      · rw [attachEach_of_spent spent, attachEach_of_spent spent]

variable (restores : ∀ vassal progress, vassal ∉ progress.path →
  (visit vassal progress).2.path = progress.path)

include restores

theorem path_attachOne (faction vassal : FactionId) (progress : Progress) :
    (attachOne visit faction vassal progress).2.path = progress.path := by
  unfold attachOne
  split
  · rfl
  · next fresh => exact restores vassal progress (mt List.contains_iff_mem.mpr fresh)

theorem ComesTo.path {sought : FactionId} {reached : Progress}
    (comes : ComesTo visit maxNodes faction vassals progress sought reached) :
    reached.path = progress.path := by
  induction comes with
  | first _ => rfl
  | after _ _ induction => exact induction.trans (path_attachOne restores faction _ _)

theorem path_attachEach (maxNodes : Nat) (faction : FactionId) (vassals : List FactionId)
    (progress : Progress) :
    (attachEach visit maxNodes faction vassals progress).2.path = progress.path := by
  induction vassals generalizing progress with
  | nil => rfl
  | cons vassal vassals induction =>
      rcases Nat.lt_or_ge progress.nodes maxNodes with room | spent
      · rw [attachEach_of_room room]
        exact (induction _).trans (path_attachOne restores faction vassal progress)
      · rw [attachEach_of_spent spent]
        exact progress.path_spent faction maxNodes

omit restores

variable (counts : ∀ vassal progress,
  (visit vassal progress).2.nodes = progress.nodes + (visit vassal progress).1.size)

include counts

theorem nodes_attachOne (faction vassal : FactionId) (progress : Progress) :
    (attachOne visit faction vassal progress).2.nodes =
      progress.nodes + (attachOne visit faction vassal progress).1.size := by
  unfold attachOne
  split
  · rfl
  · exact counts vassal progress

theorem nodes_attachEach (maxNodes : Nat) (faction : FactionId) (vassals : List FactionId)
    (progress : Progress) :
    (attachEach visit maxNodes faction vassals progress).2.nodes =
      progress.nodes +
        VassalTree.sizes (attachEach visit maxNodes faction vassals progress).1 := by
  induction vassals generalizing progress with
  | nil => rfl
  | cons vassal vassals induction =>
      rcases Nat.lt_or_ge progress.nodes maxNodes with room | spent
      · rw [attachEach_of_room room]
        have first := nodes_attachOne counts faction vassal progress
        have rest := induction (attachOne visit faction vassal progress).2
        simp only [VassalTree.sizes]
        omega
      · rw [attachEach_of_spent spent]
        exact progress.nodes_spent faction maxNodes

include restores

variable {ideal : FactionId → VassalTree} {path : List FactionId}
  (follows : ∀ vassal progress, progress.path = path → vassal ∉ path →
    (visit vassal progress).1 = (ideal vassal).prune (maxNodes - progress.nodes))
  (cyclic : ∀ vassal ∈ path, ideal vassal = .leaf vassal)

include follows cyclic

omit restores counts in
theorem attachOne_eq_prune (faction vassal : FactionId) (stands : progress.path = path) :
    (attachOne visit faction vassal progress).1 =
      (ideal vassal).prune (maxNodes - progress.nodes) := by
  unfold attachOne
  split
  · next above =>
      rw [cyclic vassal (stands ▸ List.contains_iff_mem.mp above)]
      rfl
  · next fresh =>
      exact follows vassal progress stands (stands ▸ mt List.contains_iff_mem.mpr fresh)

/-- If each visited vassal gets its ideal tree up to the budget, then so do all
of them together. -/
theorem attachEach_eq_pruneAll (faction : FactionId) (vassals : List FactionId)
    (progress : Progress) (stands : progress.path = path) :
    (attachEach visit maxNodes faction vassals progress).1 =
      VassalTree.pruneAll (maxNodes - progress.nodes) (vassals.map ideal) := by
  induction vassals generalizing progress with
  | nil => rfl
  | cons vassal vassals induction =>
      rcases Nat.lt_or_ge progress.nodes maxNodes with room | spent
      · have first := attachOne_eq_prune follows cyclic faction vassal stands
        have counted := nodes_attachOne counts faction vassal progress
        rw [first, VassalTree.size_prune] at counted
        -- The first tree takes its whole size, or else all the room that there is.
        have left : maxNodes - (attachOne visit faction vassal progress).2.nodes =
            maxNodes - progress.nodes - (ideal vassal).size := by omega
        rw [attachEach_of_room room, List.map_cons, VassalTree.pruneAll,
          if_neg (Nat.sub_ne_zero_of_lt room)]
        dsimp only
        rw [first, induction _ ((path_attachOne restores faction vassal progress).trans stands),
          left]
      · rw [attachEach_of_spent spent, Nat.sub_eq_zero_of_le spent, VassalTree.pruneAll_zero]

end

/-! ## The descent -/

theorem visit_succ (edges : EdgeList) (limits : Limits) (levels : Nat) (faction : FactionId)
    (progress : Progress) :
    visit edges limits (levels + 1) faction progress =
      let walked := attachEach (visit edges limits levels) limits.maxNodes faction
        (edges.vassalsOf faction) (progress.attach.enter faction)
      (.node faction walked.1, walked.2.leave faction) := rfl

/-- A descent comes back to the path it started from, since a faction that stands
on the path already is not entered again. -/
theorem path_visit (edges : EdgeList) (limits : Limits) (levels : Nat) (faction : FactionId)
    (progress : Progress) (fresh : faction ∉ progress.path) :
    (visit edges limits levels faction progress).2.path = progress.path := by
  induction levels generalizing faction progress with
  | zero =>
      rw [visit]
      split <;> rfl
  | succ levels induction =>
      have below := path_attachEach induction limits.maxNodes faction (edges.vassalsOf faction)
        (progress.attach.enter faction)
      have attached : faction ∉ progress.attach.path := fresh
      have undone := congrArg Progress.path (Progress.leave_enter attached)
      rw [visit_succ]
      exact (congrArg (List.filter (· ≠ faction)) below).trans undone

/-- A descent counts exactly the nodes of the tree that it produces. -/
theorem nodes_visit (edges : EdgeList) (limits : Limits) (levels : Nat) (faction : FactionId)
    (progress : Progress) :
    (visit edges limits levels faction progress).2.nodes =
      progress.nodes + (visit edges limits levels faction progress).1.size := by
  induction levels generalizing faction progress with
  | zero =>
      rw [visit]
      split <;> rfl
  | succ levels induction =>
      rw [visit_succ]
      dsimp only [Progress.nodes_leave, VassalTree.size]
      rw [nodes_attachEach induction, Progress.nodes_enter, Progress.nodes_attach, Nat.add_assoc]

theorem unfold_of_mem (edges : EdgeList) (levels : Nat) {path : List FactionId}
    {faction : FactionId} (above : faction ∈ path) :
    unfold edges levels path faction = .leaf faction := by
  cases levels with
  | zero => rfl
  | succ levels => exact if_pos above

theorem unfold_of_not_mem (edges : EdgeList) (levels : Nat) {path : List FactionId}
    {faction : FactionId} (fresh : faction ∉ path) :
    unfold edges (levels + 1) path faction =
      .node faction ((edges.vassalsOf faction).map (unfold edges levels (faction :: path))) :=
  if_neg fresh

/-- A descent produces the unfolding, pruned to what is left of the budget. -/
theorem visit_eq_prune (edges : EdgeList) (limits : Limits) (levels : Nat) (faction : FactionId)
    (progress : Progress) (fresh : faction ∉ progress.path) :
    (visit edges limits levels faction progress).1 =
      (unfold edges levels progress.path faction).prune (limits.maxNodes - progress.nodes) := by
  induction levels generalizing faction progress with
  | zero =>
      rw [visit]
      split <;> rfl
  | succ levels induction =>
      have below :
          (attachEach (visit edges limits levels) limits.maxNodes faction (edges.vassalsOf faction)
            (progress.attach.enter faction)).1 =
            VassalTree.pruneAll (limits.maxNodes - (progress.nodes + 1))
              ((edges.vassalsOf faction).map (unfold edges levels (faction :: progress.path))) := by
        apply attachEach_eq_pruneAll (path_visit edges limits levels)
          (nodes_visit edges limits levels) _ _ _ _ _ (Progress.path_attach_enter fresh)
        · intro vassal later stands fresh
          rw [induction vassal later (stands ▸ fresh), stands]
        · intro vassal above
          exact unfold_of_mem edges levels above
      rw [visit_succ, unfold_of_not_mem edges levels fresh, VassalTree.prune]
      dsimp only
      rw [below, Nat.sub_add_eq]

/-! ## How deep a descent goes -/

/-- The factions that a descent may still enter. -/
def enterable (edges : EdgeList) (path : List FactionId) : Finset FactionId :=
  edges.declarers \ path.toFinset

theorem card_enterable_cons_lt {edges : EdgeList} {path : List FactionId} {faction : FactionId}
    (declares : faction ∈ edges.declarers) (fresh : faction ∉ path) :
    (enterable edges (faction :: path)).card < (enterable edges path).card := by
  apply Finset.card_lt_card
  constructor
  · intro other member
    simp only [enterable, List.toFinset_cons, Finset.mem_sdiff, Finset.mem_insert,
      not_or] at member ⊢
    exact ⟨member.1, member.2.2⟩
  · intro included
    have member : faction ∈ enterable edges (faction :: path) :=
      included (Finset.mem_sdiff.mpr ⟨declares, fun above => fresh (List.mem_toFinset.mp above)⟩)
    simp [enterable] at member

/-- Below a faction with vassals, one faction fewer can be entered. -/
theorem childless_or_card_enterable_lt (edges : EdgeList) {path : List FactionId}
    {faction : FactionId} (fresh : faction ∉ path) :
    edges.vassalsOf faction = [] ∨
      (enterable edges (faction :: path)).card < (enterable edges path).card := by
  cases vassals : edges.vassalsOf faction with
  | nil => exact .inl rfl
  | cons vassal rest =>
      have declares := EdgeList.mem_declarers_of_vassal (vassals ▸ List.mem_cons_self)
      exact .inr (card_enterable_cons_lt declares fresh)

theorem visit_of_no_vassals {edges : EdgeList} {faction : FactionId} {progress : Progress}
    (childless : edges.vassalsOf faction = []) (fresh : faction ∉ progress.path)
    (limits : Limits) (levels : Nat) :
    visit edges limits levels faction progress = (.leaf faction, progress.attach) := by
  cases levels with
  | zero => rw [visit, childless]; rfl
  | succ levels =>
      rw [visit_succ, childless]
      have attached : faction ∉ progress.attach.path := fresh
      exact congrArg (Prod.mk _) (Progress.leave_enter attached)

/-- With a level for every faction that it may still enter, a descent meets no
limit on the depth. -/
theorem visit_of_enough_levels (edges : EdgeList) {limits others : Limits}
    (budget : limits.maxNodes = others.maxNodes) {levels otherLevels : Nat} {faction : FactionId}
    {progress : Progress} (fresh : faction ∉ progress.path)
    (enough : (enterable edges progress.path).card ≤ levels)
    (otherEnough : (enterable edges progress.path).card ≤ otherLevels) :
    visit edges limits levels faction progress =
      visit edges others otherLevels faction progress := by
  induction levels generalizing otherLevels faction progress with
  | zero =>
      -- No faction can be entered any more, so this one has no vassals.
      rcases childless_or_card_enterable_lt edges fresh with childless | fewer
      · rw [visit_of_no_vassals childless fresh, visit_of_no_vassals childless fresh]
      · omega
  | succ levels induction =>
      rcases childless_or_card_enterable_lt edges fresh with childless | fewer
      · rw [visit_of_no_vassals childless fresh, visit_of_no_vassals childless fresh]
      · cases otherLevels with
        | zero => omega
        | succ otherLevels =>
            have below :
                attachEach (visit edges limits levels) limits.maxNodes faction
                    (edges.vassalsOf faction) (progress.attach.enter faction) =
                  attachEach (visit edges others otherLevels) limits.maxNodes faction
                    (edges.vassalsOf faction) (progress.attach.enter faction) := by
              apply attachEach_congr
              intro vassal later comes unvisited
              have stands := (comes.path (path_visit edges limits levels)).trans
                (Progress.path_attach_enter fresh)
              have room : (enterable edges later.path).card <
                  (enterable edges progress.path).card := stands ▸ fewer
              exact induction unvisited (by omega) (by omega)
            rw [visit_succ, visit_succ, below, budget]

theorem depth_le_of_mem_unfold (edges : EdgeList) {levels depth : Nat} {path : List FactionId}
    {faction : FactionId} :
    ∀ node ∈ (unfold edges levels path faction).preorderFrom depth, node.1 ≤ depth + levels := by
  induction levels generalizing depth path faction with
  | zero =>
      intro node member
      rw [List.mem_singleton.mp member]
      exact Nat.le_refl depth
  | succ levels induction =>
      have below : ∀ vassals : List FactionId, ∀ node ∈ VassalTree.preordersFrom (depth + 1)
          (vassals.map (unfold edges levels (faction :: path))),
          node.1 ≤ depth + (levels + 1) := by
        intro vassals node member
        induction vassals with
        | nil => cases member
        | cons vassal vassals inner =>
            rcases List.mem_append.mp member with member | member
            · have bound := induction node member
              omega
            · exact inner member
      intro node member
      by_cases above : faction ∈ path
      · rw [unfold_of_mem edges _ above] at member
        rw [List.mem_singleton.mp member]
        exact Nat.le_add_right depth (levels + 1)
      · rw [unfold_of_not_mem edges levels above] at member
        rcases List.mem_cons.mp member with equal | member
        · rw [equal]
          exact Nat.le_add_right depth (levels + 1)
        · exact below _ node member

/-! ## The vassal tree -/

theorem vassalTree_eq_prune (edges : EdgeList) (limits : Limits) (root : FactionId) :
    (vassalTree edges limits root).1 =
      (unfold edges limits.maxDepth [] root).prune limits.maxNodes :=
  visit_eq_prune edges limits limits.maxDepth root .start List.not_mem_nil

/-- The limit on the depth makes no difference once it allows for every faction
that declares an edge. -/
theorem vassalTree_of_deep_limits (edges : EdgeList) (limits : Limits) (root : FactionId)
    {maxDepth : Nat} (deep : edges.declarers.card ≤ maxDepth) :
    vassalTree edges { limits with maxDepth } root =
      vassalTree edges { limits with maxDepth := edges.declarers.card } root := by
  have all : (enterable edges Progress.start.path).card = edges.declarers.card := by
    rw [enterable, Progress.start, List.toFinset_nil, Finset.sdiff_empty]
  have same : visit edges { limits with maxDepth } maxDepth root .start =
      visit edges { limits with maxDepth := edges.declarers.card } edges.declarers.card root
        .start := by
    apply visit_of_enough_levels edges _ List.not_mem_nil (all.trans_le deep) all.le
    rfl
  rw [vassalTree, same]
  rfl

theorem depth_le_of_mem_vassalTree (edges : EdgeList) (limits : Limits) (root : FactionId) :
    ∀ node ∈ (vassalTree edges limits root).1.preorder,
      node.1 ≤ limits.maxDepth ∧ node.1 ≤ edges.declarers.card := by
  have shallow : ∀ limits : Limits, ∀ node ∈ (vassalTree edges limits root).1.preorder,
      node.1 ≤ limits.maxDepth := by
    intro limits node member
    rw [vassalTree_eq_prune, VassalTree.preorder, VassalTree.preorderFrom_prune] at member
    have bound := depth_le_of_mem_unfold edges node (List.mem_of_mem_take member)
    omega
  intro node member
  refine ⟨shallow limits node member, ?_⟩
  rcases Nat.le_total limits.maxDepth edges.declarers.card with few | many
  · exact (shallow limits node member).trans few
  · have same := vassalTree_of_deep_limits edges limits root many
    exact shallow { limits with maxDepth := edges.declarers.card } node (same ▸ member)

/-- The vassal tree is the start of the unfolding, in pre-order and as long as
the budget allows, and it is derived without nesting deeper than there are
factions that declare an edge. -/
theorem vassalTree_is_budgeted_unfolding (edges : EdgeList) (limits : Limits) (root : FactionId) :
    let tree := (vassalTree edges limits root).1
    let whole := unfold edges limits.maxDepth [] root
    tree.preorder = whole.preorder.take (max 1 limits.maxNodes) ∧
      (whole.preorder.length ≤ max 1 limits.maxNodes → tree = whole) ∧
      (∀ node ∈ tree.preorder, node.1 ≤ edges.declarers.card) ∧
      ∀ maxDepth, edges.declarers.card ≤ maxDepth →
        vassalTree edges { limits with maxDepth } root =
          vassalTree edges { limits with maxDepth := edges.declarers.card } root := by
  intro tree whole
  have pruned : tree = whole.prune limits.maxNodes := vassalTree_eq_prune edges limits root
  refine ⟨?_, ?_, ?_, ?_⟩
  · rw [pruned]
    exact VassalTree.preorderFrom_prune 0 limits.maxNodes whole
  · intro small
    rw [VassalTree.preorder, VassalTree.length_preorderFrom] at small
    rw [pruned]
    exact VassalTree.prune_of_size_le limits.maxNodes whole small
  · intro node member
    exact (depth_le_of_mem_vassalTree edges limits root node member).2
  · intro maxDepth deep
    exact vassalTree_of_deep_limits edges limits root deep

end Hierarchy

end Diplomacy
