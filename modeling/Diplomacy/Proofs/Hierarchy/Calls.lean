import Mathlib.Logic.Relation
import Diplomacy.Proofs.Hierarchy.Budget
import Diplomacy.Proofs.Hierarchy.Correspondence

/-!
The visits of a descent, one inside the other. A visit goes to the vassals of its
faction one by one, and makes another visit for each that does not stand above.
What holds when a visit starts is carried from there to those that it makes: the
path is made up of the factions whose visits are under way, and a node is only
attached where there is room. So a descent can be followed visit by visit, and it
nests no deeper than there are factions.
-/

namespace Diplomacy

namespace EdgeList

variable (edges : EdgeList)

/-- The factions that stand on either end of an edge. -/
def named : Finset FactionId :=
  (edges.flatMap fun edge => [edge.faction, edge.target]).toFinset

theorem declarers_subset_named : edges.declarers ⊆ edges.named := by
  intro faction member
  rw [declarers, List.mem_toFinset, List.mem_map] at member
  rcases member with ⟨edge, recorded, rfl⟩
  rw [named, List.mem_toFinset]
  exact List.mem_flatMap.mpr ⟨edge, recorded, List.mem_cons_self⟩

end EdgeList

namespace Hierarchy

/-- The tree of a faction at a depth, down to the limit on the depth. -/
def visitAt (edges : EdgeList) (limits : Limits) (depth : Nat) :
    FactionId → Progress → VassalTree × Progress :=
  visit edges limits (limits.maxDepth - depth)

/-- A visit of a faction, as it starts. -/
structure Call where
  /-- The factions whose visits are under way, nearest first. -/
  above : List FactionId
  depth : Nat
  faction : FactionId
  progress : Progress

namespace Call

/-- The visit that a vassal tree starts with. -/
def root (faction : FactionId) : Call :=
  { above := [], depth := 0, faction, progress := .start }

variable (edges : EdgeList) (limits : Limits) (call : Call)

def result : VassalTree × Progress :=
  visitAt edges limits call.depth call.faction call.progress

/-- The tree of a visit, put together from the visits of others that `visiting` stands for. -/
def assembled (visiting : FactionId → Progress → VassalTree × Progress) :
    VassalTree × Progress :=
  let walked := attachEach visiting limits.maxNodes call.faction (edges.vassalsOf call.faction)
    (call.progress.attach.enter call.faction)
  (.node call.faction walked.1, walked.2.leave call.faction)

/-- A visit reaches a vassal that is to be attached. -/
structure Reaches (vassal : FactionId) (reached : Progress) : Prop where
  shallow : call.depth < limits.maxDepth
  comes : Hierarchy.ComesTo (visitAt edges limits (call.depth + 1)) limits.maxNodes call.faction
    (edges.vassalsOf call.faction) (call.progress.attach.enter call.faction) vassal reached

/-- A visit makes another one, for a vassal that it reaches. -/
structure Makes (inner : Call) : Prop where
  reaches : call.Reaches edges limits inner.faction inner.progress
  fresh : inner.faction ∉ inner.progress.path
  above : inner.above = call.faction :: call.above
  depth : inner.depth = call.depth + 1

/-- A visit makes another one, be it through others. -/
def Leads : Call → Prop := Relation.ReflTransGen (Makes edges limits) call

/-- The path of a visit holds the factions whose visits are under way. -/
structure Standing : Prop where
  path : call.progress.path = call.above
  fresh : call.faction ∉ call.progress.path

/-- The factions whose visits are under way are as many as the depth tells, no two
of them are the same, and each declares an edge. -/
structure Nested : Prop where
  depth : call.depth = call.above.length
  distinct : call.above.Nodup
  declares : ∀ faction ∈ call.above, faction ∈ edges.declarers

end Call

variable {edges : EdgeList} {limits : Limits} {call inner : Call} {vassal : FactionId}
  {reached : Progress}

/-! ## What a visit gives back -/

theorem nodes_visit_le (edges : EdgeList) (limits : Limits) (levels : Nat) {faction : FactionId}
    {progress : Progress} (fresh : faction ∉ progress.path) :
    (visit edges limits levels faction progress).2.nodes ≤
      max (progress.nodes + 1) limits.maxNodes := by
  rw [nodes_visit, visit_eq_prune edges limits levels faction progress fresh,
    VassalTree.size_prune]
  omega

theorem kept_reported : Progress.Kept fun progress => progress.budgetReported = true where
  attach _ reported := reported
  warn _ _ _ reported := reported
  enter _ _ reported := reported
  leave _ _ reported := reported
  spent progress faction maxNodes _ := progress.budgetReported_spent faction maxNodes

namespace Call

theorem not_reaches_of_limit (limit : limits.maxDepth ≤ call.depth) :
    ¬ call.Reaches edges limits vassal reached :=
  fun reaches => Nat.not_lt.mpr limit reaches.shallow

theorem result_of_limit (limit : limits.maxDepth ≤ call.depth) :
    (call.result edges limits).1 = .leaf call.faction := by
  rw [result, visitAt, Nat.sub_eq_zero_of_le limit, visit]
  split <;> rfl

theorem result_of_shallow (shallow : call.depth < limits.maxDepth) :
    call.result edges limits =
      call.assembled edges limits (visitAt edges limits (call.depth + 1)) := by
  have levels : limits.maxDepth - call.depth = limits.maxDepth - (call.depth + 1) + 1 := by omega
  rw [result, visitAt, levels, visit_succ]
  rfl

/-- A visit is made of each vassal that is reached off the path. -/
theorem Reaches.makes (reaches : call.Reaches edges limits vassal reached)
    (fresh : vassal ∉ reached.path) :
    call.Makes edges limits
      { above := call.faction :: call.above, depth := call.depth + 1, faction := vassal,
        progress := reached } :=
  ⟨reaches, fresh, rfl, rfl⟩

/-- Below the limit on the depth, the tree of a visit is put together from the visits
that it makes, and from no others: whatever agrees with these does just as well. -/
theorem result_of_makes {other : FactionId → Progress → VassalTree × Progress}
    (shallow : call.depth < limits.maxDepth)
    (agree : ∀ inner, call.Makes edges limits inner →
      inner.result edges limits = other inner.faction inner.progress) :
    call.result edges limits = call.assembled edges limits other := by
  have same : attachEach (visitAt edges limits (call.depth + 1)) limits.maxNodes call.faction
        (edges.vassalsOf call.faction) (call.progress.attach.enter call.faction) =
      attachEach other limits.maxNodes call.faction (edges.vassalsOf call.faction)
        (call.progress.attach.enter call.faction) :=
    attachEach_congr fun _ _ comes fresh => agree _ (Reaches.makes ⟨shallow, comes⟩ fresh)
  rw [result_of_shallow shallow, assembled, assembled, same]

/-- The tree of each visit that a visit makes stands in its own. -/
theorem result_mem_of_makes (makes : call.Makes edges limits inner) :
    (inner.result edges limits).1 ∈ (call.result edges limits).1.vassals := by
  rw [result_of_shallow makes.reaches.shallow, result, makes.depth]
  exact makes.reaches.comes.visit_mem makes.fresh

end Call

/-! ## From one visit to the next -/

theorem Call.Standing.path_of_reaches (standing : call.Standing)
    (reaches : call.Reaches edges limits vassal reached) :
    reached.path = call.faction :: call.above := by
  have entered := reaches.comes.path (path_visit edges limits _)
  rw [entered, Progress.path_attach_enter standing.fresh, standing.path]

theorem Call.Standing.of_makes (standing : call.Standing) (makes : call.Makes edges limits inner) :
    inner.Standing where
  path := (standing.path_of_reaches makes.reaches).trans makes.above.symm
  fresh := makes.fresh

theorem Call.Standing.of_leads (standing : call.Standing) (leads : call.Leads edges limits inner) :
    inner.Standing := by
  induction leads with
  | refl => exact standing
  | tail _ makes induction => exact induction.of_makes makes

theorem Call.Nested.of_makes (nested : call.Nested edges) (standing : call.Standing)
    (makes : call.Makes edges limits inner) : inner.Nested edges where
  depth := by rw [makes.depth, makes.above, nested.depth, List.length_cons]
  distinct := by
    rw [makes.above]
    exact List.nodup_cons.mpr ⟨standing.path ▸ standing.fresh, nested.distinct⟩
  declares := by
    rw [makes.above]
    intro faction member
    rcases List.mem_cons.mp member with rfl | member
    · exact EdgeList.mem_declarers_of_vassal makes.reaches.comes.mem
    · exact nested.declares faction member

theorem Call.Nested.depth_le (nested : call.Nested edges) : call.depth ≤ edges.named.card := by
  have included : call.above.toFinset ⊆ edges.declarers := fun faction member =>
    nested.declares faction (List.mem_toFinset.mp member)
  calc call.depth
      = call.above.toFinset.card := by
        rw [nested.depth, List.toFinset_card_of_nodup nested.distinct]
    _ ≤ edges.declarers.card := Finset.card_le_card included
    _ ≤ edges.named.card := Finset.card_le_card edges.declarers_subset_named

/-! ## The visits of a vassal tree -/

section

variable {faction : FactionId}

theorem standing_root (faction : FactionId) : (Call.root faction).Standing :=
  ⟨rfl, List.not_mem_nil⟩

theorem nested_root (edges : EdgeList) (faction : FactionId) : (Call.root faction).Nested edges :=
  ⟨rfl, .nil, fun _ member => (List.not_mem_nil member).elim⟩

theorem nested_of_leads (leads : (Call.root faction).Leads edges limits call) :
    call.Nested edges := by
  induction leads with
  | refl => exact nested_root edges faction
  | tail leads makes induction =>
      exact induction.of_makes ((standing_root faction).of_leads leads) makes

/-- A visit only starts where there is room, be it for the root alone. -/
theorem nodes_lt_of_leads (leads : (Call.root faction).Leads edges limits call) :
    call.progress.nodes < max 1 limits.maxNodes := by
  cases leads with
  | refl => exact Nat.lt_of_lt_of_le Nat.one_pos (Nat.le_max_left 1 limits.maxNodes)
  | tail _ makes =>
      exact Nat.lt_of_lt_of_le makes.reaches.comes.room (Nat.le_max_right 1 limits.maxNodes)

end

/-- A visit of a faction off the path gives the path back as it was, counts the
nodes of its tree and keeps a report of the budget, and each visit that it makes
finds exactly the factions above it on the path. The visits of a vassal tree never
count more nodes than the limit allows, save for the root, and they nest no deeper
than there are factions with an edge. At the limit on the depth a visit makes no
others and gives a leaf; short of it, its tree is put together from those that the
visits it makes give, and from nothing else. -/
theorem visits_restore_and_count (edges : EdgeList) (limits : Limits) :
    (∀ depth faction progress, faction ∉ progress.path →
      let call : Call := { above := progress.path, depth, faction, progress }
      let result := visitAt edges limits depth faction progress
      result.2.path = progress.path ∧
        result.2.nodes = progress.nodes + result.1.size ∧
        (progress.budgetReported = true → result.2.budgetReported = true) ∧
        ∀ inner, call.Leads edges limits inner →
          inner.progress.path = inner.above ∧ inner.faction ∉ inner.above ∧
            ∀ vassal reached, inner.Reaches edges limits vassal reached →
              reached.path = inner.faction :: inner.above) ∧
      (∀ root,
        let first := (Call.root root).result edges limits
        vassalTree edges limits root = (first.1, first.2.warnings) ∧
          ∀ call, (Call.root root).Leads edges limits call →
            let result := call.result edges limits
            call.depth ≤ edges.named.card ∧
              call.progress.nodes < result.2.nodes ∧
              result.2.nodes ≤ max 1 limits.maxNodes ∧
              (limits.maxNodes < 0x1_0000_0000_0000_0000 →
                result.2.nodes < 0x1_0000_0000_0000_0000) ∧
              ∀ vassal reached, call.Reaches edges limits vassal reached →
                reached.nodes < limits.maxNodes) ∧
      ∀ call : Call,
        (limits.maxDepth ≤ call.depth →
          (call.result edges limits).1 = .leaf call.faction ∧
            (∀ vassal reached, ¬ call.Reaches edges limits vassal reached) ∧
            ∀ inner, ¬ call.Makes edges limits inner) ∧
          (call.depth < limits.maxDepth →
            (∀ inner, call.Makes edges limits inner →
              (inner.result edges limits).1 ∈ (call.result edges limits).1.vassals) ∧
            ∀ other, (∀ inner, call.Makes edges limits inner →
                inner.result edges limits = other inner.faction inner.progress) →
              call.result edges limits = call.assembled edges limits other) := by
  refine ⟨?restores, ?counts, fun call => ⟨fun limit => ?limit, fun shallow => ?shallow⟩⟩
  case restores =>
    intro depth faction progress fresh call result
    have standing : call.Standing := ⟨rfl, fresh⟩
    refine ⟨path_visit edges limits _ faction progress fresh,
      nodes_visit edges limits _ faction progress,
      kept_visit kept_reported edges limits _ faction progress, ?_⟩
    intro inner leads
    have within := standing.of_leads leads
    exact ⟨within.path, within.path ▸ within.fresh,
      fun vassal reached reaches => within.path_of_reaches reaches⟩
  case counts =>
    intro root first
    refine ⟨rfl, ?_⟩
    intro call leads result
    have standing := (standing_root root).of_leads leads
    have starts := nodes_lt_of_leads leads
    have counted : result.2.nodes = call.progress.nodes + result.1.size :=
      nodes_visit edges limits _ call.faction call.progress
    have positive := result.1.size_pos
    -- Whatever is pruned to the room that is left fits, since there was room at the start.
    have bound : result.2.nodes ≤ max (call.progress.nodes + 1) limits.maxNodes :=
      nodes_visit_le edges limits _ standing.fresh
    refine ⟨(nested_of_leads leads).depth_le, by omega, by omega, by omega, ?_⟩
    exact fun vassal reached reaches => reaches.comes.room
  case limit =>
    exact ⟨Call.result_of_limit limit, fun _ _ => Call.not_reaches_of_limit limit,
      fun _ makes => Call.not_reaches_of_limit limit makes.reaches⟩
  case shallow =>
    exact ⟨fun _ makes => Call.result_mem_of_makes makes,
      fun _ agree => Call.result_of_makes shallow agree⟩

/-- The duke is visited below the crown, with the budget reported already, and
visits the earl in turn, whose own vassal stands above. At the limit the duke would
be a leaf. -/
theorem duke_restores_path :
    let limits : Limits := { maxDepth := 64, maxNodes := 9, warnOnMultipleLieges := false }
    let progress : Progress :=
      { path := [crown], nodes := 1, budgetReported := true, warnings := [] }
    let dukes : Call := { above := [crown], depth := 1, faction := duke, progress }
    let earls : Call :=
      { above := [duke, crown], depth := 2, faction := earl,
        progress := progress.attach.enter duke }
    let deepest : Call := { dukes with depth := 64 }
    let result := visitAt court limits 1 duke progress
    duke ∉ progress.path ∧ progress.budgetReported = true ∧
      (result.2.path = [crown] ∧ result.2.nodes = 1 + result.1.size ∧
        result.2.budgetReported = true) ∧
      earls.progress.path = [duke, crown] ∧
      (dukes.depth < limits.maxDepth ∧ dukes.Makes court limits earls ∧
        (earls.result court limits).1 ∈ result.1.vassals ∧
        result = dukes.assembled court limits (visitAt court limits 2)) ∧
      limits.maxDepth ≤ deepest.depth ∧ (deepest.result court limits).1 = .leaf duke ∧
        ¬ deepest.Makes court limits earls := by
  intro limits progress dukes earls deepest result
  have fresh : duke ∉ progress.path := by decide
  have shallow : dukes.depth < limits.maxDepth := by decide
  have limit : limits.maxDepth ≤ deepest.depth := by decide
  have makes : dukes.Makes court limits earls :=
    ⟨⟨shallow, .first (by decide)⟩, by decide, rfl, rfl⟩
  rcases visits_restore_and_count court limits with ⟨restores, _, tied⟩
  rcases restores 1 duke progress fresh with ⟨path, nodes, reported, inner⟩
  rcases (tied deepest).1 limit with ⟨leaf, _, makesNone⟩
  rcases (tied dukes).2 shallow with ⟨stands, assembled⟩
  refine ⟨fresh, rfl, ⟨path, nodes, reported rfl⟩, (inner earls (.single makes)).1, ?_,
    limit, leaf, makesNone earls⟩
  refine ⟨shallow, makes, stands earls makes, assembled _ fun other made => ?_⟩
  rw [Call.result, made.depth]

end Hierarchy

end Diplomacy
