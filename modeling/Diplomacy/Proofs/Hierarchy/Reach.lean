import Mathlib.Logic.Relation
import Diplomacy.Proofs.Hierarchy.Correspondence
import Diplomacy.Proofs.Hierarchy.Cutoffs

/-!
Whom a vassal tree shows. Every faction in it serves the root, be it through
others. The other way round, whoever serves the root does so along a line in
which no faction stands twice, since a line that comes back to a faction can be
cut short there. The unfolding has a place for each such line that is not too
long for it. So a tree that is cut off neither by the limit on the depth nor by
the budget shows everyone who serves its root, whatever cycles are recorded.
-/

namespace Diplomacy.Hierarchy

open VassalTree

/-- Whether a faction is reached from `root` by zero or more steps, each from a
faction to one of its vassals. -/
def Serves (edges : EdgeList) (root faction : FactionId) : Prop :=
  Relation.ReflTransGen (fun liege vassal => vassal ∈ edges.vassalsOf liege) root faction

/-- Whether a warning tells that vassals are left out at the limit on the depth. -/
def Warning.isTreeDepth : Warning → Bool
  | .treeDepth _ _ => true
  | _ => false

/-! ## Lines of service -/

/-- The lieges from a faction up to `root`, with no faction standing twice and
no more of them than the limit on the depth allows. -/
structure Line (edges : EdgeList) (maxDepth : Nat) (root faction : FactionId)
    (above : List FactionId) : Prop where
  descends : (faction :: above).IsChain fun vassal liege => vassal ∈ edges.vassalsOf liege
  rooted : (faction :: above).getLast? = some root
  distinct : (faction :: above).Nodup
  shallow : above.length ≤ maxDepth

section

variable {edges : EdgeList} {maxDepth : Nat} {root faction vassal : FactionId}
  {above : List FactionId}

theorem Line.single (edges : EdgeList) (maxDepth : Nat) (root : FactionId) :
    Line edges maxDepth root root [] :=
  ⟨.singleton root, rfl, List.nodup_singleton root, Nat.zero_le maxDepth⟩

theorem Line.cons (line : Line edges maxDepth root faction above)
    (sworn : vassal ∈ edges.vassalsOf faction) (fresh : vassal ∉ faction :: above)
    (room : above.length < maxDepth) : Line edges maxDepth root vassal (faction :: above) where
  descends := List.isChain_cons_cons.mpr ⟨sworn, line.descends⟩
  rooted := by
    rw [List.getLast?_cons_cons]
    exact line.rooted
  distinct := List.nodup_cons.mpr ⟨fresh, line.distinct⟩
  shallow := room

/-- Every faction of a line has a line of its own, the rest from there on. -/
theorem Line.of_mem (line : Line edges maxDepth root faction above)
    (member : vassal ∈ faction :: above) : ∃ rest, Line edges maxDepth root vassal rest := by
  rcases List.append_of_mem member with ⟨front, rest, split⟩
  have ends : vassal :: rest <:+ faction :: above := ⟨front, split.symm⟩
  refine ⟨rest, line.descends.suffix ends, ?_, line.distinct.sublist ends.sublist, ?_⟩
  · have rooted := line.rooted
    rw [split, List.getLast?_append, List.getLast?_cons, Option.some_or] at rooted
    rw [List.getLast?_cons]
    exact rooted
  · have length := ends.length_le
    rw [List.length_cons, List.length_cons] at length
    exact (Nat.le_of_succ_le_succ length).trans line.shallow

/-- The unfolding has a place for every line. -/
theorem Line.exists_place (line : Line edges maxDepth root faction above) :
    ∃ place ∈ (unfold edges maxDepth [] root).places,
      place.faction = faction ∧ place.above = above := by
  rcases List.getLast?_eq_some_iff.mp line.rooted with ⟨front, split⟩
  have descends := line.descends
  have distinct := line.distinct
  have shallow : front.length ≤ maxDepth := by
    have length := congrArg List.length split
    rw [List.length_cons, List.length_append, List.length_singleton] at length
    exact Nat.succ.inj length ▸ line.shallow
  rw [split] at descends distinct
  rcases exists_place_of_isChain edges descends distinct shallow with ⟨place, member, lineage⟩
  exact ⟨place, member, List.cons.inj (lineage.trans split.symm)⟩

end

/-! ## Trees that are not cut off -/

section

variable {edges : EdgeList} {limits : Limits} {root faction vassal : FactionId}
  {above : List FactionId}
  (uncut : ∀ warning ∈ (vassalTree edges limits root).2,
    warning.isTreeDepth = false ∧ warning.isTreeBudget = false)

include uncut

theorem Line.exists_place_vassalTree (line : Line edges limits.maxDepth root faction above) :
    ∃ place ∈ (vassalTree edges limits root).1.places,
      place.faction = faction ∧ place.above = above := by
  rw [vassalTree_eq_unfold edges limits root fun warning raised => (uncut warning raised).2]
  exact line.exists_place

/-- Without a warning about the depth, a line ends above the limit if the faction
has a vassal that could stand below it. -/
theorem Line.length_lt (line : Line edges limits.maxDepth root faction above)
    (sworn : vassal ∈ edges.vassalsOf faction) : above.length < limits.maxDepth := by
  rcases line.exists_place_vassalTree uncut with ⟨place, member, rfl, rfl⟩
  refine Nat.lt_of_le_of_ne line.shallow fun deepest => ?_
  have told : cutoff? edges limits place = some (.treeDepth place.faction limits.maxDepth) := by
    rw [cutoff?, if_neg, if_pos ⟨deepest, List.ne_nil_of_mem sworn⟩]
    exact mt List.contains_iff_mem.mp (List.nodup_cons.mp line.distinct).1
  have raised : .treeDepth place.faction limits.maxDepth ∈ (vassalTree edges limits root).2 := by
    rw [warnings_vassalTree]
    exact List.mem_append_left _ (List.mem_filterMap.mpr ⟨place, member, told⟩)
  cases (uncut _ raised).1

/-- Whoever serves the root does so along a line. -/
theorem Serves.exists_line (serves : Serves edges root faction) :
    ∃ above, Line edges limits.maxDepth root faction above := by
  induction serves with
  | refl => exact ⟨[], .single edges limits.maxDepth root⟩
  | @tail liege vassal _ sworn induction =>
      rcases induction with ⟨above, line⟩
      by_cases standing : vassal ∈ liege :: above
      · exact line.of_mem standing
      · exact ⟨liege :: above, line.cons sworn standing (line.length_lt uncut sworn)⟩

end

theorem Grown.serves {edges : EdgeList} {maxDepth : Nat} {root : FactionId} {place : Place}
    (grown : Grown edges maxDepth root place) : Serves edges root place.faction := by
  have climbs : Relation.ReflTransGen (fun vassal liege => vassal ∈ edges.vassalsOf liege)
      place.faction root := by
    apply List.relationReflTransGen_of_exists_isChain_cons place.above grown.descends
    exact List.getLast_of_getLast?_eq_some grown.rooted
  exact Relation.reflTransGen_swap.mp climbs

/-- A vassal tree shows only factions that serve its root, and all of them if
neither the limit on the depth nor the budget cuts it off. -/
theorem vassalTree_shows_who_serves (edges : EdgeList) (limits : Limits) (root : FactionId) :
    let tree := (vassalTree edges limits root).1
    let warnings := (vassalTree edges limits root).2
    (∀ faction, tree.contains faction = true → Serves edges root faction) ∧
      ((∀ warning ∈ warnings, warning.isTreeDepth = false ∧ warning.isTreeBudget = false) →
        ∀ faction, Serves edges root faction → tree.contains faction = true) := by
  intro tree warnings
  refine ⟨?_, ?_⟩
  · intro faction contained
    rcases (contains_iff faction [] tree).mp contained with ⟨place, member, rfl⟩
    exact (grown_vassalTree edges limits root place member).serves
  · intro uncut faction serves
    rcases serves.exists_line uncut with ⟨above, line⟩
    rcases line.exists_place_vassalTree uncut with ⟨place, member, own, _⟩
    exact (contains_iff faction [] tree).mpr ⟨place, member, own⟩

/-- The duke is a vassal of its own, and the earl one of the crown and of the duke.
The limits allow for the whole tree and for no more. -/
theorem vassalTree_shows_who_serves_at_court :
    let edges := court ++ sworn 7 earl crown ++ sworn 9 duke duke
    let limits : Limits := { maxDepth := 3, maxNodes := 7, warnOnMultipleLieges := false }
    let tree := (vassalTree edges limits crown).1
    tree.preorder =
        [(0, crown), (1, duke), (2, earl), (3, crown), (2, duke), (1, earl), (2, crown)] ∧
      ∀ faction, Serves edges crown faction → tree.contains faction = true := by
  intro edges limits tree
  exact ⟨by decide, (vassalTree_shows_who_serves edges limits crown).2 (by decide)⟩

end Diplomacy.Hierarchy
