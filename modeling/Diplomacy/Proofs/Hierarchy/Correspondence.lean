import Diplomacy.Proofs.Hierarchy.Ascent
import Diplomacy.Proofs.Hierarchy.Budget
import Diplomacy.Proofs.Hierarchy.Growth

/-!
Vassal trees against liege chains. A chain, read from its outermost liege down,
is a way through that liege's vassal tree, whatever is recorded, as long as the
tree is not cut off by the budget. The other way round, a lineage of a tree is the
beginning of a chain if no faction claims several lieges. Then a faction has only
one lineage in a tree, save that the root may come back once, as a leaf.
-/

namespace Diplomacy.Hierarchy

open VassalTree

/-! ## From chains to lineages -/

/-- A liege chain is a lineage of its outermost liege's tree, as far as the
budget does not cut the tree off. -/
theorem liegeChain_is_lineage (edges : EdgeList) (limits : Limits) (start : FactionId)
    (unspent : ∀ warning ∈
      (vassalTree edges limits (liegeChain edges limits start).1.outermost).2,
      warning.isTreeBudget = false) :
    let chain := (liegeChain edges limits start).1
    let tree := (vassalTree edges limits chain.outermost).1
    (∃ place ∈ tree.places, place.lineage = chain.factions) ∧ tree.contains start = true := by
  intro chain tree
  have ascent := ascent_climb edges limits start limits.maxDepth [start] start
  have factions := factions_liegeChain edges limits start
  generalize (climb edges limits start limits.maxDepth [start] start).1 = lieges at ascent factions
  rcases List.getLast?_eq_some_iff.mp (LiegeChain.getLast?_factions chain) with ⟨line, ends⟩
  have split : start :: lieges = line ++ [chain.outermost] := factions.symm.trans ends
  have lineage : ∃ place ∈ tree.places, place.lineage = chain.factions := by
    have verified := ascent.verified.imp fun _ _ => EdgeList.mem_vassalsOf_of_liegeOf
    have distinct := ascent.nodup
    have shallow : line.length ≤ limits.maxDepth := by
      have length := congrArg List.length split
      rw [List.length_cons, List.length_append, List.length_singleton] at length
      exact Nat.succ.inj length ▸ ascent.shallow
    rw [split] at verified distinct
    rw [ends]
    change ∃ place ∈ (vassalTree edges limits chain.outermost).1.places, _
    rw [vassalTree_eq_unfold edges limits chain.outermost unspent]
    exact exists_place_of_isChain edges verified distinct shallow
  refine ⟨lineage, ?_⟩
  rcases lineage with ⟨place, member, equal⟩
  rw [factions] at equal
  exact (contains_iff start [] tree).mpr ⟨place, member, (List.cons.inj equal).1⟩

def crown : FactionId := ⟨10, by decide⟩
def duke : FactionId := ⟨11, by decide⟩
def earl : FactionId := ⟨12, by decide⟩

/-- The two records of a vassalage, with the identifiers `serial` and the next one. -/
def sworn (serial : Fin 64) (vassal liege : FactionId) : EdgeList :=
  [{ id := ⟨serial, by omega⟩, faction := vassal, target := liege, stance := .liege,
     version := .uncommitted },
   { id := ⟨serial + 1, by omega⟩, faction := liege, target := vassal, stance := .vassal,
     version := .uncommitted }]

/-- The earl under the duke, the duke under the crown, and the crown under the earl. -/
def court : EdgeList := sworn 1 duke crown ++ sworn 3 earl duke ++ sworn 5 crown earl

/-- The earl serves the crown directly as well. The limits allow for the chain
and for the whole tree, and for no more. -/
theorem liegeChain_is_lineage_at_court :
    let edges := court ++ sworn 7 earl crown
    let limits : Limits := { maxDepth := 2, maxNodes := 5, warnOnMultipleLieges := true }
    let chain := (liegeChain edges limits earl).1
    let tree := (vassalTree edges limits crown).1
    chain.factions = [earl, duke, crown] ∧
      (∃ place ∈ tree.places, place.lineage = chain.factions) ∧ tree.contains earl = true := by
  intro edges limits chain tree
  refine ⟨by decide, ?_⟩
  exact liegeChain_is_lineage edges limits earl (by decide)

/-! ## From lineages to chains -/

section

variable {edges : EdgeList} {limits : Limits} {maxDepth : Nat} {root : FactionId}
  {place other : Place} (single : edges.SingleLieges)

include single

theorem Grown.verified (grown : Grown edges maxDepth root place) :
    place.lineage.IsChain fun faction liege => edges.liegeOf faction = some liege :=
  grown.descends.imp fun _ _ => (EdgeList.liegeOf_eq_some_iff_mem_vassalsOf single).mpr

/-- The lieges above a faction, up to the root, are an ascent, unless the faction
stands among them. -/
theorem Grown.ascent (grown : Grown edges maxDepth root place)
    (unrepeated : place.faction ∉ place.above) :
    Ascent edges maxDepth [place.faction] place.faction place.above where
  verified := grown.verified single
  distinct := grown.distinct
  fresh _ member seen := unrepeated (List.mem_singleton.mp seen ▸ member)
  shallow := grown.shallow

/-- Only the root can stand above itself. -/
theorem Grown.faction_eq_root (grown : Grown edges maxDepth root place)
    (repeated : place.faction ∈ place.above) : place.faction = root := by
  have verified := grown.verified single
  have distinct := grown.distinct
  have rooted := grown.rooted
  rw [Place.lineage] at verified rooted
  rcases List.append_of_mem repeated with ⟨front, back, split⟩
  rw [split] at verified distinct rooted
  cases back with
  | nil =>
      rw [← List.cons_append, List.getLast?_append] at rooted
      exact Option.some.inj rooted
  | cons liege back =>
      -- The liege of the faction would stand above it twice.
      have upper := (List.isChain_split.mp (List.cons_append ▸ verified)).2
      have sworn := (List.isChain_cons_cons.mp upper).1
      have started : front ++ [place.faction] ≠ [] := List.concat_ne_nil _ _
      rcases List.exists_cons_of_ne_nil started with ⟨first, rest, start⟩
      rw [List.append_cons, start, List.cons_append] at verified distinct
      have own := (List.isChain_cons_cons.mp verified).1
      rw [sworn] at own
      cases own
      exact absurd (List.mem_append_right rest List.mem_cons_self) (List.nodup_cons.mp distinct).1

theorem Grown.ascent_above {liege : FactionId} {lieges : List FactionId}
    (grown : Grown edges maxDepth root place) (above : place.above = liege :: lieges) :
    edges.liegeOf place.faction = some liege ∧ Ascent edges maxDepth [liege] liege lieges ∧
      (liege :: lieges).getLast? = some root := by
  have verified := grown.verified single
  have distinct := grown.distinct
  have shallow := grown.shallow
  have rooted := grown.rooted
  rw [Place.lineage, above] at verified rooted
  rw [above] at distinct shallow
  rcases List.isChain_cons_cons.mp verified with ⟨sworn, upper⟩
  rcases List.nodup_cons.mp distinct with ⟨unrepeated, rest⟩
  refine ⟨sworn, ⟨upper, rest, ?_, (Nat.le_succ _).trans shallow⟩, rooted⟩
  exact fun other member seen => unrepeated (List.mem_singleton.mp seen ▸ member)

/-- What stands above a faction below the root is the same wherever it stands. -/
theorem Grown.above_unique (grown : Grown edges maxDepth root place)
    (otherGrown : Grown edges maxDepth root other) (same : place.faction = other.faction)
    (below : place.above ≠ []) (otherBelow : other.above ≠ []) : place.above = other.above := by
  rcases List.exists_cons_of_ne_nil below with ⟨liege, lieges, above⟩
  rcases List.exists_cons_of_ne_nil otherBelow with ⟨otherLiege, others, otherAbove⟩
  rcases grown.ascent_above single above with ⟨sworn, ascent, ends⟩
  rcases otherGrown.ascent_above single otherAbove with ⟨otherSworn, otherAscent, otherEnds⟩
  rw [same, otherSworn] at sworn
  cases sworn
  rw [above, otherAbove, ascent.unique otherAscent ends otherEnds]

omit single in
theorem Grown.faction_eq_root_of_top (grown : Grown edges maxDepth root place)
    (top : place.above = []) : place.faction = root := by
  have rooted := grown.rooted
  rw [Place.lineage, top] at rooted
  exact Option.some.inj rooted

omit single in
/-- The root stands above every place but the first. -/
theorem Grown.root_mem_above (grown : Grown edges maxDepth root place)
    (below : place.above ≠ []) : root ∈ place.above := by
  rcases List.exists_cons_of_ne_nil below with ⟨liege, lieges, above⟩
  have rooted := grown.rooted
  rw [Place.lineage, above] at rooted
  exact above ▸ List.mem_of_getLast? rooted

variable (limits root)

theorem count_vassalTree_le_one {faction : FactionId} (differs : faction ≠ root) :
    (vassalTree edges limits root).1.factions.count faction ≤ 1 := by
  have distinct := nodup_lineages_vassalTree edges limits root
  have grown := grown_vassalTree edges limits root
  have below : ∀ place ∈ (vassalTree edges limits root).1.places, place.faction = faction →
      place.above ≠ [] := fun place member own top =>
    differs (own.symm.trans ((grown place member).faction_eq_root_of_top top))
  by_cases occurs : ∃ place ∈ (vassalTree edges limits root).1.places, place.faction = faction
  · rcases occurs with ⟨place, member, own⟩
    have known : ∀ other ∈ (vassalTree edges limits root).1.places, other.faction = faction →
        other.lineage ∈ [place.lineage] := by
      intro other otherMember otherOwn
      have same := otherOwn.trans own.symm
      have above := (grown other otherMember).above_unique single (grown place member) same
        (below other otherMember otherOwn) (below place member own)
      have equal : other.lineage = place.lineage := congrArg₂ List.cons same above
      exact equal ▸ List.mem_singleton_self other.lineage
    exact count_factions_le distinct known
  · have known : ∀ other ∈ (vassalTree edges limits root).1.places, other.faction = faction →
        other.lineage ∈ [] := fun other member own => (occurs ⟨other, member, own⟩).elim
    exact (count_factions_le distinct known).trans (Nat.zero_le 1)

theorem count_root_vassalTree_le_two :
    (vassalTree edges limits root).1.factions.count root ≤ 2 := by
  have distinct := nodup_lineages_vassalTree edges limits root
  have grown := grown_vassalTree edges limits root
  by_cases returns : ∃ place ∈ (vassalTree edges limits root).1.places,
      place.faction = root ∧ place.above ≠ []
  · rcases returns with ⟨place, member, own, below⟩
    have known : ∀ other ∈ (vassalTree edges limits root).1.places, other.faction = root →
        other.lineage ∈ [[root], place.lineage] := by
      intro other otherMember otherOwn
      by_cases top : other.above = []
      · have equal : other.lineage = [root] := congrArg₂ List.cons otherOwn top
        exact equal ▸ List.mem_cons_self
      · have same := otherOwn.trans own.symm
        have above := (grown other otherMember).above_unique single (grown place member) same
          top below
        have equal : other.lineage = place.lineage := congrArg₂ List.cons same above
        exact equal ▸ List.mem_cons_of_mem _ (List.mem_singleton_self _)
    exact count_factions_le distinct known
  · have known : ∀ other ∈ (vassalTree edges limits root).1.places, other.faction = root →
        other.lineage ∈ [[root]] := by
      intro other otherMember otherOwn
      by_cases top : other.above = []
      · have equal : other.lineage = [root] := congrArg₂ List.cons otherOwn top
        exact equal ▸ List.mem_singleton_self _
      · exact (returns ⟨other, otherMember, otherOwn, top⟩).elim
    exact (count_factions_le distinct known).trans (Nat.le_succ 1)

theorem take_liegeChain_eq_lineage (grown : Grown edges limits.maxDepth root place)
    (unrepeated : place.faction ∉ place.above) :
    (liegeChain edges limits place.faction).1.factions.take (place.above.length + 1) =
      place.lineage := by
  have begins := (grown.ascent single unrepeated).isPrefix_climb limits place.faction
  rw [factions_liegeChain, List.take_succ_cons, ← List.prefix_iff_eq_take.mp begins]
  rfl

end

/-- Where no faction claims several lieges, a vassal tree names no faction twice,
save that its root may come back once, as a leaf. The chain of every other node
begins with the node's lineage. -/
theorem lineages_begin_liegeChains {edges : EdgeList} (single : edges.SingleLieges)
    (limits : Limits) (root : FactionId) :
    let tree := (vassalTree edges limits root).1
    (∀ faction ≠ root, tree.factions.count faction ≤ 1) ∧
      tree.factions.count root ≤ 2 ∧
      (∀ place ∈ tree.places, place.faction = root → place.above ≠ [] →
        place.tree.vassals = []) ∧
      ∀ place ∈ tree.places, (place.faction = root → place.above = []) →
        (liegeChain edges limits place.faction).1.factions.take (place.above.length + 1) =
          place.lineage := by
  intro tree
  have grown := grown_vassalTree edges limits root
  refine ⟨fun faction differs => count_vassalTree_le_one limits root single differs,
    count_root_vassalTree_le_two limits root single, ?_, ?_⟩
  · intro place member own below
    exact (grown place member).cut (own ▸ (grown place member).root_mem_above below)
  · intro place member first
    apply take_liegeChain_eq_lineage limits root single (grown place member)
    intro repeated
    have top := first ((grown place member).faction_eq_root single repeated)
    rw [top] at repeated
    cases repeated

theorem lineages_begin_liegeChains_at_court :
    let limits : Limits := { maxDepth := 64, maxNodes := 4, warnOnMultipleLieges := false }
    let tree := (vassalTree court limits crown).1
    tree.preorder = [(0, crown), (1, duke), (2, earl), (3, crown)] ∧
      (∀ faction ≠ crown, tree.factions.count faction ≤ 1) ∧
      tree.factions.count crown ≤ 2 ∧
      (∀ place ∈ tree.places, place.faction = crown → place.above ≠ [] →
        place.tree.vassals = []) ∧
      ∀ place ∈ tree.places, (place.faction = crown → place.above = []) →
        (liegeChain court limits place.faction).1.factions.take (place.above.length + 1) =
          place.lineage := by
  intro limits tree
  exact ⟨by decide, lineages_begin_liegeChains (by decide) limits crown⟩

end Diplomacy.Hierarchy
