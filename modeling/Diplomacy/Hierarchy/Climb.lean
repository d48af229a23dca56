import Diplomacy.EdgeList.Reciprocity
import Diplomacy.Hierarchy.LiegeChain
import Diplomacy.Hierarchy.Limits

/-!
The liege chain of a faction. A chain climbs from liege to liege as single liege
lookups do, and stops at a faction without a verified liege, before a faction
that is in the chain already, or at the depth limit. The last two are reported.
-/

namespace Diplomacy.Hierarchy

/-- The lieges above `current`, at most `levels` of them, and the warnings
raised. `below` holds the factions of the chain so far, `current` included. -/
def climb (edges : EdgeList) (limits : Limits) (start : FactionId) : (levels : Nat) →
    (below : List FactionId) → (current : FactionId) → List FactionId × List Warning
  | levels, below, current =>
      let (liege?, audit) := edges.auditedLiegeOf current limits.warnOnMultipleLieges
      match liege?, levels with
      | none, _ => ([], audit)
      | some liege, levels =>
          if liege ∈ below then ([], audit ++ [.chainCycle current liege])
          else
            match levels with
            | 0 => ([], audit ++ [.chainDepth start limits.maxDepth])
            | levels + 1 =>
                let (lieges, warnings) := climb edges limits start levels (liege :: below) liege
                (liege :: lieges, audit ++ warnings)

/-- The liege chain of a faction and the warnings raised while deriving it. -/
def liegeChain (edges : EdgeList) (limits : Limits) (start : FactionId) :
    LiegeChain × List Warning :=
  let (lieges, warnings) := climb edges limits start limits.maxDepth [start] start
  ((LiegeChain.ofFactions? (start :: lieges)).getD (.top start), warnings)

end Diplomacy.Hierarchy
