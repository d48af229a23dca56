import Diplomacy.Identifier.Basic

/-!
What a derivation over the recorded edges may warn about: doubtful data, and
each place where a hierarchy was cut off.
-/

namespace Diplomacy.Hierarchy

/-- A warning raised while lieges or vassals are looked up. -/
inductive Warning where
  /-- A faction records several `LIEGE` edges, of which only the first counts. -/
  | multipleLieges (faction : FactionId) (count : Nat)
  /-- A faction at the depth limit has vassals that are left out. -/
  | treeDepth (faction : FactionId) (maxDepth : Nat)
  /-- A vassal is already above its liege in the tree and is not expanded. -/
  | treeCycle (faction vassal : FactionId)
  /-- The tree may not grow further; raised once, where the first vassal is left out. -/
  | treeBudget (faction : FactionId) (maxNodes : Nat)
  /-- The liege of a chain's last faction is already in the chain. -/
  | chainCycle (faction liege : FactionId)
  /-- The chain from `start` goes on past the depth limit. -/
  | chainDepth (start : FactionId) (maxDepth : Nat)
deriving DecidableEq

end Diplomacy.Hierarchy
