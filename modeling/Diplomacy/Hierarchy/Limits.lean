/-!
The bounds and switches of a derivation over the recorded edges.
-/

namespace Diplomacy.Hierarchy

/-- How far a derivation may go, and whether it reports doubtful data. -/
structure Limits where
  /-- The deepest level of a tree, and the most lieges of a chain. -/
  maxDepth : Nat
  /-- The most nodes of a vassal tree. Its root is kept even under a bound of zero. -/
  maxNodes : Nat
  /-- Whether a chain warns about factions with several `LIEGE` edges. -/
  warnOnMultipleLieges : Bool
deriving DecidableEq, Repr

end Diplomacy.Hierarchy
