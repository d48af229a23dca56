import Diplomacy.Identifier.Basic

/-!
Liege chains: a faction, its liege, that one's liege, and so on up. A chain is
never empty, and is determined by the list of its factions.
-/

namespace Diplomacy

/-- A faction and, unless it is the outermost one, its liege's chain. -/
inductive LiegeChain where
  | top (faction : FactionId)
  | under (faction : FactionId) (liege : LiegeChain)
deriving DecidableEq

namespace LiegeChain

instance : Inhabited LiegeChain := ⟨.top default⟩

/-- The factions of a chain, from the starting one up to the outermost liege. -/
def factions : LiegeChain → List FactionId
  | .top faction => [faction]
  | .under faction liege => faction :: liege.factions

/-- The number of lieges above the starting faction. -/
def depth (chain : LiegeChain) : Nat := chain.factions.length - 1

/-- The outermost liege: the starting faction itself if it has none. -/
def outermost : LiegeChain → FactionId
  | .top faction => faction
  | .under _ liege => liege.outermost

/-- A faction put below a chain, or alone if there is none. -/
def extend (faction : FactionId) : Option LiegeChain → LiegeChain
  | none => .top faction
  | some liege => .under faction liege

/-- The chain of a list of factions, built from the outermost liege down; there
is none for the empty list. -/
def ofFactions? (factions : List FactionId) : Option LiegeChain :=
  factions.foldr (fun faction liege => some (extend faction liege)) none

end LiegeChain

end Diplomacy
