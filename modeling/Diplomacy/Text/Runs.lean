/-!
Sets of characters given by runs of code points.
-/

namespace Diplomacy.Runs

/-- Whether a character lies in one of several runs, each given by its first
and last code points. -/
def isIn (runs : List (Nat × Nat)) (character : Char) : Bool :=
  runs.any fun (first, last) => first ≤ character.toNat && character.toNat ≤ last

theorem isIn_iff {runs : List (Nat × Nat)} {character : Char} :
    isIn runs character = true ↔
      ∃ run ∈ runs, run.1 ≤ character.toNat ∧ character.toNat ≤ run.2 := by
  simp [isIn]

end Diplomacy.Runs
