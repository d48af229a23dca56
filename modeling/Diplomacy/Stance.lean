import Diplomacy.Text.Uppercase

/-!
What one faction declares another to be. An edge from `A` to `B` reads "A
declares B to be its ...": under `liege` A is the subordinate, under `vassal`
the overlord. A stance is binding once the other side records its counterpart;
war needs none.
-/

namespace Diplomacy

inductive Stance where
  | ally
  | atWar
  | liege
  | vassal
deriving DecidableEq, Repr

namespace Stance

def name : Stance → String
  | .ally => "ALLY"
  | .atWar => "AT_WAR"
  | .liege => "LIEGE"
  | .vassal => "VASSAL"

instance : ToString Stance := ⟨name⟩

def all : List Stance := [.ally, .atWar, .liege, .vassal]

theorem mem_all (stance : Stance) : stance ∈ all := by
  cases stance <;> decide

/-- The stance whose name is the upper-case form of a text. -/
def parse? (text : String) : Option Stance :=
  all.find? fun stance => stance.name.toList = Uppercase.characters text.toList

/-- The stance that the other side must record for this one to be binding. -/
def reciprocal : Stance → Option Stance
  | .ally => some .ally
  | .liege => some .vassal
  | .vassal => some .liege
  | .atWar => none

/-- Being the counterpart is symmetric. -/
theorem reciprocal_eq_some_comm {left right : Stance} :
    left.reciprocal = some right ↔ right.reciprocal = some left := by
  cases left <;> cases right <;> simp [reciprocal]

/-- No two stances share a name. -/
theorem eq_of_name_eq {left right : Stance} (equal : left.name = right.name) : left = right := by
  cases left <;> cases right <;> simp_all [name]

end Stance

end Diplomacy
