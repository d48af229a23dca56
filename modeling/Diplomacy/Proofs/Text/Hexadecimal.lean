import Mathlib.Data.Nat.Digits.Defs
import Diplomacy.Numeral
import Diplomacy.Proofs.Steps
import Diplomacy.Text.Hexadecimal

/-!
What hexadecimal digits stand for, said without the ranges by which they are
read. A digit is known by its place in one of two rows of sixteen characters,
and a run of digits spells the number whose digits of radix sixteen they are,
most significant first. Two runs of one length spell the same number exactly if
they differ in case only.
-/

namespace Diplomacy

/-- The value of a numeral is the number with its digits in the opposite order,
the least significant first. -/
theorem Numeral.value_eq_ofDigits (radix : Nat) (numeral : List Nat) :
    Numeral.value radix numeral = Nat.ofDigits radix numeral.reverse := by
  induction numeral with
  | nil => rfl
  | cons digit rest induction =>
      rw [Numeral.value, induction, Nat.ofDigits_reverse_cons, Nat.pow_eq, Nat.mul_comm,
        Nat.add_comm]

namespace Hexadecimal

/-- A digit in either case, known by its place among the sixteen. -/
def Denotes (symbol : Char) (digit : Nat) : Prop :=
  "0123456789abcdef".toList[digit]? = some symbol ∨
    "0123456789ABCDEF".toList[digit]? = some symbol

instance (symbol : Char) (digit : Nat) : Decidable (Denotes symbol digit) :=
  inferInstanceAs (Decidable (_ ∨ _))

/-- The number that a run of digits stands for, most significant digit first. -/
def Spells (symbols : List Char) (number : Nat) : Prop :=
  ∃ digits, List.Forall₂ Denotes symbols digits ∧ Nat.ofDigits 16 digits.reverse = number

variable {symbol : Char} {digit number : Nat} {symbols left right : List Char} {digits : List Nat}

/-! ## Single digits -/

/-- What holds of each symbol in the two rows holds of every digit. -/
theorem forall_denotes {motive : Char → Nat → Prop} (denotes : Denotes symbol digit)
    (lower : ∀ digit, ∀ bound : digit < 16, motive ("0123456789abcdef".toList[digit]) digit)
    (upper : ∀ digit, ∀ bound : digit < 16, motive ("0123456789ABCDEF".toList[digit]) digit) :
    motive symbol digit := by
  rcases denotes with found | found
  · rcases List.getElem?_eq_some_iff.mp found with ⟨bound, rfl⟩
    exact lower digit bound
  · rcases List.getElem?_eq_some_iff.mp found with ⟨bound, rfl⟩
    exact upper digit bound

theorem digit?_of_denotes (denotes : Denotes symbol digit) : digit? symbol = some digit := by
  apply forall_denotes (motive := fun symbol digit => digit? symbol = some digit) denotes
  · decide
  · decide

/-- Each range of characters that is read is a part of one of the rows. -/
theorem denotes_of_digit? (read : digit? symbol = some digit) : Denotes symbol digit := by
  have placed (start low high : Nat) (start_le : start ≤ low)
      (row : ∀ digit < 16, low ≤ start + digit → start + digit ≤ high →
        Denotes (Char.ofNat (start + digit)) digit)
      (range : low ≤ symbol.toNat ∧ symbol.toNat ≤ high)
      (place : symbol.toNat - start = digit) : Denotes symbol digit := by
    have code : start + digit = symbol.toNat := by omega
    have inRow := row digit (lt_of_digit?_eq_some read)
    rw [code, Char.ofNat_toNat] at inRow
    exact inRow range.1 range.2
  unfold digit? at read
  split at read
  · exact placed 48 48 57 (by decide) (by decide) ‹_› (Option.some.inj read)
  · split at read
    · exact placed 87 97 102 (by decide) (by decide) ‹_› (Option.some.inj read)
    · split at read
      · exact placed 55 65 70 (by decide) (by decide) ‹_› (Option.some.inj read)
      · cases read

theorem digit?_eq_some_iff : digit? symbol = some digit ↔ Denotes symbol digit :=
  ⟨denotes_of_digit?, digit?_of_denotes⟩

/-- The lower-case form of a digit is the one that is written. -/
theorem toLower_of_denotes (denotes : Denotes symbol digit) : symbol.toLower = character digit := by
  apply forall_denotes (motive := fun symbol digit => symbol.toLower = character digit) denotes
  · decide
  · decide

/-! ## Runs of digits -/

theorem digits?_eq_some_iff :
    digits? symbols = some digits ↔ List.Forall₂ Denotes symbols digits := by
  simp only [digits?, mapM_eq_some_iff, digit?_eq_some_iff]

theorem lt_of_mem_of_denotes (denote : List.Forall₂ Denotes symbols digits) :
    ∀ digit ∈ digits, digit < 16 := by
  induction denote with
  | nil => simp
  | cons first _ induction =>
      exact List.forall_mem_cons.mpr ⟨lt_of_digit?_eq_some (digit?_of_denotes first), induction⟩

theorem map_toLower_of_denotes (denote : List.Forall₂ Denotes symbols digits) :
    symbols.map Char.toLower = digits.map character := by
  induction denote with
  | nil => rfl
  | cons first _ induction => rw [List.map_cons, List.map_cons, toLower_of_denotes first, induction]

theorem spells_iff_value :
    Spells symbols number ↔
      ∃ digits, digits? symbols = some digits ∧ Numeral.value 16 digits = number := by
  simp only [Spells, digits?_eq_some_iff, Numeral.value_eq_ofDigits]

/-- The digits written for a number spell it, as far as they reach. -/
theorem spells_written {width : Nat} (fits : number < Nat.pow 16 width) :
    Spells ((Numeral.digits 16 width number).map character) number := by
  have small : ∀ digit ∈ Numeral.digits 16 width number, digit < 16 :=
    fun digit member => Numeral.lt_of_mem_digits (by decide) member
  exact spells_iff_value.mpr
    ⟨_, digits?_map_character small, Numeral.value_digits_of_lt fits⟩

theorem exists_spells (hexadecimal : ∀ symbol ∈ symbols, ∃ digit, Denotes symbol digit) :
    ∃ number, Spells symbols number := by
  suffices runs : ∃ digits, List.Forall₂ Denotes symbols digits by
    rcases runs with ⟨digits, denote⟩
    exact ⟨_, digits, denote, rfl⟩
  induction symbols with
  | nil => exact ⟨[], .nil⟩
  | cons symbol symbols induction =>
      rcases List.forall_mem_cons.mp hexadecimal with ⟨⟨digit, first⟩, rest⟩
      rcases induction rest with ⟨digits, denote⟩
      exact ⟨digit :: digits, .cons first denote⟩

theorem Spells.lt (spells : Spells symbols number) : number < Nat.pow 16 symbols.length := by
  rcases spells with ⟨digits, denote, rfl⟩
  rw [← Numeral.value_eq_ofDigits, denote.length_eq]
  exact Numeral.value_lt (lt_of_mem_of_denotes denote)

theorem Spells.hexadecimal (spells : Spells symbols number) :
    ∀ symbol ∈ symbols, ∃ digit, Denotes symbol digit := by
  rcases spells with ⟨digits, denote, -⟩
  induction denote with
  | nil => simp
  | cons first _ induction => exact List.forall_mem_cons.mpr ⟨⟨_, first⟩, induction⟩

theorem Spells.unique {other : Nat} (spells : Spells symbols number)
    (again : Spells symbols other) : number = other := by
  rcases spells_iff_value.mp spells with ⟨digits, read, rfl⟩
  rcases spells_iff_value.mp again with ⟨others, readAgain, rfl⟩
  rw [Option.some.inj (read.symm.trans readAgain)]

/-- In lower case, the digits of a number are the ones that are written for it. -/
theorem Spells.map_toLower (spells : Spells symbols number) :
    symbols.map Char.toLower = (Numeral.digits 16 symbols.length number).map character := by
  rcases spells with ⟨digits, denote, rfl⟩
  rw [map_toLower_of_denotes denote, ← Numeral.value_eq_ofDigits, denote.length_eq,
    Numeral.digits_value (lt_of_mem_of_denotes denote)]

/-- Of one length, digits that spell the same number differ in case only. -/
theorem Spells.eq_iff {other : Nat} (same : left.length = right.length)
    (spells : Spells left number) (spellsOther : Spells right other) :
    number = other ↔ left.map Char.toLower = right.map Char.toLower := by
  rw [spells.map_toLower, spellsOther.map_toLower]
  constructor
  · rintro rfl
    rw [same]
  · intro equal
    apply (spells_written spells.lt).unique
    rw [equal]
    exact spells_written spellsOther.lt

end Hexadecimal

end Diplomacy
