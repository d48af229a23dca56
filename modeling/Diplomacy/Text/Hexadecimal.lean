/-!
Hexadecimal digits as characters. Writing uses lower-case letters; reading
accepts either case.
-/

namespace Diplomacy.Hexadecimal

/-- The lower-case character of a digit below sixteen. -/
def character (digit : Nat) : Char :=
  if digit < 10 then Char.ofNat (48 + digit) else Char.ofNat (87 + digit)

/-- The value of a digit in either case. -/
def digit? (character : Char) : Option Nat :=
  if '0' ≤ character ∧ character ≤ '9' then some (character.toNat - 48)
  else if 'a' ≤ character ∧ character ≤ 'f' then some (character.toNat - 87)
  else if 'A' ≤ character ∧ character ≤ 'F' then some (character.toNat - 55)
  else none

def isDigit (character : Char) : Bool := (digit? character).isSome

/-- The values of a text in which every character is a digit. -/
def digits? (characters : List Char) : Option (List Nat) := characters.mapM digit?

theorem digit?_character {digit : Nat} (small : digit < 16) :
    digit? (character digit) = some digit := by
  revert digit
  decide

theorem lt_of_digit?_eq_some {character : Char} {digit : Nat}
    (read : digit? character = some digit) : digit < 16 := by
  have range (low high : Char) (inside : low ≤ character ∧ character ≤ high) :
      low.toNat ≤ character.toNat ∧ character.toNat ≤ high.toNat := inside
  unfold digit? at read
  split at read
  · have := range _ _ ‹_›
    simp at read this
    omega
  · split at read
    · have := range _ _ ‹_›
      simp at read this
      omega
    · split at read
      · have := range _ _ ‹_›
        simp at read this
        omega
      · simp at read

theorem digits?_map_character {digits : List Nat} (small : ∀ digit ∈ digits, digit < 16) :
    digits? (digits.map character) = some digits := by
  induction digits with
  | nil => rfl
  | cons digit rest induction =>
      have rest_read := induction fun other member => small other (List.mem_cons_of_mem _ member)
      simp only [digits?] at rest_read
      simp [digits?, digit?_character (small digit List.mem_cons_self), rest_read]

end Diplomacy.Hexadecimal
