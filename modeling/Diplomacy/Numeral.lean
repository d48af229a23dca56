/-!
Fixed-width positional numerals, most significant digit first. A number is
written in a given radix with a given number of digits, and a list of digits
has a value; on numerals of the right width the two are inverse. Identifier
text (radix 16) and identifier blobs (radix 256) are both read and written
through these two functions.
-/

namespace Diplomacy.Numeral

/-- The lowest `width` digits of a number. -/
def digits (radix : Nat) : (width : Nat) → Nat → List Nat
  | 0, _ => []
  | width + 1, number => number / Nat.pow radix width % radix :: digits radix width number

def value (radix : Nat) : List Nat → Nat
  | [] => 0
  | digit :: rest => digit * Nat.pow radix rest.length + value radix rest

@[simp] theorem length_digits (radix width number : Nat) :
    (digits radix width number).length = width := by
  induction width with
  | zero => rfl
  | succ width induction => simp [digits, induction]

theorem lt_of_mem_digits {radix width number digit : Nat} (positive : 0 < radix)
    (member : digit ∈ digits radix width number) : digit < radix := by
  induction width with
  | zero => simp [digits] at member
  | succ width induction =>
      rcases List.mem_cons.mp member with equal | member
      · exact equal ▸ Nat.mod_lt _ positive
      · exact induction member

/-- A numeral of `width` digits stands for a number below the radix to the power `width`. -/
theorem value_lt {radix : Nat} {numeral : List Nat}
    (small : ∀ digit ∈ numeral, digit < radix) :
    value radix numeral < Nat.pow radix numeral.length := by
  induction numeral with
  | nil => simp [value]
  | cons digit rest induction =>
      have rest_lt := induction fun other member => small other (List.mem_cons_of_mem _ member)
      have digit_lt := small digit List.mem_cons_self
      simp only [Nat.pow_eq] at rest_lt
      have bound : (digit + 1) * radix ^ rest.length ≤ radix * radix ^ rest.length :=
        Nat.mul_le_mul_right _ digit_lt
      simp only [value, List.length_cons, Nat.pow_eq, Nat.pow_succ]
      rw [Nat.mul_comm (radix ^ rest.length) radix]
      rw [Nat.add_mul] at bound
      omega

/-- Reading a written number gives back its low digits. -/
theorem value_digits (radix width number : Nat) :
    value radix (digits radix width number) = number % Nat.pow radix width := by
  induction width with
  | zero => simp [digits, value, Nat.mod_one]
  | succ width induction =>
      simp only [digits, value, length_digits, induction, Nat.pow_eq, Nat.pow_succ]
      rw [Nat.mod_mul, Nat.mul_comm, Nat.add_comm]

/-- A number that fits is read back exactly. -/
theorem value_digits_of_lt {radix width number : Nat} (fits : number < Nat.pow radix width) :
    value radix (digits radix width number) = number := by
  rw [value_digits, Nat.mod_eq_of_lt fits]

/-- Only the part of a number that fits the width is written. -/
theorem digits_mod (radix width number : Nat) :
    digits radix width (number % Nat.pow radix width) = digits radix width number := by
  suffices general : ∀ extra, width ≤ extra →
      digits radix width (number % radix ^ extra) = digits radix width number from
    general width (Nat.le_refl _)
  intro extra
  induction width with
  | zero => intro; rfl
  | succ width induction =>
      intro fits
      have split : radix ^ extra = radix ^ width * radix * radix ^ (extra - width - 1) := by
        rw [← Nat.pow_succ, ← Nat.pow_add]
        congr 1
        omega
      simp only [digits, Nat.pow_eq, induction (by omega)]
      congr 1
      rw [split, Nat.mul_assoc, Nat.mod_mul_right_div_self, Nat.mod_mul_right_mod]

/-- Writing the value of a numeral gives the numeral back. -/
theorem digits_value {radix : Nat} {numeral : List Nat}
    (small : ∀ digit ∈ numeral, digit < radix) :
    digits radix numeral.length (value radix numeral) = numeral := by
  induction numeral with
  | nil => rfl
  | cons digit rest induction =>
      have rest_small : ∀ other ∈ rest, other < radix :=
        fun other member => small other (List.mem_cons_of_mem _ member)
      have rest_lt := value_lt rest_small
      have digit_lt := small digit List.mem_cons_self
      have positive : 0 < Nat.pow radix rest.length := Nat.zero_lt_of_lt rest_lt
      simp only [value, List.length_cons, digits]
      congr 1
      · rw [Nat.mul_comm, Nat.mul_add_div positive, Nat.div_eq_of_lt rest_lt, Nat.add_zero,
          Nat.mod_eq_of_lt digit_lt]
      · rw [← digits_mod, Nat.mul_comm, Nat.mul_add_mod, Nat.mod_eq_of_lt rest_lt,
          induction rest_small]

end Diplomacy.Numeral
