import Diplomacy.Identifier.Basic

/-!
Fresh identifiers. A mint hands out time-ordered identifiers of version 7: 48
bits of a millisecond clock, the version digit, 12 bits, the variant 2, and 62
bits. The 74 free bits count the identifiers handed out, so that no two are
equal however fast they are asked for.
-/

namespace Diplomacy.Identifier

variable {kind : Kind}

/-- The version digit of an identifier, its 13th of 32. -/
def version (identifier : Identifier kind) : Nat :=
  identifier.value / 0x1000_0000_0000_0000_0000 % 16

/-- The variant of an identifier, the top two bits of its low half. -/
def variant (identifier : Identifier kind) : Nat := identifier.value / 0x4000_0000_0000_0000 % 4

/-- The version 7 identifier of a clock reading and a serial number, each cut
to its number of bits. -/
def timeOrdered (milliseconds serial : Nat) : Identifier kind where
  value :=
    milliseconds % 0x1_0000_0000_0000 * 0x1_0000_0000_0000_0000_0000
      + 0x7000_0000_0000_0000_0000
      + serial / 0x4000_0000_0000_0000 % 0x1000 * 0x1_0000_0000_0000_0000
      + 0x8000_0000_0000_0000
      + serial % 0x4000_0000_0000_0000
  value_lt := by omega

@[simp] theorem version_timeOrdered (milliseconds serial : Nat) :
    (timeOrdered milliseconds serial : Identifier kind).version = 7 := by
  simp only [version, timeOrdered]
  omega

@[simp] theorem variant_timeOrdered (milliseconds serial : Nat) :
    (timeOrdered milliseconds serial : Identifier kind).variant = 2 := by
  simp only [variant, timeOrdered]
  omega

structure Mint where
  milliseconds : Nat
  serial : Nat
deriving Repr

namespace Mint

/-- The next identifier. When the serial numbers of a millisecond are used up,
the clock is moved on by one. -/
def next (mint : Mint) : Identifier kind × Mint :=
  (timeOrdered mint.milliseconds mint.serial,
    if mint.serial + 1 < 0x400_0000_0000_0000_0000 then { mint with serial := mint.serial + 1 }
    else { milliseconds := mint.milliseconds + 1, serial := 0 })

/-- The next several identifiers, in the order they are handed out. -/
def take (mint : Mint) : (count : Nat) → List (Identifier kind) × Mint
  | 0 => ([], mint)
  | count + 1 =>
      let (identifier, mint) := mint.next
      let (rest, mint) := mint.take count
      (identifier :: rest, mint)

end Mint

end Diplomacy.Identifier
