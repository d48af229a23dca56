import Diplomacy.Identifier.Basic
import Diplomacy.Numeral

/-!
The stored form of an identifier: its sixteen bytes, most significant first. A
blob of any other length is no identifier.
-/

namespace Diplomacy.Identifier

variable {kind : Kind}

/-- The sixteen bytes of an identifier. -/
def bytes (identifier : Identifier kind) : List UInt8 :=
  (Numeral.digits 256 16 identifier.value).map UInt8.ofNat

/-- The identifier of a blob, if the blob has sixteen bytes. -/
def ofBytes? (bytes : List UInt8) : Option (Identifier kind) :=
  if bytes.length = 16 then ofNat? (Numeral.value 256 (bytes.map UInt8.toNat)) else none

@[simp] theorem length_bytes (identifier : Identifier kind) : identifier.bytes.length = 16 := by
  simp [bytes]

/-- The bytes of an identifier read back as that identifier. -/
theorem ofBytes?_bytes (identifier : Identifier kind) :
    ofBytes? identifier.bytes = some identifier := by
  have restored : identifier.bytes.map UInt8.toNat = Numeral.digits 256 16 identifier.value := by
    simp only [bytes, List.map_map]
    refine (List.map_congr_left fun digit member => ?_).trans (List.map_id _)
    have small := Numeral.lt_of_mem_digits (by decide) member
    simpa using Nat.mod_eq_of_lt small
  have value_back : Numeral.value 256 (Numeral.digits 256 16 identifier.value)
      = identifier.value :=
    Numeral.value_digits_of_lt (Nat.lt_of_lt_of_eq identifier.value_lt (by decide))
  simp only [ofBytes?, length_bytes, if_true, restored, value_back, ofNat?,
    identifier.value_lt, dif_pos]

end Diplomacy.Identifier
