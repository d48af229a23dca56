import Diplomacy.Proofs.Identifier.Text
import Diplomacy.Proofs.Repository.Row

/-!
One order in three forms. Numerals of one width are ordered as their values are,
and neither writing the digits as characters or as bytes nor setting hyphens
between them changes which of two lists is smaller; so identifiers, their texts
and their stored bytes are all in the same order.
-/

namespace Diplomacy

/-! ## Lists in lexicographic order -/

section Lists

variable {α β : Type} [LT α] [LT β]

theorem append_lt_append_iff : ∀ {left right : List α}, left.length = right.length →
    ∀ rest other : List α,
      left ++ rest < right ++ other ↔ left < right ∨ left = right ∧ rest < other
  | [], [], _, rest, other => by simp
  | first :: left, second :: right, same, rest, other => by
      have tails := append_lt_append_iff (Nat.succ.inj same) rest other
      simp only [List.cons_append, List.cons_lt_cons_iff, tails, List.cons.injEq]
      tauto

/-- A change of the items that keeps their order keeps the order of lists. -/
theorem map_lt_map_iff {change : α → β} : ∀ {left right : List α},
    (∀ first ∈ left, ∀ second ∈ right,
      (change first < change second ↔ first < second) ∧
        (change first = change second ↔ first = second)) →
    (left.map change < right.map change ↔ left < right)
  | [], [], _ => by simp
  | [], _ :: _, _ => by simp
  | _ :: _, [], _ => by simp
  | first :: left, second :: right, keeps => by
      have heads := keeps first List.mem_cons_self second List.mem_cons_self
      have tails : left.map change < right.map change ↔ left < right := by
        apply map_lt_map_iff
        intro item member other otherMember
        exact keeps item (List.mem_cons_of_mem _ member) other (List.mem_cons_of_mem _ otherMember)
      simp only [List.map_cons, List.cons_lt_cons_iff, heads, tails]

end Lists

namespace Numeral

theorem mul_add_lt_mul_add_iff {size low other first second : Nat} (small : low < size)
    (otherSmall : other < size) :
    first * size + low < second * size + other ↔
      first < second ∨ first = second ∧ low < other := by
  rcases Nat.lt_trichotomy first second with smaller | rfl | greater
  · have step : (first + 1) * size ≤ second * size := Nat.mul_le_mul_right size smaller
    rw [Nat.add_mul] at step
    omega
  · omega
  · have step : (second + 1) * size ≤ first * size := Nat.mul_le_mul_right size greater
    rw [Nat.add_mul] at step
    omega

/-- Numerals of one width are in the order of their values. -/
theorem value_lt_value_iff {radix : Nat} : ∀ {left right : List Nat}, left.length = right.length →
    (∀ digit ∈ left, digit < radix) → (∀ digit ∈ right, digit < radix) →
    (value radix left < value radix right ↔ left < right)
  | [], [], _, _, _ => by simp
  | first :: left, second :: right, same, small, otherSmall => by
      have lengths : left.length = right.length := Nat.succ.inj same
      have tailSmall := (List.forall_mem_cons.mp small).2
      have otherTailSmall := (List.forall_mem_cons.mp otherSmall).2
      have bound := value_lt tailSmall
      have otherBound := value_lt otherTailSmall
      rw [← lengths] at otherBound
      simp only [value, ← lengths, mul_add_lt_mul_add_iff bound otherBound, List.cons_lt_cons_iff,
        value_lt_value_iff lengths tailSmall otherTailSmall]

theorem digits_lt_digits_iff {radix width left right : Nat} (positive : 0 < radix)
    (fits : left < Nat.pow radix width) (otherFits : right < Nat.pow radix width) :
    digits radix width left < digits radix width right ↔ left < right := by
  rw [← value_lt_value_iff (by simp) (fun _ => lt_of_mem_digits positive)
    (fun _ => lt_of_mem_digits positive), value_digits_of_lt fits, value_digits_of_lt otherFits]

end Numeral

namespace Hexadecimal

theorem character_lt_character_iff : ∀ first < 16, ∀ second < 16,
    (character first < character second ↔ first < second) ∧
      (character first = character second ↔ first = second) := by
  decide

end Hexadecimal

namespace Identifier

variable {kind : Kind} {left right : Identifier kind}

/-- Hyphens stand at the same places in two texts, so that they never decide. -/
theorem Grouped.lt_iff {lengths : List Nat} {characters text others other : List Char}
    (grouped : Grouped lengths characters text) (groupedOther : Grouped lengths others other) :
    text < other ↔ characters < others := by
  induction grouped generalizing others other with
  | none =>
      cases groupedOther
      rfl
  | last fits =>
      cases groupedOther
      rfl
  | more fits _ induction =>
      cases groupedOther with
      | more otherFits rest =>
          have same := fits.trans otherFits.symm
          rw [append_lt_append_iff same, append_lt_append_iff same, List.cons_lt_cons_iff,
            induction rest]
          simp

theorem digits_lt_digits_iff : left.digits < right.digits ↔ left < right := by
  have fits (identifier : Identifier kind) : identifier.value < Nat.pow 16 32 :=
    Nat.lt_of_lt_of_eq identifier.value_lt (by decide)
  rw [digits, digits, map_lt_map_iff,
    Numeral.digits_lt_digits_iff (by decide) (fits left) (fits right)]
  · rfl
  · intro first member second otherMember
    exact Hexadecimal.character_lt_character_iff
      first (Numeral.lt_of_mem_digits (by decide) member)
      second (Numeral.lt_of_mem_digits (by decide) otherMember)

theorem text_lt_text_iff : left.text < right.text ↔ left < right := by
  rw [String.lt_iff, toList_text, toList_text,
    left.grouped_characters.lt_iff right.grouped_characters, digits_lt_digits_iff]

theorem text_injective (equal : left.text = right.text) : left = right := by
  have read := parse_text left
  rw [equal, parse_text] at read
  exact (Except.ok.inj read).symm

theorem bytes_lt_bytes_iff : left.bytes < right.bytes ↔ left < right := by
  have fits (identifier : Identifier kind) : identifier.value < Nat.pow 256 16 :=
    Nat.lt_of_lt_of_eq identifier.value_lt (by decide)
  rw [bytes, bytes, map_lt_map_iff,
    Numeral.digits_lt_digits_iff (by decide) (fits left) (fits right)]
  · rfl
  · intro first member second otherMember
    have small := Numeral.lt_of_mem_digits (by decide) member
    have otherSmall := Numeral.lt_of_mem_digits (by decide) otherMember
    rw [UInt8.lt_iff_toNat_lt, ← UInt8.toNat_inj, UInt8.toNat_ofNat_of_lt' small,
      UInt8.toNat_ofNat_of_lt' otherSmall]
    exact ⟨Iff.rfl, Iff.rfl⟩

theorem readIdentifier_of_length {blob : List UInt8} (other : blob.length ≠ 16) (index : Nat)
    (column : String) :
    (Row.readIdentifier index column (.blob blob) : Except Row.Fault (Identifier kind)) =
      .error (.conversion "Blob" index (.blobLength blob.length)) := by
  have unread : (ofBytes? blob : Option (Identifier kind)) = none := if_neg other
  rw [Row.readIdentifier, unread]

/-- Identifiers, their texts and their stored bytes are in the same order and
equal at the same time. Sixteen bytes are the bytes of exactly one identifier,
from which they are read back, and a blob of any other length is refused. -/
theorem order_is_the_same_in_every_form :
    (∀ left right : Identifier kind,
      (left < right ↔ left.text < right.text) ∧ (left < right ↔ left.bytes < right.bytes) ∧
      (left = right ↔ left.text = right.text) ∧ (left = right ↔ left.bytes = right.bytes)) ∧
    (∀ identifier : Identifier kind, ofBytes? identifier.bytes = some identifier) ∧
    (∀ blob : List UInt8, blob.length = 16 →
      ∃! identifier : Identifier kind, identifier.bytes = blob) ∧
    (∀ blob : List UInt8, blob.length ≠ 16 →
      (ofBytes? blob : Option (Identifier kind)) = none ∧
      ∀ index column,
        (Row.readIdentifier index column (.blob blob) : Except Row.Fault (Identifier kind)) =
          .error (.conversion "Blob" index (.blobLength blob.length))) := by
  refine ⟨fun left right => ⟨text_lt_text_iff.symm, bytes_lt_bytes_iff.symm, ?texts, ?blobs⟩,
    ofBytes?_bytes, fun blob sixteen => ?one, fun blob other => ⟨if_neg other, ?refused⟩⟩
  case texts => exact ⟨congrArg text, text_injective⟩
  case blobs => exact ⟨congrArg bytes, bytes_injective⟩
  case one =>
    rcases exists_ofBytes?_eq_some kind sixteen with ⟨identifier, read⟩
    have written := ofBytes?_eq_some_iff.mp read
    refine ⟨identifier, written.symm, fun other same => ?_⟩
    exact bytes_injective (same.trans written)
  case refused => exact readIdentifier_of_length other

end Identifier

end Diplomacy
