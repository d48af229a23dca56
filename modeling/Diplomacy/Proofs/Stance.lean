import Diplomacy.Proofs.Text.Uppercase
import Diplomacy.Stance
import Diplomacy.Text.Blank

/-!
Which texts name a stance. They are the case variants of the four names, and no
text is a variant of two of them.
-/

namespace Diplomacy.Stance

open Uppercase

theorem letters_of_name {stance : Stance} {letter : Char} (member : letter ∈ stance.name.toList) :
    letter.toNat < 0x80 ∧ letter.toUpper = letter ∧ Blank.isBlank letter = false ∧
      Blank.isBlank letter.toLower = false := by
  -- One Boolean for the whole name: a quantifier over characters is decided by trying them all.
  have checked : stance.name.toList.all (fun letter =>
      letter.toNat < 0x80 ∧ letter.toUpper = letter ∧ Blank.isBlank letter = false ∧
        Blank.isBlank letter.toLower = false) = true := by
    cases stance <;> decide
  exact of_decide_eq_true (List.all_eq_true.mp checked letter member)

theorem plain_name (stance : Stance) : Plain stance.name.toList where
  ascii _ member := (letters_of_name member).1
  upper _ member := (letters_of_name member).2.1
  loose := by cases stance <;> decide +kernel

theorem eq_of_toList_name_eq {left right : Stance}
    (equal : left.name.toList = right.name.toList) : left = right :=
  eq_of_name_eq (String.toList_injective equal)

/-- The stance that a text names has the upper-case form of the text for its name. -/
theorem characters_of_parse? {text : String} {stance : Stance}
    (parsed : parse? text = some stance) : characters text.toList = stance.name.toList := by
  have found := List.find?_some parsed
  rw [decide_eq_true_eq] at found
  exact found.symm

theorem parse?_eq_some_iff {text : String} {stance : Stance} :
    parse? text = some stance ↔ characters text.toList = stance.name.toList := by
  constructor
  · exact characters_of_parse?
  · intro same
    cases found : parse? text with
    | none =>
        have missed := List.find?_eq_none.mp found stance (mem_all stance)
        exact absurd (decide_eq_true same.symm) missed
    | some other =>
        rw [eq_of_toList_name_eq ((characters_of_parse? found).symm.trans same)]

/-- A text names a stance exactly if it is a case variant of its name. So it is a
variant of one name only, it holds no white space, and it holds no characters
outside ASCII but the dotless, the long and the sharp letters. -/
theorem names_are_read_in_every_case (text : String) :
    (∀ stance, parse? text = some stance ↔ CaseVariant stance.name.toList text.toList) ∧
      (∀ left right : Stance, CaseVariant left.name.toList text.toList →
        CaseVariant right.name.toList text.toList → left = right) ∧
      ∀ stance, parse? text = some stance → ∀ symbol ∈ text.toList,
        Blank.isBlank symbol = false ∧ (symbol.toNat < 0x80 ∨ symbol ∈ ['ı', 'ſ', 'ß']) := by
  have reads : ∀ stance, parse? text = some stance ↔
      CaseVariant stance.name.toList text.toList := fun stance =>
    parse?_eq_some_iff.trans (characters_eq_iff (plain_name stance))
  refine ⟨reads, ?_, ?_⟩
  · intro left right leftVariant rightVariant
    have leftForm := leftVariant.characters_eq (plain_name left)
    have rightForm := rightVariant.characters_eq (plain_name right)
    exact eq_of_toList_name_eq (leftForm.symm.trans rightForm)
  · intro stance parsed symbol member
    rcases ((reads stance).mp parsed).mem member with letter | lower | wide
    · rcases letters_of_name letter with ⟨ascii, _, filled, _⟩
      exact ⟨filled, .inl ascii⟩
    · rcases List.mem_map.mp lower with ⟨letter, named, rfl⟩
      rcases letters_of_name named with ⟨ascii, _, _, filled⟩
      exact ⟨filled, .inl (casing_of_ascii ascii).1⟩
    · have checked : ['ı', 'ſ', 'ß'].all (fun symbol => Blank.isBlank symbol = false) = true := by
        decide
      exact ⟨of_decide_eq_true (List.all_eq_true.mp checked symbol wide), .inr wide⟩

/-- Both cases and the sharp letter, in one text. -/
theorem vassal_is_read_with_sharp_letter :
    let text := "vaßAl"
    parse? text = some .vassal ∧ CaseVariant vassal.name.toList text.toList ∧
      (∀ other : Stance, CaseVariant other.name.toList text.toList → other = .vassal) ∧
      ∀ symbol ∈ text.toList,
        Blank.isBlank symbol = false ∧ (symbol.toNat < 0x80 ∨ symbol ∈ ['ı', 'ſ', 'ß']) := by
  intro text
  rcases names_are_read_in_every_case text with ⟨reads, alone, symbols⟩
  have parsed : parse? text = some .vassal := by decide
  have variant := (reads .vassal).mp parsed
  exact ⟨parsed, variant, fun other named => alone other .vassal named variant,
    symbols .vassal parsed⟩

end Diplomacy.Stance
