import Diplomacy.Text.Uppercase

/-!
Which texts have a given upper-case form, where that is a name in ASCII. Only ten
characters outside ASCII have a form within it, and seven of them are ligatures,
of letters that a name may not have side by side. The texts are then the case
variants of the name: each letter is written in either case, and a few letters in
one way more.
-/

namespace Diplomacy.Uppercase

/-! ## Single characters -/

theorem character_of_ascii {symbol : Char} (ascii : symbol.toNat < 0x80) :
    character symbol = [symbol.toUpper] :=
  if_pos ascii

theorem casing_of_ascii {symbol : Char} (ascii : symbol.toNat < 0x80) :
    symbol.toLower.toNat < 0x80 ∧ symbol.toLower.toUpper = symbol.toUpper ∧
      (symbol = symbol.toUpper ∨ symbol = symbol.toUpper.toLower) := by
  have each : ∀ point < 0x80,
      let symbol := Char.ofNat point
      symbol.toLower.toNat < 0x80 ∧ symbol.toLower.toUpper = symbol.toUpper ∧
        (symbol = symbol.toUpper ∨ symbol = symbol.toUpper.toLower) := by
    decide +kernel
  have own := each symbol.toNat ascii
  rwa [Char.ofNat_toNat] at own

/-- The characters outside ASCII with an upper-case form in ASCII, other than ligatures. -/
def narrow : List (Char × List Char) :=
  [('ß', ['S', 'S']), ('ı', ['I']), ('ſ', ['S'])]

/-- The ligatures of ASCII letters. -/
def ligatures : List (Char × List Char) :=
  [('ﬀ', ['F', 'F']), ('ﬁ', ['F', 'I']), ('ﬂ', ['F', 'L']), ('ﬃ', ['F', 'F', 'I']),
   ('ﬄ', ['F', 'F', 'L']), ('ﬅ', ['S', 'T']), ('ﬆ', ['S', 'T'])]

theorem longForms_in_ascii : ∀ form ∈ longForms,
    (∀ point ∈ form.2, (Char.ofNat point).toNat < 0x80) →
      (Char.ofNat form.1, form.2.map Char.ofNat) ∈ narrow ++ ligatures := by
  decide +kernel

/-- The upper-case forms of a series lie outside ASCII, all of them. -/
def Series.Wide (series : Series) : Prop :=
  0x80 ≤ series.upper ∧
    (series.upper + (series.last - series.first) < 0xD800 ∨
      0xDFFF < series.upper ∧ series.upper + (series.last - series.first) < 0x110000)

instance (series : Series) : Decidable series.Wide :=
  inferInstanceAs (Decidable (_ ∧ _))

theorem wide_or_narrow_of_series : ∀ series ∈ wideSeries, series.Wide ∨
    series.first = series.last ∧
      (Char.ofNat series.first, [Char.ofNat series.upper]) ∈ narrow := by
  decide +kernel

theorem Series.between_of_covers {series : Series} {point : Nat}
    (covers : series.covers point = true) : series.first ≤ point ∧ point ≤ series.last := by
  simp only [Series.covers, Bool.and_eq_true, decide_eq_true_eq] at covers
  exact covers.1

theorem Series.Wide.le_toNat {series : Series} (wide : series.Wide) {point : Nat}
    (covers : series.covers point = true) :
    0x80 ≤ (Char.ofNat (series.upper + (point - series.first))).toNat := by
  rcases wide with ⟨high, bounds⟩
  have between := between_of_covers covers
  have valid : (series.upper + (point - series.first)).isValidChar := by
    unfold Nat.isValidChar
    omega
  have kept : (Char.ofNat (series.upper + (point - series.first))).toNat =
      series.upper + (point - series.first) := by
    rw [Char.ofNat, dif_pos valid]
    rfl
  omega

/-- A character outside ASCII whose upper-case form lies within is one of ten. -/
theorem mem_of_character_in_ascii {symbol : Char} (wide : 0x80 ≤ symbol.toNat)
    (ascii : ∀ letter ∈ character symbol, letter.toNat < 0x80) :
    (symbol, character symbol) ∈ narrow ++ ligatures := by
  unfold character at ascii ⊢
  simp only [if_neg (Nat.not_lt.mpr wide)] at ascii ⊢
  split at ascii
  · next points found =>
      rcases List.lookup_eq_some_iff.mp found with ⟨before, after, split, _⟩
      have listed : (symbol.toNat, points) ∈ longForms :=
        split ▸ List.mem_append_right before List.mem_cons_self
      have form := longForms_in_ascii _ listed fun point member =>
        ascii _ (List.mem_map_of_mem member)
      rwa [Char.ofNat_toNat] at form
  · split at ascii
    · next series found =>
        have covers := List.find?_some found
        rcases wide_or_narrow_of_series series (List.mem_of_find?_eq_some found) with
          outside | ⟨single, form⟩
        · exact absurd (ascii _ List.mem_cons_self) (Nat.not_lt.mpr (outside.le_toNat covers))
        · have between := Series.between_of_covers covers
          have only : series.first = symbol.toNat := by omega
          rw [only, Char.ofNat_toNat] at form
          rw [only, Nat.sub_self, Nat.add_zero]
          exact List.mem_append_left ligatures form
    · exact absurd (ascii _ List.mem_cons_self) (Nat.not_lt.mpr wide)

/-! ## Names -/

/-- A text that is a name but for the case of its letters. The letters `I` and `S`
and the pair of two `S` have one lower-case form more, outside ASCII. -/
inductive CaseVariant : (name text : List Char) → Prop where
  | nil : CaseVariant [] []
  | upper (letter : Char) {name text : List Char} (rest : CaseVariant name text) :
      CaseVariant (letter :: name) (letter :: text)
  | lower (letter : Char) {name text : List Char} (rest : CaseVariant name text) :
      CaseVariant (letter :: name) (letter.toLower :: text)
  | dotless {name text : List Char} (rest : CaseVariant name text) :
      CaseVariant ('I' :: name) ('ı' :: text)
  | long {name text : List Char} (rest : CaseVariant name text) :
      CaseVariant ('S' :: name) ('ſ' :: text)
  | sharp {name text : List Char} (rest : CaseVariant name text) :
      CaseVariant ('S' :: 'S' :: name) ('ß' :: text)

/-- A name in upper case that no ligature is a part of. -/
structure Plain (name : List Char) : Prop where
  ascii : ∀ letter ∈ name, letter.toNat < 0x80
  upper : ∀ letter ∈ name, letter.toUpper = letter
  loose : ∀ ligature ∈ ligatures, ¬ ligature.2 <:+: name

section

variable {name rest text : List Char} {letter symbol : Char}

theorem Plain.of_suffix (plain : Plain name) (ends : rest <:+ name) : Plain rest where
  ascii letter member := plain.ascii letter (ends.mem member)
  upper letter member := plain.upper letter (ends.mem member)
  loose ligature member part := plain.loose ligature member (part.trans ends.isInfix)

theorem Plain.of_cons (plain : Plain (letter :: rest)) : Plain rest :=
  plain.of_suffix (List.suffix_cons letter rest)

/-- A case variant has its name for upper-case form. -/
theorem CaseVariant.characters_eq (variant : CaseVariant name text) (plain : Plain name) :
    characters text = name := by
  induction variant with
  | nil => rfl
  | upper letter _ induction =>
      have ascii := plain.ascii letter List.mem_cons_self
      have upper := plain.upper letter List.mem_cons_self
      rw [characters_cons, induction plain.of_cons, character_of_ascii ascii, upper]
      rfl
  | lower letter _ induction =>
      have ascii := plain.ascii letter List.mem_cons_self
      have upper := plain.upper letter List.mem_cons_self
      rcases casing_of_ascii ascii with ⟨lowerAscii, raised, _⟩
      rw [characters_cons, induction plain.of_cons, character_of_ascii lowerAscii, raised, upper]
      rfl
  | dotless _ induction =>
      rw [characters_cons, induction plain.of_cons]
      rfl
  | long _ induction =>
      rw [characters_cons, induction plain.of_cons]
      rfl
  | sharp _ induction =>
      rw [characters_cons, induction plain.of_cons.of_cons]
      rfl

/-- A text whose upper-case form is a name is a case variant of it. -/
theorem caseVariant_characters (plain : Plain (characters text)) :
    CaseVariant (characters text) text := by
  induction text with
  | nil => exact .nil
  | cons symbol text induction =>
      rw [characters_cons] at plain ⊢
      have rest := induction (plain.of_suffix (List.suffix_append _ _))
      rcases Nat.lt_or_ge symbol.toNat 0x80 with ascii | wide
      · have either := (casing_of_ascii ascii).2.2
        rw [character_of_ascii ascii]
        generalize symbol.toUpper = letter at either ⊢
        rcases either with rfl | rfl
        · exact .upper symbol rest
        · exact .lower letter rest
      · -- The form of one of ten characters, and a plain name has no part like a ligature.
        have form := mem_of_character_in_ascii wide fun letter member =>
          plain.ascii letter (List.mem_append_left _ member)
        rcases List.mem_append.mp form with form | ligature
        · generalize character symbol = letters at form ⊢
          simp only [narrow, List.mem_cons, Prod.mk.injEq, List.not_mem_nil, or_false] at form
          rcases form with ⟨rfl, rfl⟩ | ⟨rfl, rfl⟩ | ⟨rfl, rfl⟩
          · exact .sharp rest
          · exact .dotless rest
          · exact .long rest
        · have part : character symbol <:+: character symbol ++ characters text :=
            (List.prefix_append _ _).isInfix
          exact absurd part (plain.loose _ ligature)

theorem characters_eq_iff (plain : Plain name) :
    characters text = name ↔ CaseVariant name text := by
  constructor
  · rintro rfl
    exact caseVariant_characters plain
  · exact fun variant => variant.characters_eq plain

theorem CaseVariant.mem (variant : CaseVariant name text) (member : symbol ∈ text) :
    symbol ∈ name ∨ symbol ∈ name.map Char.toLower ∨ symbol ∈ ['ı', 'ſ', 'ß'] := by
  induction variant with
  | nil => cases member
  | upper letter _ induction => grind
  | lower letter _ induction => grind
  | dotless _ induction => grind
  | long _ induction => grind
  | sharp _ induction => grind

end

end Diplomacy.Uppercase
