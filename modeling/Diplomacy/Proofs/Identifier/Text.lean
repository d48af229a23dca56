import Diplomacy.Identifier.Text
import Diplomacy.Proofs.Text.Hexadecimal

/-!
The texts that are read as identifiers. A text is read exactly if it holds 32
hexadecimal digits in one of four layouts, and it is read as the number that
these digits spell; so an identifier is read back from its own text, and two
texts name the same identifier exactly if their digits agree up to case.
-/

namespace Diplomacy.Identifier

variable {kind : Kind} {identifier : Identifier kind}
  {characters digits inside rest text : List Char} {lengths : List Nat}

/-! ## Layouts -/

/-- Characters in groups of the given lengths, and the text in which a hyphen
stands between any two groups. -/
inductive Grouped : (lengths : List Nat) → (characters text : List Char) → Prop where
  | none : Grouped [] [] []
  | last {length : Nat} {group : List Char} (fits : group.length = length) :
      Grouped [length] group group
  | more {length next : Nat} {lengths : List Nat} {group characters text : List Char}
      (fits : group.length = length) (others : Grouped (next :: lengths) characters text) :
      Grouped (length :: next :: lengths) (group ++ characters) (group ++ '-' :: text)

/-- The four layouts of 32 characters in a text. -/
inductive LaidOut (digits : List Char) : (text : List Char) → Prop where
  | bare : LaidOut digits digits
  | hyphenated {text : List Char} (grouped : Grouped [8, 4, 4, 4, 12] digits text) :
      LaidOut digits text
  | braced {inside : List Char} (grouped : Grouped [8, 4, 4, 4, 12] digits inside) :
      LaidOut digits ('{' :: inside ++ ['}'])
  | named {marker rest : List Char} (anyCase : marker.map Char.toLower = "urn:uuid:".toList)
      (grouped : Grouped [8, 4, 4, 4, 12] digits rest) : LaidOut digits (marker ++ rest)

/-- A text of 32 hexadecimal digits, in either case and in one of the layouts. -/
structure Written (digits text : List Char) : Prop where
  count : digits.length = 32
  hexadecimal : ∀ symbol ∈ digits, ∃ digit, Hexadecimal.Denotes symbol digit
  layout : LaidOut digits text

theorem Grouped.length_characters (grouped : Grouped lengths characters text) :
    characters.length = lengths.sum := by
  induction grouped with
  | none => rfl
  | last fits => simp [fits]
  | more fits _ induction => simp [fits, induction]

theorem Grouped.length_text (grouped : Grouped lengths characters text) :
    text.length = characters.length + (lengths.length - 1) := by
  induction grouped with
  | none => rfl
  | last => rfl
  | more _ _ induction =>
      simp only [List.length_append, List.length_cons] at induction ⊢
      omega

theorem grouped_hyphenate : ∀ {lengths : List Nat} {characters : List Char},
    characters.length = lengths.sum → Grouped lengths characters (hyphenate lengths characters)
  | [], characters, fits => by
      rw [List.length_eq_zero_iff.mp fits]
      exact .none
  | [length], characters, fits => by
      rw [hyphenate, List.take_of_length_le (by simp [fits])]
      exact .last (by simpa using fits)
  | length :: next :: lengths, characters, fits => by
      have enough : length ≤ characters.length := by simp [fits]
      have others : Grouped (next :: lengths) (characters.drop length)
          (hyphenate (next :: lengths) (characters.drop length)) := by
        apply grouped_hyphenate
        simp [fits]
      have first : (characters.take length).length = length := by simp [enough]
      simpa [hyphenate] using Grouped.more first others

theorem unhyphenate?_eq_some_iff : ∀ {lengths : List Nat} {characters text : List Char},
    unhyphenate? lengths text = some characters ↔ Grouped lengths characters text
  | [], characters, text => by
      constructor
      · intro read
        simp only [unhyphenate?, List.isEmpty_iff] at read
        split at read
        · next empty =>
            cases read
            rw [empty]
            exact .none
        · cases read
      · intro grouped
        cases grouped
        rfl
  | [length], characters, text => by
      constructor
      · intro read
        rcases Option.ite_none_right_eq_some.mp read with ⟨fits, equal⟩
        cases equal
        exact .last fits
      · intro grouped
        cases grouped with
        | last fits => exact if_pos fits
  | length :: next :: lengths, characters, text => by
      constructor
      · intro read
        simp only [unhyphenate?] at read
        split at read
        · next rest dropped =>
            rcases Option.map_eq_some_iff.mp read with ⟨others, readOthers, rfl⟩
            have split : text = text.take length ++ '-' :: rest := by
              rw [← dropped, List.take_append_drop]
            have fits : (text.take length).length = length := by
              have longer := congrArg List.length dropped
              simp only [List.length_drop, List.length_cons] at longer
              rw [List.length_take]
              omega
            have grouped := Grouped.more fits (unhyphenate?_eq_some_iff.mp readOthers)
            rwa [← split] at grouped
        · cases read
      · intro grouped
        cases grouped with
        | more fits others =>
            simp [unhyphenate?, ← fits, unhyphenate?_eq_some_iff.mpr others]

theorem unbraced?_eq_some_iff :
    unbraced? characters = some inside ↔ characters = '{' :: inside ++ ['}'] := by
  unfold unbraced?
  split
  · next rest =>
      constructor
      · intro read
        rcases Option.ite_none_right_eq_some.mp read with ⟨closed, equal⟩
        rcases List.getLast?_eq_some_iff.mp closed with ⟨front, rfl⟩
        simpa using equal
      · intro equal
        cases equal
        simp
  · next other =>
      constructor
      · intro read
        cases read
      · intro equal
        exact absurd equal (other _)

theorem afterResourceMarker?_eq_some_iff :
    afterResourceMarker? characters = some rest ↔
      ∃ marker, marker.map Char.toLower = "urn:uuid:".toList ∧ characters = marker ++ rest := by
  constructor
  · intro read
    rcases Option.ite_none_right_eq_some.mp read with ⟨anyCase, equal⟩
    cases equal
    exact ⟨_, anyCase, (List.take_append_drop _ _).symm⟩
  · rintro ⟨marker, anyCase, rfl⟩
    have length : marker.length = resourceMarker.length := by
      rw [← List.length_map Char.toLower, anyCase]
      rfl
    simp [afterResourceMarker?, ← length]
    exact anyCase

/-! ## Reading -/

theorem ofDigits?_eq_some_iff :
    ofDigits? digits = some identifier ↔
      digits.length = 32 ∧ Hexadecimal.Spells digits identifier.value := by
  simp only [ofDigits?, Option.ite_none_right_eq_some, Option.bind_eq_some_iff, ofNat?_eq_some_iff,
    Hexadecimal.spells_iff_value]

theorem ofHyphenated?_eq_some_iff :
    ofHyphenated? text = some identifier ↔
      ∃ digits, Grouped [8, 4, 4, 4, 12] digits text ∧ ofDigits? digits = some identifier := by
  simp only [ofHyphenated?, groupLengths, Option.bind_eq_some_iff, unhyphenate?_eq_some_iff]

theorem length_of_grouped (grouped : Grouped [8, 4, 4, 4, 12] digits text) : text.length = 36 := by
  rw [grouped.length_text, grouped.length_characters]
  rfl

/-- Layouts differ in their lengths, so that at most one of them is read. -/
theorem ofDigits?_eq_none (long : text.length ≠ 32) :
    (ofDigits? text : Option (Identifier kind)) = none := if_neg long

theorem ofHyphenated?_eq_none (other : text.length ≠ 36) :
    (ofHyphenated? text : Option (Identifier kind)) = none := by
  rw [Option.eq_none_iff_forall_ne_some]
  intro identifier read
  rcases ofHyphenated?_eq_some_iff.mp read with ⟨digits, grouped, _⟩
  exact other (length_of_grouped grouped)

theorem unbraced_eq_none (other : text.length ≠ 38) :
    ((unbraced? text).bind ofHyphenated? : Option (Identifier kind)) = none := by
  rw [Option.bind_eq_none_iff]
  intro inside opened
  apply ofHyphenated?_eq_none
  intro length
  rw [unbraced?_eq_some_iff.mp opened] at other
  simp [length] at other

/-- A text is read exactly if it holds digits in a layout, and as what they spell. -/
theorem ofCharacters?_eq_some_iff :
    ofCharacters? text = some identifier ↔
      ∃ digits, LaidOut digits text ∧ ofDigits? digits = some identifier := by
  constructor
  · intro read
    simp only [ofCharacters?, Option.orElse_eq_some, Option.bind_eq_some_iff] at read
    rcases read with bare | ⟨_, hyphenated | ⟨_, enclosed⟩⟩
    · exact ⟨text, .bare, bare⟩
    · rcases ofHyphenated?_eq_some_iff.mp hyphenated with ⟨digits, grouped, spelled⟩
      exact ⟨digits, .hyphenated grouped, spelled⟩
    · rcases enclosed with ⟨inside, opened, braced⟩ | ⟨_, rest, marked, named⟩
      · rcases ofHyphenated?_eq_some_iff.mp braced with ⟨digits, grouped, spelled⟩
        rw [unbraced?_eq_some_iff.mp opened]
        exact ⟨digits, .braced grouped, spelled⟩
      · rcases ofHyphenated?_eq_some_iff.mp named with ⟨digits, grouped, spelled⟩
        rcases afterResourceMarker?_eq_some_iff.mp marked with ⟨marker, anyCase, rfl⟩
        exact ⟨digits, .named anyCase grouped, spelled⟩
  · rintro ⟨digits, layout, spelled⟩
    cases layout with
    | bare => simp [ofCharacters?, spelled]
    | hyphenated grouped =>
        have length := length_of_grouped grouped
        have read := ofHyphenated?_eq_some_iff.mpr ⟨digits, grouped, spelled⟩
        rw [ofCharacters?, ofDigits?_eq_none (by omega)]
        simp [read]
    | @braced inside grouped =>
        have length : ('{' :: inside ++ ['}']).length = 38 := by simp [length_of_grouped grouped]
        have read := ofHyphenated?_eq_some_iff.mpr ⟨digits, grouped, spelled⟩
        have opened := unbraced?_eq_some_iff.mpr (Eq.refl ('{' :: inside ++ ['}']))
        rw [ofCharacters?, ofDigits?_eq_none (by omega), ofHyphenated?_eq_none (by omega), opened]
        simp [read]
    | @named marker rest anyCase grouped =>
        have length : (marker ++ rest).length = 45 := by
          rw [List.length_append, length_of_grouped grouped, ← List.length_map Char.toLower,
            anyCase]
          rfl
        have read := ofHyphenated?_eq_some_iff.mpr ⟨digits, grouped, spelled⟩
        have marked : afterResourceMarker? (marker ++ rest) = some rest :=
          afterResourceMarker?_eq_some_iff.mpr ⟨marker, anyCase, rfl⟩
        rw [ofCharacters?, ofDigits?_eq_none (by omega), ofHyphenated?_eq_none (by omega),
          unbraced_eq_none (by omega), marked]
        simp [read]

theorem parse_eq_ok_iff {text : String} :
    parse text = .ok identifier ↔ ofCharacters? text.toList = some identifier := by
  unfold parse
  split
  · next read => simp [read]
  · next unread => simp [unread]

theorem parse_eq_ok_iff_written {text : String} :
    parse text = .ok identifier ↔
      ∃ digits, Written digits text.toList ∧ Hexadecimal.Spells digits identifier.value := by
  simp only [parse_eq_ok_iff, ofCharacters?_eq_some_iff, ofDigits?_eq_some_iff]
  constructor
  · rintro ⟨digits, layout, count, spells⟩
    exact ⟨digits, ⟨count, spells.hexadecimal, layout⟩, spells⟩
  · rintro ⟨digits, written, spells⟩
    exact ⟨digits, written.layout, written.count, spells⟩

/-- The digits of a written text spell an identifier, which is the one that it is read as. -/
theorem Written.parse {text : String} (written : Written digits text.toList) :
    ∃ identifier : Identifier kind,
      parse text = .ok identifier ∧ Hexadecimal.Spells digits identifier.value := by
  rcases Hexadecimal.exists_spells written.hexadecimal with ⟨number, spells⟩
  have fits := spells.lt
  rw [written.count] at fits
  let identifier : Identifier kind := ⟨number, Nat.lt_of_lt_of_eq fits (by decide)⟩
  exact ⟨identifier, parse_eq_ok_iff_written.mpr ⟨digits, written, spells⟩, spells⟩

/-! ## Writing -/

theorem spells_digits (identifier : Identifier kind) :
    Hexadecimal.Spells identifier.digits identifier.value :=
  Hexadecimal.spells_written (Nat.lt_of_lt_of_eq identifier.value_lt (by decide))

@[simp] theorem length_digits (identifier : Identifier kind) : identifier.digits.length = 32 := by
  simp [Identifier.digits]

theorem grouped_characters (identifier : Identifier kind) :
    Grouped [8, 4, 4, 4, 12] identifier.digits identifier.characters :=
  grouped_hyphenate identifier.length_digits

theorem toList_text (identifier : Identifier kind) :
    identifier.text.toList = identifier.characters := by
  simp [text]

theorem written_text (identifier : Identifier kind) :
    Written identifier.digits identifier.text.toList where
  count := identifier.length_digits
  hexadecimal := identifier.spells_digits.hexadecimal
  layout := by
    rw [toList_text]
    exact .hyphenated identifier.grouped_characters

theorem parse_text (identifier : Identifier kind) : parse identifier.text = .ok identifier :=
  parse_eq_ok_iff_written.mpr ⟨_, identifier.written_text, identifier.spells_digits⟩

/-- An identifier is written as the digits that spell it, in lower case and in groups. -/
theorem grouped_of_spells (count : digits.length = 32)
    (spells : Hexadecimal.Spells digits identifier.value) :
    Grouped [8, 4, 4, 4, 12] (digits.map Char.toLower) identifier.text.toList := by
  rw [spells.map_toLower, count, toList_text]
  exact identifier.grouped_characters

/-- An identifier is read back from its own text. The texts that are read are
those of 32 hexadecimal digits in one of the four layouts; each is read as the
number that its digits spell, which is written as these digits in lower case
and in groups, so that two texts name one identifier exactly if their digits
agree up to case. -/
theorem text_is_read_in_four_layouts :
    (∀ identifier : Identifier kind, parse identifier.text = .ok identifier) ∧
    (∀ text : String, (∃ identifier : Identifier kind, parse text = .ok identifier) ↔
      ∃ digits, Written digits text.toList) ∧
    (∀ (text : String) (digits : List Char), Written digits text.toList →
      ∃ identifier : Identifier kind, parse text = .ok identifier ∧
        Hexadecimal.Spells digits identifier.value ∧
        Grouped [8, 4, 4, 4, 12] (digits.map Char.toLower) identifier.text.toList) ∧
    (∀ (text other : String) (digits otherDigits : List Char), Written digits text.toList →
      Written otherDigits other.toList →
      ((parse text : Except ParseError (Identifier kind)) = parse other ↔
        digits.map Char.toLower = otherDigits.map Char.toLower)) := by
  refine ⟨parse_text, fun text => ⟨?accepted, ?refused⟩, ?written, ?same⟩
  case accepted =>
    rintro ⟨identifier, read⟩
    rcases parse_eq_ok_iff_written.mp read with ⟨digits, written, _⟩
    exact ⟨digits, written⟩
  case refused =>
    rintro ⟨digits, written⟩
    rcases written.parse with ⟨identifier, read, _⟩
    exact ⟨identifier, read⟩
  case written =>
    intro text digits written
    rcases written.parse with ⟨identifier, read, spells⟩
    exact ⟨identifier, read, spells, grouped_of_spells written.count spells⟩
  case same =>
    intro text other digits otherDigits written writtenOther
    rcases written.parse with ⟨identifier, read, spells⟩
    rcases writtenOther.parse with ⟨otherIdentifier, readOther, spellsOther⟩
    have lengths := written.count.trans writtenOther.count.symm
    rw [read, readOther, ← spells.eq_iff lengths spellsOther, Except.ok.injEq]
    exact ⟨congrArg value, ext⟩

/-- A name in upper case and bare digits in lower case are read alike. -/
theorem name_and_digits_are_read_alike :
    (∃ faction : FactionId, parse "URN:UUID:550E8400-E29B-41D4-A716-446655440000" = .ok faction) ∧
    (parse "URN:UUID:550E8400-E29B-41D4-A716-446655440000" : Except ParseError FactionId) =
      parse "550e8400e29b41d4a716446655440000" := by
  have hexadecimal {digits : List Char} {places : List Nat}
      (read : Hexadecimal.digits? digits = some places) :
      ∀ symbol ∈ digits, ∃ digit, Hexadecimal.Denotes symbol digit :=
    (Hexadecimal.spells_iff_value.mpr ⟨_, read, rfl⟩).hexadecimal
  have named : Written "550E8400E29B41D4A716446655440000".toList
      ("URN:UUID:".toList ++ "550E8400-E29B-41D4-A716-446655440000".toList) :=
    ⟨by decide, hexadecimal rfl, .named (by decide) (unhyphenate?_eq_some_iff.mp (by decide))⟩
  have bare : Written "550e8400e29b41d4a716446655440000".toList
      "550e8400e29b41d4a716446655440000".toList :=
    ⟨by decide, hexadecimal rfl, .bare⟩
  rcases text_is_read_in_four_layouts with ⟨_, accepted, _, same⟩
  exact ⟨(accepted _).mpr ⟨_, named⟩, (same _ _ _ _ named bare).mpr (by decide)⟩

end Diplomacy.Identifier
