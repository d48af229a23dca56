import Diplomacy.Json.Printer
import Diplomacy.Json.Reader

/-!
What is written as JSON is read back. Each reader stops where the writer
stopped, whatever follows: a string at its closing quote, a number before the
comma or the brace that ends its member. So an object is read as the members
that were written, and its whole text is consumed.
-/

namespace Diplomacy.Json

variable {character delimiter : Char} {characters rest : List Char} {text : String}

/-! ## Strings -/

/-- What a written character is read as. A control character without a letter of
its own is escaped by its number. -/
def pieceOf (character : Char) : Piece :=
  if character.toNat < 0x20 ∧ character ∉ ['\x08', '\x0c', '\n', '\r', '\t'] then
    .unit character.toNat
  else .character character

theorem pieceOf_of_visible {character : Char} (visible : ¬ character.toNat < 0x20) :
    pieceOf character = .character character := if_neg fun control => visible control.1

/-- A letter after a backslash is read as the character that it escapes. -/
theorem readPieces_letter {letter character : Char} (known : escaped? letter = some character)
    (other : letter ≠ 'u') (rest : List Char) :
    readPieces ('\\' :: letter :: rest) =
      (readPieces rest).map fun (pieces, rest) => (.character character :: pieces, rest) := by
  rw [readPieces, known]
  · cases readPieces rest <;> rfl
  · exact fun _ _ _ _ _ same _ => other same

/-- Four digits after `\u` are read as the number that they spell. -/
theorem readPieces_number {number : Nat} (small : number < 0x20) (rest : List Char) :
    readPieces (['\\', 'u', '0', '0', Hexadecimal.character (number / 16),
        Hexadecimal.character (number % 16)] ++ rest) =
      (readPieces rest).map fun (pieces, rest) => (.unit number :: pieces, rest) := by
  have fit : ∀ digit ∈ [0, 0, number / 16, number % 16], digit < 16 := by
    simp
    omega
  have digits : Hexadecimal.digits? ['0', '0', Hexadecimal.character (number / 16),
      Hexadecimal.character (number % 16)] = some [0, 0, number / 16, number % 16] :=
    Hexadecimal.digits?_map_character fit
  have whole : number / 16 * 16 + number % 16 = number := by omega
  simp only [List.cons_append, List.nil_append, readPieces, digits]
  cases readPieces rest <;> simp [whole]

theorem readPieces_writeCharacter (character : Char) (rest : List Char) :
    readPieces (writeCharacter character ++ rest) =
      (readPieces rest).map fun (pieces, rest) => (pieceOf character :: pieces, rest) := by
  unfold writeCharacter
  split
  · exact readPieces_letter rfl (by decide) rest
  · exact readPieces_letter rfl (by decide) rest
  · exact readPieces_letter rfl (by decide) rest
  · exact readPieces_letter rfl (by decide) rest
  · exact readPieces_letter rfl (by decide) rest
  · exact readPieces_letter rfl (by decide) rest
  · exact readPieces_letter rfl (by decide) rest
  · split
    · next backspace feed newline carriage tab control =>
        have piece : pieceOf character = .unit character.toNat := by
          apply if_pos
          simp only [control, List.mem_cons, List.not_mem_nil, or_false, not_or, true_and]
          exact ⟨backspace, feed, newline, carriage, tab⟩
        rw [piece]
        exact readPieces_number control rest
    · next visible =>
        rw [pieceOf_of_visible visible, List.singleton_append, readPieces, if_neg visible]
        · cases readPieces rest <;> rfl
        · assumption
        · assumption

theorem assemble_pieceOf (character : Char) (pieces : List Piece) :
    assemble (pieceOf character :: pieces) = (assemble pieces).map (character :: ·) := by
  unfold pieceOf
  split
  · next control =>
      have high : isHighSurrogate character.toNat = false := by
        simp [isHighSurrogate]
        omega
      have low : isLowSurrogate character.toNat = false := by
        simp [isLowSurrogate]
        omega
      cases pieces with
      | nil => simp [assemble, high, low]
      | cons piece pieces => cases piece <;> simp [assemble, high, low]
  · rw [assemble]

theorem readPieces_written (characters rest : List Char) :
    readPieces (characters.flatMap writeCharacter ++ '"' :: rest) =
      some (characters.map pieceOf, rest) := by
  induction characters with
  | nil => simp [readPieces]
  | cons character characters induction =>
      rw [List.flatMap_cons, List.append_assoc, readPieces_writeCharacter, induction]
      rfl

theorem assemble_map_pieceOf (characters : List Char) :
    assemble (characters.map pieceOf) = some characters := by
  induction characters with
  | nil => rfl
  | cons character characters induction =>
      rw [List.map_cons, assemble_pieceOf, induction]
      rfl

/-- A string is read up to its closing quote. -/
theorem readText_written (text : String) (rest : List Char) :
    readText (text.toList.flatMap writeCharacter ++ '"' :: rest) = some (some text, rest) := by
  simp [readText, readPieces_written, assemble_map_pieceOf]

/-! ## Numbers -/

theorem decimal_toDigits (number : Nat) : decimal (Nat.toDigits 10 number) = number := by
  have digits := @Nat.ofDigitChars_ten_toDigits number
  rw [Nat.ofDigitChars_eq_foldl] at digits
  simp only [Nat.mul_comm 10] at digits
  exact digits

/-- A number does not start with a superfluous zero. -/
theorem head?_toDigits_ne_zero {number : Nat} (positive : 0 < number) :
    (Nat.toDigits 10 number).head? ≠ some '0' := by
  induction number using Nat.strongRecOn with
  | ind number induction =>
      by_cases small : number < 10
      · rw [Nat.toDigits_of_lt_base small]
        have digits : ∀ digit < 10, 0 < digit → [Nat.digitChar digit].head? ≠ some '0' := by decide
        exact digits number small positive
      · have smaller := induction (number / 10) (by omega) (by omega)
        rw [Nat.toDigits_of_base_le (by decide) (by omega), List.head?_append]
        cases front : (Nat.toDigits 10 (number / 10)).head? with
        | none => exact absurd (List.head?_eq_none_iff.mp front) Nat.toDigits_ne_nil
        | some first => rwa [front] at smaller

/-- What may follow a member of an object. -/
def EndsMember (delimiter : Char) : Prop := delimiter = ',' ∨ delimiter = '}'

theorem EndsMember.not_digit (ends : EndsMember delimiter) : delimiter.isDigit = false := by
  rcases ends with rfl | rfl
  · decide
  · decide

/-- The digits of a number end before what ends its member. -/
theorem readDigits_toDigits (number : Nat) (ends : EndsMember delimiter) (rest : List Char) :
    readDigits (Nat.toDigits 10 number ++ delimiter :: rest) =
      some (Nat.toDigits 10 number, delimiter :: rest) := by
  have digits : ∀ character ∈ Nat.toDigits 10 number, character.isDigit = true :=
    fun character member => Nat.isDigit_of_mem_toDigits (by decide) (by decide) member
  have stops : ¬ delimiter.isDigit = true := by simp [ends.not_digit]
  have taken : (Nat.toDigits 10 number ++ delimiter :: rest).takeWhile Char.isDigit =
      Nat.toDigits 10 number := by
    rw [List.takeWhile_append_of_pos digits, List.takeWhile_cons_of_neg stops, List.append_nil]
  have dropped : (Nat.toDigits 10 number ++ delimiter :: rest).dropWhile Char.isDigit =
      delimiter :: rest := by
    rw [List.dropWhile_append_of_pos digits, List.dropWhile_cons_of_neg stops]
  simp [readDigits, taken, dropped, Nat.toDigits_ne_nil]

theorem readWhole_toDigits (number : Nat) (ends : EndsMember delimiter) (rest : List Char) :
    readWhole (Nat.toDigits 10 number ++ delimiter :: rest) =
      some (Nat.toDigits 10 number, delimiter :: rest) := by
  rw [readWhole, readDigits_toDigits number ends rest]
  rcases Nat.eq_zero_or_pos number with rfl | positive
  · rfl
  · simp [head?_toDigits_ne_zero positive]

theorem readUnsigned_writeNatural (number : Nat) (ends : EndsMember delimiter) (rest : List Char) :
    readUnsigned (writeNatural number ++ delimiter :: rest) =
      some (.natural number, delimiter :: rest) := by
  have fraction : skipFraction (delimiter :: rest) = some (false, delimiter :: rest) := by
    rcases ends with rfl | rfl <;> rfl
  have exponent : skipExponent (delimiter :: rest) = some (false, delimiter :: rest) := by
    rcases ends with rfl | rfl <;> rfl
  simp [readUnsigned, writeNatural, readWhole_toDigits number ends rest, fraction, exponent,
    decimal_toDigits]

/-! ## Values -/

/-- A written value that is read back within a member, whatever follows the member. -/
def ReadsBack (written : List Char) (value : Value) : Prop :=
  ∀ (fuel : Nat) (delimiter : Char) (rest : List Char), EndsMember delimiter →
    readValue (fuel + 1) (skipBlanks (written ++ delimiter :: rest)) =
      some (value, delimiter :: rest)

/-- A digit starts a number and nothing else. -/
theorem readValue_of_digit {first : Char} (digit : first.isDigit = true) (fuel : Nat)
    (rest : List Char) :
    readValue (fuel + 1) (skipBlanks (first :: rest)) = readUnsigned (first :: rest) := by
  have visible : ¬ isBlank first = true := by
    intro blank
    simp only [isBlank, Bool.or_eq_true, decide_eq_true_eq] at blank
    rcases blank with ((rfl | rfl) | rfl) | rfl <;> exact absurd digit (by decide)
  rw [skipBlanks, List.dropWhile_cons_of_neg visible, readValue, readNumber]
  -- No other reader starts with a digit.
  all_goals
    rintro _ ⟨⟩
    exact absurd digit (by decide)

theorem readsBack_natural (number : Nat) : ReadsBack (writeNatural number) (.natural number) := by
  intro fuel delimiter rest ends
  have read := readUnsigned_writeNatural number ends rest
  cases written : writeNatural number with
  | nil => exact absurd written Nat.toDigits_ne_nil
  | cons first others =>
      have member : first ∈ Nat.toDigits 10 number := by
        rw [← writeNatural, written]
        exact List.mem_cons_self
      have digit := Nat.isDigit_of_mem_toDigits (by decide) (by decide) member
      rw [List.cons_append, readValue_of_digit digit, ← List.cons_append, ← written, read]

theorem readsBack_bool (value : Bool) : ReadsBack (writeBool value) (.bool value) := by
  intro fuel delimiter rest ends
  cases value with
  | false => rfl
  | true => rfl

theorem readsBack_string (text : String) : ReadsBack (writeString text) (.string (some text)) := by
  intro fuel delimiter rest ends
  have quoted : writeString text ++ delimiter :: rest =
      '"' :: (text.toList.flatMap writeCharacter ++ '"' :: delimiter :: rest) := by
    simp [writeString]
  have visible (characters : List Char) : skipBlanks ('"' :: characters) = '"' :: characters := rfl
  rw [quoted, visible, readValue, readText_written]
  rfl

/-! ## Objects -/

/-- A member of an object, with a value that is read back. -/
structure Member where
  name : String
  written : List Char
  value : Value
  readsBack : ReadsBack written value

namespace Member

/-- The members as they are written, between the braces of their object. -/
def writeAll (members : List Member) : List Char :=
  writeMembers (members.map fun member => (member.name, member.written))

/-- The members as they are read. -/
def values (members : List Member) : List (Text × Value) :=
  members.map fun member => (some member.name, member.value)

variable (member next : Member) (members : List Member)

theorem writeAll_singleton :
    writeAll [member] = writeString member.name ++ ':' :: member.written := rfl

theorem writeAll_cons_cons :
    writeAll (member :: next :: members) =
      writeString member.name ++ ':' :: (member.written ++ ',' :: writeAll (next :: members)) := by
  simp [writeAll, writeMembers]

theorem skipBlanks_writeAll (rest : List Char) :
    skipBlanks (writeAll (member :: members) ++ rest) = writeAll (member :: members) ++ rest := by
  cases members with
  | nil => rfl
  | cons => rfl

end Member

/-- A name is read with the colon after it. -/
theorem readMembers_writeString (name : String) (fuel : Nat) (rest : List Char) :
    readMembers (fuel + 1) (writeString name ++ ':' :: rest) = (do
      let (value, rest) ← readValue fuel (skipBlanks rest)
      match skipBlanks rest with
      | '}' :: rest => return ([(some name, value)], rest)
      | ',' :: rest => do
          let (members, rest) ← readMembers fuel (skipBlanks rest)
          return ((some name, value) :: members, rest)
      | _ => none) := by
  have quoted : writeString name ++ ':' :: rest =
      '"' :: (name.toList.flatMap writeCharacter ++ '"' :: ':' :: rest) := by
    simp [writeString]
  have opened (rest : List Char) : expect ['"'] ('"' :: rest) = some rest := rfl
  rw [quoted, readMembers, opened]
  change (readText (name.toList.flatMap writeCharacter ++ '"' :: ':' :: rest) >>= _) = _
  rewrite [readText_written]
  rfl

theorem readMembers_writeAll (member : Member) (members : List Member) (rest : List Char) :
    ∀ fuel, members.length + 1 < fuel →
      readMembers fuel (Member.writeAll (member :: members) ++ '}' :: rest) =
        some (Member.values (member :: members), rest) := by
  induction members generalizing member with
  | nil =>
      intro fuel enough
      obtain ⟨fuel, rfl⟩ : ∃ less, fuel = less + 2 := ⟨fuel - 2, by simp at enough; omega⟩
      have read := member.readsBack fuel '}' rest (.inr rfl)
      rw [Member.writeAll_singleton, List.append_assoc, List.cons_append, readMembers_writeString,
        read]
      rfl
  | cons next members induction =>
      intro fuel enough
      obtain ⟨fuel, rfl⟩ : ∃ less, fuel = less + 2 := ⟨fuel - 2, by simp at enough; omega⟩
      have read :=
        member.readsBack fuel ',' (Member.writeAll (next :: members) ++ '}' :: rest) (.inl rfl)
      have others := induction next (fuel + 1) (by simp at enough; omega)
      rw [Member.writeAll_cons_cons, List.append_assoc, List.cons_append, List.append_assoc,
        List.cons_append, readMembers_writeString, read]
      have after : skipBlanks (',' :: (Member.writeAll (next :: members) ++ '}' :: rest)) =
          ',' :: (Member.writeAll (next :: members) ++ '}' :: rest) := rfl
      simp only [Option.bind_eq_bind, Option.bind_some, after, Member.skipBlanks_writeAll, others]
      rfl

/-- The text of an object is at least as long as the number of its members. -/
theorem length_le_length_writeAll (members : List Member) :
    members.length ≤ (Member.writeAll members).length := by
  induction members with
  | nil => simp
  | cons member members induction =>
      cases members with
      | nil =>
          simp [Member.writeAll_singleton]
          omega
      | cons next members =>
          rw [Member.writeAll_cons_cons]
          simp only [List.length_append, List.length_cons] at induction ⊢
          omega

theorem readValue_object (members : List Member) (rest : List Char) (fuel : Nat)
    (enough : members.length < fuel) :
    readValue (fuel + 1) ('{' :: (Member.writeAll members ++ '}' :: rest)) =
      some (.object (Member.values members), rest) := by
  cases members with
  | nil => rfl
  | cons member members =>
      have read := readMembers_writeAll member members rest fuel enough
      have visible := Member.skipBlanks_writeAll member members ('}' :: rest)
      have quoted : ∃ tail, Member.writeAll (member :: members) ++ '}' :: rest = '"' :: tail := by
        cases members with
        | nil => exact ⟨_, rfl⟩
        | cons => exact ⟨_, rfl⟩
      obtain ⟨tail, same⟩ := quoted
      rw [same] at read visible ⊢
      simp [readValue, visible, read]

/-- An object is read as the members that were written, up to the end of its text. -/
theorem parse?_writeObject (members : List Member) :
    parse? (String.ofList (writeObject (members.map fun member => (member.name, member.written)))) =
      some (.object (Member.values members)) := by
  have written : writeObject (members.map fun member => (member.name, member.written)) =
      '{' :: (Member.writeAll members ++ ['}']) := rfl
  have enough := length_le_length_writeAll members
  have visible (rest : List Char) : skipBlanks ('{' :: rest) = '{' :: rest := rfl
  have read := readValue_object members [] (Member.writeAll members).length.succ.succ (by omega)
  simp only [parse?, String.toList_ofList, written, visible, List.length_cons, List.length_append]
  rw [List.length_nil, read]
  rfl

end Diplomacy.Json
