import Diplomacy.Proofs.Repository.Table

/-!
What makes a row readable, and which fault is reported of one that is not. Each
column asks for a kind of cell and for something of its content, and can be
checked by itself; reading a row is checking its columns in one fixed order,
which is not the order in which they stand. A table is listed row by row in the
same manner, so that the first fault of the first bad row is what is reported.
-/

namespace Diplomacy

namespace Row

variable {row : Row} {record : Relationship} {cell : Cell} {fault : Fault}

/-! ## Columns -/

inductive Column where
  | id
  | faction
  | target
  | stance
  | version
deriving DecidableEq

/-- The cell of a row in a column. -/
def cellAt (row : Row) : Column → Cell
  | .id => row.id
  | .faction => row.faction
  | .target => row.target
  | .stance => row.stance
  | .version => row.version

namespace Column

/-- The columns in the order in which a row is checked. -/
def checked : List Column := [.stance, .id, .faction, .target, .version]

/-- The place of a column in the query that lists the rows. -/
def index : Column → Nat
  | .id => 0
  | .faction => 1
  | .target => 2
  | .stance => 3
  | .version => 4

def name : Column → String
  | .id => "id"
  | .faction => "faction_id"
  | .target => "target_id"
  | .stance => "relationship_type"
  | .version => "version"

/-- The kind of the cells that a column is to hold. -/
def kind : Column → String
  | .stance => "Text"
  | .version => "Integer"
  | .id | .faction | .target => "Blob"

/-- A column takes the names of stances, blobs of sixteen bytes, or natural numbers. -/
inductive Accepts : Column → Cell → Prop where
  | stance {name : String} {stance : Stance} (parsed : Stance.parse? name = some stance) :
      Accepts .stance (.text name)
  | identifier {column : Column} {bytes : List UInt8} (blob : column.kind = "Blob")
      (sixteen : bytes.length = 16) : Accepts column (.blob bytes)
  | version {value : Int64} (natural : 0 ≤ value.toInt) : Accepts .version (.integer value)

/-- What a column says of the content of a cell of the right kind, if it does not
take the content. -/
inductive Objects : Column → Cell → BadContent → Prop where
  | stance {name : String} (unknown : Stance.parse? name = none) :
      Objects .stance (.text name) (.unknownStance name)
  | identifier {column : Column} {bytes : List UInt8} (blob : column.kind = "Blob")
      (length : bytes.length ≠ 16) : Objects column (.blob bytes) (.blobLength bytes.length)
  | version {value : Int64} (negative : value.toInt < 0) :
      Objects .version (.integer value) .negativeVersion

/-- The fault of a cell in a column: another kind of cell, or bad content. -/
inductive Misfits (column : Column) (cell : Cell) : Fault → Prop where
  | kind (other : cell.kind ≠ column.kind) :
      Misfits column cell (.kind cell.kind column.index column.name)
  | content {content : BadContent} (bad : Objects column cell content) :
      Misfits column cell (.conversion cell.kind column.index content)

variable {column : Column}

theorem kind_of_accepts (accepted : column.Accepts cell) : cell.kind = column.kind := by
  cases accepted with
  | stance => rfl
  | identifier blob => exact blob.symm
  | version => rfl

theorem not_accepts_of_misfits (misfit : column.Misfits cell fault) : ¬ column.Accepts cell := by
  intro accepted
  cases misfit with
  | kind other => exact other (kind_of_accepts accepted)
  | content bad =>
      cases bad with
      | stance unknown =>
          cases accepted with
          | stance parsed =>
              rw [unknown] at parsed
              cases parsed
      | identifier _ length =>
          cases accepted with
          | identifier _ sixteen => exact length sixteen
      | version negative =>
          cases accepted with
          | version natural => omega

end Column

/-- Every column takes its cell. -/
def Sound (row : Row) : Prop := ∀ column : Column, column.Accepts (row.cellAt column)

/-- The column is the first, in the order of the checks, that does not take its
cell, and this is what it reports. -/
def FirstFault (row : Row) (column : Column) (fault : Fault) : Prop :=
  ∃ before after, Column.checked = before ++ column :: after ∧
    (∀ other ∈ before, other.Accepts (row.cellAt other)) ∧
    column.Misfits (row.cellAt column) fault

/-- A cell holds the sixteen bytes of a number, most significant first. -/
def Holds (cell : Cell) (number : Nat) : Prop :=
  ∃ bytes, cell = .blob bytes ∧ bytes.length = 16 ∧
    Numeral.value 256 (bytes.map UInt8.toNat) = number

/-- The record that a row stands for, cell by cell. -/
structure StandsFor (row : Row) (record : Relationship) : Prop where
  stance : ∃ name, row.stance = .text name ∧ Stance.parse? name = some record.stance
  id : Holds row.id record.id.value
  faction : Holds row.faction record.faction.value
  target : Holds row.target record.target.value
  version : ∃ value : Int64, row.version = .integer value ∧
    (record.version.value : Int) = value.toInt

/-! ## Readers -/

theorem readStance_eq_ok_iff {stance : Stance} :
    readStance cell = .ok stance ↔
      ∃ name, cell = .text name ∧ Stance.parse? name = some stance := by
  constructor
  · intro read
    unfold readStance at read
    split at read
    · split at read
      · next parsed =>
          cases read
          exact ⟨_, rfl, parsed⟩
      · cases read
    · cases read
  · rintro ⟨name, rfl, parsed⟩
    simp only [readStance, parsed]

theorem misfits_of_readStance (refused : readStance cell = .error fault) :
    Column.stance.Misfits cell fault := by
  unfold readStance at refused
  split at refused
  · split at refused
    · cases refused
    · next unknown =>
        cases refused
        exact .content (.stance unknown)
  · next other =>
      cases refused
      refine .kind fun same => ?_
      cases cell with
      | text name => exact other name rfl
      | null | integer | real | blob => simp [Cell.kind, Column.kind] at same

theorem misfits_of_readIdentifier {kind : Identifier.Kind} {column : Column}
    (blob : column.kind = "Blob")
    (refused : (readIdentifier column.index column.name cell : Except Fault (Identifier kind))
      = .error fault) : column.Misfits cell fault := by
  unfold readIdentifier at refused
  split at refused
  · split at refused
    · cases refused
    · next unread =>
        cases refused
        refine .content (.identifier blob fun sixteen => ?_)
        rcases Identifier.exists_ofBytes?_eq_some kind sixteen with ⟨identifier, read⟩
        rw [unread] at read
        cases read
  · next other =>
      cases refused
      refine .kind fun same => ?_
      rw [blob] at same
      cases cell with
      | blob bytes => exact other bytes rfl
      | null | integer | real | text => simp [Cell.kind] at same

theorem misfits_of_readVersion (refused : readVersion cell = .error fault) :
    Column.version.Misfits cell fault := by
  unfold readVersion at refused
  split at refused
  · next value =>
      split at refused
      · cases refused
      · next unread =>
          cases refused
          refine .content (.version (Int.not_le.mp fun natural => ?_))
          rcases exists_version?_eq_some natural with ⟨version, read⟩
          rw [unread] at read
          cases read
  · next other =>
      cases refused
      refine .kind fun same => ?_
      cases cell with
      | integer value => exact other value rfl
      | null | real | text | blob => simp [Cell.kind, Column.kind] at same

theorem accepts_of_readStance {stance : Stance} (read : readStance cell = .ok stance) :
    Column.stance.Accepts cell := by
  rcases readStance_eq_ok_iff.mp read with ⟨name, rfl, parsed⟩
  exact .stance parsed

theorem readIdentifier_eq_ok_iff_holds {kind : Identifier.Kind} {identifier : Identifier kind}
    (index : Nat) (column : String) :
    readIdentifier index column cell = .ok identifier ↔ Holds cell identifier.value := by
  rw [readIdentifier_eq_ok_iff]
  constructor
  · rintro rfl
    exact ⟨_, rfl, Identifier.ofBytes?_eq_some_iff_value.mp (Identifier.ofBytes?_bytes identifier)⟩
  · rintro ⟨bytes, rfl, number⟩
    rw [Identifier.ofBytes?_eq_some_iff.mp (Identifier.ofBytes?_eq_some_iff_value.mpr number)]

theorem accepts_of_holds {column : Column} {number : Nat} (blob : column.kind = "Blob")
    (held : Holds cell number) : column.Accepts cell := by
  rcases held with ⟨bytes, rfl, sixteen, _⟩
  exact .identifier blob sixteen

theorem accepts_of_readIdentifier {kind : Identifier.Kind} {identifier : Identifier kind}
    {column : Column} (blob : column.kind = "Blob")
    (read : readIdentifier column.index column.name cell = .ok identifier) :
    column.Accepts cell :=
  accepts_of_holds blob ((readIdentifier_eq_ok_iff_holds column.index column.name).mp read)

/-! ## Rows -/

theorem toRelationship_eq_ok_iff_standsFor :
    row.toRelationship = .ok record ↔ row.StandsFor record := by
  have identifiers {kind : Identifier.Kind} (cell : Cell) (identifier : Identifier kind) :
      cell = .blob identifier.bytes ↔ Holds cell identifier.value :=
    (readIdentifier_eq_ok_iff 0 "").symm.trans (readIdentifier_eq_ok_iff_holds 0 "")
  rw [toRelationship_eq_ok_iff, key, identifiers, identifiers, identifiers, readStance_eq_ok_iff,
    readVersion_eq_ok_iff]
  simp only [version?_eq_some_iff]
  constructor
  · rintro ⟨id, faction, target, stance, version⟩
    exact { stance, id, faction, target, version }
  · intro stands
    exact ⟨stands.id, stands.faction, stands.target, stands.stance, stands.version⟩

theorem sound_of_standsFor (stands : row.StandsFor record) : row.Sound := by
  intro column
  cases column with
  | id => exact accepts_of_holds rfl stands.id
  | faction => exact accepts_of_holds rfl stands.faction
  | target => exact accepts_of_holds rfl stands.target
  | stance => exact accepts_of_readStance (readStance_eq_ok_iff.mpr stands.stance)
  | version =>
      rcases stands.version with ⟨value, same, natural⟩
      rw [cellAt, same]
      exact .version (natural ▸ Int.natCast_nonneg _)

/-- The columns before the one that refuses have been read, and so take their cells. -/
theorem firstFault_of_toRelationship (refused : row.toRelationship = .error fault) :
    ∃ column, row.FirstFault column fault := by
  rcases bind_eq_error_iff.mp refused with misfit | ⟨stance, read, refused⟩
  · exact ⟨.stance, [], _, rfl, by simp, misfits_of_readStance misfit⟩
  have stanceTaken : Column.stance.Accepts (row.cellAt .stance) := accepts_of_readStance read
  rcases bind_eq_error_iff.mp refused with misfit | ⟨id, read, refused⟩
  · exact ⟨.id, [.stance], _, rfl, by simpa using stanceTaken,
      misfits_of_readIdentifier rfl misfit⟩
  have idTaken : Column.id.Accepts (row.cellAt .id) := accepts_of_readIdentifier rfl read
  rcases bind_eq_error_iff.mp refused with misfit | ⟨faction, read, refused⟩
  · exact ⟨.faction, [.stance, .id], _, rfl, by simpa using ⟨stanceTaken, idTaken⟩,
      misfits_of_readIdentifier rfl misfit⟩
  have factionTaken : Column.faction.Accepts (row.cellAt .faction) :=
    accepts_of_readIdentifier rfl read
  rcases bind_eq_error_iff.mp refused with misfit | ⟨target, read, refused⟩
  · exact ⟨.target, [.stance, .id, .faction], _, rfl,
      by simpa using ⟨stanceTaken, idTaken, factionTaken⟩, misfits_of_readIdentifier rfl misfit⟩
  have targetTaken : Column.target.Accepts (row.cellAt .target) :=
    accepts_of_readIdentifier rfl read
  rcases bind_eq_error_iff.mp refused with misfit | ⟨version, _, refused⟩
  · exact ⟨.version, [.stance, .id, .faction, .target], [], rfl,
      by simpa using ⟨stanceTaken, idTaken, factionTaken, targetTaken⟩,
      misfits_of_readVersion misfit⟩
  cases refused

-- The stance is checked before the identifiers, though it stands behind them.
example :
    ({ id := .integer 1, faction := .null, target := .blob [], stance := .text "NEUTRAL",
       version := .integer (-1) } : Row).toRelationship =
      .error (.conversion "Text" 3 (.unknownStance "NEUTRAL")) := rfl

theorem not_sound_of_firstFault {column : Column} (first : row.FirstFault column fault) :
    ¬ row.Sound := by
  rcases first with ⟨_, _, _, _, misfit⟩
  intro sound
  exact Column.not_accepts_of_misfits misfit (sound column)

theorem exists_toRelationship_iff : (∃ record, row.toRelationship = .ok record) ↔ row.Sound := by
  constructor
  · intro ⟨record, read⟩
    exact sound_of_standsFor (toRelationship_eq_ok_iff_standsFor.mp read)
  · intro sound
    cases read : row.toRelationship with
    | ok record => exact ⟨record, rfl⟩
    | error fault =>
        rcases firstFault_of_toRelationship read with ⟨column, first⟩
        exact absurd sound (not_sound_of_firstFault first)

end Row

namespace TableRepository

variable {table : TableRepository} {records : List Relationship} {error : RepositoryError}

/-! ## Tables -/

theorem listAll_eq_ok_iff_standsFor :
    table.listAll = .ok records ↔ List.Forall₂ Row.StandsFor table.rows records := by
  rw [listAll_eq_ok_iff]
  constructor
  · exact List.Forall₂.imp fun _ _ => Row.toRelationship_eq_ok_iff_standsFor.mp
  · exact List.Forall₂.imp fun _ _ => Row.toRelationship_eq_ok_iff_standsFor.mpr

/-- A table is not listed because of one row, which is the first that is not sound. -/
theorem firstFault_of_listAll (failed : table.listAll = .error error) :
    ∃ earlier row later column fault, table.rows = earlier ++ row :: later ∧
      (∀ other ∈ earlier, other.Sound) ∧ row.FirstFault column fault ∧
      error = fault.toRepositoryError := by
  rcases mapError_eq_error_iff.mp failed with ⟨fault, refused, rfl⟩
  rcases first_error_of_mapM refused with ⟨earlier, row, later, split, read, bad⟩
  rcases Row.firstFault_of_toRelationship bad with ⟨column, first⟩
  refine ⟨earlier, row, later, column, fault, split, ?_, first, rfl⟩
  intro other member
  exact Row.exists_toRelationship_iff.mp (read other member)

theorem exists_listAll_iff :
    (∃ records, table.listAll = .ok records) ↔ ∀ row ∈ table.rows, row.Sound := by
  constructor
  · intro ⟨records, listed⟩ row member
    exact Row.exists_toRelationship_iff.mp
      (exists_record_of_mem (listAll_eq_ok_iff.mp listed) row member)
  · intro sound
    cases listed : table.listAll with
    | ok records => exact ⟨records, rfl⟩
    | error error =>
        rcases firstFault_of_listAll listed with ⟨earlier, row, later, _, _, split, _, first, _⟩
        have member : row ∈ table.rows := by simp [split]
        exact absurd (sound row member) (Row.not_sound_of_firstFault first)

end TableRepository

end Diplomacy
