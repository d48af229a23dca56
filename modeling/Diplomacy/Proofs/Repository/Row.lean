import Diplomacy.Proofs.Steps
import Diplomacy.Repository.Row

/-!
Rows and the records they stand for. A row reads as a record exactly if its
identifier cells are the bytes of the record's identifiers, its stance cell is a
text for the stance, and its version cell a signed integer for the version; so
the key cell of a readable row decides whose row it is. A record that can be
stored at all reads back from its canonical row.
-/

namespace Diplomacy

namespace Identifier

variable {kind : Kind} {bytes : List UInt8} {identifier : Identifier kind}

/-- No two identifiers of a kind have the same bytes. -/
theorem bytes_injective {left right : Identifier kind} (equal : left.bytes = right.bytes) :
    left = right := by
  have read := ofBytes?_bytes left
  rw [equal, ofBytes?_bytes] at read
  exact (Option.some.inj read).symm

theorem lt_of_mem_toNat (bytes : List UInt8) :
    ∀ digit ∈ bytes.map UInt8.toNat, digit < 256 := by
  intro digit member
  rcases List.mem_map.mp member with ⟨byte, _, rfl⟩
  exact byte.toNat_lt

/-- A blob is read as a number, most significant byte first, if it has sixteen bytes. -/
theorem ofBytes?_eq_some_iff_value :
    ofBytes? bytes = some identifier ↔
      bytes.length = 16 ∧ Numeral.value 256 (bytes.map UInt8.toNat) = identifier.value := by
  rw [ofBytes?, Option.ite_none_right_eq_some, ofNat?_eq_some_iff]

theorem exists_ofBytes?_eq_some (kind : Kind) (sixteen : bytes.length = 16) :
    ∃ identifier : Identifier kind, ofBytes? bytes = some identifier := by
  have bound := Numeral.value_lt (lt_of_mem_toNat bytes)
  rw [List.length_map, sixteen] at bound
  exact ⟨⟨_, Nat.lt_of_lt_of_eq bound (by decide)⟩,
    ofBytes?_eq_some_iff_value.mpr ⟨sixteen, rfl⟩⟩

/-- A blob is read as an identifier only if it is the identifier's bytes. -/
theorem ofBytes?_eq_some_iff : ofBytes? bytes = some identifier ↔ bytes = identifier.bytes := by
  constructor
  · intro read
    rcases ofBytes?_eq_some_iff_value.mp read with ⟨sixteen, number⟩
    have written := Numeral.digits_value (lt_of_mem_toNat bytes)
    rw [List.length_map, sixteen, number] at written
    rw [Identifier.bytes, written, List.map_map]
    refine ((List.map_congr_left fun byte _ => ?_).trans (List.map_id _)).symm
    exact UInt8.ofNat_toNat
  · rintro rfl
    exact ofBytes?_bytes identifier

end Identifier

theorem Stance.parse?_name (stance : Stance) : Stance.parse? stance.name = some stance := by
  cases stance <;> decide

namespace Row

variable {row : Row} {record : Relationship} {id : RelationshipId} {cell : Cell}
  {version : Version}

/-! ## Cells -/

/-- Stated for any blob: the kernel would otherwise evaluate the bytes of an identifier. -/
theorem readIdentifier_blob {kind : Identifier.Kind} {identifier : Identifier kind}
    {bytes : List UInt8} (index : Nat) (column : String)
    (found : Identifier.ofBytes? bytes = some identifier) :
    readIdentifier index column (.blob bytes) = .ok identifier := by
  simp only [readIdentifier, found]

theorem readIdentifier_eq_ok_iff {kind : Identifier.Kind} {identifier : Identifier kind}
    (index : Nat) (column : String) :
    readIdentifier index column cell = .ok identifier ↔ cell = .blob identifier.bytes := by
  constructor
  · intro read
    unfold readIdentifier at read
    split at read
    · split at read
      · next found =>
          cases read
          rw [Identifier.ofBytes?_eq_some_iff.mp found]
      · cases read
    · cases read
  · rintro rfl
    exact readIdentifier_blob index column (Identifier.ofBytes?_bytes identifier)

theorem readVersion_eq_ok_iff :
    readVersion cell = .ok version ↔
      ∃ value, cell = .integer value ∧ version? value = some version := by
  constructor
  · intro read
    unfold readVersion at read
    split at read
    · next value =>
        split at read
        · next found =>
            cases read
            exact ⟨value, rfl, found⟩
        · cases read
    · cases read
  · rintro ⟨value, rfl, found⟩
    simp only [readVersion, found]

/-- A signed integer stands for the version of the same value, if there is one. -/
theorem version?_eq_some_iff {value : Int64} :
    version? value = some version ↔ (version.value : Int) = value.toInt := by
  rw [version?]
  split
  · rw [Version.ofNat?_eq_some_iff]
    omega
  · next negative =>
      constructor
      · intro equal
        cases equal
      · intro equal
        exact absurd (equal ▸ Int.natCast_nonneg version.value) negative

theorem exists_version?_eq_some {value : Int64} (natural : 0 ≤ value.toInt) :
    ∃ version, version? value = some version := by
  have bound := value.toInt_lt
  refine ⟨⟨value.toInt.toNat, by omega⟩, version?_eq_some_iff.mpr ?_⟩
  exact Int.toNat_of_nonneg natural

theorem version_lt_of_readVersion (read : readVersion cell = .ok version) :
    version.value < 0x8000_0000_0000_0000 := by
  rcases readVersion_eq_ok_iff.mp read with ⟨value, _, found⟩
  have same := version?_eq_some_iff.mp found
  have bound := value.toInt_lt
  omega

/-- By itself a version cell reads as it does in a listed row. -/
theorem readStoredVersion_eq_ok_iff :
    readStoredVersion id cell = .ok version ↔ readVersion cell = .ok version := by
  cases cell with
  | integer value =>
      simp only [readStoredVersion, readVersion]
      cases version? value <;> simp
  | null => simp [readStoredVersion, readVersion]
  | real => simp [readStoredVersion, readVersion]
  | text => simp [readStoredVersion, readVersion]
  | blob => simp [readStoredVersion, readVersion]

/-- A cell that is no natural number has no version. -/
theorem exists_readStoredVersion_eq_error (id : RelationshipId)
    (unfit : ∀ value : Int64, cell = .integer value → value.toInt < 0) :
    ∃ fault, readStoredVersion id cell = .error fault := by
  cases read : readStoredVersion id cell with
  | error fault => exact ⟨fault, rfl⟩
  | ok version =>
      rcases readVersion_eq_ok_iff.mp (readStoredVersion_eq_ok_iff.mp read) with
        ⟨value, here, found⟩
      have natural := version?_eq_some_iff.mp found
      have negative := unfit value here
      omega

theorem version?_ofNat (fits : version.value < 0x8000_0000_0000_0000) :
    version? (Int64.ofNat version.value) = some version :=
  version?_eq_some_iff.mpr (Int64.toInt_ofNat_of_lt fits).symm

/-! ## Whole rows -/

theorem toRelationship_eq_ok_iff :
    row.toRelationship = .ok record ↔
      row.id = key record.id ∧ row.faction = .blob record.faction.bytes ∧
        row.target = .blob record.target.bytes ∧ readStance row.stance = .ok record.stance ∧
        readVersion row.version = .ok record.version := by
  rw [key, ← readIdentifier_eq_ok_iff 0 "id", ← readIdentifier_eq_ok_iff 1 "faction_id",
    ← readIdentifier_eq_ok_iff 2 "target_id"]
  simp only [toRelationship, bind_eq_ok_iff]
  constructor
  · rintro ⟨stance, stanceRead, id, idRead, faction, factionRead, target, targetRead, version,
      versionRead, equal⟩
    cases equal
    exact ⟨idRead, factionRead, targetRead, stanceRead, versionRead⟩
  · intro ⟨idRead, factionRead, targetRead, stanceRead, versionRead⟩
    exact ⟨_, stanceRead, _, idRead, _, factionRead, _, targetRead, _, versionRead, rfl⟩

/-- The key cell of a readable row tells whose row it is. -/
theorem id_eq_key_iff (read : row.toRelationship = .ok record) :
    row.id = key id ↔ record.id = id := by
  rw [(toRelationship_eq_ok_iff.mp read).1]
  constructor
  · intro equal
    exact Identifier.bytes_injective (Cell.blob.inj equal)
  · rintro rfl
    rfl

/-- A record whose version fits a signed integer has its canonical row. -/
theorem ofRelationship_eq_ok (fits : record.version.value < 0x8000_0000_0000_0000) :
    ofRelationship record = .ok (canonical record (Int64.ofNat record.version.value)) := by
  rw [ofRelationship, storedVersion, if_pos fits]
  rfl

/-- A record whose version fits a signed integer reads back from its row. -/
theorem exists_ofRelationship_eq_ok (fits : record.version.value < 0x8000_0000_0000_0000) :
    ∃ row, ofRelationship record = .ok row ∧ row.toRelationship = .ok record := by
  refine ⟨_, ofRelationship_eq_ok fits, toRelationship_eq_ok_iff.mpr ?_⟩
  refine ⟨rfl, rfl, rfl, ?_, readVersion_eq_ok_iff.mpr ⟨_, rfl, version?_ofNat fits⟩⟩
  simp only [canonical, readStance, Stance.parse?_name]

/-- A record whose version does not fit is refused. -/
theorem ofRelationship_eq_error (exceeds : 0x8000_0000_0000_0000 ≤ record.version.value) :
    ofRelationship record = .error (.badContent (.versionRange record.version)) := by
  rw [ofRelationship, storedVersion, if_neg (Nat.not_lt.mpr exceeds)]
  rfl

/-- A row that was written for a record reads back as the record. -/
theorem toRelationship_of_ofRelationship (written : ofRelationship record = .ok row) :
    row.toRelationship = .ok record := by
  rcases Nat.lt_or_ge record.version.value 0x8000_0000_0000_0000 with fits | exceeds
  · rcases exists_ofRelationship_eq_ok fits with ⟨other, otherWritten, read⟩
    rw [written] at otherWritten
    cases otherWritten
    exact read
  · rw [ofRelationship_eq_error exceeds] at written
    cases written

end Row

end Diplomacy
