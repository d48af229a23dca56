import Diplomacy.Proofs.EdgeList.Confirmation

/-!
Vassalage seen from both ends. A faction is a vassal of another exactly if each
of them records its side, and its liege is the first one that it claims, if that
one records it in turn. So a liege always has the faction among its vassals; the
other way round, a faction has the liege whose vassal it is, as long as it claims
no other first.
-/

namespace Diplomacy.EdgeList

variable {edges : EdgeList} {faction vassal liege : FactionId}

theorem nodup_vassalsOf (edges : EdgeList) (faction : FactionId) :
    (edges.vassalsOf faction).Nodup :=
  nodup_confirmed edges faction .vassal

theorem mem_vassalsOf_iff :
    vassal ∈ edges.vassalsOf faction ↔
      edges.HasEdge faction vassal .vassal ∧ edges.HasEdge vassal faction .liege :=
  mem_confirmed_iff rfl

theorem mem_liegeClaims_iff :
    liege ∈ edges.liegeClaims faction ↔ edges.HasEdge faction liege .liege :=
  mem_targets_iff

/-- The liege is the first one claimed, if that one records the faction in turn. -/
theorem liegeOf_eq_some_iff :
    edges.liegeOf faction = some liege ↔
      (edges.liegeClaims faction).head? = some liege ∧ edges.HasEdge liege faction .vassal := by
  rw [liegeOf, liegeClaims, List.head?_map]
  cases first : (edges.outgoingOfStance faction .liege).head? with
  | none => simp
  | some edge =>
      rcases mem_outgoingOfStance.mp (List.mem_of_head? first) with ⟨_, rfl, claims⟩
      simp only [Option.filter_some, isReciprocated_eq_records rfl claims, Option.map_some,
        Option.some.injEq]
      constructor
      · intro found
        split at found
        · next recorded =>
            cases found
            exact ⟨rfl, records_iff.mp recorded⟩
        · cases found
      · rintro ⟨rfl, recorded⟩
        rw [if_pos (records_iff.mpr recorded)]
        rfl

theorem mem_vassalsOf_of_liegeOf (verified : edges.liegeOf vassal = some liege) :
    vassal ∈ edges.vassalsOf liege := by
  rcases liegeOf_eq_some_iff.mp verified with ⟨first, recorded⟩
  exact mem_vassalsOf_iff.mpr ⟨recorded, mem_liegeClaims_iff.mp (List.mem_of_head? first)⟩

/-- No faction has `LIEGE` edges to different targets. -/
def SingleLieges (edges : EdgeList) : Prop :=
  ∀ left ∈ edges, ∀ right ∈ edges, left.stance = .liege → right.stance = .liege →
    left.faction = right.faction → left.target = right.target

instance : Decidable edges.SingleLieges :=
  inferInstanceAs (Decidable (∀ left ∈ edges, ∀ right ∈ edges, left.stance = .liege →
    right.stance = .liege → left.faction = right.faction → left.target = right.target))

/-- Where no faction claims several lieges, being a vassal and having a liege
are the same. -/
theorem liegeOf_eq_some_iff_mem_vassalsOf (single : edges.SingleLieges) :
    edges.liegeOf vassal = some liege ↔ vassal ∈ edges.vassalsOf liege := by
  constructor
  · exact mem_vassalsOf_of_liegeOf
  · intro member
    rcases mem_vassalsOf_iff.mp member with ⟨recorded, claimed⟩
    refine liegeOf_eq_some_iff.mpr ⟨?_, recorded⟩
    rcases claimed with ⟨edge, held, own, target, stance⟩
    cases claims : (edges.outgoingOfStance vassal .liege) with
    | nil =>
        have outgoing := mem_outgoingOfStance.mpr ⟨held, own, stance⟩
        rw [claims] at outgoing
        cases outgoing
    | cons first rest =>
        rcases mem_outgoingOfStance.mp (claims ▸ List.mem_cons_self : first ∈ _) with
          ⟨firstHeld, firstOwn, firstStance⟩
        rw [liegeClaims, claims, ← target]
        exact congrArg some
          (single first firstHeld edge held firstStance stance (firstOwn.trans own.symm))

/-- What the first recorded `LIEGE` edge of a faction points at. -/
theorem head?_liegeClaims (edges : EdgeList) (faction : FactionId) :
    (edges.liegeClaims faction).head? =
      (edges.find? fun edge => edge.faction = faction ∧ edge.stance = .liege).map (·.target) := by
  rw [liegeClaims, outgoingOfStance, outgoing, List.head?_map, List.filter_filter,
    List.head?_filter]
  simp only [and_comm, Bool.decide_and]

/-- A faction is a vassal of another exactly if each of them records its side, and
has it as its liege exactly if it is its vassal and claims it first. Vassals are
listed in the order in which the liege first recorded them. -/
theorem vassalage_is_mutual (edges : EdgeList) (liege vassal : FactionId) :
    (vassal ∈ edges.vassalsOf liege ↔
        edges.HasEdge liege vassal .vassal ∧ edges.HasEdge vassal liege .liege) ∧
      (edges.vassalsOf liege).Nodup ∧
      ((edges.vassalsOf liege).Pairwise fun earlier later =>
        edges.firstEdge liege earlier .vassal < edges.firstEdge liege later .vassal) ∧
      (edges.liegeOf vassal = some liege ↔
        (edges.find? fun edge => edge.faction = vassal ∧ edge.stance = .liege).map (·.target) =
            some liege ∧
          vassal ∈ edges.vassalsOf liege) ∧
      (¬edges.HasEdge vassal liege .liege ∨ ¬edges.HasEdge liege vassal .vassal →
        vassal ∉ edges.vassalsOf liege ∧ edges.liegeOf vassal ≠ some liege) := by
  refine ⟨mem_vassalsOf_iff, nodup_vassalsOf edges liege, pairwise_confirmed rfl edges liege,
    ?_, ?_⟩
  · rw [← head?_liegeClaims]
    constructor
    · intro verified
      exact ⟨(liegeOf_eq_some_iff.mp verified).1, mem_vassalsOf_of_liegeOf verified⟩
    · rintro ⟨first, member⟩
      exact liegeOf_eq_some_iff.mpr ⟨first, (mem_vassalsOf_iff.mp member).1⟩
  · intro oneSided
    have free : vassal ∉ edges.vassalsOf liege := by
      intro member
      rcases mem_vassalsOf_iff.mp member with ⟨recorded, claimed⟩
      exact oneSided.elim (absurd claimed) (absurd recorded)
    exact ⟨free, fun verified => free (mem_vassalsOf_of_liegeOf verified)⟩

end Diplomacy.EdgeList
