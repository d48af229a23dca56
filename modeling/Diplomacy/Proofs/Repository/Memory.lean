import Diplomacy.Repository.Memory

/-!
Lists of records under distinct identifiers, as a repository in memory keeps
them. Placing a record is said in two ways: it goes to the end of a list that
does not hold its identifier, and otherwise takes the place of the one record
that does. Taking a record out leaves the others in order.
-/

namespace Diplomacy.MemoryRepository

variable {records : List Relationship} {record committed stored : Relationship}
  {id : RelationshipId}

/-! ## Placing and taking out -/

/-- Where identifiers are distinct, no later record has the identifier of the first. -/
theorem id_ne_of_distinct (distinct : ((record :: records).map (·.id)).Nodup) :
    ∀ other ∈ records, other.id ≠ record.id := by
  intro other member equal
  rw [List.map_cons, List.nodup_cons] at distinct
  exact distinct.1 (List.mem_map.mpr ⟨other, member, equal⟩)

theorem place_of_absent (absent : ∀ record ∈ records, record.id ≠ committed.id) :
    place committed records = records ++ [committed] := by
  induction records with
  | nil => rfl
  | cons record records induction =>
      rw [place, if_neg (absent record List.mem_cons_self), List.cons_append,
        induction fun other member => absent other (List.mem_cons_of_mem _ member)]

theorem place_of_mem (distinct : (records.map (·.id)).Nodup) (member : stored ∈ records)
    (same : stored.id = committed.id) :
    place committed records =
      records.map fun other => if other.id = committed.id then committed else other := by
  induction records with
  | nil => cases member
  | cons record records induction =>
      have others := id_ne_of_distinct distinct
      rw [place, List.map_cons]
      by_cases here : record.id = committed.id
      · rw [here] at others
        have kept : (records.map fun other => if other.id = committed.id then committed else other)
            = records := by
          refine (List.map_congr_left fun other later => ?_).trans (List.map_id _)
          exact if_neg (others other later)
        rw [if_pos here, if_pos here, kept]
      · have later : stored ∈ records := by
          rcases List.mem_cons.mp member with equal | later
          · exact absurd (equal ▸ same) here
          · exact later
        rw [if_neg here, if_neg here, induction (List.nodup_cons.mp distinct).2 later]

theorem mem_of_mem_place (member : record ∈ place committed records) :
    record = committed ∨ record ∈ records := by
  induction records with
  | nil => exact .inl (List.mem_singleton.mp member)
  | cons head records induction =>
      rw [place] at member
      split at member
      · rcases List.mem_cons.mp member with equal | later
        · exact .inl equal
        · exact .inr (List.mem_cons_of_mem _ later)
      · rcases List.mem_cons.mp member with equal | later
        · exact .inr (equal ▸ List.mem_cons_self)
        · exact (induction later).imp_right (List.mem_cons_of_mem _)

theorem ids_place (records : List Relationship) (committed : Relationship) :
    (place committed records).map (·.id) =
      if committed.id ∈ records.map (·.id) then records.map (·.id)
      else records.map (·.id) ++ [committed.id] := by
  induction records with
  | nil => rfl
  | cons record records induction =>
      rw [place]
      by_cases here : record.id = committed.id
      · simp [here]
      · rw [if_neg here, List.map_cons, induction]
        simp only [List.map_cons, List.mem_cons, Ne.symm here, false_or, List.cons_append]
        split <;> rfl

theorem nodup_place (distinct : (records.map (·.id)).Nodup) (committed : Relationship) :
    ((place committed records).map (·.id)).Nodup := by
  rw [ids_place]
  split
  · exact distinct
  · next absent =>
      rw [List.nodup_append]
      refine ⟨distinct, List.pairwise_singleton _ _, ?_⟩
      rintro left member right single rfl
      exact absent (List.mem_singleton.mp single ▸ member)

theorem find?_place (records : List Relationship) (committed : Relationship)
    (id : RelationshipId) :
    (place committed records).find? (·.id = id) =
      if committed.id = id then some committed else records.find? (·.id = id) := by
  induction records with
  | nil => by_cases same : committed.id = id <;> simp [place, same]
  | cons record records induction =>
      rw [place]
      by_cases here : record.id = committed.id
      · by_cases same : committed.id = id <;> simp [here, same]
      · rw [if_neg here]
        by_cases other : record.id = id
        · have different : committed.id ≠ id := fun same => here (other.trans same.symm)
          simp [other, different]
        · simp [other, induction]

theorem find?_filter (records : List Relationship) (id other : RelationshipId) :
    (records.filter (·.id ≠ id)).find? (·.id = other) =
      if id = other then none else records.find? (·.id = other) := by
  rw [List.find?_filter]
  split
  · next same =>
      subst same
      simp
  · next differs =>
      congr 1
      funext record
      by_cases mine : record.id = other <;> simp [mine, Ne.symm differs]

theorem find?_eq_some_iff (distinct : (records.map (·.id)).Nodup) :
    records.find? (·.id = id) = some record ↔ record ∈ records ∧ record.id = id := by
  induction records with
  | nil => simp
  | cons head records induction =>
      have others := id_ne_of_distinct distinct
      have later := induction (List.nodup_cons.mp distinct).2
      by_cases here : head.id = id
      · rw [here] at others
        simp only [List.find?_cons, here, decide_true, Option.some.injEq, List.mem_cons]
        constructor
        · rintro rfl
          exact ⟨.inl rfl, here⟩
        · rintro ⟨equal | member, same⟩
          · exact equal.symm
          · exact absurd same (others record member)
      · simp only [List.find?_cons, here, decide_false, later, List.mem_cons]
        constructor
        · rintro ⟨member, same⟩
          exact ⟨.inr member, same⟩
        · rintro ⟨equal | member, same⟩
          · exact absurd (equal ▸ same) here
          · exact ⟨member, same⟩

/-- Taking out the first record of an identifier takes out the only one. -/
theorem eraseP_eq_filter (distinct : (records.map (·.id)).Nodup) (id : RelationshipId) :
    records.eraseP (·.id = id) = records.filter (·.id ≠ id) := by
  induction records with
  | nil => rfl
  | cons record records induction =>
      have others := id_ne_of_distinct distinct
      by_cases here : record.id = id
      · rw [here] at others
        rw [List.eraseP_cons_of_pos (by simp [here]), List.filter_cons_of_neg (by simp [here])]
        exact (List.filter_eq_self.mpr fun other member =>
          decide_eq_true (others other member)).symm
      · rw [List.eraseP_cons_of_neg (by simp [here]), List.filter_cons_of_pos (by simp [here]),
          induction (List.nodup_cons.mp distinct).2]

end Diplomacy.MemoryRepository
