import Diplomacy.EdgeList.Reciprocity

/-!
Claims and their confirmation. A faction is confirmed under a stance exactly if
the snapshot holds an edge to it and one back with the counterpart, and the
confirmed factions stand in the order of the first edges to them. An alliance is
its own counterpart, so that it is the same from both sides.
-/

namespace Diplomacy

/-! ## First occurrences -/

section

variable {Entry : Type} {entry : Entry} {entries : List Entry} {chosen : Entry → Bool}
  {name : Entry → FactionId} {faction : FactionId}

theorem findIdx_of_named (held : chosen entry = true) :
    (entry :: entries).findIdx (fun other => chosen other && name other = name entry) = 0 := by
  rw [List.findIdx_cons, held, decide_eq_true rfl, Bool.and_self, cond_true]

theorem findIdx_of_unnamed (differs : (chosen entry && name entry = faction) = false) :
    (entry :: entries).findIdx (fun other => chosen other && name other = faction) =
      entries.findIdx (fun other => chosen other && name other = faction) + 1 := by
  rw [List.findIdx_cons, differs, cond_false]

/-- A faction that the first entry does not name is looked for among the rest, where
the entries that name the same faction as the first one can be passed over. -/
theorem findIdx_of_other (differs : faction ≠ name entry) :
    (entry :: entries).findIdx (fun other => chosen other && name other = faction) =
      entries.findIdx (fun other =>
        (!name other == name entry && chosen other) && name other = faction) + 1 := by
  have same : ∀ other, (chosen other && name other = faction) =
      ((!name other == name entry && chosen other) && name other = faction) := by
    intro other
    by_cases named : name other = faction
    · simp [named, differs]
    · simp [named]
  rw [findIdx_of_unnamed (by simp [Ne.symm differs])]
  simp only [same]

/-- The factions that the chosen entries of a list name stand, without repetition,
in the order in which each is named first. -/
theorem pairwise_eraseDups_map_filter (entries : List Entry) (chosen : Entry → Bool)
    (name : Entry → FactionId) :
    ((entries.filter chosen).map name).eraseDups.Pairwise fun earlier later =>
      entries.findIdx (fun entry => chosen entry && name entry = earlier) <
        entries.findIdx (fun entry => chosen entry && name entry = later) := by
  induction entries generalizing chosen with
  | nil => exact .nil
  | cons entry entries induction =>
      cases held : chosen entry with
      | false =>
          have skipped : ∀ faction, (chosen entry && name entry = faction) = false := by
            intro faction
            rw [held, Bool.false_and]
          rw [List.filter_cons_of_neg (by rw [held]; decide)]
          apply (induction chosen).imp
          intro earlier later before
          rw [findIdx_of_unnamed (skipped earlier), findIdx_of_unnamed (skipped later)]
          exact Nat.succ_lt_succ before
      | true =>
          rw [List.filter_cons_of_pos held, List.map_cons, List.eraseDups_cons, List.filter_map,
            List.filter_filter, List.pairwise_cons]
          -- The rest are the factions of the other entries, with this one's faction passed over.
          let others := fun other => !name other == name entry && chosen other
          have differs : ∀ faction ∈ ((entries.filter others).map name).eraseDups,
              faction ≠ name entry := by
            intro faction member
            rw [List.mem_eraseDups, List.mem_map] at member
            rcases member with ⟨other, listed, rfl⟩
            have kept := (Bool.and_eq_true_iff.mp (List.mem_filter.mp listed).2).1
            simpa using kept
          constructor
          · intro faction member
            rw [findIdx_of_named held, findIdx_of_other (differs faction member)]
            exact Nat.succ_pos _
          · apply (induction others).imp_of_mem
            intro earlier later earlierMember laterMember before
            rw [findIdx_of_other (differs earlier earlierMember),
              findIdx_of_other (differs later laterMember)]
            exact Nat.succ_lt_succ before

end

theorem nodup_eraseDups (factions : List FactionId) : factions.eraseDups.Nodup := by
  have ordered := pairwise_eraseDups_map_filter factions (fun _ => true) id
  rw [List.filter_eq_self.mpr fun _ _ => rfl, List.map_id] at ordered
  apply ordered.imp
  rintro earlier later before rfl
  exact Nat.lt_irrefl _ before

/-- What is left out of a list is left out at every place, so that its first
occurrences can be listed before or after. -/
theorem filter_eraseDups (factions : List FactionId) (kept : FactionId → Bool) :
    factions.eraseDups.filter kept = (factions.filter kept).eraseDups := by
  -- Listing passes over what was listed, so the induction is on a list that is filtered already.
  have passes : ∀ listed : FactionId → Bool,
      (factions.filter listed).eraseDups.filter kept =
        ((factions.filter listed).filter kept).eraseDups := by
    induction factions with
    | nil => intro listed; rfl
    | cons faction factions induction =>
        intro listed
        cases held : listed faction with
        | false => rw [List.filter_cons_of_neg (by rw [held]; decide), induction listed]
        | true =>
            rw [List.filter_cons_of_pos held, List.eraseDups_cons, List.filter_filter]
            cases stays : kept faction with
            | true =>
                rw [List.filter_cons_of_pos stays, List.filter_cons_of_pos stays,
                  List.eraseDups_cons, induction]
                simp only [List.filter_filter, Bool.and_left_comm]
            | false =>
                rw [List.filter_cons_of_neg (by rw [stays]; decide),
                  List.filter_cons_of_neg (by rw [stays]; decide), induction]
                refine congrArg List.eraseDups ?_
                rw [List.filter_filter, List.filter_filter]
                refine List.filter_congr fun other _ => ?_
                by_cases same : other = faction
                · simp [same, stays]
                · rw [beq_false_of_ne same, Bool.not_false, Bool.true_and]
  have whole := passes fun _ => true
  rwa [List.filter_eq_self.mpr fun _ _ => rfl] at whole

namespace EdgeList

/-! ## Edges and the places of the first ones -/

section

variable (edges : EdgeList) (faction target : FactionId) (stance : Stance)

/-- Whether the snapshot holds an edge of a stance from one faction to another. -/
def HasEdge : Prop :=
  ∃ edge ∈ edges, edge.faction = faction ∧ edge.target = target ∧ edge.stance = stance

/-- The number of edges before the first one of a stance from one faction to another. -/
def firstEdge : Nat :=
  edges.findIdx fun edge => edge.faction = faction ∧ edge.target = target ∧ edge.stance = stance

end

theorem records_iff_hasEdge {edges : EdgeList} {faction target : FactionId} {stance : Stance} :
    edges.records faction target stance = true ↔ edges.HasEdge faction target stance :=
  records_iff

/-! ## Confirmed claims -/

/-- The targets of a faction's edges of a stance, first recorded first, whether or
not they acknowledge it. -/
def targets (edges : EdgeList) (faction : FactionId) (stance : Stance) : List FactionId :=
  (edges.outgoingOfStance faction stance).map (·.target)

section

variable {edges : EdgeList} {faction target : FactionId} {stance counterpart : Stance}

theorem mem_targets_iff :
    target ∈ edges.targets faction stance ↔ edges.HasEdge faction target stance := by
  rw [targets, List.mem_map, HasEdge]
  simp only [mem_outgoingOfStance]
  grind

/-- Targets stand in the order of the first edges to them. -/
theorem pairwise_targets (edges : EdgeList) (faction : FactionId) (stance : Stance) :
    (edges.targets faction stance).eraseDups.Pairwise fun earlier later =>
      edges.firstEdge faction earlier stance < edges.firstEdge faction later stance := by
  let chosen : Relationship → Bool := fun edge => edge.stance = stance && edge.faction = faction
  have place : ∀ target, edges.findIdx (fun edge => chosen edge && edge.target = target) =
      edges.firstEdge faction target stance := by
    intro target
    refine congrArg edges.findIdx (funext fun edge => ?_)
    rw [Bool.eq_iff_iff]
    simp only [chosen, Bool.and_eq_true, decide_eq_true_eq]
    grind
  have ordered := pairwise_eraseDups_map_filter edges chosen (·.target)
  simp only [place] at ordered
  rwa [targets, outgoingOfStance, outgoing, List.filter_filter]

variable (answered : stance.reciprocal = some counterpart)

include answered

theorem isReciprocated_eq_records {edge : Relationship} (claims : edge.stance = stance) :
    edges.isReciprocated edge = edges.records edge.target edge.faction counterpart := by
  rw [isReciprocated, claims, answered]

/-- Confirmed are the targets that record the counterpart. All edges to a faction
are acknowledged together, so the first one is never passed over. -/
theorem confirmed_eq_filter_targets (edges : EdgeList) (faction : FactionId) :
    edges.confirmed faction stance =
      (edges.targets faction stance).eraseDups.filter (edges.records · faction counterpart) := by
  have same : (edges.outgoingOfStance faction stance).filter edges.isReciprocated =
      (edges.outgoingOfStance faction stance).filter fun edge =>
        edges.records edge.target faction counterpart := by
    apply List.filter_congr
    intro edge member
    rcases mem_outgoingOfStance.mp member with ⟨_, rfl, claims⟩
    exact isReciprocated_eq_records answered claims
  rw [filter_eraseDups, targets, List.filter_map, confirmed, same]
  rfl

theorem mem_confirmed_iff :
    target ∈ edges.confirmed faction stance ↔
      edges.HasEdge faction target stance ∧ edges.HasEdge target faction counterpart := by
  rw [confirmed_eq_filter_targets answered, List.mem_filter, List.mem_eraseDups, mem_targets_iff,
    records_iff_hasEdge]

/-- Confirmed factions stand in the order of the first edges to them. -/
theorem pairwise_confirmed (edges : EdgeList) (faction : FactionId) :
    (edges.confirmed faction stance).Pairwise fun earlier later =>
      edges.firstEdge faction earlier stance < edges.firstEdge faction later stance := by
  rw [confirmed_eq_filter_targets answered]
  exact (pairwise_targets edges faction stance).filter _

end

theorem nodup_confirmed (edges : EdgeList) (faction : FactionId) (stance : Stance) :
    (edges.confirmed faction stance).Nodup :=
  nodup_eraseDups _

/-! ## Alliances -/

variable {edges : EdgeList} {left right : FactionId}

theorem mem_alliesOf_iff :
    right ∈ edges.alliesOf left ↔ edges.HasEdge left right .ally ∧ edges.HasEdge right left .ally :=
  mem_confirmed_iff rfl

theorem areAllied_iff :
    edges.areAllied left right = true ↔
      edges.HasEdge left right .ally ∧ edges.HasEdge right left .ally := by
  rw [areAllied, Bool.and_eq_true, records_iff_hasEdge, records_iff_hasEdge]

/-- Two factions are allied, whichever of them and whichever way one asks, exactly
if each of them records it, and a faction's allies are listed in the order in which
it first recorded them. -/
theorem alliance_is_mutual (edges : EdgeList) (left right : FactionId) :
    let allied := edges.HasEdge left right .ally ∧ edges.HasEdge right left .ally
    (right ∈ edges.alliesOf left ↔ allied) ∧ (left ∈ edges.alliesOf right ↔ allied) ∧
      (edges.areAllied left right = true ↔ allied) ∧
      (edges.areAllied right left = true ↔ allied) ∧
      (edges.alliesOf left).Nodup ∧
      (edges.alliesOf left).Pairwise fun earlier later =>
        edges.firstEdge left earlier .ally < edges.firstEdge left later .ally := by
  intro allied
  refine ⟨mem_alliesOf_iff, mem_alliesOf_iff.trans and_comm, areAllied_iff,
    areAllied_iff.trans and_comm, nodup_confirmed edges left .ally, ?_⟩
  exact pairwise_confirmed rfl edges left

end EdgeList

end Diplomacy
