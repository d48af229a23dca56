import Mathlib.Data.List.Basic
import Diplomacy.Proofs.EdgeList.Vassalage
import Diplomacy.Proofs.Index.Listing

/-!
What becomes of facts when records are added. Records that are created are listed
after all others, and none of them undoes a fact. It may confirm a claim that was
made long before, so that new allies and vassals turn up between the old ones,
but these keep their order. War asks for no confirmation, so new enemies come last.
A liege that is verified stays the liege, whatever else its vassal claims later.
-/

namespace Diplomacy

namespace EdgeList

variable {edges added : EdgeList} {faction target liege : FactionId}
  {stance counterpart : Stance}

theorem HasEdge.append (held : edges.HasEdge faction target stance) (added : EdgeList) :
    (edges ++ added).HasEdge faction target stance := by
  rcases held with ⟨edge, recorded, declared⟩
  exact ⟨edge, List.mem_append_left added recorded, declared⟩

theorem targets_append (edges added : EdgeList) (faction : FactionId) (stance : Stance) :
    (edges ++ added).targets faction stance =
      edges.targets faction stance ++ added.targets faction stance := by
  simp only [targets, outgoingOfStance, outgoing, List.filter_append, List.map_append]

/-- Confirmed factions stay confirmed, and in order. -/
theorem confirmed_sublist_append (answered : stance.reciprocal = some counterpart)
    (edges added : EdgeList) (faction : FactionId) :
    (edges.confirmed faction stance).Sublist ((edges ++ added).confirmed faction stance) := by
  rw [confirmed_eq_filter_targets answered, confirmed_eq_filter_targets answered, targets_append,
    List.eraseDups_append, List.filter_append]
  apply List.Sublist.trans _ (List.sublist_append_left _ _)
  apply List.monotone_filter_right
  intro target acknowledged
  rw [records_iff_hasEdge] at acknowledged ⊢
  exact acknowledged.append added

theorem atWarWith_prefix_append (edges added : EdgeList) (faction : FactionId) :
    edges.atWarWith faction <+: (edges ++ added).atWarWith faction := by
  rw [atWarWith, atWarWith, List.filter_append, List.map_append, List.eraseDups_append]
  exact List.prefix_append _ _

theorem liegeOf_append (verified : edges.liegeOf faction = some liege) (added : EdgeList) :
    (edges ++ added).liegeOf faction = some liege := by
  rcases liegeOf_eq_some_iff.mp verified with ⟨first, recorded⟩
  refine liegeOf_eq_some_iff.mpr ⟨?_, recorded.append added⟩
  have claims : (edges ++ added).liegeClaims faction =
      edges.liegeClaims faction ++ added.liegeClaims faction :=
    targets_append edges added faction .liege
  rw [claims, List.head?_append, first, Option.some_or]

/-- Records that are created under new identifiers are listed after the ones that
an index holds, and what was a fact before is a fact still. -/
theorem new_records_keep_facts (edges added : EdgeList) (faction : FactionId) :
    (edges.alliesOf faction).Sublist ((edges ++ added).alliesOf faction) ∧
      (edges.vassalsOf faction).Sublist ((edges ++ added).vassalsOf faction) ∧
      edges.atWarWith faction <+: (edges ++ added).atWarWith faction ∧
      (∀ liege, edges.liegeOf faction = some liege →
        (edges ++ added).liegeOf faction = some liege) ∧
      ∀ index : Index, index.toList = edges → ((edges ++ added).map (·.id)).Nodup →
        (index.commitAll added).toList = edges ++ added := by
  refine ⟨?allies, ?vassals, ?enemies, ?liege, ?created⟩
  case allies => exact confirmed_sublist_append rfl edges added faction
  case vassals => exact confirmed_sublist_append rfl edges added faction
  case enemies => exact atWarWith_prefix_append edges added faction
  case liege => exact fun liege verified => liegeOf_append verified added
  case created =>
    rintro index rfl distinct
    exact Index.toList_commitAll distinct

def host : FactionId := ⟨70, by decide⟩
def guest : FactionId := ⟨71, by decide⟩
def rival : FactionId := ⟨72, by decide⟩

/-- The host declares itself an ally of the guest and of the rival, and only the
rival returns that. The guest serves the host. -/
def accords : EdgeList :=
  [.declare ⟨61, by decide⟩ host guest .ally, .declare ⟨62, by decide⟩ host rival .ally,
   .declare ⟨63, by decide⟩ rival host .ally, .declare ⟨64, by decide⟩ host guest .vassal,
   .declare ⟨65, by decide⟩ guest host .liege]

/-- The guest becomes an ally after all, and claims a second liege, who agrees. -/
def laterAccords : EdgeList :=
  [.declare ⟨66, by decide⟩ guest host .ally, .declare ⟨67, by decide⟩ guest rival .liege,
   .declare ⟨68, by decide⟩ rival guest .vassal]

/-- A late confirmation puts a new ally before an old one. -/
theorem later_accords_keep_facts :
    accords.alliesOf host = [rival] ∧ (accords ++ laterAccords).alliesOf host = [guest, rival] ∧
      (accords.alliesOf host).Sublist ((accords ++ laterAccords).alliesOf host) ∧
      (accords ++ laterAccords).liegeOf guest = some host ∧
      ((Index.ofRecords accords).commitAll laterAccords).toList = accords ++ laterAccords := by
  rcases new_records_keep_facts accords laterAccords host with ⟨allies, -, -, -, -⟩
  rcases new_records_keep_facts accords laterAccords guest with ⟨-, -, -, liege, created⟩
  refine ⟨by decide, by decide, allies, liege host (by decide), ?_⟩
  exact created (Index.ofRecords accords) (Index.toList_ofRecords (by decide)) (by decide)

end EdgeList

end Diplomacy
