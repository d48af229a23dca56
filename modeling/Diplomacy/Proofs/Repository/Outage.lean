import Diplomacy.Repository.Outage

/-!
Repositories that stand before another one and may fail at any call. Which calls
fail is left open; a call that fails does so in the storage and reaches nothing,
and every other call is passed on. A repository that can be cut off is of this
kind, whenever its outages begin and end.
-/

namespace Diplomacy.Repository

variable {ρ σ : Type} [Repository ρ] [Repository σ]

/-- A call either fails without effect on the state below, or answers and acts
as the same call does there. -/
def Relayed {α : Type} (below : ρ → σ) (state : ρ) (above : Except RepositoryError α × ρ)
    (direct : Except RepositoryError α × σ) : Prop :=
  (∃ description causes, above.1 = .error (.storage description causes) ∧
    below above.2 = below state) ∨
  (above.1 = direct.1 ∧ below above.2 = direct.2)

/-- Each call is passed on to the repository below, or fails without reaching it. -/
structure Relays (below : ρ → σ) : Prop where
  listAll : ∀ state,
    (∃ description causes, Repository.listAll state = .error (.storage description causes)) ∨
      Repository.listAll state = Repository.listAll (below state)
  upsert : ∀ state record, Relayed below state (Repository.upsert state record)
    (Repository.upsert (below state) record)
  delete : ∀ state id, Relayed below state (Repository.delete state id)
    (Repository.delete (below state) id)

theorem relays_self : Relays fun state : σ => state where
  listAll _ := .inr rfl
  upsert _ _ := .inr ⟨rfl, rfl⟩
  delete _ _ := .inr ⟨rfl, rfl⟩

theorem relays_interruptible : Relays (Interruptible.repository : Interruptible σ → σ) := by
  constructor
  · intro ⟨repository, outage⟩
    cases outage with
    | none => exact .inr rfl
    | some outage => exact .inl ⟨outage.1, outage.2, rfl⟩
  · intro ⟨repository, outage⟩ record
    cases outage with
    | none => exact .inr ⟨rfl, rfl⟩
    | some outage => exact .inl ⟨outage.1, outage.2, rfl, rfl⟩
  · intro ⟨repository, outage⟩ id
    cases outage with
    | none => exact .inr ⟨rfl, rfl⟩
    | some outage => exact .inl ⟨outage.1, outage.2, rfl, rfl⟩

end Diplomacy.Repository
