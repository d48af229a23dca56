import Diplomacy.Repository.Basic

/-!
Repositories that can be cut off. During an outage every operation fails with
the outage's error, and the repository below is not reached.
-/

namespace Diplomacy

/-- A repository and the outage it is under, if any. -/
structure Interruptible (σ : Type) where
  repository : σ
  /-- The description and the causes of the present outage. -/
  outage : Option (String × List String) := none

namespace Interruptible

variable {σ : Type}

def error? (interruptible : Interruptible σ) : Option RepositoryError :=
  interruptible.outage.map fun (description, causes) => .storage description causes

/-- Run an operation of the repository below, unless there is an outage. -/
def attempt {α : Type} (interruptible : Interruptible σ)
    (operation : σ → Except RepositoryError α × σ) :
    Except RepositoryError α × Interruptible σ :=
  match interruptible.error? with
  | some error => (.error error, interruptible)
  | none =>
      let (answer, repository) := operation interruptible.repository
      (answer, { interruptible with repository })

instance [Repository σ] : Repository (Interruptible σ) where
  listAll interruptible :=
    match interruptible.error? with
    | some error => .error error
    | none => Repository.listAll interruptible.repository
  upsert interruptible relationship :=
    interruptible.attempt fun repository => Repository.upsert repository relationship
  delete interruptible id := interruptible.attempt fun repository => Repository.delete repository id

end Interruptible

end Diplomacy
