import Diplomacy.Proofs.Index.Listing
import Diplomacy.Proofs.Repository.Answers
import Diplomacy.Proofs.Repository.Outage
import Diplomacy.Proofs.Service.Runs

/-!
The index and the repository of a service stay in step. A service that is the
only writer of its repository lists what the repository lists, record for record
and in the same order, after every call, whichever calls of the repository fail
and however deeply its hooks come back to it. The guard by which the index
ignores a late commit is never needed on the way: the version that is committed
is always above the one that is indexed.
-/

namespace Diplomacy

namespace Service

variable {σ ω : Type} [Repository σ] {service : Service σ ω} {record committed : Relationship}
  {id : RelationshipId} {error : RepositoryError} {after : σ}

/-! ## Commit and deletion as the repository answers -/

theorem commit_of_error
    (refused : Repository.upsert service.repository record = (.error error, after)) :
    service.commit record =
      (.error (.ofRepositoryError error),
        note { service with repository := after } [.saveFailed record.id error]) := by
  rw [commit, refused]

theorem commit_of_ok
    (accepted : Repository.upsert service.repository record = (.ok committed, after)) :
    (service.commit record).1 = .ok committed ∧
      (service.commit record).2.repository = after := by
  rw [commit, accepted]
  exact ⟨rfl, rfl⟩

/-- The index follows an accepted commit that is not out of date. -/
theorem toList_commit
    (accepted : Repository.upsert service.repository record = (.ok committed, after))
    (current : ∀ old, service.index.toList.find? (·.id = committed.id) = some old →
      old.version.value ≤ committed.version.value) :
    (service.commit record).2.index.toList =
      MemoryRepository.place committed service.index.toList := by
  rw [Index.find?_toList] at current
  rw [commit, accepted]
  exact (Index.toList_applyCommitted current).2

theorem discard_of_error
    (refused : Repository.delete service.repository id = (.error error, after)) :
    service.discard id =
      (.error (.ofRepositoryError error),
        note { service with repository := after } [.deleteFailed id error]) := by
  rw [discard, refused]

theorem discard_of_ok (accepted : Repository.delete service.repository id = (.ok (), after)) :
    (service.discard id).1 = .ok () ∧ (service.discard id).2.repository = after := by
  rw [discard, accepted]
  exact ⟨rfl, rfl⟩

/-- The index follows a confirmed deletion. -/
theorem toList_discard (accepted : Repository.delete service.repository id = (.ok (), after)) :
    (service.discard id).2.index.toList = service.index.toList.filter (·.id ≠ id) := by
  rw [discard, accepted]
  exact service.index.toList_remove id

/-! ## The invariant -/

variable {backend : Backend} {ρ : Type} [Repository ρ] {below : ρ → backend.State}

/-- What the index lists is what the repository below holds. -/
def Mirrors (below : ρ → backend.State) (repository : ρ) (index : Index) : Prop :=
  Backend.Holds (below repository) index.toList

variable {state after : ρ} {records : List Relationship}

/-- Whether or not it is passed on, a write is refused without effect, or commits
a version above the stored one and places the record. -/
theorem upsert_cases (relays : Repository.Relays below)
    (holds : Backend.Holds (below state) records) {answer : Except RepositoryError Relationship}
    (attempt : Repository.upsert state record = (answer, after)) :
    (∃ error, answer = .error error ∧ below after = below state) ∨
      ∃ committed, answer = .ok committed ∧
        (∀ stored, records.find? (·.id = committed.id) = some stored →
          stored.version.value ≤ committed.version.value) ∧
        Backend.Holds (below after) (MemoryRepository.place committed records) := by
  have relayed := relays.upsert state record
  rw [attempt] at relayed
  rcases relayed with ⟨description, causes, failed, kept⟩ | ⟨same, direct⟩
  · exact .inl ⟨_, failed, kept⟩
  · rcases Backend.upsert_cases holds record with
      ⟨error, refused⟩ | ⟨committed, next, accepted, current, placed⟩
    · rw [refused] at same direct
      exact .inl ⟨error, same, direct⟩
    · rw [accepted] at same direct
      exact .inr ⟨committed, same, current, direct ▸ placed⟩

/-- Whether or not it is passed on, a deletion is refused without effect, or
takes out a record. -/
theorem delete_cases (relays : Repository.Relays below)
    (holds : Backend.Holds (below state) records) {answer : Except RepositoryError Unit}
    (attempt : Repository.delete state id = (answer, after)) :
    (∃ error, answer = .error error ∧ below after = below state) ∨
      answer = .ok () ∧ Backend.Holds (below after) (records.filter (·.id ≠ id)) := by
  have relayed := relays.delete state id
  rw [attempt] at relayed
  rcases relayed with ⟨description, causes, failed, kept⟩ | ⟨same, direct⟩
  · exact .inl ⟨_, failed, kept⟩
  · rcases Backend.delete_cases holds id with ⟨error, refused⟩ | ⟨next, deleted, rest⟩
    · rw [refused] at same direct
      exact .inl ⟨error, same, direct⟩
    · rw [deleted] at same direct
      exact .inr ⟨same, direct ▸ rest⟩

theorem mirrors_commit (relays : Repository.Relays below) (service : Service ρ ω)
    (record : Relationship) (mirrors : Mirrors below service.repository service.index) :
    Mirrors below (service.commit record).2.repository (service.commit record).2.index := by
  cases attempt : Repository.upsert service.repository record with
  | mk answer after =>
      rcases upsert_cases relays mirrors attempt with
        ⟨error, rfl, kept⟩ | ⟨committed, rfl, current, placed⟩
      · rw [commit_of_error attempt, Mirrors]
        exact kept ▸ mirrors
      · -- What is committed is never older than what is indexed, so the index takes it.
        rw [Mirrors, (commit_of_ok attempt).2, toList_commit attempt current]
        exact placed

theorem mirrors_discard (relays : Repository.Relays below) (service : Service ρ ω)
    (id : RelationshipId) (mirrors : Mirrors below service.repository service.index) :
    Mirrors below (service.discard id).2.repository (service.discard id).2.index := by
  cases attempt : Repository.delete service.repository id with
  | mk answer after =>
      rcases delete_cases relays mirrors attempt with ⟨error, rfl, kept⟩ | ⟨rfl, rest⟩
      · rw [discard_of_error attempt, Mirrors]
        exact kept ▸ mirrors
      · rw [Mirrors, (discard_of_ok attempt).2, toList_discard attempt]
        exact rest

/-- A change that leaves the repository below as it is. -/
def Outside (below : ρ → backend.State) (change : ρ → ρ) : Prop :=
  ∀ state, below (change state) = below state

theorem upheld_mirrors (relays : Repository.Relays below) (hooksWrite : Prop) :
    Upheld (Outside below) hooksWrite fun service : Service ρ ω =>
      Mirrors below service.repository service.index ∧
        service.HooksConfined (Outside below) hooksWrite := by
  apply Upheld.of_contents (mirrors_commit relays) (mirrors_discard relays)
  intro repository index change outside mirrors
  rw [Mirrors, outside]
  exact mirrors

/-- A service starts in step with the repository that it was loaded from, and
without hooks. -/
theorem mirrors_load (relays : Repository.Relays below) {repository : ρ} {config : Config}
    {primaryThread : ThreadId} {service : Service ρ ω}
    (distinct : backend.Distinct (below repository))
    (loaded : load repository config primaryThread = .ok service) (hooksWrite : Prop) :
    Mirrors below service.repository service.index ∧
      service.HooksConfined (Outside below) hooksWrite := by
  unfold load at loaded
  split at loaded
  · cases loaded
  · next records listed =>
      cases loaded
      rcases relays.listAll repository with ⟨description, causes, failed⟩ | direct
      · rw [failed] at listed
        cases listed
      · have holds := distinct.holds (direct ▸ listed)
        constructor
        · rw [Mirrors, Index.toList_ofRecords holds.distinct]
          exact holds
        · intro hook member
          cases member

/-- The questions about single records and about all of them answer what the
repository below lists, and so would those of a service loaded from it now. -/
structure InStep (below : ρ → backend.State) (service : Service ρ ω) : Prop where
  listed : Repository.listAll (below service.repository) = .ok (service.ask .list).1
  distinct : ((service.ask .list).1.map (·.id)).Nodup
  found : ∀ id record, (service.ask (.get id)).1 = some record ↔
    record ∈ (service.ask .list).1 ∧ record.id = id
  reloaded : ∀ config primaryThread (second : Service ρ ω),
    load service.repository config primaryThread = .ok second →
      (second.ask .list).1 = (service.ask .list).1
  recoverable : ∀ config primaryThread, ∃ second : Service backend.State ω,
    load (below service.repository) config primaryThread = .ok second ∧
      (second.ask .list).1 = (service.ask .list).1

theorem Mirrors.inStep (relays : Repository.Relays below) {service : Service ρ ω}
    (mirrors : Mirrors below service.repository service.index) : service.InStep below where
  listed := mirrors.listAll_eq
  distinct := service.index.nodup_ids
  found _ _ := Index.get?_eq_some_iff
  reloaded config primaryThread second loaded := by
    unfold load at loaded
    split at loaded
    · cases loaded
    · next records listed =>
        cases loaded
        rcases relays.listAll service.repository with ⟨description, causes, failed⟩ | direct
        · rw [failed] at listed
          cases listed
        · rw [direct, mirrors.listAll_eq] at listed
          cases listed
          exact Index.toList_ofRecords service.index.nodup_ids
  recoverable config primaryThread := by
    rw [load, mirrors.listAll_eq]
    exact ⟨_, rfl, Index.toList_ofRecords service.index.nodup_ids⟩

/-- A service that is the only writer of its repository is in step with it when
it is loaded and after every call that is completed, at the top or nested in
hooks, whichever calls of the repository fail. -/
theorem inStep_after_every_call (backend : Backend) {ρ ω : Type} [Repository ρ]
    {below : ρ → backend.State} (relays : Repository.Relays below) {repository : ρ}
    (distinct : backend.Distinct (below repository)) {config : Config} {primaryThread : ThreadId}
    {service : Service ρ ω} (loaded : load repository config primaryThread = .ok service)
    (host : ω) {program : Reaction ρ ω} (confined : program.Confined (Outside below) True True)
    (nesting : Nat) :
    service.InStep below ∧
      ∀ completion ∈ Run.completions (Run.incidentsOfReaction (Run.consult nesting)
          (Run.incidents nesting) program { service, host }),
        completion.session.service.InStep below := by
  have start := mirrors_load relays distinct loaded True
  have upheld : Upheld (Outside below) True fun service : Service ρ ω =>
      Mirrors below service.repository service.index ∧
        service.HooksConfined (Outside below) True := upheld_mirrors relays True
  refine ⟨start.1.inStep relays, ?_⟩
  intro completion member
  have kept := Run.holds_of_mem_incidentsOfReaction upheld
    (fun _ confined event => Run.keeps_consult upheld nesting confined event)
    (fun _ confined event session => Run.holds_of_mem_incidents upheld nesting confined event
      session)
    confined { service, host } start completion member
  exact kept.1.inStep relays

/-! ## A run with a meddling hook -/

/-- An alliance that was committed seven times. -/
def pledge : Relationship where
  id := ⟨1, by decide⟩
  faction := ⟨2, by decide⟩
  target := ⟨3, by decide⟩
  stance := .ally
  version := ⟨7, by decide⟩

/-- The pledge in memory, behind calls that may be interrupted. -/
def seeded : Interruptible MemoryRepository where
  repository := { records := [pledge] }

/-- The repository in memory behind the interruptions. -/
def behind (repository : Interruptible MemoryRepository) : Backend.memory.State :=
  repository.repository

/-- On a creation the hook saves the pledge, and tries to delete it while the
repository is cut off; it vetoes every deletion. -/
def meddler : Hook (Interruptible MemoryRepository) Unit
  | .create _ _ =>
      .save 0 pledge fun _ =>
        .repository (fun state => { state with outage := some ("cut off", []) }) fun _ =>
          .delete 0 pledge.id fun _ =>
            .repository (fun state => { state with outage := none }) fun _ => .decide .proceed
  | .delete _ _ => .decide (.cancel "kept")

/-- Register the hook, create a record, and save the pledge with its old version. -/
def meddling : Reaction (Interruptible MemoryRepository) Unit :=
  .register meddler <|
    .save 0 { pledge with id := ⟨4, by decide⟩ } fun _ =>
      .save 0 pledge fun _ => .decide .proceed

theorem inStep_after_meddling :
    ∃ service : Service (Interruptible MemoryRepository) Unit,
      load seeded {} 0 = .ok service ∧ Backend.memory.Distinct (behind seeded) ∧
        meddling.Confined (Outside behind) True True ∧ service.InStep behind ∧
        ∀ completion ∈ Run.completions (Run.incidentsOfReaction (Run.consult 2)
            (Run.incidents 2) meddling { service, host := () }),
          completion.session.service.InStep behind := by
  have relays : Repository.Relays behind := Repository.relays_interruptible
  have distinct : Backend.memory.Distinct (behind seeded) := List.pairwise_singleton _ _
  have confined : meddling.Confined (Outside behind) True True := by
    refine .register (fun event => ?_) (.save trivial fun _ => .save trivial fun _ => .decide _)
    cases event with
    | create record isAsync =>
        exact .save trivial fun _ => .repository (fun _ => rfl) fun _ =>
          .delete trivial fun _ => .repository (fun _ => rfl) fun _ => .decide _
    | delete id isAsync => exact .decide _
  have loads : ∃ service : Service (Interruptible MemoryRepository) Unit,
      load seeded {} 0 = .ok service := ⟨_, rfl⟩
  rcases loads with ⟨service, loaded⟩
  have inStep := inStep_after_every_call .memory relays distinct loaded () confined 2
  exact ⟨service, loaded, distinct, confined, inStep⟩

end Service

end Diplomacy
