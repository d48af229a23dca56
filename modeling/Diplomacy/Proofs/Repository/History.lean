import Diplomacy.Proofs.Repository.Stored

/-!
Histories of a repository that serves the calls of any number of clients, one
after another and in any order. As long as an identifier is not deleted, the
writes that it accepts submit one version after the other: whoever writes has
seen what the write before it left, and no update is lost.
-/

namespace Diplomacy

namespace Repository

/-! ## Histories -/

/-- A call of a repository. -/
inductive Request where
  | list
  | upsert (record : Relationship)
  | delete (id : RelationshipId)

/-- A call of a repository and the answer to it. -/
inductive Exchange where
  | listed (answer : Except RepositoryError (List Relationship))
  | upserted (record : Relationship) (answer : Except RepositoryError Relationship)
  | deleted (id : RelationshipId) (answer : Except RepositoryError Unit)

/-- The versions that an accepted write submitted and committed. -/
structure Commit where
  submitted : Version
  committed : Version

/-- A successful deletion of an identifier. -/
def Exchange.Deletes (id : RelationshipId) : Exchange → Prop
  | .deleted other (.ok ()) => other = id
  | _ => False

/-- What an exchange commits for an identifier, if it is an accepted write of it. -/
def Exchange.commit? (id : RelationshipId) : Exchange → Option Commit
  | .upserted record (.ok committed) =>
      if record.id = id then
        some { submitted := record.version, committed := committed.version }
      else none
  | _ => none

/-- What the exchanges commit for an identifier, in call order. -/
def commits (id : RelationshipId) (exchanges : List Exchange) : List Commit :=
  exchanges.filterMap (·.commit? id)

variable {σ : Type} [Repository σ]

/-- Answer a call. -/
def serve (state : σ) : Request → Exchange × σ
  | .list => (.listed (Repository.listAll state), state)
  | .upsert record =>
      let (answer, next) := Repository.upsert state record
      (.upserted record answer, next)
  | .delete id =>
      let (answer, next) := Repository.delete state id
      (.deleted id answer, next)

/-- The exchanges of a repository that serves some calls. -/
def history : List Request → σ → List Exchange
  | [], _ => []
  | request :: requests, state =>
      (serve state request).1 :: history requests (serve state request).2

/-- The state in which some calls leave a repository. -/
def settle : List Request → σ → σ
  | [], state => state
  | request :: requests, state => settle requests (serve state request).2

/-- A part of a history is the history of a part of the calls. -/
theorem history_eq_append {requests : List Request} {state : σ} {left right : List Exchange}
    (split : history requests state = left ++ right) :
    ∃ earlier later, requests = earlier ++ later ∧ history earlier state = left ∧
      history later (settle earlier state) = right := by
  induction left generalizing requests state with
  | nil => exact ⟨[], requests, rfl, rfl, split⟩
  | cons exchange left induction =>
      cases requests with
      | nil => cases split
      | cons request requests =>
          rcases List.cons.inj split with ⟨head, tail⟩
          rcases induction tail with ⟨earlier, later, rfl, leftHistory, rightHistory⟩
          refine ⟨request :: earlier, later, rfl, ?_, rightHistory⟩
          rw [history, head, leftHistory]

/-- Each commit submits the version that the one before it committed. -/
structure Consecutive (start : Version) (commits : List Commit) : Prop where
  submitted : commits.map (·.submitted.value) = List.range' start.value commits.length
  committed : commits.map (·.committed.value) = List.range' (start.value + 1) commits.length

theorem Consecutive.cons {commit : Commit} {rest : List Commit}
    (successor : commit.committed.value = commit.submitted.value + 1)
    (consecutive : Consecutive commit.committed rest) :
    Consecutive commit.submitted (commit :: rest) where
  submitted := by
    rw [List.map_cons, List.length_cons, List.range'_succ, consecutive.submitted, successor]
  committed := by
    rw [List.map_cons, List.length_cons, List.range'_succ, consecutive.committed, successor]

end Repository

namespace Backend

open Repository

variable {backend : Backend} {state : backend.State} {id : RelationshipId}

/-- One call that does not delete an identifier: it leaves what is stored for
it, or commits the version that is stored. -/
theorem stored_serve (state : backend.State) (request : Request)
    (kept : ¬ (serve state request).1.Deletes id) :
    ((serve state request).1.commit? id = none ∧
      stored (serve state request).2 id = stored state id) ∨
      ∃ commit, (serve state request).1.commit? id = some commit ∧
        (stored state id = none ∨ stored state id = some (.ok commit.submitted)) ∧
        commit.committed.value = commit.submitted.value + 1 ∧
        stored (serve state request).2 id = some (.ok commit.committed) := by
  cases request with
  | list => exact .inl ⟨rfl, rfl⟩
  | upsert record =>
      rw [serve]
      cases attempt : Repository.upsert state record with
      | mk answer next =>
          cases answer with
          | error error =>
              rw [state_of_upsert_error attempt]
              exact .inl ⟨rfl, rfl⟩
          | ok committed =>
              have accepts := accepts_of_upsert attempt
              by_cases same : record.id = id
              · subst same
                exact .inr ⟨_, if_pos rfl, accepts.found, accepts.successor, accepts.left⟩
              · exact .inl ⟨if_neg same, accepts.others id (Ne.symm same)⟩
  | delete other =>
      refine .inl ⟨rfl, ?_⟩
      by_cases same : other = id
      · subst same
        rw [serve] at kept ⊢
        cases attempt : Repository.delete state other with
        | mk answer next =>
            rw [attempt] at kept
            cases answer with
            | error error => rw [state_of_delete_error attempt]
            | ok => exact absurd rfl kept
      · exact stored_delete state (Ne.symm same)

/-- Along calls that do not delete an identifier, its commits follow one another,
the first one what was stored before. -/
theorem consecutive_commits (requests : List Request) (state : backend.State)
    (id : RelationshipId)
    (kept : ∀ exchange ∈ history requests state, ¬ exchange.Deletes id) :
    commits id (history requests state) = [] ∨
      ∃ start, (stored state id = none ∨ stored state id = some (.ok start)) ∧
        Consecutive start (commits id (history requests state)) := by
  induction requests generalizing state with
  | nil => exact .inl rfl
  | cons request requests induction =>
      have rest := induction (serve state request).2 fun exchange member =>
        kept exchange (List.mem_cons_of_mem _ member)
      rw [history, commits, List.filterMap_cons]
      rcases stored_serve state request (kept _ List.mem_cons_self) with
        ⟨none, unchanged⟩ | ⟨commit, committed, found, successor, left⟩
      · rw [none, ← unchanged]
        exact rest
      · rw [committed]
        refine .inr ⟨commit.submitted, found, .cons successor ?_⟩
        rcases rest with empty | ⟨start, stands, consecutive⟩
        · rw [commits] at empty
          rw [empty]
          exact ⟨rfl, rfl⟩
        · rw [left] at stands
          rcases stands with absent | same
          · cases absent
          · cases same
            exact consecutive

/-- Two accepted writes of one identifier that submit the same version have a
successful deletion of it between them. -/
theorem exists_deletion_between {requests : List Request} {past between rest : List Exchange}
    {first second firstCommitted secondCommitted : Relationship}
    (served : history requests state = past ++ .upserted first (.ok firstCommitted) ::
      (between ++ .upserted second (.ok secondCommitted) :: rest))
    (same : first.id = second.id) (version : first.version = second.version) :
    ∃ exchange ∈ between, exchange.Deletes first.id := by
  by_contra undeleted
  let span := Exchange.upserted first (.ok firstCommitted) ::
    (between ++ [.upserted second (.ok secondCommitted)])
  rcases history_eq_append served with ⟨before, more, rfl, _, served⟩
  have split : history more (settle before state) = span ++ rest := by
    rw [served]
    simp [span]
  rcases history_eq_append split with ⟨during, _, _, spanned, _⟩
  have kept : ∀ exchange ∈ span, ¬ exchange.Deletes first.id := by
    intro exchange member deletes
    rcases List.mem_cons.mp member with rfl | member
    · exact deletes
    · rcases List.mem_append.mp member with member | member
      · exact undeleted ⟨exchange, member, deletes⟩
      · cases List.mem_singleton.mp member
        exact deletes
  have committed : commits first.id span =
      { submitted := first.version, committed := firstCommitted.version } ::
        (commits first.id between ++
          [{ submitted := second.version, committed := secondCommitted.version }]) := by
    simp [commits, span, Exchange.commit?, same]
  rcases consecutive_commits during (settle before state) first.id (spanned ▸ kept) with
    empty | ⟨start, _, consecutive⟩
  · rw [spanned, committed] at empty
    cases empty
  · -- Consecutive versions are distinct, but the first one comes back at the end.
    have distinct : ((commits first.id span).map (·.submitted.value)).Nodup := by
      rw [← spanned, consecutive.submitted]
      exact List.nodup_range'
    rw [committed, List.map_cons, List.map_append, version] at distinct
    exact (List.nodup_cons.mp distinct).1 (List.mem_append_right _ List.mem_cons_self)

/-- What the locking rule gives to clients that write in any order. -/
structure NoLostUpdate (state : backend.State) : Prop where
  /-- What counts as stored is what is listed, where listing succeeds. -/
  listed : ∀ requests records id, Repository.listAll (settle requests state) = .ok records →
    stored (settle requests state) id =
      (records.find? (·.id = id)).map fun record => .ok record.version
  /-- The writes of an identifier that no deletion of it separates. -/
  consecutive : ∀ before during id,
    (∀ exchange ∈ history during (settle before state), ¬ exchange.Deletes id) →
      commits id (history during (settle before state)) = [] ∨
        ∃ start, (stored (settle before state) id = none ∨
            stored (settle before state) id = some (.ok start)) ∧
          Consecutive start (commits id (history during (settle before state)))
  /-- Two writes that submit the same version. -/
  separated : ∀ requests past first firstCommitted between second secondCommitted rest,
    history requests state = past ++ .upserted first (.ok firstCommitted) ::
        (between ++ .upserted second (.ok secondCommitted) :: rest) →
      first.id = second.id → first.version = second.version →
        ∃ exchange ∈ between, exchange.Deletes first.id
  /-- A write that submits another version than the stored one. -/
  refused : ∀ requests record actual,
    stored (settle requests state) record.id = some (.ok actual) → actual ≠ record.version →
      Repository.upsert (settle requests state) record =
        (.error (.conflict record.id record.version actual), settle requests state)

/-- No update is lost, whatever a repository holds at the beginning and whatever
is asked of it. -/
theorem no_lost_update (backend : Backend) (state : backend.State) : NoLostUpdate state where
  listed _ _ id listed := stored_eq_of_listAll listed id
  consecutive before during id kept := consecutive_commits during (settle before state) id kept
  separated _ _ _ _ _ _ _ _ served same version := exists_deletion_between served same version
  refused _ _ _ found differs := upsert_of_other_version found differs

end Backend

end Diplomacy
