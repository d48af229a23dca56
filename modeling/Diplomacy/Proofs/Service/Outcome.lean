import Diplomacy.Proofs.Service.Coherence
import Diplomacy.Proofs.Service.Consultation

/-!
The outcome of a save or a deletion, told from what the service answers before
it and from the verdict of its hooks. A veto comes first, then a version that
differs from the one that is listed, then the end of the version counter; what
is left is committed. Nothing changes but in the last case.
-/

namespace Diplomacy

namespace Run

variable {backend : Backend} {ω : Type}

/-! ## Outcomes -/

/-- A record is recorded after a call, at its old place if it had one and at the
end otherwise, and all else is as before. -/
structure Placed (session after : Session backend.State ω) (committed : Relationship) : Prop where
  found : (after.service.ask (.get committed.id)).1 = some committed
  others : ∀ id ≠ committed.id,
    (after.service.ask (.get id)).1 = (session.service.ask (.get id)).1
  appended : (session.service.ask (.get committed.id)).1 = none →
    (after.service.ask .list).1 = (session.service.ask .list).1 ++ [committed]
  replaced : (session.service.ask (.get committed.id)).1 ≠ none →
    (after.service.ask .list).1 = (session.service.ask .list).1.map fun record =>
      if record.id = committed.id then committed else record
  stored : Repository.listAll after.service.repository = .ok (after.service.ask .list).1

/-- The record with an identifier is gone after a call, and all else is as before. -/
structure Removed (session after : Session backend.State ω) (id : RelationshipId) : Prop where
  gone : (after.service.ask (.get id)).1 = none
  others : ∀ other ≠ id,
    (after.service.ask (.get other)).1 = (session.service.ask (.get other)).1
  listed : (after.service.ask .list).1 = (session.service.ask .list).1.filter (·.id ≠ id)
  stored : Repository.listAll after.service.repository = .ok (after.service.ask .list).1

/-- The record to save is new and no hook vetoes it, or it has the version that
is recorded. -/
inductive Admitted (consulting : Hook backend.State ω → Event → Run backend.State ω Decision)
    (caller : ThreadId) (record : Relationship) (session : Session backend.State ω) : Prop where
  | new {asked : Session backend.State ω}
      (absent : (session.service.ask (.get record.id)).1 = none)
      (passed : AllProceed consulting (.create record (session.service.isAsync caller))
        session.service.hooks.hooks session asked)
  | current {stored : Relationship}
      (found : (session.service.ask (.get record.id)).1 = some stored)
      (agrees : stored.version = record.version)

/-- What a save answers and leaves behind. -/
inductive SaveOutcome (consulting : Hook backend.State ω → Event → Run backend.State ω Decision)
    (caller : ThreadId) (record : Relationship) (session : Session backend.State ω) :
    Except Failure Relationship → Session backend.State ω → Prop where
  | cancelled {reason : String} {asked after : Session backend.State ω}
      (absent : (session.service.ask (.get record.id)).1 = none)
      (vetoed : FirstVeto consulting (.create record (session.service.isAsync caller))
        session.service.hooks.hooks session reason asked)
      (unwritten : Unwritten session after) :
      SaveOutcome consulting caller record session
        (.error { kind := .cancelled, cause := .veto reason }) after
  | conflict {stored : Relationship} {after : Session backend.State ω}
      (found : (session.service.ask (.get record.id)).1 = some stored)
      (differs : stored.version ≠ record.version) (unwritten : Unwritten session after) :
      SaveOutcome consulting caller record session
        (.error
          { kind := .conflict
            cause := .repository (.conflict record.id record.version stored.version) }) after
  | exhausted {description : String} {causes : List String} {after : Session backend.State ω}
      (admitted : Admitted consulting caller record session)
      (limit : backend.limit ≤ record.version.value) (unwritten : Unwritten session after) :
      SaveOutcome consulting caller record session
        (.error { kind := .general, cause := .repository (.storage description causes) }) after
  | committed {version : Version} {after : Session backend.State ω}
      (admitted : Admitted consulting caller record session)
      (room : record.version.value < backend.limit)
      (successor : version.value = record.version.value + 1)
      (placed : Placed session after { record with version }) :
      SaveOutcome consulting caller record session (.ok { record with version }) after

/-- What a deletion answers and leaves behind. -/
inductive DeleteOutcome
    (consulting : Hook backend.State ω → Event → Run backend.State ω Decision)
    (caller : ThreadId) (id : RelationshipId) (session : Session backend.State ω) :
    Except Failure Unit → Session backend.State ω → Prop where
  | cancelled {reason : String} {asked after : Session backend.State ω}
      (vetoed : FirstVeto consulting (.delete id (session.service.isAsync caller))
        session.service.hooks.hooks session reason asked)
      (unwritten : Unwritten session after) :
      DeleteOutcome consulting caller id session
        (.error { kind := .cancelled, cause := .veto reason }) after
  | missing {asked after : Session backend.State ω}
      (passed : AllProceed consulting (.delete id (session.service.isAsync caller))
        session.service.hooks.hooks session asked)
      (absent : (session.service.ask (.get id)).1 = none) (unwritten : Unwritten session after) :
      DeleteOutcome consulting caller id session
        (.error { kind := .general, cause := .repository (.notFound id) }) after
  | deleted {stored : Relationship} {asked after : Session backend.State ω}
      (passed : AllProceed consulting (.delete id (session.service.isAsync caller))
        session.service.hooks.hooks session asked)
      (found : (session.service.ask (.get id)).1 = some stored)
      (removed : Removed session after id) :
      DeleteOutcome consulting caller id session (.ok ()) after

/-! ## What a commit changes -/

variable {session after : Session backend.State ω} {record committed stored : Relationship}
  {id : RelationshipId}

theorem Unwritten.get (unwritten : Unwritten session after) (id : RelationshipId) :
    (after.service.ask (.get id)).1 = (session.service.ask (.get id)).1 :=
  congrArg (·.get? id) unwritten.index

theorem Unwritten.list (unwritten : Unwritten session after) :
    (after.service.ask .list).1 = (session.service.ask .list).1 :=
  congrArg (·.toList) unwritten.index

theorem Unwritten.placed {between : Session backend.State ω}
    (unwritten : Unwritten session between) (placed : Placed between after committed) :
    Placed session after committed where
  found := placed.found
  others id other := (placed.others id other).trans (unwritten.get id)
  appended absent := unwritten.list ▸ placed.appended ((unwritten.get _).trans absent)
  replaced present := unwritten.list ▸ placed.replaced ((unwritten.get _).trans_ne present)
  stored := placed.stored

theorem Unwritten.removed {between : Session backend.State ω}
    (unwritten : Unwritten session between) (removed : Removed between after id) :
    Removed session after id where
  gone := removed.gone
  others other differs := (removed.others other differs).trans (unwritten.get other)
  listed := unwritten.list ▸ removed.listed
  stored := removed.stored

theorem placed_of_toList
    (listed : after.service.index.toList =
      MemoryRepository.place committed session.service.index.toList)
    (holds : Backend.Holds after.service.repository after.service.index.toList) :
    Placed session after committed where
  found := by
    change after.service.index.get? committed.id = _
    rw [← Index.find?_toList, listed, MemoryRepository.find?_place, if_pos rfl]
  others id other := by
    change after.service.index.get? id = session.service.index.get? id
    rw [← Index.find?_toList, listed, MemoryRepository.find?_place, if_neg other.symm,
      Index.find?_toList]
  appended absent := listed.trans <|
    MemoryRepository.place_of_absent (Index.get?_eq_none_iff.mp absent)
  replaced present := by
    rcases Option.ne_none_iff_exists'.mp present with ⟨old, found⟩
    rcases Index.get?_eq_some_iff.mp found with ⟨member, same⟩
    exact listed.trans (MemoryRepository.place_of_mem session.service.index.nodup_ids member same)
  stored := holds.listAll_eq

theorem removed_of_toList
    (listed : after.service.index.toList = session.service.index.toList.filter (·.id ≠ id))
    (holds : Backend.Holds after.service.repository after.service.index.toList) :
    Removed session after id where
  gone := by
    apply Index.get?_eq_none_iff.mpr
    intro record member
    rw [listed, List.mem_filter] at member
    exact of_decide_eq_true member.2
  others other differs := by
    apply Option.ext
    intro record
    change after.service.index.get? other = some record ↔ session.service.index.get? other = _
    rw [Index.get?_eq_some_iff, Index.get?_eq_some_iff, listed, List.mem_filter]
    constructor
    · intro ⟨⟨member, _⟩, same⟩
      exact ⟨member, same⟩
    · intro ⟨member, same⟩
      exact ⟨⟨member, decide_eq_true (same ▸ differs)⟩, same⟩
  listed := listed
  stored := holds.listAll_eq

theorem commitAnnounced_apply (record : Relationship) (session : Session backend.State ω) :
    commitAnnounced record (.ok ()) session =
      some ((session.service.commit record).1,
        { session with service := (session.service.commit record).2 }) := rfl

theorem commitAnnounced_of_mismatch
    (holds : Backend.Holds session.service.repository session.service.index.toList)
    (found : session.service.index.get? record.id = some stored)
    (differs : stored.version ≠ record.version) :
    ∃ after, commitAnnounced record (.ok ()) session =
        some (.error
          { kind := .conflict
            cause := .repository (.conflict record.id record.version stored.version) }, after) ∧
      Unwritten session after := by
  have refused := Backend.upsert_of_mismatch holds
    ((session.service.index.find?_toList record.id).trans found) differs
  rw [commitAnnounced_apply, Service.commit_of_error refused]
  exact ⟨_, rfl, rfl, rfl⟩

theorem commitAnnounced_of_exhausted
    (holds : Backend.Holds session.service.repository session.service.index.toList)
    (agrees : ∀ stored, session.service.index.get? record.id = some stored →
      stored.version = record.version)
    (exhausted : backend.limit ≤ record.version.value) :
    ∃ description causes after, commitAnnounced record (.ok ()) session =
        some (.error { kind := .general, cause := .repository (.storage description causes) },
          after) ∧
      Unwritten session after := by
  rw [← Index.find?_toList] at agrees
  rcases Backend.upsert_of_exhausted holds agrees exhausted with ⟨description, causes, refused⟩
  rw [commitAnnounced_apply, Service.commit_of_error refused]
  exact ⟨description, causes, _, rfl, rfl, rfl⟩

theorem commitAnnounced_of_room
    (holds : Backend.Holds session.service.repository session.service.index.toList)
    (agrees : ∀ stored, session.service.index.get? record.id = some stored →
      stored.version = record.version)
    (room : record.version.value < backend.limit) :
    ∃ (version : Version) (after : Session backend.State ω),
      version.value = record.version.value + 1 ∧
      commitAnnounced record (.ok ()) session = some (.ok { record with version }, after) ∧
      Placed session after { record with version } := by
  rw [← Index.find?_toList] at agrees
  rcases Backend.upsert_of_agrees holds agrees room with
    ⟨committed, next, accepted, successor, kept, placed⟩
  rcases Service.commit_of_ok accepted with ⟨answered, stored⟩
  have current : ∀ old, session.service.index.toList.find? (·.id = committed.id) = some old →
      old.version.value ≤ committed.version.value := by
    intro old found
    rw [kept] at found
    rw [agrees old found, successor]
    exact Nat.le_succ _
  have listed := Service.toList_commit accepted current
  refine ⟨committed.version, { session with service := (session.service.commit record).2 },
    successor, ?_, ?_⟩
  · rw [commitAnnounced_apply, answered, ← kept]
  · rw [← kept]
    refine placed_of_toList listed ?_
    dsimp only
    rw [stored, listed]
    exact placed

theorem removed_of_discard
    (holds : Backend.Holds session.service.repository session.service.index.toList)
    (found : session.service.index.get? id = some stored) :
    (session.service.discard id).1 = .ok () ∧
      Removed session { session with service := (session.service.discard id).2 } id := by
  rw [← Index.find?_toList] at found
  rcases Backend.delete_of_present holds found with ⟨next, accepted, rest⟩
  rcases Service.discard_of_ok accepted with ⟨answered, stored⟩
  have listed := Service.toList_discard accepted
  refine ⟨answered, removed_of_toList listed ?_⟩
  dsimp only
  rw [stored, listed]
  exact rest

/-! ## Save and delete -/

/-- The hooks of a session neither save nor delete. -/
abbrev Quiet (session : Session backend.State ω) : Prop :=
  session.service.HooksConfined (Service.Outside fun state : backend.State => state) False

section

variable {consulting : Hook backend.State ω → Event → Run backend.State ω Decision}
  {caller : ThreadId} {asked : Session backend.State ω} {reason : String}

/-- A save that is admitted and reaches the repository is committed, unless the
version counter is at its end. -/
theorem save_outcome_of_admitted
    (holds : Backend.Holds session.service.repository session.service.index.toList)
    (agrees : ∀ stored, session.service.index.get? record.id = some stored →
      stored.version = record.version)
    (admitted : Admitted consulting caller record session) (unwritten : Unwritten session asked)
    (saved : save consulting caller record session = commitAnnounced record (.ok ()) asked) :
    ∃ answer after, save consulting caller record session = some (answer, after) ∧
      SaveOutcome consulting caller record session answer after := by
  rw [← unwritten.repository, ← unwritten.index] at holds
  rw [← unwritten.index] at agrees
  rw [saved]
  rcases Nat.lt_or_ge record.version.value backend.limit with room | exhausted
  · rcases commitAnnounced_of_room holds agrees room with
      ⟨version, after, successor, committed, placed⟩
    exact ⟨_, after, committed, .committed admitted room successor (unwritten.placed placed)⟩
  · rcases commitAnnounced_of_exhausted holds agrees exhausted with
      ⟨description, causes, after, failed, rest⟩
    exact ⟨_, after, failed, .exhausted admitted exhausted (unwritten.trans rest)⟩

end

/-- Every save has an outcome. -/
theorem save_outcome (quiet : Quiet session)
    (holds : Backend.Holds session.service.repository session.service.index.toList)
    (nesting : Nat) (caller : ThreadId) (record : Relationship) :
    ∃ answer after, save (consult (nesting + 1)) caller record session = some (answer, after) ∧
      SaveOutcome (consult (nesting + 1)) caller record session answer after := by
  cases found : session.service.index.get? record.id with
  | none =>
      have fresh : (session.service.index.get? record.id).isNone = true := by rw [found]; rfl
      rcases verdict_of_quiet (fun _ outside => outside) nesting
          (.create record (session.service.isAsync caller)) quiet session with
        ⟨asked, unwritten, passed | ⟨reason, vetoed⟩⟩
      · apply save_outcome_of_admitted holds _ (.new found passed) unwritten
          (save_of_allProceed fresh passed)
        intro stored here
        rw [found] at here
        cases here
      · exact ⟨_, _, save_of_firstVeto fresh vetoed,
          .cancelled found vetoed ⟨unwritten.repository, unwritten.index⟩⟩
  | some stored =>
      have saved : save (consult (nesting + 1)) caller record session =
          commitAnnounced record (.ok ()) session := by
        rw [save_apply, found]
        rfl
      by_cases same : stored.version = record.version
      · apply save_outcome_of_admitted holds _ (.current found same) (.refl session) saved
        intro other here
        rw [found] at here
        cases here
        exact same
      · rcases commitAnnounced_of_mismatch holds found same with ⟨after, refused, unwritten⟩
        exact ⟨_, after, saved.trans refused, .conflict found same unwritten⟩

/-- Every deletion has an outcome. -/
theorem delete_outcome (quiet : Quiet session)
    (holds : Backend.Holds session.service.repository session.service.index.toList)
    (nesting : Nat) (caller : ThreadId) (id : RelationshipId) :
    ∃ answer after, delete (consult (nesting + 1)) caller id session = some (answer, after) ∧
      DeleteOutcome (consult (nesting + 1)) caller id session answer after := by
  rcases verdict_of_quiet (fun _ outside => outside) nesting
      (.delete id (session.service.isAsync caller)) quiet session with
    ⟨asked, unwritten, passed | ⟨reason, vetoed⟩⟩
  · rw [← unwritten.repository, ← unwritten.index] at holds
    rw [delete_of_allProceed passed]
    cases found : session.service.index.get? id with
    | none =>
        have absent := found
        rw [← unwritten.index, ← Index.find?_toList] at absent
        rw [Service.discard_of_error (Backend.delete_of_absent holds absent)]
        exact ⟨_, _, rfl, .missing passed found ⟨unwritten.repository, unwritten.index⟩⟩
    | some stored =>
        have present := found
        rw [← unwritten.index] at present
        rcases removed_of_discard holds present with ⟨deleted, removed⟩
        rw [deleted]
        exact ⟨_, _, rfl, .deleted passed found (unwritten.removed removed)⟩
  · exact ⟨_, _, delete_of_firstVeto vetoed,
      .cancelled vetoed ⟨unwritten.repository, unwritten.index⟩⟩

/-- Whatever a program did with a service that is the only writer of its
repository, and whose hooks neither save nor delete, the outcome of its next
mutation is decided by what it answers now. -/
theorem outcome_of_every_mutation (backend : Backend) {repository : backend.State}
    (distinct : backend.Distinct repository) {config : Config} {primaryThread : ThreadId}
    {service : Service backend.State ω}
    (loaded : Service.load repository config primaryThread = .ok service) (host : ω)
    {program : Reaction backend.State ω}
    (confined : program.Confined (Service.Outside fun state => state) False True)
    {depth : Nat} {decision : Decision} {session : Session backend.State ω}
    (reached : react (consult depth) program { service, host } = some (decision, session))
    (nesting : Nat) (caller : ThreadId) :
    (∀ record, ∃ answer after,
      save (consult (nesting + 1)) caller record session = some (answer, after) ∧
        SaveOutcome (consult (nesting + 1)) caller record session answer after) ∧
      ∀ id, ∃ answer after,
        delete (consult (nesting + 1)) caller id session = some (answer, after) ∧
          DeleteOutcome (consult (nesting + 1)) caller id session answer after := by
  have relays : Repository.Relays fun state : backend.State => state := Repository.relays_self
  have start := Service.mirrors_load relays distinct loaded False
  have upheld : Service.Upheld (Service.Outside fun state : backend.State => state) False
      fun service : Service backend.State ω =>
        Service.Mirrors (fun state => state) service.repository service.index ∧
          service.HooksConfined (Service.Outside fun state => state) False :=
    Service.upheld_mirrors relays False
  have kept := keeps_react upheld
    (fun _ confined event => keeps_consult upheld depth confined event) confined
    { service, host } decision session start reached
  refine ⟨fun record => ?_, fun id => ?_⟩
  · exact save_outcome kept.2 kept.1 nesting caller record
  · exact delete_outcome kept.2 kept.1 nesting caller id

/-! ## A run under a warden -/

/-- A repository in memory that holds the pledge. -/
def archive : Backend.memory.State := { records := [Service.pledge] }

/-- A hook that looks the new record up, and then vetoes its creation. -/
def warden : Hook Backend.memory.State Unit
  | .create record _ => .ask (.get record.id) fun _ => .decide (.cancel "closed")
  | .delete _ _ => .decide .proceed

/-- Register the warden, and save the pledge. -/
def guarding : Reaction Backend.memory.State Unit :=
  .register warden <| .save 0 Service.pledge fun _ => .decide .proceed

theorem outcome_under_warden :
    ∃ (service : Service Backend.memory.State Unit) (decision : Decision)
        (session : Session Backend.memory.State Unit),
      Service.load archive {} 0 = .ok service ∧ Backend.memory.Distinct archive ∧
        guarding.Confined (Service.Outside fun state => state) False True ∧
        react (consult 1) guarding { service, host := () } = some (decision, session) ∧
        (∀ record, ∃ answer after, save (consult 1) 0 record session = some (answer, after) ∧
          SaveOutcome (consult 1) 0 record session answer after) ∧
        ∀ id, ∃ answer after, delete (consult 1) 0 id session = some (answer, after) ∧
          DeleteOutcome (consult 1) 0 id session answer after := by
  have distinct : Backend.memory.Distinct archive := List.pairwise_singleton _ _
  have unwritten : ∀ event, (warden event).Confined
      (Service.Outside fun state : Backend.memory.State => state) False False := by
    intro event
    cases event with
    | create record isAsync => exact .ask fun _ => .decide _
    | delete id isAsync => exact .decide _
  have confined : guarding.Confined
      (Service.Outside fun state : Backend.memory.State => state) False True :=
    .register unwritten (.save trivial fun _ => .decide _)
  have loads : ∃ service : Service Backend.memory.State Unit,
      Service.load archive {} 0 = .ok service := ⟨_, rfl⟩
  rcases loads with ⟨service, loaded⟩
  have holds : Backend.Holds service.repository service.index.toList :=
    (Service.mirrors_load Repository.relays_self distinct loaded False).1
  have hooks : service.hooks.hooks = [] := by
    cases loaded
    rfl
  let registered : Session Backend.memory.State Unit :=
    { service := service.register warden, host := () }
  have quiet : Quiet registered := by
    intro hook member
    change hook ∈ service.hooks.hooks ++ [warden] at member
    rw [hooks] at member
    exact List.mem_singleton.mp member ▸ unwritten
  rcases save_outcome quiet holds 0 0 Service.pledge with ⟨answer, session, saved, _⟩
  have reached : react (consult 1) guarding { service, host := () } =
      some (.proceed, session) := bind_eq_some_iff.mpr ⟨_, _, rfl,
        bind_eq_some_iff.mpr ⟨_, _, saved, rfl⟩⟩
  have outcome := outcome_of_every_mutation .memory distinct loaded () confined reached 0 0
  exact ⟨service, .proceed, session, loaded, distinct, confined, reached, outcome⟩

end Run

end Diplomacy
