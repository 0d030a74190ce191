import TaskService.Service.OutboxSystem
import TaskService.Service.StaffCases

/-!
# No committed notification is lost

Rows leave the outbox only into the archive or by the acknowledgement of an event that
the bus has accepted.  The invariant ties what the worker, the bus and the writes of
aborted workers hold to the revisions in the past of the database.

The worker hands an event over only when no smaller version of its task is left in the
outbox, so the events of one task are published in order even if the clock is set back.
-/

namespace TaskService.Service

open Library Model Store List
open TaskStore LawfulStore

def ControlPlace.page : ControlPlace → List EventOutboxEntry
  | .entry first rest => first :: rest
  | .top | .closing | .failed | .waiting | .backoff => []

def PublisherPc.page : PublisherPc → List EventOutboxEntry
  | .controls place _ | .judge place _ _ | .archive place _ _ => place.page
  | .publish entry rest | .acknowledge entry rest => entry :: rest
  | .idle | .list | .waiting | .backoff | .exited => []

section Worker

variable {core after : Core SqliteTaskStore} {worker next : PublisherPc}

theorem drained_page (place : ControlPlace) (quarantined : Bool) :
    (PublisherPc.drained place quarantined).page = place.page ∨
      (PublisherPc.drained place quarantined).page = [] := by
  cases place with
  | entry entry rest =>
    cases quarantined with
    | false => exact .inl rfl
    | true => exact .inr rfl
  | top | waiting => exact .inr rfl
  | closing | failed | backoff => cases quarantined <;> exact .inr rfl

theorem after_control_page (place : ControlPlace) (quarantined : Bool) :
    (PublisherPc.afterControl place quarantined).page = place.page ∨
      (PublisherPc.afterControl place quarantined).page = [] := by
  cases place with
  | entry entry rest | top | closing | failed => exact .inl rfl
  | waiting => exact .inr rfl
  | backoff => exact drained_page .backoff quarantined

/-- One step of the worker, by what it does to the store and to its page. -/
inductive WorkerMove (core after : Core SqliteTaskStore) (worker next : PublisherPc) : Prop
  | turns (store : after.store = core.store) (page : next.page = worker.page ∨ next.page = [])
  | lists (entries : List EventOutboxEntry) (store : after.store = core.store)
      (listed : core.store.database.listOutbox outboxPageSize = .ok entries)
      (page : next.page = entries)
  | acknowledges (entry : EventOutboxEntry) (rest : List EventOutboxEntry)
      (place : worker = .acknowledge entry rest) (store : after.store =
        (core.store.markOutboxPublished entry.taskId entry.stateVersion).1)
      (marked : core.store.database.markOutboxPublished entry.taskId entry.stateVersion =
        .ok (after.store.database, ()))
      (page : next.page = rest)
  | archives (clock : Clock) (command : QuarantineCommand)
      (store : after.store = (core.store.quarantineOutboxHead clock command).1)
      (page : next.page = worker.page ∨ next.page = [])

structure WorkerStep (input : Input) (core after : Core SqliteTaskStore)
    (worker next : PublisherPc) : Prop where
  moves : WorkerMove core after worker next
  known : after.knownIds = core.knownIds
  acknowledging : ∀ entry rest, next = .acknowledge entry rest →
    worker = .publish entry rest ∧ input.publication = .ok ()
  publishing : ∀ entry rest, next = .publish entry rest →
    worker.page = entry :: rest ∧ after.store = core.store

def PublisherPc.sends : PublisherPc → Bool
  | .publish _ _ | .acknowledge _ _ => true
  | .idle | .controls _ _ | .judge _ _ _ | .archive _ _ _ | .list | .waiting | .backoff
  | .exited => false

variable {input : Input} {others : List Thread} {place : ControlPlace}

theorem worker_step_of_quiet (moves : WorkerMove core after worker next)
    (known : after.knownIds = core.knownIds) (quiet : next.sends = false) :
    WorkerStep input core after worker next := by
  refine ⟨moves, known, ?_, ?_⟩
  · rintro entry rest rfl
    cases quiet
  · rintro entry rest rfl
    cases quiet

theorem after_control_quiet (place : ControlPlace) (quarantined : Bool) :
    (PublisherPc.afterControl place quarantined).sends = false := by
  cases place <;> cases quarantined <;> rfl

theorem drained_step (place : ControlPlace) (quarantined : Bool) :
    WorkerStep input core core (.controls place quarantined)
      (PublisherPc.drained place quarantined) := by
  refine ⟨.turns rfl (drained_page place quarantined), rfl, ?_, ?_⟩
  · intro entry rest same
    cases place <;> cases quarantined <;> cases same
  · intro entry rest same
    cases place <;> cases quarantined <;> cases same
    exact ⟨rfl, rfl⟩

theorem outbox_call {write : SqliteTaskStore → SqliteTaskStore × Except StoreError Unit}
    (operation : Database → Except StoreError (Database × Unit)) {answer : Except StoreError Unit}
    (form : write core.store = core.store.runOutbox operation)
    (called : core.callWrite input .outbox write = (after, answer)) :
    (after = core.record (.issued .outbox) ∧ ∃ error, answer = .error error) ∨
      ∃ database, answer = .ok () ∧ operation core.store.database = .ok (database, ()) ∧
        (write core.store).1 = { core.store with database := database } ∧
        after = { core with
          store := { core.store with database := database } }.record (.issued .outbox) := by
  unfold Core.callWrite at called
  split at called
  · cases called
    exact .inl ⟨rfl, _, rfl⟩
  · rw [form] at called ⊢
    rcases core.store.run_outbox_cases operation with
      ⟨error, failed⟩ | ⟨database, value, ran, committed⟩
    · rw [failed] at called
      cases called
      exact .inl ⟨rfl, error, rfl⟩
    · rw [committed] at called ⊢
      cases called
      exact .inr ⟨database, rfl, ran, rfl, rfl⟩

variable [IdCodec]

theorem listed_outbox {entries : List EventOutboxEntry}
    (called : (core.callRead input fun store => listEventOutbox store outboxPageSize) =
      .ok entries) :
    core.store.database.listOutbox outboxPageSize = .ok entries := by
  unfold Core.callRead at called
  split at called
  · cases called
  · change SqliteTaskStore.listOutbox core.store outboxPageSize = .ok entries at called
    unfold SqliteTaskStore.listOutbox at called
    split_ifs at called
    exact called

theorem worker_step {config : Config}
    (stepped : worker.step config core input = some ⟨after, .publisher next, others⟩) :
    WorkerStep input core after worker next := by
  obtain ⟨_, _, same, step⟩ := publisher_step_cases worker stepped
  cases same
  cases step with
  | takes | accepts => exact worker_step_of_quiet (.turns rfl (.inl rfl)) rfl rfl
  | drains place quarantined => exact drained_step place quarantined
  | ignores place quarantined =>
    exact worker_step_of_quiet (.turns rfl (after_control_page place quarantined)) rfl
      (after_control_quiet place quarantined)
  | archiveFails place quarantined command after error called =>
    rcases outbox_call (·.quarantineOutboxHead input.clock command) rfl called with
      ⟨rfl, -⟩ | ⟨database, ended, -⟩
    · exact worker_step_of_quiet (.turns rfl (after_control_page place quarantined)) rfl
        (after_control_quiet place quarantined)
    · cases ended
  | archives place quarantined command after called =>
    rcases outbox_call (·.quarantineOutboxHead input.clock command) rfl called with
      ⟨-, error, ended⟩ | ⟨database, -, -, written, rfl⟩
    · cases ended
    · exact worker_step_of_quiet
        (.archives input.clock command written.symm (after_control_page place true)) rfl
        (after_control_quiet place true)
  | nothingListed =>
    split
    · exact worker_step_of_quiet (.turns rfl (.inr rfl)) rfl rfl
    · exact worker_step_of_quiet (.turns rfl (.inr rfl)) rfl rfl
  | lists entry rest called =>
    exact worker_step_of_quiet (.lists (entry :: rest) rfl (listed_outbox called) rfl) rfl rfl
  | publishes entry rest confirmed =>
    refine ⟨.turns rfl (.inl rfl), rfl, ?_, (by intro _ _ same; cases same)⟩
    intro other later same
    cases same
    exact ⟨rfl, confirmed⟩
  | unmarked entry rest after error called =>
    rcases outbox_call (·.markOutboxPublished entry.taskId entry.stateVersion) rfl called with
      ⟨rfl, -⟩ | ⟨database, ended, -⟩
    · exact worker_step_of_quiet (.turns rfl (.inr rfl)) rfl rfl
    · cases ended
  | marks entry rest after called =>
    rcases outbox_call (·.markOutboxPublished entry.taskId entry.stateVersion) rfl called with
      ⟨-, error, ended⟩ | ⟨database, -, marked, written, rfl⟩
    · cases ended
    · cases rest with
      | nil =>
        exact worker_step_of_quiet (.acknowledges entry [] rfl written.symm marked rfl) rfl rfl
      | cons following later =>
        exact worker_step_of_quiet
          (.acknowledges entry (following :: later) rfl written.symm marked rfl) rfl rfl
  | _ =>
    exact worker_step_of_quiet (.turns rfl (.inr rfl)) rfl rfl

end Worker

/-- What the worker, the bus and the writes of aborted workers hold lies in the past of
the database, and nothing on its way overtakes a smaller version of its task. -/
structure Delivery (known : List TaskId) (database : Database) (worker : PublisherPc)
    (wire accepted : List EventOutboxEntry) (detached : List DetachedWrite) : Prop where
  sound : database.Sound
  queue : Queue database.taskEventOutbox
  knows : ∀ id row, database.tasks.lookup id = some row → id ∈ known
  page : ∀ entry ∈ worker.page, Seen known database entry
  clear : PageClear database.taskEventOutbox worker.page
  confirmed : ∀ entry rest, worker = .acknowledge entry rest → entry ∈ accepted
  handed : ∀ entry ∈ wire,
    Seen known database entry ∧ PageClear database.taskEventOutbox [entry]
  delivered : ∀ entry ∈ accepted, entry ∈ wire
  writes : ∀ write ∈ detached, (∃ command, write = .quarantine command) ∨
    ∃ entry ∈ accepted, write = .markPublished entry.taskId entry.stateVersion

section Steps

variable {known later : List TaskId} {database changed : Database} {worker next : PublisherPc}
  {wire accepted : List EventOutboxEntry} {detached : List DetachedWrite} {outboxEnabled : Bool}
  {accepting : Option TaskId} {marking : Option (TaskId × Nat)}

theorem change_knows (change : DatabaseChange outboxEnabled accepting marking database changed)
    (knows : ∀ id row, database.tasks.lookup id = some row → id ∈ known)
    (grown : ∀ id ∈ known, id ∈ later) (given : ∀ id, accepting = some id → id ∈ later)
    (id : TaskId) (row : TaskRow) (found : changed.tasks.lookup id = some row) : id ∈ later := by
  cases change with
  | kept records _ _ =>
    obtain ⟨old, held, _⟩ := records id row found
    exact grown id (knows id old held)
  | accepted other written now isGiven _ revision =>
    rw [revision.lookup] at found
    split_ifs at found with same
    · exact given id (same ▸ isGiven)
    · exact grown id (knows id row found)
  | advanced other old written now held _ revision =>
    rw [revision.lookup] at found
    split_ifs at found with same
    · exact grown id (knows id old (same ▸ held))
    · exact grown id (knows id row found)
  | published other version _ marked =>
    rw [(Database.mark_spec marked).1] at found
    exact grown id (knows id row found)
  | archived clock command moved =>
    rw [(Database.quarantine_spec moved).1] at found
    exact grown id (knows id row found)

section

variable (delivery : Delivery known database worker wire accepted detached)
include delivery

theorem Delivery.change (change : DatabaseChange outboxEnabled accepting marking database changed)
    (sound : changed.Sound) (fresh : ∀ id, accepting = some id → id ∉ known)
    (grown : ∀ id ∈ known, id ∈ later) (given : ∀ id, accepting = some id → id ∈ later) :
    Delivery later changed worker wire accepted detached where
  sound := sound
  queue := delivery.queue.change delivery.sound change
  knows := change_knows change delivery.knows grown given
  page entry member := (delivery.page entry member).change change fresh grown
  clear := delivery.clear.change delivery.page change fresh
  confirmed := delivery.confirmed
  handed entry member := by
    obtain ⟨seen, clear⟩ := delivery.handed entry member
    refine ⟨seen.change change fresh grown, clear.change ?_ change fresh⟩
    intro other only
    rw [mem_singleton.mp only]
    exact seen
  delivered := delivery.delivered
  writes := delivery.writes

theorem Delivery.changeKnown (change : DatabaseChange outboxEnabled none marking database changed)
    (sound : changed.Sound) : Delivery known changed worker wire accepted detached :=
  delivery.change change sound (by intro id none; cases none) (fun _ member => member)
    (by intro id none; cases none)

/-- The worker turns to a point whose page is a clear page of seen entries. -/
theorem Delivery.turn (page : ∀ entry ∈ next.page, Seen known database entry)
    (clear : PageClear database.taskEventOutbox next.page)
    (confirmed : ∀ entry rest, next = .acknowledge entry rest → entry ∈ accepted) :
    Delivery known database next (OutboxSystem.handed next ++ wire) accepted detached where
  sound := delivery.sound
  queue := delivery.queue
  knows := delivery.knows
  page := page
  clear := clear
  confirmed := confirmed
  handed entry member := by
    rcases mem_append.mp member with isNew | old
    · cases next with
      | publish first rest =>
        rw [mem_singleton.mp isNew]
        exact ⟨page first (by simp [PublisherPc.page]), clear.1, trivial⟩
      | _ => cases isNew
    · exact delivery.handed entry old
  delivered entry member := mem_append_right _ (delivery.delivered entry member)
  writes := delivery.writes

theorem Delivery.turnWithin (page : next.page = worker.page ∨ next.page = [])
    (confirmed : ∀ entry rest, next = .acknowledge entry rest → entry ∈ accepted) :
    Delivery known database next (OutboxSystem.handed next ++ wire) accepted detached := by
  refine delivery.turn ?_ ?_ confirmed
  · intro entry member
    rcases page with same | empty
    · exact delivery.page entry (same ▸ member)
    · rw [empty] at member
      cases member
  · rcases page with same | empty
    · rw [same]
      exact delivery.clear
    · rw [empty]
      trivial

theorem Delivery.withEpoch (epoch : Option Nat) :
    Delivery known { database with ownerEpoch := epoch } worker wire accepted detached := by
  have change : DatabaseChange false none none database { database with ownerEpoch := epoch } :=
    .kept (fun _ row found => ⟨row, found, rfl, rfl⟩) rfl rfl
  exact delivery.changeKnown change ⟨delivery.sound.rows, delivery.sound.events⟩

end

variable {after store : SqliteTaskStore} {answer : Except StoreError Unit} {failure : Option String}
  {α : Type} {error : StoreError} {input : Input} {write : DetachedWrite} {action : OutboxAction}
  {system final : OutboxSystem} {actions : List OutboxAction} {entry : EventOutboxEntry}

theorem or_failure_change {result : SqliteTaskStore × Except StoreError α}
    (called : some (orFailure failure store result) = some (after, answer)) (valid : store.Valid)
    (change : DatabaseChange outboxEnabled accepting marking store.database result.1.database)
    (kept : result.1.Valid) :
    DatabaseChange outboxEnabled accepting marking store.database after.database ∧
      after.Valid := by
  unfold orFailure at called
  split at called
  · cases called
    exact ⟨.refl _, valid⟩
  · cases called
    exact ⟨change, kept⟩

theorem or_failure_failed {result : SqliteTaskStore × Except StoreError α}
    (failed : some (orFailure failure store result) = some (after, .error error))
    (unchanged : ∀ other, result.2 = .error other → result.1 = store) : after = store := by
  unfold orFailure at failed
  split at failed
  · cases failed
    rfl
  · cases answer : result.2 with
    | error rejection =>
      rw [answer] at failed
      cases failed
      exact unchanged _ answer
    | ok value =>
      rw [answer] at failed
      cases failed

theorem issued_write_allowed
    (confirmed : ∀ entry rest, worker = .acknowledge entry rest → entry ∈ accepted)
    (issued : (Thread.publisher worker).issuedWrite input = some write) :
    (∃ command, write = .quarantine command) ∨
      ∃ entry ∈ accepted, write = .markPublished entry.taskId entry.stateVersion := by
  cases worker with
  | archive place quarantined command =>
    cases issued
    exact .inl ⟨command, rfl⟩
  | acknowledge entry rest =>
    cases issued
    exact .inr ⟨entry, confirmed entry rest rfl, rfl⟩
  | _ => cases issued

variable [IdCodec]

theorem Delivery.workerStep {core after : Core SqliteTaskStore}
    (delivery : Delivery core.knownIds core.store.database worker wire accepted detached)
    (stepped : WorkerStep input core after worker next)
    (confirms : OutboxSystem.confirms accepted input worker = true) :
    Delivery after.knownIds after.store.database next (OutboxSystem.handed next ++ wire) accepted
      detached := by
  have confirmed : ∀ entry rest, next = .acknowledge entry rest → entry ∈ accepted := by
    intro entry rest same
    obtain ⟨rfl, publication⟩ := stepped.acknowledging entry rest same
    simp only [OutboxSystem.confirms, publication] at confirms
    exact contains_iff_mem.mp confirms
  rw [stepped.known]
  cases stepped.moves with
  | turns store page =>
    rw [store]
    exact delivery.turnWithin page confirmed
  | lists entries store listed page =>
    rw [store]
    refine delivery.turn ?_ ?_ confirmed
    · intro entry member
      rw [page] at member
      exact listed_seen delivery.sound delivery.queue delivery.knows listed member
    · rw [page]
      exact listed_page_clear delivery.queue listed
  | acknowledges entry rest place store marked page =>
    subst place
    have change := mark_change core.store entry.taskId entry.stateVersion
    have sound := mark_valid core.store entry.taskId entry.stateVersion
      delivery.sound
    have kept := delivery.changeKnown change sound
    rw [store]
    refine kept.turn ?_ ?_ confirmed
    · intro other member
      rw [page] at member
      exact kept.page other (mem_cons_of_mem _ member)
    · rw [page, ← store, mark_rows marked]
      exact delivery.clear.2
  | archives clock command store page =>
    have change := quarantine_change core.store clock command
    have sound := quarantine_valid core.store clock command delivery.sound
    rw [store]
    exact (delivery.changeKnown change sound).turnWithin page confirmed

/-- A step of the system as one transaction, with what the bus has accepted of an event
it acknowledges. -/
structure OutboxMove (system next : OutboxSystem) (action : OutboxAction) : Prop where
  change : ∃ marking,
    DatabaseChange system.core.store.outboxEnabled action.acceptedIds.head? marking
        system.database next.database ∧
      ∀ id version, marking = some (id, version) →
        ∃ entry ∈ system.accepted, entry.taskId = id ∧ entry.stateVersion = version
  accepted : ∀ entry ∈ system.accepted, entry ∈ next.accepted
  wire : ∀ entry ∈ system.wire, entry ∈ next.wire

def OutboxSystem.Delivers (system : OutboxSystem) : Prop :=
  Delivery system.core.knownIds system.database system.worker system.wire system.accepted
    system.detached

theorem lifecycle_change (valid : store.Valid)
    (called : action.lifecycleCall store = some (after, answer)) :
    DatabaseChange store.outboxEnabled action.acceptedIds.head? none store.database
        after.database ∧ after.Valid := by
  cases action with
  | accept input id request =>
    exact or_failure_change called valid (accept_change store input.clock id request)
      (accept_valid store input.clock id request valid)
  | start input command =>
    exact or_failure_change called valid (start_change store input.clock command)
      (start_valid store input.clock command valid)
  | transition input command =>
    exact or_failure_change called valid (transition_change store input.clock command)
      (transition_valid store input.clock command valid)
  | progress input command =>
    exact or_failure_change called valid (progress_change store command)
      (progress_valid store command valid)
  | prune input cutoff maxRows =>
    exact or_failure_change called valid (prune_change store valid cutoff maxRows)
      (prune_valid store cutoff maxRows valid)
  | _ => cases called

theorem lifecycle_failed (failed : action.lifecycleCall store = some (after, .error error)) :
    after = store := by
  cases action with
  | accept input id request | start input command | transition input command
  | progress => exact or_failure_failed failed (run_write_failed store _)
  | prune =>
    refine or_failure_failed failed ?_
    intro other rejected
    unfold SqliteTaskStore.pruneTerminalBefore at rejected ⊢
    split_ifs at rejected ⊢
    · rfl
    · rfl
    · exact run_write_failed store _ other rejected
  | _ => cases failed

theorem detached_change (input : Input) (valid : store.Valid)
    (allowed : (∃ command, write = .quarantine command) ∨
      ∃ entry ∈ accepted, write = .markPublished entry.taskId entry.stateVersion) :
    ∃ marking, (∀ id version, marking = some (id, version) →
        ∃ entry ∈ accepted, entry.taskId = id ∧ entry.stateVersion = version) ∧
      DatabaseChange store.outboxEnabled none marking store.database
        (write.run store input).database ∧ (write.run store input).Valid := by
  rcases allowed with ⟨command, rfl⟩ | ⟨entry, member, rfl⟩
  · refine ⟨none, (by intro _ _ same; cases same), quarantine_change store input.clock command, ?_⟩
    exact quarantine_valid store input.clock command valid
  · refine ⟨some (entry.taskId, entry.stateVersion), ?_,
      mark_change store entry.taskId entry.stateVersion, ?_⟩
    · intro id version same
      cases same
      exact ⟨entry, member, rfl, rfl⟩
    · exact mark_valid store entry.taskId entry.stateVersion valid

omit [IdCodec] in
theorem move_of_same {next : OutboxSystem} (database : next.database = system.database)
    (accepted : ∀ entry ∈ system.accepted, entry ∈ next.accepted)
    (wire : ∀ entry ∈ system.wire, entry ∈ next.wire) : OutboxMove system next action := by
  refine ⟨⟨none, ?_, (by intro _ _ same; cases same)⟩, accepted, wire⟩
  rw [database]
  exact .refl _

theorem delivers_worker {next : OutboxSystem} (delivers : system.Delivers)
    (stepped : system.stepWorker input = some next) :
    next.Delivers ∧ OutboxMove system next (.worker input) := by
  unfold OutboxSystem.stepWorker at stepped
  split_ifs at stepped with confirms
  split at stepped
  · rename_i core worker others moved
    cases stepped
    have turned := worker_step moved
    refine ⟨Delivery.workerStep delivers turned confirms, ?_, fun _ member => member,
      fun _ member => mem_append_right _ member⟩
    cases turned.moves with
    | turns store | lists entries store =>
      refine ⟨none, ?_, (by intro _ _ same; cases same)⟩
      show DatabaseChange _ _ _ system.core.store.database core.store.database
      rw [store]
      exact .refl _
    | acknowledges entry rest place store =>
      refine ⟨some (entry.taskId, entry.stateVersion), ?_, ?_⟩
      · show DatabaseChange _ _ _ system.core.store.database core.store.database
        rw [store]
        exact mark_change _ _ _
      · intro id version same
        cases same
        exact ⟨entry, delivers.confirmed entry rest place, rfl, rfl⟩
    | archives clock command store page =>
      refine ⟨none, ?_, (by intro _ _ same; cases same)⟩
      show DatabaseChange _ _ _ system.core.store.database core.store.database
      rw [store]
      exact quarantine_change _ _ _
  · cases stepped

theorem delivers_detached {next : OutboxSystem} {index : Nat} (delivers : system.Delivers)
    (stepped : system.stepDetached index input = some next) :
    next.Delivers ∧ OutboxMove system next (.detached index input) := by
  unfold OutboxSystem.stepDetached at stepped
  split at stepped
  · cases stepped
  · rename_i write found
    cases stepped
    obtain ⟨marking, justified, change, valid⟩ := detached_change input delivers.sound
      (delivers.writes write (mem_of_getElem? found))
    refine ⟨?_, ⟨marking, change, justified⟩, fun _ member => member, fun _ member => member⟩
    have kept := Delivery.changeKnown delivers change valid
    exact { kept with
      writes := fun other member => kept.writes other (mem_of_mem_eraseIdx member) }

omit [IdCodec] in
theorem delivers_abort {next : OutboxSystem} {issued : Bool} (delivers : system.Delivers)
    (stepped : system.stepAbort input issued = some next) :
    next.Delivers ∧ OutboxMove system next (.abort input issued) := by
  have stopped : Delivery system.core.knownIds system.database .exited system.wire
      system.accepted system.detached :=
    Delivery.turnWithin delivers (.inr rfl) (by intro _ _ same; cases same)
  unfold OutboxSystem.stepAbort at stepped
  split_ifs at stepped
  · split at stepped
    · cases stepped
    · rename_i write left
      cases stepped
      refine ⟨?_, move_of_same rfl (fun _ member => member) fun _ member => member⟩
      refine { stopped with writes := ?_ }
      intro other member
      rcases mem_append.mp member with old | isNew
      · exact delivers.writes other old
      · rw [mem_singleton.mp isNew]
        exact issued_write_allowed delivers.confirmed left
  · cases stepped
    exact ⟨stopped, move_of_same rfl (fun _ member => member) fun _ member => member⟩

theorem delivers_step {next : OutboxSystem} (fresh : FreshAccepts system action)
    (delivers : system.Delivers) (stepped : system.step action = some next) :
    next.Delivers ∧ OutboxMove system next action := by
  unfold OutboxSystem.step at stepped
  split at stepped
  · rename_i store answer called
    cases stepped
    obtain ⟨change, valid⟩ := lifecycle_change delivers.sound called
    have member : ∀ id, action.acceptedIds.head? = some id → id ∈ action.acceptedIds :=
      fun id first => mem_of_mem_head? first
    refine ⟨?_, ⟨none, change, (by intro _ _ same; cases same)⟩, fun _ held => held,
      fun _ held => held⟩
    exact Delivery.change delivers change valid (fun id first => fresh id (member id first))
      (fun id known => mem_append_right _ known)
      (fun id first => mem_append_left _ (member id first))
  · -- the worker forgets its page when the service is replaced
    have idle : Delivery system.core.knownIds system.database .idle system.wire system.accepted
        system.detached := Delivery.turnWithin delivers (.inr rfl) (by intro _ _ same; cases same)
    cases action with
    | acquireOwner lock =>
      cases stepped
      obtain ⟨epoch, tables⟩ := acquire_database system.core.store lock
      refine ⟨?_, ⟨none, ?_, (by intro _ _ same; cases same)⟩, fun _ held => held,
        fun _ held => held⟩
      · show Delivery _ (system.core.store.acquireOwner lock).1.database _ _ _ _
        rw [tables]
        exact Delivery.withEpoch delivers epoch
      · show DatabaseChange _ _ _ _ (system.core.store.acquireOwner lock).1.database
        rw [tables]
        exact .kept (fun _ row found => ⟨row, found, rfl, rfl⟩) rfl rfl
    | enableOutbox =>
      cases stepped
      have tables := enable_database system.core.store
      refine ⟨?_, move_of_same tables (fun _ held => held) fun _ held => held⟩
      show Delivery _ system.core.store.enableOutbox.1.database _ _ _ _
      rw [tables]
      exact delivers
    | releaseOwner epoch unlock =>
      cases stepped
      have tables := release_database system.core.store epoch unlock
      refine ⟨?_, move_of_same tables (fun _ held => held) fun _ held => held⟩
      show Delivery _ (system.core.store.releaseOwner epoch unlock).1.database _ _ _ _
      rw [tables]
      exact delivers
    | serve | close =>
      cases stepped
      exact ⟨delivers, move_of_same rfl (fun _ held => held) fun _ held => held⟩
    | quarantine request =>
      simp only at stepped
      split_ifs at stepped
      cases stepped
      exact ⟨delivers, move_of_same rfl (fun _ held => held) fun _ held => held⟩
    | worker input => exact delivers_worker delivers stepped
    | abort => exact delivers_abort delivers stepped
    | detached => exact delivers_detached delivers stepped
    | busAccept entry =>
      simp only at stepped
      split_ifs at stepped with onWire
      cases stepped
      have grown : ∀ other ∈ system.accepted, other ∈ entry :: system.accepted :=
        fun other held => mem_cons_of_mem _ held
      refine ⟨?_, move_of_same rfl grown fun _ held => held⟩
      refine
        { delivers with
          confirmed := fun other rest place => grown other (delivers.confirmed other rest place)
          delivered := ?_
          writes := ?_ }
      · intro other held
        rcases mem_cons.mp held with rfl | old
        · exact onWire
        · exact delivers.delivered other old
      · intro write held
        rcases delivers.writes write held with archive | ⟨other, member, mark⟩
        · exact .inl archive
        · exact .inr ⟨other, grown other member, mark⟩
    | restart config =>
      cases stepped
      exact ⟨idle, move_of_same rfl (fun _ held => held) fun _ held => held⟩
    | crash config =>
      cases stepped
      refine ⟨{ idle with writes := ?_ },
        move_of_same rfl (fun _ held => held) fun _ held => held⟩
      intro write held
      cases held
    | accept | start | transition | progress | prune => cases stepped

omit [IdCodec] in
theorem delivers_boot (config : Config) {database : Database} {knownIds : List TaskId}
    (sound : database.Sound) (queue : Queue database.taskEventOutbox)
    (knows : ∀ id row, database.tasks.lookup id = some row → id ∈ knownIds) :
    (OutboxSystem.boot config database knownIds).Delivers where
  sound := sound
  queue := queue
  knows := knows
  page _ member := by cases member
  clear := trivial
  confirmed _ _ same := by cases same
  handed _ member := by cases member
  delivered _ member := by cases member
  writes _ member := by cases member

theorem delivers_run (delivers : system.Delivers)
    (fresh : Guarded OutboxSystem.step FreshAccepts system actions)
    (reached : runActions OutboxSystem.step system actions = some final) : final.Delivers :=
  @run_invariant _ _ _ _ OutboxSystem.Delivers
    (fun met holds stepped => (delivers_step met holds stepped).1) _ _ _ delivers fresh
    reached

def OutboxSystem.Conserves (system : OutboxSystem) (entry : EventOutboxEntry) : Prop :=
  (∃ row ∈ system.database.taskEventOutbox, row.entry = entry) ∨
    (∃ row ∈ system.database.taskEventOutboxQuarantine, row.entry = entry) ∨
    entry ∈ system.accepted

omit [IdCodec] in
theorem conserves_step {next : OutboxSystem} (delivers : system.Delivers)
    (move : OutboxMove system next action) (conserves : system.Conserves entry) :
    next.Conserves entry := by
  obtain ⟨marking, change, justified⟩ := move.change
  rcases conserves with ⟨row, member, rfl⟩ | ⟨row, member, same⟩ | taken
  · rcases change.fate delivers.queue member with stays | archived | marked
    · exact .inl ⟨row, stays, rfl⟩
    · exact .inr (.inl archived)
    · -- the bus has accepted the event with this key, and that is the event of the row
      obtain ⟨confirmed, accepted, task, version⟩ := justified _ _ marked
      have seen := (delivers.handed confirmed (delivers.delivered confirmed accepted)).1
      have authentic := seen.authentic row member task.symm version.symm
      rw [authentic]
      exact .inr (.inr (move.accepted confirmed accepted))
  · exact .inr (.inl ⟨row, change.archive member, same⟩)
  · exact .inr (.inr (move.accepted entry taken))

theorem conserves_run (delivers : system.Delivers) (conserves : system.Conserves entry)
    (fresh : Guarded OutboxSystem.step FreshAccepts system actions)
    (reached : runActions OutboxSystem.step system actions = some final) :
    final.Delivers ∧ final.Conserves entry := by
  refine @run_invariant _ _ _ _ (fun state => state.Delivers ∧ state.Conserves entry) ?_ _ _ _
    ⟨delivers, conserves⟩ fresh reached
  intro state action next met holds stepped
  obtain ⟨kept, move⟩ := delivers_step met holds.1 stepped
  exact ⟨kept, conserves_step holds.1 move holds.2⟩

end Steps

/-- A failed lifecycle operation changes no table.  A revision that is committed with
the outbox enabled inserts one event row in its transaction, and from then on its
event is in the outbox, in the archive or accepted by the bus. -/
theorem outbox_conservation [IdCodec] (config : Config) (database : Database)
    (knownIds : List TaskId) (early late : List OutboxAction) (action : OutboxAction)
    (before after final : OutboxSystem) (sound : database.Sound)
    (queue : Queue database.taskEventOutbox)
    (knows : ∀ id row, database.tasks.lookup id = some row → id ∈ knownIds)
    (fresh : Guarded OutboxSystem.step FreshAccepts (OutboxSystem.boot config database knownIds)
      (early ++ action :: late))
    (reached : runActions OutboxSystem.step (OutboxSystem.boot config database knownIds) early =
      some before)
    (stepped : before.step action = some after)
    (finished : runActions OutboxSystem.step after late = some final) :
    (∀ store error, action.lifecycleCall before.core.store = some (store, .error error) →
        after.database = before.database) ∧
      (before.core.store.outboxEnabled = true → ∀ id version state,
        Commits before.database after.database id version state →
        InsertsRow before.database after.database id version state ∧
          ∃ entry, EntryCarries entry id version state ∧ final.Conserves entry) := by
  obtain ⟨earlyFresh, lateFresh⟩ := guarded_append fresh reached
  have delivers := delivers_run (delivers_boot config sound queue knows) earlyFresh reached
  obtain ⟨kept, move⟩ := delivers_step lateFresh.1 delivers stepped
  refine ⟨?_, ?_⟩
  · intro store error failed
    have same := lifecycle_failed failed
    unfold OutboxSystem.step at stepped
    rw [failed] at stepped
    cases stepped
    show store.database = before.core.store.database
    rw [same]
  · intro enabled id version state commits
    obtain ⟨marking, change, _⟩ := move.change
    rw [enabled] at change
    have inserts := change.inserts commits
    refine ⟨inserts, ?_⟩
    obtain ⟨row, appended, carries, _⟩ := inserts
    have inserted : after.Conserves row.entry := by
      refine .inl ⟨row, ?_, rfl⟩
      rw [appended]
      exact mem_append_right _ (by simp)
    exact ⟨row.entry, carries, (conserves_run kept inserted (lateFresh.2 after stepped) finished).2⟩

/-- The event of an acceptance, still known after it was published and deleted. -/
theorem outbox_conservation_sample :
    letI := sampleIdCodec
    ∃ before after final,
      runActions OutboxSystem.step sampleNotifier sampleOwned = some before ∧
        before.step sampleAccept = some after ∧
        runActions OutboxSystem.step after samplePublication = some final ∧
        final.database.taskEventOutbox = [] ∧
        InsertsRow before.database after.database sampleId 0 .queued ∧
        ∃ entry, EntryCarries entry sampleId 0 .queued ∧ final.Conserves entry := by
  let codec := sampleIdCodec
  obtain ⟨before, reached, checked⟩ := @run_of_check _ _ OutboxSystem.step sampleNotifier
    sampleOwned (fun before => decide (before.core.store.outboxEnabled = true ∧
        before.database.revisionOf sampleId = none) &&
      (before.step sampleAccept).any fun (after : OutboxSystem) =>
        decide (after.database.revisionOf sampleId = some (0, .queued)) &&
          (runActions OutboxSystem.step after samplePublication).any fun (final : OutboxSystem) =>
            decide (final.database.taskEventOutbox = [])) (by decide)
  obtain ⟨start, later⟩ := Bool.and_eq_true_iff.mp checked
  obtain ⟨enabled, unborn⟩ := of_decide_eq_true start
  obtain ⟨after, stepped, rest⟩ := (Option.any_eq_true _ _).mp later
  obtain ⟨revised, ends⟩ := Bool.and_eq_true_iff.mp rest
  obtain ⟨final, finished, empty⟩ := (Option.any_eq_true _ _).mp ends
  have commits : Commits before.database after.database sampleId 0 .queued :=
    ⟨of_decide_eq_true revised, by rw [unborn]; simp⟩
  have fresh : Guarded OutboxSystem.step FreshAccepts sampleNotifier
      (sampleOwned ++ sampleAccept :: samplePublication) := by decide +kernel
  have conserved := outbox_conservation _ Database.empty []
    sampleOwned samplePublication sampleAccept
    before after final ⟨(by intro _ _ found; cases found), (by intro _ member; cases member)⟩
    List.Pairwise.nil (by intro _ _ found; cases found) fresh reached stepped finished
  exact ⟨before, after, final, reached, stepped, finished, of_decide_eq_true empty,
    conserved.2 enabled sampleId 0 .queued commits⟩

/-- When the bus accepts an event, every row of the same task with a smaller version
that was ever committed has been accepted or archived before. -/
theorem publication_in_order [IdCodec] (config : Config) (database : Database)
    (knownIds : List TaskId) (early late : List OutboxAction) (middle before after : OutboxSystem)
    (entry : EventOutboxEntry) (row : OutboxRow) (sound : database.Sound)
    (queue : Queue database.taskEventOutbox)
    (knows : ∀ id row, database.tasks.lookup id = some row → id ∈ knownIds)
    (fresh : Guarded OutboxSystem.step FreshAccepts (OutboxSystem.boot config database knownIds)
      (early ++ late))
    (reached : runActions OutboxSystem.step (OutboxSystem.boot config database knownIds) early =
      some middle)
    (committed : row ∈ middle.database.taskEventOutbox)
    (continued : runActions OutboxSystem.step middle late = some before)
    (accepts : before.step (.busAccept entry) = some after)
    (task : row.taskId = entry.taskId) (smaller : row.stateVersion < entry.stateVersion) :
    row.entry ∈ before.accepted ∨
      ∃ archived ∈ before.database.taskEventOutboxQuarantine, archived.entry = row.entry := by
  obtain ⟨earlyFresh, lateFresh⟩ := guarded_append fresh reached
  have start := delivers_run (delivers_boot config sound queue knows) earlyFresh reached
  obtain ⟨delivers, conserves⟩ := conserves_run start (.inl ⟨row, committed, rfl⟩) lateFresh
    continued
  have onWire : entry ∈ before.wire := by
    simp only [OutboxSystem.step, OutboxAction.lifecycleCall] at accepts
    split_ifs at accepts with member
    exact member
  rcases conserves with ⟨other, member, same⟩ | archived | accepted
  · -- a smaller version would have kept the event off the wire
    have clear := (delivers.handed entry onWire).2.1 other member
    have key := EventOutboxEntry.mk.inj same
    have bound := clear (key.1.trans task)
    rw [key.2.1] at bound
    exact absurd smaller (Nat.not_lt.mpr bound)
  · exact .inr archived
  · exact .inl accepted

/-- The second event of a task, committed while the clock was set back, is accepted after
the first. -/
theorem publication_in_order_sample :
    letI := sampleIdCodec
    ∃ middle before after row,
      runActions OutboxSystem.step sampleNotifier (sampleOwned ++
          [.accept { clock := { now := 5, eventNow := 5 } } sampleId sampleRequest,
            sampleFirstStart]) = some middle ∧
        row ∈ middle.database.taskEventOutbox ∧
        row.entry = sampleEvent 0 .queued ∧
        runActions OutboxSystem.step middle (samplePublication ++ workerSteps 1) = some before ∧
        before.step (.busAccept (sampleEvent 1 .running)) = some after ∧
        (row.entry ∈ before.accepted ∨
          ∃ archived ∈ before.database.taskEventOutboxQuarantine, archived.entry = row.entry) := by
  let codec := sampleIdCodec
  obtain ⟨middle, reached, checked⟩ := @run_of_check _ _ OutboxSystem.step sampleNotifier
    (sampleOwned ++ [.accept { clock := { now := 5, eventNow := 5 } } sampleId sampleRequest,
      sampleFirstStart])
    (fun middle => middle.database.taskEventOutbox.head?.any fun (row : OutboxRow) =>
      decide (row.entry = sampleEvent 0 .queued) &&
        (runActions OutboxSystem.step middle (samplePublication ++ workerSteps 1)).any
          fun (before : OutboxSystem) => (before.step (.busAccept (sampleEvent 1 .running))).isSome)
            (by decide)
  obtain ⟨row, first, observed⟩ := (Option.any_eq_true _ _).mp checked
  obtain ⟨named, later⟩ := Bool.and_eq_true_iff.mp observed
  obtain ⟨before, continued, some⟩ := (Option.any_eq_true _ _).mp later
  obtain ⟨after, accepts⟩ := Option.isSome_iff_exists.mp some
  have same := of_decide_eq_true named
  have key := EventOutboxEntry.mk.inj same
  have committed : row ∈ middle.database.taskEventOutbox := List.mem_of_mem_head? first
  have smaller : row.stateVersion < 1 := by
    rw [key.2.1]
    exact Nat.zero_lt_one
  have fresh : Guarded OutboxSystem.step FreshAccepts sampleNotifier ((sampleOwned ++
      [.accept { clock := { now := 5, eventNow := 5 } } sampleId sampleRequest,
        sampleFirstStart]) ++ (samplePublication ++ workerSteps 1)) := by decide +kernel
  refine ⟨middle, before, after, row, reached, committed, same, continued, accepts, ?_⟩
  exact publication_in_order _ Database.empty [] _ _ middle before after (sampleEvent 1 .running)
    row ⟨(by intro _ _ found; cases found), (by intro _ member; cases member)⟩ List.Pairwise.nil
    (by intro _ _ found; cases found) fresh reached committed continued accepts key.1 smaller

end TaskService.Service
