import TaskService.Store.SqliteTaskStoreLaws

/-!
# Runs of the SQLite store

Every call of the SQLite store as one step, reopening the file included, and what one
call may do to the task row and the terminal checkpoint of one identity.  Facts about
rows over whole runs are taken from that description.
-/

namespace TaskService.Store

open Library Model List

inductive SqliteCall where
  | lifecycle (call : StoreCall)
  | acquireOwner (lock : Except StoreError Unit)
  | releaseOwner (epoch : Nat) (unlock : Except StoreError Unit)
  | enableOutbox
  | markPublished (id : TaskId) (version : Nat)
  | quarantine (clock : Clock) (command : QuarantineCommand)
  | reopen

/-- The store after a call.  Opening a current database file changes none of its rows. -/
def SqliteCall.run [IdCodec] (store : SqliteTaskStore) : SqliteCall → SqliteTaskStore
  | .lifecycle call => (call.run store).1
  | .acquireOwner lock => (store.acquireOwner lock).1
  | .releaseOwner epoch unlock => (store.releaseOwner epoch unlock).1
  | .enableOutbox => store.enableOutbox.1
  | .markPublished id version => (store.markOutboxPublished id version).1
  | .quarantine clock command => (store.quarantineOutboxHead clock command).1
  | .reopen => SqliteTaskStore.opened store.database

def sqliteStep [IdCodec] (store : SqliteTaskStore) (call : SqliteCall) : Option SqliteTaskStore :=
  some (call.run store)

structure Slot where
  row : Option TaskRow
  checkpoint : Option TerminalCheckpoint

def Database.slot (database : Database) (id : TaskId) : Slot :=
  { row := database.tasks.lookup id
    checkpoint := database.taskTerminalCheckpoints.lookup id }

def Database.progressedRow (row : TaskRow) (command : ProgressCommand)
    (snapshot : TaskProgressSnapshot) : TaskRow :=
  { row with
    progressAttempt := some command.expectedAttempt
    progressVersion := command.progressVersion
    progressJson := some snapshot
    lifecycle := { row.lifecycle with progress := some snapshot } }

def TaskRow.checkpoint (row : TaskRow) : TerminalCheckpoint :=
  { stateVersion := row.lifecycle.stateVersion
    state := row.lifecycle.state
    finishedAtMs := (Database.finishedColumn row).getD 0 }

inductive SlotChange (call : SqliteCall) (id : TaskId) : Slot → Slot → Prop
  | kept (slot : Slot) : SlotChange call id slot slot
  | accepted (clock : Clock) (request : StoredTaskRequest) (checkpoint : Option TerminalCheckpoint)
      (given : call = .lifecycle (.accept clock id request)) (fits : clock.now < i64Bound) :
      SlotChange call id ⟨none, checkpoint⟩
        ⟨some (Database.acceptedRow request clock.now), checkpoint⟩
  | started (clock : Clock) (command : StartCommand) (row : TaskRow)
      (checkpoint : Option TerminalCheckpoint)
      (given : call = .lifecycle (.start clock command)) (own : command.id = id)
      (queued : row.stateKind = .queued) (version : row.stateVersion = command.expectedStateVersion)
      (room : row.lifecycle.stateVersion + 1 < i64Bound)
      (counted : row.lifecycle.attempt + 1 < u32Bound) :
      SlotChange call id ⟨some row, checkpoint⟩
        ⟨some (Database.startedRow row command), checkpoint⟩
  | transitioned (clock : Clock) (command : TransitionCommand) (row : TaskRow)
      (checkpoint : Option TerminalCheckpoint)
      (given : call = .lifecycle (.transition clock command)) (own : command.id = id)
      (output : validateEncodedOutput command.state command.output = .ok ())
      (retry : command.retryNotBeforeMs = none ∨ command.state = .queued)
      (matched : Database.rowMatches row command)
      (writable : ¬ (command.output.isSome = true ∧ row.lifecycle.state.isTerminal = true))
      (room : row.lifecycle.stateVersion + 1 < i64Bound) :
      SlotChange call id ⟨some row, checkpoint⟩
        ⟨some (Database.transitionedRow row command), checkpoint⟩
  | progressed (command : ProgressCommand) (snapshot : TaskProgressSnapshot) (row : TaskRow)
      (checkpoint : Option TerminalCheckpoint)
      (given : call = .lifecycle (.progress command)) (own : command.id = id)
      (taken : TaskProgressSnapshot.fromCommand command = .ok snapshot)
      (running : row.stateKind = .running) (attempt : row.attempt = command.expectedAttempt)
      (newer : Database.previousProgressVersion row command.expectedAttempt <
        command.progressVersion) :
      SlotChange call id ⟨some row, checkpoint⟩
        ⟨some (Database.progressedRow row command snapshot), checkpoint⟩
  | pruned (cutoff maxRows : Nat) (row : TaskRow) (checkpoint : Option TerminalCheckpoint)
      (given : call = .lifecycle (.prune cutoff maxRows))
      (terminal : row.lifecycle.state.isTerminal = true) :
      SlotChange call id ⟨some row, checkpoint⟩ ⟨none, some row.checkpoint⟩

namespace Database

variable {after before database : Database} {now cutoff maxRows : Nat} {outboxEnabled : Bool}
  {summary : TaskSummary} {id : TaskId} {clock : Clock} {entry : TaskId × TaskRow}

theorem record_event_checkpoints [IdCodec]
    (recorded : before.recordEvent outboxEnabled now summary = .ok after) :
    after.taskTerminalCheckpoints = before.taskTerminalCheckpoints := by
  unfold recordEvent at recorded
  split at recorded
  · unfold insertEventOutbox at recorded
    simp only [bind_eq_ok, require_eq_ok] at recorded
    obtain ⟨_, _, _, _, _, _, _, _, inserted⟩ := recorded
    cases inserted
    rfl
  · cases recorded
    rfl

theorem written_slot [IdCodec] {row : TaskRow}
    (recorded : (before.putRow id row).recordEvent outboxEnabled now summary = .ok after)
    (other : TaskId) :
    after.slot other =
      if other = id then ⟨some row, before.taskTerminalCheckpoints.lookup id⟩
      else before.slot other := by
  unfold slot
  rw [(record_event_spec recorded).tasks, record_event_checkpoints recorded, put_row_lookup]
  split_ifs with same
  · rw [same]
    rfl
  · rfl

theorem slot_of_lookup {row : Option TaskRow} (found : database.tasks.lookup id = row) :
    database.slot id = ⟨row, database.taskTerminalCheckpoints.lookup id⟩ := by
  rw [slot, found]

theorem accept_slots [IdCodec] {request : StoredTaskRequest} {outcome : AcceptOutcome}
    (accepted : before.acceptEncoded clock id request outboxEnabled = .ok (after, outcome))
    (other : TaskId) :
    SlotChange (.lifecycle (.accept clock id request)) other (before.slot other)
      (after.slot other) := by
  unfold acceptEncoded at accepted
  split at accepted
  · split at accepted
    · cases accepted
    · cases accepted
      exact .kept _
  · simp only [bind_eq_ok, require_eq_ok, signed_column_eq_ok] at accepted
    obtain ⟨_, absent, _, ⟨fits, rfl⟩, written, recorded, result⟩ := accepted
    cases result
    rw [written_slot recorded]
    split_ifs with same
    · subst same
      rw [slot_of_lookup (Option.isNone_iff_eq_none.mp absent)]
      exact .accepted clock request _ rfl fits
    · exact .kept _

theorem start_slots [IdCodec] {command : StartCommand}
    (started : before.startEncoded clock command outboxEnabled = .ok (after, summary))
    (other : TaskId) :
    SlotChange (.lifecycle (.start clock command)) other (before.slot other)
      (after.slot other) := by
  unfold startEncoded at started
  simp only [bind_eq_ok, require_eq_ok, addressed_row_eq_ok, increment_version_eq_ok,
    increment_attempt_eq_ok, sqlite_i64_eq_ok, signed_column_eq_ok] at started
  obtain ⟨row, found, _, ⟨queued, version⟩, _, ⟨_, rfl⟩, _, ⟨counted, _⟩, _, ⟨room, _⟩, _, _,
    written, recorded, result⟩ := started
  cases result
  rw [written_slot recorded]
  split_ifs with same
  · subst same
    rw [slot_of_lookup found]
    exact .started clock command row _ rfl rfl queued version room counted
  · exact .kept _

theorem transition_slots [IdCodec] {command : TransitionCommand}
    (applied : before.transitionEncoded clock command outboxEnabled = .ok (after, summary))
    (other : TaskId) :
    SlotChange (.lifecycle (.transition clock command)) other (before.slot other)
      (after.slot other) := by
  unfold transitionEncoded at applied
  simp only [bind_eq_ok, require_eq_ok, addressed_row_eq_ok, increment_version_eq_ok,
    sqlite_i64_eq_ok] at applied
  obtain ⟨_, _, _, output, _, retry, row, found, _, _, _, matched, _, writable, _, ⟨_, rfl⟩, _,
    ⟨room, _⟩, written, recorded, result⟩ := applied
  cases result
  rw [written_slot recorded]
  split_ifs with same
  · subst same
    rw [slot_of_lookup found]
    exact .transitioned clock command row _ rfl rfl output retry matched writable room
  · exact .kept _

theorem progress_slots {command : ProgressCommand}
    (updated : before.updateProgress command = .ok (after, summary)) (other : TaskId) :
    SlotChange (.lifecycle (.progress command)) other (before.slot other) (after.slot other) := by
  unfold updateProgress at updated
  simp only [bind_eq_ok, require_eq_ok, addressed_row_eq_ok, map_error_eq_ok] at updated
  obtain ⟨snapshot, taken, row, found, _, ⟨running, attempt⟩, _, newer, _, _, result⟩ := updated
  cases result
  unfold slot
  rw [put_row_lookup]
  split_ifs with same
  · subst same
    rw [found]
    exact .progressed command snapshot row _ rfl rfl taken running attempt newer
  · exact .kept _

theorem prune_row_slot (pruned : before.pruneRow entry = .ok after) (other : TaskId) :
    entry.2.lifecycle.state.isTerminal = true ∧
      after.slot other =
        if other = entry.1 then ⟨none, some entry.2.checkpoint⟩ else before.slot other := by
  simp only [pruneRow, bind_eq_ok, require_eq_ok] at pruned
  obtain ⟨_, terminal, _, _, result⟩ := pruned
  cases result
  refine ⟨terminal, ?_⟩
  unfold slot
  rw [Table.lookup_erase_eq, Table.lookup_insert_eq]
  split_ifs
  · rfl
  · rfl

theorem prune_rows_slots (entries : List (TaskId × TaskRow))
    (distinct : (entries.map Prod.fst).Nodup)
    (pruned : before.pruneTerminalRows entries = .ok after) (other : TaskId) :
    (other ∉ entries.map Prod.fst → after.slot other = before.slot other) ∧
      ∀ row, (other, row) ∈ entries →
        row.lifecycle.state.isTerminal = true ∧
          after.slot other = ⟨none, some row.checkpoint⟩ := by
  induction entries generalizing before with
  | nil =>
    cases pruned
    exact ⟨fun _ => rfl, fun row member => by cases member⟩
  | cons entry rest ih =>
    obtain ⟨absent, distinctRest⟩ := nodup_cons.mp distinct
    simp only [pruneTerminalRows, bind_eq_ok] at pruned
    obtain ⟨middle, first, remaining⟩ := pruned
    obtain ⟨terminal, slot⟩ := prune_row_slot first other
    obtain ⟨outside, inside⟩ := ih distinctRest remaining
    refine ⟨?_, ?_⟩
    · intro unlisted
      rw [map_cons, mem_cons, not_or] at unlisted
      rw [outside unlisted.2, slot, if_neg unlisted.1]
    · intro row member
      rcases mem_cons.mp member with same | later
      · subst same
        exact ⟨terminal, by rw [outside absent, slot, if_pos rfl]⟩
      · exact inside row later

def expiredRows (database : Database) (cutoff maxRows : Nat) : List (TaskId × TaskRow) :=
  ((database.taskRows.filter (database.expiredRow cutoff)).insertionSort fun left right =>
    finishLe left right = true).take maxRows

theorem task_rows_distinct (database : Database) :
    (database.taskRows.map Prod.fst).Nodup := by
  unfold taskRows
  rw [map_map]
  exact database.tasks.nodupKeys

theorem expired_rows_distinct (database : Database) (cutoff maxRows : Nat) :
    ((database.expiredRows cutoff maxRows).map Prod.fst).Nodup := by
  have permuted := perm_insertionSort (fun left right => finishLe left right = true)
    (database.taskRows.filter (database.expiredRow cutoff))
  have filtered : ((database.taskRows.filter (database.expiredRow cutoff)).map Prod.fst).Nodup :=
    database.task_rows_distinct.sublist (filter_sublist.map _)
  have sorted := (permuted.map Prod.fst).nodup_iff.mpr filtered
  exact sorted.sublist ((take_sublist _ _).map _)

theorem mem_expired_rows (member : entry ∈ database.expiredRows cutoff maxRows) :
    database.tasks.lookup entry.1 = some entry.2 ∧ database.expiredRow cutoff entry = true := by
  have sorted := (mem_insertionSort _).mp (mem_of_mem_take member)
  obtain ⟨listed, expired⟩ := mem_filter.mp sorted
  exact ⟨(mem_task_rows database entry).mp listed, expired⟩

theorem prune_slots {count : Nat}
    (pruned : before.pruneTerminalBefore cutoff maxRows = .ok (after, count)) (other : TaskId) :
    SlotChange (.lifecycle (.prune cutoff maxRows)) other (before.slot other)
      (after.slot other) := by
  simp only [pruneTerminalBefore, bind_eq_ok] at pruned
  obtain ⟨written, removed, result⟩ := pruned
  cases result
  obtain ⟨outside, inside⟩ := prune_rows_slots (before.expiredRows cutoff maxRows)
    (before.expired_rows_distinct cutoff maxRows) removed other
  by_cases listed : other ∈ (before.expiredRows cutoff maxRows).map Prod.fst
  · obtain ⟨⟨id, row⟩, member, rfl⟩ := mem_map.mp listed
    obtain ⟨terminal, slot⟩ := inside row member
    rw [slot, slot_of_lookup (mem_expired_rows member).1]
    exact .pruned cutoff maxRows row _ rfl terminal
  · rw [outside listed]
    exact .kept _

end Database

namespace SqliteTaskStore

variable {α : Type} {call : SqliteCall} {store : SqliteTaskStore}
  {operation : Database → Except StoreError (Database × α)}

theorem run_write_slots
    (effect : ∀ database value, operation store.database = .ok (database, value) →
      ∀ id, SlotChange call id (store.database.slot id) (database.slot id)) (id : TaskId) :
    SlotChange call id (store.database.slot id)
      ((store.runWrite operation).1.database.slot id) := by
  rcases store.run_write_cases operation with ⟨error, failed, _⟩ | ⟨database, value, ran, done⟩
  · rw [failed]
    exact .kept _
  · rw [done]
    exact effect database value ran id

theorem run_outbox_slots
    (effect : ∀ database value, operation store.database = .ok (database, value) →
      ∀ id, database.slot id = store.database.slot id) (id : TaskId) :
    SlotChange call id (store.database.slot id)
      ((store.runOutbox operation).1.database.slot id) := by
  rcases store.run_outbox_cases operation with ⟨error, failed⟩ | ⟨database, value, ran, done⟩
  · rw [failed]
    exact .kept _
  · rw [done, show ({ store with database := database } : SqliteTaskStore).database.slot id =
      store.database.slot id from effect database value ran id]
    exact .kept _

theorem call_slots [IdCodec] (store : SqliteTaskStore) (call : SqliteCall) (id : TaskId) :
    SlotChange call id (store.database.slot id) ((call.run store).database.slot id) := by
  cases call with
  | lifecycle call =>
    cases call with
    | accept =>
      exact run_write_slots (fun _ _ accepted => Database.accept_slots accepted) id
    | start =>
      exact run_write_slots (fun _ _ started => Database.start_slots started) id
    | transition =>
      exact run_write_slots (fun _ _ applied => Database.transition_slots applied) id
    | progress command =>
      exact run_write_slots (fun _ _ updated => Database.progress_slots updated) id
    | prune cutoff maxRows =>
      show SlotChange _ id _ ((store.pruneTerminalBefore cutoff maxRows).1.database.slot id)
      unfold pruneTerminalBefore
      split
      · exact .kept _
      split
      · exact .kept _
      · exact run_write_slots (fun _ _ pruned => Database.prune_slots pruned) id
  | acquireOwner lock =>
    simp only [SqliteCall.run, acquireOwner]
    split
    · exact .kept _
    split
    · exact .kept _
    · exact .kept _
  | releaseOwner =>
    simp only [SqliteCall.run, releaseOwner]
    split
    · exact .kept _
    split
    · exact .kept _
    · exact .kept _
  | enableOutbox =>
    simp only [SqliteCall.run, enableOutbox]
    split
    · exact .kept _
    · exact .kept _
  | markPublished =>
    refine run_outbox_slots ?_ id
    intro database value marked slotId
    simp only [Database.markOutboxPublished, bind_eq_ok] at marked
    obtain ⟨_, _, result⟩ := marked
    cases result
    rfl
  | quarantine =>
    refine run_outbox_slots ?_ id
    intro database value moved slotId
    simp only [Database.quarantineOutboxHead, bind_eq_ok, require_eq_ok] at moved
    obtain ⟨_, _, head, _, _, _, _, _, result⟩ := moved
    cases result
    rfl
  | reopen => exact .kept _

end SqliteTaskStore

end TaskService.Store
