import TaskService.Store.ColumnAgreement
import TaskService.Store.MemoryFailures
import TaskService.Store.RecordLaws

/-!
# Two stores, one lifecycle

The memory store and the SQLite store run through the same calls.  The relation between
them is that they show the same records; the redundant structures of each follow from
those.  It is kept by every call within the limits both stores can represent, except at
the few places where the two programs decide differently.
-/

namespace TaskService.Store

open Library Model List
open TaskProgressSnapshot (fromCommand)

/-- Two answers that succeed together and then carry the same value. -/
def AnswersAgree {α : Type} (left right : Except StoreError α) : Prop :=
  match left, right with
  | .ok first, .ok second => first = second
  | .error _, .error _ => True
  | _, _ => False

def StoreAnswer.Agree : StoreAnswer → StoreAnswer → Prop
  | .accepted left, .accepted right => AnswersAgree left right
  | .summary left, .summary right => AnswersAgree left right
  | .pruned left, .pruned right => AnswersAgree left right
  | _, _ => False

theorem answers_agree_of {α : Type} {left right : Except StoreError α}
    (together : (∃ value, left = .ok value) ↔ ∃ value, right = .ok value)
    (same : ∀ first second, left = .ok first → right = .ok second → first = second) :
    AnswersAgree left right := by
  cases left with
  | error error =>
    cases right with
    | error other => trivial
    | ok value =>
      obtain ⟨absurdity, given⟩ := together.mpr ⟨value, rfl⟩
      cases given
  | ok value =>
    cases right with
    | error other =>
      obtain ⟨absurdity, given⟩ := together.mp ⟨value, rfl⟩
      cases given
    | ok other => exact same value other rfl rfl

def EventFits [IdCodec] (clock : Clock) (summary : TaskSummary) : Prop :=
  (TaskEvent.fromTypedSummary summary).toJson.utf8ByteSize ≤ Database.maxEventSnapshotBytes ∧
    clock.eventNow < i64Bound

/-- Limits within which both stores work: identifiers are not empty, times and versions
fit a signed column, the memory limits are not reached, and events fit the outbox when
there is one.  Pruning is compared without an outbox. -/
def WithinLimits [IdCodec] (memory : MemoryTaskStore) (outboxEnabled : Bool) : StoreCall → Prop
  | .accept clock id request =>
      request.kindId.isEmpty = false ∧ request.payload.codecId.isEmpty = false ∧
        clock.now < i64Bound ∧
        (memory.idempotentId request = none → memory.getEncodedTask id = none →
          memory.state.unfinishedRecords < memory.maxUnfinishedRecords ∧
            memory.state.retainedPayloadBytes + request.payload.bytes.length ≤
              memory.maxPayloadBytes ∧
            (outboxEnabled = true → EventFits clock (acceptedSummary id request clock.now)))
  | .start clock command =>
      command.startedAtMs < i64Bound ∧
        ∀ task, memory.getEncodedTask command.id = some task →
          task.summary.stateVersion + 1 < i64Bound ∧
            (outboxEnabled = true → EventFits clock (startedSummary task.summary command))
  | .transition clock command =>
      (∀ deadline, command.retryNotBeforeMs = some deadline → deadline < i64Bound) ∧
        ∀ task, memory.getEncodedTask command.id = some task →
          task.summary.stateVersion + 1 < i64Bound ∧
            (task.summary.state.isTerminal = false → command.state.isTerminal = true →
              memory.state.encodedTerminalOrder.length < memory.historyCapacity) ∧
            (outboxEnabled = true → EventFits clock (transitionedSummary task.summary command))
  | .progress command => command.progressVersion < i64Bound
  | .prune cutoff _ => cutoff < i64Bound ∧ outboxEnabled = false

/-- Where the stores decide differently: the start of a record whose attempt counter is
exhausted, a well-formed first report of an attempt under version 0, and a prune whose row
limit no signed column holds. -/
def Exceptional (memory : MemoryTaskStore) : StoreCall → Prop
  | .start clock command => memory.CounterExhausted (.lifecycle (.start clock command))
  | .progress command =>
      command.progressVersion = 0 ∧
        (∃ snapshot, TaskProgressSnapshot.fromCommand command = .ok snapshot) ∧
        ∃ task, memory.getEncodedTask command.id = some task ∧
          task.summary.state = .running ∧ task.summary.attempt = command.expectedAttempt ∧
          task.summary.progress = none
  | .prune _ maxRows => i64Bound ≤ maxRows
  | .accept .. | .transition .. => False

structure Mirrors (memory : MemoryTaskStore) (sqlite : SqliteTaskStore) : Prop where
  records : ∀ id, sqlite.getEncodedTask id = memory.getEncodedTask id
  consistent : memory.Consistent
  rows : sqlite.database.RowsAgree
  sound : sqlite.database.Sound
  held : sqlite.lockHeld = true
  quiet : sqlite.outboxEnabled = false → sqlite.database.taskEventOutbox = []

namespace Mirrors

variable {memory : MemoryTaskStore} {sqlite : SqliteTaskStore}

variable {id : TaskId}

section

variable (mirrors : Mirrors memory sqlite)
include mirrors

theorem row_of_record {task : StoredTask} (held : memory.getEncodedTask id = some task) :
    ∃ row, sqlite.database.tasks.lookup id = some row ∧ row.storedTask id = task ∧ row.Agrees := by
  have shown := (mirrors.records id).trans held
  obtain ⟨row, found, same⟩ := Database.get_encoded_task_eq_some.mp shown
  exact ⟨row, found, same, mirrors.rows id row found⟩

theorem no_row (absent : memory.getEncodedTask id = none) :
    sqlite.database.tasks.lookup id = none := by
  have shown := (mirrors.records id).trans absent
  exact Option.map_eq_none_iff.mp shown

theorem record_of_row {row : TaskRow} (found : sqlite.database.tasks.lookup id = some row) :
    memory.getEncodedTask id = some (row.storedTask id) := by
  rw [← mirrors.records]
  exact Database.get_encoded_task_eq_some.mpr ⟨row, found, rfl⟩

end

end Mirrors

section Successes

/-!
### When a call succeeds
-/

theorem MemoryTaskStore.start_succeeds_iff (store : MemoryTaskStore) (command : StartCommand) :
    (∃ summary, (store.startEncoded command).2 = .ok summary) ↔
      ∃ task, store.getEncodedTask command.id = some task ∧
        task.summary.stateVersion = command.expectedStateVersion ∧
        task.summary.state = .queued ∧ task.summary.stateVersion + 1 < u64Bound ∧
        task.summary.attempt + 1 < u32Bound := by
  unfold startEncoded
  cases held : store.getEncodedTask command.id with
  | none => simp
  | some task =>
    simp only [Option.some.injEq, exists_eq_left']
    split
    · rename_i lost
      simp only [reduceCtorEq, exists_false, false_iff]
      tauto
    rename_i matched
    push Not at matched
    split
    · rename_i overflow
      have full := checked_add_eq_none.mp overflow
      simp only [reduceCtorEq, exists_false, false_iff]
      omega
    rename_i version increment
    have room := (checked_add_eq_some.mp increment).1
    split
    · rename_i overflow
      have full := checked_add_eq_none.mp overflow
      simp only [reduceCtorEq, exists_false, false_iff]
      omega
    · rename_i attempt counted
      have free := (checked_add_eq_some.mp counted).1
      exact ⟨fun _ => ⟨matched.1, matched.2, room, free⟩, fun _ => ⟨_, rfl⟩⟩

theorem MemoryTaskStore.transition_succeeds_iff (store : MemoryTaskStore)
    (command : TransitionCommand) :
    (∃ summary, (store.transitionEncoded command).2 = .ok summary) ↔
      command.state.validateDiagnostics = .ok () ∧
        validateEncodedOutput command.state command.output = .ok () ∧
        ∃ task, store.getEncodedTask command.id = some task ∧
          transitionCheck task.summary command = .ok () ∧
          task.summary.stateVersion + 1 < u64Bound := by
  unfold transitionEncoded transitionEncodedBy
  cases command.state.validateDiagnostics with
  | error message => simp
  | ok _ =>
    cases validateEncodedOutput command.state command.output with
    | error error => simp
    | ok _ =>
      cases held : store.getEncodedTask command.id with
      | none => simp
      | some task =>
        cases checked : transitionCheck task.summary command with
        | error error => simp [checked]
        | ok _ =>
          simp only [Option.some.injEq, exists_eq_left', checked, true_and]
          split
          · rename_i overflow
            have full := checked_add_eq_none.mp overflow
            simp only [reduceCtorEq, exists_false, false_iff]
            omega
          · rename_i version increment
            have room := (checked_add_eq_some.mp increment).1
            simp [room]

theorem MemoryTaskStore.progress_succeeds_iff (store : MemoryTaskStore)
    (command : ProgressCommand) :
    (∃ summary, (store.updateProgress command).2 = .ok summary) ↔
      (∃ snapshot, fromCommand command = .ok snapshot) ∧
        ∃ task, store.getEncodedTask command.id = some task ∧ task.summary.state = .running ∧
          task.summary.attempt = command.expectedAttempt ∧
          progressStale task.summary.progress command.progressVersion = false := by
  unfold updateProgress
  cases fromCommand command with
  | error error => simp
  | ok snapshot =>
    cases held : store.getEncodedTask command.id with
    | none => simp
    | some task =>
      simp only [Option.some.injEq, exists_eq_left', Except.ok.injEq, exists_eq', true_and]
      split
      · rename_i lost
        simp only [reduceCtorEq, exists_false, false_iff, ← Bool.not_eq_true]
        tauto
      · rename_i matched
        simp only [Except.ok.injEq, exists_eq', true_iff, ← Bool.not_eq_true]
        tauto

namespace Database

variable [IdCodec] {database : Database}

variable {clock : Clock} {outboxEnabled : Bool}

theorem start_succeeds_iff {command : StartCommand} :
    (∃ written summary,
        database.startEncoded clock command outboxEnabled = .ok (written, summary)) ↔
      ∃ row, database.tasks.lookup command.id = some row ∧ row.stateKind = .queued ∧
        row.stateVersion = command.expectedStateVersion ∧
        row.lifecycle.attempt + 1 < u32Bound ∧ row.lifecycle.stateVersion + 1 < i64Bound ∧
        command.startedAtMs < i64Bound ∧
        ∃ written, (database.putRow command.id (startedRow row command)).recordEvent
          outboxEnabled clock.eventNow ((startedRow row command).summary command.id) =
            .ok written := by
  constructor
  · rintro ⟨written, summary, started⟩
    simp only [startEncoded, bind_eq_ok, require_eq_ok, addressed_row_eq_ok,
      increment_version_eq_ok, increment_attempt_eq_ok, sqlite_i64_eq_ok,
      signed_column_eq_ok] at started
    obtain ⟨row, found, _, ⟨queued, version⟩, _, ⟨_, rfl⟩, _, ⟨counted, _⟩, _, ⟨room, _⟩, _,
      ⟨moment, _⟩, after, recorded, _⟩ := started
    exact ⟨row, found, queued, version, counted, room, moment, after, recorded⟩
  · rintro ⟨row, found, queued, version, counted, room, moment, after, recorded⟩
    refine ⟨after, (startedRow row command).summary command.id, ?_⟩
    simp only [startEncoded, bind_eq_ok, require_eq_ok, addressed_row_eq_ok,
      increment_version_eq_ok, increment_attempt_eq_ok, sqlite_i64_eq_ok, signed_column_eq_ok]
    exact ⟨row, found, (), ⟨queued, version⟩, _, ⟨lt_u64_of_lt_i64 room, rfl⟩, _,
      ⟨counted, rfl⟩, _, ⟨room, rfl⟩, _, ⟨moment, rfl⟩, after, recorded, rfl⟩

omit [IdCodec] in
theorem progress_succeeds_iff {command : ProgressCommand} :
    (∃ written summary, database.updateProgress command = .ok (written, summary)) ↔
      (∃ snapshot, fromCommand command = .ok snapshot) ∧
        ∃ row, database.tasks.lookup command.id = some row ∧ row.stateKind = .running ∧
          row.attempt = command.expectedAttempt ∧
          previousProgressVersion row command.expectedAttempt < command.progressVersion ∧
          command.progressVersion < i64Bound := by
  constructor
  · rintro ⟨written, summary, updated⟩
    simp only [updateProgress, bind_eq_ok, require_eq_ok, addressed_row_eq_ok, map_error_eq_ok,
      signed_column_eq_ok] at updated
    obtain ⟨snapshot, taken, row, found, _, ⟨running, attempt⟩, _, newer, _, ⟨fits, _⟩, _⟩ :=
      updated
    exact ⟨⟨snapshot, taken⟩, row, found, running, attempt, newer, fits⟩
  · rintro ⟨⟨snapshot, taken⟩, row, found, running, attempt, newer, fits⟩
    refine ⟨database.putRow command.id (progressedRow row command snapshot),
      (progressedRow row command snapshot).summary command.id, ?_⟩
    simp only [updateProgress, bind_eq_ok, require_eq_ok, addressed_row_eq_ok, map_error_eq_ok,
      signed_column_eq_ok]
    exact ⟨snapshot, taken, row, found, (), ⟨running, attempt⟩, (), newer, _, ⟨fits, rfl⟩, rfl⟩

end Database

end Successes

section Steps

theorem stored_request_eq_iff (row : TaskRow) (id : TaskId) (request : StoredTaskRequest) :
    (row.storedTask id).request = request ↔
      row.requestInfo = StoredRequestInfo.ofRequest request ∧
        row.payload = request.payload.bytes := by
  constructor
  · rintro rfl
    exact ⟨rfl, rfl⟩
  · rintro ⟨info, payload⟩
    show row.requestInfo.intoRequest row.payload = request
    rw [info, payload]
    rfl

theorem StoreAnswer.agree_refl (answer : StoreAnswer) : answer.Agree answer := by
  have same : ∀ {α : Type} (result : Except StoreError α), AnswersAgree result result := by
    intro α result
    cases result with
    | ok value => exact rfl
    | error error => trivial
  cases answer <;> exact same _

theorem MemoryState.remove_all_lookup (ids : List TaskId) (state : MemoryState) (id : TaskId) :
    (ids.foldl (fun state id => (state.removeEncodedTask id).1) state).encodedTasks.lookup id =
      if id ∈ ids then none else state.encodedTasks.lookup id := by
  induction ids generalizing state with
  | nil => rfl
  | cons first rest removed =>
    rw [foldl_cons, removed, MemoryState.remove_lookup]
    by_cases own : id = first <;> by_cases listed : id ∈ rest <;> simp [own, listed]

variable [IdCodec] {memory : MemoryTaskStore} {sqlite : SqliteTaskStore}

/-- A lifecycle call fails without a trace, or it changes the database and, without an
outbox, none of its events. -/
inductive CallOutcome (store : SqliteTaskStore) : SqliteTaskStore → Bool → Prop
  | failed : CallOutcome store store true
  | committed (database : Database) (events : store.outboxEnabled = false →
        database.taskEventOutbox = store.database.taskEventOutbox) :
      CallOutcome store { store with database := database } false

variable {store : SqliteTaskStore} {α : Type} {id known : TaskId} {summary : TaskSummary}
  {row : TaskRow} {state : MemoryState} {command : TransitionCommand} {clock : Clock}
  {request : StoredTaskRequest} {task : StoredTask}

omit [IdCodec] in
theorem CallOutcome.settings {after : SqliteTaskStore} {failed : Bool}
    (outcome : CallOutcome store after failed) :
    after.outboxEnabled = store.outboxEnabled ∧ after.lockHeld = store.lockHeld := by
  cases outcome <;> exact ⟨rfl, rfl⟩

omit [IdCodec] in
theorem run_write_outcome {operation : Database → Except StoreError (Database × α)}
    (events : ∀ database value, operation store.database = .ok (database, value) →
      store.outboxEnabled = false → database.taskEventOutbox = store.database.taskEventOutbox)
    (answer : Except StoreError α → StoreAnswer)
    (failing : ∀ error, (answer (.error error)).failed = true)
    (succeeding : ∀ value, (answer (.ok value)).failed = false) :
    CallOutcome store (store.runWrite operation).1
      (answer (store.runWrite operation).2).failed := by
  rcases store.run_write_cases operation with ⟨error, failed, _⟩ | ⟨database, value, ran, done⟩
  · rw [failed]
    simp only [failing]
    exact .failed
  · rw [done]
    simp only [succeeding]
    exact .committed database (events database value ran)

theorem call_outcome (sound : store.database.Sound) (call : StoreCall) :
    CallOutcome store (call.run store).1 (call.run store).2.failed := by
  cases call with
  | accept =>
    refine run_write_outcome ?_ .accepted (fun _ => rfl) (fun _ => rfl)
    intro database value accepted disabled
    rcases Database.accept_revision accepted with ⟨_, rfl⟩ | ⟨_, _, revision⟩
    · rfl
    · exact revision.disabled disabled
  | start =>
    refine run_write_outcome ?_ .summary (fun _ => rfl) (fun _ => rfl)
    intro database value started disabled
    obtain ⟨_, _, _, _, _, _, revision⟩ := Database.start_revision started
    exact revision.disabled disabled
  | transition =>
    refine run_write_outcome ?_ .summary (fun _ => rfl) (fun _ => rfl)
    intro database value applied disabled
    obtain ⟨_, _, _, _, _, revision⟩ := Database.transition_revision applied
    exact revision.disabled disabled
  | progress command =>
    refine run_write_outcome ?_ .summary (fun _ => rfl) (fun _ => rfl)
    intro database value updated disabled
    simp only [Database.updateProgress, bind_eq_ok] at updated
    obtain ⟨_, _, _, _, _, _, _, _, _, _, result⟩ := updated
    cases result
    rfl
  | prune cutoff maxRows =>
    show CallOutcome store (store.pruneTerminalBefore cutoff maxRows).1
      (StoreAnswer.pruned (store.pruneTerminalBefore cutoff maxRows).2).failed
    unfold SqliteTaskStore.pruneTerminalBefore
    split
    · exact .failed
    split
    · exact .failed
    · refine run_write_outcome ?_ .pruned (fun _ => rfl) (fun _ => rfl)
      intro database value pruned _
      exact (Database.prune_spec sound pruned).outbox

section

variable (mirrors : Mirrors memory sqlite)
include mirrors

theorem Mirrors.after (call : StoreCall) (records : ∀ id, (call.run sqlite).1.getEncodedTask id =
      (call.run memory).1.getEncodedTask id) (consistent : (call.run memory).1.Consistent) :
    Mirrors (call.run memory).1 (call.run sqlite).1 := by
  have rows : (call.run sqlite).1.database.RowsAgree :=
    call_rows_agree mirrors.rows (.lifecycle call)
  have sound : (call.run sqlite).1.database.Sound :=
    @call_valid SqliteTaskStore _ _ sqlite mirrors.sound call
  generalize next : (call.run sqlite).1 = after at records rows sound
  generalize flag : (call.run sqlite).2.failed = failed
  have outcome := call_outcome mirrors.sound call
  rw [next, flag] at outcome
  cases outcome with
  | failed => exact ⟨records, consistent, rows, sound, mirrors.held, mirrors.quiet⟩
  | committed database events =>
    refine ⟨records, consistent, rows, sound, mirrors.held, ?_⟩
    intro disabled
    exact (events disabled).trans (mirrors.quiet disabled)

theorem Mirrors.after_failure (call : StoreCall) (memoryFailed : (call.run memory).2.failed = true)
    (sqliteFailed : (call.run sqlite).2.failed = true)
    (regular : ¬ memory.CounterExhausted (.lifecycle call))
    (consistent : (call.run memory).1.Consistent) :
    Mirrors (call.run memory).1 (call.run sqlite).1 := by
  refine mirrors.after call ?_ consistent
  intro id
  have unchanged := (MemoryTaskStore.failed_call_same_iff mirrors.consistent
    (.lifecycle call)).mpr regular memoryFailed
  have same : (call.run memory).1.getEncodedTask id = memory.getEncodedTask id :=
    unchanged.encodedTasks id
  have outcome := call_outcome mirrors.sound call
  rw [sqliteFailed] at outcome
  generalize (call.run sqlite).1 = after at outcome ⊢
  cases outcome with
  | failed => rw [mirrors.records id, same]

def Agreed (memory : MemoryTaskStore) (sqlite : SqliteTaskStore) (call : StoreCall) : Prop :=
  StoreAnswer.Agree (call.run memory).2 (call.run sqlite).2 ∧
    Mirrors (call.run memory).1 (call.run sqlite).1

/-- Agreement of a call from what its success means: the stores succeed together, then
with the same value and the same records. -/
theorem Mirrors.agreed {call : StoreCall} (wrap : Except StoreError α → StoreAnswer)
    {left right : Except StoreError α} (memoryAnswer : (call.run memory).2 = wrap left)
    (sqliteAnswer : (call.run sqlite).2 = wrap right)
    (fails : ∀ error, (wrap (.error error)).failed = true)
    (agrees : ∀ first second, AnswersAgree first second → (wrap first).Agree (wrap second))
    (consistent : (call.run memory).1.Consistent)
    (regular : ¬ memory.CounterExhausted (.lifecycle call))
    (together : (∃ value, left = .ok value) ↔ ∃ value, right = .ok value)
    (succeeds : ∀ first second, left = .ok first → right = .ok second →
      first = second ∧ ∀ id, (call.run sqlite).1.getEncodedTask id =
        (call.run memory).1.getEncodedTask id) : Agreed memory sqlite call := by
  refine ⟨?_, ?_⟩
  · rw [memoryAnswer, sqliteAnswer]
    exact agrees _ _ (answers_agree_of together fun first second one two =>
      (succeeds first second one two).1)
  · cases left with
    | ok first =>
      obtain ⟨second, done⟩ := together.mp ⟨first, rfl⟩
      exact mirrors.after call (succeeds first second rfl done).2 consistent
    | error error =>
      cases right with
      | ok second =>
        obtain ⟨value, given⟩ := together.mpr ⟨second, rfl⟩
        cases given
      | error other =>
        refine mirrors.after_failure call ?_ ?_ regular consistent
        · rw [memoryAnswer]
          exact fails error
        · rw [sqliteAnswer]
          exact fails other

end

theorem Database.records_event {database : Database} (sound : database.Sound) {id : TaskId}
    {row : TaskRow} {clock : Clock} {summary : TaskSummary} {outboxEnabled : Bool}
    (written : TaskRow) (found : database.tasks.lookup id = some row) (identity : summary.id = id)
    (version : summary.stateVersion = row.lifecycle.stateVersion + 1)
    (room : row.lifecycle.stateVersion + 1 < i64Bound)
    (fits : outboxEnabled = true → EventFits clock summary) :
    ∃ after, (database.putRow id written).recordEvent outboxEnabled clock.eventNow summary =
      .ok after := by
  rw [Database.record_event_accepts_iff]
  intro enabled
  obtain ⟨size, moment⟩ := fits enabled
  refine ⟨size, version ▸ room, moment, ?_⟩
  rintro ⟨event, member, task, sameVersion⟩
  obtain ⟨held, lookup, bound⟩ := sound.events event member
  rw [task, identity, found] at lookup
  cases lookup
  rw [(sound.rows id row found).version] at bound
  omega

/-- One record is replaced by what it becomes, and its new summary is the answer. -/
def Rewritten (before after : Records) (id : TaskId) (update : StoredTask → StoredTask)
    (summary : TaskSummary) : Prop :=
  ∃ task, before id = some task ∧ summary = (update task).summary ∧
    ∀ other, after other = if other = id then some (update task) else before other

omit [IdCodec] in
theorem Rewritten.agree {left leftAfter right rightAfter : Records}
    {update : StoredTask → StoredTask} {first second : TaskSummary}
    (one : Rewritten left leftAfter id update first)
    (two : Rewritten right rightAfter id update second) (same : ∀ id, right id = left id) :
    first = second ∧ ∀ other, rightAfter other = leftAfter other := by
  obtain ⟨task, held, rfl, leftRecords⟩ := one
  obtain ⟨copy, shown, rfl, rightRecords⟩ := two
  rw [same, held] at shown
  cases shown
  refine ⟨rfl, ?_⟩
  intro other
  rw [leftRecords, rightRecords, same]

omit [IdCodec] in
theorem StartEffect.rewritten {before after : Records} {command : StartCommand}
    (effect : StartEffect before after command (.ok summary)) :
    Rewritten before after command.id
      (fun task => { task with summary := startedSummary task.summary command }) summary := by
  cases effect with
  | started task held queued version room stored others =>
    refine ⟨task, held, rfl, ?_⟩
    intro other
    split_ifs with own
    · rw [own]
      exact stored
    · exact others other own

theorem start_agreed (mirrors : Mirrors memory sqlite) (clock : Clock) (command : StartCommand)
    (within : WithinLimits memory sqlite.outboxEnabled (.start clock command))
    (regular : ¬ Exceptional memory (.start clock command)) :
    Agreed memory sqlite (.start clock command) := by
  obtain ⟨moment, limits⟩ := within
  refine mirrors.agreed .summary rfl rfl (fun _ => rfl) (fun _ _ agree => agree)
    (memory.start_consistent mirrors.consistent command) regular ?_ ?_
  · show (∃ summary, (memory.startEncoded command).2 = .ok summary) ↔
      ∃ summary, (sqlite.startEncoded clock command).2 = .ok summary
    rw [MemoryTaskStore.start_succeeds_iff, SqliteTaskStore.startEncoded,
      SqliteTaskStore.run_write_succeeds_iff mirrors.held, Database.start_succeeds_iff]
    constructor
    · rintro ⟨task, held, version, queued, room, counted⟩
      obtain ⟨row, found, rfl, agrees⟩ := mirrors.row_of_record held
      obtain ⟨column, fits⟩ := limits _ held
      refine ⟨row, found, ?_, agrees.version.trans version, counted, column, moment, ?_⟩
      · rw [agrees.kind]
        exact (TaskState.kind_queued_iff _).mpr queued
      · exact Database.records_event mirrors.sound _ found rfl rfl column fits
    · rintro ⟨row, found, queued, version, counted, column, _, _⟩
      have agrees := mirrors.rows _ _ found
      refine ⟨_, mirrors.record_of_row found, agrees.version.symm.trans version, ?_,
        lt_u64_of_lt_i64 column, counted⟩
      exact (TaskState.kind_queued_iff _).mp (agrees.kind.symm.trans queued)
  · intro first second memoryDone sqliteDone
    have memoryEffect := (memory.start_spec command mirrors.consistent.accounts.sound).2
    have sqliteEffect := (sqlite.start_spec clock command mirrors.sound).2
    rw [show (memory.startEncoded command).2 = .ok first from memoryDone] at memoryEffect
    rw [show (sqlite.startEncoded clock command).2 = .ok second from sqliteDone] at sqliteEffect
    exact memoryEffect.rewritten.agree sqliteEffect.rewritten mirrors.records

omit [IdCodec] in
theorem stale_iff (agrees : row.Agrees) {attempt version : Nat} (current : row.attempt = attempt)
    (regular : version = 0 → row.lifecycle.progress ≠ none) :
    MemoryTaskStore.progressStale row.lifecycle.progress version = false ↔
      Database.previousProgressVersion row attempt < version := by
  unfold Database.previousProgressVersion
  rw [agrees.progressAttempt, agrees.progressVersion]
  cases reported : row.lifecycle.progress with
  | none =>
    have positive : version ≠ 0 := fun zero => regular zero reported
    simp only [MemoryTaskStore.progressStale, Option.map_none, reduceCtorEq, if_false, true_iff]
    omega
  | some snapshot =>
    have own : snapshot.attempt = attempt := by
      rw [agrees.progressOwn snapshot reported, ← agrees.attempt, current]
    simp [MemoryTaskStore.progressStale, own]

def reportedTask (snapshot : TaskProgressSnapshot) (task : StoredTask) : StoredTask :=
  { task with summary := { task.summary with progress := some snapshot } }

omit [IdCodec] in
theorem MemoryTaskStore.progress_result {store : MemoryTaskStore} {command : ProgressCommand}
    (done : (store.updateProgress command).2 = .ok summary) :
    ∃ snapshot, fromCommand command = .ok snapshot ∧
      Rewritten store.getEncodedTask (store.updateProgress command).1.getEncodedTask command.id
        (reportedTask snapshot) summary := by
  unfold updateProgress at done ⊢
  split at done
  · cases done
  rename_i snapshot taken
  split at done
  · cases done
  rename_i task held
  split at done
  · cases done
  rename_i matched
  cases done
  refine ⟨snapshot, taken, task, held, rfl, ?_⟩
  intro id
  simp only [if_neg matched]
  exact MemoryState.put_summary_lookup _ _ _ _ _

omit [IdCodec] in
theorem SqliteTaskStore.progress_result {command : ProgressCommand}
    (done : (store.updateProgress command).2 = .ok summary) :
    ∃ snapshot, fromCommand command = .ok snapshot ∧
      Rewritten store.getEncodedTask (store.updateProgress command).1.getEncodedTask command.id
        (reportedTask snapshot) summary := by
  unfold updateProgress at done ⊢
  rcases store.run_write_cases fun database => database.updateProgress command with
    ⟨error, failed, _⟩ | ⟨database, value, updated, committed⟩
  · rw [failed] at done
    cases done
  · rw [committed] at done ⊢
    cases done
    simp only [Database.updateProgress, bind_eq_ok, Database.addressed_row_eq_ok,
      map_error_eq_ok] at updated
    obtain ⟨snapshot, taken, row, found, _, _, _, _, _, _, result⟩ := updated
    cases result
    refine ⟨snapshot, taken, row.storedTask command.id,
      Database.get_encoded_task_eq_some.mpr ⟨row, found, rfl⟩, rfl, ?_⟩
    intro id
    show Database.getEncodedTask _ id = _
    unfold Database.getEncodedTask
    rw [Database.put_row_lookup]
    split_ifs with same
    · subst same
      rfl
    · rfl

theorem progress_agreed (mirrors : Mirrors memory sqlite) (command : ProgressCommand)
    (within : WithinLimits memory sqlite.outboxEnabled (.progress command))
    (regular : ¬ Exceptional memory (.progress command)) :
    Agreed memory sqlite (.progress command) := by
  refine mirrors.agreed .summary rfl rfl (fun _ => rfl) (fun _ _ agree => agree)
    (memory.progress_consistent mirrors.consistent command) (fun exhausted => exhausted) ?_ ?_
  · show (∃ summary, (memory.updateProgress command).2 = .ok summary) ↔
      ∃ summary, (sqlite.updateProgress command).2 = .ok summary
    rw [MemoryTaskStore.progress_succeeds_iff, SqliteTaskStore.updateProgress,
      SqliteTaskStore.run_write_succeeds_iff mirrors.held, Database.progress_succeeds_iff]
    refine and_congr_right fun wellFormed => ?_
    have first : ∀ {row : TaskRow}, sqlite.database.tasks.lookup command.id = some row →
        row.lifecycle.state = .running → row.lifecycle.attempt = command.expectedAttempt →
        command.progressVersion = 0 → row.lifecycle.progress ≠ none := by
      intro row found running attempt zero absent
      exact regular ⟨zero, wellFormed, _, mirrors.record_of_row found, running, attempt, absent⟩
    constructor
    · rintro ⟨task, held, running, attempt, fresh⟩
      obtain ⟨row, found, rfl, agrees⟩ := mirrors.row_of_record held
      have current := agrees.attempt.trans attempt
      refine ⟨row, found, ?_, current, ?_, within⟩
      · rw [agrees.kind]
        exact (TaskState.kind_running_iff _).mpr running
      · exact (stale_iff agrees current (first found running attempt)).mp fresh
    · rintro ⟨row, found, kind, current, newer, _⟩
      have agrees := mirrors.rows _ _ found
      have running := (TaskState.kind_running_iff _).mp (agrees.kind.symm.trans kind)
      have attempt := agrees.attempt.symm.trans current
      exact ⟨_, mirrors.record_of_row found, running, attempt,
        (stale_iff agrees current (first found running attempt)).mpr newer⟩
  · intro first second memoryDone sqliteDone
    obtain ⟨snapshot, taken, memoryEffect⟩ := MemoryTaskStore.progress_result memoryDone
    obtain ⟨same, sameTaken, sqliteEffect⟩ := SqliteTaskStore.progress_result sqliteDone
    cases taken.symm.trans sameTaken
    exact memoryEffect.agree sqliteEffect mirrors.records

def transitionedTask (command : TransitionCommand) (task : StoredTask) : StoredTask :=
  { task with summary := transitionedSummary task.summary command }

omit [IdCodec] in
theorem MemoryState.evict_until_idle {done : MemoryState → Bool} (rounds : Nat)
    (already : done state = true) : evictUntil done rounds state = (state, true) := by
  cases rounds with
  | zero => rw [evictUntil, already]
  | succ rounds => exact if_pos already

omit [IdCodec] in
theorem MemoryTaskStore.apply_transition_tasks (store : MemoryTaskStore) (task : StoredTask)
    (room : task.summary.state.isTerminal = false → command.state.isTerminal = true →
      store.state.encodedTerminalOrder.length < store.historyCapacity) :
    (store.applyTransition task command).encodedTasks =
      store.state.encodedTasks.insert command.id (transitionedTask command task) := by
  unfold applyTransition
  split_ifs with retires
  · rw [Bool.and_eq_true, Bool.not_eq_true'] at retires
    simp only [MemoryState.retireRecord, MemoryState.trimHistory]
    rw [MemoryState.evict_until_idle]
    · rfl
    · apply decide_eq_true
      show (_ ++ [command.id]).length ≤ _
      rw [length_append]
      exact room retires.1 retires.2
  · rfl

omit [IdCodec] in
theorem MemoryTaskStore.transition_result {store : MemoryTaskStore}
    (room : ∀ task, store.getEncodedTask command.id = some task →
      task.summary.state.isTerminal = false → command.state.isTerminal = true →
        store.state.encodedTerminalOrder.length < store.historyCapacity)
    (done : (store.transitionEncoded command).2 = .ok summary) :
    Rewritten store.getEncodedTask (store.transitionEncoded command).1.getEncodedTask command.id
      (transitionedTask command) summary := by
  unfold transitionEncoded transitionEncodedBy at done ⊢
  split at done
  · cases done
  split at done
  · cases done
  split at done
  · cases done
  rename_i task held
  split at done
  · cases done
  split at done
  · cases done
  cases done
  refine ⟨task, held, rfl, ?_⟩
  intro id
  show (store.applyTransition task command).encodedTasks.lookup id = _
  rw [store.apply_transition_tasks task (room task held), Table.lookup_insert_eq]
  rfl

theorem SqliteTaskStore.transition_result
    (done : (store.transitionEncoded clock command).2 = .ok summary) :
    Rewritten store.getEncodedTask (store.transitionEncoded clock command).1.getEncodedTask
      command.id (transitionedTask command) summary := by
  unfold transitionEncoded at done ⊢
  rcases store.run_write_cases fun database =>
      database.transitionEncoded clock command store.outboxEnabled with
    ⟨error, failed, _⟩ | ⟨database, value, applied, committed⟩
  · rw [failed] at done
    cases done
  · rw [committed] at done ⊢
    cases done
    obtain ⟨row, found, _, _, rfl, revision⟩ := Database.transition_revision applied
    refine ⟨row.storedTask command.id,
      Database.get_encoded_task_eq_some.mpr ⟨row, found, rfl⟩, rfl, ?_⟩
    intro other
    split_ifs with own
    · rw [own]
      exact revision.own
    · exact revision.others other own

theorem transition_agreed (mirrors : Mirrors memory sqlite) (clock : Clock)
    (command : TransitionCommand)
    (within : WithinLimits memory sqlite.outboxEnabled (.transition clock command)) :
    Agreed memory sqlite (.transition clock command) := by
  obtain ⟨deadlines, limits⟩ := within
  have below : ∀ task, memory.getEncodedTask command.id = some task →
      task.summary.stateVersion + 1 < u64Bound :=
    fun task held => lt_u64_of_lt_i64 (limits task held).1
  refine mirrors.agreed .summary rfl rfl (fun _ => rfl) (fun _ _ agree => agree)
    (memory.transition_consistent mirrors.consistent command below) ?_ ?_ ?_
  · rintro ⟨_, _, task, held, _, full, _⟩
    exact absurd (below task held) (Nat.not_lt.mpr full)
  · show (∃ summary, (memory.transitionEncoded command).2 = .ok summary) ↔
      ∃ summary, (sqlite.transitionEncoded clock command).2 = .ok summary
    rw [MemoryTaskStore.transition_succeeds_iff, SqliteTaskStore.transitionEncoded,
      SqliteTaskStore.run_write_succeeds_iff mirrors.held]
    constructor
    · rintro ⟨diagnostics, output, task, held, checked, _⟩
      obtain ⟨row, found, rfl, agrees⟩ := mirrors.row_of_record held
      obtain ⟨column, _, fits⟩ := limits _ held
      obtain ⟨matched, open_, retry⟩ := (MemoryTaskStore.transition_check_iff _ _).mp checked
      refine (Database.transition_accepts_iff found).mpr ⟨diagnostics, output, retry, deadlines,
        ⟨agrees.version.trans matched.1, matched.2⟩, open_, column, ?_⟩
      exact Database.records_event mirrors.sound _ found rfl rfl column fits
    · intro applied
      obtain ⟨_, _, done⟩ := id applied
      obtain ⟨row, found, _⟩ := Database.transition_revision done
      obtain ⟨diagnostics, output, retry, _, matched, open_, column, _⟩ :=
        (Database.transition_accepts_iff found).mp applied
      have agrees := mirrors.rows _ _ found
      refine ⟨diagnostics, output, _, mirrors.record_of_row found, ?_, lt_u64_of_lt_i64 column⟩
      exact (MemoryTaskStore.transition_check_iff _ _).mpr
        ⟨⟨agrees.version.symm.trans matched.1, matched.2⟩, open_, retry⟩
  · intro first second memoryDone sqliteDone
    have history := fun task held => (limits task held).2.1
    exact (MemoryTaskStore.transition_result history memoryDone).agree
      (SqliteTaskStore.transition_result sqliteDone) mirrors.records

omit [IdCodec] in
theorem Mirrors.idempotent_row (mirrors : Mirrors memory sqlite) (request : StoredTaskRequest) :
    sqlite.database.idempotentRow request =
      (memory.idempotentId request).bind fun id =>
        (sqlite.database.tasks.lookup id).map fun row => (id, row) := by
  unfold Database.idempotentRow MemoryTaskStore.idempotentId
  cases request.idempotencyKey with
  | none => rfl
  | some key =>
    -- A row that carries the key is the record the index names.
    have named : ∀ entry ∈ sqlite.database.tasks.entries, entry.2.idempotencyKey = some key →
        memory.state.encodedIdempotency.lookup key = some entry.1 := by
      intro entry member carried
      have found := AList.mem_lookup_iff.mpr member
      refine (mirrors.consistent.accounts.index key entry.1).mpr
        ⟨_, mirrors.record_of_row found, ?_⟩
      exact (mirrors.rows _ _ found).idempotencyKey.symm.trans carried
    simp only [Option.bind_some]
    cases searched : sqlite.database.tasks.entries.find?
        (fun entry => decide (entry.2.idempotencyKey = some key)) with
    | some entry =>
      have member := mem_of_find?_eq_some searched
      have carried : entry.2.idempotencyKey = some key := by
        simpa using List.find?_some searched
      rw [named entry member carried]
      have found : sqlite.database.tasks.lookup entry.1 = some entry.2 :=
        AList.mem_lookup_iff.mpr member
      simp [found]
    | none =>
      cases indexed : memory.state.encodedIdempotency.lookup key with
      | none => rfl
      | some id =>
        obtain ⟨task, held, carried⟩ :=
          (mirrors.consistent.accounts.index key id).mp indexed
        obtain ⟨row, found, rfl, agrees⟩ := mirrors.row_of_record held
        have member : (⟨id, row⟩ : Sigma fun _ => TaskRow) ∈ sqlite.database.tasks.entries :=
          AList.mem_lookup_iff.mp found
        have absent := List.find?_eq_none.mp searched _ member
        exact absurd (decide_eq_true (agrees.idempotencyKey.trans carried)) absent

def replayAnswer (task : StoredTask) (request : StoredTaskRequest) :
    Except StoreError AcceptOutcome :=
  if task.request ≠ request then .error .idempotencyConflict
  else .ok { summary := task.summary, created := false }

omit [IdCodec] in
theorem MemoryTaskStore.accept_known {store : MemoryTaskStore}
    (named : request.kindId.isEmpty = false ∧ request.payload.codecId.isEmpty = false)
    (indexed : store.idempotentId request = some known)
    (held : store.getEncodedTask known = some task) :
    store.acceptEncoded clock id request = (store, replayAnswer task request) := by
  unfold acceptEncoded acceptEncodedBy replayAnswer
  simp only [named, Bool.or_self, Bool.false_eq_true, if_false, indexed, held]
  split_ifs <;> rfl

theorem SqliteTaskStore.accept_known (held : store.lockHeld = true)
    (found : store.database.idempotentRow request = some (known, row)) :
    store.acceptEncoded clock id request =
      (store, replayAnswer (row.storedTask known) request) := by
  unfold acceptEncoded runWrite replayAnswer
  rw [if_pos held]
  simp only [Database.acceptEncoded, found, ne_eq, stored_request_eq_iff, not_and_or]
  split_ifs <;> rfl

def acceptedTask (id : TaskId) (request : StoredTaskRequest) (now : Nat) : StoredTask :=
  { request := request, summary := acceptedSummary id request now }

omit [IdCodec] in
theorem MemoryTaskStore.accept_unknown {store : MemoryTaskStore} {clock : Clock} {id : TaskId}
    {request : StoredTaskRequest}
    (named : request.kindId.isEmpty = false ∧ request.payload.codecId.isEmpty = false)
    (unknown : store.idempotentId request = none) (absent : store.getEncodedTask id = none)
    (room : store.state.unfinishedRecords < store.maxUnfinishedRecords)
    (space : store.state.retainedPayloadBytes + request.payload.bytes.length ≤
      store.maxPayloadBytes) :
    store.acceptEncoded clock id request =
      (store.withState (store.state.insertAccepted id request clock.now),
        .ok { summary := acceptedSummary id request clock.now, created := true }) := by
  have minimum : ¬ store.state.retainedPayloadBytes - store.state.reclaimableBytes +
      request.payload.bytes.length > store.maxPayloadBytes := by omega
  have idle : store.state.reclaimPayload (store.maxPayloadBytes - request.payload.bytes.length)
      store.state.encodedTerminalOrder.length = (store.state, true) :=
    MemoryState.evict_until_idle _ (decide_eq_true (Nat.le_sub_of_add_le space))
  unfold acceptEncoded acceptEncodedBy acceptNew acceptNewBy
  simp only [named, Bool.or_self, Bool.false_eq_true, if_false, unknown, absent, Option.isSome_none,
    Nat.not_le.mpr room, minimum, idle, if_true]

theorem SqliteTaskStore.accept_unknown {store : SqliteTaskStore} {clock : Clock} {id : TaskId}
    {request : StoredTaskRequest} (held : store.lockHeld = true)
    (unknown : store.database.idempotentRow request = none)
    (absent : store.database.tasks.lookup id = none) (moment : clock.now < i64Bound)
    (recorded : ∃ written, (store.database.putRow id
        (Database.acceptedRow request clock.now)).recordEvent store.outboxEnabled clock.eventNow
          (acceptedSummary id request clock.now) = .ok written) :
    ∃ written, Database.Revision store.database written id (Database.acceptedRow request clock.now)
        store.outboxEnabled clock.eventNow ∧
      store.acceptEncoded clock id request = ({ store with database := written },
        .ok { summary := acceptedSummary id request clock.now, created := true }) := by
  obtain ⟨written, event⟩ := recorded
  have accepted : store.database.acceptEncoded clock id request store.outboxEnabled =
      .ok (written, { summary := acceptedSummary id request clock.now, created := true }) := by
    unfold Database.acceptEncoded
    simp only [unknown, bind_eq_ok, require_eq_ok, Database.signed_column_eq_ok]
    exact ⟨(), Option.isNone_iff_eq_none.mpr absent, _, ⟨moment, rfl⟩, written, event, rfl⟩
  refine ⟨written, Database.revision_of_recorded event, ?_⟩
  unfold acceptEncoded runWrite
  simp only [if_pos held, accepted]
  rfl

omit [IdCodec] in
theorem MemoryTaskStore.accept_duplicate {store : MemoryTaskStore}
    (named : request.kindId.isEmpty = false ∧ request.payload.codecId.isEmpty = false)
    (unknown : store.idempotentId request = none) (present : store.getEncodedTask id = some task) :
    store.acceptEncoded clock id request = (store, .error .duplicateTask) := by
  unfold acceptEncoded acceptEncodedBy
  simp only [named, Bool.or_self, Bool.false_eq_true, if_false, unknown, present,
    Option.isSome_some, if_true]

theorem SqliteTaskStore.accept_duplicate (held : store.lockHeld = true)
    (unknown : store.database.idempotentRow request = none)
    (found : store.database.tasks.lookup id = some row) :
    store.acceptEncoded clock id request = (store, .error .duplicateTask) := by
  unfold acceptEncoded runWrite
  simp only [if_pos held, Database.acceptEncoded, unknown, found]
  rfl

omit [IdCodec] in
theorem Database.Sound.key_free {database : Database} (sound : database.Sound) {id : TaskId}
    (absent : database.tasks.lookup id = none) (version : Nat) :
    ¬ Database.outboxKeyTaken database.taskEventOutbox id version := by
  rintro ⟨event, member, task, _⟩
  obtain ⟨held, lookup, _⟩ := sound.events event member
  rw [task] at lookup
  cases absent.symm.trans lookup

theorem Database.records_acceptance {database : Database} (sound : database.Sound) {id : TaskId}
    {clock : Clock} {request : StoredTaskRequest} {outboxEnabled : Bool}
    (absent : database.tasks.lookup id = none)
    (fits : outboxEnabled = true → EventFits clock (acceptedSummary id request clock.now)) :
    ∃ after, (database.putRow id (Database.acceptedRow request clock.now)).recordEvent
      outboxEnabled clock.eventNow (acceptedSummary id request clock.now) = .ok after := by
  rw [Database.record_event_accepts_iff]
  intro enabled
  obtain ⟨size, moment⟩ := fits enabled
  exact ⟨size, (show 0 < i64Bound by decide), moment, sound.key_free absent 0⟩

section

variable (mirrors : Mirrors memory sqlite)
include mirrors

theorem accept_agreed (clock : Clock) (id : TaskId) (request : StoredTaskRequest)
    (within : WithinLimits memory sqlite.outboxEnabled (.accept clock id request)) :
    Agreed memory sqlite (.accept clock id request) := by
  obtain ⟨kind, codec, moment, limits⟩ := within
  have consistent := memory.accept_consistent mirrors.consistent clock id request
  have rows := mirrors.idempotent_row request
  -- Both stores decide on the same evidence, so their answers are equal.
  suffices answered : ∃ answer, (memory.acceptEncoded clock id request).2 = answer ∧
      (sqlite.acceptEncoded clock id request).2 = answer ∧
      ∀ other, (sqlite.acceptEncoded clock id request).1.getEncodedTask other =
        (memory.acceptEncoded clock id request).1.getEncodedTask other by
    obtain ⟨answer, fromMemory, fromSqlite, records⟩ := answered
    refine ⟨?_, mirrors.after (.accept clock id request) records consistent⟩
    show (StoreAnswer.accepted (memory.acceptEncoded clock id request).2).Agree
      (.accepted (sqlite.acceptEncoded clock id request).2)
    rw [fromMemory, fromSqlite]
    exact StoreAnswer.agree_refl _
  cases indexed : memory.idempotentId request with
  | some known =>
    obtain ⟨key, _, looked⟩ := Option.bind_eq_some_iff.mp indexed
    obtain ⟨task, held, _⟩ := (mirrors.consistent.accounts.index key known).mp looked
    obtain ⟨row, found, rfl, _⟩ := mirrors.row_of_record held
    have named : sqlite.database.idempotentRow request = some (known, row) := by
      rw [rows, indexed, Option.bind_some, found]
      rfl
    rw [MemoryTaskStore.accept_known ⟨kind, codec⟩ indexed held,
      SqliteTaskStore.accept_known mirrors.held named]
    exact ⟨_, rfl, rfl, mirrors.records⟩
  | none =>
    rw [indexed, Option.bind_none] at rows
    cases present : memory.getEncodedTask id with
    | some task =>
      obtain ⟨row, found, _, _⟩ := mirrors.row_of_record present
      rw [MemoryTaskStore.accept_duplicate ⟨kind, codec⟩ indexed present,
        SqliteTaskStore.accept_duplicate mirrors.held rows found]
      exact ⟨_, rfl, rfl, mirrors.records⟩
    | none =>
      obtain ⟨room, space, fits⟩ := limits indexed present
      have absent := mirrors.no_row present
      obtain ⟨written, revision, accepted⟩ := SqliteTaskStore.accept_unknown mirrors.held rows
        absent moment (Database.records_acceptance mirrors.sound absent fits)
      rw [MemoryTaskStore.accept_unknown ⟨kind, codec⟩ indexed present room space, accepted]
      refine ⟨_, rfl, rfl, ?_⟩
      intro other
      have inserted := MemoryState.insert_accepted_lookup memory.state id other request clock.now
      refine Eq.trans ?_ inserted.symm
      split_ifs with own
      · rw [own]
        exact revision.own
      · exact (revision.others other own).trans (mirrors.records other)

omit [IdCodec] in
theorem Mirrors.summaries_perm :
    (memory.state.encodedTasks.values.map StoredTask.summary).Perm sqlite.database.summaries := by
  have rows := Table.scan_perm memory.state.encodedTasks sqlite.database.tasks
    (fun _ task => task.summary) (fun id row => row.summary id) (by
      intro id
      have shown : sqlite.database.getEncodedTask id = memory.getEncodedTask id :=
        mirrors.records id
      show (memory.getEncodedTask id).map _ = _
      rw [← shown, Database.getEncodedTask, Option.map_map]
      rfl)
  unfold Table.values Database.summaries Database.taskRows
  rw [map_map, map_map]
  exact rows

omit [IdCodec] in
theorem Mirrors.expired_ids (disabled : sqlite.outboxEnabled = false) (cutoff maxRows : Nat) :
    ((expiredSelection sqlite.database.summaries sqlite.database.pendingEvents cutoff).take
      maxRows).map TaskCursor.id = memory.expiredIds cutoff maxRows := by
  have quiet : ∀ id, sqlite.database.pendingEvents id = false := by
    intro id
    rw [Database.pendingEvents, mirrors.quiet disabled]
    rfl
  have sorted := List.Perm.eq_of_pairwise'
    (pairwise_insertionSort (fun left right : TaskCursor => left.le right = true)
      (sqlite.database.summaries.filterMap (MemoryTaskStore.expiredAt cutoff)))
    (pairwise_insertionSort (fun left right : TaskCursor => left.le right = true)
      ((memory.state.encodedTasks.values.map StoredTask.summary).filterMap
        (MemoryTaskStore.expiredAt cutoff)))
    ((perm_insertionSort _ _).trans
      ((mirrors.summaries_perm.symm.filterMap _).trans (perm_insertionSort _ _).symm))
  unfold expiredSelection MemoryTaskStore.expiredIds
  simp only [quiet, Bool.not_false, filter_true, sorted]

end

theorem prune_agreed (mirrors : Mirrors memory sqlite) (cutoff maxRows : Nat)
    (within : WithinLimits memory sqlite.outboxEnabled (.prune cutoff maxRows))
    (regular : ¬ Exceptional memory (.prune cutoff maxRows)) :
    Agreed memory sqlite (.prune cutoff maxRows) := by
  obtain ⟨representable, disabled⟩ := within
  have fits : ¬ maxRows ≥ i64Bound := regular
  obtain ⟨pruned, removed, remaining⟩ :=
    Database.prune_selects mirrors.rows representable maxRows
  rw [mirrors.expired_ids disabled] at removed remaining
  have ran : sqlite.pruneTerminalBefore cutoff maxRows =
      ({ sqlite with database := pruned }, .ok (memory.expiredIds cutoff maxRows).length) := by
    unfold SqliteTaskStore.pruneTerminalBefore SqliteTaskStore.runWrite
    rw [if_neg (Nat.not_le.mpr representable), if_neg fits]
    simp only [if_pos mirrors.held, removed]
    rfl
  refine ⟨?_, mirrors.after (.prune cutoff maxRows) ?_
    (memory.prune_consistent mirrors.consistent cutoff maxRows)⟩
  · show (StoreAnswer.pruned _).Agree (.pruned (sqlite.pruneTerminalBefore cutoff maxRows).2)
    rw [ran]
    exact StoreAnswer.agree_refl _
  · intro id
    show (sqlite.pruneTerminalBefore cutoff maxRows).1.getEncodedTask id = _
    rw [ran]
    show (pruned.tasks.lookup id).map _ = _
    rw [remaining]
    refine Eq.trans ?_ (MemoryState.remove_all_lookup (memory.expiredIds cutoff maxRows)
      memory.state id).symm
    split_ifs
    · rfl
    · exact mirrors.records id

theorem Mirrors.call_agreed (mirrors : Mirrors memory sqlite) (call : StoreCall)
    (within : WithinLimits memory sqlite.outboxEnabled call)
    (regular : ¬ Exceptional memory call) : Agreed memory sqlite call := by
  cases call with
  | accept clock id request => exact accept_agreed mirrors clock id request within
  | start clock command => exact start_agreed mirrors clock command within regular
  | transition clock command => exact transition_agreed mirrors clock command within
  | progress command => exact progress_agreed mirrors command within regular
  | prune cutoff maxRows => exact prune_agreed mirrors cutoff maxRows within regular

end Steps

end TaskService.Store
