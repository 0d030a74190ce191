import Mathlib.Data.Prod.Lex
import TaskService.Store.MemoryTaskStore
import TaskService.Store.SqliteCalls

/-!
# Columns and lifecycle document

Every mutable field of a task is stored in a column and again in the lifecycle document.
The statements filter on columns and the answers are decoded from the document, so a
query selects what its condition says about the decoded summaries exactly as long as the
two copies agree.

Opening a file creates the tables of the current schema or upgrades a typed schema of an
earlier version in one transaction; what an upgrade adds is empty or NULL, and rows that
exist are not rewritten.
-/

namespace TaskService.Store

open Library Model

/-- A task row before the retry column was added. -/
structure TaskRowV4 where
  stateKind : TaskStateKind
  acceptedAt : Nat
  category : Option String
  correlationKey : Option String
  idempotencyKey : Option String
  requestInfo : StoredRequestInfo
  payload : List UInt8
  lifecycle : StoredTypedLifecycle
  stateVersion : Nat
  attempt : Nat
  startedAt : Option Nat
  progressAttempt : Option Nat
  progressVersion : Nat
  progressJson : Option TaskProgressSnapshot
  deriving DecidableEq, Repr

/-- `ALTER TABLE tasks ADD COLUMN retry_not_before_ms INTEGER`. -/
def TaskRowV4.addRetryColumn (row : TaskRowV4) : TaskRow :=
  { stateKind := row.stateKind
    acceptedAt := row.acceptedAt
    category := row.category
    correlationKey := row.correlationKey
    idempotencyKey := row.idempotencyKey
    requestInfo := row.requestInfo
    payload := row.payload
    lifecycle := row.lifecycle
    stateVersion := row.stateVersion
    attempt := row.attempt
    retryNotBeforeMs := none
    startedAt := row.startedAt
    progressAttempt := row.progressAttempt
    progressVersion := row.progressVersion
    progressJson := row.progressJson }

/-- A database file, by its `user_version` and the tables it has. -/
inductive SchemaFile where
  | empty
  | unversioned
  | version4 (tasks : Table TaskId TaskRowV4) (ownerEpoch : Option Nat)
  | version5 (tasks : Table TaskId TaskRow) (ownerEpoch : Option Nat)
  | version6 (tasks : Table TaskId TaskRow) (outbox : List OutboxRow) (ownerEpoch : Option Nat)
  | version7 (tasks : Table TaskId TaskRow) (outbox : List OutboxRow)
      (quarantine : List QuarantineRow) (ownerEpoch : Option Nat)
  | version8 (database : Database)
  | otherVersion (version : Int)

def initializeNextSchema : SchemaFile → Except StoreError Database
  | .empty => .ok Database.empty
  | .unversioned =>
      .error (.failure ("SQLite task database contains an unversioned legacy `tasks` table; " ++
        "explicit task ID mapping is required before opening with the typed task API"))
  | .version4 tasks ownerEpoch =>
      .ok { Database.empty with
        tasks := Table.mapRows TaskRowV4.addRetryColumn tasks
        ownerEpoch := ownerEpoch }
  | .version5 tasks ownerEpoch =>
      .ok { Database.empty with tasks := tasks, ownerEpoch := ownerEpoch }
  | .version6 tasks outbox ownerEpoch =>
      .ok { Database.empty with
        tasks := tasks
        taskEventOutbox := outbox
        ownerEpoch := ownerEpoch }
  | .version7 tasks outbox quarantine ownerEpoch =>
      .ok { Database.empty with
        tasks := tasks
        taskEventOutbox := outbox
        taskEventOutboxQuarantine := quarantine
        ownerEpoch := ownerEpoch }
  | .version8 database => .ok database
  | .otherVersion version =>
      .error (.failure ("SQLite task schema version " ++ toString version ++
        " uses the legacy UUID format; explicit task ID mapping is required before opening " ++
        "with the typed task API"))

open List
open MemoryTaskStore (readyAt pageOf expiredAt)

/-- Every column that repeats a field of the lifecycle document or of the request holds
that field. -/
structure TaskRow.Agrees (row : TaskRow) : Prop extends TaskRow.Sound row where
  acceptedAt : row.acceptedAt = row.lifecycle.acceptedAtMs
  startedAt : row.startedAt = row.lifecycle.startedAtMs
  progressJson : row.progressJson = row.lifecycle.progress
  progressAttempt : row.progressAttempt =
    row.lifecycle.progress.map TaskProgressSnapshot.attempt
  progressVersion : row.progressVersion =
    (row.lifecycle.progress.map TaskProgressSnapshot.progressVersion).getD 0
  progressOwn : ∀ snapshot, row.lifecycle.progress = some snapshot →
    snapshot.attempt = row.lifecycle.attempt
  category : row.category = row.requestInfo.category
  correlationKey : row.correlationKey = row.requestInfo.correlationKey
  idempotencyKey : row.idempotencyKey = row.requestInfo.idempotencyKey
  versionFits : row.lifecycle.stateVersion < i64Bound

def Database.RowsAgree (database : Database) : Prop :=
  ∀ id row, database.tasks.lookup id = some row → row.Agrees

section Rows

theorem accepted_row_agrees (request : StoredTaskRequest) (now : Nat) :
    (Database.acceptedRow request now).Agrees :=
  { Database.accepted_row_sound request now with
    acceptedAt := rfl
    startedAt := rfl
    progressJson := rfl
    progressAttempt := rfl
    progressVersion := rfl
    progressOwn := fun _ absent => by cases absent
    category := rfl
    correlationKey := rfl
    idempotencyKey := rfl
    versionFits := by
      show 0 < i64Bound
      decide }

variable {row : TaskRow} {store : SqliteTaskStore}

theorem started_row_agrees (agrees : row.Agrees) (command : StartCommand)
    (room : row.lifecycle.stateVersion + 1 < i64Bound) :
    (Database.startedRow row command).Agrees :=
  { Database.started_row_sound row command with
    acceptedAt := agrees.acceptedAt
    startedAt := rfl
    progressJson := rfl
    progressAttempt := rfl
    progressVersion := rfl
    progressOwn := fun _ absent => by cases absent
    category := agrees.category
    correlationKey := agrees.correlationKey
    idempotencyKey := agrees.idempotencyKey
    versionFits := room }

theorem transitioned_row_agrees (agrees : row.Agrees) (command : TransitionCommand)
    (room : row.lifecycle.stateVersion + 1 < i64Bound) :
    (Database.transitionedRow row command).Agrees :=
  { Database.transitioned_row_sound agrees.toSound command with
    acceptedAt := agrees.acceptedAt
    startedAt := agrees.startedAt
    progressJson := agrees.progressJson
    progressAttempt := agrees.progressAttempt
    progressVersion := agrees.progressVersion
    progressOwn := agrees.progressOwn
    category := agrees.category
    correlationKey := agrees.correlationKey
    idempotencyKey := agrees.idempotencyKey
    versionFits := room }

theorem progressed_row_agrees (agrees : row.Agrees) {command : ProgressCommand}
    {snapshot : TaskProgressSnapshot}
    (taken : TaskProgressSnapshot.fromCommand command = .ok snapshot)
    (attempt : row.attempt = command.expectedAttempt) :
    (Database.progressedRow row command snapshot).Agrees := by
  obtain ⟨sameAttempt, sameVersion⟩ := from_command_fields taken
  exact
    { kind := agrees.kind
      version := agrees.version
      attempt := agrees.attempt
      retry := agrees.retry
      acceptedAt := agrees.acceptedAt
      startedAt := agrees.startedAt
      progressJson := rfl
      progressAttempt := congrArg some sameAttempt.symm
      progressVersion := sameVersion.symm
      progressOwn := by
        rintro other same
        cases same
        exact sameAttempt.trans (attempt.symm.trans agrees.attempt)
      category := agrees.category
      correlationKey := agrees.correlationKey
      idempotencyKey := agrees.idempotencyKey
      versionFits := agrees.versionFits }

theorem SlotChange.agrees {call : SqliteCall} {id : TaskId} {before after : Slot}
    (change : SlotChange call id before after)
    (agrees : ∀ row, before.row = some row → row.Agrees) :
    ∀ row, after.row = some row → row.Agrees := by
  cases change with
  | kept => exact agrees
  | accepted clock request =>
    rintro row same
    cases same
    exact accepted_row_agrees request clock.now
  | started clock command old checkpoint given own queued version room counted =>
    rintro row same
    cases same
    exact started_row_agrees (agrees old rfl) command room
  | transitioned clock command old checkpoint given own output retry matched writable room =>
    rintro row same
    cases same
    exact transitioned_row_agrees (agrees old rfl) command room
  | progressed command snapshot old checkpoint given own taken running attempt newer =>
    rintro row same
    cases same
    exact progressed_row_agrees (agrees old rfl) taken attempt
  | pruned =>
    rintro row same
    cases same

theorem call_rows_agree [IdCodec] (agree : store.database.RowsAgree) (call : SqliteCall) :
    (call.run store).database.RowsAgree := by
  intro id row found
  exact (SqliteTaskStore.call_slots store call id).agrees (fun old => agree id old) row found

theorem run_rows_agree [IdCodec] {final : SqliteTaskStore} {calls : List SqliteCall}
    (agree : store.database.RowsAgree) (reached : runActions sqliteStep store calls = some final) :
    final.database.RowsAgree := by
  refine @run_preserves _ _ _ (fun store => store.database.RowsAgree) ?_ _ _ _ agree reached
  intro before call next held taken
  cases taken
  exact call_rows_agree held call

end Rows

section Selections

/-!
### The queries over decoded summaries
-/

def afterPosition (cursor : Option TaskCursor) (summary : TaskSummary) : Bool :=
  match cursor with
  | none => true
  | some position => position.lt (TaskCursor.ofSummary summary)

def inHistoryOrder (summaries : List TaskSummary) : List TaskSummary :=
  summaries.insertionSort fun left right =>
    (TaskCursor.ofSummary left).le (TaskCursor.ofSummary right) = true

def pageFrom (summaries : List TaskSummary) (limit : Nat) : TaskPage :=
  MemoryTaskStore.pageOf (summaries.take limit) (decide (summaries.length > limit))

def readySelection (summaries : List TaskSummary) (after : Option TaskCursor) (now : Nat) :
    List TaskSummary :=
  inHistoryOrder (summaries.filter fun summary =>
    MemoryTaskStore.readyAt now summary && afterPosition after summary)

def historySelection (summaries : List TaskSummary) (query : TaskQuery) : List TaskSummary :=
  inHistoryOrder (summaries.filter (MemoryTaskStore.queryMatches query))

def retrySelection (summaries : List TaskSummary) (now : Nat) : List Nat :=
  ((summaries.filter fun summary => decide (summary.state = .queued)).filterMap
    TaskSummary.retryNotBeforeMs).filter fun deadline => decide (deadline > now)

/-- Terminal tasks that finished before the cutoff and have no event pending, oldest
first. -/
def expiredSelection (summaries : List TaskSummary) (pending : TaskId → Bool) (cutoff : Nat) :
    List TaskCursor :=
  ((summaries.filter fun summary => !pending summary.id).filterMap
    (MemoryTaskStore.expiredAt cutoff)).insertionSort fun left right => left.le right = true

namespace Database

def summaries (database : Database) : List TaskSummary :=
  database.taskRows.map fun entry => entry.2.summary entry.1

def pendingEvents (database : Database) (id : TaskId) : Bool :=
  database.taskEventOutbox.any fun row => decide (row.taskId = id)

variable {row : TaskRow} {now cutoff : Nat} {page : TaskPage}

def rowPosition (entry : TaskId × TaskRow) : TaskCursor :=
  { acceptedAtMs := entry.2.acceptedAt, id := entry.1 }

theorem row_position_eq (agrees : row.Agrees) (id : TaskId) :
    rowPosition (id, row) = TaskCursor.ofSummary (row.summary id) := by
  rw [rowPosition, agrees.acceptedAt]
  rfl

theorem after_cursor_iff (position : TaskCursor) (entry : TaskId × TaskRow) :
    afterCursor (some position) entry = position.lt (rowPosition entry) := by
  rw [Bool.eq_iff_iff]
  simp only [afterCursor, TaskCursor.lt_iff, Bool.or_eq_true, Bool.and_eq_true,
    decide_eq_true_eq, padded_text_lt_iff]
  rfl

theorem position_le_eq (left right : TaskId × TaskRow) :
    positionLe left right = (rowPosition left).le (rowPosition right) := by
  rw [Bool.eq_iff_iff]
  simp only [positionLe, TaskCursor.le_iff, Bool.or_eq_true, Bool.and_eq_true,
    decide_eq_true_eq, padded_text_le_iff]
  rfl

theorem after_cursor_eq (agrees : row.Agrees) (cursor : Option TaskCursor) (id : TaskId) :
    afterCursor cursor (id, row) = afterPosition cursor (row.summary id) := by
  cases cursor with
  | none => rfl
  | some position =>
    rw [after_cursor_iff, row_position_eq agrees]
    rfl

theorem ready_row_eq (agrees : row.Agrees) (now : Nat) (id : TaskId) :
    readyRow now row = readyAt now (row.summary id) := by
  unfold readyRow readyAt
  rw [agrees.kind, agrees.retry]
  simp only [TaskState.kind_queued_iff]
  rfl

theorem query_matches_eq (agrees : row.Agrees) (query : TaskQuery) (id : TaskId) :
    queryMatches query (id, row) = MemoryTaskStore.queryMatches query (row.summary id) := by
  unfold queryMatches
  rw [after_cursor_eq agrees, agrees.category, agrees.correlationKey, agrees.kind, Bool.eq_iff_iff]
  simp only [MemoryTaskStore.queryMatches, afterPosition, TaskRow.summary, decodeSummary,
    Bool.and_eq_true]
  tauto

variable {database : Database}

theorem row_agrees (agree : database.RowsAgree) {entry : TaskId × TaskRow}
    (member : entry ∈ database.taskRows) : entry.2.Agrees :=
  agree entry.1 entry.2 ((mem_task_rows database entry).mp member)

theorem selected_summaries (agree : database.RowsAgree) (keep : TaskId × TaskRow → Bool)
    (condition : TaskSummary → Bool)
    (same : ∀ entry ∈ database.taskRows, keep entry = condition (entry.2.summary entry.1)) :
    ((database.taskRows.filter keep).insertionSort fun left right =>
      positionLe left right = true).map (fun entry => entry.2.summary entry.1) =
      inHistoryOrder (database.summaries.filter condition) := by
  have filtered : (database.taskRows.filter keep).map (fun entry => entry.2.summary entry.1) =
      database.summaries.filter condition := by
    rw [summaries, filter_map]
    congr 1
    apply filter_congr
    exact same
  rw [inHistoryOrder, ← filtered]
  apply map_insertionSort
  intro left leftMember right rightMember
  rw [position_le_eq, ← row_position_eq (row_agrees agree (mem_of_mem_filter leftMember)),
    ← row_position_eq (row_agrees agree (mem_of_mem_filter rightMember))]

theorem decode_page_eq (rows : List (TaskId × TaskRow)) (limit : Nat) :
    decodePage rows limit = pageFrom (rows.map fun entry => entry.2.summary entry.1) limit := by
  unfold decodePage pageFrom pageOf
  simp only [map_take, take_take, length_take, length_map,
    Nat.min_eq_left (Nat.le_succ limit), decide_eq_true_eq]
  have longer : min (limit + 1) rows.length > limit ↔ rows.length > limit := by omega
  simp only [longer]

theorem list_ready_selects (agree : database.RowsAgree) {after : Option TaskCursor} {limit : Nat}
    (listed : database.listReadyQueued after limit now = .ok page) :
    page = pageFrom (readySelection database.summaries after now) limit := by
  simp only [listReadyQueued, bind_eq_ok, require_eq_ok] at listed
  obtain ⟨_, _, _, _, _, _, result⟩ := listed
  cases result
  rw [decode_page_eq, readySelection, selected_summaries agree]
  intro entry member
  rw [ready_row_eq (row_agrees agree member), after_cursor_eq (row_agrees agree member)]

theorem list_encoded_selects (agree : database.RowsAgree) {query : TaskQuery}
    (listed : database.listEncoded query = .ok page) :
    ∃ size, query.checkedPageSize = .ok size ∧
      page = pageFrom (historySelection database.summaries query) size := by
  simp only [listEncoded, bind_eq_ok] at listed
  obtain ⟨size, sized, _, _, result⟩ := listed
  cases result
  refine ⟨size, sized, ?_⟩
  rw [decode_page_eq, historySelection, selected_summaries agree]
  intro entry member
  exact query_matches_eq (row_agrees agree member) query entry.1

theorem next_retry_selects (agree : database.RowsAgree) {answer : Option Nat}
    (asked : database.nextRetryDeadline now = .ok answer) :
    answer = (retrySelection database.summaries now).min? := by
  simp only [nextRetryDeadline, bind_eq_ok, require_eq_ok] at asked
  obtain ⟨_, _, result⟩ := asked
  cases result
  rw [retrySelection, summaries, filter_map, filterMap_map]
  congr 2
  have queued : database.taskRows.filter (fun entry => decide (entry.2.stateKind = .queued)) =
      database.taskRows.filter ((fun summary : TaskSummary => decide (summary.state = .queued)) ∘
        fun entry => entry.2.summary entry.1) := by
    apply filter_congr
    intro entry member
    have kind := (row_agrees agree member).kind
    simp only [Function.comp, kind, TaskState.kind_queued_iff]
    rfl
  rw [queued]
  apply filterMap_congr
  intro entry member
  exact (row_agrees agree (mem_of_mem_filter member)).retry

theorem terminal_kind_eq (state : TaskState) : terminalKind state.kind = state.isTerminal := by
  cases state <;> rfl

theorem expired_at_eq {entry : TaskId × TaskRow} (agrees : entry.2.Agrees) {cutoff : Nat}
    (representable : cutoff < i64Bound) :
    (if database.pendingEvents entry.1 then none
      else expiredAt cutoff (entry.2.summary entry.1)) =
      if database.expiredRow cutoff entry then
        some { acceptedAtMs := (finishedColumn entry.2).getD 0, id := entry.1 }
      else none := by
  have terminal : terminalKind entry.2.stateKind = entry.2.lifecycle.state.isTerminal := by
    rw [agrees.kind, terminal_kind_eq]
  have shown : (entry.2.summary entry.1).finishedAtMs = entry.2.lifecycle.finishedAtMs ∧
      (entry.2.summary entry.1).state = entry.2.lifecycle.state ∧
      (entry.2.summary entry.1).id = entry.1 := ⟨rfl, rfl, rfl⟩
  unfold expiredRow expiredAt finishedColumn
  rw [terminal, shown.1, shown.2.1, shown.2.2]
  show (if database.pendingEvents entry.1 then none else _) = if
    (_ && _ && !database.pendingEvents entry.1) = true then _ else _
  cases pending : database.pendingEvents entry.1 with
  | true => simp
  | false =>
    cases finished : entry.2.lifecycle.finishedAtMs with
    | none => simp
    | some moment =>
      have below : min moment (i64Bound - 1) < cutoff ↔ moment < cutoff := by omega
      simp only [Option.map_some, Option.getD_some, below, Bool.not_false, Bool.and_true,
        Bool.false_eq_true, if_false]
      split
      · rename_i expired
        simp only [Bool.and_eq_true, decide_eq_true_eq] at expired
        rw [Nat.min_eq_left (by omega)]
      · rfl

def finishPosition (entry : TaskId × TaskRow) : TaskCursor :=
  { acceptedAtMs := (finishedColumn entry.2).getD 0, id := entry.1 }

theorem finish_le_eq (left right : TaskId × TaskRow) :
    finishLe left right = (finishPosition left).le (finishPosition right) := by
  rw [Bool.eq_iff_iff]
  simp only [finishLe, TaskCursor.le_iff, Bool.or_eq_true, Bool.and_eq_true, decide_eq_true_eq,
    padded_text_le_iff]
  rfl

/-- Creation time, numeric identity and version of an event, in that order. -/
def outboxPosition (row : OutboxRow) : ℕ ×ₗ UInt64 ×ₗ ℕ :=
  toLex (row.createdAtMs, toLex (row.taskId.value, row.stateVersion))

theorem outbox_le_iff (left right : OutboxRow) :
    outboxLe left right = true ↔ outboxPosition left ≤ outboxPosition right := by
  have identity : left.taskId = right.taskId ↔ left.taskId.value = right.taskId.value := by
    rw [TaskId.mk.injEq]
  simp only [outboxLe, outboxPosition, Bool.or_eq_true, Bool.and_eq_true, decide_eq_true_eq,
    padded_text_lt_iff, identity, Prod.Lex.toLex_le_toLex]

/-- Padded keys are twenty digits that parse back, their bytes compare as the
identities do, and so every order the store takes over texts is the numeric one
of the cursors. -/
theorem padded_keys_order_as_numbers :
    (∀ id : TaskId, (textBytes id.toPaddedDecimal).length = 20 ∧
      (∀ byte ∈ textBytes id.toPaddedDecimal, 48 ≤ byte.toNat ∧ byte.toNat ≤ 57) ∧
      parseU64 id.toPaddedDecimal = .ok id.value) ∧
    (∀ left right : TaskId,
      compare (textBytes left.toPaddedDecimal) (textBytes right.toPaddedDecimal) =
        compare left.value right.value ∧
      textLe left.toPaddedDecimal right.toPaddedDecimal =
        (compare (textBytes left.toPaddedDecimal) (textBytes right.toPaddedDecimal)).isLE) ∧
    afterCursor = (fun cursor entry =>
      cursor.all fun position => position.lt (rowPosition entry)) ∧
    positionLe = (fun left right => (rowPosition left).le (rowPosition right)) ∧
    finishLe = (fun left right => (finishPosition left).le (finishPosition right)) ∧
    ∀ left right, outboxLe left right = true ↔ outboxPosition left ≤ outboxPosition right := by
  refine ⟨?_, ?_, ?_, ?_, ?_, outbox_le_iff⟩
  · intro id
    exact ⟨(padded_bytes id).1, (padded_bytes id).2, padded_parses id⟩
  · intro left right
    exact ⟨padded_compare left right, padded_text_le_bytes left right⟩
  · funext cursor entry
    cases cursor with
    | none => rfl
    | some position => exact after_cursor_iff position entry
  · funext left right
    exact position_le_eq left right
  · funext left right
    exact finish_le_eq left right

theorem expired_rows_positions (agree : database.RowsAgree) (representable : cutoff < i64Bound)
    (maxRows : Nat) :
    (database.expiredRows cutoff maxRows).map finishPosition =
      (expiredSelection database.summaries database.pendingEvents cutoff).take maxRows := by
  have filtered : (database.taskRows.filter (database.expiredRow cutoff)).map finishPosition =
      (database.summaries.filter fun summary => !database.pendingEvents summary.id).filterMap
        (expiredAt cutoff) := by
    rw [← filterMap_eq_map, filterMap_filter, filterMap_filter, summaries, filterMap_map]
    apply filterMap_congr
    intro entry member
    have position := @expired_at_eq database entry (row_agrees agree member) cutoff representable
    show (if database.expiredRow cutoff entry = true then some (finishPosition entry) else none) =
      if (!database.pendingEvents entry.1) = true then
        expiredAt cutoff (entry.2.summary entry.1) else none
    rw [show (if database.expiredRow cutoff entry = true then some (finishPosition entry)
      else none) = _ from position.symm]
    cases database.pendingEvents entry.1 <;> rfl
  rw [expiredRows, map_take, expiredSelection, ← filtered]
  congr 1
  apply map_insertionSort
  intro left _ right _
  rw [finish_le_eq]

theorem prune_rows_succeed (entries : List (TaskId × TaskRow)) (database : Database)
    (terminal : ∀ entry ∈ entries, entry.2.lifecycle.state.isTerminal = true ∧
      entry.2.lifecycle.stateVersion < i64Bound) :
    ∃ pruned, database.pruneTerminalRows entries = .ok pruned := by
  induction entries generalizing database with
  | nil => exact ⟨database, rfl⟩
  | cons entry rest ih =>
    obtain ⟨ended, fits⟩ := terminal entry (by simp)
    have first : ∃ middle, database.pruneRow entry = .ok middle := by
      simp only [pruneRow, bind_eq_ok, require_eq_ok]
      exact ⟨_, (), ended, (), fits, rfl⟩
    obtain ⟨middle, removed⟩ := first
    obtain ⟨pruned, remaining⟩ := ih middle
      fun other member => terminal other (mem_cons_of_mem _ member)
    refine ⟨pruned, ?_⟩
    simp only [pruneTerminalRows, bind_eq_ok]
    exact ⟨middle, removed, remaining⟩

theorem prune_selects (agree : database.RowsAgree) (representable : cutoff < i64Bound)
    (maxRows : Nat) :
    let chosen := ((expiredSelection database.summaries database.pendingEvents cutoff).take
      maxRows).map TaskCursor.id
    ∃ pruned, database.pruneTerminalBefore cutoff maxRows = .ok (pruned, chosen.length) ∧
      ∀ id, pruned.tasks.lookup id =
        if id ∈ chosen then none else database.tasks.lookup id := by
  intro chosen
  have ids : (database.expiredRows cutoff maxRows).map Prod.fst = chosen := by
    show _ = List.map TaskCursor.id (List.take maxRows _)
    rw [← expired_rows_positions agree representable maxRows, map_map]
    rfl
  obtain ⟨pruned, removed⟩ := prune_rows_succeed (database.expiredRows cutoff maxRows) database (by
      intro entry member
      obtain ⟨found, expired⟩ := mem_expired_rows member
      have agrees := agree entry.1 entry.2 found
      simp only [expiredRow, Bool.and_eq_true] at expired
      refine ⟨?_, agrees.versionFits⟩
      rw [← terminal_kind_eq, ← agrees.kind]
      exact expired.1.1)
  refine ⟨pruned, ?_, ?_⟩
  · simp only [pruneTerminalBefore, bind_eq_ok]
    refine ⟨pruned, removed, ?_⟩
    rw [← ids, length_map]
    rfl
  · intro id
    obtain ⟨outside, inside⟩ := prune_rows_slots _
      (database.expired_rows_distinct cutoff maxRows) removed id
    rw [ids] at outside
    split_ifs with listed
    · rw [← ids] at listed
      obtain ⟨entry, member, rfl⟩ := mem_map.mp listed
      exact congrArg Slot.row (inside entry.2 member).2
    · exact congrArg Slot.row (outside listed)

end Database

end Selections

section Migration

/-- Agreement of a row without retry column: its document has no retry deadline. -/
structure TaskRowV4.Agrees (row : TaskRowV4) : Prop where
  kind : row.stateKind = row.lifecycle.state.kind
  version : row.stateVersion = row.lifecycle.stateVersion
  attempt : row.attempt = row.lifecycle.attempt
  noRetry : row.lifecycle.retryNotBeforeMs = none
  acceptedAt : row.acceptedAt = row.lifecycle.acceptedAtMs
  startedAt : row.startedAt = row.lifecycle.startedAtMs
  progressJson : row.progressJson = row.lifecycle.progress
  progressAttempt : row.progressAttempt =
    row.lifecycle.progress.map TaskProgressSnapshot.attempt
  progressVersion : row.progressVersion =
    (row.lifecycle.progress.map TaskProgressSnapshot.progressVersion).getD 0
  progressOwn : ∀ snapshot, row.lifecycle.progress = some snapshot →
    snapshot.attempt = row.lifecycle.attempt
  category : row.category = row.requestInfo.category
  correlationKey : row.correlationKey = row.requestInfo.correlationKey
  idempotencyKey : row.idempotencyKey = row.requestInfo.idempotencyKey
  versionFits : row.lifecycle.stateVersion < i64Bound

theorem add_retry_column_agrees {row : TaskRowV4} (agrees : row.Agrees) :
    row.addRetryColumn.Agrees :=
  { kind := agrees.kind
    version := agrees.version
    attempt := agrees.attempt
    retry := agrees.noRetry.symm
    acceptedAt := agrees.acceptedAt
    startedAt := agrees.startedAt
    progressJson := agrees.progressJson
    progressAttempt := agrees.progressAttempt
    progressVersion := agrees.progressVersion
    progressOwn := agrees.progressOwn
    category := agrees.category
    correlationKey := agrees.correlationKey
    idempotencyKey := agrees.idempotencyKey
    versionFits := agrees.versionFits }

def SchemaFile.RowsAgree : SchemaFile → Prop
  | .empty | .unversioned | .otherVersion _ => True
  | .version4 tasks _ => ∀ id row, tasks.lookup id = some row → row.Agrees
  | .version5 tasks _ | .version6 tasks _ _ | .version7 tasks _ _ _ =>
      ∀ id row, tasks.lookup id = some row → row.Agrees
  | .version8 database => database.RowsAgree

theorem initialized_rows_agree {file : SchemaFile} {database : Database}
    (initialized : initializeNextSchema file = .ok database) (agree : file.RowsAgree) :
    database.RowsAgree := by
  cases file with
  | empty =>
    cases initialized
    intro id row found
    cases found
  | unversioned | otherVersion version => cases initialized
  | version4 =>
    cases initialized
    intro id row found
    obtain ⟨old, held, rfl⟩ := Option.map_eq_some_iff.mp ((dlookup_map₂ id).symm.trans found)
    exact add_retry_column_agrees (agree id old held)
  | version5 tasks ownerEpoch | version6 tasks outbox ownerEpoch
  | version7 | version8 =>
    cases initialized
    exact agree

end Migration

section Samples

def sampleLegacyRow : TaskRowV4 :=
  { stateKind := .queued
    acceptedAt := 5
    category := none
    correlationKey := none
    idempotencyKey := some "a"
    requestInfo := StoredRequestInfo.ofRequest (sampleStored (some "a") [1])
    payload := [1]
    lifecycle := Database.acceptedLifecycle 5
    stateVersion := 0
    attempt := 0
    startedAt := none
    progressAttempt := none
    progressVersion := 0
    progressJson := none }

def sampleLegacyFile : SchemaFile :=
  .version4 (AList.insert { value := 1 } sampleLegacyRow ∅) (some 3)

theorem sample_legacy_agrees : sampleLegacyFile.RowsAgree := by
  intro id row found
  rw [Table.lookup_insert_eq] at found
  split_ifs at found
  · cases found
    exact
      { kind := rfl
        version := rfl
        attempt := rfl
        noRetry := rfl
        acceptedAt := rfl
        startedAt := rfl
        progressJson := rfl
        progressAttempt := rfl
        progressVersion := rfl
        progressOwn := fun _ absent => by cases absent
        category := rfl
        correlationKey := rfl
        idempotencyKey := rfl
        versionFits := by decide }
  · cases found

def sampleUpgraded : List SqliteCall :=
  [.lifecycle (sampleStarting 1 0),
    .lifecycle (.progress
      { id := { value := 1 }, expectedAttempt := 1, progressVersion := 2, stage := none
        metrics := [], updatedAtMs := 8 })]

end Samples

end TaskService.Store
