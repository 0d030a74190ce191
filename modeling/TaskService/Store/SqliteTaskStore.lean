import Mathlib.Data.List.Sort
import TaskService.Library.Table
import TaskService.Model.PaddedDecimal
import TaskService.Store.TaskStore

/-!
# The SQLite task store

A database value holds the five tables, and an operation is a function of the
whole database that either returns a new database or an error.  Committing the
new database only on success is the atomicity of the SQLite transaction every
operation runs in.  JSON columns are carried as the values they decode to, and
signed integer columns as natural numbers below the signed bound.
-/

namespace TaskService.Store

open Library Model

/-- Immutable request fields, kept apart from the payload bytes. -/
structure StoredRequestInfo where
  kindId : String
  category : Option String
  payloadTypeId : String
  payloadSchemaVersion : Nat
  payloadCodecId : String
  metadata : Metadata
  resourceLimit : ResourceRequest
  correlationKey : Option String
  idempotencyKey : Option String
  deriving DecidableEq, Repr

structure StoredTypedLifecycle where
  state : TaskState
  cancelRequested : Bool
  cancelError : Option String
  stateVersion : Nat
  attempt : Nat
  retryNotBeforeMs : Option Nat
  acceptedAtMs : Nat
  startedAtMs : Option Nat
  finishedAtMs : Option Nat
  progress : Option TaskProgressSnapshot
  output : Option TaskOutput
  deriving DecidableEq, Repr

/-- The columns of `tasks` that some statement reads or that repeat a field of the
lifecycle document. -/
structure TaskRow where
  stateKind : TaskStateKind
  acceptedAt : Nat
  category : Option String
  correlationKey : Option String
  idempotencyKey : Option String
  requestInfo : StoredRequestInfo
  payload : List UInt8
  lifecycle : StoredTypedLifecycle
  stateVersion : Nat
  attempt : Nat
  retryNotBeforeMs : Option Nat
  startedAt : Option Nat
  progressAttempt : Option Nat
  progressVersion : Nat
  progressJson : Option TaskProgressSnapshot
  deriving DecidableEq, Repr

/-- What `accept_encoded` asks of its environment: the text of a request document and what the
text reads as, and SQLite's limits on the length of a bound key and of a row. -/
class RequestWire where
  toText : StoredRequestInfo → Except String String
  ofText : String → Except String StoredRequestInfo
  bindKey : String → Except String Unit
  insertRow : TaskRow → Except String Unit

structure OutboxRow where
  taskId : TaskId
  stateVersion : Nat
  eventId : String
  event : TaskEvent
  createdAtMs : Nat
  deriving DecidableEq, Repr

structure QuarantineRow where
  taskId : TaskId
  stateVersion : Nat
  eventId : String
  event : TaskEvent
  createdAtMs : Nat
  quarantinedAtMs : Nat
  reason : String
  lastError : String
  deriving DecidableEq, Repr

structure TerminalCheckpoint where
  stateVersion : Nat
  state : TaskState
  finishedAtMs : Nat
  deriving DecidableEq, Repr

structure Database where
  tasks : Table TaskId TaskRow
  taskEventOutbox : List OutboxRow
  taskEventOutboxQuarantine : List QuarantineRow
  taskTerminalCheckpoints : Table TaskId TerminalCheckpoint
  ownerEpoch : Option Nat

structure SqliteTaskStore where
  database : Database
  lockHeld : Bool
  epoch : Option Nat
  outboxEnabled : Bool

def Database.empty : Database :=
  { tasks := ∅
    taskEventOutbox := []
    taskEventOutboxQuarantine := []
    taskTerminalCheckpoints := ∅
    ownerEpoch := none }

def StoredRequestInfo.ofRequest (request : StoredTaskRequest) : StoredRequestInfo :=
  { kindId := request.kindId
    category := request.category
    payloadTypeId := request.payload.typeId
    payloadSchemaVersion := request.payload.schemaVersion
    payloadCodecId := request.payload.codecId
    metadata := request.metadata
    resourceLimit := request.resourceLimit
    correlationKey := request.correlationKey
    idempotencyKey := request.idempotencyKey }

def StoredRequestInfo.intoRequest (info : StoredRequestInfo) (payload : List UInt8) :
    StoredTaskRequest :=
  { kindId := info.kindId
    category := info.category
    payload :=
      { typeId := info.payloadTypeId
        schemaVersion := info.payloadSchemaVersion
        codecId := info.payloadCodecId
        bytes := payload }
    metadata := info.metadata
    resourceLimit := info.resourceLimit
    correlationKey := info.correlationKey
    idempotencyKey := info.idempotencyKey }

def decodeSummary (id : TaskId) (info : StoredRequestInfo) (lifecycle : StoredTypedLifecycle) :
    TaskSummary :=
  { id := id
    kindId := info.kindId
    category := info.category
    payloadTypeId := info.payloadTypeId
    payloadSchemaVersion := info.payloadSchemaVersion
    payloadCodecId := info.payloadCodecId
    metadata := info.metadata
    resourceLimit := info.resourceLimit
    correlationKey := info.correlationKey
    idempotencyKey := info.idempotencyKey
    state := lifecycle.state
    cancelRequested := lifecycle.cancelRequested
    cancelError := lifecycle.cancelError
    stateVersion := lifecycle.stateVersion
    attempt := lifecycle.attempt
    retryNotBeforeMs := lifecycle.retryNotBeforeMs
    acceptedAtMs := lifecycle.acceptedAtMs
    startedAtMs := lifecycle.startedAtMs
    finishedAtMs := lifecycle.finishedAtMs
    progress := lifecycle.progress
    output := lifecycle.output }

def TaskRow.summary (row : TaskRow) (id : TaskId) : TaskSummary :=
  decodeSummary id row.requestInfo row.lifecycle

def TaskRow.storedTask (row : TaskRow) (id : TaskId) : StoredTask :=
  { request := row.requestInfo.intoRequest row.payload, summary := row.summary id }

def OutboxRow.entry (row : OutboxRow) : EventOutboxEntry :=
  { taskId := row.taskId
    stateVersion := row.stateVersion
    eventId := row.eventId
    event := row.event }

/-- `i64::try_from` on a column value. -/
def signedColumn (value : Nat) : Except StoreError Nat :=
  if value < i64Bound then .ok value
  else .error (.failure "out of range integral type conversion attempted")

def sqliteI64FromU64 (value : Nat) (field : String) : Except StoreError Nat :=
  if value < i64Bound then .ok value
  else .error (.failure (field ++ " exceeds SQLite integer range"))

def incrementVersion (version : Nat) : Except StoreError Nat :=
  match checkedAdd u64Bound version 1 with
  | none => .error (.failure "task state version overflow")
  | some next => .ok next

def incrementAttempt (attempt : Nat) : Except StoreError Nat :=
  match checkedAdd u32Bound attempt 1 with
  | none => .error (.failure "task attempt counter overflow")
  | some next => .ok next

namespace Database

def getEncodedTask (database : Database) (id : TaskId) : Option StoredTask :=
  (database.tasks.lookup id).map fun row => row.storedTask id

def addressedRow (database : Database) (id : TaskId) : Except StoreError TaskRow :=
  match database.tasks.lookup id with
  | none => .error .notFound
  | some row => .ok row

def putRow (database : Database) (id : TaskId) (row : TaskRow) : Database :=
  { database with tasks := database.tasks.insert id row }

/-- Creation time of the next event row: never before an existing row, also
after the wall clock has been set back. -/
def nextCreatedAtMs (outbox : List OutboxRow) (now : Nat) : Nat :=
  max now ((outbox.map OutboxRow.createdAtMs).max?.getD now)

def maxEventSnapshotBytes : Nat := 128 * 1024

def eventIdText (id : TaskId) (version : Nat) : String :=
  "task:" ++ toString id.value.toNat ++ ":" ++ toString version

def outboxKeyTaken (outbox : List OutboxRow) (id : TaskId) (version : Nat) : Prop :=
  ∃ row ∈ outbox, row.taskId = id ∧ row.stateVersion = version

instance (outbox : List OutboxRow) (id : TaskId) (version : Nat) :
    Decidable (outboxKeyTaken outbox id version) :=
  inferInstanceAs (Decidable (∃ row ∈ outbox, _))

def eventRow (database : Database) (now : Nat) (summary : TaskSummary) : OutboxRow :=
  { taskId := summary.id
    stateVersion := summary.stateVersion
    eventId := eventIdText summary.id summary.stateVersion
    event := TaskEvent.fromTypedSummary summary
    createdAtMs := nextCreatedAtMs database.taskEventOutbox now }

def insertEventOutbox [IdCodec] (database : Database) (now : Nat) (summary : TaskSummary) :
    Except StoreError Database := do
  require ((TaskEvent.fromTypedSummary summary).toJson.utf8ByteSize ≤ maxEventSnapshotBytes)
    (.invalidRequest "task event snapshot exceeds 128 KiB")
  let _ ← sqliteI64FromU64 summary.stateVersion "outbox state version"
  let _ ← signedColumn now
  require (¬ outboxKeyTaken database.taskEventOutbox summary.id summary.stateVersion)
    (.failure ("UNIQUE constraint failed: task_event_outbox.task_id, " ++
      "task_event_outbox.state_version"))
  .ok { database with
    taskEventOutbox := database.taskEventOutbox ++ [database.eventRow now summary] }

/-- The event row of a lifecycle revision, written in the revision's transaction. -/
def recordEvent [IdCodec] (database : Database) (outboxEnabled : Bool) (now : Nat)
    (summary : TaskSummary) : Except StoreError Database :=
  if outboxEnabled then database.insertEventOutbox now summary else .ok database

def acceptedLifecycle (now : Nat) : StoredTypedLifecycle :=
  { state := .queued
    cancelRequested := false
    cancelError := none
    stateVersion := 0
    attempt := 0
    retryNotBeforeMs := none
    acceptedAtMs := now
    startedAtMs := none
    finishedAtMs := none
    progress := none
    output := none }

def acceptedRow (request : StoredTaskRequest) (now : Nat) : TaskRow :=
  { stateKind := .queued
    acceptedAt := now
    category := request.category
    correlationKey := request.correlationKey
    idempotencyKey := request.idempotencyKey
    requestInfo := StoredRequestInfo.ofRequest request
    payload := request.payload.bytes
    lifecycle := acceptedLifecycle now
    stateVersion := 0
    attempt := 0
    retryNotBeforeMs := none
    startedAt := none
    progressAttempt := none
    progressVersion := 0
    progressJson := none }

def idempotentRow (database : Database) (request : StoredTaskRequest) :
    Option (TaskId × TaskRow) :=
  request.idempotencyKey.bind fun key =>
    (database.tasks.entries.find? fun entry => decide (entry.2.idempotencyKey = some key)).map
      fun entry => (entry.1, entry.2)

def acceptEncoded [IdCodec] (database : Database) (clock : Clock) (id : TaskId)
    (request : StoredTaskRequest) (outboxEnabled : Bool) :
    Except StoreError (Database × AcceptOutcome) :=
  match database.idempotentRow request with
  | some (existingId, existing) =>
      if existing.requestInfo ≠ StoredRequestInfo.ofRequest request ∨
          existing.payload ≠ request.payload.bytes then
        .error .idempotencyConflict
      else .ok (database, { summary := existing.summary existingId, created := false })
  | none => do
      require ((database.tasks.lookup id).isNone) .duplicateTask
      let _ ← signedColumn clock.now
      let summary := (acceptedRow request clock.now).summary id
      let written ←
        (database.putRow id (acceptedRow request clock.now)).recordEvent outboxEnabled
          clock.eventNow summary
      .ok (written, { summary := summary, created := true })

open RequestWire in
/-- The whole of `accept_encoded`: `acceptEncoded` in an environment that may fail. -/
def acceptEncodedOn [IdCodec] [RequestWire] (database : Database) (clock : Clock) (id : TaskId)
    (request : StoredTaskRequest) (outboxEnabled : Bool) :
    Except StoreError (Database × AcceptOutcome) := do
  let text ← (toText (.ofRequest request)).mapError .failure
  (request.idempotencyKey.elim (.ok ()) bindKey).mapError .failure
  match database.idempotentRow request with
  | some (existingId, existing) =>
      -- The column of the earlier request holds the text it was accepted with.
      require (toText existing.requestInfo = .ok text ∧ existing.payload = request.payload.bytes)
        .idempotencyConflict
      let info ← (ofText text).mapError .failure
      .ok (database,
        { summary := decodeSummary existingId info existing.lifecycle, created := false })
  | none =>
      require ((database.tasks.lookup id).isNone) .duplicateTask
      let _ ← signedColumn clock.now
      (insertRow (acceptedRow request clock.now)).mapError .failure
      let info ← (ofText text).mapError .failure
      let summary := decodeSummary id info (acceptedLifecycle clock.now)
      let written ←
        (database.putRow id (acceptedRow request clock.now)).recordEvent outboxEnabled
          clock.eventNow summary
      .ok (written, { summary := summary, created := true })

def startedLifecycle (lifecycle : StoredTypedLifecycle) (command : StartCommand) :
    StoredTypedLifecycle :=
  { lifecycle with
    state := .running
    stateVersion := lifecycle.stateVersion + 1
    attempt := lifecycle.attempt + 1
    startedAtMs := some command.startedAtMs
    finishedAtMs := none
    retryNotBeforeMs := none
    progress := none }

def startedRow (row : TaskRow) (command : StartCommand) : TaskRow :=
  { row with
    stateKind := .running
    stateVersion := row.lifecycle.stateVersion + 1
    attempt := row.lifecycle.attempt + 1
    startedAt := some command.startedAtMs
    retryNotBeforeMs := none
    progressAttempt := none
    progressVersion := 0
    progressJson := none
    lifecycle := startedLifecycle row.lifecycle command }

def startEncoded [IdCodec] (database : Database) (clock : Clock) (command : StartCommand)
    (outboxEnabled : Bool) : Except StoreError (Database × TaskSummary) := do
  let row ← database.addressedRow command.id
  require (row.stateKind = .queued ∧ row.stateVersion = command.expectedStateVersion) .conflict
  let version ← incrementVersion row.lifecycle.stateVersion
  let _ ← incrementAttempt row.lifecycle.attempt
  let _ ← sqliteI64FromU64 version "task state version"
  let _ ← signedColumn command.startedAtMs
  let summary := (startedRow row command).summary command.id
  let written ←
    (database.putRow command.id (startedRow row command)).recordEvent outboxEnabled
      clock.eventNow summary
  .ok (written, summary)

/-- The compare-and-set condition on a row: the version column, and the attempt
and state of the lifecycle document. -/
def rowMatches (row : TaskRow) (command : TransitionCommand) : Prop :=
  row.stateVersion = command.expectedStateVersion ∧
    row.lifecycle.attempt = command.expectedAttempt ∧
    (row.lifecycle.state.allowsTransitionTo command.state = true ∨
      terminalCancelAnnotation row.lifecycle.state command = true)

instance (row : TaskRow) (command : TransitionCommand) : Decidable (rowMatches row command) :=
  inferInstanceAs (Decidable (_ ∧ _ ∧ _))

def transitionedLifecycle (lifecycle : StoredTypedLifecycle) (command : TransitionCommand) :
    StoredTypedLifecycle :=
  { lifecycle with
    state := command.state
    stateVersion := lifecycle.stateVersion + 1
    cancelRequested := command.cancelRequested
    cancelError := command.cancelError
    retryNotBeforeMs := command.retryNotBeforeMs
    finishedAtMs :=
      if command.state.isTerminal && command.finishedAtMs.isSome then command.finishedAtMs
      else lifecycle.finishedAtMs
    output := if command.output.isSome then command.output else lifecycle.output }

def transitionedRow (row : TaskRow) (command : TransitionCommand) : TaskRow :=
  { row with
    stateKind := command.state.kind
    stateVersion := row.lifecycle.stateVersion + 1
    lifecycle := transitionedLifecycle row.lifecycle command
    retryNotBeforeMs := command.retryNotBeforeMs }

def deadlineColumn : Option Nat → Except StoreError Unit
  | none => .ok ()
  | some deadline => do
      let _ ← signedColumn deadline
      .ok ()

def transitionEncoded [IdCodec] (database : Database) (clock : Clock)
    (command : TransitionCommand) (outboxEnabled : Bool) :
    Except StoreError (Database × TaskSummary) := do
  command.state.validateDiagnostics.mapError .invalidRequest
  validateEncodedOutput command.state command.output
  require (command.retryNotBeforeMs = none ∨ command.state = .queued)
    (.invalidRequest "retry deadline is only valid for queued tasks")
  let row ← database.addressedRow command.id
  deadlineColumn command.retryNotBeforeMs
  require (rowMatches row command) .conflict
  require (¬ (command.output.isSome = true ∧ row.lifecycle.state.isTerminal = true))
    (.invalidRequest "task output can only be written before the task becomes terminal")
  let version ← incrementVersion row.lifecycle.stateVersion
  let _ ← sqliteI64FromU64 version "task state version"
  let summary := (transitionedRow row command).summary command.id
  let written ←
    (database.putRow command.id (transitionedRow row command)).recordEvent outboxEnabled
      clock.eventNow summary
  .ok (written, summary)

def previousProgressVersion (row : TaskRow) (attempt : Nat) : Nat :=
  if row.progressAttempt = some attempt then row.progressVersion else 0

def updateProgress (database : Database) (command : ProgressCommand) :
    Except StoreError (Database × TaskSummary) := do
  let snapshot ←
    (TaskProgressSnapshot.fromCommand command).mapError fun _ =>
      StoreError.invalidRequest "task progress snapshot exceeds its configured limits"
  let row ← database.addressedRow command.id
  require (row.stateKind = .running ∧ row.attempt = command.expectedAttempt) .conflict
  require (previousProgressVersion row command.expectedAttempt < command.progressVersion) .conflict
  let _ ← signedColumn command.progressVersion
  let updated :=
    { row with
      progressAttempt := some command.expectedAttempt
      progressVersion := command.progressVersion
      progressJson := some snapshot
      lifecycle := { row.lifecycle with progress := some snapshot } }
  .ok (database.putRow command.id updated, updated.summary command.id)

/-- Order of two rows by acceptance time, then by identity text. -/
def positionLe (left right : TaskId × TaskRow) : Bool :=
  decide (left.2.acceptedAt < right.2.acceptedAt) ||
    (decide (left.2.acceptedAt = right.2.acceptedAt) &&
      textLe left.1.toPaddedDecimal right.1.toPaddedDecimal)

/-- The row-value comparison `(accepted_at, id) > (cursor)`. -/
def afterCursor (cursor : Option TaskCursor) (entry : TaskId × TaskRow) : Bool :=
  match cursor with
  | none => true
  | some position =>
      decide (position.acceptedAtMs < entry.2.acceptedAt) ||
        (decide (position.acceptedAtMs = entry.2.acceptedAt) &&
          textLt position.id.toPaddedDecimal entry.1.toPaddedDecimal)

def taskRows (database : Database) : List (TaskId × TaskRow) :=
  database.tasks.entries.map fun entry => (entry.1, entry.2)

/-- Decodes at most `limit` rows of a result fetched with one extra row. -/
def decodePage (rows : List (TaskId × TaskRow)) (limit : Nat) : TaskPage :=
  let records := (rows.take (limit + 1)).map fun entry => entry.2.summary entry.1
  let kept := records.take limit
  { records := kept
    next :=
      if records.length > limit then kept.getLast?.map TaskCursor.ofSummary else none }

def cursorColumn (cursor : Option TaskCursor) (message : String) : Except StoreError Unit :=
  match cursor with
  | none => .ok ()
  | some position => require (position.acceptedAtMs < i64Bound) (.invalidRequest message)

def queryMatches (query : TaskQuery) (entry : TaskId × TaskRow) : Bool :=
  afterCursor query.after entry &&
    (query.category.isNone || decide (entry.2.category = query.category)) &&
    (query.correlationKey.isNone || decide (entry.2.correlationKey = query.correlationKey)) &&
    (query.states.isEmpty || query.states.contains entry.2.stateKind)

def listEncoded (database : Database) (query : TaskQuery) : Except StoreError TaskPage := do
  let pageSize ← query.checkedPageSize
  cursorColumn query.after "task history cursor timestamp is too large"
  let rows :=
    (database.taskRows.filter (queryMatches query)).insertionSort fun left right =>
      positionLe left right = true
  .ok (decodePage rows pageSize)

def readyRow (now : Nat) (row : TaskRow) : Bool :=
  decide (row.stateKind = .queued) &&
    (match row.retryNotBeforeMs with
      | none => true
      | some deadline => decide (deadline ≤ now))

def listReadyQueued (database : Database) (after : Option TaskCursor) (limit now : Nat) :
    Except StoreError TaskPage := do
  require (limit ≤ maxTaskQueryLimit) (.invalidRequest "ready task page limit exceeds 256")
  require (now < i64Bound) (.invalidRequest "task timestamp is too large")
  cursorColumn after "task cursor timestamp is too large"
  let rows :=
    (database.taskRows.filter fun entry =>
      readyRow now entry.2 && afterCursor after entry).insertionSort fun left right =>
        positionLe left right = true
  .ok (decodePage rows limit)

def nextRetryDeadline (database : Database) (now : Nat) : Except StoreError (Option Nat) := do
  require (now < i64Bound) (.invalidRequest "task timestamp is too large")
  .ok ((((database.taskRows.filter fun entry => decide (entry.2.stateKind = .queued)).filterMap
    fun entry => entry.2.retryNotBeforeMs).filter fun deadline => decide (deadline > now)).min?)

def terminalKind : TaskStateKind → Bool
  | .succeeded | .failed | .panicked | .cancelled => true
  | .queued | .running | .blocked => false

/-- `CAST(json_extract(...) AS INTEGER)`: larger documents saturate. -/
def finishedColumn (row : TaskRow) : Option Nat :=
  row.lifecycle.finishedAtMs.map fun finished => min finished (i64Bound - 1)

def expiredRow (database : Database) (cutoff : Nat) (entry : TaskId × TaskRow) : Bool :=
  terminalKind entry.2.stateKind &&
    (match finishedColumn entry.2 with
      | none => false
      | some finished => decide (finished < cutoff)) &&
    !(database.taskEventOutbox.any fun row => decide (row.taskId = entry.1))

def finishLe (left right : TaskId × TaskRow) : Bool :=
  let leftAt := (finishedColumn left.2).getD 0
  let rightAt := (finishedColumn right.2).getD 0
  decide (leftAt < rightAt) ||
    (decide (leftAt = rightAt) && textLe left.1.toPaddedDecimal right.1.toPaddedDecimal)

def pruneRow (database : Database) (entry : TaskId × TaskRow) : Except StoreError Database := do
  require (entry.2.lifecycle.state.isTerminal = true)
    (.failure "terminal task has a nonterminal lifecycle state")
  require (entry.2.lifecycle.stateVersion < i64Bound)
    (.failure "task lifecycle has an invalid state version")
  .ok { database with
    taskTerminalCheckpoints :=
      database.taskTerminalCheckpoints.insert entry.1
        { stateVersion := entry.2.lifecycle.stateVersion
          state := entry.2.lifecycle.state
          finishedAtMs := (finishedColumn entry.2).getD 0 }
    tasks := database.tasks.erase entry.1 }

def pruneTerminalRows (database : Database) :
    List (TaskId × TaskRow) → Except StoreError Database
  | [] => .ok database
  | entry :: rest => do
      let pruned ← database.pruneRow entry
      pruneTerminalRows pruned rest

def pruneTerminalBefore (database : Database) (cutoff maxRows : Nat) :
    Except StoreError (Database × Nat) := do
  let rows :=
    ((database.taskRows.filter (database.expiredRow cutoff)).insertionSort fun left right =>
      finishLe left right = true).take maxRows
  let pruned ← database.pruneTerminalRows rows
  .ok (pruned, rows.length)

/-- Publication order: creation time, then identity text, then version. -/
def outboxLe (left right : OutboxRow) : Bool :=
  decide (left.createdAtMs < right.createdAtMs) ||
    (decide (left.createdAtMs = right.createdAtMs) &&
      (textLt left.taskId.toPaddedDecimal right.taskId.toPaddedDecimal ||
        (decide (left.taskId = right.taskId) &&
          decide (left.stateVersion ≤ right.stateVersion))))

def orderedOutbox (database : Database) : List OutboxRow :=
  database.taskEventOutbox.insertionSort fun left right => outboxLe left right = true

def listOutbox (database : Database) (limit : Nat) : Except StoreError (List EventOutboxEntry) := do
  require (1 ≤ limit ∧ limit ≤ 256) (.invalidRequest "outbox page limit must be 1..=256")
  .ok ((database.orderedOutbox.take limit).map OutboxRow.entry)

def markOutboxPublished (database : Database) (id : TaskId) (version : Nat) :
    Except StoreError (Database × Unit) := do
  let _ ← sqliteI64FromU64 version "outbox state version"
  .ok ({ database with
    taskEventOutbox :=
      database.taskEventOutbox.filter fun row =>
        decide (¬ (row.taskId = id ∧ row.stateVersion = version)) }, ())

/-- Code points that trimming removes. -/
def whitespaceCode (code : Nat) : Bool :=
  decide (9 ≤ code ∧ code ≤ 13) || code == 32 || code == 133 || code == 160 || code == 5760 ||
    decide (8192 ≤ code ∧ code ≤ 8202) || code == 8232 || code == 8233 || code == 8239 ||
    code == 8287 || code == 12288

def isBlank (text : String) : Bool :=
  text.toList.all fun character => whitespaceCode character.toNat

def quarantineKeyTaken (archive : List QuarantineRow) (id : TaskId) (version : Nat) : Prop :=
  ∃ row ∈ archive, row.taskId = id ∧ row.stateVersion = version

instance (archive : List QuarantineRow) (id : TaskId) (version : Nat) :
    Decidable (quarantineKeyTaken archive id version) :=
  inferInstanceAs (Decidable (∃ row ∈ archive, _))

def quarantinedRow (row : OutboxRow) (command : QuarantineCommand) (now : Nat) : QuarantineRow :=
  { taskId := row.taskId
    stateVersion := row.stateVersion
    eventId := row.eventId
    event := row.event
    createdAtMs := row.createdAtMs
    quarantinedAtMs := now
    reason := command.reason
    lastError := command.lastError }

/-- The head of the publication order, when it is the row the command names. -/
def expectedHead (database : Database) (command : QuarantineCommand) :
    Except StoreError OutboxRow :=
  match database.orderedOutbox.head? with
  | none => .error .conflict
  | some head =>
      if head.taskId = command.taskId ∧ head.stateVersion = command.stateVersion ∧
          head.eventId = command.eventId then
        .ok head
      else .error .conflict

def quarantineOutboxHead (database : Database) (clock : Clock) (command : QuarantineCommand) :
    Except StoreError (Database × Unit) := do
  require (isBlank command.reason = false ∧ command.reason.utf8ByteSize ≤ 4096)
    (.invalidRequest "outbox quarantine reason must be nonblank and at most 4096 bytes")
  let head ← database.expectedHead command
  let now ← signedColumn clock.now
  require (¬ quarantineKeyTaken database.taskEventOutboxQuarantine head.taskId head.stateVersion)
    (.failure ("UNIQUE constraint failed: task_event_outbox_quarantine.task_id, " ++
      "task_event_outbox_quarantine.state_version"))
  .ok ({ database with
    taskEventOutboxQuarantine :=
      database.taskEventOutboxQuarantine ++ [quarantinedRow head command now]
    taskEventOutbox :=
      database.taskEventOutbox.filter fun row =>
        decide (¬ (row.taskId = head.taskId ∧ row.stateVersion = head.stateVersion ∧
          row.eventId = head.eventId)) }, ())

end Database

namespace SqliteTaskStore

/-- A freshly opened store: the file lock is held, no service owns it yet. -/
def opened (database : Database) : SqliteTaskStore :=
  { database := database, lockHeld := true, epoch := none, outboxEnabled := false }

def commit {α : Type} (store : SqliteTaskStore) (result : Except StoreError (Database × α)) :
    SqliteTaskStore × Except StoreError α :=
  match result with
  | .error error => (store, .error error)
  | .ok (database, value) => ({ store with database := database }, .ok value)

def runWrite {α : Type} (store : SqliteTaskStore)
    (operation : Database → Except StoreError (Database × α)) :
    SqliteTaskStore × Except StoreError α :=
  if store.lockHeld then store.commit (operation store.database)
  else (store, .error (.failure "SQLite task store has no active owner"))

def runOutbox {α : Type} (store : SqliteTaskStore)
    (operation : Database → Except StoreError (Database × α)) :
    SqliteTaskStore × Except StoreError α :=
  if store.epoch.isSome && store.lockHeld then store.commit (operation store.database)
  else (store, .error .ownerConflict)

def getEncodedTask (store : SqliteTaskStore) (id : TaskId) : Option StoredTask :=
  store.database.getEncodedTask id

def acceptEncoded [IdCodec] (store : SqliteTaskStore) (clock : Clock) (id : TaskId)
    (request : StoredTaskRequest) : SqliteTaskStore × Except StoreError AcceptOutcome :=
  store.runWrite fun database => database.acceptEncoded clock id request store.outboxEnabled

def acceptEncodedOn [IdCodec] [RequestWire] (store : SqliteTaskStore) (clock : Clock)
    (id : TaskId) (request : StoredTaskRequest) :
    SqliteTaskStore × Except StoreError AcceptOutcome :=
  store.runWrite fun database => database.acceptEncodedOn clock id request store.outboxEnabled

def startEncoded [IdCodec] (store : SqliteTaskStore) (clock : Clock) (command : StartCommand) :
    SqliteTaskStore × Except StoreError TaskSummary :=
  store.runWrite fun database => database.startEncoded clock command store.outboxEnabled

def transitionEncoded [IdCodec] (store : SqliteTaskStore) (clock : Clock)
    (command : TransitionCommand) : SqliteTaskStore × Except StoreError TaskSummary :=
  store.runWrite fun database => database.transitionEncoded clock command store.outboxEnabled

def updateProgress (store : SqliteTaskStore) (command : ProgressCommand) :
    SqliteTaskStore × Except StoreError TaskSummary :=
  store.runWrite fun database => database.updateProgress command

def pruneTerminalBefore (store : SqliteTaskStore) (cutoff maxRows : Nat) :
    SqliteTaskStore × Except StoreError Nat :=
  if cutoff ≥ i64Bound then
    (store, .error (.invalidRequest "task finish cutoff exceeds the SQLite integer range"))
  else if maxRows ≥ i64Bound then
    (store, .error (.invalidRequest "task history prune limit exceeds the SQLite integer range"))
  else store.runWrite fun database => database.pruneTerminalBefore cutoff maxRows

def enableOutbox (store : SqliteTaskStore) : SqliteTaskStore × Except StoreError Unit :=
  if store.epoch.isSome && store.lockHeld then ({ store with outboxEnabled := true }, .ok ())
  else (store, .error .ownerConflict)

def listOutbox (store : SqliteTaskStore) (limit : Nat) :
    Except StoreError (List EventOutboxEntry) :=
  if store.epoch.isSome && store.lockHeld then store.database.listOutbox limit
  else .error .ownerConflict

def markOutboxPublished (store : SqliteTaskStore) (id : TaskId) (version : Nat) :
    SqliteTaskStore × Except StoreError Unit :=
  store.runOutbox fun database => database.markOutboxPublished id version

def quarantineOutboxHead (store : SqliteTaskStore) (clock : Clock)
    (command : QuarantineCommand) : SqliteTaskStore × Except StoreError Unit :=
  store.runOutbox fun database => database.quarantineOutboxHead clock command

/-- `lock` is the outcome of locking the database's lock file again, which is
tried only when the store does not hold the lock. -/
def acquireOwner (store : SqliteTaskStore) (lock : Except StoreError Unit) :
    SqliteTaskStore × Except StoreError Nat :=
  if store.epoch.isSome then (store, .error .ownerConflict)
  else
    match (if store.lockHeld then .ok () else lock) with
    | .error error => (store, .error error)
    | .ok () =>
        let epoch := store.database.ownerEpoch.getD 0 + 1
        ({ store with
            database := { store.database with ownerEpoch := some epoch }
            lockHeld := true
            epoch := some epoch },
          .ok epoch)

/-- `unlock` is the outcome of unlocking the file, which is tried after the
ownership has been given up. -/
def releaseOwner (store : SqliteTaskStore) (epoch : Nat) (unlock : Except StoreError Unit) :
    SqliteTaskStore × Except StoreError Unit :=
  if store.epoch ≠ some epoch then (store, .error .ownerConflict)
  else if store.lockHeld = false then (store, .error .ownerConflict)
  else ({ store with lockHeld := false, epoch := none, outboxEnabled := false }, unlock)

end SqliteTaskStore

instance [IdCodec] : TaskStore SqliteTaskStore where
  getEncodedTask := SqliteTaskStore.getEncodedTask
  acceptEncoded := SqliteTaskStore.acceptEncoded
  startEncoded := SqliteTaskStore.startEncoded
  transitionEncoded := SqliteTaskStore.transitionEncoded
  updateProgress := SqliteTaskStore.updateProgress
  listEncoded store := store.database.listEncoded
  listReadyQueued store := store.database.listReadyQueued
  nextRetryDeadline store := store.database.nextRetryDeadline
  pruneTerminalBefore := SqliteTaskStore.pruneTerminalBefore
  listEventOutbox := SqliteTaskStore.listOutbox
  markEventPublished := SqliteTaskStore.markOutboxPublished
  quarantineEventOutboxHead := SqliteTaskStore.quarantineOutboxHead

/-- The SQLite store in an environment that may fail to write or read a request document. -/
def WiredSqliteTaskStore : Type := SqliteTaskStore

instance [IdCodec] [RequestWire] : TaskStore WiredSqliteTaskStore :=
  let inner : TaskStore SqliteTaskStore := inferInstance
  show TaskStore SqliteTaskStore from
    { inner with acceptEncoded := SqliteTaskStore.acceptEncodedOn }

section Samples

/-- Identifiers as JSON strings of decimal digits, for sample runs. -/
@[reducible]
def sampleIdCodec : IdCodec :=
  { idJson := fun id => jsonString (toString id.value) }

def SqliteTaskStore.sample : SqliteTaskStore :=
  ((SqliteTaskStore.opened Database.empty).acquireOwner (.ok ())).1

end Samples

end TaskService.Store
