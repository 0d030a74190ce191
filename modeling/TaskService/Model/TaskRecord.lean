import TaskService.Library.JsonText

/-!
# Task states, records, store commands and events

The lifecycle state of one retained task, the transitions the service contract permits between
states, and the byte limits that every persisted diagnostic has to meet.  Text is measured in
UTF-8 bytes, as both stores measure it.

The record a store retains for one accepted task, the commands the service sends to a store,
and the errors a store answers with.  Counters and timestamps are natural numbers; the stores
check their machine bounds where they compute with them.

A progress report is turned into a bounded snapshot before any store sees it.  The event
written beside a lifecycle revision is measured as serialized text; how the identifier crate
serializes an identifier is a parameter.
-/

namespace TaskService.Model

def maxTaskDiagnosticCategoryBytes : Nat := 128
def maxTaskDiagnosticMessageBytes : Nat := 4 * 1024
def maxTaskOutputSummaryBytes : Nat := 64 * 1024

/-- Stable task identity: a generated 64-bit identifier. -/
structure TaskId where
  value : UInt64
  deriving DecidableEq, Repr

inductive TaskStateKind where
  | queued
  | running
  | blocked
  | succeeded
  | failed
  | panicked
  | cancelled
  deriving DecidableEq, Repr

inductive TaskState where
  | queued
  | running
  | blocked (reason : String)
  | succeeded
  | failed (category message : String)
  | panicked (message : String)
  | cancelled
  deriving DecidableEq, Repr

def TaskState.kind : TaskState → TaskStateKind
  | .queued => .queued
  | .running => .running
  | .blocked _ => .blocked
  | .succeeded => .succeeded
  | .failed _ _ => .failed
  | .panicked _ => .panicked
  | .cancelled => .cancelled

def TaskState.isTerminal : TaskState → Bool
  | .succeeded | .failed _ _ | .panicked _ | .cancelled => true
  | .queued | .running | .blocked _ => false

def TaskState.allowsTransitionTo (state next : TaskState) : Bool :=
  match state with
  | .queued =>
      match next with
      | .running | .blocked _ | .cancelled => true
      | _ => false
  | .running =>
      match next with
      | .running | .queued | .blocked _ | .succeeded | .failed _ _ | .panicked _ | .cancelled =>
        true
  | .blocked _ =>
      match next with
      | .queued | .cancelled => true
      | _ => false
  | .succeeded | .failed _ _ | .panicked _ | .cancelled => false

def TaskState.validateDiagnostics : TaskState → Except String Unit
  | .blocked reason =>
      if reason.utf8ByteSize > maxTaskDiagnosticMessageBytes then
        .error "blocked reason exceeds the 4096-byte limit"
      else .ok ()
  | .failed category message =>
      if category.utf8ByteSize > maxTaskDiagnosticCategoryBytes ∨
          message.utf8ByteSize > maxTaskDiagnosticMessageBytes then
        .error "failure diagnostic exceeds its byte limit"
      else .ok ()
  | .panicked message =>
      if message.utf8ByteSize > maxTaskDiagnosticMessageBytes then
        .error "panic diagnostic exceeds the 4096-byte limit"
      else .ok ()
  | _ => .ok ()

theorem TaskState.kind_queued_iff (state : TaskState) :
    state.kind = .queued ↔ state = .queued := by
  cases state <;> simp [TaskState.kind]

theorem TaskState.kind_running_iff (state : TaskState) :
    state.kind = .running ↔ state = .running := by
  cases state <;> simp [TaskState.kind]

/-- A running record accepts every next state: the attempt decides its outcome. -/
@[simp] theorem TaskState.running_allows (next : TaskState) :
    TaskState.running.allowsTransitionTo next = true := by
  cases next <;> rfl

theorem TaskState.terminal_allows_nothing (state next : TaskState)
    (terminal : state.isTerminal = true) : state.allowsTransitionTo next = false := by
  cases state <;> simp_all [TaskState.isTerminal, TaskState.allowsTransitionTo]

/-- The payload-free result summary written when a task succeeds. -/
structure TaskOutput where
  summary : List UInt8
  deriving DecidableEq, Repr

structure TaskRunError where
  category : String
  message : String
  retryable : Bool
  deriving DecidableEq, Repr

open Library

def maxTaskProgressMetrics : Nat := 32
def maxTaskProgressSnapshotBytes : Nat := 16 * 1024

structure ProgressStageSnapshot where
  id : String
  name : String
  position : Option Nat
  total : Option Nat
  deriving DecidableEq, Repr

structure ProgressMetricSnapshot where
  id : String
  name : String
  total : Option Nat
  completed : Nat
  active : Nat
  succeeded : Nat
  failed : Nat
  cancelled : Nat
  deriving DecidableEq, Repr

structure TaskProgressSnapshot where
  attempt : Nat
  progressVersion : Nat
  stage : Option ProgressStageSnapshot
  metrics : List ProgressMetricSnapshot
  updatedAtMs : Nat
  deriving DecidableEq, Repr

/-- A progress update for one running attempt.  The stage and the metrics are
the reporter's values, field by field. -/
structure ProgressCommand where
  id : TaskId
  expectedAttempt : Nat
  progressVersion : Nat
  stage : Option ProgressStageSnapshot
  metrics : List ProgressMetricSnapshot
  updatedAtMs : Nat
  deriving DecidableEq, Repr

inductive ProgressSnapshotError where
  | tooManyMetrics (count : Nat)
  | stageIdTooLarge (bytes : Nat)
  | stageNameTooLarge (bytes : Nat)
  | tooLarge (bytes : Nat)
  deriving DecidableEq, Repr

def ProgressStageSnapshot.toJson (stage : ProgressStageSnapshot) : String :=
  jsonObject
    [("id", jsonString stage.id), ("name", jsonString stage.name),
      ("position", jsonOption jsonNat stage.position),
      ("total", jsonOption jsonNat stage.total)]

def ProgressMetricSnapshot.toJson (metric : ProgressMetricSnapshot) : String :=
  jsonObject
    [("id", jsonString metric.id), ("name", jsonString metric.name),
      ("total", jsonOption jsonNat metric.total), ("completed", jsonNat metric.completed),
      ("active", jsonNat metric.active), ("succeeded", jsonNat metric.succeeded),
      ("failed", jsonNat metric.failed), ("cancelled", jsonNat metric.cancelled)]

def TaskProgressSnapshot.toJson (snapshot : TaskProgressSnapshot) : String :=
  jsonObject
    [("attempt", jsonNat snapshot.attempt),
      ("progress_version", jsonNat snapshot.progressVersion),
      ("stage", jsonOption ProgressStageSnapshot.toJson snapshot.stage),
      ("metrics", jsonArray (snapshot.metrics.map ProgressMetricSnapshot.toJson)),
      ("updated_at_ms", jsonNat snapshot.updatedAtMs)]

def validateStage : Option ProgressStageSnapshot → Except ProgressSnapshotError Unit
  | none => .ok ()
  | some stage =>
      if stage.id.utf8ByteSize > 128 then .error (.stageIdTooLarge stage.id.utf8ByteSize)
      else if stage.name.utf8ByteSize > 256 then
        .error (.stageNameTooLarge stage.name.utf8ByteSize)
      else .ok ()

/-- Builds and validates a persistable snapshot from a progress report. -/
def TaskProgressSnapshot.fromCommand (command : ProgressCommand) :
    Except ProgressSnapshotError TaskProgressSnapshot :=
  if command.metrics.length > maxTaskProgressMetrics then
    .error (.tooManyMetrics command.metrics.length)
  else
    match validateStage command.stage with
    | .error error => .error error
    | .ok () =>
        let snapshot : TaskProgressSnapshot :=
          { attempt := command.expectedAttempt
            progressVersion := command.progressVersion
            stage := command.stage
            metrics := command.metrics
            updatedAtMs := command.updatedAtMs }
        let encoded := snapshot.toJson.utf8ByteSize
        if encoded > maxTaskProgressSnapshotBytes then .error (.tooLarge encoded)
        else .ok snapshot

theorem from_command_fields {command : ProgressCommand} {snapshot : TaskProgressSnapshot}
    (taken : TaskProgressSnapshot.fromCommand command = .ok snapshot) :
    snapshot.attempt = command.expectedAttempt ∧
      snapshot.progressVersion = command.progressVersion := by
  unfold TaskProgressSnapshot.fromCommand at taken
  split at taken
  · cases taken
  split at taken
  · cases taken
  simp only at taken
  split at taken
  · cases taken
  · cases taken
    exact ⟨rfl, rfl⟩

/-- A value of the metadata crate, told apart by its canonical JSON text.  What writing and
reading it costs is a parameter of the callers: `MetadataWire` of a request, `RequestWire`
of the database. -/
structure Metadata where
  json : String
  deriving DecidableEq, Repr

structure ResourceRequest where
  cpuSlots : Nat
  gpuCount : Nat
  memoryBytes : Option Nat
  diskBytes : Option Nat
  gpuLabels : List String
  custom : List (String × Nat)
  deriving DecidableEq, Repr

structure StoredPayload where
  typeId : String
  schemaVersion : Nat
  codecId : String
  bytes : List UInt8
  deriving DecidableEq, Repr

structure StoredTaskRequest where
  kindId : String
  category : Option String
  payload : StoredPayload
  metadata : Metadata
  resourceLimit : ResourceRequest
  correlationKey : Option String
  idempotencyKey : Option String
  deriving DecidableEq, Repr

structure TaskSummary where
  id : TaskId
  kindId : String
  category : Option String
  payloadTypeId : String
  payloadSchemaVersion : Nat
  payloadCodecId : String
  metadata : Metadata
  resourceLimit : ResourceRequest
  correlationKey : Option String
  idempotencyKey : Option String
  state : TaskState
  cancelRequested : Bool
  cancelError : Option String
  stateVersion : Nat
  attempt : Nat
  retryNotBeforeMs : Option Nat
  acceptedAtMs : Nat
  startedAtMs : Option Nat
  finishedAtMs : Option Nat
  progress : Option TaskProgressSnapshot
  output : Option TaskOutput
  deriving DecidableEq, Repr

structure StoredTask where
  request : StoredTaskRequest
  summary : TaskSummary
  deriving DecidableEq, Repr

structure StartCommand where
  id : TaskId
  expectedStateVersion : Nat
  startedAtMs : Nat
  deriving DecidableEq, Repr

structure TransitionCommand where
  id : TaskId
  expectedStateVersion : Nat
  expectedAttempt : Nat
  retryNotBeforeMs : Option Nat
  state : TaskState
  cancelRequested : Bool
  cancelError : Option String
  finishedAtMs : Option Nat
  output : Option TaskOutput
  deriving DecidableEq, Repr

structure AcceptOutcome where
  summary : TaskSummary
  created : Bool
  deriving DecidableEq, Repr

/-- Exclusive position in the acceptance order. -/
structure TaskCursor where
  acceptedAtMs : Nat
  id : TaskId
  deriving DecidableEq, Repr

def TaskCursor.ofSummary (summary : TaskSummary) : TaskCursor :=
  { acceptedAtMs := summary.acceptedAtMs, id := summary.id }

/-- Cursors are ordered by acceptance time, then by numeric identity. -/
def TaskCursor.lt (left right : TaskCursor) : Bool :=
  left.acceptedAtMs < right.acceptedAtMs ||
    (left.acceptedAtMs == right.acceptedAtMs && left.id.value < right.id.value)

def TaskCursor.le (left right : TaskCursor) : Bool :=
  left.acceptedAtMs < right.acceptedAtMs ||
    (left.acceptedAtMs == right.acceptedAtMs && left.id.value ≤ right.id.value)

theorem TaskCursor.lt_iff (left right : TaskCursor) :
    left.lt right = true ↔ left.acceptedAtMs < right.acceptedAtMs ∨
      (left.acceptedAtMs = right.acceptedAtMs ∧ left.id.value < right.id.value) := by
  simp [TaskCursor.lt]

theorem TaskCursor.le_iff (left right : TaskCursor) :
    left.le right = true ↔ left.acceptedAtMs < right.acceptedAtMs ∨
      (left.acceptedAtMs = right.acceptedAtMs ∧ left.id.value ≤ right.id.value) := by
  simp [TaskCursor.le]

instance : Std.Antisymm fun left right : TaskCursor => left.le right = true where
  antisymm := by
    rintro ⟨time, ⟨id⟩⟩ ⟨otherTime, ⟨otherId⟩⟩ forward backward
    rw [TaskCursor.le_iff] at forward backward
    dsimp only at forward backward
    rcases forward with less | ⟨same, le⟩
    · omega
    · rcases backward with less | ⟨_, ge⟩
      · omega
      · rw [same, UInt64.le_antisymm le ge]

instance : Std.Total fun left right : TaskCursor => left.le right = true where
  total := by
    intro left right
    rw [TaskCursor.le_iff, TaskCursor.le_iff]
    have ids := UInt64.le_total left.id.value right.id.value
    rcases Nat.lt_trichotomy left.acceptedAtMs right.acceptedAtMs with less | same | more
    · exact .inl (.inl less)
    · exact ids.imp (fun le => .inr ⟨same, le⟩) (fun le => .inr ⟨same.symm, le⟩)
    · exact .inr (.inl more)

instance : IsTrans TaskCursor fun left right => left.le right = true where
  trans := by
    intro first second third one two
    rw [TaskCursor.le_iff] at one two ⊢
    rcases one with less | ⟨same, le⟩
    · exact .inl (two.elim (Nat.lt_trans less) fun order => order.1 ▸ less)
    · rcases two with less | ⟨next, le'⟩
      · exact .inl (same ▸ less)
      · exact .inr ⟨same.trans next, UInt64.le_trans le le'⟩

structure TaskPage where
  records : List TaskSummary
  next : Option TaskCursor
  deriving DecidableEq, Repr

inductive StoreError where
  | unsupportedCapability
  | unsupportedDatabaseIdentity
  | ownerConflict
  | duplicateTask
  | idempotencyConflict
  | capacityExceeded (requestedBytes availableBytes : Nat)
  | unfinishedRecordLimitExceeded (limit : Nat)
  | conflict
  | invalidRequest (message : String)
  | invalidTransition
  | notFound
  | failure (message : String)
  deriving DecidableEq, Repr

/-- Display text of a store error, which a latched fault carries. -/
def StoreError.text : StoreError → String
  | .unsupportedCapability =>
      "the selected task store does not support the requested capability"
  | .unsupportedDatabaseIdentity =>
      "the SQLite database file identity cannot be verified on this platform"
  | .ownerConflict => "the SQLite database already has an active owner"
  | .duplicateTask => "task identifier already exists"
  | .idempotencyConflict => "idempotency key was reused with a different task request"
  | .capacityExceeded requestedBytes availableBytes =>
      "task payload budget exceeded: requested " ++ toString requestedBytes ++ " bytes, " ++
        toString availableBytes ++ " bytes available"
  | .unfinishedRecordLimitExceeded limit =>
      "unfinished task record limit exceeded (" ++ toString limit ++ ")"
  | .conflict => "task state changed before the requested transition"
  | .invalidRequest message => "invalid task data: " ++ message
  | .invalidTransition => "task lifecycle transition is not allowed"
  | .notFound => "task was not found"
  | .failure message => "task store failure: " ++ message

def maxTaskQueryLimit : Nat := 256

structure TaskQuery where
  states : List TaskStateKind
  category : Option String
  correlationKey : Option String
  after : Option TaskCursor
  limit : Nat
  deriving DecidableEq, Repr

def TaskQuery.checkedPageSize (query : TaskQuery) : Except StoreError Nat :=
  if query.limit > maxTaskQueryLimit then
    .error (.invalidRequest "task history page limit exceeds 256")
  else .ok (max query.limit 1)

/-- Serialized form of the identifiers of the identifier crate. -/
class IdCodec where
  idJson : TaskId → String

structure TaskEvent where
  schemaVersion : Nat
  taskId : TaskId
  stateVersion : Nat
  state : TaskState
  correlationKey : Option String
  deriving DecidableEq, Repr

def TaskEvent.fromTypedSummary (summary : TaskSummary) : TaskEvent :=
  { schemaVersion := 1
    taskId := summary.id
    stateVersion := summary.stateVersion
    state := summary.state
    correlationKey := summary.correlationKey }

/-- Externally tagged form of a lifecycle state. -/
def TaskState.toJson : TaskState → String
  | .queued => jsonString "Queued"
  | .running => jsonString "Running"
  | .blocked reason =>
      jsonObject [("Blocked", jsonObject [("reason", jsonString reason)])]
  | .succeeded => jsonString "Succeeded"
  | .failed category message =>
      jsonObject
        [("Failed",
          jsonObject [("category", jsonString category), ("message", jsonString message)])]
  | .panicked message =>
      jsonObject [("Panicked", jsonObject [("message", jsonString message)])]
  | .cancelled => jsonString "Cancelled"

def TaskEvent.toJson [IdCodec] (event : TaskEvent) : String :=
  jsonObject
    [("schema_version", jsonNat event.schemaVersion),
      ("task_id", IdCodec.idJson event.taskId),
      ("state_version", jsonNat event.stateVersion),
      ("state", event.state.toJson),
      ("correlation_key", jsonOption jsonString event.correlationKey)]

end TaskService.Model
