import TaskService.Library.Table
import TaskService.Model.RetryPolicy
import TaskService.Store.TaskStore

/-!
# The service: handlers, shared state and threads

The registry maps a handler kind to its registration; preparation checks the
payload identity, schema version and codec before the payload is decoded.  The
codecs themselves live outside the repository: a codec is a function from bytes
to the outcome of decoding them.

The core holds what the service's threads share: the store, the two
cancellation maps, the fault latch, the in-flight counter, the admission lock
and the shutdown flags.  Reference-counted cells are positions in an arena.  The
trace records, newest first, what an observer of the service can see; no step
reads it.

Every asynchronous activity is a thread with a program counter.  A counter
names the next access to shared state: a store call, a lock, an atomic flag, or
the completion of application code.  What the source computes between two such
accesses happens in one step.
-/

namespace TaskService.Service

open Library Model Store

inductive CancellationMode where
  | unsupported
  | cooperative
  | externalHook
  deriving DecidableEq, Repr

structure TaskHandlerDescriptor where
  payloadTypeId : String
  acceptedSchemaVersions : List Nat
  cancellationMode : CancellationMode
  deriving DecidableEq, Repr

/-- A registered handler.  Registration rejects a hook without the external
mode and the external mode without a hook. -/
structure Registration where
  descriptor : TaskHandlerDescriptor
  inputType : String
  externalCancellationHook : Bool
  hookMatchesMode : externalCancellationHook = decide (descriptor.cancellationMode = .externalHook)

/-- Outcome of decoding payload bytes: a value of some Rust type, a codec
error, or a panic of the codec. -/
inductive CodecOutcome where
  | decoded (inputType : String)
  | failed (message : String)
  | panicked
  deriving DecidableEq, Repr

structure Handlers where
  registration : String → Option Registration
  codec : String → Option (List UInt8 → CodecOutcome)

def Handlers.descriptor (handlers : Handlers) (kindId : String) : Option TaskHandlerDescriptor :=
  (handlers.registration kindId).map Registration.descriptor

inductive HandlerDispatchError where
  | missingHandler (kindId : String)
  | payloadTypeMismatch (expected actual : String)
  | unsupportedSchemaVersion (version : Nat)
  | missingCodec (codecId : String)
  | decodedValueTypeMismatch (expected actual : String)
  | codec (message : String)
  deriving DecidableEq, Repr

def HandlerDispatchError.text : HandlerDispatchError → String
  | .missingHandler kindId => "no handler is registered for kind_id `" ++ kindId ++ "`"
  | .payloadTypeMismatch expected actual =>
      "payload type_id `" ++ actual ++ "` does not match handler type_id `" ++ expected ++ "`"
  | .unsupportedSchemaVersion version =>
      "payload schema version " ++ toString version ++ " is not accepted by this handler"
  | .missingCodec codecId => "no bytes codec is registered for `" ++ codecId ++ "`"
  | .decodedValueTypeMismatch expected actual =>
      "codec decoded Rust type " ++ actual ++ "; handler expects " ++ expected
  | .codec message => "payload bytes codec failed: " ++ message

inductive Preparation where
  | prepared
  | rejected (error : HandlerDispatchError)
  | panicked
  deriving DecidableEq, Repr

/-- Decoding with a registered codec, and the downcast to the handler's input. -/
def Registration.decode (registration : Registration) (codec : List UInt8 → CodecOutcome)
    (bytes : List UInt8) : Preparation :=
  match codec bytes with
  | .panicked => .panicked
  | .failed message => .rejected (.codec message)
  | .decoded inputType =>
      if inputType = registration.inputType then .prepared
      else .rejected (.decodedValueTypeMismatch registration.inputType inputType)

def Handlers.prepare (handlers : Handlers) (kindId : String) (payload : StoredPayload) :
    Preparation :=
  match handlers.registration kindId with
  | none => .rejected (.missingHandler kindId)
  | some registration =>
      if payload.typeId ≠ registration.descriptor.payloadTypeId then
        .rejected (.payloadTypeMismatch registration.descriptor.payloadTypeId payload.typeId)
      else if payload.schemaVersion ∉ registration.descriptor.acceptedSchemaVersions then
        .rejected (.unsupportedSchemaVersion payload.schemaVersion)
      else
        match handlers.codec payload.codecId with
        | none => .rejected (.missingCodec payload.codecId)
        | some codec => registration.decode codec payload.bytes

/-- Why the scheduler blocks a queued record instead of dispatching it. -/
def Handlers.dispatchProblem (handlers : Handlers) (summary : TaskSummary) : Option String :=
  match handlers.descriptor summary.kindId with
  | none => some "handler is not registered"
  | some descriptor =>
      if summary.payloadTypeId ≠ descriptor.payloadTypeId ∨
          summary.payloadSchemaVersion ∉ descriptor.acceptedSchemaVersions then
        some "handler does not accept the payload identity or schema version"
      else if (handlers.codec summary.payloadCodecId).isNone then
        some "payload bytes codec is not registered"
      else none

inductive TaskRunOutcome where
  | succeeded (output : TaskOutput)
  | cancelled
  deriving DecidableEq, Repr

/-- How a handler run ends: it returns a result, or it panics. -/
inductive HandlerExecution where
  | returned (result : Except TaskRunError TaskRunOutcome)
  | panicked

structure Config where
  handlers : Handlers
  maxRunningTasks : Nat
  scanPageSize : Nat
  maxResourceBypasses : Nat
  maxAttempts : Nat
  retryPolicy : RetryPolicy
  publisherConfigured : Bool

inductive CancelOutcome where
  | cancelledBeforeStart
  | cancellationRequested
  | alreadyTerminal
  | cancellationUnsupported
  deriving DecidableEq, Repr

inductive TaskServiceError where
  | idGeneration (message : String)
  | typedRequest (message : String)
  | store (error : StoreError)
  | submissionCapacityExceeded (requestedBytes availableBytes : Nat)
  | unfinishedTaskLimitExceeded (limit : Nat)
  | idempotencyConflict
  | duplicateTaskId
  | notBlocked (actual : TaskStateKind)
  | cancellationPending
  | shuttingDown
  | storeUnavailable (message : String)
  | externalCancellationFailed (taskId : TaskId) (attempt : Nat) (message : String)
  | cancellationUnsupported
  | invalidRequest (message : String)
  | notificationClose (message : String)
  deriving DecidableEq, Repr

inductive ExternalCancelResult where
  | success
  | alreadyTerminal
  | hookFailed (message : String)
  | serviceFailed (message : String)
  deriving DecidableEq, Repr

/-- The shared result cell of one hook-driven cancellation, with the task and
attempt it was created for. -/
structure Flight where
  owner : TaskId × Nat
  result : Option ExternalCancelResult
  deriving DecidableEq, Repr

/-- A cancellation that is being driven by a hook, or one whose hook succeeded. -/
inductive ExternalCancelEntry where
  | inFlight (flight : Nat)
  | succeeded
  deriving DecidableEq, Repr

structure NotificationFailure where
  taskId : TaskId
  stateVersion : Nat
  eventId : String
  error : String
  deriving DecidableEq, Repr

/-- An operator's request to archive the event the publisher fails on. -/
structure QuarantineRequest where
  taskId : TaskId
  stateVersion : Nat
  eventId : String
  reason : String
  deriving DecidableEq, Repr

inductive WriteKind where
  | accept
  | start
  | transition
  | outbox
  deriving DecidableEq, Repr

inductive Event where
  | issued (kind : WriteKind)
  | started (id : TaskId) (attempt : Nat)
  | cancelReturned (id : TaskId) (outcome : CancelOutcome)
  | releaseIssued
  | restarted
  deriving DecidableEq, Repr

structure Core (σ : Type) where
  store : σ
  cancellations : Table (TaskId × Nat) Nat
  flags : List Bool
  externalCancellations : Table (TaskId × Nat) ExternalCancelEntry
  flights : List Flight
  fault : Option String
  inFlight : Nat
  ready : Bool
  shuttingDown : Bool
  schedulerStopped : Bool
  ownerReleased : Bool
  publicGone : Bool
  retryRequested : Bool
  admissionReaders : Nat
  admissionWriter : Bool
  publisherClosing : Bool
  publisherAborted : Bool
  publisherExited : Bool
  controls : List QuarantineRequest
  failure : Option NotificationFailure
  knownIds : List TaskId
  trace : List Event

/-- What the environment decides in one step: clock readings, an operational
failure of the step's store call, and the outcomes of application code. -/
structure Input where
  clock : Clock := { now := 0, eventNow := 0 }
  now : Nat := 0
  later : Nat := 0
  storeFailure : Option String := none
  generated : Except String TaskId := .error "no identifier"
  reservation : Except String Bool := .ok true
  execution : HandlerExecution := .panicked
  hook : Except String Unit := .ok ()
  publication : Except String Unit := .ok ()
  release : Except String Unit := .ok ()
  interrupted : Bool := false

def Core.boot {σ : Type} (store : σ) (knownIds : List TaskId) (trace : List Event) : Core σ :=
  { store := store
    cancellations := ∅
    flags := []
    externalCancellations := ∅
    flights := []
    fault := none
    inFlight := 0
    ready := false
    shuttingDown := false
    schedulerStopped := false
    ownerReleased := false
    publicGone := false
    retryRequested := false
    admissionReaders := 0
    admissionWriter := false
    publisherClosing := false
    publisherAborted := false
    publisherExited := false
    controls := []
    failure := none
    knownIds := knownIds
    trace := trace }

namespace Core

variable {σ : Type}

def record (core : Core σ) (event : Event) : Core σ :=
  { core with trace := event :: core.trace }

/-- Keeps the first fault and asks the service to shut down. -/
def latchFault (core : Core σ) (message : String) : Core σ :=
  { core with
    fault := if core.fault.isNone then some message else core.fault
    shuttingDown := true }

/-- Lost races and missing records are the caller's problem; any other store
error stops the service. -/
def storeResult (core : Core σ) (error : StoreError) : Core σ :=
  if error = .conflict ∨ error = .notFound then core else core.latchFault error.text

def enterAdmission (core : Core σ) : Core σ :=
  { core with admissionReaders := core.admissionReaders + 1 }

def leaveAdmission (core : Core σ) : Core σ :=
  { core with admissionReaders := core.admissionReaders - 1 }

def setFlag (core : Core σ) (flag : Nat) : Core σ :=
  { core with flags := core.flags.set flag true }

variable [TaskStore σ]

def callGet (core : Core σ) (input : Input) (id : TaskId) :
    Except StoreError (Option StoredTask) :=
  match input.storeFailure with
  | some message => .error (.failure message)
  | none => .ok (TaskStore.getEncodedTask core.store id)

/-- A lost compare-and-set has to be explained by another revision of the record. -/
def checkCompetingTransition (core : Core σ) (input : Input) (id : TaskId)
    (expectedVersion : Nat) : Core σ :=
  match core.callGet input id with
  | .error error => core.latchFault error.text
  | .ok none => core.latchFault "task disappeared after lifecycle compare-and-set conflict"
  | .ok (some task) =>
      if task.summary.stateVersion ≠ expectedVersion then core
      else
        core.latchFault "task lifecycle compare-and-set conflicted without a competing revision"

theorem check_competing_cases (core : Core σ) (input : Input) (id : TaskId)
    (expectedVersion : Nat) :
    core.checkCompetingTransition input id expectedVersion = core ∨
      ∃ message,
        core.checkCompetingTransition input id expectedVersion = core.latchFault message := by
  unfold checkCompetingTransition
  split
  · exact .inr ⟨_, rfl⟩
  · exact .inr ⟨_, rfl⟩
  · split
    · exact .inl rfl
    · exact .inr ⟨_, rfl⟩

/-- One write call: it is issued, and unless it fails operationally it runs. -/
def callWrite {α : Type} (core : Core σ) (input : Input) (kind : WriteKind)
    (operation : σ → σ × Except StoreError α) : Core σ × Except StoreError α :=
  match input.storeFailure with
  | some message => (core.record (.issued kind), .error (.failure message))
  | none =>
      ({ core with store := (operation core.store).1 }.record (.issued kind),
        (operation core.store).2)

def callTransition (core : Core σ) (input : Input) (command : TransitionCommand) :
    Core σ × Except StoreError TaskSummary :=
  core.callWrite input .transition fun store =>
    TaskStore.transitionEncoded store input.clock command

def callStart (core : Core σ) (input : Input) (command : StartCommand) :
    Core σ × Except StoreError TaskSummary :=
  core.callWrite input .start fun store => TaskStore.startEncoded store input.clock command

def callAccept (core : Core σ) (input : Input) (id : TaskId) (request : StoredTaskRequest) :
    Core σ × Except StoreError AcceptOutcome :=
  core.callWrite input .accept fun store => TaskStore.acceptEncoded store input.clock id request

def callRead {α : Type} (core : Core σ) (input : Input) (query : σ → Except StoreError α) :
    Except StoreError α :=
  match input.storeFailure with
  | some message => .error (.failure message)
  | none => query core.store

end Core

inductive SubmitPc where
  | admission
  | checkFault
  | checkShutdown
  | generate (stored : StoredTaskRequest)
  | accept (id : TaskId) (stored : StoredTaskRequest)
  | returned (result : Except TaskServiceError TaskSummary)

/-- A `submit` call; the typed request is given by the outcome of encoding it. -/
structure SubmitCall where
  encoded : Except String StoredTaskRequest
  pc : SubmitPc

inductive CancelPc where
  | admission
  | checkFault
  | checkShutdown
  | checkOwner
  | load
  | cancelBeforeStart (summary : TaskSummary)
  | requestCancel (summary : TaskSummary)
  | signal (attempt : Nat)
  | joinHook (summary : TaskSummary)
  | spawnHook (summary : TaskSummary) (flight : Nat)
  | dropAdmission (attempt flight : Nat)
  | waitHook (attempt flight : Nat)
  | returned (result : Except TaskServiceError CancelOutcome)

structure CancelCall where
  id : TaskId
  pc : CancelPc

inductive ResumePc where
  | admission
  | checkFault
  | checkShutdown
  | checkOwner
  | load
  | requeue (summary : TaskSummary)
  | returned (result : Except TaskServiceError TaskSummary)

structure ResumeCall where
  id : TaskId
  expectedStateVersion : Nat
  pc : ResumePc

structure Completion where
  state : TaskState
  output : Option TaskOutput
  retryable : Bool
  deriving DecidableEq

inductive RunPc where
  | load
  | register
  | recheck (flag : Nat)
  | setFlag (flag : Nat)
  | running (flag : Nat)
  | unregister (completion : Completion)
  | finishRead (completion : Completion)
  | finishWrite (completion : Completion) (latest : TaskSummary)
  | clearEntry (completion : Completion)
  | checkCompeting (completion : Completion) (expectedVersion : Nat)
  | exit (finished : Option Completion)
  | done (finished : Option Completion)

structure RunTask where
  started : TaskSummary
  pc : RunPc

inductive HookPc where
  | load
  | persist (summary : TaskSummary)
  | invoke
  | awaitHook
  | reload
  | clearError (summary : TaskSummary)
  | failLoad (message : String)
  | failRecord (message : String) (summary : TaskSummary)
  | conclude (result : ExternalCancelResult)
  | publish (result : ExternalCancelResult)
  | exit
  | done

structure HookTask where
  id : TaskId
  attempt : Nat
  kindId : String
  flight : Nat
  pc : HookPc

structure ResourceFairness where
  anchor : Option (TaskId × Nat)
  bypasses : Nat
  deriving DecidableEq, Repr

structure Scan where
  fairness : ResourceFairness
  now : Nat
  after : Option TaskCursor
  sawAnchor : Bool
  rest : List TaskSummary
  next : Option TaskCursor

inductive SchedulerPc where
  | idle
  | top (fairness : ResourceFairness)
  | topFault (fairness : ResourceFairness)
  | topSlots (fairness : ResourceFairness)
  | scanShutdown (scan : Scan)
  | scanFault (scan : Scan)
  | scanSlots (scan : Scan)
  | list (scan : Scan)
  | entryShutdown (scan : Scan)
  | entrySlots (scan : Scan)
  | dispatch (scan : Scan)
  | markBlocked (scan : Scan) (summary : TaskSummary) (reason : String)
  | competing (scan : Scan) (summary : TaskSummary)
  | admission (scan : Scan) (summary : TaskSummary)
  | admitted (scan : Scan) (summary : TaskSummary)
  | start (scan : Scan) (summary : TaskSummary)
  | spawn (scan : Scan) (running : TaskSummary)
  | pageShutdown (scan : Scan)
  | pageSlots (scan : Scan)
  | deadline (fairness : ResourceFairness)
  | arm (fairness : ResourceFairness) (retryAt : Option Nat)
  | suspended (fairness : ResourceFairness) (timeout : Option Nat)
  | stopping
  | stopped

inductive SupervisorPc where
  | waitRequest
  | lockAdmission
  | unlockAdmission
  | waitScheduler
  | waitActive
  | closePublisher
  | joinPublisher
  | awaitAbort
  | release
  | waitRetry
  | stopped

/-- Where the publisher worker drains its control queue, or takes one command. -/
inductive ControlPlace where
  | top
  | closing
  | entry (entry : EventOutboxEntry) (rest : List EventOutboxEntry)
  | failed
  | waiting
  | backoff

inductive PublisherPc where
  | idle
  | controls (place : ControlPlace) (quarantined : Bool)
  | judge (place : ControlPlace) (quarantined : Bool) (request : QuarantineRequest)
  | archive (place : ControlPlace) (quarantined : Bool) (command : QuarantineCommand)
  | list
  | waiting
  | publish (entry : EventOutboxEntry) (rest : List EventOutboxEntry)
  | acknowledge (entry : EventOutboxEntry) (rest : List EventOutboxEntry)
  | backoff
  | exited

inductive StarterPc where
  | list (after : Option TaskCursor)
  | recover (rest : List TaskSummary) (next : Option TaskCursor)
  | requeue (summary : TaskSummary) (rest : List TaskSummary) (next : Option TaskCursor)
  | ready
  | failed

/-- A write that was issued by a future dropped since. -/
inductive DetachedWrite where
  | accept (id : TaskId) (request : StoredTaskRequest)
  | transition (summary : TaskSummary) (command : TransitionCommand)
  | markPublished (id : TaskId) (version : Nat)
  | quarantine (command : QuarantineCommand)

inductive Thread where
  | submit (call : SubmitCall)
  | cancel (call : CancelCall)
  | resume (call : ResumeCall)
  | run (task : RunTask)
  | hook (task : HookTask)
  | scheduler (pc : SchedulerPc)
  | supervisor (pc : SupervisorPc)
  | publisher (pc : PublisherPc)
  | starter (pc : StarterPc)
  | detached (write : DetachedWrite)
  | finished

structure Step (σ : Type) where
  core : Core σ
  thread : Thread
  spawned : List Thread := []

end TaskService.Service
