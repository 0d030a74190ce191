import Mathlib.Data.List.Sort
import TaskService.Library.Table
import TaskService.Store.TaskStore

/-!
# The in-memory task store

Records, the idempotency index, the terminal order and the two usage counters
live behind one mutex, so each call is one function of the whole state.  The
eviction loops run on the length of the terminal order: every successful
eviction shortens it, and an empty order ends the loop.
-/

namespace TaskService.Store

open Library Model

structure MemoryState where
  ownerEpoch : Option Nat
  lastOwnerEpoch : Nat
  encodedTasks : Table TaskId StoredTask
  encodedIdempotency : Table String TaskId
  encodedTerminalOrder : List TaskId
  retainedPayloadBytes : Nat
  unfinishedRecords : Nat

structure MemoryTaskStore where
  historyCapacity : Nat
  maxPayloadBytes : Nat
  maxUnfinishedRecords : Nat
  state : MemoryState

def MemoryTaskStore.withLimits (historyCapacity maxPayloadBytes maxUnfinishedRecords : Nat) :
    MemoryTaskStore :=
  { historyCapacity := historyCapacity
    maxPayloadBytes := maxPayloadBytes
    maxUnfinishedRecords := maxUnfinishedRecords
    state :=
      { ownerEpoch := none
        lastOwnerEpoch := 0
        encodedTasks := ∅
        encodedIdempotency := ∅
        encodedTerminalOrder := []
        retainedPayloadBytes := 0
        unfinishedRecords := 0 } }

namespace MemoryState

def removeEncodedTask (state : MemoryState) (id : TaskId) : MemoryState × Option StoredTask :=
  match state.encodedTasks.lookup id with
  | none => (state, none)
  | some task =>
      ({ state with
          encodedTasks := state.encodedTasks.erase id
          retainedPayloadBytes := state.retainedPayloadBytes - task.request.payload.bytes.length
          unfinishedRecords :=
            if task.summary.state.isTerminal then state.unfinishedRecords
            else state.unfinishedRecords - 1
          encodedIdempotency :=
            match task.request.idempotencyKey with
            | none => state.encodedIdempotency
            | some key => state.encodedIdempotency.erase key
          encodedTerminalOrder :=
            state.encodedTerminalOrder.filter fun terminalId => decide (terminalId ≠ id) },
        some task)

def evictOldestEncodedTerminal (state : MemoryState) : MemoryState × Bool :=
  match state.encodedTerminalOrder.head? with
  | none => (state, false)
  | some id => ((state.removeEncodedTask id).1, (state.removeEncodedTask id).2.isSome)

/-- An eviction loop: evicts until the state is `done`, and reports whether it got there. -/
def evictUntil (done : MemoryState → Bool) : Nat → MemoryState → MemoryState × Bool
  | 0, state => (state, done state)
  | rounds + 1, state =>
      if done state then (state, true)
      else if state.evictOldestEncodedTerminal.2 then
        evictUntil done rounds state.evictOldestEncodedTerminal.1
      else (state.evictOldestEncodedTerminal.1, false)

def reclaimPayload (state : MemoryState) (limit rounds : Nat) : MemoryState × Bool :=
  evictUntil (fun state => decide (state.retainedPayloadBytes ≤ limit)) rounds state

def trimHistory (state : MemoryState) (capacity rounds : Nat) : MemoryState :=
  (evictUntil (fun state => decide (state.encodedTerminalOrder.length ≤ capacity)) rounds state).1

def reclaimableBytes (state : MemoryState) : Nat :=
  ((state.encodedTerminalOrder.filterMap fun id => state.encodedTasks.lookup id).map
    fun task => task.request.payload.bytes.length).sum

def insertAccepted (state : MemoryState) (id : TaskId) (request : StoredTaskRequest) (now : Nat) :
    MemoryState :=
  { state with
    encodedIdempotency :=
      match request.idempotencyKey with
      | none => state.encodedIdempotency
      | some key => state.encodedIdempotency.insert key id
    retainedPayloadBytes := state.retainedPayloadBytes + request.payload.bytes.length
    encodedTasks :=
      state.encodedTasks.insert id
        { request := request, summary := acceptedSummary id request now }
    unfinishedRecords := state.unfinishedRecords + 1 }

def putSummary (state : MemoryState) (id : TaskId) (task : StoredTask) (summary : TaskSummary) :
    MemoryState :=
  { state with encodedTasks := state.encodedTasks.insert id { task with summary := summary } }

/-- A record that has become terminal; the decrement saturates in the source. -/
def retiring (state : MemoryState) (id : TaskId) : MemoryState :=
  { state with
    unfinishedRecords := state.unfinishedRecords - 1
    encodedTerminalOrder := state.encodedTerminalOrder ++ [id] }

def retireRecord (state : MemoryState) (id : TaskId) (capacity : Nat) : MemoryState :=
  (state.retiring id).trimHistory capacity (state.retiring id).encodedTerminalOrder.length

end MemoryState

namespace MemoryTaskStore

def withState (store : MemoryTaskStore) (state : MemoryState) : MemoryTaskStore :=
  { store with state := state }

def getEncodedTask (store : MemoryTaskStore) (id : TaskId) : Option StoredTask :=
  store.state.encodedTasks.lookup id

def idempotentId (store : MemoryTaskStore) (request : StoredTaskRequest) : Option TaskId :=
  request.idempotencyKey.bind fun key => store.state.encodedIdempotency.lookup key

section

-- A call that evicts is written over the outcomes `ρ` of its loop: outcomes as they are here,
-- and outcomes that may report an underflow where the counters are verified.
variable {ρ : Type} (store : MemoryTaskStore)

def acceptNewBy (answer : MemoryTaskStore × Except StoreError AcceptOutcome → ρ)
    (reclaiming : (MemoryState × Bool → ρ) → ρ) (clock : Clock) (id : TaskId)
    (request : StoredTaskRequest) : ρ :=
  let requestedBytes := request.payload.bytes.length
  let minimumRetained := store.state.retainedPayloadBytes - store.state.reclaimableBytes
  if minimumRetained + requestedBytes > store.maxPayloadBytes then
    answer (store,
      .error (.capacityExceeded requestedBytes (store.maxPayloadBytes - minimumRetained)))
  else
    reclaiming fun reclaimed =>
      if reclaimed.2 then
        answer (store.withState (reclaimed.1.insertAccepted id request clock.now),
          .ok { summary := acceptedSummary id request clock.now, created := true })
      else
        answer (store.withState reclaimed.1,
          .error (.capacityExceeded requestedBytes
            (store.maxPayloadBytes - reclaimed.1.retainedPayloadBytes)))

def acceptEncodedBy (answer : MemoryTaskStore × Except StoreError AcceptOutcome → ρ)
    (acceptNew : ρ) (id : TaskId) (request : StoredTaskRequest) : ρ :=
  if request.kindId.isEmpty || request.payload.codecId.isEmpty then
    answer (store, .error (.invalidRequest "task kind and payload codec must not be empty"))
  else
    match store.idempotentId request with
    | some existingId =>
        match store.getEncodedTask existingId with
        | none => answer (store, .error .notFound)
        | some existing =>
            if existing.request ≠ request then answer (store, .error .idempotencyConflict)
            else answer (store, .ok { summary := existing.summary, created := false })
    | none =>
        if (store.getEncodedTask id).isSome then answer (store, .error .duplicateTask)
        else if store.state.unfinishedRecords ≥ store.maxUnfinishedRecords then
          answer (store, .error (.unfinishedRecordLimitExceeded store.maxUnfinishedRecords))
        else acceptNew

end

def acceptNew (store : MemoryTaskStore) (clock : Clock) (id : TaskId)
    (request : StoredTaskRequest) : MemoryTaskStore × Except StoreError AcceptOutcome :=
  store.acceptNewBy (fun outcome => outcome)
    (fun go => go (store.state.reclaimPayload
      (store.maxPayloadBytes - request.payload.bytes.length)
      store.state.encodedTerminalOrder.length)) clock id request

def acceptEncoded (store : MemoryTaskStore) (clock : Clock) (id : TaskId)
    (request : StoredTaskRequest) : MemoryTaskStore × Except StoreError AcceptOutcome :=
  store.acceptEncodedBy (fun outcome => outcome) (store.acceptNew clock id request) id request

def startEncoded (store : MemoryTaskStore) (command : StartCommand) :
    MemoryTaskStore × Except StoreError TaskSummary :=
  match store.getEncodedTask command.id with
  | none => (store, .error .notFound)
  | some task =>
      if task.summary.stateVersion ≠ command.expectedStateVersion ∨
          task.summary.state ≠ .queued then
        (store, .error .conflict)
      else
        match checkedAdd u64Bound task.summary.stateVersion 1 with
        | none => (store, .error (.failure "task state version overflow"))
        | some version =>
            match checkedAdd u32Bound task.summary.attempt 1 with
            | none =>
                -- The version has been assigned when the attempt counter overflows.
                (store.withState (store.state.putSummary command.id task
                    { task.summary with stateVersion := version }),
                  .error (.failure "task attempt counter overflow"))
            | some _ =>
                (store.withState (store.state.putSummary command.id task
                    (startedSummary task.summary command)),
                  .ok (startedSummary task.summary command))

def transitionCheck (summary : TaskSummary) (command : TransitionCommand) :
    Except StoreError Unit :=
  if ¬ TransitionMatches summary command then .error .conflict
  else if command.output.isSome && summary.state.isTerminal then
    .error (.invalidRequest "task output can only be written before the task becomes terminal")
  else if command.retryNotBeforeMs.isSome && decide (command.state ≠ .queued) then
    .error (.invalidRequest "retry deadline is only valid for queued tasks")
  else .ok ()

def applyTransition (store : MemoryTaskStore) (task : StoredTask) (command : TransitionCommand) :
    MemoryState :=
  let written := store.state.putSummary command.id task (transitionedSummary task.summary command)
  if !task.summary.state.isTerminal && command.state.isTerminal then
    written.retireRecord command.id store.historyCapacity
  else written

def transitionEncodedBy {ρ : Type} (store : MemoryTaskStore)
    (answer : MemoryTaskStore × Except StoreError TaskSummary → ρ)
    (applying : StoredTask → (MemoryState → ρ) → ρ) (command : TransitionCommand) : ρ :=
  match command.state.validateDiagnostics with
  | .error message => answer (store, .error (.invalidRequest message))
  | .ok () =>
      match validateEncodedOutput command.state command.output with
      | .error error => answer (store, .error error)
      | .ok () =>
          match store.getEncodedTask command.id with
          | none => answer (store, .error .notFound)
          | some task =>
              match transitionCheck task.summary command with
              | .error error => answer (store, .error error)
              | .ok () =>
                  match checkedAdd u64Bound task.summary.stateVersion 1 with
                  | none =>
                      -- State and deadline have been assigned when the version overflows.
                      answer (store.withState (store.state.putSummary command.id task
                          { task.summary with
                            state := command.state
                            retryNotBeforeMs := command.retryNotBeforeMs }),
                        .error (.failure "task state version overflow"))
                  | some _ =>
                      applying task fun state =>
                        answer (store.withState state,
                          .ok (transitionedSummary task.summary command))

def transitionEncoded (store : MemoryTaskStore) (command : TransitionCommand) :
    MemoryTaskStore × Except StoreError TaskSummary :=
  store.transitionEncodedBy (fun outcome => outcome)
    (fun task go => go (store.applyTransition task command)) command

def progressStale (current : Option TaskProgressSnapshot) (version : Nat) : Bool :=
  match current with
  | none => false
  | some snapshot => decide (snapshot.progressVersion ≥ version)

def updateProgress (store : MemoryTaskStore) (command : ProgressCommand) :
    MemoryTaskStore × Except StoreError TaskSummary :=
  match TaskProgressSnapshot.fromCommand command with
  | .error _ => (store, .error (.invalidRequest "task progress snapshot exceeds its limits"))
  | .ok snapshot =>
      match store.getEncodedTask command.id with
      | none => (store, .error .notFound)
      | some task =>
          if task.summary.state ≠ .running ∨ task.summary.attempt ≠ command.expectedAttempt ∨
              progressStale task.summary.progress command.progressVersion = true then
            (store, .error .conflict)
          else
            (store.withState (store.state.putSummary command.id task
                { task.summary with progress := some snapshot }),
              .ok { task.summary with progress := some snapshot })

def queryMatches (query : TaskQuery) (summary : TaskSummary) : Bool :=
  (query.states.isEmpty || query.states.contains summary.state.kind) &&
    (query.category.isNone || decide (summary.category = query.category)) &&
    (query.correlationKey.isNone || decide (summary.correlationKey = query.correlationKey)) &&
    (match query.after with
      | none => true
      | some after => after.lt (TaskCursor.ofSummary summary))

def largestCandidate : List TaskCursor → Option TaskCursor
  | [] => none
  | key :: rest =>
      match largestCandidate rest with
      | none => some key
      | some largest => if largest.lt key then some key else some largest

/-- Offers one key to the bounded max-heap of a history page. -/
def offerCandidate (fetchLimit : Nat) (candidates : List TaskCursor) (key : TaskCursor) :
    List TaskCursor :=
  if candidates.length < fetchLimit then key :: candidates
  else
    match largestCandidate candidates with
    | none => candidates
    | some largest => if key.lt largest then key :: candidates.erase largest else candidates

def pageOf (records : List TaskSummary) (hasMore : Bool) : TaskPage :=
  { records := records
    next := if hasMore then records.getLast?.map TaskCursor.ofSummary else none }

def listEncoded (store : MemoryTaskStore) (query : TaskQuery) : Except StoreError TaskPage :=
  match query.checkedPageSize with
  | .error error => .error error
  | .ok pageSize =>
      let candidates :=
        ((store.state.encodedTasks.values.map StoredTask.summary).filter (queryMatches query)).map
          TaskCursor.ofSummary
      let kept := candidates.foldl (offerCandidate (pageSize + 1)) []
      let sorted := kept.insertionSort fun left right => left.le right = true
      let records :=
        (sorted.take pageSize).filterMap fun key =>
          (store.getEncodedTask key.id).map StoredTask.summary
      .ok (pageOf records (decide (sorted.length > pageSize)))

def readyAt (now : Nat) (summary : TaskSummary) : Bool :=
  decide (summary.state = .queued) &&
    (match summary.retryNotBeforeMs with
      | none => true
      | some deadline => decide (deadline ≤ now))

def listReadyQueued (store : MemoryTaskStore) (after : Option TaskCursor) (limit now : Nat) :
    Except StoreError TaskPage :=
  if limit > maxTaskQueryLimit then .error (.invalidRequest "ready task page limit exceeds 256")
  else
    let ready :=
      (store.state.encodedTasks.values.map StoredTask.summary).filter fun summary =>
        readyAt now summary &&
          (match after with
            | none => true
            | some cursor => cursor.lt (TaskCursor.ofSummary summary))
    let records :=
      ready.insertionSort fun left right =>
        (TaskCursor.ofSummary left).le (TaskCursor.ofSummary right) = true
    .ok (pageOf (records.take limit) (decide (records.length > limit)))

def nextRetryDeadline (store : MemoryTaskStore) (now : Nat) : Option Nat :=
  ((((store.state.encodedTasks.values.map StoredTask.summary).filter fun summary =>
      decide (summary.state = .queued)).filterMap TaskSummary.retryNotBeforeMs).filter
        fun deadline => decide (deadline > now)).min?

def expiredAt (cutoff : Nat) (summary : TaskSummary) : Option TaskCursor :=
  match summary.finishedAtMs with
  | none => none
  | some finishedAtMs =>
      if summary.state.isTerminal && decide (finishedAtMs < cutoff) then
        some { acceptedAtMs := finishedAtMs, id := summary.id }
      else none

def pruneTerminalBefore (store : MemoryTaskStore) (cutoff maxRows : Nat) :
    MemoryTaskStore × Nat :=
  let candidates :=
    ((store.state.encodedTasks.values.map StoredTask.summary).filterMap
      (expiredAt cutoff)).insertionSort fun left right => left.le right = true
  let expired := (candidates.take maxRows).map TaskCursor.id
  (store.withState
      (expired.foldl (fun state id => (state.removeEncodedTask id).1) store.state),
    expired.length)

def acquireOwner (store : MemoryTaskStore) : MemoryTaskStore × Except StoreError Nat :=
  if store.state.ownerEpoch.isSome then (store, .error .ownerConflict)
  else
    match checkedAdd u64Bound store.state.lastOwnerEpoch 1 with
    | none => (store, .error (.failure "memory owner epoch exhausted"))
    | some epoch =>
        (store.withState { store.state with lastOwnerEpoch := epoch, ownerEpoch := some epoch },
          .ok epoch)

def releaseOwner (store : MemoryTaskStore) (epoch : Nat) :
    MemoryTaskStore × Except StoreError Unit :=
  if store.state.ownerEpoch ≠ some epoch then (store, .error .ownerConflict)
  else (store.withState { store.state with ownerEpoch := none }, .ok ())

end MemoryTaskStore

/-- The in-memory store has no event outbox. -/
instance : TaskStore MemoryTaskStore where
  getEncodedTask := MemoryTaskStore.getEncodedTask
  acceptEncoded := MemoryTaskStore.acceptEncoded
  startEncoded store _ := store.startEncoded
  transitionEncoded store _ := store.transitionEncoded
  updateProgress := MemoryTaskStore.updateProgress
  listEncoded := MemoryTaskStore.listEncoded
  listReadyQueued := MemoryTaskStore.listReadyQueued
  nextRetryDeadline store now := .ok (store.nextRetryDeadline now)
  pruneTerminalBefore store cutoff maxRows :=
    ((store.pruneTerminalBefore cutoff maxRows).1, .ok (store.pruneTerminalBefore cutoff maxRows).2)
  listEventOutbox _ _ := .error .unsupportedCapability
  markEventPublished store _ _ := (store, .error .unsupportedCapability)
  quarantineEventOutboxHead store _ _ := (store, .error .unsupportedCapability)

end TaskService.Store
