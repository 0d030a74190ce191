import TaskService.Service.Core

/-!
# Client calls

`submit`, `cancel` and `resume_blocked` run under a read guard of the admission
lock, which is dropped when the call returns, when its future is dropped, or,
for a hook-driven cancellation, before it waits for the flight.
-/

namespace TaskService.Service

open Library Model Store

variable {σ : Type} [TaskStore σ]

namespace SubmitCall

def finish (core : Core σ) (call : SubmitCall) (result : Except TaskServiceError TaskSummary) :
    Step σ :=
  { core := core.leaveAdmission, thread := .submit { call with pc := .returned result } }

/-- `submission_store_result`: rejections of the request are the caller's, any
other store error takes the general path. -/
def rejection (core : Core σ) : StoreError → Core σ × TaskServiceError
  | .capacityExceeded requestedBytes availableBytes =>
      (core, .submissionCapacityExceeded requestedBytes availableBytes)
  | .unfinishedRecordLimitExceeded limit => (core, .unfinishedTaskLimitExceeded limit)
  | .idempotencyConflict => (core, .idempotencyConflict)
  | .duplicateTask => (core, .duplicateTaskId)
  | error => (core.storeResult error, .store error)

def step (core : Core σ) (input : Input) (call : SubmitCall) : Option (Step σ) :=
  let at_ (core : Core σ) (pc : SubmitPc) : Option (Step σ) :=
    some { core := core, thread := .submit { call with pc := pc } }
  match call.pc with
  | .admission =>
      if core.admissionWriter then none else at_ core.enterAdmission .checkFault
  | .checkFault =>
      match core.fault with
      | some message => some (finish core call (.error (.storeUnavailable message)))
      | none => at_ core .checkShutdown
  | .checkShutdown =>
      if core.shuttingDown then some (finish core call (.error .shuttingDown))
      else
        match call.encoded with
        | .error message => some (finish core call (.error (.typedRequest message)))
        | .ok stored => at_ core (.generate stored)
  | .generate stored =>
      match input.generated with
      | .error message => some (finish core call (.error (.idGeneration message)))
      | .ok id => at_ { core with knownIds := id :: core.knownIds } (.accept id stored)
  | .accept id stored =>
      match core.callAccept input id stored with
      | (core, .ok outcome) => some (finish core call (.ok outcome.summary))
      | (core, .error error) =>
          some (finish (rejection core error).1 call (.error (rejection core error).2))
  | .returned _ => none

end SubmitCall

namespace CancelCall

def beforeStartCommand (id : TaskId) (summary : TaskSummary) (now : Nat) : TransitionCommand :=
  { id := id
    expectedStateVersion := summary.stateVersion
    expectedAttempt := summary.attempt
    retryNotBeforeMs := none
    state := .cancelled
    cancelRequested := false
    cancelError := none
    finishedAtMs := some now
    output := none }

/-- The Running-to-Running write that persists a cancellation request. -/
def requestCommand (id : TaskId) (summary : TaskSummary) : TransitionCommand :=
  { id := id
    expectedStateVersion := summary.stateVersion
    expectedAttempt := summary.attempt
    retryNotBeforeMs := none
    state := .running
    cancelRequested := true
    cancelError := none
    finishedAtMs := none
    output := none }

def returnWith (core : Core σ) (call : CancelCall)
    (result : Except TaskServiceError CancelOutcome) : Step σ :=
  { core :=
      match result with
      | .ok outcome => core.record (.cancelReturned call.id outcome)
      | .error _ => core
    thread := .cancel { call with pc := .returned result } }

/-- Returns while the admission guard is still held. -/
def finish (core : Core σ) (call : CancelCall)
    (result : Except TaskServiceError CancelOutcome) : Step σ :=
  returnWith core.leaveAdmission call result

def dispatchRunning (handlers : Handlers) (core : Core σ) (call : CancelCall)
    (summary : TaskSummary) : Step σ :=
  match handlers.descriptor summary.kindId with
  | none => finish core call (.error .cancellationUnsupported)
  | some descriptor =>
      match descriptor.cancellationMode with
      | .unsupported => finish core call (.ok .cancellationUnsupported)
      | .externalHook =>
          { core := core, thread := .cancel { call with pc := .joinHook summary } }
      | .cooperative =>
          if summary.cancelRequested then finish core call (.ok .cancellationRequested)
          else { core := core, thread := .cancel { call with pc := .requestCancel summary } }

def dispatch (handlers : Handlers) (core : Core σ) (call : CancelCall) (summary : TaskSummary) :
    Step σ :=
  match summary.state with
  | .queued | .blocked _ =>
      { core := core, thread := .cancel { call with pc := .cancelBeforeStart summary } }
  | .running => dispatchRunning handlers core call summary
  | .succeeded | .failed _ _ | .panicked _ | .cancelled =>
      finish core call (.ok .alreadyTerminal)

/-- What a waiter makes of its flight's result. -/
def flightOutcome (id : TaskId) (attempt : Nat) :
    ExternalCancelResult → Except TaskServiceError CancelOutcome
  | .success => .ok .cancellationRequested
  | .alreadyTerminal => .ok .alreadyTerminal
  | .hookFailed message => .error (.externalCancellationFailed id attempt message)
  | .serviceFailed message => .error (.storeUnavailable message)

/-- `start_or_join_external_cancel` up to the release of the map's lock. -/
def join (core : Core σ) (call : CancelCall) (summary : TaskSummary) : Step σ :=
  match core.externalCancellations.lookup (call.id, summary.attempt) with
  | some (.inFlight flight) =>
      { core := core
        thread := .cancel { call with pc := .dropAdmission summary.attempt flight } }
  | some .succeeded => finish core call (.ok .cancellationRequested)
  | none =>
      let flight := core.flights.length
      { core :=
          { core with
            flights := core.flights ++ [{ owner := (call.id, summary.attempt), result := none }]
            externalCancellations :=
              core.externalCancellations.insert (call.id, summary.attempt) (.inFlight flight) }
        thread := .cancel { call with pc := .spawnHook summary flight } }

def step (config : Config) (core : Core σ) (input : Input) (call : CancelCall) :
    Option (Step σ) :=
  let at_ (core : Core σ) (pc : CancelPc) : Option (Step σ) :=
    some { core := core, thread := .cancel { call with pc := pc } }
  match call.pc with
  | .admission =>
      if core.admissionWriter then none else at_ core.enterAdmission .checkFault
  | .checkFault =>
      match core.fault with
      | some message => some (finish core call (.error (.storeUnavailable message)))
      | none => at_ core .checkShutdown
  | .checkShutdown =>
      if core.shuttingDown then some (finish core call (.error .shuttingDown))
      else at_ core .checkOwner
  | .checkOwner =>
      if core.ownerReleased then some (finish core call (.error .shuttingDown))
      else at_ core .load
  | .load =>
      match core.callGet input call.id with
      | .error error => some (finish (core.storeResult error) call (.error (.store error)))
      | .ok none => some (finish core call (.error (.store .notFound)))
      | .ok (some task) => some (dispatch config.handlers core call task.summary)
  | .cancelBeforeStart summary =>
      match core.callTransition input (beforeStartCommand call.id summary input.now) with
      | (core, .error error) =>
          some (finish (core.storeResult error) call (.error (.store error)))
      | (core, .ok _) => some (finish core call (.ok .cancelledBeforeStart))
  | .requestCancel summary =>
      match core.callTransition input (requestCommand call.id summary) with
      | (core, .error error) =>
          some (finish (core.storeResult error) call (.error (.store error)))
      | (core, .ok _) => at_ core (.signal summary.attempt)
  | .signal attempt =>
      match core.cancellations.lookup (call.id, attempt) with
      | some flag => some (finish (core.setFlag flag) call (.ok .cancellationRequested))
      | none => some (finish core call (.ok .cancellationRequested))
  | .joinHook summary => some (join core call summary)
  | .spawnHook summary flight =>
      some
        { core := { core with inFlight := core.inFlight + 1 }
          thread := .cancel { call with pc := .dropAdmission summary.attempt flight }
          spawned :=
            [.hook
              { id := call.id
                attempt := summary.attempt
                kindId := summary.kindId
                flight := flight
                pc := .load }] }
  | .dropAdmission attempt flight => at_ core.leaveAdmission (.waitHook attempt flight)
  | .waitHook attempt flight =>
      match core.flights[flight]?.bind Flight.result with
      | some result => some (returnWith core call (flightOutcome call.id attempt result))
      | none => none
  | .returned _ => none

end CancelCall

namespace ResumeCall

def requeueCommand (call : ResumeCall) (summary : TaskSummary) : TransitionCommand :=
  { id := call.id
    expectedStateVersion := call.expectedStateVersion
    expectedAttempt := summary.attempt
    retryNotBeforeMs := none
    state := .queued
    cancelRequested := false
    cancelError := none
    finishedAtMs := none
    output := none }

def finish (core : Core σ) (call : ResumeCall) (result : Except TaskServiceError TaskSummary) :
    Step σ :=
  { core := core.leaveAdmission, thread := .resume { call with pc := .returned result } }

def dispatch (core : Core σ) (call : ResumeCall) (summary : TaskSummary) : Step σ :=
  if summary.stateVersion ≠ call.expectedStateVersion then
    finish core call (.error (.store .conflict))
  else if summary.state.kind ≠ .blocked then
    finish core call (.error (.notBlocked summary.state.kind))
  else if summary.cancelRequested then finish core call (.error .cancellationPending)
  else { core := core, thread := .resume { call with pc := .requeue summary } }

def step (core : Core σ) (input : Input) (call : ResumeCall) : Option (Step σ) :=
  let at_ (core : Core σ) (pc : ResumePc) : Option (Step σ) :=
    some { core := core, thread := .resume { call with pc := pc } }
  match call.pc with
  | .admission =>
      if core.admissionWriter then none else at_ core.enterAdmission .checkFault
  | .checkFault =>
      match core.fault with
      | some message => some (finish core call (.error (.storeUnavailable message)))
      | none => at_ core .checkShutdown
  | .checkShutdown =>
      if core.shuttingDown then some (finish core call (.error .shuttingDown))
      else at_ core .checkOwner
  | .checkOwner =>
      if core.ownerReleased then some (finish core call (.error .shuttingDown))
      else at_ core .load
  | .load =>
      match core.callGet input call.id with
      | .error error => some (finish (core.storeResult error) call (.error (.store error)))
      | .ok none => some (finish core call (.error (.store .notFound)))
      | .ok (some task) => some (dispatch core call task.summary)
  | .requeue summary =>
      match core.callTransition input (requeueCommand call summary) with
      | (core, .error error) =>
          some (finish (core.storeResult error) call (.error (.store error)))
      | (core, .ok resumed) => some (finish core call (.ok resumed))
  | .returned _ => none

end ResumeCall

end TaskService.Service
