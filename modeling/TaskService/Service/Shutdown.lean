import TaskService.Service.Core

/-!
# Recovery and shutdown

`recover_unfinished` pages through the queued and running records and rewrites every running
one: back to queued, or to blocked when a cancellation was pending.  The service's own threads
start only after it has succeeded.

After a shutdown request the supervisor takes the admission lock exclusively once, waits for
the scheduler to stop and for every active operation to end, closes the notification worker
and only then releases the store's ownership.
-/

namespace TaskService.Service

variable {σ : Type}

namespace SupervisorPc

def step (config : Config) (core : Core σ) (input : Input) (pc : SupervisorPc) :
    Option (Step σ) :=
  let at_ (core : Core σ) (pc : SupervisorPc) : Option (Step σ) :=
    some { core := core, thread := .supervisor pc }
  match pc with
  | .waitRequest => if core.ready && core.shuttingDown then at_ core .lockAdmission else none
  | .lockAdmission =>
      if core.admissionReaders = 0 ∧ core.admissionWriter = false then
        at_ { core with admissionWriter := true } .unlockAdmission
      else none
  | .unlockAdmission => at_ { core with admissionWriter := false } .waitScheduler
  | .waitScheduler => if core.schedulerStopped then at_ core .waitActive else none
  | .waitActive => if core.inFlight = 0 then at_ core .closePublisher else none
  | .closePublisher =>
      if config.publisherConfigured then
        at_ { core with publisherClosing := true } .joinPublisher
      else at_ core .release
  | .joinPublisher =>
      if core.publisherExited then at_ core .release
      -- The shutdown deadline may expire before the worker has drained.
      else if input.interrupted then at_ { core with publisherAborted := true } .awaitAbort
      else none
  | .awaitAbort => if core.publisherExited then at_ core .release else none
  | .release =>
      match input.release with
      | .ok () => at_ ({ core with ownerReleased := true }.record .releaseIssued) .stopped
      | .error _ =>
          -- A panicking release hands the guard to the cleanup worker instead.
          if input.interrupted then at_ (core.record .releaseIssued) .stopped
          else at_ ({ core with retryRequested := false }.record .releaseIssued) .waitRetry
  | .waitRetry =>
      if core.publicGone then at_ (core.record .releaseIssued) .stopped
      else if core.retryRequested then at_ core .release
      else none
  | .stopped => none

end SupervisorPc

open Model Store

variable [TaskStore σ]

namespace StarterPc

def unfinishedQuery (after : Option TaskCursor) : TaskQuery :=
  { states := [.queued, .running]
    category := none
    correlationKey := none
    after := after
    limit := 128 }

def recoveryCommand (summary : TaskSummary) : TransitionCommand :=
  { id := summary.id
    expectedStateVersion := summary.stateVersion
    expectedAttempt := summary.attempt
    retryNotBeforeMs := none
    state :=
      if summary.cancelRequested then .blocked "service stopped while cancellation was pending"
      else .queued
    cancelRequested := summary.cancelRequested
    cancelError := summary.cancelError
    finishedAtMs := none
    output := none }

def nextRecord (rest : List TaskSummary) (next : Option TaskCursor) : StarterPc :=
  match rest with
  | [] =>
      match next with
      | none => .ready
      | some cursor => .list (some cursor)
  | summary :: rest =>
      if summary.state = .running then .requeue summary rest next else .recover rest next

def step (core : Core σ) (input : Input) (pc : StarterPc) : Option (Step σ) :=
  let at_ (core : Core σ) (pc : StarterPc) : Option (Step σ) :=
    some { core := core, thread := .starter pc }
  match pc with
  | .list after =>
      match core.callRead input fun store =>
        TaskStore.listEncoded store (unfinishedQuery after) with
      | .error _ => at_ core .failed
      | .ok page => at_ core (.recover page.records page.next)
  | .recover rest next => at_ core (nextRecord rest next)
  | .requeue summary rest next =>
      match core.callTransition input (recoveryCommand summary) with
      | (core, .error error) => at_ (core.storeResult error) .failed
      | (core, .ok _) => at_ core (.recover rest next)
  | .ready => some { core := { core with ready := true }, thread := .finished }
  | .failed => none

end StarterPc

end TaskService.Service
