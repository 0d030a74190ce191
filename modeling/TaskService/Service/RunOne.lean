import TaskService.Model.PaddedDecimal
import TaskService.Service.Core

/-!
# Running, finishing and cancelling one attempt

`run_one` loads the record again, prepares the handler, registers the attempt's
cancellation flag, re-reads `cancel_requested`, runs the handler and hands its
outcome to `finish`, which reads the latest record and compare-and-sets the
attempt's result against the version it has read.

A flight persists the cancellation request for its attempt, calls the application's
hook, and records what the hook reported.  Every read of the record that does not
show the attempt running ends the flight.
-/

namespace TaskService.Service

open Library Model Store

variable {σ : Type}

namespace RunTask

/-- What each way a handler run can end asks `finish` to record. -/
def completionOf : HandlerExecution → Completion
  | .returned (.ok (.succeeded output)) =>
      if output.summary.length ≤ maxTaskOutputSummaryBytes then
        { state := .succeeded, output := some output, retryable := false }
      else
        { state :=
            .failed "task_output_too_large"
              ("task output summary exceeds the " ++ toString maxTaskOutputSummaryBytes ++
                "-byte limit")
          output := none
          retryable := false }
  | .returned (.ok .cancelled) => { state := .cancelled, output := none, retryable := false }
  | .returned (.error error) =>
      { state := .failed error.category error.message
        output := none
        retryable := error.retryable }
  | .panicked =>
      { state := .panicked "typed task handler panicked", output := none, retryable := false }

def preparationFailure (error : HandlerDispatchError) : Completion :=
  { state := .failed "payload_decode" error.text, output := none, retryable := false }

def retries (config : Config) (started latest : TaskSummary) (completion : Completion) : Bool :=
  completion.retryable && !latest.cancelRequested && decide (started.attempt < config.maxAttempts)

def retryDeadline (config : Config) (started : TaskSummary) (now : Nat) : Nat :=
  saturatingAdd u64Bound now
    (min (config.retryPolicy.delayForAttempt started.attempt / nanosPerMilli) (u64Bound - 1))

def finishCommand (config : Config) (started latest : TaskSummary) (completion : Completion)
    (now finishedAt : Nat) : TransitionCommand :=
  let retry := retries config started latest completion
  { id := started.id
    expectedStateVersion := latest.stateVersion
    expectedAttempt := started.attempt
    retryNotBeforeMs := if retry then some (retryDeadline config started now) else none
    state := if retry then .queued else completion.state
    cancelRequested := latest.cancelRequested
    cancelError := latest.cancelError
    finishedAtMs := some finishedAt
    output := completion.output }

def prepare (config : Config) (core : Core σ) (task : RunTask) (stored : StoredTask) : Step σ :=
  if stored.summary.state ≠ .running then
    { core := core, thread := .run { task with pc := .exit none } }
  else
    match config.handlers.prepare task.started.kindId stored.request.payload with
    | .prepared => { core := core, thread := .run { task with pc := .register } }
    | .rejected error =>
        { core := core, thread := .run { task with pc := .finishRead (preparationFailure error) } }
    | .panicked =>
        { core :=
            core.latchFault
              ("task execution supervisor panicked for " ++ task.started.id.toPaddedDecimal)
          thread := .run { task with pc := .exit none } }

def afterFinishRead (core : Core σ) (task : RunTask) (completion : Completion) :
    Option StoredTask → Step σ
  | none =>
      { core := core.latchFault "task disappeared while finalizing"
        thread := .run { task with pc := .exit (some completion) } }
  | some latest =>
      if latest.summary.state.isTerminal then
        { core := core, thread := .run { task with pc := .clearEntry completion } }
      else
        { core := core
          thread := .run { task with pc := .finishWrite completion latest.summary } }

variable [TaskStore σ]

def step (config : Config) (core : Core σ) (input : Input) (task : RunTask) : Option (Step σ) :=
  let at_ (core : Core σ) (pc : RunPc) : Option (Step σ) :=
    some { core := core, thread := .run { task with pc := pc } }
  let key := (task.started.id, task.started.attempt)
  match task.pc with
  | .load =>
      match core.callGet input task.started.id with
      | .error error => at_ (core.latchFault error.text) (.exit none)
      | .ok none => at_ core (.exit none)
      | .ok (some stored) => some (prepare config core task stored)
  | .register =>
      let flag := core.flags.length
      at_
        { core with
          flags := core.flags ++ [false]
          cancellations := core.cancellations.insert key flag }
        (.recheck flag)
  | .recheck flag =>
      match core.callGet input task.started.id with
      | .error error => at_ (core.latchFault error.text) (.exit none)
      | .ok latest =>
          if latest.any fun stored => stored.summary.cancelRequested then at_ core (.setFlag flag)
          else at_ core (.running flag)
  | .setFlag flag => at_ (core.setFlag flag) (.running flag)
  | .running _ => at_ core (.unregister (completionOf input.execution))
  | .unregister completion =>
      at_ { core with cancellations := core.cancellations.erase key } (.finishRead completion)
  | .finishRead completion =>
      match core.callGet input task.started.id with
      | .error error => at_ (core.latchFault error.text) (.exit (some completion))
      | .ok latest => some (afterFinishRead core task completion latest)
  | .finishWrite completion latest =>
      match
        core.callTransition input
          (finishCommand config task.started latest completion input.now input.later) with
      | (core, .ok _) => at_ core (.clearEntry completion)
      | (core, .error error) =>
          if error = .conflict then at_ core (.checkCompeting completion latest.stateVersion)
          else at_ (core.latchFault error.text) (.exit (some completion))
  | .clearEntry completion =>
      at_ { core with externalCancellations := core.externalCancellations.erase key }
        (.exit (some completion))
  | .checkCompeting completion expectedVersion =>
      at_ (core.checkCompetingTransition input task.started.id expectedVersion)
        (.exit (some completion))
  | .exit finished => at_ { core with inFlight := core.inFlight - 1 } (.done finished)
  | .done _ => none

end RunTask

namespace HookTask

def annotateCommand (task : HookTask) (summary : TaskSummary) (cancelError : Option String) :
    TransitionCommand :=
  { id := task.id
    expectedStateVersion := summary.stateVersion
    expectedAttempt := task.attempt
    retryNotBeforeMs := none
    state := .running
    cancelRequested := true
    cancelError := cancelError
    finishedAtMs := none
    output := none }

def stillRunning (task : HookTask) (summary : TaskSummary) : Bool :=
  !summary.state.isTerminal && decide (summary.attempt = task.attempt) &&
    decide (summary.state = .running)

variable [TaskStore σ]

/-- One read of the record; `running` continues on the attempt's summary. -/
def reading (core : Core σ) (input : Input) (task : HookTask) (disappeared : String)
    (running : TaskSummary → HookPc) : Step σ :=
  let at_ (pc : HookPc) : Step σ := { core := core, thread := .hook { task with pc := pc } }
  match core.callGet input task.id with
  | .error error => at_ (.conclude (.serviceFailed error.text))
  | .ok none => at_ (.conclude (.serviceFailed disappeared))
  | .ok (some stored) =>
      if task.stillRunning stored.summary then at_ (running stored.summary)
      else at_ (.conclude .alreadyTerminal)

/-- One compare-and-set; a lost race goes back to reading the record. -/
def writing (core : Core σ) (input : Input) (task : HookTask) (command : TransitionCommand)
    (written again : HookPc) : Step σ :=
  match core.callTransition input command with
  | (core, .ok _) => { core := core, thread := .hook { task with pc := written } }
  | (core, .error error) =>
      if error = .conflict then { core := core, thread := .hook { task with pc := again } }
      else
        { core := core
          thread := .hook { task with pc := .conclude (.serviceFailed error.text) } }

def step (config : Config) (core : Core σ) (input : Input) (task : HookTask) :
    Option (Step σ) :=
  let at_ (core : Core σ) (pc : HookPc) : Option (Step σ) :=
    some { core := core, thread := .hook { task with pc := pc } }
  let key := (task.id, task.attempt)
  match task.pc with
  | .load =>
      some (reading core input task "task disappeared during external cancellation" fun summary =>
        if !summary.cancelRequested || summary.cancelError.isSome then .persist summary
        else .invoke)
  | .persist summary =>
      some (writing core input task (annotateCommand task summary none) .invoke .load)
  | .invoke =>
      match config.handlers.registration task.kindId with
      | none => at_ core (.conclude (.serviceFailed "external cancellation hook is unavailable"))
      | some registration =>
          if registration.externalCancellationHook then
            -- The hook may already panic while it builds its future.
            if input.interrupted then
              match input.hook with
              | .ok () => none
              | .error message => at_ core (.failLoad message)
            else at_ core .awaitHook
          else at_ core (.conclude (.serviceFailed "external cancellation hook is unavailable"))
  | .awaitHook =>
      match input.hook with
      | .ok () => at_ core .reload
      | .error message => at_ core (.failLoad message)
  | .reload =>
      some (reading core input task "task disappeared after external cancellation" fun summary =>
        if summary.cancelError.isNone then .conclude .success else .clearError summary)
  | .clearError summary =>
      some (writing core input task (annotateCommand task summary none) (.conclude .success)
        .reload)
  | .failLoad message =>
      some (reading core input task "task disappeared while recording cancellation failure"
        (.failRecord message))
  | .failRecord message summary =>
      some (writing core input task (annotateCommand task summary (some message))
        (.conclude (.hookFailed message)) (.failLoad message))
  | .conclude result =>
      at_
        { core with
          externalCancellations :=
            match result with
            | .success => core.externalCancellations.insert key .succeeded
            | _ => core.externalCancellations.erase key }
        (.publish result)
  | .publish result =>
      let latched :=
        match result with
        | .serviceFailed message => core.latchFault message
        | _ => core
      at_
        { latched with
          flights :=
            latched.flights.modify task.flight fun flight => { flight with result := some result } }
        .exit
  | .exit => at_ { core with inFlight := core.inFlight - 1 } .done
  | .done => none

end HookTask

end TaskService.Service
