import TaskService.Service.Core

/-!
# The scheduler loop

The loop scans the ready pages at one clock reading, starts what it can, asks
for the next retry deadline at a second reading and suspends until a
notification or, measured at a third reading, that deadline.  The resource
engine's verdict on a reservation is an input of the step that asks for it.
-/

namespace TaskService.Service

open Library Model Store

variable {σ : Type}

def ResourceFairness.fresh : ResourceFairness :=
  { anchor := none, bypasses := 0 }

def beyondAnchor (fairness : ResourceFairness) (summary : TaskSummary) : Bool :=
  match fairness.anchor with
  | none => false
  | some (anchorId, anchorAcceptedAtMs) =>
      TaskCursor.lt { acceptedAtMs := anchorAcceptedAtMs, id := anchorId }
        (TaskCursor.ofSummary summary)

def isAnchor (fairness : ResourceFairness) (summary : TaskSummary) : Bool :=
  decide (fairness.anchor = some (summary.id, summary.acceptedAtMs))

def ResourceFairness.afterStart (fairness : ResourceFairness) (summary : TaskSummary) :
    ResourceFairness :=
  if isAnchor fairness summary then ResourceFairness.fresh
  else if beyondAnchor fairness summary then { fairness with bypasses := fairness.bypasses + 1 }
  else fairness

def Scan.begin (fairness : ResourceFairness) (now : Nat) : Scan :=
  { fairness := fairness
    now := now
    after := none
    sawAnchor := fairness.anchor.isNone
    rest := []
    next := none }

def Scan.observe (scan : Scan) (summary : TaskSummary) : Scan :=
  { scan with sawAnchor := scan.sawAnchor || isAnchor scan.fairness summary }

/-- The wake-up of a suspension whose length is measured at `now`. -/
def suspensionTimeout (retryAt : Option Nat) (now : Nat) : Option Nat :=
  retryAt.map fun deadline => deadline - now

namespace SchedulerPc

def blockCommand (summary : TaskSummary) (reason : String) : TransitionCommand :=
  { id := summary.id
    expectedStateVersion := summary.stateVersion
    expectedAttempt := summary.attempt
    retryNotBeforeMs := none
    state := .blocked reason
    cancelRequested := false
    cancelError := none
    finishedAtMs := none
    output := none }

def startCommand (summary : TaskSummary) (now : Nat) : StartCommand :=
  { id := summary.id, expectedStateVersion := summary.stateVersion, startedAtMs := now }

def scanEnd (scan : Scan) (completed : Bool) : SchedulerPc :=
  if completed && !scan.sawAnchor && scan.fairness.anchor.isSome then .top ResourceFairness.fresh
  else .deadline scan.fairness

/-- The engine's verdict on one record: reserved, temporarily unavailable, or
impossible with a reason. -/
def reserve (config : Config) (scan : Scan) (summary : TaskSummary) (rest : List TaskSummary) :
    Except String Bool → SchedulerPc
  | .ok true =>
      if scan.fairness.bypasses ≥ config.maxResourceBypasses && beyondAnchor scan.fairness summary
      then .entryShutdown { scan with rest := rest }
      else .admission { scan with rest := rest } summary
  | .ok false =>
      let fairness :=
        if scan.fairness.anchor.isNone then
          { scan.fairness with anchor := some (summary.id, summary.acceptedAtMs) }
        else scan.fairness
      .entryShutdown (Scan.observe { scan with fairness := fairness, rest := rest } summary)
  | .error reason => .markBlocked (scan.observe summary) summary reason

/-- Eligibility and reservation of the next record of a page. -/
def dispatchEntry (config : Config) (input : Input) (scan : Scan) : SchedulerPc :=
  match scan.rest with
  | [] => .pageShutdown scan
  | summary :: rest =>
      let observed := scan.observe summary
      match config.handlers.dispatchProblem summary with
      | some reason => .markBlocked { observed with rest := rest } summary reason
      | none => reserve config { observed with rest := rest } summary rest input.reservation

def afterEntryShutdown (scan : Scan) (shuttingDown : Bool) : SchedulerPc :=
  if scan.rest.isEmpty || shuttingDown then .pageShutdown scan else .entrySlots scan

variable [TaskStore σ]

def starting (core : Core σ) (input : Input) (scan : Scan) (summary : TaskSummary) : Step σ :=
  match core.callStart input (startCommand summary input.now) with
  | (core, .ok running) =>
      { core := core.leaveAdmission.record (.started running.id running.attempt)
        thread :=
          .scheduler (.spawn { scan with fairness := scan.fairness.afterStart summary } running) }
  | (core, .error error) =>
      if error = .conflict ∨ error = .notFound then
        { core := core.leaveAdmission, thread := .scheduler (.entryShutdown scan) }
      else
        { core := core.leaveAdmission.latchFault error.text, thread := .scheduler .stopping }

def marking (core : Core σ) (input : Input) (scan : Scan) (summary : TaskSummary)
    (reason : String) : Step σ :=
  match core.callTransition input (blockCommand summary reason) with
  | (core, .ok _) => { core := core, thread := .scheduler (.entryShutdown scan) }
  | (core, .error error) =>
      if error = .conflict then { core := core, thread := .scheduler (.competing scan summary) }
      else
        { core := core.latchFault error.text, thread := .scheduler (.entryShutdown scan) }

def step (config : Config) (core : Core σ) (input : Input) (pc : SchedulerPc) :
    Option (Step σ) :=
  let at_ (core : Core σ) (pc : SchedulerPc) : Option (Step σ) :=
    some { core := core, thread := .scheduler pc }
  match pc with
  | .idle => if core.ready then at_ core (.top ResourceFairness.fresh) else none
  | .top fairness => at_ core (if core.shuttingDown then .stopping else .topFault fairness)
  | .topFault fairness => at_ core (if core.fault.isSome then .stopping else .topSlots fairness)
  | .topSlots fairness =>
      at_ core
        (if core.inFlight < config.maxRunningTasks then
          .scanShutdown (Scan.begin fairness input.now)
        else .deadline fairness)
  | .scanShutdown scan =>
      at_ core (if core.shuttingDown then scanEnd scan false else .scanFault scan)
  | .scanFault scan =>
      at_ core (if core.fault.isSome then scanEnd scan false else .scanSlots scan)
  | .scanSlots scan =>
      at_ core (if core.inFlight ≥ config.maxRunningTasks then scanEnd scan false else .list scan)
  | .list scan =>
      match
        core.callRead input fun store =>
          TaskStore.listReadyQueued store scan.after config.scanPageSize scan.now with
      | .error error => at_ (core.latchFault error.text) .stopping
      | .ok page => at_ core (.entryShutdown { scan with rest := page.records, next := page.next })
  | .entryShutdown scan => at_ core (afterEntryShutdown scan core.shuttingDown)
  | .entrySlots scan =>
      at_ core
        (if core.inFlight ≥ config.maxRunningTasks then .pageShutdown scan else .dispatch scan)
  | .dispatch scan => at_ core (dispatchEntry config input scan)
  | .markBlocked scan summary reason => some (marking core input scan summary reason)
  | .competing scan summary =>
      at_ (core.checkCompetingTransition input summary.id summary.stateVersion)
        (.entryShutdown scan)
  | .admission scan summary =>
      if core.admissionWriter then none else at_ core.enterAdmission (.admitted scan summary)
  | .admitted scan summary =>
      if core.shuttingDown then at_ core.leaveAdmission (.pageShutdown scan)
      else at_ core (.start scan summary)
  | .start scan summary => some (starting core input scan summary)
  | .spawn scan running =>
      some
        { core := { core with inFlight := core.inFlight + 1 }
          thread := .scheduler (.entryShutdown scan)
          spawned := [.run { started := running, pc := .load }] }
  | .pageShutdown scan =>
      at_ core (if core.shuttingDown then scanEnd scan false else .pageSlots scan)
  | .pageSlots scan =>
      at_ core
        (if core.inFlight ≥ config.maxRunningTasks then scanEnd scan false
        else
          match scan.next with
          | none => scanEnd scan true
          | some cursor => .scanShutdown { scan with after := some cursor })
  | .deadline fairness =>
      match core.callRead input fun store => TaskStore.nextRetryDeadline store input.now with
      | .error error => at_ (core.latchFault error.text) .stopping
      | .ok retryAt => at_ core (.arm fairness retryAt)
  | .arm fairness retryAt =>
      at_ core (.suspended fairness (suspensionTimeout retryAt input.now))
  | .suspended fairness _ => at_ core (.top fairness)
  | .stopping => at_ { core with schedulerStopped := true } .stopped
  | .stopped => none

end SchedulerPc

end TaskService.Service
