import TaskService.Library.StepSystem

/-!
# Shutdown attempts and their results

`shutdown` calls and the supervisor share one record under a mutex: the number of the
attempt callers join, the outcomes of the attempts that have ended, whether the last release
may be retried, and whether a caller asked for it.  The supervisor appends an outcome after
each release; a caller waits for the outcome under the number it has joined.

The supervisor's rounds and the trace are not part of the program: they number the release
attempts and record what was seen, newest first, and no step decides anything by them.
-/

namespace TaskService.Service

open Library

inductive ShutdownOutcome where
  | complete
  | storeUnavailable (error : String)
  | notificationClose (error : String)
  deriving DecidableEq, Repr

structure ShutdownProgress where
  attempt : Nat
  results : List ShutdownOutcome
  retryableRelease : Bool
  retryRequested : Bool
  deriving DecidableEq, Repr

namespace ShutdownProgress

def fresh : ShutdownProgress :=
  { attempt := 0, results := [], retryableRelease := false, retryRequested := false }

def asks (progress : ShutdownProgress) : Bool :=
  progress.retryableRelease && decide (progress.results.length > progress.attempt)

/-- The locked section of `shutdown`; the caller joins the attempt it leaves. -/
def join (progress : ShutdownProgress) : ShutdownProgress :=
  if progress.asks then
    { progress with attempt := progress.attempt + 1, retryRequested := true }
  else progress

def publish (progress : ShutdownProgress) (outcome : ShutdownOutcome) (retryable : Bool) :
    ShutdownProgress :=
  { progress with
    results := progress.results ++ [outcome]
    retryableRelease := retryable
    retryRequested := false }

def panicOutcome : ShutdownOutcome :=
  .storeUnavailable "typed task shutdown supervisor panicked"

/-- The locked section after the supervisor has panicked; `none` is an index out of bounds. -/
def publishPanic (progress : ShutdownProgress) : Option ShutdownProgress :=
  if progress.results.length = progress.attempt then
    some (progress.publish panicOutcome false)
  else if progress.attempt < progress.results.length then
    some
      { progress with
        results := progress.results.set progress.attempt panicOutcome
        retryableRelease := false
        retryRequested := false }
  else none

end ShutdownProgress

inductive ReleaseEnd where
  | released
  | failed (error : String)
  | panicked
  deriving DecidableEq, Repr

/-- A latched fault hides the error of the release, which hides that of the publisher. -/
def shutdownOutcome (fault releaseError closeError : Option String) : ShutdownOutcome :=
  match fault with
  | some fault => .storeUnavailable fault
  | none =>
      match releaseError with
      | some error => .storeUnavailable error
      | none =>
          match closeError with
          | some error => .notificationClose error
          | none => .complete

inductive ReleasePc where
  /-- Waiting for the request, the scheduler, the active operations and the publisher. -/
  | draining
  | releasing (round : Nat)
  | judging (round : Nat) (releaseError : Option String)
  | publishing (round : Nat) (outcome : ShutdownOutcome) (retryable : Bool)
  | checkGone (round : Nat)
  | checkRetry (round : Nat)
  | panicked (round : Nat)
  | stopped
  deriving DecidableEq, Repr

inductive ShutdownPc where
  | request
  | join
  | wait (attempt : Nat)
  | returned (attempt : Nat) (outcome : ShutdownOutcome)
  | dropped
  deriving DecidableEq, Repr

inductive ShutdownEvent where
  /-- The supervisor calls the release of a round. -/
  | attempted (round : Nat)
  | ended (round : Nat) (result : ReleaseEnd)
  /-- The outcome of a round is written at an index of the results. -/
  | published (round index : Nat) (outcome : ShutdownOutcome)
  /-- A call asks for another release and is the first to join its attempt. -/
  | asked (attempt : Nat)
  | joined (caller attempt : Nat)
  /-- A call returns with an outcome it has found under the number of an attempt. -/
  | received (caller attempt : Nat) (outcome : ShutdownOutcome)
  deriving DecidableEq, Repr

structure ShutdownState where
  progress : ShutdownProgress
  shuttingDown : Bool
  publicGone : Bool
  closeError : Option String
  supervisor : ReleasePc
  callers : List ShutdownPc
  trace : List ShutdownEvent
  deriving DecidableEq, Repr

def ShutdownState.new : ShutdownState :=
  { progress := ShutdownProgress.fresh
    shuttingDown := false
    publicGone := false
    closeError := none
    supervisor := .draining
    callers := []
    trace := [] }

structure ReleaseInput where
  closeError : Option String := none
  release : ReleaseEnd := .released
  fault : Option String := none
  /-- Draining panics, for example in the publisher. -/
  drainPanics : Bool := false

inductive ShutdownAction where
  | call
  | caller (position : Nat)
  | dropCaller (position : Nat)
  /-- A fault is latched, or a handle asks for shutdown without waiting. -/
  | requestShutdown
  /-- The last public handle is dropped. -/
  | dropHandles
  | supervisor (input : ReleaseInput)

namespace ShutdownState

variable (state : ShutdownState)

def record (event : ShutdownEvent) : ShutdownState :=
  { state with trace := event :: state.trace }

def superviseAt (pc : ReleasePc) : ShutdownState :=
  { state with supervisor := pc }

def stepSupervisor (input : ReleaseInput) : Option ShutdownState :=
  match state.supervisor with
  | .draining =>
      if state.shuttingDown then
        if input.drainPanics then some (state.superviseAt (.panicked 0))
        else
          some ({ state with closeError := input.closeError, supervisor := .releasing 0 }.record
            (.attempted 0))
      else none
  | .releasing round =>
      match input.release with
      | .released =>
          some ((state.superviseAt (.judging round none)).record (.ended round .released))
      | .failed error =>
          some ((state.superviseAt (.judging round (some error))).record
            (.ended round (.failed error)))
      | .panicked =>
          some ((state.superviseAt (.panicked round)).record (.ended round .panicked))
  | .judging round releaseError =>
      some (state.superviseAt
        (.publishing round (shutdownOutcome input.fault releaseError state.closeError)
          releaseError.isSome))
  | .publishing round outcome retryable =>
      some ({ state with
          progress := state.progress.publish outcome retryable
          supervisor := if retryable then .checkGone round else .stopped }.record
        (.published round state.progress.results.length outcome))
  | .checkGone round =>
      some (state.superviseAt (if state.publicGone then .stopped else .checkRetry round))
  | .checkRetry round =>
      if state.progress.retryRequested then
        some ((state.superviseAt (.releasing (round + 1))).record (.attempted (round + 1)))
      else some (state.superviseAt (.checkGone round))
  | .panicked round =>
      state.progress.publishPanic.map fun progress =>
        { state with progress, supervisor := .stopped }.record
          (.published round state.progress.attempt ShutdownProgress.panicOutcome)
  | .stopped => none

def setCaller (position : Nat) (pc : ShutdownPc) : ShutdownState :=
  { state with callers := state.callers.set position pc }

def stepCaller (position : Nat) : Option ShutdownState :=
  match state.callers[position]? with
  | some .request =>
      some { state.setCaller position .join with shuttingDown := true }
  | some .join =>
      let attempt := state.progress.join.attempt
      let locked := { state with progress := state.progress.join }
      let asked := if state.progress.asks then locked.record (.asked attempt) else locked
      some ((asked.setCaller position (.wait attempt)).record (.joined position attempt))
  | some (.wait attempt) =>
      state.progress.results[attempt]?.map fun outcome =>
        (state.setCaller position (.returned attempt outcome)).record
          (.received position attempt outcome)
  | _ => none

def dropCaller (position : Nat) : Option ShutdownState :=
  match state.callers[position]? with
  | some .request | some (.wait _) => some (state.setCaller position .dropped)
  | _ => none

end ShutdownState

def ShutdownPc.alive : ShutdownPc → Bool
  | .request | .join | .wait _ => true
  | .returned _ _ | .dropped => false

/-- Calls borrow a public handle, so the last handle outlives them. -/
def ShutdownState.step (state : ShutdownState) : ShutdownAction → Option ShutdownState
  | .call =>
      if state.publicGone then none
      else some { state with callers := state.callers ++ [.request] }
  | .caller position => state.stepCaller position
  | .dropCaller position => state.dropCaller position
  | .requestShutdown => some { state with shuttingDown := true }
  | .dropHandles =>
      if state.callers.any ShutdownPc.alive then none
      else some { state with publicGone := true, shuttingDown := true }
  | .supervisor input => state.stepSupervisor input

end TaskService.Service
