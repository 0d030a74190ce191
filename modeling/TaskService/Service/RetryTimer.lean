import TaskService.Service.Ledger
import TaskService.Store.MemoryTaskStoreLaws
import TaskService.Store.SqliteTaskStore

/-!
# The retry timer of the scheduler loop

A scan at one clock reading offers the queued records whose deadline has passed by
then.  The query that arms the loop's timer comes later and only looks at deadlines
after its own reading.  A deadline between the two readings is in neither.
-/

namespace TaskService.Service

open Library Model Store

def SchedulerPc.scan : SchedulerPc → Option Scan
  | .scanShutdown scan | .scanFault scan | .scanSlots scan | .list scan | .entryShutdown scan
  | .entrySlots scan | .dispatch scan | .markBlocked scan _ _ | .competing scan _
  | .admission scan _ | .admitted scan _ | .start scan _ | .spawn scan _ | .pageShutdown scan
  | .pageSlots scan => some scan
  | _ => none

/-- How one turn of the loop ends: when its scan was done, the deadline its timer
is armed with, and the timeout of the suspension. -/
structure Suspension where
  scannedAt : Nat
  wakeAt : Option Nat
  timeout : Option Nat
  deriving DecidableEq, Repr

variable {σ : Type} [TaskStore σ]

/-- The end of a scan, the query for the next deadline and the suspension.  Other
threads may move between the three steps, so each has a core of its own. -/
def loopSuspension (config : Config) (pc : SchedulerPc) (scanned asked armed : Core σ)
    (ending asking arming : Input) : Option Suspension :=
  match pc.scan, pc.step config scanned ending with
  | some scan, some { thread := .scheduler (.deadline fairness), .. } =>
      match SchedulerPc.step config asked asking (.deadline fairness) with
      | some { thread := .scheduler (.arm fairness retryAt), .. } =>
          match SchedulerPc.step config armed arming (.arm fairness retryAt) with
          | some { thread := .scheduler (.suspended _ timeout), .. } =>
              some { scannedAt := scan.now, wakeAt := retryAt, timeout := timeout }
          | _ => none
      | _ => none
  | _, _ => none

variable {suspension : Suspension}

theorem loop_suspension_asks {config : Config} {pc : SchedulerPc} {scanned asked armed : Core σ}
    {ending asking arming : Input}
    (suspends : loopSuspension config pc scanned asked armed ending asking arming =
      some suspension) :
    TaskStore.nextRetryDeadline asked.store asking.now = .ok suspension.wakeAt ∧
      suspension.timeout = suspensionTimeout suspension.wakeAt arming.now := by
  unfold loopSuspension at suspends
  split at suspends
  · rename_i scan core fairness spawned scanning ended
    split at suspends
    · rename_i after again retryAt following answered
      split at suspends
      · rename_i later final timeout others armedAt
        cases suspends
        simp only [SchedulerPc.step, Core.callRead] at answered armedAt
        cases failure : asking.storeFailure with
        | some message =>
          rw [failure] at answered
          cases answered
        | none =>
          rw [failure] at answered
          cases query : TaskStore.nextRetryDeadline asked.store asking.now with
          | error error =>
            rw [query] at answered
            cases answered
          | ok answer =>
            rw [query] at answered
            cases answered
            cases armedAt
            exact ⟨rfl, rfl⟩
      · cases suspends
    · cases suspends
  · cases suspends

/-- The suspension is bounded by every deadline that the scan has left, and by the
time of the query, exactly when no deadline lies after the scan and not after the
query. -/
theorem retry_deadline_bounds_suspension_iff [LawfulStore σ] (config : Config)
    (pc : SchedulerPc) (scanned asked armed : Core σ) (ending asking arming : Input)
    (suspension : Suspension) (valid : LawfulStore.Valid asked.store)
    (suspends : loopSuspension config pc scanned asked armed ending asking arming =
      some suspension) :
    (∀ id deadline, QueuedUntil (TaskStore.getEncodedTask asked.store) id deadline →
        suspension.scannedAt < deadline →
        ∃ wakeAt, suspension.wakeAt = some wakeAt ∧ wakeAt ≤ max deadline asking.now ∧
          suspension.timeout = some (wakeAt - arming.now)) ↔
      ∀ id deadline, QueuedUntil (TaskStore.getEncodedTask asked.store) id deadline →
        ¬ (suspension.scannedAt < deadline ∧ deadline ≤ asking.now) := by
  obtain ⟨answered, timeout⟩ := loop_suspension_asks suspends
  have next := LawfulStore.next_deadline asked.store asking.now _ valid answered
  constructor
  · intro bounded id deadline queued gap
    obtain ⟨wakeAt, armedWith, bound, -⟩ := bounded id deadline queued gap.1
    have later := next.later wakeAt armedWith
    rw [Nat.max_eq_right gap.2] at bound
    omega
  · intro noGap id deadline queued unoffered
    have later : asking.now < deadline := by
      have outside := noGap id deadline queued
      omega
    obtain ⟨first, armedWith, least⟩ := next.least id deadline queued later
    refine ⟨first, armedWith, Nat.le_trans least (Nat.le_max_left _ _), ?_⟩
    rw [timeout, armedWith]
    rfl

/-- The attempt fails at time 0 and is requeued until time 1, while the scheduler is
in the middle of its scan at time 0. -/
def sampleRetry : List Action :=
  sampleStart ++
    [.thread 5 { execution := .returned (.error
      { category := "io", message := "busy", retryable := true }) }] ++
    threadSteps [5, 5, 5, 0, 0]

def System.turnAt (system : System σ) (now : Nat) : Option Suspension :=
  match system.threads.head? with
  | some (.scheduler pc) =>
      loopSuspension system.config pc system.core system.core system.core {} { now := now }
        { now := now }
  | _ => none

theorem turn_suspends {system : System σ} {now : Nat}
    (turned : system.turnAt now = some suspension) :
    ∃ pc, system.threads.head? = some (.scheduler pc) ∧
      loopSuspension system.config pc system.core system.core system.core {} { now := now }
        { now := now } = some suspension := by
  unfold System.turnAt at turned
  split at turned
  · rename_i pc found
    exact ⟨pc, found, turned⟩
  · cases turned

/-- A queued record whose deadline the scan at time 0 did not reach, and a suspension
without a timeout. -/
def DeadlineMissed (start : System σ) : Prop :=
  ∃ (final : System σ) (pc : SchedulerPc),
    runActions System.step start sampleRetry = some final ∧
      final.threads.head? = some (.scheduler pc) ∧
      QueuedUntil (TaskStore.getEncodedTask final.core.store) sampleId 1 ∧
      loopSuspension final.config pc final.core final.core final.core {} { now := 2 }
        { now := 2 } = some { scannedAt := 0, wakeAt := none, timeout := none }

theorem deadline_missed_of_check {start : System σ}
    (checked : (runActions System.step start sampleRetry).any (fun final =>
      decide (QueuedUntil (TaskStore.getEncodedTask final.core.store) sampleId 1 ∧
        final.turnAt 2 = some { scannedAt := 0, wakeAt := none, timeout := none })) = true) :
    DeadlineMissed start := by
  obtain ⟨final, reached, observed⟩ := run_of_check checked
  obtain ⟨queued, turned⟩ := of_decide_eq_true observed
  obtain ⟨pc, found, suspends⟩ := turn_suspends turned
  exact ⟨final, pc, reached, found, queued, suspends⟩

/-- With either store, a deadline at 1 is not offered by the scan at 0 and does not
bound the suspension after the query at 2. -/
theorem retry_deadline_missed :
    DeadlineMissed (sampleSystem .cooperative) ∧
      letI := sampleIdCodec
      DeadlineMissed (System.boot (sampleConfig .cooperative) SqliteTaskStore.sample []) := by
  let codec := sampleIdCodec
  exact ⟨deadline_missed_of_check (by decide), deadline_missed_of_check (by decide)⟩

/-- A query at 0 leaves no gap, and the deadline bounds the suspension. -/
theorem retry_deadline_bounds_suspension_sample :
    ∃ (final : System MemoryTaskStore) (suspension : Suspension) (wakeAt : Nat),
      runActions System.step (sampleSystem .cooperative) sampleRetry = some final ∧
        final.turnAt 0 = some suspension ∧
        QueuedUntil (TaskStore.getEncodedTask final.core.store) sampleId 1 ∧
        suspension.wakeAt = some wakeAt ∧ wakeAt ≤ 1 ∧ suspension.timeout = some (wakeAt - 0) := by
  obtain ⟨final, reached, observed⟩ := @run_of_check _ _ System.step
    (sampleSystem .cooperative) sampleRetry
    (fun final => decide (QueuedUntil (TaskStore.getEncodedTask final.core.store) sampleId 1 ∧
      final.turnAt 0 = some { scannedAt := 0, wakeAt := some 1, timeout := some 1 }))
    (by decide)
  obtain ⟨queued, turned⟩ := of_decide_eq_true observed
  obtain ⟨pc, -, suspends⟩ := turn_suspends turned
  have ledger : Ledger final :=
    ledger_run (ledger_boot (with_limits_valid ..) (with_limits_known _ _ _ _)) (by decide)
      reached
  obtain ⟨wakeAt, armedWith, bound, timeout⟩ :=
    (retry_deadline_bounds_suspension_iff final.config pc final.core final.core final.core {}
      { now := 0 } { now := 0 } _ ledger.valid suspends).mpr
      (fun id deadline _ gap => Nat.lt_irrefl 0 (Nat.lt_of_lt_of_le gap.1 gap.2))
      sampleId 1 queued Nat.zero_lt_one
  exact ⟨final, _, wakeAt, reached, turned, queued, armedWith, bound, timeout⟩

end TaskService.Service
