import TaskService.Service.System

/-!
# Steps of the scheduler

Every step of the scheduler loop, by the counter it starts from: the checks at the
top of the loop, the ready page by page, the verdict on each entry of a page, the
start of a reserved entry, and the suspension between two scans.
-/

namespace TaskService.Service

open Library Model Store
open TaskStore SchedulerPc

variable {σ : Type} [TaskStore σ]

def Scan.consider (scan : Scan) (summary : TaskSummary) (rest : List TaskSummary) : Scan :=
  { scan.observe summary with rest := rest }

def Scan.waitFor (scan : Scan) (summary : TaskSummary) : Scan :=
  Scan.observe
    { scan with
      fairness :=
        if scan.fairness.anchor.isNone then
          { scan.fairness with anchor := some (summary.id, summary.acceptedAtMs) }
        else scan.fairness }
    summary

variable (config : Config) (core : Core σ) (input : Input)

inductive SchedulerStep : SchedulerPc → Step σ → Prop
  | wakes (ready : core.ready = true) :
      SchedulerStep .idle ⟨core, .scheduler (.top ResourceFairness.fresh), []⟩
  | quits (fairness : ResourceFairness) (shutting : core.shuttingDown = true) :
      SchedulerStep (.top fairness) ⟨core, .scheduler .stopping, []⟩
  | goesOn (fairness : ResourceFairness) (running : core.shuttingDown = false) :
      SchedulerStep (.top fairness) ⟨core, .scheduler (.topFault fairness), []⟩
  | faulted (fairness : ResourceFairness) (fault : core.fault.isSome = true) :
      SchedulerStep (.topFault fairness) ⟨core, .scheduler .stopping, []⟩
  | healthy (fairness : ResourceFairness) :
      SchedulerStep (.topFault fairness) ⟨core, .scheduler (.topSlots fairness), []⟩
  | begins (fairness : ResourceFairness) (free : core.inFlight < config.maxRunningTasks) :
      SchedulerStep (.topSlots fairness)
        ⟨core, .scheduler (.scanShutdown (Scan.begin fairness input.now)), []⟩
  | full (fairness : ResourceFairness) :
      SchedulerStep (.topSlots fairness) ⟨core, .scheduler (.deadline fairness), []⟩
  | scanShut (scan : Scan) (shutting : core.shuttingDown = true) :
      SchedulerStep (.scanShutdown scan) ⟨core, .scheduler (scanEnd scan false), []⟩
  | scanOpen (scan : Scan) :
      SchedulerStep (.scanShutdown scan) ⟨core, .scheduler (.scanFault scan), []⟩
  | scanFaulted (scan : Scan) (fault : core.fault.isSome = true) :
      SchedulerStep (.scanFault scan) ⟨core, .scheduler (scanEnd scan false), []⟩
  | scanHealthy (scan : Scan) :
      SchedulerStep (.scanFault scan) ⟨core, .scheduler (.scanSlots scan), []⟩
  | scanFull (scan : Scan) (full : config.maxRunningTasks ≤ core.inFlight) :
      SchedulerStep (.scanSlots scan) ⟨core, .scheduler (scanEnd scan false), []⟩
  | scanFree (scan : Scan) : SchedulerStep (.scanSlots scan) ⟨core, .scheduler (.list scan), []⟩
  | unlisted (scan : Scan) (error : StoreError) (called : (core.callRead input fun store =>
        listReadyQueued store scan.after config.scanPageSize scan.now) = .error error) :
      SchedulerStep (.list scan) ⟨core.latchFault error.text, .scheduler .stopping, []⟩
  | listed (scan : Scan) (page : TaskPage) (called : (core.callRead input fun store =>
        listReadyQueued store scan.after config.scanPageSize scan.now) = .ok page) :
      SchedulerStep (.list scan)
        { core := core
          thread :=
            .scheduler (.entryShutdown { scan with rest := page.records, next := page.next }) }
  | pageDone (scan : Scan) (done : scan.rest = [] ∨ core.shuttingDown = true) :
      SchedulerStep (.entryShutdown scan) ⟨core, .scheduler (.pageShutdown scan), []⟩
  | entryLeft (scan : Scan) :
      SchedulerStep (.entryShutdown scan) ⟨core, .scheduler (.entrySlots scan), []⟩
  | slotsGone (scan : Scan) (full : config.maxRunningTasks ≤ core.inFlight) :
      SchedulerStep (.entrySlots scan) ⟨core, .scheduler (.pageShutdown scan), []⟩
  | slotFree (scan : Scan) (free : core.inFlight < config.maxRunningTasks) :
      SchedulerStep (.entrySlots scan) ⟨core, .scheduler (.dispatch scan), []⟩
  | emptied (scan : Scan) (none_ : scan.rest = []) :
      SchedulerStep (.dispatch scan) ⟨core, .scheduler (.pageShutdown scan), []⟩
  | ineligible (scan : Scan) (summary : TaskSummary) (rest : List TaskSummary) (reason : String)
      (next : scan.rest = summary :: rest)
      (problem : config.handlers.dispatchProblem summary = some reason) :
      SchedulerStep (.dispatch scan)
        ⟨core, .scheduler (.markBlocked (scan.consider summary rest) summary reason), []⟩
  | passesOver (scan : Scan) (summary : TaskSummary) (rest : List TaskSummary)
      (next : scan.rest = summary :: rest)
      (eligible : config.handlers.dispatchProblem summary = none)
      (verdict : input.reservation = .ok true)
      (spent : config.maxResourceBypasses ≤ scan.fairness.bypasses)
      (beyond : beyondAnchor scan.fairness summary = true) :
      SchedulerStep (.dispatch scan)
        ⟨core, .scheduler (.entryShutdown (scan.consider summary rest)), []⟩
  | reserves (scan : Scan) (summary : TaskSummary) (rest : List TaskSummary)
      (next : scan.rest = summary :: rest)
      (eligible : config.handlers.dispatchProblem summary = none)
      (verdict : input.reservation = .ok true)
      (allowed : beyondAnchor scan.fairness summary = true →
        scan.fairness.bypasses < config.maxResourceBypasses) :
      SchedulerStep (.dispatch scan)
        ⟨core, .scheduler (.admission (scan.consider summary rest) summary), []⟩
  | refuses (scan : Scan) (summary : TaskSummary) (rest : List TaskSummary)
      (next : scan.rest = summary :: rest)
      (eligible : config.handlers.dispatchProblem summary = none)
      (verdict : input.reservation = .ok false) :
      SchedulerStep (.dispatch scan)
        ⟨core, .scheduler (.entryShutdown ((scan.consider summary rest).waitFor summary)), []⟩
  | impossible (scan : Scan) (summary : TaskSummary) (rest : List TaskSummary) (reason : String)
      (next : scan.rest = summary :: rest)
      (eligible : config.handlers.dispatchProblem summary = none)
      (verdict : input.reservation = .error reason) :
      SchedulerStep (.dispatch scan)
        { core := core
          thread :=
            .scheduler
              (.markBlocked ((scan.consider summary rest).observe summary) summary reason) }
  | blocks (scan : Scan) (summary written : TaskSummary) (reason : String) (after : Core σ)
      (called : core.callTransition input (blockCommand summary reason) =
        (after, .ok written)) :
      SchedulerStep (.markBlocked scan summary reason) ⟨after, .scheduler (.entryShutdown scan), []⟩
  | blockLost (scan : Scan) (summary : TaskSummary) (reason : String) (after : Core σ)
      (called : core.callTransition input (blockCommand summary reason) =
        (after, .error .conflict)) :
      SchedulerStep (.markBlocked scan summary reason)
        ⟨after, .scheduler (.competing scan summary), []⟩
  | blockFailed (scan : Scan) (summary : TaskSummary) (reason : String) (error : StoreError)
      (after : Core σ) (called : core.callTransition input (blockCommand summary reason) =
        (after, .error error))
      (other : error ≠ .conflict) :
      SchedulerStep (.markBlocked scan summary reason)
        ⟨after.latchFault error.text, .scheduler (.entryShutdown scan), []⟩
  | competed (scan : Scan) (summary : TaskSummary) :
      SchedulerStep (.competing scan summary)
        { core := core.checkCompetingTransition input summary.id summary.stateVersion
          thread := .scheduler (.entryShutdown scan) }
  | enters (scan : Scan) (summary : TaskSummary) :
      SchedulerStep (.admission scan summary)
        ⟨core.enterAdmission, .scheduler (.admitted scan summary), []⟩
  | turnedAway (scan : Scan) (summary : TaskSummary) (shutting : core.shuttingDown = true) :
      SchedulerStep (.admitted scan summary)
        ⟨core.leaveAdmission, .scheduler (.pageShutdown scan), []⟩
  | granted (scan : Scan) (summary : TaskSummary) :
      SchedulerStep (.admitted scan summary) ⟨core, .scheduler (.start scan summary), []⟩
  | starts (scan : Scan) (summary running : TaskSummary) (after : Core σ)
      (called : core.callStart input (startCommand summary input.now) =
        (after, .ok running)) :
      SchedulerStep (.start scan summary)
        { core := after.leaveAdmission.record (.started running.id running.attempt)
          thread :=
            .scheduler
              (.spawn { scan with fairness := scan.fairness.afterStart summary } running) }
  | superseded (scan : Scan) (summary : TaskSummary) (error : StoreError) (after : Core σ)
      (called : core.callStart input (startCommand summary input.now) =
        (after, .error error))
      (lost : error = .conflict ∨ error = .notFound) :
      SchedulerStep (.start scan summary)
        ⟨after.leaveAdmission, .scheduler (.entryShutdown scan), []⟩
  | startFailed (scan : Scan) (summary : TaskSummary) (error : StoreError) (after : Core σ)
      (called : core.callStart input (startCommand summary input.now) =
        (after, .error error))
      (other : ¬ (error = .conflict ∨ error = .notFound)) :
      SchedulerStep (.start scan summary)
        ⟨after.leaveAdmission.latchFault error.text, .scheduler .stopping, []⟩
  | spawns (scan : Scan) (running : TaskSummary) :
      SchedulerStep (.spawn scan running)
        { core := { core with inFlight := core.inFlight + 1 }
          thread := .scheduler (.entryShutdown scan)
          spawned := [.run { started := running, pc := .load }] }
  | pageShut (scan : Scan) (shutting : core.shuttingDown = true) :
      SchedulerStep (.pageShutdown scan) ⟨core, .scheduler (scanEnd scan false), []⟩
  | pageOpen (scan : Scan) :
      SchedulerStep (.pageShutdown scan) ⟨core, .scheduler (.pageSlots scan), []⟩
  | pageFull (scan : Scan) (full : config.maxRunningTasks ≤ core.inFlight) :
      SchedulerStep (.pageSlots scan) ⟨core, .scheduler (scanEnd scan false), []⟩
  | completed (scan : Scan) (free : core.inFlight < config.maxRunningTasks)
      (last : scan.next = none) :
      SchedulerStep (.pageSlots scan) ⟨core, .scheduler (scanEnd scan true), []⟩
  | turnsPage (scan : Scan) (cursor : TaskCursor)
      (free : core.inFlight < config.maxRunningTasks) (more : scan.next = some cursor) :
      SchedulerStep (.pageSlots scan)
        ⟨core, .scheduler (.scanShutdown { scan with after := some cursor }), []⟩
  | unasked (fairness : ResourceFairness) (error : StoreError)
      (called : (core.callRead input fun store => nextRetryDeadline store input.now) =
        .error error) :
      SchedulerStep (.deadline fairness) ⟨core.latchFault error.text, .scheduler .stopping, []⟩
  | asked (fairness : ResourceFairness) (retryAt : Option Nat) :
      SchedulerStep (.deadline fairness) ⟨core, .scheduler (.arm fairness retryAt), []⟩
  | arms (fairness : ResourceFairness) (retryAt : Option Nat) :
      SchedulerStep (.arm fairness retryAt)
        ⟨core, .scheduler (.suspended fairness (suspensionTimeout retryAt input.now)), []⟩
  | resumes (fairness : ResourceFairness) (timeout : Option Nat) :
      SchedulerStep (.suspended fairness timeout) ⟨core, .scheduler (.top fairness), []⟩
  | stops :
      SchedulerStep .stopping ⟨{ core with schedulerStopped := true }, .scheduler .stopped, []⟩

section

variable {config core input} {result : Step σ}

theorem read_page {scan : Scan} {page : TaskPage} (called : (core.callRead input fun store =>
      listReadyQueued store scan.after config.scanPageSize scan.now) = .ok page) :
    listReadyQueued core.store scan.after config.scanPageSize scan.now = .ok page := by
  unfold Core.callRead at called
  split at called
  · cases called
  · exact called

theorem dispatch_step_cases (scan : Scan) :
    SchedulerStep config core input (.dispatch scan)
      { core := core, thread := .scheduler (dispatchEntry config input scan) } := by
  unfold dispatchEntry
  split
  · rename_i none_
    exact .emptied scan none_
  · rename_i summary rest next
    simp only
    split
    · rename_i reason problem
      exact .ineligible scan summary rest reason next problem
    · rename_i eligible
      cases verdict : input.reservation with
      | error reason => exact .impossible scan summary rest reason next eligible verdict
      | ok reserved =>
        cases reserved with
        | false => exact .refuses scan summary rest next eligible verdict
        | true =>
          simp only [reserve]
          split
          · rename_i over_
            obtain ⟨spent, beyond⟩ := Bool.and_eq_true_iff.mp over_
            exact .passesOver scan summary rest next eligible verdict
              (of_decide_eq_true spent) beyond
          · rename_i under
            apply SchedulerStep.reserves scan summary rest next eligible verdict
            intro beyond
            by_contra spent
            apply under
            rw [Bool.and_eq_true_iff]
            exact ⟨decide_eq_true (Nat.not_lt.mp spent), beyond⟩

theorem marking_step_cases (scan : Scan) (summary : TaskSummary) (reason : String) :
    SchedulerStep config core input (.markBlocked scan summary reason)
      (marking core input scan summary reason) := by
  unfold marking
  split
  · rename_i after written called
    exact .blocks scan summary written reason after called
  · rename_i after error called
    split
    · rename_i conflict
      rw [conflict] at called
      exact .blockLost scan summary reason after called
    · rename_i other
      exact .blockFailed scan summary reason error after called other

theorem starting_step_cases (scan : Scan) (summary : TaskSummary) :
    SchedulerStep config core input (.start scan summary)
      (starting core input scan summary) := by
  unfold starting
  split
  · rename_i after running called
    exact .starts scan summary running after called
  · rename_i after error called
    split
    · rename_i lost
      exact .superseded scan summary error after called lost
    · rename_i other
      exact .startFailed scan summary error after called other

theorem scheduler_step_cases (pc : SchedulerPc)
    (stepped : pc.step config core input = some result) :
    SchedulerStep config core input pc result := by
  cases pc with
  | idle =>
    simp only [step] at stepped
    split at stepped
    · rename_i ready
      cases stepped
      exact .wakes ready
    · cases stepped
  | top fairness =>
    cases stepped
    split
    · rename_i shutting
      exact .quits fairness shutting
    · rename_i running
      exact .goesOn fairness (by simpa using running)
  | topFault fairness =>
    cases stepped
    split
    · rename_i fault
      exact .faulted fairness fault
    · exact .healthy fairness
  | topSlots fairness =>
    cases stepped
    split
    · rename_i free
      exact .begins fairness free
    · exact .full fairness
  | scanShutdown scan =>
    cases stepped
    split
    · rename_i shutting
      exact .scanShut scan shutting
    · exact .scanOpen scan
  | scanFault scan =>
    cases stepped
    split
    · rename_i fault
      exact .scanFaulted scan fault
    · exact .scanHealthy scan
  | scanSlots scan =>
    cases stepped
    split
    · rename_i full
      exact .scanFull scan full
    · exact .scanFree scan
  | list scan =>
    simp only [step] at stepped
    split at stepped
    · rename_i error called
      cases stepped
      exact .unlisted scan error called
    · rename_i page called
      cases stepped
      exact .listed scan page called
  | entryShutdown scan =>
    cases stepped
    unfold afterEntryShutdown
    split
    · rename_i done
      apply SchedulerStep.pageDone scan
      rcases Bool.or_eq_true_iff.mp done with empty | shutting
      · exact .inl (List.isEmpty_iff.mp empty)
      · exact .inr shutting
    · exact .entryLeft scan
  | entrySlots scan =>
    cases stepped
    split
    · rename_i full
      exact .slotsGone scan full
    · rename_i free
      exact .slotFree scan (Nat.not_le.mp free)
  | dispatch scan =>
    cases stepped
    exact dispatch_step_cases scan
  | markBlocked scan summary reason =>
    cases stepped
    exact marking_step_cases scan summary reason
  | competing scan summary =>
    cases stepped
    exact .competed scan summary
  | admission scan summary =>
    simp only [step] at stepped
    split at stepped
    · cases stepped
    · cases stepped
      exact .enters scan summary
  | admitted scan summary =>
    simp only [step] at stepped
    split at stepped
    · rename_i shutting
      cases stepped
      exact .turnedAway scan summary shutting
    · cases stepped
      exact .granted scan summary
  | start scan summary =>
    cases stepped
    exact starting_step_cases scan summary
  | spawn scan running =>
    cases stepped
    exact .spawns scan running
  | pageShutdown scan =>
    cases stepped
    split
    · rename_i shutting
      exact .pageShut scan shutting
    · exact .pageOpen scan
  | pageSlots scan =>
    cases stepped
    split
    · rename_i full
      exact .pageFull scan full
    · rename_i free
      split
      · rename_i last
        exact .completed scan (Nat.not_le.mp free) last
      · rename_i cursor more
        exact .turnsPage scan cursor (Nat.not_le.mp free) more
  | deadline fairness =>
    simp only [step] at stepped
    split at stepped
    · rename_i error called
      cases stepped
      exact .unasked fairness error called
    · rename_i retryAt called
      cases stepped
      exact .asked fairness retryAt
  | arm fairness retryAt =>
    cases stepped
    exact .arms fairness retryAt
  | suspended fairness timeout =>
    cases stepped
    exact .resumes fairness timeout
  | stopping =>
    cases stepped
    exact .stops
  | stopped => cases stepped

end

end TaskService.Service
