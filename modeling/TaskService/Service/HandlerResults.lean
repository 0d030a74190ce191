import TaskService.Service.Ledger
import TaskService.Store.MemoryTaskStoreLaws
import TaskService.Store.SqliteTaskStoreLaws

/-!
# Recording handler results

`run_one` hands what a handler returned, or why its payload could not be prepared,
to `finish` as it is.  The stores check the byte limits of the diagnostics, so a
long category or message is refused as an invalid request, and the refusal is a
fault of the service.
-/

namespace TaskService.Service

open Library Model Store
open TaskStore LawfulStore RunTask

variable {σ : Type} [TaskStore σ]

/-- The steps of one attempt with no other thread in between, until the inputs are
used up or the attempt is over. -/
def soloRun (config : Config) : Core σ → RunTask → List Input → Core σ × RunTask
  | core, task, [] => (core, task)
  | core, task, input :: rest =>
      match task.step config core input with
      | some { core := after, thread := .run next, .. } => soloRun config after next rest
      | _ => (core, task)

/-- The ways an attempt comes to its `finish`: its handler has ended, or its payload
could not be prepared. -/
inductive AttemptEnd (config : Config) (started : TaskSummary) (stored : StoredTask) :
    RunPc → List Input → Completion → Prop
  | handler (flag : Nat) (ending unregistering : Input) :
      AttemptEnd config started stored (.running flag) [ending, unregistering]
        (RunTask.completionOf ending.execution)
  | preparation (loading : Input) (error : HandlerDispatchError)
      (rejected : config.handlers.prepare started.kindId stored.request.payload =
        .rejected error) :
      AttemptEnd config started stored .load [loading] (RunTask.preparationFailure error)

def Recorded (config : Config) (core : Core σ) (started : TaskSummary) (pc : RunPc)
    (inputs : List Input) (completion : Completion) : Prop :=
  let final := soloRun config core { started := started, pc := pc } inputs
  final.2.pc = .done (some completion) ∧ final.1.fault = none ∧
    ¬ RunningAt (final.1.recordOf started.id) started.attempt

/-- What `finish` asks the store to record fits the limits of a diagnostic; a retry
records none. -/
def DiagnosticsFit (config : Config) (started latest : TaskSummary) (completion : Completion) :
    Prop :=
  RunTask.retries config started latest completion = true ∨
    completion.state.validateDiagnostics = .ok ()

def outcomeEvent (config : Config) (started latest : TaskSummary) (completion : Completion) :
    TaskEvent :=
  { schemaVersion := 1
    taskId := latest.id
    stateVersion := latest.stateVersion + 1
    state := if RunTask.retries config started latest completion then .queued else completion.state
    correlationKey := latest.correlationKey }

/-- What `run_one` hands to `finish`: a terminal state, and an output only with
success, which is never retried. -/
structure Completion.Proper (completion : Completion) : Prop where
  terminal : completion.state.isTerminal = true
  output : ∀ output, completion.output = some output → completion.state = .succeeded ∧
    output.summary.length ≤ maxTaskOutputSummaryBytes ∧ completion.retryable = false

theorem completion_of_proper (execution : HandlerExecution) :
    (completionOf execution).Proper := by
  unfold completionOf
  split
  · split
    · rename_i fits
      refine ⟨rfl, ?_⟩
      intro output same
      cases same
      exact ⟨rfl, fits, rfl⟩
    · exact ⟨rfl, fun _ same => by cases same⟩
  · exact ⟨rfl, fun _ same => by cases same⟩
  · exact ⟨rfl, fun _ same => by cases same⟩
  · exact ⟨rfl, fun _ same => by cases same⟩

theorem attempt_end_proper {config : Config} {started : TaskSummary} {stored : StoredTask}
    {pc : RunPc} {entry : List Input} {completion : Completion}
    (ends : AttemptEnd config started stored pc entry completion) : completion.Proper := by
  cases ends with
  | handler flag ending => exact completion_of_proper ending.execution
  | preparation => exact ⟨rfl, fun _ same => by cases same⟩

section Solo

variable {config : Config} {core : Core σ} {started : TaskSummary} {stored : StoredTask}
  {completion : Completion}

variable {input : Input} {entry : List Input} {pc : RunPc}

theorem call_get_operational (core : Core σ) (operational : input.storeFailure = none)
    (id : TaskId) : core.callGet input id = .ok (core.recordOf id) := by
  simp only [Core.callGet, operational, Core.recordOf]

theorem call_transition_operational (core : Core σ) (operational : input.storeFailure = none)
    (command : TransitionCommand) :
    core.callTransition input command =
      ({ core with store := (transitionEncoded core.store input.clock command).1 }.record
          (.issued .transition),
        (transitionEncoded core.store input.clock command).2) := by
  simp only [Core.callTransition, Core.callWrite, operational]

theorem solo_entry (rest : List Input) (ends : AttemptEnd config started stored pc entry completion)
    (operational : ∀ input ∈ entry, input.storeFailure = none)
    (present : core.recordOf started.id = some stored) (running : stored.summary.state = .running) :
    ∃ after : Core σ, after.store = core.store ∧ after.fault = core.fault ∧
      soloRun config core { started := started, pc := pc } (entry ++ rest) =
        soloRun config after { started := started, pc := .finishRead completion } rest := by
  cases ends with
  | handler =>
    exact ⟨{ core with
      cancellations := core.cancellations.erase (started.id, started.attempt) }, rfl, rfl, rfl⟩
  | preparation loading error rejected =>
    refine ⟨core, rfl, rfl, ?_⟩
    have called := call_get_operational core (operational loading (by simp)) started.id
    simp only [List.cons_append, List.nil_append, soloRun, step, called, present,
      prepare, running, rejected]
    rfl

variable [LawfulStore σ]

/-- Left alone, `finish` records its outcome exactly when the store accepts the
transition; a refusal is latched as a fault. -/
theorem solo_finish (reading writing clearing leaving : Input)
    (operational : reading.storeFailure = none ∧ writing.storeFailure = none)
    (valid : Valid core.store) (noFault : core.fault = none)
    (present : core.recordOf started.id = some stored) (running : stored.summary.state = .running)
    (counted : stored.summary.attempt = started.attempt)
    (terminal : completion.state.isTerminal = true) :
    Recorded config core started (.finishRead completion) [reading, writing, clearing, leaving]
        completion ↔
      ∃ written, (transitionEncoded core.store writing.clock
        (finishCommand config started stored.summary completion writing.now
          writing.later)).2 = .ok written := by
  have effect := transition_effect core.store writing.clock
    (finishCommand config started stored.summary completion writing.now writing.later)
    valid
  have live : stored.summary.state.isTerminal = false := by
    rw [running]
    rfl
  have read := call_get_operational core operational.1 started.id
  have wrote := call_transition_operational core operational.2
    (finishCommand config started stored.summary completion writing.now writing.later)
  generalize outcome : transitionEncoded core.store writing.clock
    (finishCommand config started stored.summary completion writing.now
      writing.later) = answered at effect wrote ⊢
  obtain ⟨store, answer⟩ := answered
  cases answer with
  | ok written =>
    refine ⟨fun _ => ⟨written, rfl⟩, fun _ => ?_⟩
    simp only [Recorded, soloRun, step, read, present, afterFinishRead, live,
      Bool.false_eq_true, ↓reduceIte, wrote]
    refine ⟨trivial, noFault, ?_⟩
    rintro ⟨later, shown, state, -⟩
    have left : getEncodedTask store started.id = some later := shown
    cases effect with
    | applied task held matched room kept others =>
      rcases kept with kept | ⟨-, gone⟩
      · rw [show getEncodedTask store started.id = _ from kept] at left
        cases left
        simp only [transitionedSummary, finishCommand] at state
        split at state
        · cases state
        · rw [state] at terminal
          cases terminal
      · rw [show getEncodedTask store started.id = _ from gone] at left
        cases left
  | error error =>
    have refused : error ≠ .conflict := by
      rintro rfl
      cases effect with
      | rejected error unchanged unmatched =>
        apply unmatched rfl stored present
        refine ⟨rfl, counted, .inl ?_⟩
        rw [running]
        exact TaskState.running_allows _
    refine ⟨fun recorded => ?_, fun accepted => by cases accepted.choose_spec⟩
    simp only [Recorded, soloRun, step, read, present, afterFinishRead, live,
      Bool.false_eq_true, ↓reduceIte, wrote, refused] at recorded
    have latched := recorded.2.1
    simp [Core.latchFault, Core.record, noFault] at latched

theorem recorded_iff_accepted (reading writing clearing leaving : Input)
    (ends : AttemptEnd config started stored pc entry completion)
    (operational : ∀ input ∈ entry ++ [reading, writing, clearing, leaving],
      input.storeFailure = none) (valid : Valid core.store)
    (noFault : core.fault = none) (present : core.recordOf started.id = some stored)
    (running : stored.summary.state = .running)
    (counted : stored.summary.attempt = started.attempt) :
    Recorded config core started pc (entry ++ [reading, writing, clearing, leaving]) completion ↔
      ∃ written, (transitionEncoded core.store writing.clock
        (finishCommand config started stored.summary completion writing.now
          writing.later)).2 = .ok written := by
  obtain ⟨after, store, fault, arrives⟩ := solo_entry [reading, writing, clearing, leaving] ends
    (fun input member => operational input (List.mem_append_left _ member)) present running
  have finishes : Recorded config core started pc
        (entry ++ [reading, writing, clearing, leaving]) completion ↔
      Recorded config after started (.finishRead completion) [reading, writing, clearing, leaving]
        completion := by
    simp only [Recorded, arrives]
  rw [finishes, ← store]
  apply solo_finish reading writing clearing leaving
  · exact ⟨operational reading (by simp), operational writing (by simp)⟩
  · rw [store]
    exact valid
  · rw [fault]
    exact noFault
  · simpa only [Core.recordOf, store] using present
  · exact running
  · exact counted
  · exact (attempt_end_proper ends).terminal

end Solo

section Commands

variable {config : Config} {started latest : TaskSummary} {completion : Completion}
  {now finishedAt : Nat}

theorem finish_diagnostics_iff :
    (finishCommand config started latest completion now
        finishedAt).state.validateDiagnostics = .ok () ↔
      DiagnosticsFit config started latest completion := by
  simp only [finishCommand, DiagnosticsFit]
  cases retries config started latest completion with
  | true => exact ⟨fun _ => .inl rfl, fun _ => rfl⟩
  | false =>
    refine ⟨fun fits => .inr fits, ?_⟩
    rintro (never | fits)
    · cases never
    · exact fits

theorem finish_output_valid (proper : completion.Proper) :
    validateEncodedOutput
      (finishCommand config started latest completion now finishedAt).state
      (finishCommand config started latest completion now finishedAt).output = .ok () := by
  cases given : completion.output with
  | none => simp [finishCommand, given, validateEncodedOutput]
  | some output =>
    obtain ⟨succeeded, fits, final⟩ := proper.output output given
    have once : retries config started latest completion = false := by
      simp [retries, final]
    simp [finishCommand, given, validateEncodedOutput, once, succeeded, fits]

theorem finish_matches (running : latest.state = .running)
    (counted : latest.attempt = started.attempt) :
    TransitionMatches latest
      (finishCommand config started latest completion now finishedAt) := by
  refine ⟨rfl, counted, .inl ?_⟩
  rw [running]
  exact TaskState.running_allows _

theorem finish_deadline_queued :
    (finishCommand config started latest completion now finishedAt).retryNotBeforeMs =
        none ∨
      (finishCommand config started latest completion now finishedAt).state = .queued := by
  simp only [finishCommand]
  split
  · exact .inr rfl
  · exact .inl rfl

end Commands

section Stores

variable {config : Config} {started : TaskSummary} {stored : StoredTask} {completion : Completion}
  {now finishedAt : Nat}

theorem memory_accepts_outcome_iff (store : MemoryTaskStore) (proper : completion.Proper)
    (present : store.getEncodedTask started.id = some stored)
    (running : stored.summary.state = .running)
    (counted : stored.summary.attempt = started.attempt) :
    (∃ written, (store.transitionEncoded (finishCommand config started stored.summary
        completion now finishedAt)).2 = .ok written) ↔
      DiagnosticsFit config started stored.summary completion ∧
        stored.summary.stateVersion + 1 < u64Bound := by
  have found : store.getEncodedTask (finishCommand config started stored.summary completion
      now finishedAt).id = some stored := present
  have checked : MemoryTaskStore.transitionCheck stored.summary (finishCommand config started
      stored.summary completion now finishedAt) = .ok () := by
    have live : stored.summary.state.isTerminal = false := by
      rw [running]
      rfl
    have deadline := @finish_deadline_queued config started stored.summary completion now finishedAt
    unfold MemoryTaskStore.transitionCheck
    rw [if_neg (not_not_intro (finish_matches running counted))]
    rcases deadline with none | queued
    · simp [live, none]
    · simp [live, queued]
  rw [← @finish_diagnostics_iff config started stored.summary completion now finishedAt]
  unfold MemoryTaskStore.transitionEncoded MemoryTaskStore.transitionEncodedBy
  split
  · rename_i message refused
    simp [refused]
  · rename_i fits
    rw [finish_output_valid proper]
    simp only [found, checked, fits, true_and]
    split
    · rename_i full
      have bound := checked_add_eq_none.mp full
      refine ⟨(fun accepted => by cases accepted.choose_spec), fun room => ?_⟩
      omega
    · rename_i version counts
      have bound := (checked_add_eq_some.mp counts).1
      exact ⟨fun _ => bound, fun _ => ⟨_, rfl⟩⟩

theorem sqlite_accepts_outcome_iff [IdCodec] (store : SqliteTaskStore) (clock : Clock)
    (valid : store.Valid) (owned : store.lockHeld = true) (proper : completion.Proper)
    (present : store.getEncodedTask started.id = some stored)
    (running : stored.summary.state = .running)
    (counted : stored.summary.attempt = started.attempt) :
    (∃ written, (store.transitionEncoded clock (finishCommand config started stored.summary
        completion now finishedAt)).2 = .ok written) ↔
      DiagnosticsFit config started stored.summary completion ∧
        stored.summary.stateVersion + 1 < i64Bound ∧
        (retries config started stored.summary completion = true →
          retryDeadline config started now < i64Bound) ∧
        (store.outboxEnabled = true →
          (outcomeEvent config started stored.summary completion).toJson.utf8ByteSize ≤
              Database.maxEventSnapshotBytes ∧
            clock.eventNow < i64Bound) := by
  obtain ⟨row, held, rfl⟩ := Database.get_encoded_task_eq_some.mp present
  have sound := valid.rows _ _ held
  have matched := @finish_matches config started (row.summary started.id) completion now finishedAt
    running counted
  have deadline := @finish_deadline_queued config started (row.summary started.id) completion now
    finishedAt
  have live : row.lifecycle.state.isTerminal = false := by
    rw [show row.lifecycle.state = .running from running]
    rfl
  have free : ¬ Database.outboxKeyTaken store.database.taskEventOutbox started.id
      (row.lifecycle.stateVersion + 1) := by
    rintro ⟨event, member, named, version⟩
    obtain ⟨owner, shown, bound⟩ := valid.events event member
    rw [named, held] at shown
    cases shown
    rw [version, sound.version] at bound
    omega
  unfold SqliteTaskStore.transitionEncoded
  rw [SqliteTaskStore.run_write_succeeds_iff owned, Database.transition_accepts_iff held,
    Database.record_event_accepts_iff, finish_diagnostics_iff]
  constructor
  · rintro ⟨fits, -, -, column, -, -, version, event⟩
    refine ⟨fits, version, ?_, ?_⟩
    · intro retried
      apply column
      simp [finishCommand, retried]
    · intro enabled
      obtain ⟨small, -, clocked, -⟩ := event enabled
      exact ⟨small, clocked⟩
  · rintro ⟨fits, version, column, event⟩
    refine ⟨fits, finish_output_valid proper, deadline, ?_, ⟨?_, matched.2⟩, ?_, version, ?_⟩
    · intro value asked
      simp only [finishCommand] at asked
      split at asked
      · rename_i retried
        cases asked
        exact column retried
      · cases asked
    · exact sound.version
    · simp [live]
    · intro enabled
      obtain ⟨small, clocked⟩ := event enabled
      exact ⟨small, version, clocked, free⟩

end Stores

/-- Whatever a handler returned and however its payload failed to decode: left alone
with an operational store, the attempt is recorded exactly when its diagnostics fit
their limits, the version counter has room and, in the database, the retry deadline
and the event of the revision fit their columns. -/
theorem handler_result_recorded_iff (config : Config) (started : TaskSummary)
    (stored : StoredTask) (pc : RunPc) (entry : List Input) (completion : Completion)
    (reading writing clearing leaving : Input)
    (ends : AttemptEnd config started stored pc entry completion)
    (operational : ∀ input ∈ entry ++ [reading, writing, clearing, leaving],
      input.storeFailure = none)
    (running : stored.summary.state = .running)
    (counted : stored.summary.attempt = started.attempt) :
    (∀ core : Core MemoryTaskStore, LawfulStore.Valid core.store → core.fault = none →
      core.recordOf started.id = some stored →
      (Recorded config core started pc (entry ++ [reading, writing, clearing, leaving])
          completion ↔
        DiagnosticsFit config started stored.summary completion ∧
          stored.summary.stateVersion + 1 < u64Bound)) ∧
    (∀ [IdCodec] (core : Core SqliteTaskStore), LawfulStore.Valid core.store →
      core.store.lockHeld = true → core.fault = none → core.recordOf started.id = some stored →
      (Recorded config core started pc (entry ++ [reading, writing, clearing, leaving])
          completion ↔
        DiagnosticsFit config started stored.summary completion ∧
          stored.summary.stateVersion + 1 < i64Bound ∧
          (RunTask.retries config started stored.summary completion = true →
            RunTask.retryDeadline config started writing.now < i64Bound) ∧
          (core.store.outboxEnabled = true →
            (outcomeEvent config started stored.summary completion).toJson.utf8ByteSize ≤
                Database.maxEventSnapshotBytes ∧
              writing.clock.eventNow < i64Bound))) := by
  have proper := attempt_end_proper ends
  constructor
  · intro core valid noFault present
    rw [recorded_iff_accepted reading writing clearing leaving ends operational valid noFault
      present running counted]
    exact memory_accepts_outcome_iff core.store proper present running counted
  · intro codec core valid owned noFault present
    rw [recorded_iff_accepted reading writing clearing leaving ends operational valid noFault
      present running counted]
    exact sqlite_accepts_outcome_iff core.store writing.clock valid owned proper present running
      counted

def sampleReturn (error : TaskRunError) : List Input :=
  [{ execution := .returned (.error error) }, {}, {}, {}, {}, {}]

def System.afterReturn (system : System σ) (error : TaskRunError) : Option (Core σ) :=
  (system.core.recordOf sampleId).map fun stored =>
    (soloRun system.config system.core { started := stored.summary, pc := .running 0 }
      (sampleReturn error)).1

/-- The sample runs at its first attempt, its handler returns the error, and alone the
attempt ends with a fault and the record still running. -/
def ResultLost (start : System σ) (error : TaskRunError) : Prop :=
  ∃ (final : System σ) (after : Core σ),
    runActions System.step start sampleStart = some final ∧
      RunningAt (final.core.recordOf sampleId) 1 ∧ final.afterReturn error = some after ∧
      after.fault.isSome = true ∧ RunningAt (after.recordOf sampleId) 1

theorem result_lost_of_check {start : System σ} {error : TaskRunError}
    (checked : (runActions System.step start sampleStart).any (fun final =>
      decide (RunningAt (final.core.recordOf sampleId) 1) &&
        (final.afterReturn error).any fun after =>
          after.fault.isSome && decide (RunningAt (after.recordOf sampleId) 1)) = true) :
    ResultLost start error := by
  obtain ⟨final, reached, observed⟩ := run_of_check checked
  obtain ⟨running, alone⟩ := Bool.and_eq_true_iff.mp observed
  obtain ⟨after, ended, lost⟩ := (Option.any_eq_true _ _).mp alone
  obtain ⟨faulted, kept⟩ := Bool.and_eq_true_iff.mp lost
  exact ⟨final, after, reached, of_decide_eq_true running, ended, faulted, of_decide_eq_true kept⟩

def patientConfig : Config :=
  { sampleConfig .cooperative with
    retryPolicy :=
      { initialDelay := durationBound - 1
        maxDelay := durationBound - 1
        positive := by decide
        ordered := Nat.le_refl _
        bounded := by decide } }

/-- A category of 129 bytes is lost in memory, and in the database so is a retryable
error under a policy whose delay does not fit the deadline column. -/
theorem handler_result_lost :
    ResultLost (sampleSystem .cooperative)
        { category := String.ofList (List.replicate 129 'x'), message := "busy",
          retryable := false } ∧
      letI := sampleIdCodec
      ResultLost (System.boot patientConfig SqliteTaskStore.sample [])
        { category := "io", message := "busy", retryable := true } := by
  let codec := sampleIdCodec
  exact ⟨result_lost_of_check (by decide +kernel), result_lost_of_check (by decide +kernel)⟩

/-- A short message is recorded. -/
theorem handler_result_recorded_sample :
    ∃ (final : System MemoryTaskStore) (stored : StoredTask),
      runActions System.step (sampleSystem .cooperative) sampleStart = some final ∧
        final.core.recordOf sampleId = some stored ∧
        Recorded final.config final.core stored.summary (.running 0)
          (sampleReturn { category := "io", message := "busy", retryable := false })
          (RunTask.completionOf (.returned (.error
            { category := "io", message := "busy", retryable := false }))) := by
  obtain ⟨final, reached, observed⟩ := @run_of_check _ _ System.step
    (sampleSystem .cooperative) sampleStart
    (fun final => decide (final.core.fault = none) &&
      (final.core.recordOf sampleId).any fun (stored : StoredTask) =>
        decide (stored.summary.id = sampleId ∧ stored.summary.state = .running ∧
          stored.summary.stateVersion + 1 < u64Bound))
    (by decide)
  obtain ⟨noFault, found⟩ := Bool.and_eq_true_iff.mp observed
  obtain ⟨stored, present, facts⟩ := (Option.any_eq_true _ _).mp found
  obtain ⟨named, running, room⟩ := of_decide_eq_true facts
  have ledger : Ledger final :=
    ledger_run (ledger_boot (with_limits_valid ..) (with_limits_known _ _ _ _)) (by decide)
      reached
  refine ⟨final, stored, reached, present, ?_⟩
  apply ((handler_result_recorded_iff final.config stored.summary stored (.running 0) _ _ {} {} {}
    {} (.handler 0 { execution := .returned (.error
      { category := "io", message := "busy", retryable := false }) } {}) (by decide) running
    rfl).1 final.core ledger.valid (of_decide_eq_true noFault) (by rw [named]; exact present)).mpr
  exact ⟨.inr rfl, room⟩

end TaskService.Service
