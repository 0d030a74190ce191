import TaskService.Service.FinishedAttempt
import TaskService.Service.HandlerResults
import TaskService.Service.Submission

/-!
# What can latch a fault

Every thread has its own way with a store that answers unexpectedly.  Apart from failures of
the store and inputs beyond their limits, a step latches a fault only where it goes back to
a record it has met before and does not find it any more.
-/

namespace TaskService.Service

open Library Model Store
open TaskStore LawfulStore
open SchedulerPc (blockCommand scanEnd)

section Conditions

def errorOf {α : Type} : Except StoreError α → Option StoreError
  | .error error => some error
  | .ok _ => none

def isFailure : StoreError → Bool
  | .failure _ => true
  | _ => false

variable {σ : Type} [TaskStore σ]

def Thread.storeError (config : Config) (core : Core σ) (input : Input) (thread : Thread) :
    Option StoreError :=
  match thread with
  | .submit { encoded := _, pc := .accept id stored } =>
      errorOf (acceptEncoded core.store input.clock id stored).2
  | .scheduler (.start _ summary) =>
      errorOf (startEncoded core.store input.clock
        (SchedulerPc.startCommand summary input.now)).2
  | .scheduler (.list scan) =>
      errorOf (listReadyQueued core.store scan.after config.scanPageSize scan.now)
  | .scheduler (.deadline _) => errorOf (nextRetryDeadline core.store input.now)
  | thread =>
      match thread.nextTransition config input with
      | some (_, command) =>
          errorOf (transitionEncoded core.store input.clock command).2
      | none => none

/-- A payload that is prepared, or refused with a text that fits a diagnostic. -/
def Preparation.WithinLimits : Preparation → Prop
  | .prepared => True
  | .rejected error => error.text.utf8ByteSize ≤ maxTaskDiagnosticMessageBytes
  | .panicked => False

instance (preparation : Preparation) : Decidable preparation.WithinLimits := by
  unfold Preparation.WithinLimits
  split <;> infer_instance

def VerdictWithinLimits : Except String Bool → Prop
  | .error reason => reason.utf8ByteSize ≤ maxTaskDiagnosticMessageBytes
  | .ok _ => True

instance (verdict : Except String Bool) : Decidable (VerdictWithinLimits verdict) := by
  unfold VerdictWithinLimits
  split <;> infer_instance

/-- The limits on what applications hand in: names of a request, texts of a handler, a codec
or the resource engine, and times that fit a signed column. -/
def Thread.WithinLimits (config : Config) (core : Core σ) (input : Input) : Thread → Prop
  | .submit { encoded := _, pc := .accept _ stored } =>
      stored.kindId ≠ "" ∧ stored.payload.codecId ≠ ""
  | .run { started, pc := .load } =>
      ∀ stored ∈ core.recordOf started.id,
        (config.handlers.prepare started.kindId stored.request.payload).WithinLimits
  | .run { started := _, pc := .running _ } =>
      (RunTask.completionOf input.execution).state.validateDiagnostics = .ok ()
  | .scheduler (.dispatch _) => VerdictWithinLimits input.reservation
  | .scheduler (.list scan) =>
      config.scanPageSize ≤ maxTaskQueryLimit ∧ scan.now < i64Bound ∧
        ∀ cursor ∈ scan.after, cursor.acceptedAtMs < i64Bound
  | .scheduler (.deadline _) => input.now < i64Bound
  | .scheduler (.markBlocked _ summary _) =>
      Holds (fun latest => latest.stateVersion + 1 < u64Bound) (core.recordOf summary.id)
  | _ => True

instance (config : Config) (core : Core σ) (input : Input) (thread : Thread) :
    Decidable (thread.WithinLimits config core input) := by
  unfold Thread.WithinLimits
  split <;> infer_instance

def Thread.revisits : Thread → Option TaskId
  | .scheduler (.markBlocked _ summary _) | .scheduler (.competing _ summary) => some summary.id
  | .hook { id, pc, .. } =>
      match pc with
      | .load | .persist _ | .reload | .clearError _ | .failLoad _ | .failRecord _ _ => some id
      | .invoke | .awaitHook | .conclude _ | .publish _ | .exit | .done => none
  | _ => none

/-- A step as the service may expect it: the store does not fail, the inputs are within their
limits, and events fit. -/
structure Assumed [LawfulStore σ] [PreciseStore σ] (config : Config) (core : Core σ)
    (input : Input) (thread : Thread) : Prop where
  operational : input.storeFailure = none
  unfailing : (thread.storeError config core input).any isFailure = false
  limits : thread.WithinLimits config core input
  room : ∀ id task, core.recordOf id = some task →
    PreciseStore.EventRoom core.store id task.request
  accepts : ∀ encoded id stored, thread = .submit { encoded := encoded, pc := .accept id stored } →
    PreciseStore.EventRoom core.store id stored

def Thread.Retains (core : Core σ) (thread : Thread) : Prop :=
  ∀ id ∈ thread.revisits, (core.recordOf id).isSome = true

instance (core : Core σ) (thread : Thread) : Decidable (thread.Retains core) :=
  inferInstanceAs (Decidable (∀ id ∈ thread.revisits, (core.recordOf id).isSome = true))

end Conditions

section Fit

def Handlers.Hooked (handlers : Handlers) (kindId : String) : Prop :=
  ∃ registration, handlers.registration kindId = some registration ∧
    registration.externalCancellationHook = true

structure Completion.Fits (completion : Completion) : Prop extends completion.Proper where
  diagnostics : completion.state.validateDiagnostics = .ok ()

def HookPc.failsService : HookPc → Bool
  | .conclude (.serviceFailed _) | .publish (.serviceFailed _) => true
  | _ => false

/-- Facts about the program counters that keep the fault latch out of reach. -/
def Thread.Fit (config : Config) : Thread → Prop
  | .cancel call =>
      match call.pc with
      | .joinHook summary | .spawnHook summary _ => config.handlers.Hooked summary.kindId
      | _ => True
  | .hook task =>
      config.handlers.Hooked task.kindId ∧ task.pc.failsService = false
  | .run task =>
      match task.pc with
      | .unregister completion | .finishRead completion | .finishWrite completion _ =>
          completion.Fits
      | _ => True
  | .scheduler (.markBlocked _ _ reason) =>
      reason.utf8ByteSize ≤ maxTaskDiagnosticMessageBytes
  | _ => True

/-- The task and version of a lost compare-and-set that a thread is looking into. -/
def Thread.contested : Thread → Option (TaskId × Nat)
  | .scheduler (.competing _ summary) => some (summary.id, summary.stateVersion)
  | .run { started, pc := .checkCompeting _ version } => some (started.id, version)
  | _ => none

/-- The attempt whose task has lost the compare-and-set of its outcome and gives it up. -/
def Thread.abandoned : Thread → Option (TaskId × Nat)
  | .run { started, pc := .checkCompeting _ _ } => some (started.id, started.attempt)
  | _ => none

def Newer (version : Nat) (summary : TaskSummary) : Prop :=
  version < summary.stateVersion

end Fit

section Steps

variable {σ : Type}

theorem hooked_of_mode {handlers : Handlers} {kindId : String} {descriptor : TaskHandlerDescriptor}
    (found : handlers.descriptor kindId = some descriptor)
    (mode : descriptor.cancellationMode = .externalHook) : handlers.Hooked kindId := by
  unfold Handlers.descriptor at found
  obtain ⟨registration, registered, rfl⟩ := Option.map_eq_some_iff.mp found
  exact ⟨registration, registered, by rw [registration.hookMatchesMode, mode]; rfl⟩

theorem validate_encoded_output_ok {state : TaskState} {output : Option TaskOutput}
    (proper : ∀ value, output = some value →
      state = .succeeded ∧ value.summary.length ≤ maxTaskOutputSummaryBytes) :
    validateEncodedOutput state output = .ok () := by
  cases output with
  | none => rfl
  | some value =>
    obtain ⟨succeeded, short⟩ := proper value rfl
    simp [validateEncodedOutput, succeeded, Nat.not_lt.mpr short]

theorem preparation_failure_fits {error : HandlerDispatchError}
    (short : error.text.utf8ByteSize ≤ maxTaskDiagnosticMessageBytes) :
    (RunTask.preparationFailure error).Fits := by
  refine ⟨⟨rfl, fun _ same => by cases same⟩, if_neg ?_⟩
  rintro (long | long)
  · exact absurd long (by decide)
  · exact Nat.not_lt.mpr short long

variable [TaskStore σ] {config : Config} {core : Core σ} {input : Input} {result : Step σ}
  {thread : Thread}

/-- A step that latches no fault and leads to fit threads.  A compare-and-set that was lost
was lost to a newer revision. -/
structure Calm (config : Config) (core : Core σ) (result : Step σ) : Prop where
  fault : result.core.fault = none
  fit : ∀ next ∈ result.threads, next.Fit config
  contest : ∀ next ∈ result.threads, ∀ id version, next.contested = some (id, version) →
    (∃ task, core.recordOf id = some task) ∧ Holds (Newer version) (result.core.recordOf id)

section

variable (fault : result.core.fault = none) (fit : result.thread.Fit config)
include fault fit

theorem calm_single (contest : ∀ id version, result.thread.contested = some (id, version) →
      (∃ task, core.recordOf id = some task) ∧ Holds (Newer version) (result.core.recordOf id))
    (alone : result.spawned = []) : Calm config core result := by
  have only : ∀ next ∈ result.threads, next = result.thread := by
    intro next member
    simpa [Step.threads, alone] using member
  refine ⟨fault, ?_, ?_⟩
  · intro next member
    rw [only next member]
    exact fit
  · intro next member id version contested
    rw [only next member] at contested
    exact contest id version contested

theorem calm_alone (uncontested : result.thread.contested = none) (alone : result.spawned = []) :
    Calm config core result := by
  apply calm_single fault fit _ alone
  intro id version contested
  rw [uncontested] at contested
  cases contested

theorem calm_spawned {other : Thread} (uncontested : result.thread.contested = none)
    (spawned : result.spawned = [other]) (otherFit : other.Fit config)
    (otherUncontested : other.contested = none) : Calm config core result := by
  have two : ∀ next ∈ result.threads, next = result.thread ∨ next = other := by
    intro next member
    simpa [Step.threads, spawned] using member
  refine ⟨fault, ?_, ?_⟩
  · intro next member
    rcases two next member with rfl | rfl
    · exact fit
    · exact otherFit
  · intro next member id version contested
    rcases two next member with rfl | rfl
    · rw [uncontested] at contested
      cases contested
    · rw [otherUncontested] at contested
      cases contested

end

variable {after : Core σ} {command : TransitionCommand} {summary : TaskSummary} {error : StoreError}

omit [TaskStore σ] in
theorem call_write_fault {α : Type} {kind : WriteKind} {operation : σ → σ × Except StoreError α}
    {answer : Except StoreError α}
    (called : core.callWrite input kind operation = (after, answer)) :
    after.fault = core.fault := by
  unfold Core.callWrite at called
  split at called
  all_goals
    cases called
    rfl

theorem store_error_transition
    (next : thread.nextTransition config input = some (summary, command)) :
    thread.storeError config core input =
      errorOf (transitionEncoded core.store input.clock command).2 := by
  unfold Thread.storeError
  split
  all_goals try cases next
  split
  · rename_i other same
    rw [next] at same
    cases same
    rfl
  · rename_i none_
    rw [next] at none_
    cases none_

theorem supervisor_calm (pc : SupervisorPc) (quiet : core.fault = none)
    (stepped : pc.step config core input = some result) : Calm config core result := by
  obtain ⟨after, next, rfl, step⟩ := supervisor_step_cases pc stepped
  cases step
  all_goals exact calm_alone quiet trivial rfl rfl

theorem publisher_calm (pc : PublisherPc) (quiet : core.fault = none)
    (stepped : pc.step config core input = some result) : Calm config core result := by
  obtain ⟨after, next, rfl, step⟩ := publisher_step_cases pc stepped
  cases step with
  | archiveFails place quarantined command after error called
  | archives place quarantined command after called | unmarked entry rest after error called
  | marks entry rest after called =>
    exact calm_alone ((call_write_fault called).trans quiet) trivial rfl rfl
  | _ => exact calm_alone quiet trivial rfl rfl

theorem returns_calm {call : CancelCall} {after : Core σ}
    {answer : Except TaskServiceError CancelOutcome} (quiet : after.fault = none) :
    Calm config core (CancelCall.returnWith after call answer) := by
  refine calm_alone ?_ trivial rfl rfl
  cases answer <;> exact quiet

variable [LawfulStore σ]

/-- The scheduler blocks a queued record: whoever got there first has revised it. -/
theorem marking_lost {reason : String} {task : StoredTask}
    (valid : Valid core.store) (queued : summary.state = .queued)
    (called : core.callTransition input (blockCommand summary reason) =
      (after, .error .conflict)) (present : core.recordOf summary.id = some task)
    (follows : Follows summary task.summary) (room : task.summary.stateVersion + 1 < u64Bound) :
    Holds (Newer summary.stateVersion) (after.recordOf summary.id) := by
  obtain ⟨kept, unmatched⟩ := call_transition_lost valid called present
  intro later shown
  cases (kept.symm.trans shown : some task = some later)
  apply Nat.lt_of_le_of_ne follows.version_le
  intro same
  rcases follows.agree same with ⟨state, attempt, -⟩ | exhausted
  · apply unmatched
    refine ⟨same.symm, attempt.symm, .inl ?_⟩
    rw [← state, queued]
    rfl
  · exact Nat.not_lt.mpr exhausted room

variable [PreciseStore σ]

theorem transition_answer (assumed : Assumed config core input thread)
    (next : thread.nextTransition config input = some (summary, command))
    (composed : Composed command) (open_ : ∀ task, core.recordOf command.id = some task →
      ¬ (command.output.isSome = true ∧ task.summary.state.isTerminal = true))
    (called : core.callTransition input command = (after, .error error)) :
    error = .conflict ∨ (error = .notFound ∧ core.recordOf command.id = none) := by
  obtain ⟨-, ⟨-, message, failed, -⟩ | ⟨-, -, answered⟩⟩ := call_write_cases called
  · rw [assumed.operational] at failed
    cases failed
  · have unfailing := assumed.unfailing
    rw [store_error_transition next, ← answered] at unfailing
    rcases PreciseStore.transition_error core.store input.clock command error composed
        (fun task held => ⟨assumed.room _ task held, open_ task held⟩) answered.symm with
      lost | missing | ⟨message, rfl⟩
    · exact .inl lost
    · exact .inr missing
    · cases unfailing

theorem store_result_calm (quiet : core.fault = none) (assumed : Assumed config core input thread)
    (next : thread.nextTransition config input = some (summary, command))
    (composed : Composed command) (silent : command.output = none)
    (called : core.callTransition input command = (after, .error error)) :
    (after.storeResult error).fault = none := by
  rw [store_result_fault ((call_write_fault called).trans quiet)]
  rcases transition_answer assumed next composed (by simp [silent]) called with
    lost | ⟨missing, -⟩
  · exact .inl lost
  · exact .inr missing

theorem submit_calm (call : SubmitCall) (quiet : core.fault = none)
    (assumed : Assumed config core input (.submit call))
    (stepped : call.step core input = some result) : Calm config core result := by
  obtain ⟨after, pc, form, -⟩ := submit_step_cases call stepped
  refine calm_alone ?_ (by rw [form]; trivial) (by rw [form]; rfl) (by rw [form])
  rw [submit_step_fault quiet assumed.operational stepped]
  intro id stored at_ error answered
  obtain ⟨encoded, place⟩ := call
  cases at_
  obtain ⟨kind, codec⟩ := assumed.limits
  rcases PreciseStore.accept_error core.store input.clock id stored error kind codec
      (assumed.accepts encoded id stored rfl) answered with declined | ⟨message, rfl⟩
  · exact declined
  · have unfailing := assumed.unfailing
    simp only [Thread.storeError, answered] at unfailing
    cases unfailing

theorem resume_calm (call : ResumeCall) (quiet : core.fault = none)
    (assumed : Assumed config core input (.resume call))
    (stepped : call.step core input = some result) : Calm config core result := by
  obtain ⟨id, expectedStateVersion, pc⟩ := call
  obtain ⟨reached, next, rfl, step⟩ := resume_step_cases _ stepped
  cases step with
  | unread error called =>
    rw [call_get_operational core assumed.operational] at called
    cases called
  | failed summary error after called =>
    exact calm_alone (store_result_calm quiet assumed rfl ⟨rfl, rfl, .inl rfl⟩ rfl called)
      trivial rfl rfl
  | resumes summary resumed after called =>
    exact calm_alone ((call_write_fault called).trans quiet) trivial rfl rfl
  | _ => exact calm_alone quiet trivial rfl rfl

theorem starter_calm (pc : StarterPc) (quiet : core.fault = none)
    (assumed : Assumed config core input (.starter pc))
    (stepped : pc.step core input = some result) : Calm config core result := by
  cases pc with
  | list after =>
    simp only [StarterPc.step] at stepped
    split at stepped
    all_goals
      cases stepped
      exact calm_alone quiet trivial rfl rfl
  | recover rest next | ready =>
    cases stepped
    exact calm_alone quiet trivial rfl rfl
  | requeue summary rest next =>
    have composed : Composed (StarterPc.recoveryCommand summary) := by
      refine ⟨?_, rfl, .inl rfl⟩
      unfold StarterPc.recoveryCommand
      simp only
      split <;> decide
    simp only [StarterPc.step] at stepped
    split at stepped
    · rename_i after error called
      cases stepped
      exact calm_alone (store_result_calm quiet assumed rfl composed rfl called) trivial rfl rfl
    · rename_i after requeued called
      cases stepped
      exact calm_alone ((call_write_fault called).trans quiet) trivial rfl rfl
  | failed => cases stepped

section Scheduler

variable {reason : String} {summary : TaskSummary} {after : Core σ} {error : StoreError}
  {scan : Scan}

omit [TaskStore σ] [LawfulStore σ] [PreciseStore σ] in
theorem dispatch_problem_short {handlers : Handlers}
    (problem : handlers.dispatchProblem summary = some reason) :
    reason.utf8ByteSize ≤ maxTaskDiagnosticMessageBytes := by
  unfold Handlers.dispatchProblem at problem
  split at problem
  · cases problem
    decide
  · split_ifs at problem
    · cases problem
      decide
    · cases problem
      decide

/-- Counters at which the scheduler neither blocks a record nor looks into a lost race. -/
def SchedulerPc.free : SchedulerPc → Bool
  | .markBlocked _ _ _ | .competing _ _ => false
  | _ => true

omit [LawfulStore σ] [PreciseStore σ] in
theorem calm_free {pc : SchedulerPc} (free : pc.free = true) (fault : result.core.fault = none)
    (form : result.thread = .scheduler pc) (alone : result.spawned = []) :
    Calm config core result := by
  apply calm_alone fault ?_ ?_ alone
  · rw [form]
    cases pc <;> trivial
  · rw [form]
    cases pc <;> first | rfl | cases free

omit [LawfulStore σ] [PreciseStore σ] in
theorem scan_end_free (scan : Scan) (completed : Bool) :
    (scanEnd scan completed).free = true := by
  unfold scanEnd
  split <;> rfl

theorem start_answer (assumed : Assumed config core input (.scheduler (.start scan summary)))
    (called : core.callStart input (SchedulerPc.startCommand summary input.now) =
      (after, .error error)) : error = .conflict ∨ error = .notFound := by
  obtain ⟨-, ⟨-, message, failed, -⟩ | ⟨-, -, answered⟩⟩ := call_write_cases called
  · rw [assumed.operational] at failed
    cases failed
  · have unfailing := assumed.unfailing
    simp only [Thread.storeError, ← answered] at unfailing
    rcases PreciseStore.start_error core.store input.clock _ error
        (fun task held => assumed.room _ task held) answered.symm with
      lost | missing | ⟨message, rfl⟩
    · exact .inl lost
    · exact .inr missing
    · cases unfailing

theorem read_answer {α : Type} {query : σ → Except StoreError α}
    (assumed : Assumed config core input thread)
    (asked : thread.storeError config core input = errorOf (query core.store))
    (fails : ∀ error, query core.store = .error error → ∃ message, error = .failure message)
    (called : core.callRead input query = .error error) : False := by
  simp only [Core.callRead, assumed.operational] at called
  obtain ⟨message, rfl⟩ := fails error called
  have unfailing := assumed.unfailing
  rw [asked, called] at unfailing
  cases unfailing

theorem scheduler_calm (pc : SchedulerPc) (quiet : core.fault = none)
    (valid : Valid core.store) (assumed : Assumed config core input (.scheduler pc))
    (retains : (Thread.scheduler pc).Retains core) (fit : Thread.Fit config (.scheduler pc))
    (wf : (Thread.scheduler pc).Wf) (follows : ∀ summary ∈ (Thread.scheduler pc).held, ∀ task,
      core.recordOf summary.id = some task → Follows summary task.summary)
    (newer : ∀ id version, (Thread.scheduler pc).contested = some (id, version) →
      Holds (Newer version) (core.recordOf id))
    (stepped : pc.step config core input = some result) : Calm config core result := by
  cases scheduler_step_cases pc stepped with
  | scanShut | scanFaulted | scanFull | pageShut | pageFull | completed =>
    exact calm_free (scan_end_free _ _) quiet rfl rfl
  | unlisted scan error called =>
    obtain ⟨page, moment, position⟩ := assumed.limits
    exact (read_answer assumed rfl (fun error failed =>
      PreciseStore.ready_error core.store _ _ _ error page moment position failed)
      called).elim
  | ineligible scan summary rest reason left problem =>
    exact calm_alone quiet (dispatch_problem_short problem) rfl rfl
  | impossible scan summary rest reason left eligible verdict =>
    have short : VerdictWithinLimits input.reservation := assumed.limits
    rw [verdict] at short
    exact calm_alone quiet short rfl rfl
  | blocks scan summary written reason after called | starts scan summary running after called
  | superseded scan summary error after called =>
    exact calm_alone ((call_write_fault called).trans quiet) trivial rfl rfl
  | blockLost scan summary reason after called =>
    have inside : summary ∈ (Thread.scheduler (.markBlocked scan summary reason)).held :=
      List.mem_cons_self
    obtain ⟨task, present⟩ := Option.isSome_iff_exists.mp (retains summary.id rfl)
    have newer := marking_lost valid (wf summary inside) called present
      (follows summary inside task present) (assumed.limits task present)
    refine calm_single ((call_write_fault called).trans quiet) trivial ?_ rfl
    intro id version contested
    cases contested
    exact ⟨⟨task, present⟩, newer⟩
  | blockFailed scan summary reason error after called other =>
    obtain ⟨task, present⟩ := Option.isSome_iff_exists.mp (retains summary.id rfl)
    have composed : Composed (blockCommand summary reason) :=
      ⟨if_neg (Nat.not_lt.mpr fit), rfl, .inl rfl⟩
    rcases transition_answer assumed rfl composed (by simp [blockCommand]) called with
      lost | ⟨-, absent⟩
    · exact (other lost).elim
    · cases present.symm.trans absent
  | competed scan summary =>
    obtain ⟨task, present⟩ := Option.isSome_iff_exists.mp (retains summary.id rfl)
    have revised : task.summary.stateVersion ≠ summary.stateVersion :=
      Nat.ne_of_gt (newer summary.id summary.stateVersion rfl task present)
    refine calm_free rfl ?_ rfl rfl
    simp only [Core.checkCompetingTransition, call_get_operational core assumed.operational,
      present, if_pos revised]
    exact quiet
  | startFailed scan summary error after called other =>
    exact (other (start_answer assumed called)).elim
  | spawns => exact calm_spawned quiet trivial rfl rfl trivial rfl
  | unasked fairness error called =>
    exact (read_answer assumed rfl (fun error failed =>
      PreciseStore.deadline_error core.store _ error assumed.limits failed) called).elim
  | _ => exact calm_free rfl quiet rfl rfl

end Scheduler

section Cancel

theorem cancel_calm (call : CancelCall) (quiet : core.fault = none)
    (assumed : Assumed config core input (.cancel call)) (fit : Thread.Fit config (.cancel call))
    (stepped : call.step config core input = some result) : Calm config core result := by
  obtain ⟨id, pc⟩ := call
  cases cancel_step_cases _ stepped with
  | enters | unfaulted | accepting | owning | waiting | requests | joins | leaves =>
    exact calm_alone quiet trivial rfl rfl
  | unread error called =>
    cases (call_get_operational core assumed.operational id).symm.trans called
  | hooked task descriptor called running found mode =>
    exact calm_alone quiet (hooked_of_mode found mode) rfl rfl
  | notCancelled called | notRequested called =>
    exact returns_calm (store_result_calm quiet assumed rfl ⟨rfl, rfl, .inl rfl⟩ rfl called)
  | cancelled called =>
    exact returns_calm ((call_write_fault called).trans quiet)
  | persisted called =>
    exact calm_alone ((call_write_fault called).trans quiet) trivial rfl rfl
  | opens summary => exact calm_alone quiet fit rfl rfl
  | spawns => exact calm_spawned quiet trivial rfl rfl ⟨fit, rfl⟩ rfl
  | _ =>
    exact returns_calm quiet

end Cancel

section Run

variable {completion : Completion}

omit [TaskStore σ] [LawfulStore σ] [PreciseStore σ] in
theorem finish_composed (fits : completion.Fits) (started latest : TaskSummary)
    (now finishedAt : Nat) :
    Composed (RunTask.finishCommand config started latest completion now finishedAt) := by
  unfold RunTask.finishCommand
  cases retry : RunTask.retries config started latest completion with
  | false =>
    refine ⟨fits.diagnostics, validate_encoded_output_ok ?_, .inl rfl⟩
    intro value same
    obtain ⟨succeeded, short, -⟩ := fits.output value same
    exact ⟨succeeded, short⟩
  | true =>
    refine ⟨rfl, validate_encoded_output_ok ?_, .inr rfl⟩
    intro value same
    -- What is retried brings no output.
    obtain ⟨-, -, final⟩ := fits.output value same
    simp [RunTask.retries, final] at retry

omit [PreciseStore σ] in
theorem lost_calm {started latest : TaskSummary} {after : Core σ} (quiet : core.fault = none)
    (valid : Valid core.store) (running : RunningAt (core.recordOf started.id) started.attempt)
    (follows : ∀ task, core.recordOf started.id = some task → Follows latest task.summary)
    (called : core.callTransition input
      (RunTask.finishCommand config started latest completion input.now input.later) =
        (after, .error .conflict)) :
    Calm config core
      { core := after
        thread :=
          .run { started := started, pc := .checkCompeting completion latest.stateVersion } } := by
  obtain ⟨task, present, state, counted⟩ := running
  obtain ⟨kept, unmatched⟩ := call_transition_lost valid called present
  refine calm_single ((call_write_fault called).trans quiet) trivial ?_ rfl
  intro id version contested
  cases contested
  refine ⟨⟨task, present⟩, ?_⟩
  intro later shown
  cases (kept.symm.trans shown : some task = some later)
  apply Nat.lt_of_le_of_ne (follows task present).version_le
  -- A running record accepts whatever is written at its own version.
  intro same
  apply unmatched
  refine ⟨same.symm, counted, .inl ?_⟩
  rw [state]
  exact TaskState.running_allows _

theorem run_calm (task : RunTask) (quiet : core.fault = none)
    (valid : Valid core.store) (assumed : Assumed config core input (.run task))
    (fit : Thread.Fit config (.run task)) (running : task.pc.unwritten = true →
      RunningAt (core.recordOf task.started.id) task.started.attempt)
    (abandoned : ∀ id attempt, (Thread.run task).abandoned = some (id, attempt) →
      RunningAt (core.recordOf id) attempt)
    (follows : ∀ completion latest, task.pc = .finishWrite completion latest →
      ∀ found, core.recordOf task.started.id = some found → Follows latest found.summary)
    (newer : ∀ id version, (Thread.run task).contested = some (id, version) →
      Holds (Newer version) (core.recordOf id))
    (stepped : task.step config core input = some result) : Calm config core result := by
  obtain ⟨started, pc⟩ := task
  have reads : ∀ {answer}, core.callGet input started.id = answer →
      answer = .ok (core.recordOf started.id) :=
    fun called => called.symm.trans (call_get_operational core assumed.operational _)
  cases run_step_cases _ stepped with
  | unread error called | unchecked flag error called | unfinished completion error called =>
    cases reads called
  | rejected stored error called verdict =>
    have limits := assumed.limits stored (Except.ok.inj (reads called)).symm
    rw [verdict] at limits
    exact calm_alone quiet (preparation_failure_fits limits) rfl rfl
  | panicked stored called verdict =>
    have limits := assumed.limits stored (Except.ok.inj (reads called)).symm
    rw [verdict] at limits
    exact limits.elim
  | completes flag => exact calm_alone quiet ⟨completion_of_proper _, assumed.limits⟩ rfl rfl
  | unregisters | reads => exact calm_alone quiet fit rfl rfl
  | disappeared completion called =>
    obtain ⟨stored, present, -⟩ := running rfl
    cases (Except.ok.inj (reads called)).trans present
  | wrote called =>
    exact calm_alone ((call_write_fault called).trans quiet) trivial rfl rfl
  | @lost completion latest after called =>
    exact lost_calm quiet valid (running rfl) (follows completion latest rfl) called
  | @unwritten completion latest error after called other =>
    obtain ⟨stored, present, state, -⟩ := running rfl
    have live : ∀ found, core.recordOf started.id = some found →
        ¬ (completion.output.isSome = true ∧ found.summary.state.isTerminal = true) := by
      rintro found shown ⟨-, terminal⟩
      cases present.symm.trans shown
      rw [state] at terminal
      cases terminal
    rcases transition_answer assumed rfl (finish_composed fit _ _ _ _) live called with
      lost | ⟨-, absent⟩
    · exact absurd lost other
    · cases present.symm.trans absent
  | contests completion version =>
    obtain ⟨stored, present, -⟩ := abandoned started.id started.attempt rfl
    have revised : stored.summary.stateVersion ≠ version :=
      Nat.ne_of_gt (newer started.id version rfl stored present)
    refine calm_alone ?_ trivial rfl rfl
    simp only [Core.checkCompetingTransition, call_get_operational core assumed.operational,
      present, if_pos revised]
    exact quiet
  | _ =>
    exact calm_alone quiet trivial rfl rfl

omit [LawfulStore σ] [PreciseStore σ] in
/-- An attempt is given up where the compare-and-set of its outcome was lost. -/
theorem abandoned_source {next : Thread} {id : TaskId} {attempt : Nat}
    (stepped : thread.step config core input = some result) (member : next ∈ result.threads)
    (abandoned : next.abandoned = some (id, attempt)) :
    ∃ started completion latest,
      thread = .run { started := started, pc := .finishWrite completion latest } ∧
      (id, attempt) = (started.id, started.attempt) ∧
      result.threads.flatMap Thread.owned = [] ∧
      core.callTransition input
        (RunTask.finishCommand config started latest completion input.now input.later) =
          (result.core, .error .conflict) := by
  obtain ⟨started, completion, version, rfl⟩ : ∃ started completion version,
      next = .run { started := started, pc := .checkCompeting completion version } := by
    unfold Thread.abandoned at abandoned
    split at abandoned
    · exact ⟨_, _, _, rfl⟩
    · cases abandoned
  cases abandoned
  by_cases attempting : ∃ task, thread = .run task
  · obtain ⟨⟨begun, pc⟩, rfl⟩ := attempting
    obtain ⟨-, -, alone⟩ := run_step_form _ stepped
    have here : result.thread =
        .run { started := started, pc := .checkCompeting completion version } := by
      simpa [Step.threads, alone, eq_comm] using member
    cases run_step_cases _ stepped with
    | @lost outcome latest after called =>
      cases here
      exact ⟨_, _, latest, rfl, rfl, rfl, called⟩
    | _ => cases here
  · cases run_source (fun task same => attempting ⟨task, same⟩) stepped member

end Run

section Hook

variable {task : HookTask}

omit [LawfulStore σ] [PreciseStore σ] in
theorem reading_calm {disappeared : String} {running : TaskSummary → HookPc}
    (quiet : core.fault = none) (operational : input.storeFailure = none)
    (present : (core.recordOf task.id).isSome = true) (hooked : config.handlers.Hooked task.kindId)
    (fit : ∀ summary, Thread.Fit config (.hook { task with pc := running summary })) :
    Calm config core (task.reading core input disappeared running) := by
  obtain ⟨stored, found⟩ := Option.isSome_iff_exists.mp present
  simp only [HookTask.reading, call_get_operational core operational, found]
  split
  · exact calm_alone quiet (fit _) rfl rfl
  · exact calm_alone quiet ⟨hooked, rfl⟩ rfl rfl

theorem writing_calm {summary : TaskSummary} {command : TransitionCommand}
    {written again : HookPc} (quiet : core.fault = none)
    (assumed : Assumed config core input (.hook task))
    (next : (Thread.hook task).nextTransition config input = some (summary, command))
    (composed : Composed command) (silent : command.output = none)
    (present : (core.recordOf command.id).isSome = true)
    (fit : Thread.Fit config (.hook { task with pc := written }))
    (refit : Thread.Fit config (.hook { task with pc := again })) :
    Calm config core (task.writing core input command written again) := by
  unfold HookTask.writing
  split
  · rename_i after answer called
    exact calm_alone ((call_write_fault called).trans quiet) fit rfl rfl
  · rename_i after error called
    split
    · exact calm_alone ((call_write_fault called).trans quiet) refit rfl rfl
    · rename_i other
      rcases transition_answer assumed next composed (by simp [silent]) called with
        lost | ⟨-, absent⟩
      · exact absurd lost other
      · rw [absent] at present
        cases present

theorem hook_calm (quiet : core.fault = none) (assumed : Assumed config core input (.hook task))
    (retains : (Thread.hook task).Retains core) (fit : Thread.Fit config (.hook task))
    (stepped : task.step config core input = some result) : Calm config core result := by
  obtain ⟨id, attempt, kindId, flight, pc⟩ := task
  obtain ⟨hooked, sane⟩ := fit
  cases hook_step_cases _ stepped with
  | loads | reloads =>
    refine reading_calm quiet assumed.operational (retains id rfl) hooked ?_
    intro summary
    refine ⟨hooked, ?_⟩
    dsimp only
    split <;> rfl
  | failureLoads message =>
    exact reading_calm quiet assumed.operational (retains id rfl) hooked fun _ => ⟨hooked, rfl⟩
  | persists | clears | failureRecords =>
    exact writing_calm quiet assumed rfl ⟨rfl, rfl, .inl rfl⟩ rfl (retains id rfl)
      ⟨hooked, rfl⟩ ⟨hooked, rfl⟩
  | unavailable absent =>
    obtain ⟨registration, registered, equipped⟩ := hooked
    rw [absent registration registered] at equipped
    cases equipped
  | interrupted | invokes | returns | fails | exits =>
    exact calm_alone quiet ⟨hooked, rfl⟩ rfl rfl
  | concludes outcome =>
    refine calm_alone quiet ⟨hooked, ?_⟩ rfl rfl
    cases outcome with
    | serviceFailed message => cases sane
    | _ => rfl
  | publishes outcome latched latches =>
    subst latches
    refine calm_alone ?_ ⟨hooked, rfl⟩ rfl rfl
    cases outcome with
    | serviceFailed message => cases sane
    | _ => exact quiet

end Hook

theorem thread_calm (quiet : core.fault = none) (valid : Valid core.store)
    (assumed : Assumed config core input thread) (retains : thread.Retains core)
    (fit : thread.Fit config) (wf : thread.Wf)
    (running : ∀ id attempt, (id, attempt) ∈ thread.owned → RunningAt (core.recordOf id) attempt)
    (abandoned : ∀ id attempt, thread.abandoned = some (id, attempt) →
      RunningAt (core.recordOf id) attempt)
    (follows : ∀ summary ∈ thread.held, ∀ task, core.recordOf summary.id = some task →
      Follows summary task.summary)
    (newer : ∀ id version, thread.contested = some (id, version) →
      Holds (Newer version) (core.recordOf id))
    (stepped : thread.step config core input = some result) : Calm config core result := by
  cases thread with
  | submit call => exact submit_calm call quiet assumed stepped
  | cancel call => exact cancel_calm call quiet assumed fit stepped
  | resume call => exact resume_calm call quiet assumed stepped
  | run task =>
    refine run_calm task quiet valid assumed fit ?_ abandoned ?_ newer stepped
    · intro unwritten
      exact running _ _ (by simp [Thread.owned, unwritten])
    · intro completion latest at_ found shown
      obtain ⟨started, pc⟩ := task
      cases at_
      have named : latest.id = started.id := wf.2.1
      exact follows latest (List.mem_singleton.mpr rfl) found (by rw [named]; exact shown)
  | hook task => exact hook_calm quiet assumed retains fit stepped
  | scheduler pc =>
    exact scheduler_calm pc quiet valid assumed retains fit wf follows newer stepped
  | supervisor pc => exact supervisor_calm pc quiet stepped
  | publisher pc => exact publisher_calm pc quiet stepped
  | starter pc => exact starter_calm pc quiet assumed stepped
  | detached write =>
    cases stepped
    exact calm_alone quiet trivial rfl rfl
  | finished => cases stepped

end Steps

end TaskService.Service
