import TaskService.Service.ThreadConduct

/-!
# Shared cells and the form of a step

The shared cells of a service are its flights, its two cancellation maps, its
cancellation flags and its fault latch.  Only cancellations, flights and attempts
touch them; a step of one of those leaves one of the same kind.
-/

namespace TaskService.Service

open Library Model Store List

variable {σ : Type}

/-- Threads that have no business with flights. -/
def Thread.bystander : Thread → Bool
  | .cancel _ | .hook _ => false
  | _ => true

/-- Bystanders that are no detached write, and no attempt but one that is just beginning. -/
def Thread.plain : Thread → Bool
  | .cancel _ | .hook _ | .detached _ => false
  | .run { started := _, pc := .load } => true
  | .run _ => false
  | _ => true

theorem plain_bystander {thread : Thread} (plain : thread.plain = true) :
    thread.bystander = true := by
  cases thread <;> first | rfl | cases plain

/-- Steps that create no flight, write no result and leave the entries and the
cancellation flags alone.  A fault stays latched. -/
structure Core.SameCells (core after : Core σ) : Prop where
  flights : after.flights = core.flights
  entries : after.externalCancellations = core.externalCancellations
  fault : core.fault.isSome = true → after.fault.isSome = true
  flags : after.flags = core.flags
  cancellations : after.cancellations = core.cancellations

namespace Core

theorem same_cells_of_eq {core after : Core σ} (flights : after.flights = core.flights)
    (entries : after.externalCancellations = core.externalCancellations)
    (fault : after.fault = core.fault) (flags : after.flags = core.flags)
    (cancellations : after.cancellations = core.cancellations) : core.SameCells after :=
  ⟨flights, entries, fun latched => by rw [fault]; exact latched, flags, cancellations⟩

theorem same_cells_refl (core : Core σ) : core.SameCells core :=
  same_cells_of_eq rfl rfl rfl rfl rfl

theorem same_cells_latch (core : Core σ) (message : String) :
    core.SameCells (core.latchFault message) := by
  refine ⟨rfl, rfl, ?_, rfl, rfl⟩
  intro latched
  unfold latchFault
  split
  · rfl
  · exact latched

theorem same_cells_store_result (core : Core σ) (error : StoreError) :
    core.SameCells (core.storeResult error) := by
  unfold storeResult
  split
  · exact core.same_cells_refl
  · exact core.same_cells_latch _

theorem same_cells_competing [TaskStore σ] (core : Core σ) (input : Input) (id : TaskId)
    (expectedVersion : Nat) :
    core.SameCells (core.checkCompetingTransition input id expectedVersion) := by
  rcases core.check_competing_cases input id expectedVersion with same | ⟨message, same⟩
  · rw [same]
    exact core.same_cells_refl
  · rw [same]
    exact core.same_cells_latch message

theorem same_cells_leave (core : Core σ) : core.SameCells core.leaveAdmission :=
  same_cells_of_eq rfl rfl rfl rfl rfl

theorem SameCells.trans {first second third : Core σ} (left : first.SameCells second)
    (right : second.SameCells third) : first.SameCells third :=
  ⟨right.flights.trans left.flights, right.entries.trans left.entries,
    fun latched => right.fault (left.fault latched), right.flags.trans left.flags,
    right.cancellations.trans left.cancellations⟩

end Core

section Bystanders

variable {config : Config} {core : Core σ} {input : Input} {result : Step σ}

variable {after : Core σ} {task : RunTask}

theorem call_write_cells {α : Type} {kind : WriteKind} {operation : σ → σ × Except StoreError α}
    {answer : Except StoreError α}
    (called : core.callWrite input kind operation = (after, answer)) : core.SameCells after := by
  unfold Core.callWrite at called
  split at called
  all_goals
    cases called
    exact Core.same_cells_of_eq rfl rfl rfl rfl rfl

theorem supervisor_cells (pc : SupervisorPc) (stepped : pc.step config core input = some result) :
    core.SameCells result.core ∧ result.threads.all Thread.plain = true := by
  obtain ⟨after, next, rfl, step⟩ := supervisor_step_cases pc stepped
  cases step
  all_goals exact ⟨(Core.same_cells_of_eq rfl rfl rfl rfl rfl), rfl⟩

variable [TaskStore σ]

theorem submit_cells (call : SubmitCall) (stepped : call.step core input = some result) :
    core.SameCells result.core ∧ result.threads.all Thread.plain = true := by
  obtain ⟨encoded, pc⟩ := call
  obtain ⟨reached, next, rfl, step⟩ := submit_step_cases _ stepped
  refine ⟨?_, rfl⟩
  cases step with
  | accepts id stored outcome after called =>
    exact (call_write_cells called).trans after.same_cells_leave
  | rejects id stored error after called =>
    have rejected : after.SameCells (SubmitCall.rejection after error).1 := by
      unfold SubmitCall.rejection
      split
      · exact after.same_cells_refl
      · exact after.same_cells_refl
      · exact after.same_cells_refl
      · exact after.same_cells_refl
      · exact after.same_cells_store_result _
    exact ((call_write_cells called).trans rejected).trans (Core.same_cells_leave _)
  | _ => exact Core.same_cells_of_eq rfl rfl rfl rfl rfl

theorem resume_cells (call : ResumeCall) (stepped : call.step core input = some result) :
    core.SameCells result.core ∧ result.threads.all Thread.plain = true := by
  obtain ⟨id, expectedStateVersion, pc⟩ := call
  obtain ⟨reached, next, rfl, step⟩ := resume_step_cases _ stepped
  refine ⟨?_, rfl⟩
  cases step with
  | unread error => exact (core.same_cells_store_result error).trans (Core.same_cells_leave _)
  | failed summary error after called =>
    exact ((call_write_cells called).trans (after.same_cells_store_result error)).trans
      (Core.same_cells_leave _)
  | resumes summary resumed after called =>
    exact (call_write_cells called).trans after.same_cells_leave
  | _ => exact Core.same_cells_of_eq rfl rfl rfl rfl rfl

theorem scheduler_cells (pc : SchedulerPc) (stepped : pc.step config core input = some result) :
    core.SameCells result.core ∧ result.threads.all Thread.plain = true := by
  cases scheduler_step_cases pc stepped with
  | unlisted | unasked => exact ⟨core.same_cells_latch _, rfl⟩
  | blocks scan summary written reason after called | blockLost scan summary reason after called =>
    exact ⟨call_write_cells called, rfl⟩
  | blockFailed scan summary reason error after called =>
    exact ⟨(call_write_cells called).trans (after.same_cells_latch _), rfl⟩
  | competed =>
    exact ⟨core.same_cells_competing input _ _, rfl⟩
  | starts scan summary running after called =>
    exact ⟨(call_write_cells called).trans (Core.same_cells_of_eq rfl rfl rfl rfl rfl), rfl⟩
  | superseded scan summary error after called =>
    exact ⟨(call_write_cells called).trans after.same_cells_leave, rfl⟩
  | startFailed scan summary error after called =>
    exact ⟨((call_write_cells called).trans after.same_cells_leave).trans
      (Core.same_cells_latch _ _), rfl⟩
  | _ => exact ⟨(Core.same_cells_of_eq rfl rfl rfl rfl rfl), rfl⟩

theorem publisher_cells (pc : PublisherPc) (stepped : pc.step config core input = some result) :
    core.SameCells result.core ∧ result.threads.all Thread.plain = true := by
  obtain ⟨after, next, rfl, step⟩ := publisher_step_cases pc stepped
  cases step with
  | archiveFails place quarantined command after error called =>
    exact ⟨call_write_cells called, rfl⟩
  | archives place quarantined command after called | unmarked entry rest after error called
  | marks entry rest after called =>
    exact ⟨(call_write_cells called).trans (Core.same_cells_of_eq rfl rfl rfl rfl rfl), rfl⟩
  | _ => exact ⟨(Core.same_cells_of_eq rfl rfl rfl rfl rfl), rfl⟩

theorem starter_cells (pc : StarterPc) (stepped : pc.step core input = some result) :
    core.SameCells result.core ∧ result.threads.all Thread.plain = true := by
  cases pc with
  | list after =>
    simp only [StarterPc.step] at stepped
    split at stepped
    all_goals
      cases stepped
      exact ⟨core.same_cells_refl, rfl⟩
  | recover rest next =>
    cases stepped
    exact ⟨core.same_cells_refl, rfl⟩
  | ready =>
    cases stepped
    exact ⟨(Core.same_cells_of_eq rfl rfl rfl rfl rfl), rfl⟩
  | requeue =>
    simp only [StarterPc.step] at stepped
    split at stepped
    · rename_i after error called
      cases stepped
      exact ⟨(call_write_cells called).trans (after.same_cells_store_result _), rfl⟩
    · rename_i after answer called
      cases stepped
      exact ⟨call_write_cells called, rfl⟩
  | failed => cases stepped

theorem same_cells_step {thread : Thread} (bystander : thread.bystander = true)
    (notRun : ∀ task, thread ≠ .run task) (stepped : thread.step config core input = some result) :
    core.SameCells result.core ∧ result.threads.all Thread.plain = true := by
  cases thread with
  | submit call => exact submit_cells call stepped
  | cancel call | hook task => cases bystander
  | resume call => exact resume_cells call stepped
  | run task => exact (notRun task rfl).elim
  | scheduler pc => exact scheduler_cells pc stepped
  | supervisor pc => exact supervisor_cells pc stepped
  | publisher pc => exact publisher_cells pc stepped
  | starter pc => exact starter_cells pc stepped
  | detached write =>
    cases stepped
    exact ⟨(Core.same_cells_of_eq rfl rfl rfl rfl rfl), rfl⟩
  | finished => cases stepped

variable {thread : Thread}

theorem run_step_form (task : RunTask) (stepped : task.step config core input = some result) :
    ∃ pc, result.thread = .run { task with pc := pc } ∧ result.spawned = [] := by
  obtain ⟨started, pc⟩ := task
  cases run_step_cases _ stepped
  all_goals exact ⟨_, rfl, rfl⟩

theorem hook_step_form (task : HookTask) (stepped : task.step config core input = some result) :
    ∃ pc, result.thread = .hook { task with pc := pc } ∧ result.spawned = [] := by
  have reads : ∀ disappeared running, ∃ pc,
      (task.reading core input disappeared running).thread = .hook { task with pc := pc } ∧
        (task.reading core input disappeared running).spawned = [] := by
    intro disappeared running
    unfold HookTask.reading
    simp only
    split
    · exact ⟨_, rfl, rfl⟩
    · exact ⟨_, rfl, rfl⟩
    · split <;> exact ⟨_, rfl, rfl⟩
  have writes : ∀ command written again, ∃ pc,
      (task.writing core input command written again).thread = .hook { task with pc := pc } ∧
        (task.writing core input command written again).spawned = [] := by
    intro command written again
    unfold HookTask.writing
    split
    · exact ⟨_, rfl, rfl⟩
    · split <;> exact ⟨_, rfl, rfl⟩
  obtain ⟨id, attempt, kindId, flight, pc⟩ := task
  cases hook_step_cases _ stepped with
  | loads | reloads | failureLoads => exact reads _ _
  | persists | clears | failureRecords => exact writes _ _ _
  | _ =>
    exact ⟨_, rfl, rfl⟩

theorem cancel_step_threads (call : CancelCall)
    (stepped : call.step config core input = some result) :
    ∀ next ∈ result.threads, (∃ call, next = .cancel call) ∨ ∃ task, next = .hook task := by
  obtain ⟨id, pc⟩ := call
  cases cancel_step_cases _ stepped with
  | spawns =>
    intro next member
    rcases mem_cons.mp member with rfl | spawned
    · exact .inl ⟨_, rfl⟩
    · exact .inr ⟨_, mem_singleton.mp spawned⟩
  | _ => exact fun next member => .inl ⟨_, mem_singleton.mp member⟩

theorem bystanders_step (bystander : thread.bystander = true)
    (stepped : thread.step config core input = some result) :
    result.threads.all Thread.bystander = true := by
  cases thread with
  | cancel call | hook task => cases bystander
  | run task =>
    obtain ⟨pc, same, alone⟩ := run_step_form task stepped
    simp [Step.threads, same, alone, Thread.bystander]
  | _ =>
    have plain := (same_cells_step rfl (fun _ other => by cases other) stepped).2
    apply all_eq_true.mpr
    exact fun next among => plain_bystander (all_eq_true.mp plain next among)

theorem run_source (notRun : ∀ task, thread ≠ .run task)
    (stepped : thread.step config core input = some result) (member : .run task ∈ result.threads) :
    task.pc = .load := by
  cases thread with
  | cancel call =>
    rcases cancel_step_threads call stepped _ member with ⟨_, same⟩ | ⟨_, same⟩ <;> cases same
  | hook hook =>
    obtain ⟨pc, form, alone⟩ := hook_step_form hook stepped
    simp [Step.threads, form, alone] at member
  | run other => exact (notRun other rfl).elim
  | _ =>
    have plain := (same_cells_step rfl notRun stepped).2
    have fresh := all_eq_true.mp plain _ member
    obtain ⟨started, pc⟩ := task
    cases pc <;> first | rfl | cases fresh

theorem run_origin (notRun : ∀ task, thread ≠ .run task)
    (stepped : thread.step config core input = some result) (member : .run task ∈ result.threads) :
    ∃ scan, thread = .scheduler (.spawn scan task.started) := by
  have flying : (Thread.run task).flights = 1 := by
    obtain ⟨started, pc⟩ := task
    cases run_source notRun stepped member
    rfl
  rcases (thread_conduct stepped).live _ member flying with flies | admitted | ⟨scan, running, rfl⟩
  · cases thread with
    | run other => exact (notRun other rfl).elim
    | hook hook =>
      obtain ⟨pc, form, alone⟩ := hook_step_form hook stepped
      simp [Step.threads, form, alone] at member
    | _ => cases flies
  · cases thread with
    | submit call =>
      obtain ⟨after, pc, rfl, -⟩ := submit_step_cases call stepped
      simp [Step.threads] at member
    | resume call =>
      obtain ⟨after, pc, rfl, -⟩ := resume_step_cases call stepped
      simp [Step.threads] at member
    | cancel call =>
      rcases cancel_step_threads call stepped _ member with ⟨_, same⟩ | ⟨_, same⟩ <;> cases same
    | _ => cases admitted
  · cases stepped
    rcases mem_cons.mp member with same | spawned
    · cases same
    · cases mem_singleton.mp spawned
      exact ⟨scan, rfl⟩

theorem no_detached_step (stepped : thread.step config core input = some result)
    (write : DetachedWrite) : Thread.detached write ∉ result.threads := by
  intro member
  cases thread with
  | cancel call =>
    rcases cancel_step_threads call stepped _ member with ⟨_, same⟩ | ⟨_, same⟩ <;> cases same
  | hook hook =>
    obtain ⟨pc, form, alone⟩ := hook_step_form hook stepped
    simp [Step.threads, form, alone] at member
  | run task =>
    obtain ⟨pc, form, alone⟩ := run_step_form task stepped
    simp [Step.threads, form, alone] at member
  | _ =>
    have plain := (same_cells_step rfl (fun _ other => by cases other) stepped).2
    cases all_eq_true.mp plain _ member

omit [TaskStore σ] in
theorem drop_bystanders (left : Dropped core thread input result) :
    result.threads.all Thread.bystander = true := by
  have remains : thread.remains.bystander = true := by
    cases thread <;> rfl
  cases left with
  | idle dropped left =>
    subst left
    simp [Step.threads, remains]
  | @issued after write dropped carried left =>
    subst left
    have detached : (Thread.detached write).bystander = true := rfl
    simp [Step.threads, remains, detached]

omit [TaskStore σ] in
theorem dropped_same_cells (dropped : thread.dropped core = some after) :
    core.SameCells after := by
  unfold Thread.dropped at dropped
  split at dropped
  all_goals try cases dropped
  all_goals
    split at dropped
    all_goals
      cases dropped
      try exact Core.same_cells_of_eq rfl rfl rfl rfl rfl

omit [TaskStore σ] in
theorem drop_same_cells (left : Dropped core thread input result) :
    core.SameCells result.core := by
  cases left with
  | idle dropped left =>
    subst left
    exact dropped_same_cells dropped
  | issued dropped carried left =>
    subst left
    exact (dropped_same_cells dropped).trans (Core.same_cells_of_eq rfl rfl rfl rfl rfl)

end Bystanders

end TaskService.Service
