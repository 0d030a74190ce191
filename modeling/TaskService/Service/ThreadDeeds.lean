import TaskService.Service.Deeds
import TaskService.Service.SchedulerCases
import TaskService.Service.StaffCases
import TaskService.Service.StepCases

/-!
# The deeds of each kind of thread

One lemma per kind of thread takes its step function apart, counter by counter.
-/

namespace TaskService.Service

open Library Model Store List
open TaskStore LawfulStore SchedulerPc
open Step (threads)

variable {σ : Type}

variable [TaskStore σ]

section

variable {config : Config} {core : Core σ} {input : Input} {result : Step σ}

theorem submit_footprint (call : SubmitCall) (stepped : call.step core input = some result) :
    Footprint config core input (.submit call) result := by
  obtain ⟨encoded, pc⟩ := call
  obtain ⟨reached, next, rfl, step⟩ := submit_step_cases _ stepped
  -- What the two answers of the store have in common.
  have written : ∀ {id stored after answer returned},
      core.callAccept input id stored = (after, answer) → reached.store = after.store →
      reached.knownIds = after.knownIds →
      Footprint config core input (.submit { encoded := encoded, pc := .accept id stored })
        ⟨reached, .submit { encoded := encoded, pc := .returned returned }, []⟩ := by
    intro id stored after answer returned called store known
    obtain ⟨sameIds, ⟨same, -⟩ | ⟨written, -⟩⟩ := call_write_cases called
    · exact footprint_bare ⟨rfl, rfl, rfl, trivial⟩ rfl (store.trans same) (known.trans sameIds)
    · refine ⟨Deed.accepted id stored rfl (store.trans written) (known.trans sameIds) rfl rfl rfl,
        ?_⟩
      simp [threads, Thread.Wf]
  cases step with
  | generates stored id fresh =>
    refine ⟨Deed.generated id fresh rfl rfl rfl rfl rfl, ?_⟩
    simp [threads, Thread.Wf]
  | accepts id stored outcome after called => exact written called rfl rfl
  | rejects id stored error after called =>
    apply written called <;> cases error <;> simp [SubmitCall.rejection]
  | _ =>
    exact footprint_bare ⟨rfl, rfl, rfl, trivial⟩ rfl rfl rfl

theorem cancel_return_footprint (call : CancelCall) (before : Core σ)
    (answer : Except TaskServiceError CancelOutcome) (thread : Thread)
    (store : before.store = core.store) (known : before.knownIds = core.knownIds) :
    Footprint config core input thread (CancelCall.returnWith before call answer) := by
  cases answer <;> exact footprint_bare ⟨rfl, rfl, rfl, trivial⟩ rfl store known

end

section

variable [LawfulStore σ] {config : Config} {core : Core σ} {input : Input} {result : Step σ}

theorem cancel_footprint (valid : Valid core.store) (call : CancelCall)
    (wf : (Thread.cancel call).Wf) (stepped : call.step config core input = some result) :
    Footprint config core input (.cancel call) result := by
  obtain ⟨id, pc⟩ := call
  cases cancel_step_cases _ stepped with
  | unread =>
    exact cancel_return_footprint _ _ _ _ (by simp) (by simp)
  | waiting task called unstarted =>
    obtain ⟨same, shown⟩ := call_get_shows valid called
    exact footprint_reads shown rfl rfl rfl ⟨same, unstarted⟩ rfl rfl rfl
  | hooked task descriptor called running =>
    obtain ⟨same, -⟩ := call_get_shows valid called
    exact footprint_bare ⟨rfl, rfl, rfl, same, running⟩ rfl rfl rfl
  | requests task descriptor called running =>
    obtain ⟨same, shown⟩ := call_get_shows valid called
    exact footprint_reads shown rfl rfl rfl ⟨same, running⟩ rfl rfl rfl
  | notCancelled called | notRequested called =>
    exact footprint_transition_bare rfl called ⟨rfl, rfl, rfl, trivial⟩ rfl
      (by simp [CancelCall.finish, CancelCall.returnWith])
      (by simp [CancelCall.finish, CancelCall.returnWith])
  | cancelled called | persisted called =>
    exact footprint_transition_bare rfl called ⟨rfl, rfl, rfl, trivial⟩ rfl rfl rfl
  | opens summary => exact footprint_bare ⟨rfl, rfl, rfl, wf⟩ rfl rfl rfl
  | spawns =>
    refine ⟨Deed.quiet rfl rfl ?_ ?_ ?_, ?_⟩
    · simp [threads, Thread.held]
    · simp [threads, Thread.pending]
    · simp [threads, Thread.owned]
    · simp [threads, Thread.Wf]
  | landed => exact cancel_return_footprint _ core _ _ rfl rfl
  | _ =>
    exact footprint_bare ⟨rfl, rfl, rfl, trivial⟩ rfl rfl rfl

theorem resume_footprint (valid : Valid core.store) (call : ResumeCall)
    (stepped : call.step core input = some result) :
    Footprint config core input (.resume call) result := by
  obtain ⟨id, expectedStateVersion, pc⟩ := call
  obtain ⟨reached, next, rfl, step⟩ := resume_step_cases _ stepped
  cases step with
  | unread error => exact footprint_bare ⟨rfl, rfl, rfl, trivial⟩ rfl (by simp) (by simp)
  | blocked task called expected waiting unrequested =>
    obtain ⟨same, shown⟩ := call_get_shows valid called
    exact footprint_reads shown rfl rfl rfl ⟨same, expected, waiting, unrequested⟩ rfl rfl rfl
  | failed summary error after called =>
    exact footprint_transition_bare rfl called ⟨rfl, rfl, rfl, trivial⟩ rfl (by simp) (by simp)
  | resumes summary resumed after called =>
    exact footprint_transition_bare rfl called ⟨rfl, rfl, rfl, trivial⟩ rfl rfl rfl
  | _ => exact footprint_bare ⟨rfl, rfl, rfl, trivial⟩ rfl rfl rfl

theorem completion_of_terminal (execution : HandlerExecution) :
    (RunTask.completionOf execution).state.isTerminal = true := by
  unfold RunTask.completionOf
  split
  · split <;> rfl
  all_goals rfl

theorem run_footprint (valid : Valid core.store) (task : RunTask)
    (wf : (Thread.run task).Wf) (stepped : task.step config core input = some result) :
    Footprint config core input (.run task) result := by
  obtain ⟨started, pc⟩ := task
  cases run_step_cases _ stepped with
  | prepared | registers | requested | unrequested | sets =>
    exact footprint_keeps rfl rfl (List.Sublist.refl _) trivial rfl rfl rfl
  | rejected => exact footprint_keeps rfl rfl (List.Sublist.refl _) rfl rfl rfl rfl
  | completes flag =>
    exact footprint_keeps rfl rfl (List.Sublist.refl _) (completion_of_terminal _) rfl rfl rfl
  | unregisters completion =>
    exact footprint_keeps rfl rfl (List.Sublist.refl _) wf rfl rfl rfl
  | reads completion latest called live =>
    obtain ⟨same, shown⟩ := call_get_shows valid called
    refine ⟨Deed.quiet rfl rfl ?_ ?_ ?_, ?_⟩
    · simp [threads, Thread.held, shown]
    · simp [threads, Thread.pending]
    · simp [threads, Thread.owned, RunPc.unwritten]
    · simpa [threads, Thread.Wf] using ⟨wf, same, live⟩
  | wrote called | lost called | unwritten called =>
    exact footprint_transition_bare rfl called ⟨rfl, rfl, rfl, trivial⟩ rfl rfl rfl
  | contests completion version =>
    rcases core.check_competing_cases input started.id version with same | ⟨_, same⟩
    all_goals
      rw [same]
      exact footprint_bare ⟨rfl, rfl, rfl, trivial⟩ rfl rfl rfl
  | _ =>
    exact footprint_bare ⟨rfl, rfl, rfl, trivial⟩ rfl rfl rfl

theorem hook_reading_footprint (valid : Valid core.store) (task : HookTask)
    (disappeared : String) (running : TaskSummary → HookPc) (thread : Thread)
    (continues : ∀ summary, core.Shows summary → summary.id = task.id →
      task.stillRunning summary = true →
      Footprint config core input thread
        ⟨core, .hook { task with pc := running summary }, []⟩) :
    Footprint config core input thread (task.reading core input disappeared running) := by
  unfold HookTask.reading
  simp only
  split
  · exact footprint_bare ⟨rfl, rfl, rfl, trivial⟩ rfl rfl rfl
  · exact footprint_bare ⟨rfl, rfl, rfl, trivial⟩ rfl rfl rfl
  · rename_i stored called
    obtain ⟨same, shown⟩ := call_get_shows valid called
    split
    · rename_i still
      exact continues stored.summary shown same still
    · exact footprint_bare ⟨rfl, rfl, rfl, trivial⟩ rfl rfl rfl

theorem still_running_iff (task : HookTask) (summary : TaskSummary) :
    task.stillRunning summary = true ↔
      summary.attempt = task.attempt ∧ summary.state = .running := by
  unfold HookTask.stillRunning
  constructor
  · intro still
    simp only [Bool.and_eq_true, decide_eq_true_eq] at still
    exact ⟨still.1.2, still.2⟩
  · rintro ⟨attempt, running⟩
    simp [attempt, running, TaskState.isTerminal]

omit [LawfulStore σ] in
theorem hook_writing_footprint (task : HookTask) (summary : TaskSummary)
    (command : TransitionCommand) (written again : HookPc)
    (next : (Thread.hook task).nextTransition config input = some (summary, command))
    (bareWritten : (Thread.hook { task with pc := written }).Bare)
    (bareAgain : (Thread.hook { task with pc := again }).Bare) :
    Footprint config core input (.hook task) (task.writing core input command written again) := by
  unfold HookTask.writing
  split
  · rename_i after answer called
    exact footprint_transition_bare next called bareWritten rfl rfl rfl
  · rename_i after error called
    split
    · exact footprint_transition_bare next called bareAgain rfl rfl rfl
    · exact footprint_transition_bare next called ⟨rfl, rfl, rfl, trivial⟩ rfl rfl rfl

theorem hook_footprint (valid : Valid core.store) (task : HookTask)
    (stepped : task.step config core input = some result) :
    Footprint config core input (.hook task) result := by
  obtain ⟨id, attempt, kindId, flight, pc⟩ := task
  cases hook_step_cases _ stepped with
  | loads =>
    apply hook_reading_footprint valid
    intro summary shown same still
    obtain ⟨sameAttempt, running⟩ := (still_running_iff _ _).mp still
    simp only
    split
    · exact footprint_reads shown rfl rfl rfl ⟨same, sameAttempt, running⟩ rfl rfl rfl
    · exact footprint_bare ⟨rfl, rfl, rfl, trivial⟩ rfl rfl rfl
  | reloads =>
    apply hook_reading_footprint valid
    intro summary shown same still
    obtain ⟨sameAttempt, running⟩ := (still_running_iff _ _).mp still
    simp only
    split
    · exact footprint_bare ⟨rfl, rfl, rfl, trivial⟩ rfl rfl rfl
    · exact footprint_reads shown rfl rfl rfl ⟨same, sameAttempt, running⟩ rfl rfl rfl
  | failureLoads message =>
    apply hook_reading_footprint valid
    intro summary shown same still
    obtain ⟨sameAttempt, running⟩ := (still_running_iff _ _).mp still
    exact footprint_reads shown rfl rfl rfl ⟨same, sameAttempt, running⟩ rfl rfl rfl
  | persists summary | clears summary | failureRecords message summary =>
    exact hook_writing_footprint _ summary _ _ _ rfl ⟨rfl, rfl, rfl, trivial⟩
      ⟨rfl, rfl, rfl, trivial⟩
  | publishes answer latched latches =>
    subst latches
    cases answer <;> exact footprint_bare ⟨rfl, rfl, rfl, trivial⟩ rfl rfl rfl
  | _ =>
    exact footprint_bare ⟨rfl, rfl, rfl, trivial⟩ rfl rfl rfl

variable {after : Core σ} {next : SchedulerPc} {scan : Scan} {thread : Thread}

omit [LawfulStore σ] in
theorem scheduler_move {pc : SchedulerPc} (wf : (Thread.scheduler pc).Wf)
    (held : ∀ summary ∈ next.held, summary ∈ pc.held) (owned : (Thread.scheduler next).owned = [])
    (store : after.store = core.store) (known : after.knownIds = core.knownIds) :
    Footprint config core input (.scheduler pc)
      ⟨after, .scheduler next, []⟩ := by
  refine ⟨Deed.quiet store known ?_ ?_ ?_, ?_⟩
  · intro summary member
    exact .inl (held summary (by simpa [threads, Thread.held] using member))
  · simp [threads, Thread.pending]
  · simp [threads, owned]
  · intro thread member
    obtain rfl : thread = .scheduler next := by simpa [threads] using member
    exact fun summary inside => wf summary (held summary inside)

theorem scan_end_held (scan : Scan) (completed : Bool) :
    (scanEnd scan completed).held = [] ∧
      (Thread.scheduler (scanEnd scan completed)).owned = [] := by
  unfold scanEnd
  split <;> exact ⟨rfl, rfl⟩

omit [LawfulStore σ] in
/-- A start makes the scheduler the owner of the attempt if the store has answered with it. -/
theorem start_footprint {summary : TaskSummary} {final : Core σ}
    {answer : Except StoreError TaskSummary} (owned : (Thread.scheduler next).owned =
      match answer with
      | .ok running => [(running.id, running.attempt)]
      | .error _ => []) (wf : (Thread.scheduler (.start scan summary)).Wf)
    (called : core.callStart input (startCommand summary input.now) = (after, answer))
    (store : final.store = after.store) (known : final.knownIds = after.knownIds)
    (held : ∀ other ∈ next.held, other ∈ scan.rest) :
    Footprint config core input (.scheduler (.start scan summary))
      ⟨final, .scheduler next, []⟩ := by
  have passed : ∀ other ∈ next.held, other ∈ summary :: scan.rest :=
    fun other member => mem_cons_of_mem _ (held other member)
  obtain ⟨sameIds, ⟨same, message, -, failed⟩ | ⟨written, -, answered⟩⟩ := call_write_cases called
  · rw [failed] at owned
    exact scheduler_move wf passed owned (store.trans same) (known.trans sameIds)
  · refine ⟨Deed.started scan summary rfl (store.trans written) (known.trans sameIds) ?_ ?_ ?_, ?_⟩
    · intro other member
      exact passed other (by simpa [threads, Thread.held] using member)
    · simp [threads, Thread.pending]
    · have alone : (⟨final, .scheduler next, []⟩ : Step σ).threads.flatMap
          Thread.owned = (Thread.scheduler next).owned := by simp [threads]
      rw [← answered]
      exact alone.trans owned
    · intro thread member
      obtain rfl : thread = .scheduler next := by simpa [threads] using member
      exact fun other inside => wf other (passed other inside)

theorem listing_footprint (valid : Valid core.store) {page : TaskPage}
    (called : core.callRead input (fun store =>
      listReadyQueued store scan.after config.scanPageSize scan.now) = .ok page) :
    Footprint config core input (.scheduler (.list scan))
      ⟨core, .scheduler (.entryShutdown { scan with rest := page.records, next := page.next }),
        []⟩ := by
  have sound := list_ready_sound core.store _ _ _ page valid (read_page called)
  refine ⟨Deed.quiet rfl rfl ?_ ?_ ?_, ?_⟩
  · intro summary member
    have inside : summary ∈ page.records := by
      simpa [threads, Thread.held, held] using member
    exact .inr (sound summary inside).2
  · simp [threads, Thread.pending]
  · simp [threads, Thread.owned]
  · intro thread member
    simp only [threads, mem_singleton] at member
    subst member
    exact fun summary inside => (sound summary inside).1

theorem scheduler_footprint (valid : Valid core.store) (pc : SchedulerPc)
    (wf : (Thread.scheduler pc).Wf) (stepped : pc.step config core input = some result) :
    Footprint config core input (.scheduler pc) result := by
  have nothing : ∀ summary ∈ ([] : List TaskSummary), summary ∈ pc.held :=
    forall_mem_nil _
  cases scheduler_step_cases pc stepped with
  | wakes | quits | goesOn | faulted | healthy | begins | full | unlisted | unasked | asked | arms
  | resumes | stops => exact scheduler_move wf nothing rfl rfl rfl
  | scanShut scan | scanFaulted scan | scanFull scan | pageShut scan | pageFull scan =>
    obtain ⟨noneHeld, noneOwned⟩ := scan_end_held scan false
    exact scheduler_move wf (by simp [noneHeld]) noneOwned rfl rfl
  | completed scan =>
    obtain ⟨noneHeld, noneOwned⟩ := scan_end_held scan true
    exact scheduler_move wf (by simp [noneHeld]) noneOwned rfl rfl
  | listed scan page called => exact listing_footprint valid called
  | ineligible scan summary rest reason left problem
  | impossible scan summary rest reason left eligible verdict
  | reserves scan summary rest left =>
    have entries : (dispatch scan).held = summary :: rest := left
    exact scheduler_move wf (by rw [entries]; exact fun _ member => member) rfl rfl rfl
  | passesOver scan summary rest left eligible verdict spent beyond
  | refuses scan summary rest left =>
    have entries : (dispatch scan).held = summary :: rest := left
    exact scheduler_move wf (by rw [entries]; exact fun _ => mem_cons_of_mem _) rfl rfl rfl
  | blocks scan summary written reason after called
  | blockFailed scan summary reason error after called =>
    have passed : ∀ other ∈ scan.rest, other ∈ summary :: scan.rest :=
      fun _ member => mem_cons_of_mem _ member
    exact footprint_transition rfl called passed rfl rfl
      (fun other member => wf other (passed other member)) rfl rfl rfl
  | blockLost scan summary reason after called =>
    exact footprint_transition rfl called (fun _ member => member) rfl rfl wf rfl rfl rfl
  | competed scan summary =>
    rcases core.check_competing_cases input summary.id summary.stateVersion with same | ⟨_, same⟩
    all_goals
      rw [same]
      exact scheduler_move wf (fun _ member => mem_cons_of_mem _ member) rfl rfl rfl
  | turnedAway =>
    exact scheduler_move wf (fun _ member => mem_cons_of_mem _ member) rfl rfl rfl
  | starts scan summary running after called | superseded scan summary error after called =>
    exact start_footprint rfl wf called rfl rfl (fun _ member => member)
  | startFailed scan summary error after called =>
    exact start_footprint rfl wf called rfl rfl (forall_mem_nil _)
  | spawns =>
    refine ⟨Deed.quiet rfl rfl ?_ ?_ ?_, ?_⟩
    · intro summary member
      left
      simpa [threads, Thread.held, held] using member
    · simp [threads, Thread.pending]
    · simp [threads, Thread.owned, RunPc.unwritten]
    · intro thread member
      simp only [threads, mem_cons, not_mem_nil, or_false] at member
      rcases member with rfl | rfl
      · exact wf
      · trivial
  | _ =>
    exact scheduler_move wf (fun _ member => member) rfl rfl rfl

omit [LawfulStore σ] in
theorem supervisor_footprint (pc : SupervisorPc)
    (stepped : pc.step config core input = some result) :
    Footprint config core input (.supervisor pc) result := by
  obtain ⟨after, next, rfl, step⟩ := supervisor_step_cases pc stepped
  cases step
  all_goals exact footprint_bare ⟨rfl, rfl, rfl, trivial⟩ rfl rfl rfl

omit [LawfulStore σ] in
theorem footprint_outbox {answer : Except StoreError Unit}
    {operation : σ → σ × Except StoreError Unit}
    (called : core.callWrite input .outbox operation = (after, answer)) (bare : result.thread.Bare)
    (alone : result.spawned = []) (store : result.core.store = after.store)
    (known : result.core.knownIds = after.knownIds)
    (deed : result.core.store = (operation core.store).1 →
      result.core.knownIds = core.knownIds → result.threads.flatMap Thread.held = [] →
      result.threads.flatMap Thread.pending = [] → result.threads.flatMap Thread.owned = [] →
      Deed config core input thread result) :
    Footprint config core input thread result := by
  obtain ⟨sameIds, ⟨same, -⟩ | ⟨written, -⟩⟩ := call_write_cases called
  · exact footprint_bare bare alone (store.trans same) (known.trans sameIds)
  · refine ⟨deed (store.trans written) (known.trans sameIds) ?_ ?_ ?_, ?_⟩
    · simp [threads, alone, bare.held]
    · simp [threads, alone, bare.pending]
    · simp [threads, alone, bare.owned]
    · simpa [threads, alone] using bare.wf

theorem publisher_bare (pc : PublisherPc) : (Thread.publisher pc).Bare :=
  ⟨rfl, rfl, rfl, trivial⟩

omit [LawfulStore σ] in
theorem publisher_footprint (pc : PublisherPc) (stepped : pc.step config core input = some result) :
    Footprint config core input (.publisher pc) result := by
  obtain ⟨after, next, rfl, step⟩ := publisher_step_cases pc stepped
  cases step with
  | archiveFails place quarantined command after error called
  | archives place quarantined command after called =>
    exact footprint_outbox called (publisher_bare _) rfl rfl rfl (Deed.archived command)
  | unmarked entry rest after error called | marks entry rest after called =>
    exact footprint_outbox called (publisher_bare _) rfl rfl rfl (Deed.published _ _)
  | _ => exact footprint_bare (publisher_bare _) rfl rfl rfl

omit [LawfulStore σ] in
theorem starter_move {pc next : StarterPc}
    (held : ∀ summary ∈ (Thread.starter next).held, summary ∈ (Thread.starter pc).held)
    (wf : (Thread.starter next).Wf) (store : after.store = core.store)
    (known : after.knownIds = core.knownIds) :
    Footprint config core input (.starter pc) ⟨after, .starter next, []⟩ := by
  refine ⟨Deed.quiet store known ?_ ?_ ?_, ?_⟩
  · intro summary member
    exact .inl (held summary (by simpa [threads] using member))
  · simp [threads, Thread.pending]
  · simp [threads, Thread.owned]
  · simpa [threads] using wf

theorem starter_footprint (valid : Valid core.store) (pc : StarterPc)
    (stepped : pc.step core input = some result) :
    Footprint config core input (.starter pc) result := by
  cases pc with
  | list after =>
    simp only [StarterPc.step] at stepped
    split at stepped
    · cases stepped
      exact footprint_bare ⟨rfl, rfl, rfl, trivial⟩ rfl rfl rfl
    · rename_i page called
      cases stepped
      have read : listEncoded core.store (StarterPc.unfinishedQuery after) = .ok page := by
        unfold Core.callRead at called
        split at called
        · cases called
        · exact called
      have sound := list_sound core.store _ page valid read
      refine ⟨Deed.quiet rfl rfl ?_ ?_ ?_, ?_⟩
      · intro summary member
        exact .inr (sound summary (by simpa [threads, Thread.held] using member))
      · simp [threads, Thread.pending]
      · simp [threads, Thread.owned]
      · simp [threads, Thread.Wf]
  | recover rest next =>
    cases stepped
    cases rest with
    | nil =>
      unfold StarterPc.nextRecord
      simp only
      split <;> exact footprint_bare ⟨rfl, rfl, rfl, trivial⟩ rfl rfl rfl
    | cons =>
      unfold StarterPc.nextRecord
      simp only
      split
      · rename_i running
        exact starter_move (fun _ member => member) running rfl rfl
      · exact starter_move (fun _ member => mem_cons_of_mem _ member) trivial rfl rfl
  | requeue =>
    simp only [StarterPc.step] at stepped
    split at stepped
    · rename_i after error called
      cases stepped
      exact footprint_transition_bare rfl called ⟨rfl, rfl, rfl, trivial⟩ rfl (by simp) (by simp)
    · rename_i after written called
      cases stepped
      exact footprint_transition rfl called (fun _ member => mem_cons_of_mem _ member) rfl rfl
        trivial rfl rfl rfl
  | ready =>
    cases stepped
    exact footprint_bare ⟨rfl, rfl, rfl, trivial⟩ rfl rfl rfl
  | failed => cases stepped

omit [LawfulStore σ] in
theorem detached_footprint (write : DetachedWrite) :
    Footprint config core input (.detached write)
      ⟨{ core with store := write.run core.store input }, .finished, []⟩ := by
  have finished : ∀ next ∈ [Thread.finished], next.Wf := by
    intro next member
    obtain rfl : next = .finished := by simpa using member
    trivial
  cases write with
  | accept id request => exact ⟨Deed.accepted id request rfl rfl rfl rfl rfl rfl, finished⟩
  | transition summary command =>
    exact ⟨Deed.transition summary command rfl rfl rfl (forall_mem_nil _) rfl rfl, finished⟩
  | markPublished id version => exact ⟨Deed.published id version rfl rfl rfl rfl rfl, finished⟩
  | quarantine command => exact ⟨Deed.archived command rfl rfl rfl rfl rfl, finished⟩

theorem thread_footprint (valid : Valid core.store) (wf : thread.Wf)
    (stepped : thread.step config core input = some result) :
    Footprint config core input thread result := by
  cases thread with
  | submit call => exact submit_footprint call stepped
  | cancel call => exact cancel_footprint valid call wf stepped
  | resume call => exact resume_footprint valid call stepped
  | run task => exact run_footprint valid task wf stepped
  | hook task => exact hook_footprint valid task stepped
  | scheduler pc => exact scheduler_footprint valid pc wf stepped
  | supervisor pc => exact supervisor_footprint pc stepped
  | publisher pc => exact publisher_footprint pc stepped
  | starter pc => exact starter_footprint valid pc stepped
  | detached write =>
    cases stepped
    exact detached_footprint write
  | finished => cases stepped

end

end TaskService.Service
