import TaskService.Service.Conduct

/-!
# The conduct of each thread and the staff of a service

A service has one scheduler, one shutdown supervisor, one notification worker and, until it
has succeeded, one recovering thread.  Before recovery has succeeded nothing else is awake.
-/

namespace TaskService.Service

open Library Model Store List

section

variable {σ : Type} {config : Config} {core : Core σ} {input : Input} {result : Step σ}

theorem submit_rejection_framed (core : Core σ) (error : StoreError) :
    core.Framed (SubmitCall.rejection core error).1 ∧
      (SubmitCall.rejection core error).1.admissionReaders = core.admissionReaders ∧
      (SubmitCall.rejection core error).1.trace = core.trace := by
  unfold SubmitCall.rejection
  split
  · exact ⟨core.framed_refl, rfl, rfl⟩
  · exact ⟨core.framed_refl, rfl, rfl⟩
  · exact ⟨core.framed_refl, rfl, rfl⟩
  · exact ⟨core.framed_refl, rfl, rfl⟩
  · exact ⟨core.framed_store_result _, core.store_result_readers _, core.store_result_trace _⟩

theorem submit_conduct [TaskStore σ] (call : SubmitCall)
    (stepped : call.step core input = some result) : Conduct core (.submit call) result := by
  obtain ⟨encoded, pc⟩ := call
  obtain ⟨after, next, rfl, step⟩ := submit_step_cases _ stepped
  cases step with
  | enters =>
    exact conduct_of_frame ⟨rfl, rfl, id, rfl, rfl⟩ (.silent rfl) (fun _ => rfl)
      (fun claimed => by cases claimed) (.inl rfl) rfl rfl
  | faulted | closing | untyped | ungenerated =>
    exact conduct_leaves core.framed_leave rfl (.silent rfl) rfl rfl rfl
  | unfaulted => exact conduct_silent core.framed_refl rfl rfl
  | accepting stored running =>
    exact conduct_stays core.framed_refl (fun _ => .inr running) rfl rfl rfl rfl
  | generates =>
    exact conduct_stays ⟨rfl, rfl, id, rfl, rfl⟩ (fun _ => .inl rfl) rfl rfl rfl rfl
  | accepts id stored outcome after called =>
    exact conduct_issues_leaving called after.framed_leave rfl rfl rfl rfl
  | rejects id stored error after called =>
    obtain ⟨rejected, readers, trace⟩ := submit_rejection_framed after error
    exact conduct_issues_leaving called (rejected.trans (Core.framed_leave _))
      (congrArg (· - 1) readers) trace rfl rfl

theorem leave_after_error (core : Core σ) (error : StoreError) :
    core.Framed (core.storeResult error).leaveAdmission ∧
      (core.storeResult error).leaveAdmission.admissionReaders = core.admissionReaders - 1 ∧
      (core.storeResult error).leaveAdmission.trace = core.trace := by
  refine ⟨(core.framed_store_result error).trans (Core.framed_leave _), ?_, ?_⟩
  · exact congrArg (· - 1) (core.store_result_readers error)
  · exact core.store_result_trace error

variable [TaskStore σ]

theorem cancel_conduct (call : CancelCall) (stepped : call.step config core input = some result) :
    Conduct core (.cancel call) result := by
  obtain ⟨taskId, pc⟩ := call
  cases cancel_step_cases _ stepped with
  | enters free =>
    exact conduct_of_frame ⟨rfl, rfl, id, rfl, rfl⟩ (.silent rfl) (fun _ => rfl)
      (fun claimed => by cases claimed) (.inl rfl) rfl rfl
  | faulted | closing | released | missing | unknown | leaves =>
    exact conduct_leaves core.framed_leave rfl (.silent rfl) rfl rfl rfl
  | unfaulted => exact conduct_silent core.framed_refl rfl rfl
  | accepting running =>
    exact conduct_stays core.framed_refl (fun _ => .inr running) rfl rfl rfl rfl
  | owning | waiting | hooked | requests | joins =>
    exact conduct_stays core.framed_refl (fun _ => .inl rfl) rfl rfl rfl rfl
  | unread error called =>
    obtain ⟨framed, readers, trace⟩ := leave_after_error core error
    exact conduct_leaves framed readers (.silent trace) rfl rfl rfl
  | settled | unsupported | requested | unregistered | succeeded =>
    exact conduct_leaves (core.framed_leave.trans (Core.framed_record _ _)) rfl
      (.returned _ _ rfl rfl) rfl rfl rfl
  | @notCancelled summary error after called | @notRequested summary error after called =>
    obtain ⟨framed, readers, trace⟩ := leave_after_error after error
    exact conduct_issues_leaving called framed readers trace rfl rfl
  | @cancelled summary answer after called =>
    obtain ⟨written, sameReaders, issued⟩ := call_write_framed called
    exact conduct_leaves ((written.trans after.framed_leave).trans (Core.framed_record _ _))
      (congrArg (· - 1) sameReaders) (.cancelled _ summary rfl rfl (congrArg _ issued)) rfl rfl rfl
  | persisted called =>
    obtain ⟨written, sameReaders, issued⟩ := call_write_framed called
    exact conduct_of_frame written (.issued .transition rfl issued)
      (fun _ => congrArg (· + 1) sameReaders) (fun _ => .inl rfl) (.inl rfl) rfl rfl
  | signals =>
    exact conduct_leaves ⟨rfl, rfl, id, rfl, rfl⟩ rfl (.returned _ _ rfl rfl) rfl rfl rfl
  | opens summary =>
    exact conduct_stays ⟨rfl, rfl, id, rfl, rfl⟩ (fun _ => .inl rfl) rfl rfl rfl rfl
  | spawns =>
    exact
      { roles := List.Sublist.refl _
        ready := .inl rfl
        asleep := fun _ dormant => by cases dormant
        guards := fun _ => rfl
        flights := fun _ => rfl
        shutting := fun shutting => shutting
        admitted := fun _ _ _ => .inl rfl
        live := fun _ _ _ => .inr (.inl rfl)
        stopped := .inl
        exited := .inl
        emission := .silent rfl }
  | landed attempt flight answer =>
    cases answer with
    | success | alreadyTerminal =>
      exact conduct_of_frame (core.framed_record _) (.returned _ _ rfl rfl) (fun _ => rfl)
        (fun claimed => by cases claimed) (.inl rfl) rfl rfl
    | hookFailed | serviceFailed =>
      exact conduct_silent core.framed_refl rfl rfl

theorem resume_conduct (call : ResumeCall) (stepped : call.step core input = some result) :
    Conduct core (.resume call) result := by
  obtain ⟨taskId, expectedStateVersion, pc⟩ := call
  obtain ⟨after, next, rfl, step⟩ := resume_step_cases _ stepped
  cases step with
  | enters =>
    exact conduct_of_frame ⟨rfl, rfl, id, rfl, rfl⟩ (.silent rfl) (fun _ => rfl)
      (fun claimed => by cases claimed) (.inl rfl) rfl rfl
  | faulted | closing | released | unfit =>
    exact conduct_leaves core.framed_leave rfl (.silent rfl) rfl rfl rfl
  | unfaulted => exact conduct_silent core.framed_refl rfl rfl
  | accepting running =>
    exact conduct_stays core.framed_refl (fun _ => .inr running) rfl rfl rfl rfl
  | owning | blocked =>
    exact conduct_stays core.framed_refl (fun _ => .inl rfl) rfl rfl rfl rfl
  | unread error called =>
    obtain ⟨framed, readers, trace⟩ := leave_after_error core error
    exact conduct_leaves framed readers (.silent trace) rfl rfl rfl
  | failed summary error after called =>
    obtain ⟨framed, readers, trace⟩ := leave_after_error after error
    exact conduct_issues_leaving called framed readers trace rfl rfl
  | resumes summary resumed after called =>
    exact conduct_issues_leaving called after.framed_leave rfl rfl rfl rfl

variable {thread : Thread} {next pc : SchedulerPc} {after : Core σ}

theorem run_conduct (task : RunTask) (stepped : task.step config core input = some result) :
    Conduct core (.run task) result := by
  obtain ⟨started, pc⟩ := task
  cases run_step_cases _ stepped with
  | unread | panicked | unchecked | unfinished | disappeared =>
    exact conduct_silent (core.framed_latch _) rfl rfl
  | @wrote completion latest written after called | @lost completion latest after called =>
    exact conduct_issues called after.framed_refl rfl rfl
  | unwritten called => exact conduct_issues called (Core.framed_latch _ _) rfl rfl
  | contests completion version =>
    rcases core.check_competing_cases input started.id version with same | ⟨_, same⟩ <;> rw [same]
    · exact conduct_silent core.framed_refl rfl rfl
    · exact conduct_silent (core.framed_latch _) rfl rfl
  | exits finished =>
    exact conduct_settles (.refl _) (.inl rfl) (.inl rfl) Nat.sub_add_cancel .inl .inl rfl rfl
  | _ => exact conduct_silent ⟨rfl, rfl, id, rfl, rfl⟩ rfl rfl

theorem hook_reading_conduct (task : HookTask) (disappeared : String)
    (running : TaskSummary → HookPc) (flying : (Thread.hook task).flights = 1)
    (continues : ∀ summary, (Thread.hook { task with pc := running summary }).flights = 1) :
    Conduct core (.hook task) (task.reading core input disappeared running) := by
  unfold HookTask.reading
  simp only
  split
  · exact conduct_passes core.framed_refl rfl (.silent rfl) (.inl rfl) rfl flying.symm rfl rfl
  · exact conduct_passes core.framed_refl rfl (.silent rfl) (.inl rfl) rfl flying.symm rfl rfl
  · split
    · exact conduct_passes core.framed_refl rfl (.silent rfl) (.inl rfl) rfl
        ((continues _).trans flying.symm) rfl rfl
    · exact conduct_passes core.framed_refl rfl (.silent rfl) (.inl rfl) rfl flying.symm rfl rfl

theorem hook_writing_conduct (task : HookTask) (command : TransitionCommand)
    (written again : HookPc) (writes : (Thread.hook task).writes = some .transition)
    (flying : (Thread.hook task).flights = 1)
    (writtenFlies : (Thread.hook { task with pc := written }).flights = 1)
    (againFlies : (Thread.hook { task with pc := again }).flights = 1) :
    Conduct core (.hook task) (task.writing core input command written again) := by
  unfold HookTask.writing
  split
  · rename_i after answer called
    obtain ⟨framed, readers, issued⟩ := call_write_framed called
    exact conduct_passes framed readers (.issued .transition writes issued) (.inl rfl) rfl
      (writtenFlies.trans flying.symm) rfl rfl
  · rename_i after error called
    obtain ⟨framed, readers, issued⟩ := call_write_framed called
    split
    · exact conduct_passes framed readers (.issued .transition writes issued) (.inl rfl) rfl
        (againFlies.trans flying.symm) rfl rfl
    · exact conduct_passes framed readers (.issued .transition writes issued) (.inl rfl) rfl
        flying.symm rfl rfl

theorem hook_conduct (task : HookTask) (stepped : task.step config core input = some result) :
    Conduct core (.hook task) result := by
  obtain ⟨taskId, attempt, kindId, flight, pc⟩ := task
  cases hook_step_cases _ stepped with
  | loads | reloads =>
    apply hook_reading_conduct _ _ _ rfl
    intro summary
    simp only
    split <;> rfl
  | failureLoads message => exact hook_reading_conduct _ _ _ rfl (fun _ => rfl)
  | persists | clears | failureRecords =>
    exact hook_writing_conduct _ _ _ _ rfl rfl rfl rfl
  | publishes answer latched latches =>
    subst latches
    cases answer with
    | serviceFailed message =>
      exact conduct_silent ⟨rfl, rfl, fun _ => rfl, rfl, rfl⟩ rfl rfl
    | success | alreadyTerminal | hookFailed message =>
      exact conduct_silent ⟨rfl, rfl, id, rfl, rfl⟩ rfl rfl
  | exits =>
    exact conduct_settles (.refl _) (.inl rfl) (.inl rfl) Nat.sub_add_cancel .inl .inl rfl rfl
  | _ => exact conduct_silent ⟨rfl, rfl, id, rfl, rfl⟩ rfl rfl

omit [TaskStore σ] in
theorem scheduler_conduct_moves (awake : (Thread.scheduler pc).dormant = false)
    (guards : (Thread.scheduler next).guards = (Thread.scheduler pc).guards) :
    Conduct core (.scheduler pc) ⟨core, .scheduler next, []⟩ :=
  conduct_passes core.framed_refl rfl (.silent rfl) (.inl awake) guards rfl rfl rfl

omit [TaskStore σ] in
theorem scheduler_conduct_faults (message : String) (awake : (Thread.scheduler pc).dormant = false)
    (guards : (Thread.scheduler next).guards = (Thread.scheduler pc).guards) :
    Conduct core (.scheduler pc)
      ⟨core.latchFault message, .scheduler next, []⟩ :=
  conduct_passes (core.framed_latch _) rfl (.silent rfl) (.inl awake) guards rfl rfl rfl

theorem scan_end_guards (scan : Scan) (completed : Bool) :
    (Thread.scheduler (SchedulerPc.scanEnd scan completed)).guards = 0 := by
  unfold SchedulerPc.scanEnd
  split <;> rfl

theorem scheduler_conduct (pc : SchedulerPc) (stepped : pc.step config core input = some result) :
    Conduct core (.scheduler pc) result := by
  cases scheduler_step_cases pc stepped with
  | wakes ready =>
    exact conduct_passes core.framed_refl rfl (.silent rfl) (.inr (.inl ready)) rfl rfl rfl rfl
  | scanShut | scanFaulted | scanFull | pageShut | pageFull | completed =>
    exact scheduler_conduct_moves rfl (scan_end_guards _ _)
  | unlisted | unasked => exact scheduler_conduct_faults _ rfl rfl
  | blocks scan summary written reason after called | blockLost scan summary reason after called =>
    exact conduct_issues called after.framed_refl rfl rfl
  | blockFailed scan summary reason error after called =>
    exact conduct_issues called (after.framed_latch _) rfl rfl
  | competed scan summary =>
    rcases core.check_competing_cases input summary.id summary.stateVersion with same | ⟨_, same⟩
      <;> rw [same]
    · exact scheduler_conduct_moves rfl rfl
    · exact scheduler_conduct_faults _ rfl rfl
  | enters =>
    exact conduct_of_frame ⟨rfl, rfl, id, rfl, rfl⟩ (.silent rfl) (fun _ => rfl)
      (fun claimed => by cases claimed) (.inl rfl) rfl rfl
  | turnedAway =>
    exact conduct_leaves core.framed_leave rfl (.silent rfl) rfl rfl rfl
  | starts scan summary running after called =>
    obtain ⟨framed, readers, issued⟩ := call_write_framed called
    exact conduct_leaves ((framed.trans after.framed_leave).trans (Core.framed_record _ _))
      (congrArg (· - 1) readers) (.started scan summary running rfl (congrArg _ issued)) rfl rfl rfl
  | superseded scan summary error after called =>
    exact conduct_issues_leaving called after.framed_leave rfl rfl rfl rfl
  | startFailed scan summary error after called =>
    exact conduct_issues_leaving called (after.framed_leave.trans (Core.framed_latch _ _)) rfl rfl
      rfl rfl
  | spawns scan running =>
    exact
      { roles := List.Sublist.refl _
        ready := .inl rfl
        asleep := fun _ dormant => by cases dormant
        guards := fun _ => rfl
        flights := fun _ => rfl
        shutting := fun shutting => shutting
        admitted := by
          intro next member claimed
          simp only [Step.threads, mem_cons, not_mem_nil, or_false] at member
          rcases member with rfl | rfl
          · cases claimed
          · cases claimed
        live := fun _ _ _ => .inr (.inr ⟨scan, running, rfl⟩)
        stopped := .inl
        exited := .inl
        emission := .silent rfl }
  | stops =>
    exact conduct_settles (.refl _) (.inl rfl) (.inl rfl) (fun _ => rfl) (fun _ => .inr rfl) .inl
      rfl rfl
  | _ => exact scheduler_conduct_moves rfl rfl

omit [TaskStore σ] in
theorem supervisor_conduct (pc : SupervisorPc) (stepped : pc.step config core input = some result) :
    Conduct core (.supervisor pc) result := by
  obtain ⟨after, next, rfl, step⟩ := supervisor_step_cases pc stepped
  cases step with
  | asked ready =>
    exact conduct_passes core.framed_refl rfl (.silent rfl) (.inr (.inl ready)) rfl rfl rfl rfl
  | releases | panics | releaseFails =>
    exact conduct_passes ⟨rfl, rfl, id, rfl, rfl⟩ rfl (.released _ rfl (.inl rfl) rfl) (.inl rfl)
      rfl rfl rfl rfl
  | abandoned =>
    exact conduct_passes (core.framed_record _) rfl (.released _ rfl (.inr rfl) rfl) (.inl rfl) rfl
      rfl rfl rfl
  | _ => exact conduct_silent ⟨rfl, rfl, id, rfl, rfl⟩ rfl rfl

theorem publisher_conduct (pc : PublisherPc) (stepped : pc.step config core input = some result) :
    Conduct core (.publisher pc) result := by
  obtain ⟨after, next, rfl, step⟩ := publisher_step_cases pc stepped
  cases step with
  | opens ready =>
    exact conduct_passes core.framed_refl rfl (.silent rfl) (.inr (.inl ready)) rfl rfl rfl rfl
  | exits =>
    exact conduct_settles (.refl _) (.inl rfl) (.inl rfl) (fun _ => rfl) .inl (fun _ => .inr rfl)
      rfl rfl
  | archiveFails place quarantined command after error called
  | archives place quarantined command after called | unmarked entry rest after error called
  | marks entry rest after called => exact conduct_issues called ⟨rfl, rfl, id, rfl, rfl⟩ rfl rfl
  | _ => exact conduct_silent ⟨rfl, rfl, id, rfl, rfl⟩ rfl rfl

theorem starter_conduct (pc : StarterPc) (stepped : pc.step core input = some result) :
    Conduct core (.starter pc) result := by
  have moves : ∀ (next : StarterPc) (after : Core σ), core.Framed after →
      after.admissionReaders = core.admissionReaders →
      Emission core (.starter pc) ⟨after, .starter next, []⟩ →
      Conduct core (.starter pc) ⟨after, .starter next, []⟩ :=
    fun next after framed readers emission =>
      conduct_passes framed readers emission (.inr (.inr rfl)) rfl rfl rfl rfl
  cases pc with
  | list after =>
    simp only [StarterPc.step] at stepped
    split at stepped
    all_goals
      cases stepped
      exact moves _ _ core.framed_refl rfl (.silent rfl)
  | recover rest next =>
    cases stepped
    exact moves _ _ core.framed_refl rfl (.silent rfl)
  | requeue =>
    simp only [StarterPc.step] at stepped
    split at stepped
    · rename_i after error called
      cases stepped
      obtain ⟨framed, readers, issued⟩ := call_write_framed called
      exact moves _ _ (framed.trans (after.framed_store_result error))
        ((after.store_result_readers error).trans readers)
        (.issued .transition rfl ((after.store_result_trace error).trans issued))
    · rename_i after answer called
      cases stepped
      obtain ⟨framed, readers, issued⟩ := call_write_framed called
      exact moves _ _ framed readers (.issued .transition rfl issued)
  | ready =>
    cases stepped
    exact conduct_settles (nil_sublist _) (.inr ⟨rfl, rfl, rfl⟩) (.inr rfl) (fun _ => rfl) .inl .inl
      rfl rfl
  | failed => cases stepped

theorem thread_conduct (stepped : thread.step config core input = some result) :
    Conduct core thread result := by
  cases thread with
  | submit call => exact submit_conduct call stepped
  | cancel call => exact cancel_conduct call stepped
  | resume call => exact resume_conduct call stepped
  | run task => exact run_conduct task stepped
  | hook task => exact hook_conduct task stepped
  | scheduler pc => exact scheduler_conduct pc stepped
  | supervisor pc => exact supervisor_conduct pc stepped
  | publisher pc => exact publisher_conduct pc stepped
  | starter pc => exact starter_conduct pc stepped
  | detached write =>
    cases stepped
    exact conduct_passes ⟨rfl, rfl, id, rfl, rfl⟩ rfl (.silent rfl) (.inr (.inr rfl)) rfl rfl rfl
      rfl
  | finished => cases stepped

omit [TaskStore σ] in
/-- What a drop changes besides the thread: a client call leaves the admission
lock, the worker reports its exit. -/
theorem dropped_cases (dropped : thread.dropped core = some after) :
    thread.dormant = false ∧ thread.flights = 0 ∧
      ((thread.remains = .finished ∧ thread.roles = [] ∧ core.Framed after ∧
          (thread.guards ≤ core.admissionReaders →
            after.admissionReaders + thread.guards = core.admissionReaders) ∧
          after.trace = core.trace) ∨
        ((∃ pc, thread = .publisher pc) ∧
          after = { core with publisherExited := true })) := by
  have frame : core.Framed core.leaveAdmission := core.framed_leave
  unfold Thread.dropped at dropped
  split at dropped
  · rename_i call
    obtain ⟨encoded, pc⟩ := call
    cases pc <;> cases dropped
    · exact ⟨rfl, rfl, .inl ⟨rfl, rfl, core.framed_refl, fun _ => rfl, rfl⟩⟩
    all_goals
      exact ⟨rfl, rfl, .inl ⟨rfl, rfl, frame, Nat.sub_add_cancel, rfl⟩⟩
  · rename_i call
    obtain ⟨id, pc⟩ := call
    cases pc with
    | admission | waitHook =>
      cases dropped
      exact ⟨rfl, rfl, .inl ⟨rfl, rfl, core.framed_refl, fun _ => rfl, rfl⟩⟩
    | load | cancelBeforeStart | requestCancel =>
      cases dropped
      exact ⟨rfl, rfl, .inl ⟨rfl, rfl, frame, Nat.sub_add_cancel, rfl⟩⟩
    | _ => cases dropped
  · rename_i call
    obtain ⟨id, version, pc⟩ := call
    cases pc <;> cases dropped
    · exact ⟨rfl, rfl, .inl ⟨rfl, rfl, core.framed_refl, fun _ => rfl, rfl⟩⟩
    all_goals
      exact ⟨rfl, rfl, .inl ⟨rfl, rfl, frame, Nat.sub_add_cancel, rfl⟩⟩
  · cases dropped
  · cases dropped
  · rename_i pc notIdle notExited
    split at dropped
    · cases dropped
      refine ⟨?_, rfl, .inr ⟨⟨pc, rfl⟩, rfl⟩⟩
      cases pc <;> first | rfl | exact (notIdle rfl).elim
    · cases dropped
  all_goals cases dropped

theorem issued_write_kind {write : DetachedWrite} (issued : thread.issuedWrite input = some write) :
    thread.writes = some write.kind := by
  unfold Thread.issuedWrite at issued
  split at issued
  all_goals
    cases issued
    try rfl

omit [TaskStore σ] in
theorem drop_conduct_of {final : Core σ} {spawned : List Thread}
    (dropped : thread.dropped core = some after)
    (detached : ∀ next ∈ spawned, ∃ write, next = .detached write) (framed : after.Framed final)
    (readers : final.admissionReaders = after.admissionReaders)
    (emission : after.trace = core.trace → Emission core thread
      { core := final, thread := thread.remains, spawned := spawned }) :
    Conduct core thread { core := final, thread := thread.remains, spawned := spawned } := by
  have bare : spawned.flatMap Thread.roles = [] ∧ (spawned.map Thread.guards).sum = 0 ∧
      (spawned.map Thread.flights).sum = 0 := by
    refine ⟨flatMap_eq_nil_iff.mpr ?_, sum_eq_zero ?_, sum_eq_zero ?_⟩
    · intro next member
      obtain ⟨write, rfl⟩ := detached next member
      rfl
    · intro weight member
      obtain ⟨next, inside, rfl⟩ := mem_map.mp member
      obtain ⟨write, rfl⟩ := detached next inside
      rfl
    · intro weight member
      obtain ⟨next, inside, rfl⟩ := mem_map.mp member
      obtain ⟨write, rfl⟩ := detached next inside
      rfl
  obtain ⟨noRoles, noGuards, noFlights⟩ := bare
  obtain ⟨awake, grounded, cases_⟩ := dropped_cases dropped
  have calm : thread.remains.admitted = false ∧ thread.remains.flights = 0 ∧
      thread.remains.guards = 0 := by
    unfold Thread.remains
    split <;> exact ⟨rfl, rfl, rfl⟩
  obtain ⟨unadmitted, landed, unguarded⟩ := calm
  have shape : (thread.remains.roles.Sublist thread.roles) ∧ after.ready = core.ready ∧
      after.inFlight = core.inFlight ∧
      (core.shuttingDown = true → after.shuttingDown = true) ∧
      after.schedulerStopped = core.schedulerStopped ∧
      (after.publisherExited = true →
        core.publisherExited = true ∨ thread.remains = .publisher .exited) ∧
      (thread.guards ≤ core.admissionReaders →
        after.admissionReaders + thread.guards = core.admissionReaders) ∧
      after.trace = core.trace := by
    rcases cases_ with ⟨gone, roleless, same, guards, trace⟩ | ⟨⟨pc, rfl⟩, rfl⟩
    · refine ⟨?_, same.ready, same.inFlight, same.shutting, same.stopped, ?_, guards, trace⟩
      · rw [gone]
        exact nil_sublist _
      · exact fun exited => .inl (same.exited.symm.trans exited)
    · exact ⟨List.Sublist.refl _, rfl, rfl, fun shutting => shutting, rfl, fun _ => .inr rfl,
        fun _ => rfl, rfl⟩
  obtain ⟨roles, ready, inFlight, shutting, stopped, exited, guards, trace⟩ := shape
  exact
    { roles := by simpa [Step.threads, noRoles] using roles
      ready := .inl (framed.ready.trans ready)
      asleep := by
        intro _ dormant
        rw [awake] at dormant
        cases dormant
      guards := by
        intro held
        simpa [Step.threads, noGuards, unguarded, readers] using guards held
      flights := by
        intro _
        simp [Step.threads, noFlights, landed, grounded, framed.inFlight, inFlight]
      shutting := fun held => framed.shutting (shutting held)
      admitted := by
        intro next member claimed
        rcases mem_cons.mp member with rfl | inside
        · rw [unadmitted] at claimed
          cases claimed
        · obtain ⟨write, rfl⟩ := detached next inside
          cases claimed
      live := by
        intro next member flying
        rcases mem_cons.mp member with rfl | inside
        · rw [landed] at flying
          cases flying
        · obtain ⟨write, rfl⟩ := detached next inside
          cases flying
      stopped := fun held => .inl (stopped.symm.trans (framed.stopped.symm.trans held))
      exited := fun held => exited (framed.exited.symm.trans held)
      emission := emission trace }

omit [TaskStore σ] in
theorem drop_conduct (left : Dropped core thread input result) :
    Conduct core thread result := by
  cases left with
  | @idle after dropped left =>
    subst left
    apply drop_conduct_of dropped (forall_mem_nil _) after.framed_refl rfl
    exact fun trace => .silent trace
  | @issued after write dropped carried left =>
    subst left
    apply drop_conduct_of dropped ?_ (after.framed_record _) rfl
    · intro trace
      exact .issued write.kind (issued_write_kind carried) (congrArg _ trace)
    · intro next member
      exact ⟨write, by simpa using member⟩

end

variable {σ : Type}

structure Staff (system : System σ) : Prop where
  roles : (system.threads.flatMap Thread.roles).Nodup
  asleep : system.core.ready = false → ∀ thread ∈ system.threads, thread.dormant = true
  recovered : system.core.ready = true → ∀ pc, Thread.starter pc ∉ system.threads

variable {system : System σ} {thread : Thread}

theorem Staff.alone (staff : Staff system) {first second : Nat} {left right : Thread} {role : Role}
    (leftAt : system.threads[first]? = some left) (rightAt : system.threads[second]? = some right)
    (leftPlays : role ∈ left.roles) (rightPlays : role ∈ right.roles) : first = second :=
  position_of_token Thread.roles staff.roles leftAt rightAt leftPlays rightPlays

theorem staff_boot {config : Config} {store : σ} {knownIds : List Model.TaskId} :
    Staff (System.boot config store knownIds) := by
  have distinct : (bootThreads.flatMap Thread.roles).Nodup := by decide
  refine ⟨distinct, ?_, ?_⟩
  · intro _ thread member
    simp only [System.boot, bootThreads, mem_cons, not_mem_nil, or_false] at member
    rcases member with rfl | rfl | rfl | rfl <;> rfl
  · intro opened
    cases opened

theorem staff_moved {index : Nat} {result : Step σ} (staff : Staff system)
    (lookup : system.threads[index]? = some thread) (conduct : Conduct system.core thread result) :
    Staff (system.moved index result) := by
  have member := mem_of_getElem? lookup
  refine ⟨?_, ?_, ?_⟩
  · have own : thread.roles.Nodup := (nodup_flatMap.mp staff.roles).1 thread member
    apply nodup_tokens_advance Thread.roles lookup staff.roles (own.sublist conduct.roles)
    exact fun role minted => .inl (conduct.roles.subset minted)
  · intro closed other present
    rcases conduct.ready with same | ⟨_, opened, _⟩
    · have before : system.core.ready = false := same.symm.trans closed
      rcases mem_advance_or_mem present with new | old
      · exact conduct.asleep before (staff.asleep before thread member) closed other new
      · exact staff.asleep before other old
    · exact (Bool.false_ne_true (closed.symm.trans opened)).elim
  · intro opened pc present
    have starter : Role.starter ∈ (Thread.starter pc).roles := mem_singleton_self _
    rcases mem_advance_cases present with new | ⟨position, different, old⟩
    · have passed := conduct.roles.subset (mem_flatMap.mpr ⟨_, new, starter⟩)
      rcases conduct.ready with same | ⟨_, _, left⟩
      · cases thread with
        | starter other => exact staff.recovered (same.symm.trans opened) other member
        | _ => simp [Thread.roles] at passed
      · rw [show result.thread :: result.spawned = [.finished] from left] at new
        simp at new
    · rcases conduct.ready with same | ⟨place, _, _⟩
      · exact staff.recovered (same.symm.trans opened) pc (mem_of_getElem? old)
      · apply different
        apply staff.alone old lookup starter
        rw [place]
        exact mem_singleton_self _

theorem staff_call (staff : Staff system) (call : ClientCall) (ready : system.core.ready = true) :
    Staff { system with threads := system.threads ++ [call.thread] } := by
  have roles : call.thread.roles = [] := by cases call <;> rfl
  refine ⟨?_, ?_, ?_⟩
  · simpa [flatMap_append, roles] using staff.roles
  · intro closed
    exact (Bool.false_ne_true (closed.symm.trans ready)).elim
  · intro _ pc member
    rcases mem_append.mp member with old | new
    · exact staff.recovered ready pc old
    · rw [← mem_singleton.mp new] at roles
      cases roles

theorem staff_core {core : Core σ} (staff : Staff system) (ready : core.ready = system.core.ready) :
    Staff (system.withCore core) :=
  ⟨staff.roles, fun closed => staff.asleep (ready.symm.trans closed),
    fun opened => staff.recovered (ready.symm.trans opened)⟩

section Sources

variable {core : Core σ} {thread : Thread} {result : Step σ}

section

variable (conduct : Conduct core thread result)
include conduct

theorem role_source {role : Role} {next : Thread} (member : next ∈ result.threads)
    (plays : role ∈ next.roles) : role ∈ thread.roles :=
  conduct.roles.subset (mem_flatMap.mpr ⟨next, member, plays⟩)

theorem scheduler_source {pc : SchedulerPc} (member : Thread.scheduler pc ∈ result.threads) :
    ∃ before, thread = .scheduler before := by
  have plays := role_source conduct member (mem_singleton_self Role.scheduler)
  cases thread with
  | scheduler before => exact ⟨before, rfl⟩
  | _ => simp [Thread.roles] at plays

theorem publisher_source {pc : PublisherPc} (member : Thread.publisher pc ∈ result.threads) :
    ∃ before, thread = .publisher before := by
  have plays := role_source conduct member (mem_singleton_self Role.publisher)
  cases thread with
  | publisher before => exact ⟨before, rfl⟩
  | _ => simp [Thread.roles] at plays

theorem supervisor_source {pc : SupervisorPc} (member : Thread.supervisor pc ∈ result.threads) :
    ∃ before, thread = .supervisor before := by
  have plays := role_source conduct member (mem_singleton_self Role.supervisor)
  cases thread with
  | supervisor before => exact ⟨before, rfl⟩
  | _ => simp [Thread.roles] at plays

end

end Sources

theorem detached_of_kept {threads : List Thread}
    (member : thread ∈ threads.filter Thread.isDetached) : ∃ write, thread = .detached write := by
  have kind : thread.isDetached = true := (mem_filter.mp member).2
  cases thread with
  | detached write => exact ⟨write, rfl⟩
  | _ => cases kind

theorem staff_restart (system : System σ) (next : System σ)
    (threads : next.threads = bootThreads ++ system.threads.filter Thread.isDetached)
    (closed : next.core.ready = false) : Staff next := by
  have noRoles : (system.threads.filter Thread.isDetached).flatMap Thread.roles = [] := by
    apply flatMap_eq_nil_iff.mpr
    intro thread member
    obtain ⟨write, rfl⟩ := detached_of_kept member
    rfl
  refine ⟨?_, ?_, ?_⟩
  · rw [threads, flatMap_append, noRoles]
    decide
  · intro _ thread member
    rw [threads] at member
    rcases mem_append.mp member with booted | old
    · simp only [bootThreads, mem_cons, not_mem_nil, or_false] at booted
      rcases booted with rfl | rfl | rfl | rfl <;> rfl
    · obtain ⟨write, rfl⟩ := detached_of_kept old
      rfl
  · intro opened
    exact (Bool.false_ne_true (closed.symm.trans opened)).elim

end TaskService.Service
