import TaskService.Service.ThreadDeeds

/-!
# Moves, locks, counters and roles

Every action of the system is the deed of one thread, a client call that joins
the pool, a change of flags only, a progress report, a prune, or a restart.

The second half of what a step does: which admission guards and in-flight
guards its threads hold afterwards, which of the service's fixed roles they
play, how the shutdown flags move, and what the step leaves in the trace.
-/

namespace TaskService.Service

open Library Model Store

section

variable {σ : Type}

/-- What is left of a thread whose future was dropped, with the write it had
already issued. -/
inductive Dropped (core : Core σ) (thread : Thread) (input : Input) (result : Step σ) : Prop
  | idle {after : Core σ} (dropped : thread.dropped core = some after)
      (left : result = { core := after, thread := thread.remains })
  | issued {after : Core σ} {write : DetachedWrite} (dropped : thread.dropped core = some after)
      (carried : thread.issuedWrite input = some write) (left : result =
        { core := after.record (.issued write.kind)
          thread := thread.remains
          spawned := [.detached write] })

theorem Dropped.dropped {core : Core σ} {thread : Thread} {input : Input} {result : Step σ}
    (left : Dropped core thread input result) : ∃ after, thread.dropped core = some after := by
  cases left with
  | @idle after dropped | @issued after write dropped => exact ⟨after, dropped⟩

def System.moved (system : System σ) (index : Nat) (result : Step σ) : System σ :=
  { system with
    core := result.core
    threads := advance system.threads index result.thread result.spawned }

variable [TaskStore σ]

def System.recordOf (system : System σ) (id : TaskId) : Option StoredTask :=
  system.core.recordOf id

inductive Move (system : System σ) : Action → System σ → Prop
  | stepped {index : Nat} {input : Input} {thread : Thread} {result : Step σ}
      (lookup : system.threads[index]? = some thread)
      (taken : thread.step system.config system.core input = some result) :
      Move system (.thread index input) (system.moved index result)
  | dropped {index : Nat} {input : Input} {issued : Bool} {thread : Thread} {result : Step σ}
      (lookup : system.threads[index]? = some thread)
      (left : Dropped system.core thread input result) :
      Move system (.drop index input issued) (system.moved index result)
  | call (call : ClientCall) (ready : system.core.ready = true) :
      Move system (.call call) { system with threads := system.threads ++ [call.thread] }
  | flags {action : Action} {shuttingDown publicGone retryRequested : Bool}
      {controls : List QuarantineRequest}
      (keeps : system.core.shuttingDown = true → shuttingDown = true) :
      Move system action
        (system.withCore
          { system.core with
            shuttingDown := shuttingDown
            publicGone := publicGone
            retryRequested := retryRequested
            controls := controls })
  | progress (command : ProgressCommand) :
      Move system (.progress command)
        (system.withCore
          { system.core with store := (TaskStore.updateProgress system.core.store command).1 })
  | prune (cutoff maxRows : Nat) :
      Move system (.prune cutoff maxRows)
        (system.withCore
          { system.core with
            store := (TaskStore.pruneTerminalBefore system.core.store cutoff maxRows).1 })
  | restart (config : Config) :
      Move system (.restart config) (system.restarted config)

variable {next system : System σ}

theorem thread_move {index : Nat} {input : Input}
    (taken : system.step (.thread index input) = some next) :
    ∃ thread result, system.threads[index]? = some thread ∧
      thread.step system.config system.core input = some result ∧
      next = system.moved index result := by
  simp only [System.step, System.stepThread] at taken
  split at taken
  · cases taken
  · rename_i thread lookup
    split at taken
    · cases taken
    · rename_i result stepped
      cases taken
      exact ⟨thread, result, lookup, stepped, rfl⟩

theorem step_move {action : Action} (taken : system.step action = some next) :
    Move system action next := by
  cases action with
  | thread =>
    obtain ⟨thread, result, lookup, stepped, rfl⟩ := thread_move taken
    exact Move.stepped lookup stepped
  | call call =>
    simp only [System.step] at taken
    split at taken
    · rename_i ready
      cases taken
      exact Move.call call ready
    · cases taken
  | drop =>
    simp only [System.step, System.dropThread] at taken
    split at taken
    · cases taken
    · rename_i thread lookup
      split at taken
      · cases taken
      · rename_i after dropped
        split at taken
        · split at taken
          · cases taken
          · rename_i write carried
            cases taken
            exact Move.dropped lookup (Dropped.issued dropped carried rfl)
        · cases taken
          exact Move.dropped lookup (Dropped.idle dropped rfl)
  | requestShutdown | dropHandles =>
    cases taken
    exact Move.flags fun _ => rfl
  | retryRelease =>
    cases taken
    exact Move.flags id
  | quarantine request =>
    simp only [System.step] at taken
    split at taken
    · cases taken
    · cases taken
      exact Move.flags id
  | progress command =>
    cases taken
    exact Move.progress command
  | prune cutoff maxRows =>
    cases taken
    exact Move.prune cutoff maxRows
  | restart config =>
    cases taken
    exact Move.restart config

section Drop

variable {core after : Core σ} {input : Input} {thread : Thread}

omit [TaskStore σ] in
theorem dropped_store (dropped : thread.dropped core = some after) :
    after.store = core.store ∧ after.knownIds = core.knownIds ∧ after.ready = core.ready := by
  unfold Thread.dropped at dropped
  split at dropped
  · split at dropped
    all_goals
      cases dropped
      try exact ⟨rfl, rfl, rfl⟩
  · split at dropped
    all_goals
      cases dropped
      try exact ⟨rfl, rfl, rfl⟩
  · split at dropped
    all_goals
      cases dropped
      try exact ⟨rfl, rfl, rfl⟩
  · cases dropped
  · cases dropped
  · split at dropped
    · cases dropped
      exact ⟨rfl, rfl, rfl⟩
    · cases dropped
  all_goals cases dropped

theorem remains_bare (thread : Thread) : thread.remains.Bare := by
  cases thread <;> exact ⟨rfl, rfl, rfl, trivial⟩

theorem issued_transition (config : Config) {summary : TaskSummary} {command : TransitionCommand}
    (wf : thread.Wf) (issued : thread.issuedWrite input = some (.transition summary command)) :
    summary ∈ thread.held ∧ CommandOn summary command ∧ KeepsRunning summary command := by
  have next : thread.nextTransition config input = some (summary, command) ∧
      (∀ task, thread ≠ .run task) ∧ ∀ pc, thread ≠ .starter pc := by
    unfold Thread.issuedWrite at issued
    split at issued
    all_goals
      cases issued
      try exact ⟨rfl, (fun _ same => by cases same), (fun _ same => by cases same)⟩
  obtain ⟨written, notRun, notStarter⟩ := next
  obtain ⟨held, commandOn, ⟨keeps, -⟩ | ⟨started, completion, same, -⟩ | ⟨rest, after, same⟩⟩ :=
    next_transition_cases wf written
  · exact ⟨held, commandOn, keeps⟩
  · exact (notRun _ same).elim
  · exact (notStarter _ same).elim

theorem issued_write_passes (config : Config) {write : DetachedWrite} (wf : thread.Wf)
    (issued : thread.issuedWrite input = some write) :
    (∀ summary ∈ (Thread.detached write).held, summary ∈ thread.held) ∧
      (Thread.detached write).pending.Sublist thread.pending ∧ (Thread.detached write).Wf := by
  cases write with
  | transition summary command =>
    obtain ⟨held, commandOn, keeps⟩ := issued_transition config wf issued
    refine ⟨?_, List.nil_sublist _, commandOn, keeps⟩
    intro other member
    obtain rfl : other = summary := by simpa [Thread.held] using member
    exact held
  | accept id request =>
    refine ⟨(fun _ member => by cases member), ?_, trivial⟩
    unfold Thread.issuedWrite at issued
    split at issued
    all_goals
      cases issued
      try exact List.Sublist.refl _
  | markPublished | quarantine =>
    exact ⟨(fun _ member => by cases member), List.nil_sublist _, trivial⟩

variable {result : Step σ}

omit [TaskStore σ] in
theorem drop_store (left : Dropped core thread input result) :
    result.core.store = core.store := by
  cases left with
  | idle dropped left | issued dropped carried left =>
    subst left
    exact (dropped_store dropped).1

theorem drop_records {system : System σ} {index : Nat}
    (left : Dropped system.core thread input result) (id : TaskId) :
    (system.moved index result).recordOf id = system.recordOf id := by
  simp only [System.recordOf, Core.recordOf, System.moved, drop_store left]

omit [TaskStore σ] in
theorem drop_no_run (left : Dropped core thread input result) (task : RunTask) :
    Thread.run task ∉ result.threads := by
  have remains : Thread.run task ≠ thread.remains := by
    cases thread <;> simp [Thread.remains]
  cases left with
  | idle dropped left | issued dropped carried left =>
    subst left
    simp [Step.threads, remains]

theorem drop_footprint (config : Config) (wf : thread.Wf)
    (left : Dropped core thread input result) : Footprint config core {} thread result := by
  cases left with
  | idle dropped left =>
    subst left
    obtain ⟨store, known, -⟩ := dropped_store dropped
    exact footprint_bare (remains_bare thread) rfl store known
  | @issued after write dropped carried left =>
    subst left
    obtain ⟨store, known, -⟩ := dropped_store dropped
    obtain ⟨held, pending, writeWf⟩ := issued_write_passes config wf carried
    obtain ⟨bareHeld, barePending, bareOwned, bareWf⟩ := remains_bare thread
    refine ⟨Deed.quiet store known ?_ ?_ ?_, ?_⟩
    · intro summary member
      left
      apply held
      simpa [Step.threads, bareHeld] using member
    · simpa [Step.threads, barePending] using pending
    · have noneOwned : (Thread.detached write).owned = [] := rfl
      simp [Step.threads, bareOwned, noneOwned]
    · intro next member
      simp only [Step.threads, List.mem_cons, List.not_mem_nil, or_false] at member
      rcases member with rfl | rfl
      · exact bareWf
      · exact writeWf

end Drop

end

variable {σ : Type}

inductive Role where
  | scheduler
  | supervisor
  | publisher
  | starter
  deriving DecidableEq, Repr

def Thread.roles : Thread → List Role
  | .scheduler _ => [.scheduler]
  | .supervisor _ => [.supervisor]
  | .publisher _ => [.publisher]
  | .starter _ => [.starter]
  | _ => []

/-- Threads that may be around before recovery has succeeded. -/
def Thread.dormant : Thread → Bool
  | .scheduler .idle | .supervisor .waitRequest | .publisher .idle | .starter _ | .detached _
  | .finished => true
  | _ => false

def SubmitPc.guards : SubmitPc → Nat
  | .checkFault | .checkShutdown | .generate _ | .accept _ _ => 1
  | .admission | .returned _ => 0

def CancelPc.guards : CancelPc → Nat
  | .checkFault | .checkShutdown | .checkOwner | .load | .cancelBeforeStart _ | .requestCancel _
  | .signal _ | .joinHook _ | .spawnHook _ _ | .dropAdmission _ _ => 1
  | .admission | .waitHook _ _ | .returned _ => 0

def ResumePc.guards : ResumePc → Nat
  | .checkFault | .checkShutdown | .checkOwner | .load | .requeue _ => 1
  | .admission | .returned _ => 0

def Thread.guards : Thread → Nat
  | .submit call => call.pc.guards
  | .cancel call => call.pc.guards
  | .resume call => call.pc.guards
  | .scheduler (.admitted _ _) | .scheduler (.start _ _) => 1
  | _ => 0

def Thread.flights : Thread → Nat
  | .run { started := _, pc := .done _ } => 0
  | .hook { id := _, attempt := _, kindId := _, flight := _, pc := .done } => 0
  | .run _ | .hook _ => 1
  | _ => 0

/-- Client calls that have passed the shutdown check and have not returned. -/
def Thread.admitted : Thread → Bool
  | .submit call =>
      match call.pc with
      | .generate _ | .accept _ _ => true
      | _ => false
  | .cancel call =>
      match call.pc with
      | .checkOwner | .load | .cancelBeforeStart _ | .requestCancel _ | .signal _ | .joinHook _
      | .spawnHook _ _ | .dropAdmission _ _ => true
      | _ => false
  | .resume call =>
      match call.pc with
      | .checkOwner | .load | .requeue _ => true
      | _ => false
  | _ => false

def Thread.writes : Thread → Option WriteKind
  | .submit { encoded := _, pc := .accept _ _ } => some .accept
  | .cancel { id := _, pc := .cancelBeforeStart _ } => some .transition
  | .cancel { id := _, pc := .requestCancel _ } => some .transition
  | .resume { id := _, expectedStateVersion := _, pc := .requeue _ } => some .transition
  | .run { started := _, pc := .finishWrite _ _ } => some .transition
  | .hook { id := _, attempt := _, kindId := _, flight := _, pc := .persist _ }
  | .hook { id := _, attempt := _, kindId := _, flight := _, pc := .clearError _ }
  | .hook { id := _, attempt := _, kindId := _, flight := _, pc := .failRecord _ _ } =>
      some .transition
  | .scheduler (.markBlocked _ _ _) => some .transition
  | .scheduler (.start _ _) => some .start
  | .publisher (.archive _ _ _) | .publisher (.acknowledge _ _) => some .outbox
  | .starter (.requeue _ _ _) => some .transition
  | _ => none

inductive Emission (core : Core σ) (thread : Thread) (result : Step σ) : Prop
  | silent (trace : result.core.trace = core.trace)
  | issued (kind : WriteKind) (writes : thread.writes = some kind)
      (trace : result.core.trace = .issued kind :: core.trace)
  | started (scan : Scan) (summary running : TaskSummary)
      (place : thread = .scheduler (.start scan summary)) (trace : result.core.trace =
        .started running.id running.attempt :: .issued .start :: core.trace)
  | cancelled (call : CancelCall) (summary : TaskSummary)
      (place : thread = .cancel call) (at_ : call.pc = .cancelBeforeStart summary)
      (trace : result.core.trace =
        .cancelReturned call.id .cancelledBeforeStart :: .issued .transition :: core.trace)
  | returned (call : CancelCall) (outcome : CancelOutcome) (place : thread = .cancel call)
      (trace : result.core.trace = .cancelReturned call.id outcome :: core.trace)
  | released (pc : SupervisorPc) (place : thread = .supervisor pc)
      (releasing : pc = .release ∨ pc = .waitRetry)
      (trace : result.core.trace = .releaseIssued :: core.trace)

structure Conduct (core : Core σ) (thread : Thread) (result : Step σ) : Prop where
  roles : (result.threads.flatMap Thread.roles).Sublist thread.roles
  ready : result.core.ready = core.ready ∨
    (thread = .starter .ready ∧ result.core.ready = true ∧ result.threads = [.finished])
  asleep : core.ready = false → thread.dormant = true → result.core.ready = false →
    ∀ next ∈ result.threads, next.dormant = true
  guards : thread.guards ≤ core.admissionReaders →
    result.core.admissionReaders + thread.guards =
      core.admissionReaders + (result.threads.map Thread.guards).sum
  flights : thread.flights ≤ core.inFlight →
    result.core.inFlight + thread.flights =
      core.inFlight + (result.threads.map Thread.flights).sum
  shutting : core.shuttingDown = true → result.core.shuttingDown = true
  admitted : ∀ next ∈ result.threads, next.admitted = true →
    thread.admitted = true ∨ core.shuttingDown = false
  live : ∀ next ∈ result.threads, next.flights = 1 →
    thread.flights = 1 ∨ thread.admitted = true ∨
      ∃ scan running, thread = .scheduler (.spawn scan running)
  stopped : result.core.schedulerStopped = true →
    core.schedulerStopped = true ∨ result.thread = .scheduler .stopped
  exited : result.core.publisherExited = true →
    core.publisherExited = true ∨ result.thread = .publisher .exited
  emission : Emission core thread result

/-- Steps that leave roles, counters and shutdown flags to their threads. -/
structure Core.Framed (core after : Core σ) : Prop where
  ready : after.ready = core.ready
  inFlight : after.inFlight = core.inFlight
  shutting : core.shuttingDown = true → after.shuttingDown = true
  stopped : after.schedulerStopped = core.schedulerStopped
  exited : after.publisherExited = core.publisherExited

namespace Core

theorem framed_refl (core : Core σ) : core.Framed core := ⟨rfl, rfl, id, rfl, rfl⟩

theorem framed_latch (core : Core σ) (message : String) : core.Framed (core.latchFault message) :=
  ⟨rfl, rfl, fun _ => rfl, rfl, rfl⟩

theorem framed_store_result (core : Core σ) (error : StoreError) :
    core.Framed (core.storeResult error) := by
  unfold storeResult
  split
  · exact core.framed_refl
  · exact core.framed_latch _

theorem framed_leave (core : Core σ) : core.Framed core.leaveAdmission := ⟨rfl, rfl, id, rfl, rfl⟩

theorem framed_record (core : Core σ) (event : Event) : core.Framed (core.record event) :=
  ⟨rfl, rfl, id, rfl, rfl⟩

theorem Framed.trans {first second third : Core σ} (left : first.Framed second)
    (right : second.Framed third) : first.Framed third :=
  ⟨right.ready.trans left.ready, right.inFlight.trans left.inFlight,
    fun shutting => right.shutting (left.shutting shutting), right.stopped.trans left.stopped,
    right.exited.trans left.exited⟩

@[simp] theorem store_result_readers (core : Core σ) (error : StoreError) :
    (core.storeResult error).admissionReaders = core.admissionReaders := by
  unfold storeResult
  split <;> rfl

@[simp] theorem store_result_trace (core : Core σ) (error : StoreError) :
    (core.storeResult error).trace = core.trace := by
  unfold storeResult
  split <;> rfl

end Core

section

variable {core : Core σ} {input : Input} {result : Step σ}

theorem call_write_framed {α : Type} {kind : WriteKind}
    {operation : σ → σ × Except StoreError α} {after : Core σ} {answer : Except StoreError α}
    (called : core.callWrite input kind operation = (after, answer)) :
    core.Framed after ∧ after.admissionReaders = core.admissionReaders ∧
      after.trace = .issued kind :: core.trace := by
  unfold Core.callWrite at called
  split at called
  all_goals
    cases called
    exact ⟨⟨rfl, rfl, id, rfl, rfl⟩, rfl, rfl⟩

variable {thread : Thread}

theorem conduct_of_frame (framed : core.Framed result.core) (emission : Emission core thread result)
    (guards : thread.guards ≤ core.admissionReaders →
      result.core.admissionReaders + thread.guards =
        core.admissionReaders + result.thread.guards)
    (admitted : result.thread.admitted = true → thread.admitted = true ∨ core.shuttingDown = false)
    (awake : thread.dormant = false ∨ core.ready = true ∨ result.thread.dormant = true)
    (flights : result.thread.flights = thread.flights)
    (alone : (result.spawned, result.thread.roles) = ([], thread.roles)) :
    Conduct core thread result := by
  obtain ⟨alone, roles⟩ := Prod.mk.injEq .. ▸ alone
  exact
    { roles := by simp [Step.threads, alone, roles]
      ready := .inl framed.ready
      asleep := by
        intro closed dormant _
        rcases awake with awake | opened | asleep
        · rw [awake] at dormant
          cases dormant
        · rw [closed] at opened
          cases opened
        · simpa [Step.threads, alone] using asleep
      guards := by simpa [Step.threads, alone] using guards
      flights := by
        intro _
        rw [framed.inFlight]
        simp [Step.threads, alone, flights]
      shutting := framed.shutting
      admitted := by simpa [Step.threads, alone] using admitted
      live := by
        intro next member flying
        obtain rfl : next = result.thread := by simpa [Step.threads, alone] using member
        exact .inl (flights.symm.trans flying)
      stopped := fun stopped => .inl (framed.stopped.symm.trans stopped)
      exited := fun exited => .inl (framed.exited.symm.trans exited)
      emission := emission }

theorem conduct_passes (framed : core.Framed result.core)
    (readers : result.core.admissionReaders = core.admissionReaders)
    (emission : Emission core thread result)
    (awake : thread.dormant = false ∨ core.ready = true ∨ result.thread.dormant = true)
    (guards : result.thread.guards = thread.guards)
    (flights : result.thread.flights = thread.flights) (admitted : result.thread.admitted = false)
    (alone : (result.spawned, result.thread.roles) = ([], thread.roles)) :
    Conduct core thread result := by
  apply conduct_of_frame framed emission ?_ ?_ awake flights alone
  · intro _
    rw [readers, guards]
  · intro claimed
    rw [admitted] at claimed
    cases claimed

theorem conduct_stays (framed : core.Framed result.core)
    (admitted : result.thread.admitted = true → thread.admitted = true ∨ core.shuttingDown = false)
    (core_ : (result.core.admissionReaders, result.core.trace) =
      (core.admissionReaders, core.trace))
    (awake : thread.dormant = false)
    (alone : (result.spawned, result.thread.roles) = ([], thread.roles))
    (held : (result.thread.guards, result.thread.flights) = (thread.guards, thread.flights)) :
    Conduct core thread result := by
  obtain ⟨readers, trace⟩ := Prod.mk.injEq .. ▸ core_
  obtain ⟨guards, flights⟩ := Prod.mk.injEq .. ▸ held
  apply conduct_of_frame framed (.silent trace) ?_ admitted (.inl awake) flights alone
  intro _
  rw [readers, guards]

theorem conduct_silent (framed : core.Framed result.core)
    (core_ : (result.core.admissionReaders, result.core.trace) =
      (core.admissionReaders, core.trace))
    (calm : (thread.dormant, result.spawned, result.thread.roles, result.thread.guards,
      result.thread.flights, result.thread.admitted) =
        (false, [], thread.roles, thread.guards, thread.flights, false)) :
    Conduct core thread result := by
  simp only [Prod.mk.injEq] at calm core_
  obtain ⟨awake, alone, roles, guards, flights, admitted⟩ := calm
  exact conduct_passes framed core_.1 (.silent core_.2) (.inl awake) guards flights admitted
    (by rw [alone, roles])

theorem conduct_leaves (framed : core.Framed result.core)
    (readers : result.core.admissionReaders = core.admissionReaders - 1)
    (emission : Emission core thread result)
    (left : (thread.guards, thread.dormant, result.thread.guards, result.thread.admitted) =
      (1, false, 0, false)) (flights : result.thread.flights = thread.flights)
    (alone : (result.spawned, result.thread.roles) = ([], thread.roles)) :
    Conduct core thread result := by
  simp only [Prod.mk.injEq] at left
  obtain ⟨guarded, awake, released, admitted⟩ := left
  apply conduct_of_frame framed emission ?_ ?_ (.inl awake) flights alone
  · intro held
    rw [readers, guarded, released]
    rw [guarded] at held
    omega
  · intro claimed
    rw [admitted] at claimed
    cases claimed

section Writes

variable {α : Type} {kind : WriteKind} {operation : σ → σ × Except StoreError α} {after : Core σ}
  {answer : Except StoreError α} (called : core.callWrite input kind operation = (after, answer))
  (framed : after.Framed result.core)
include called framed

theorem conduct_issues (core_ : (result.core.admissionReaders, result.core.trace) =
      (after.admissionReaders, after.trace))
    (calm : (thread.writes, thread.dormant, result.spawned, result.thread.roles,
      result.thread.guards, result.thread.flights, result.thread.admitted) =
        (some kind, false, [], thread.roles, thread.guards, thread.flights, false)) :
    Conduct core thread result := by
  simp only [Prod.mk.injEq] at calm core_
  obtain ⟨writes, awake, alone, roles, guards, flights, admitted⟩ := calm
  obtain ⟨written, readers, issued⟩ := call_write_framed called
  exact conduct_passes (written.trans framed) (core_.1.trans readers)
    (.issued kind writes (core_.2.trans issued)) (.inl awake) guards flights admitted
    (by rw [alone, roles])

theorem conduct_issues_leaving (readers : result.core.admissionReaders = after.admissionReaders - 1)
    (trace : result.core.trace = after.trace)
    (left : (thread.writes, thread.guards, thread.dormant, result.thread.guards,
      result.thread.admitted, result.thread.flights) = (some kind, 1, false, 0, false,
        thread.flights))
    (alone : (result.spawned, result.thread.roles) = ([], thread.roles)) :
    Conduct core thread result := by
  simp only [Prod.mk.injEq] at left
  obtain ⟨writes, guarded, awake, released, admitted, flights⟩ := left
  obtain ⟨written, same, issued⟩ := call_write_framed called
  exact conduct_leaves (written.trans framed) (readers.trans (congrArg (· - 1) same))
    (.issued kind writes (trace.trans issued)) (by rw [guarded, awake, released, admitted])
    flights alone

end Writes

theorem conduct_settles {after : Core σ} {next : Thread} (roles : next.roles.Sublist thread.roles)
    (ready : after.ready = core.ready ∨
      (thread = .starter .ready ∧ after.ready = true ∧ [next] = [.finished]))
    (awake : thread.dormant = false ∨ after.ready = true)
    (landed : thread.flights ≤ core.inFlight → after.inFlight + thread.flights = core.inFlight)
    (stopped : after.schedulerStopped = true →
      core.schedulerStopped = true ∨ next = .scheduler .stopped)
    (exited : after.publisherExited = true →
      core.publisherExited = true ∨ next = .publisher .exited)
    (core_ : (after.admissionReaders, after.shuttingDown, after.trace) =
      (core.admissionReaders, core.shuttingDown, core.trace))
    (settled : (next.guards, next.admitted, next.flights) = (thread.guards, false, 0)) :
    Conduct core thread ⟨after, next, []⟩ := by
  simp only [Prod.mk.injEq] at core_ settled
  obtain ⟨readers, shutting, trace⟩ := core_
  obtain ⟨guards, admitted, flights⟩ := settled
  exact
    { roles := by simpa [Step.threads] using roles
      ready := ready
      asleep := by
        intro _ dormant closed
        rcases awake with awake | opened
        · rw [awake] at dormant
          cases dormant
        · cases opened.symm.trans closed
      guards := by simp [Step.threads, readers, guards]
      flights := by simpa [Step.threads, flights] using landed
      shutting := fun held => shutting.trans held
      admitted := by simp [Step.threads, admitted]
      live := by simp [Step.threads, flights]
      stopped := stopped
      exited := exited
      emission := .silent trace }

end

end TaskService.Service
