import TaskService.Library.Notify
import TaskService.Service.ShutdownBarrier

/-!
# Waking the scheduler for shutdown

The scheduler suspends on a future of the cell `scheduler_changed` that it creates in every
turn of its loop, after it has looked at the shutdown flag.  A shutdown request stores the
flag and notifies the cell's waiters; the supervisor notifies them once more under the
admission lock and then waits for the scheduler to stop.

The system below adds this cell to the service: the scheduler passes `topSlots` only once
its future exists, leaves a suspension without a timeout only when the future is woken, and
drops the future with the turn.  Other threads notify one waiter at times of their own.
-/

namespace TaskService.Service

open Library Model Store List

inductive SchedulerPhase where
  /-- Before the turn's look at the shutdown flag, or past the loop. -/
  | outside
  /-- The flag was down; the fault is looked at next. -/
  | loaded
  /-- The future is created here. -/
  | creating
  /-- The future exists. -/
  | listening
  deriving DecidableEq, Repr

def SchedulerPc.phase : SchedulerPc → SchedulerPhase
  | .idle | .top _ | .stopping | .stopped => .outside
  | .topFault _ => .loaded
  | .topSlots _ => .creating
  | _ => .listening

inductive PhaseStep (shuttingDown : Bool) : SchedulerPhase → SchedulerPhase → Prop
  | leaves (phase : SchedulerPhase) : PhaseStep shuttingDown phase .outside
  | loads (down : shuttingDown = false) : PhaseStep shuttingDown .outside .loaded
  | checks : PhaseStep shuttingDown .loaded .creating
  | enters : PhaseStep shuttingDown .creating .listening
  | stays : PhaseStep shuttingDown .listening .listening

theorem scan_end_phase (shuttingDown : Bool) (scan : Scan) (completed : Bool) :
    PhaseStep shuttingDown .listening (SchedulerPc.scanEnd scan completed).phase := by
  unfold SchedulerPc.scanEnd
  split
  · exact .leaves _
  · exact .stays

variable {σ : Type} [TaskStore σ]

theorem scheduler_phase {config : Config} {core : Core σ} {input : Input} {pc : SchedulerPc}
    {result : Step σ} (stepped : pc.step config core input = some result) :
    ∃ next, result.thread = .scheduler next ∧
      PhaseStep core.shuttingDown pc.phase next.phase := by
  cases scheduler_step_cases pc stepped with
  | wakes | quits | faulted | unlisted | startFailed | unasked | resumes | stops =>
    exact ⟨_, rfl, .leaves _⟩
  | goesOn fairness running => exact ⟨_, rfl, .loads running⟩
  | healthy => exact ⟨_, rfl, .checks⟩
  | begins | full => exact ⟨_, rfl, .enters⟩
  | scanShut | scanFaulted | scanFull | pageShut | pageFull | completed =>
    exact ⟨_, rfl, scan_end_phase _ _ _⟩
  | _ => exact ⟨_, rfl, .stays⟩

structure WakeState (σ : Type) where
  system : System σ
  schedulerChanged : Notify
  /-- A shutdown request has notified the waiters. -/
  requestNotified : Bool
  supervisorNotified : Bool

def WakeState.boot (config : Config) (store : σ) (knownIds : List TaskId) : WakeState σ :=
  { system := System.boot config store knownIds
    schedulerChanged := Notify.new
    requestNotified := false
    supervisorNotified := false }

inductive WakeAction where
  | system (action : Action)
  /-- The scheduler creates and enables its future. -/
  | create
  /-- `request_shutdown`, after it has stored the flag. -/
  | notifyRequest
  /-- `stop_scheduler_and_wait`, while it holds the admission lock. -/
  | notifySupervisor
  /-- A submission, a resumption, a cancellation, the recovery or the end of an operation. -/
  | notifyOne

def Thread.creating : Thread → Bool
  | .scheduler pc => decide (pc.phase = .creating)
  | _ => false

def Thread.lockedAdmission : Thread → Bool
  | .supervisor .unlockAdmission => true
  | _ => false

namespace WakeState

def waits (state : WakeState σ) (thread : Thread) : Bool :=
  match thread with
  | .scheduler (.topSlots _) => state.schedulerChanged.future.isNone
  | .scheduler (.suspended _ none) => !state.schedulerChanged.woken
  | .supervisor .unlockAdmission => !state.supervisorNotified
  | _ => false

/-- The cell after a thread has moved: a turn of the scheduler's loop ends with its future,
which it has awaited or drops. -/
def cellAfter (cell : Notify) (before after : Thread) : Notify :=
  match before, after with
  | .scheduler (.suspended _ _), .scheduler (.top _) =>
      if cell.woken then cell.awaited else cell.dropped
  | .scheduler _, .scheduler pc => if pc.phase = .outside then cell.dropped else cell
  | _, _ => cell

def stepThread (state : WakeState σ) (index : Nat) (input : Input) : Option (WakeState σ) :=
  match state.system.threads[index]? with
  | none => none
  | some thread =>
      if state.waits thread then none
      else
        match thread.step state.system.config state.system.core input with
        | none => none
        | some result =>
            some
              { state with
                system :=
                  { state.system with
                    core := result.core
                    threads :=
                      advance state.system.threads index result.thread result.spawned }
                schedulerChanged := cellAfter state.schedulerChanged thread result.thread }

def step (state : WakeState σ) : WakeAction → Option (WakeState σ)
  | .system (.thread index input) => state.stepThread index input
  | .system (.restart config) =>
      (state.system.step (.restart config)).map fun system =>
        { system := system
          schedulerChanged := Notify.new
          requestNotified := false
          supervisorNotified := false }
  | .system action => (state.system.step action).map fun system => { state with system }
  | .create =>
      if state.system.threads.any Thread.creating && state.schedulerChanged.future.isNone then
        some { state with schedulerChanged := state.schedulerChanged.create }
      else none
  | .notifyRequest =>
      if state.system.core.shuttingDown then
        some
          { state with
            schedulerChanged := state.schedulerChanged.notifyWaiters
            requestNotified := true }
      else none
  | .notifySupervisor =>
      if state.system.threads.any Thread.lockedAdmission then
        some
          { state with
            schedulerChanged := state.schedulerChanged.notifyWaiters
            supervisorNotified := true }
      else none
  | .notifyOne => some { state with schedulerChanged := state.schedulerChanged.notifyOne }

end WakeState

/-- The scheduler sleeps without a timeout and nobody is left who would wake it: the flag is
up, the request and the supervisor have notified, no permit is stored, and the supervisor
waits for the scheduler to stop. -/
structure Stranded (state : WakeState σ) : Prop where
  asleep : ∃ fairness, Thread.scheduler (.suspended fairness none) ∈ state.system.threads
  unwoken : state.schedulerChanged.future = some .waiting
  noPermit : state.schedulerChanged.permit = false
  shuttingDown : state.system.core.shuttingDown = true
  requested : state.requestNotified = true
  notified : state.supervisorNotified = true
  waiting : Thread.supervisor .waitScheduler ∈ state.system.threads
  running : state.system.core.schedulerStopped = false

/-- The supervisor notifies when the scheduler is not between its look at the shutdown flag
and the creation of its future. -/
def NotifiesInTime (state : WakeState σ) : WakeAction → Prop
  | .notifySupervisor =>
      ∀ pc, Thread.scheduler pc ∈ state.system.threads → pc.phase ≠ .loaded ∧
        (pc.phase = .creating → state.schedulerChanged.future.isSome = true)
  | _ => True

structure Alert (state : WakeState σ) : Prop where
  barrier : Barrier state.system
  listening : ∀ pc, Thread.scheduler pc ∈ state.system.threads → pc.phase = .listening →
    state.schedulerChanged.future.isSome = true
  requested : state.supervisorNotified = true → state.system.core.shuttingDown = true
  woken : state.supervisorNotified = true →
    ∀ pc, Thread.scheduler pc ∈ state.system.threads →
      pc.phase = .outside ∨ state.schedulerChanged.woken = true

section Invariant

variable {state next : WakeState σ}

variable {system : System σ} {index : Nat} {input : Input}

omit [TaskStore σ] in
theorem alert_fresh (barrier : Barrier system)
    (idle : ∀ pc, Thread.scheduler pc ∈ system.threads → pc = .idle) :
    Alert
      { system := system
        schedulerChanged := Notify.new
        requestNotified := false
        supervisorNotified := false } := by
  refine ⟨barrier, ?_, ?_, ?_⟩
  · intro pc member phase
    rw [idle pc member] at phase
    cases phase
  · intro notified
    cases notified
  · intro notified
    cases notified

omit [TaskStore σ] in
theorem alert_boot {config : Config} {store : σ} {knownIds : List TaskId} :
    Alert (WakeState.boot config store knownIds) := by
  refine alert_fresh (barrier_boot) ?_
  intro pc member
  simpa [System.boot, bootThreads] using member

omit [TaskStore σ] in
theorem alert_cell {cell : Notify} {requested : Bool} (alert : Alert state)
    (kept : state.schedulerChanged.future.isSome = true → cell.future.isSome = true)
    (woken : state.schedulerChanged.woken = true → cell.woken = true) :
    Alert { state with schedulerChanged := cell, requestNotified := requested } :=
  ⟨alert.barrier, fun pc member phase => kept (alert.listening pc member phase), alert.requested,
    fun notified pc member => (alert.woken notified pc member).imp id woken⟩

omit [TaskStore σ] in
theorem alert_system (alert : Alert state) (barrier : Barrier system)
    (stays : state.system.core.shuttingDown = true → system.core.shuttingDown = true)
    (schedulers : ∀ pc, Thread.scheduler pc ∈ system.threads →
      Thread.scheduler pc ∈ state.system.threads) : Alert { state with system } :=
  ⟨barrier, fun pc member => alert.listening pc (schedulers pc member),
    fun notified => stays (alert.requested notified),
    fun notified pc member => alert.woken notified pc (schedulers pc member)⟩

theorem alert_scheduler {pc : SchedulerPc} {result : Step σ} (alert : Alert state)
    (barrier : Barrier (state.system.moved index result))
    (lookup : state.system.threads[index]? = some (.scheduler pc))
    (free : state.waits (.scheduler pc) = false)
    (stepped : pc.step state.system.config state.system.core input = some result) :
    Alert
      { state with
        system := state.system.moved index result
        schedulerChanged :=
          WakeState.cellAfter state.schedulerChanged (.scheduler pc) result.thread } := by
  obtain ⟨after, same, phase⟩ := scheduler_phase stepped
  have member := mem_of_getElem? lookup
  -- the scheduler of the next state is the one that moved
  have only : ∀ other, Thread.scheduler other ∈ (state.system.moved index result).threads →
      other = after := by
    intro other present
    obtain ⟨position, found⟩ := mem_iff_getElem?.mp present
    have self : (state.system.moved index result).threads[index]? = some (.scheduler after) := by
      rw [← same]
      exact advance_self lookup
    have place := barrier.staff.alone found self (mem_singleton_self Role.scheduler)
      (mem_singleton_self Role.scheduler)
    rw [place, self] at found
    cases found
    rfl
  have keeps : after.phase ≠ .outside →
      WakeState.cellAfter state.schedulerChanged (.scheduler pc) result.thread =
        state.schedulerChanged := by
    intro goes
    rw [same]
    unfold WakeState.cellAfter
    split
    · rename_i equal
      cases equal
      exact (goes rfl).elim
    · rename_i equal
      cases equal
      rw [if_neg goes]
    · rfl
  refine ⟨barrier, ?_, ?_, ?_⟩
  · intro other present listens
    cases only other present
    rw [keeps (by rw [listens]; simp)]
    generalize before : pc.phase = earlier at phase
    rw [listens] at phase
    cases phase with
    | enters =>
      cases pc with
      | topSlots fairness =>
        cases exists_ : state.schedulerChanged.future with
        | none => simp [WakeState.waits, exists_] at free
        | some wake => rfl
      | _ => cases before
    | stays => exact alert.listening pc member before
  · intro notified
    have conduct : Conduct state.system.core (.scheduler pc) result := thread_conduct stepped
    exact conduct.shutting (alert.requested notified)
  · intro notified other present
    cases only other present
    by_cases goes : after.phase = .outside
    · exact .inl goes
    · right
      rw [keeps goes]
      rcases alert.woken notified pc member with early | woken
      · rw [early] at phase
        cases moved : after.phase with
        | outside => exact (goes moved).elim
        | loaded =>
          rw [moved] at phase
          cases phase with
          | loads down =>
            rw [alert.requested notified] at down
            cases down
        | creating | listening =>
          rw [moved] at phase
          cases phase
      · exact woken

theorem cell_after_other (cell : Notify) {before after : Thread}
    (other : ∀ pc, before ≠ .scheduler pc) : WakeState.cellAfter cell before after = cell := by
  unfold WakeState.cellAfter
  split
  · exact (other _ rfl).elim
  · exact (other _ rfl).elim
  · rfl

theorem alert_thread (alert : Alert state) (taken : state.stepThread index input = some next) :
    Alert next := by
  unfold WakeState.stepThread at taken
  split at taken
  · cases taken
  · rename_i thread lookup
    split at taken
    · cases taken
    · rename_i free
      split at taken
      · cases taken
      · rename_i result stepped
        cases taken
        have moves : state.system.step (.thread index input) =
            some (state.system.moved index result) := by
          simp only [System.step, System.stepThread, lookup, stepped]
          rfl
        have barrier := barrier_step alert.barrier moves
        by_cases scheduler : ∃ pc, thread = .scheduler pc
        · obtain ⟨pc, rfl⟩ := scheduler
          exact alert_scheduler alert barrier lookup (by simpa using free) stepped
        · have other : ∀ pc, thread ≠ .scheduler pc := fun pc same => scheduler ⟨pc, same⟩
          rw [cell_after_other _ other]
          refine alert_system alert barrier (thread_conduct stepped).shutting ?_
          intro pc present
          rcases mem_advance_or_mem present with new | old
          · obtain ⟨before, same⟩ := scheduler_source (thread_conduct stepped) new
            exact (other before same).elim
          · exact old

theorem alert_other {action : Action} (alert : Alert state)
    (moves : state.system.step action = some system)
    (notThread : ∀ index input, action ≠ .thread index input)
    (notRestart : ∀ config, action ≠ .restart config) : Alert { state with system } := by
  have barrier := barrier_step alert.barrier moves
  cases step_move moves with
  | stepped => exact (notThread _ _ rfl).elim
  | restart config => exact (notRestart _ rfl).elim
  | dropped lookup left =>
    have conduct := drop_conduct left
    refine alert_system alert barrier conduct.shutting ?_
    intro pc present
    rcases mem_advance_cases present with new | ⟨_, _, old⟩
    · obtain ⟨before, rfl⟩ := scheduler_source conduct new
      obtain ⟨_, dropped⟩ := left.dropped
      cases dropped
    · exact mem_of_getElem? old
  | call call ready =>
    refine alert_system alert barrier id ?_
    intro pc present
    rcases mem_append.mp present with old | new
    · exact old
    · rw [mem_singleton] at new
      cases call <;> cases new
  | flags keeps =>
    exact alert_system alert barrier keeps fun _ member => member
  | progress | prune =>
    exact alert_system alert barrier id fun _ member => member

omit [TaskStore σ] in
/-- The supervisor notifies in time: the scheduler has yet to look at the flag, or the
notification meets its future. -/
theorem alert_notified (alert : Alert state) (inTime : NotifiesInTime state .notifySupervisor)
    (locked : state.system.threads.any Thread.lockedAdmission = true) :
    Alert
      { state with
        schedulerChanged := state.schedulerChanged.notifyWaiters
        supervisorNotified := true } := by
  obtain ⟨thread, member, at_⟩ := any_eq_true.mp locked
  refine ⟨alert.barrier, ?_, ?_, ?_⟩
  · intro pc present phase
    simpa using alert.listening pc present phase
  · intro _
    unfold Thread.lockedAdmission at at_
    split at at_
    · exact ((alert.barrier.passed _ member).requested (by decide)).2
    · cases at_
  · intro _ pc present
    obtain ⟨notLoaded, created⟩ := inTime pc present
    cases phase : pc.phase with
    | outside => exact .inl rfl
    | loaded => exact (notLoaded phase).elim
    | creating => exact .inr (Notify.notify_waiters_wakes (created phase))
    | listening => exact .inr (Notify.notify_waiters_wakes (alert.listening pc present phase))

theorem alert_step {action : WakeAction} (alert : Alert state)
    (inTime : NotifiesInTime state action) (taken : state.step action = some next) :
    Alert next := by
  cases action with
  | system action =>
    cases action with
    | thread => exact alert_thread alert taken
    | restart config =>
      simp only [WakeState.step] at taken
      obtain ⟨system, moves, same⟩ := Option.map_eq_some_iff.mp taken
      cases same
      refine alert_fresh (barrier_step alert.barrier moves) ?_
      intro pc member
      cases moves
      rcases mem_append.mp member with booted | kept
      · simpa [bootThreads] using booted
      · obtain ⟨write, same⟩ := detached_of_kept kept
        cases same
    | _ =>
      simp only [WakeState.step] at taken
      obtain ⟨system, moves, same⟩ := Option.map_eq_some_iff.mp taken
      cases same
      exact alert_other alert moves (fun _ _ other => by cases other)
        (fun _ other => by cases other)
  | create =>
    simp only [WakeState.step] at taken
    split at taken
    · rename_i allowed
      cases taken
      rw [Bool.and_eq_true, Option.isNone_iff_eq_none] at allowed
      refine alert_cell alert (fun _ => Notify.exists_create _) ?_
      intro woken
      have exists_ := Notify.exists_of_woken woken
      rw [allowed.2] at exists_
      cases exists_
    · cases taken
  | notifyRequest =>
    simp only [WakeState.step] at taken
    split at taken
    · cases taken
      exact alert_cell alert (by simp) Notify.woken_notify_waiters
    · cases taken
  | notifySupervisor =>
    simp only [WakeState.step] at taken
    split at taken
    · rename_i locked
      cases taken
      exact alert_notified alert inTime locked
    · cases taken
  | notifyOne =>
    cases taken
    exact alert_cell alert (by simp) Notify.woken_notify_one

end Invariant

/-- A supervisor that always notifies in time never waits for a scheduler that sleeps. -/
theorem shutdown_wakes_scheduler (config : Config) (store : σ) (knownIds : List TaskId)
    (actions : List WakeAction) (final : WakeState σ)
    (inTime : Guarded WakeState.step NotifiesInTime (WakeState.boot config store knownIds) actions)
    (reached : runActions WakeState.step (WakeState.boot config store knownIds) actions =
      some final) : ¬ Stranded final := by
  have alert : Alert final :=
    run_invariant (fun met holds taken => alert_step holds met taken) alert_boot inTime reached
  intro stranded
  obtain ⟨fairness, asleep⟩ := stranded.asleep
  rcases alert.woken stranded.notified _ asleep with outside | woken
  · cases outside
  · rw [Notify.woken, stranded.unwoken] at woken
    cases woken

section Runs

def wakeSteps (indices : List Nat) : List WakeAction :=
  (threadSteps indices).map .system

/-- Recovery leaves a permit, with which the scheduler turns once over the empty store and
looks at the flag again. -/
def sampleSecondTurn : List WakeAction :=
  wakeSteps [3, 3, 3] ++ [.notifyOne] ++ wakeSteps [0, 0, 0] ++ [.create] ++
    wakeSteps (List.replicate 12 0)

/-- The request and the supervisor notify between that look and the new future. -/
def sampleLostWake : List WakeAction :=
  sampleSecondTurn ++ [.system .requestShutdown, .notifyRequest] ++ wakeSteps [1, 1] ++
    [.notifySupervisor] ++ wakeSteps [1, 0] ++ [.create] ++ wakeSteps [0, 0, 0, 0]

def sampleWake : List WakeAction :=
  sampleSecondTurn ++ wakeSteps [0] ++ [.create] ++ wakeSteps (List.replicate 10 0) ++
    [.system .requestShutdown, .notifyRequest] ++ wakeSteps [1, 1] ++ [.notifySupervisor] ++
    wakeSteps [1, 0, 0]

def wakeBoot : WakeState MemoryTaskStore :=
  WakeState.boot (sampleConfig .cooperative) (MemoryTaskStore.withLimits 4 1024 4) []

def Thread.asleep : Thread → Bool
  | .scheduler (.suspended _ none) => true
  | _ => false

def Thread.awaitsScheduler : Thread → Bool
  | .supervisor .waitScheduler => true
  | _ => false

/-- Both notifications come too late for the flag and too early for the future. -/
theorem shutdown_wake_lost :
    ∃ final, runActions WakeState.step wakeBoot sampleLostWake = some final ∧
      Stranded final := by
  obtain ⟨final, reached, checked⟩ := @run_of_check _ _ WakeState.step wakeBoot sampleLostWake
    (fun final =>
      final.system.threads.any Thread.asleep &&
      decide (final.schedulerChanged = { permit := false, future := some .waiting }) &&
      final.system.core.shuttingDown && final.requestNotified && final.supervisorNotified &&
      final.system.threads.any Thread.awaitsScheduler &&
      !final.system.core.schedulerStopped) (by decide)
  simp only [Bool.and_eq_true, any_eq_true, decide_eq_true_eq, Bool.not_eq_true'] at checked
  obtain ⟨⟨⟨⟨⟨⟨asleep, cell⟩, shuttingDown⟩, requested⟩, notified⟩, waiting⟩, running⟩ := checked
  refine ⟨final, reached, ?_, ?_, ?_, shuttingDown, requested, notified, ?_, running⟩
  · obtain ⟨thread, member, suspended⟩ := asleep
    unfold Thread.asleep at suspended
    split at suspended
    · exact ⟨_, member⟩
    · cases suspended
  · rw [cell]
  · rw [cell]
  · obtain ⟨thread, member, waits⟩ := waiting
    unfold Thread.awaitsScheduler at waits
    split at waits
    · exact member
    · cases waits

instance decidableNotifiesInTime (state : WakeState MemoryTaskStore) :
    (action : WakeAction) → Decidable (NotifiesInTime state action)
  | .notifySupervisor =>
      decidable_of_iff
        (state.system.threads.all (fun thread =>
          match thread with
          | .scheduler pc =>
              decide (pc.phase ≠ .loaded) &&
                (decide (pc.phase ≠ .creating) || state.schedulerChanged.future.isSome)
          | _ => true) = true) (by
        rw [all_eq_true]
        constructor
        · intro all pc member
          have met := all _ member
          simp only [Bool.and_eq_true, Bool.or_eq_true, decide_eq_true_eq] at met
          exact ⟨met.1, fun creating => met.2.resolve_left fun other => other creating⟩
        · intro inTime thread member
          cases thread with
          | scheduler pc =>
              obtain ⟨notLoaded, created⟩ := inTime pc member
              simp only [Bool.and_eq_true, Bool.or_eq_true, decide_eq_true_eq]
              refine ⟨notLoaded, ?_⟩
              by_cases creating : pc.phase = .creating
              · exact .inr (created creating)
              · exact .inl creating
          | _ => rfl)
  | .system _ | .create | .notifyRequest | .notifyOne => isTrue trivial

theorem shutdown_wakes_scheduler_sample :
    ∃ final, runActions WakeState.step wakeBoot sampleWake = some final ∧
      final.supervisorNotified = true ∧ ¬ Stranded final :=
  run_shows (by decide) fun final reached _ =>
    shutdown_wakes_scheduler (sampleConfig .cooperative) (MemoryTaskStore.withLimits 4 1024 4)
      [] sampleWake final
      (show Guarded WakeState.step NotifiesInTime wakeBoot sampleWake by decide) reached

end Runs

end TaskService.Service
