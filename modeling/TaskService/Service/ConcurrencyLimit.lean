import TaskService.Service.Ledger
import TaskService.Service.SharedCells
import TaskService.Service.ShutdownBarrier
import TaskService.Store.MemoryTaskStoreLaws

/-!
# Exclusive and bounded execution

Along every run no two handlers of one task are active, and an active handler finds its record
running at its own attempt.

The scheduler compares the in-flight counter with the limit before it dispatches a record,
and counts the attempt only once its start has been written.  From the comparison on it
holds a slot: other threads can only give slots back in the meantime, since no other thread
starts attempts.  Attempts and held slots together never exceed the limit.
-/

namespace TaskService.Service

open Library Model Store List

theorem owned_of_handler_active {thread : Thread} {id : TaskId} {attempt : Nat}
    (active : thread.handlerActive = some (id, attempt)) : thread.owned = [(id, attempt)] := by
  unfold Thread.handlerActive at active
  split at active
  · cases active
    rfl
  · cases active

section

variable {σ : Type} [TaskStore σ] [LawfulStore σ]

structure Exclusive (system : System σ) : Prop where
  single : ∀ (first second : Nat) (left right : Thread) (id : TaskId)
      (leftAttempt rightAttempt : Nat),
    system.threads[first]? = some left → system.threads[second]? = some right →
    left.handlerActive = some (id, leftAttempt) → right.handlerActive = some (id, rightAttempt) →
    first = second
  running : ∀ thread ∈ system.threads, ∀ (id : TaskId) (attempt : Nat),
    thread.handlerActive = some (id, attempt) →
    ∃ task, system.recordOf id = some task ∧ task.summary.state = .running ∧
      task.summary.attempt = attempt

theorem exclusive_of_ledger {system : System σ} (ledger : Ledger system) : Exclusive system := by
  refine ⟨?_, ?_⟩
  · intro first second left right id leftAttempt rightAttempt leftAt rightAt leftActive rightActive
    apply position_of_token Thread.claims ledger.claims leftAt rightAt
    · show id ∈ left.pending ++ left.owned.map Prod.fst
      rw [owned_of_handler_active leftActive]
      simp
    · show id ∈ right.pending ++ right.owned.map Prod.fst
      rw [owned_of_handler_active rightActive]
      simp
  · intro thread member id attempt active
    apply ledger.books.running id attempt
    apply List.mem_flatMap.mpr
    exact ⟨thread, member, by rw [owned_of_handler_active active]; exact List.mem_singleton_self _⟩

theorem exclusive_execution (config : Config) (store : σ) (knownIds : List TaskId)
    (valid : LawfulStore.Valid store)
    (known : ∀ id, TaskStore.getEncodedTask store id ≠ none → id ∈ knownIds)
    (actions : List Action) (final : System σ)
    (fresh : Guarded System.step FreshIds (System.boot config store knownIds) actions)
    (reached : runActions System.step (System.boot config store knownIds) actions = some final) :
    Exclusive final :=
  exclusive_of_ledger (ledger_run (ledger_boot valid known) fresh reached)

end

theorem exclusive_execution_sample :
    ∃ final : System MemoryTaskStore,
      runActions System.step (sampleSystem .cooperative) sampleStart = some final ∧
        final.threads.any (fun thread => thread.handlerActive == some (sampleId, 1)) = true ∧
        Exclusive final := by
  refine run_shows (by decide) fun final reached _ => ?_
  exact exclusive_execution _ _ _ (with_limits_valid ..) (with_limits_known _ _ _ _) _ _ (by decide)
    reached

def Thread.attempts : Thread → Nat
  | .run { started := _, pc := .done _ } => 0
  | .run _ => 1
  | _ => 0

/-- The scheduler between its comparison with the limit and the spawn. -/
def SchedulerPc.slots : SchedulerPc → Nat
  | .dispatch _ | .admission _ _ | .admitted _ _ | .start _ _ | .spawn _ _ => 1
  | _ => 0

def Thread.slots : Thread → Nat
  | .scheduler pc => pc.slots
  | thread => thread.attempts

def Thread.landing : Thread → Bool
  | .run { started := _, pc := .exit _ } => true
  | .hook { id := _, attempt := _, kindId := _, flight := _, pc := .exit } => true
  | _ => false

theorem attempts_le_flights (thread : Thread) : thread.attempts ≤ thread.flights := by
  cases thread with
  | run task =>
    obtain ⟨started, pc⟩ := task
    cases pc <;> exact Nat.le_refl _
  | hook task => exact Nat.zero_le _
  | _ => exact Nat.le_refl _

theorem attempts_le_slots (thread : Thread) : thread.attempts ≤ thread.slots := by
  cases thread with
  | scheduler pc => exact Nat.zero_le _
  | _ => exact Nat.le_refl _

theorem scan_end_slots (scan : Scan) (completed : Bool) :
    (SchedulerPc.scanEnd scan completed).slots = 0 := by
  unfold SchedulerPc.scanEnd
  split <;> rfl

theorem run_slots_le_one (task : RunTask) : (Thread.run task).slots ≤ 1 := by
  obtain ⟨started, pc⟩ := task
  cases pc with
  | done finished => exact Nat.zero_le _
  | _ => exact Nat.le_refl _

theorem flights_of_landing {thread : Thread} (landing : thread.landing = true) :
    thread.flights = 1 := by
  unfold Thread.landing at landing
  split at landing
  · rfl
  · rfl
  · cases landing

section Steps

variable {σ : Type} [TaskStore σ] {config : Config} {core : Core σ} {input : Input}
  {result : Step σ}

theorem scheduler_slots (pc : SchedulerPc) (stepped : pc.step config core input = some result) :
    (result.threads.map Thread.slots).sum ≤ pc.slots ∨
      ((∃ scan, pc = .entrySlots scan) ∧ core.inFlight < config.maxRunningTasks ∧
        (result.threads.map Thread.slots).sum ≤ 1) := by
  cases scheduler_step_cases pc stepped with
  | slotFree scan free => exact .inr ⟨⟨scan, rfl⟩, free, Nat.le_refl _⟩
  | emptied | ineligible | passesOver | refuses | impossible | turnedAway | superseded
  | startFailed => exact .inl (Nat.zero_le _)
  | scanShut scan | scanFaulted scan | scanFull scan | pageShut scan | pageFull scan =>
    exact .inl (scan_end_slots scan false).le
  | completed scan => exact .inl (scan_end_slots scan true).le
  | _ => exact .inl (Nat.le_refl _)

theorem thread_slots {thread : Thread} (stepped : thread.step config core input = some result) :
    (result.threads.map Thread.slots).sum ≤ thread.slots ∨
      ((∃ scan, thread = .scheduler (.entrySlots scan)) ∧
        core.inFlight < config.maxRunningTasks ∧
        (result.threads.map Thread.slots).sum ≤ 1) := by
  cases thread with
  | scheduler pc =>
    rcases scheduler_slots pc stepped with kept | ⟨⟨scan, rfl⟩, free, taken⟩
    · exact .inl kept
    · exact .inr ⟨⟨scan, rfl⟩, free, taken⟩
  | run task =>
    obtain ⟨pc, form, alone⟩ := run_step_form task stepped
    have unfinished : (Thread.run task).slots = 1 := by
      obtain ⟨started, pc⟩ := task
      cases pc with
      | done finished => cases stepped
      | _ => rfl
    left
    rw [unfinished]
    simpa [Step.threads, form, alone] using run_slots_le_one { task with pc := pc }
  | _ =>
    -- neither a scheduler nor an attempt comes out of any other thread
    left
    refine (sum_eq_zero ?_).le.trans (Nat.zero_le _)
    intro weight member
    obtain ⟨next, among, rfl⟩ := mem_map.mp member
    cases next with
    | scheduler pc =>
      have plays := (thread_conduct stepped).roles.subset
        (mem_flatMap.mpr ⟨_, among, mem_singleton_self Role.scheduler⟩)
      simp [Thread.roles] at plays
    | run task =>
      obtain ⟨scan, same⟩ := run_origin (fun _ other => by cases other) stepped among
      cases same
    | _ => rfl

end Steps

variable {σ : Type} {system next : System σ}

structure Limited (system : System σ) : Prop where
  barrier : Barrier system
  slots : (system.threads.map Thread.slots).sum ≤ system.config.maxRunningTasks

/-- While the scheduler stands at the comparison nobody holds a slot, so the slots taken are
attempts, and those are counted. -/
theorem slots_le_in_flight (barrier : Barrier system) {index : Nat} {scan : Scan}
    (lookup : system.threads[index]? = some (.scheduler (.entrySlots scan))) :
    (system.threads.map Thread.slots).sum ≤ system.core.inFlight := by
  rw [barrier.inFlight]
  refine sum_le_sum ?_
  intro thread member
  cases thread with
  | scheduler pc =>
    obtain ⟨position, found⟩ := mem_iff_getElem?.mp member
    have same := barrier.staff.alone found lookup (mem_singleton_self Role.scheduler)
      (mem_singleton_self Role.scheduler)
    rw [same, lookup] at found
    cases found
    exact Nat.le_refl _
  | run task => exact attempts_le_flights (.run task)
  | _ => exact Nat.zero_le _

theorem boot_slots (rest : List Thread)
    (detached : ∀ thread ∈ rest, ∃ write, thread = .detached write) :
    ((bootThreads ++ rest).map Thread.slots).sum = 0 := by
  refine sum_eq_zero ?_
  intro weight member
  obtain ⟨thread, inside, rfl⟩ := mem_map.mp member
  rcases mem_append.mp inside with booted | kept
  · simp only [bootThreads, mem_cons, not_mem_nil, or_false] at booted
    rcases booted with rfl | rfl | rfl | rfl <;> rfl
  · obtain ⟨write, rfl⟩ := detached thread kept
    rfl

theorem limited_boot {config : Config} {store : σ} {knownIds : List TaskId} :
    Limited (System.boot config store knownIds) :=
  ⟨barrier_boot, Nat.zero_le _⟩

theorem limited_step [TaskStore σ] {action : Action} (limited : Limited system)
    (taken : system.step action = some next) : Limited next := by
  refine ⟨barrier_step limited.barrier taken, ?_⟩
  have slots := limited.slots
  cases step_move taken with
  | @stepped index input thread result lookup stepped =>
    have total := sum_advance Thread.slots result.thread result.spawned lookup
    have held := weight_le_sum Thread.slots lookup
    change (List.map _ (advance _ _ _ _)).sum ≤ system.config.maxRunningTasks
    rcases thread_slots stepped with kept | ⟨⟨scan, rfl⟩, free, taken⟩
    · change (List.map _ (result.thread :: result.spawned)).sum ≤ _ at kept
      omega
    · have counted := slots_le_in_flight limited.barrier lookup
      change (List.map _ (result.thread :: result.spawned)).sum ≤ _ at taken
      omega
  | @dropped index input issued thread result lookup left =>
    have total := sum_advance Thread.slots result.thread result.spawned lookup
    have none : ((result.thread :: result.spawned).map Thread.slots).sum = 0 := by
      have remains : thread.remains.slots = 0 := by cases thread <;> rfl
      cases left with
      | idle dropped left =>
        subst left
        simp [remains]
      | @issued after write dropped carried left =>
        subst left
        simp [remains, show (Thread.detached write).slots = 0 from rfl]
    change (List.map _ (advance _ _ _ _)).sum ≤ system.config.maxRunningTasks
    omega
  | call call ready =>
    have none : call.thread.slots = 0 := by cases call <;> rfl
    simpa [none] using slots
  | flags | progress | prune => exact slots
  | restart config =>
    rw [boot_slots _ fun _ member => detached_of_kept member]
    exact Nat.zero_le _

structure WithinLimit (system : System σ) : Prop where
  /-- Handlers that run at the moment. -/
  executions : (system.threads.filter fun thread => thread.handlerActive.isSome).length ≤
    system.config.maxRunningTasks
  /-- Attempts from their spawn to the end of `run_one`. -/
  attempts : (system.threads.map Thread.attempts).sum ≤ system.config.maxRunningTasks
  /-- The counter is the number of operations that still hold their guard. -/
  counted : system.core.inFlight = (system.threads.map Thread.flights).sum
  /-- Every drop of an in-flight guard finds the counter above zero. -/
  positive : ∀ thread ∈ system.threads, thread.landing = true → 0 < system.core.inFlight
  /-- The counter is zero only when no attempt and no external cancellation is active. -/
  idle : system.core.inFlight = 0 → ∀ thread ∈ system.threads, thread.flights = 0

theorem executions_le_attempts (threads : List Thread) :
    (threads.filter fun thread => thread.handlerActive.isSome).length ≤
      (threads.map Thread.attempts).sum := by
  induction threads with
  | nil => exact Nat.le_refl _
  | cons thread rest ih =>
    rw [filter_cons, map_cons, sum_cons]
    split
    · rename_i active
      have counted : thread.attempts = 1 := by
        unfold Thread.handlerActive at active
        split at active
        · rfl
        · cases active
      rw [length_cons]
      omega
    · omega

theorem Limited.within (limited : Limited system) : WithinLimit system := by
  have attempts : (system.threads.map Thread.attempts).sum ≤ system.config.maxRunningTasks :=
    (sum_le_sum fun thread _ => attempts_le_slots thread).trans limited.slots
  refine ⟨(executions_le_attempts _).trans attempts, attempts, limited.barrier.inFlight, ?_, ?_⟩
  · intro thread member landing
    obtain ⟨position, found⟩ := mem_iff_getElem?.mp member
    have bound := weight_le_sum Thread.flights found
    rw [← limited.barrier.inFlight, flights_of_landing landing] at bound
    exact bound
  · intro idle thread member
    exact grounded_of_no_flights limited.barrier idle member

theorem concurrency_limit [TaskStore σ] (config : Config) (store : σ) (knownIds : List TaskId)
    (actions : List Action) (final : System σ)
    (reached : runActions System.step (System.boot config store knownIds) actions = some final) :
    WithinLimit final := by
  have limited : Limited final :=
    run_preserves limited_step limited_boot reached
  exact limited.within

/-- An attempt is cancelled by its hook while its handler runs; both are counted. -/
def sampleHookedAttempt : List Action :=
  sampleStart ++ [.call (.cancel sampleId)] ++ threadSteps (List.replicate 7 6)

theorem concurrency_limit_sample :
    ∃ final : System MemoryTaskStore,
      runActions System.step (sampleSystem .externalHook) sampleHookedAttempt = some final ∧
        final.core.inFlight = 2 ∧ WithinLimit final :=
  run_shows (by decide) fun final reached _ =>
    concurrency_limit (sampleConfig .externalHook) (MemoryTaskStore.withLimits 4 1024 4) []
      sampleHookedAttempt final reached

end TaskService.Service
