import TaskService.Service.AlreadyTerminal
import TaskService.Service.FaultFree
import TaskService.Service.FlightSteps

/-!
# Bookkeeping of cancellations

An attempt's flag leaves the cancellation map when its handler returns, and the
entry of its flight leaves the external map with the flight or with `finish`.
Nothing orders the two removals: a flight whose last read saw the attempt running
records its success even when `finish` has already removed the entry, and then
nobody removes it any more.
-/

namespace TaskService.Service

open Library Model Store List

def RunPc.clearing : RunPc → Bool
  | .checkCompeting _ _ | .exit _ | .done _ => false
  | _ => true

def RunPc.registered : RunPc → Bool
  | .recheck _ | .setFlag _ | .running _ | .unregister _ => true
  | _ => false

def Thread.clearing : Thread → List (TaskId × Nat)
  | .run task => if task.pc.clearing then [(task.started.id, task.started.attempt)] else []
  | _ => []

def Thread.registered : Thread → List (TaskId × Nat)
  | .run task => if task.pc.registered then [(task.started.id, task.started.attempt)] else []
  | _ => []

/-- The attempt whose success a flight records next. -/
def Thread.concludes : Thread → List (TaskId × Nat)
  | .hook { id, attempt, kindId := _, flight := _, pc := .conclude .success } => [(id, attempt)]
  | _ => []

/-- The attempt a thread is busy with: a cancellation that has read it running, its flight, or
the attempt itself. -/
def Thread.busyWith : Thread → List (TaskId × Nat)
  | .cancel { id, pc := .requestCancel summary } => [(id, summary.attempt)]
  | .cancel { id, pc := .signal attempt } => [(id, attempt)]
  | .cancel { id, pc := .joinHook summary } => [(id, summary.attempt)]
  | .cancel { id, pc := .spawnHook summary _ } => [(id, summary.attempt)]
  | .cancel { id, pc := .dropAdmission attempt _ } => [(id, attempt)]
  | .cancel { id, pc := .waitHook attempt _ } => [(id, attempt)]
  | .hook { pc := .done, .. } => []
  | .hook task => [(task.id, task.attempt)]
  | .run { pc := .done _, .. } => []
  | .run task => [(task.started.id, task.started.attempt)]
  | _ => []

variable {key : TaskId × Nat} {thread : Thread}

theorem busy_of_carries {flight : Nat} (carried : (flight, key) ∈ thread.carries) :
    key ∈ thread.busyWith := by
  unfold Thread.carries at carried
  split at carried
  · cases mem_singleton.mp carried
    exact mem_singleton_self _
  · rename_i task
    obtain ⟨id, attempt, kindId, number, pc⟩ := task
    split at carried
    · rename_i unsettled
      cases mem_singleton.mp carried
      cases pc <;> first | exact mem_singleton_self _ | cases unsettled
    · cases carried
  · cases carried

theorem busy_of_clearing (clearing : key ∈ thread.clearing) : key ∈ thread.busyWith := by
  cases thread with
  | run task =>
    obtain ⟨started, pc⟩ := task
    cases pc <;> first | exact clearing | cases clearing
  | _ => cases clearing

theorem clearing_of_registered (registered : key ∈ thread.registered) : key ∈ thread.clearing := by
  cases thread with
  | run task =>
    obtain ⟨started, pc⟩ := task
    cases pc <;> first | exact registered | cases registered
  | _ => cases registered

variable {σ : Type} [TaskStore σ]

def StoreWorks (system : System σ) : Action → Prop :=
  OnSteps fun index input => input.storeFailure = none ∧ ∀ thread ∈ system.threads[index]?,
    (thread.storeError system.config system.core input).any isFailure = false

instance (system : System σ) (action : Action) : Decidable (StoreWorks system action) :=
  inferInstanceAs (Decidable (OnSteps _ action))

/-- A flight that records success does so while its attempt is shown running or before the
attempt's `finish` has removed the entry. -/
def ConcludesInTime (system : System σ) : Action → Prop :=
  OnSteps fun index _ => ∀ thread ∈ system.threads[index]?, ∀ key ∈ thread.concludes,
    RunningAt (system.recordOf key.1) key.2 ∨ key ∈ system.threads.flatMap Thread.clearing

set_option synthInstance.maxSize 256 in
instance (system : System σ) (action : Action) : Decidable (ConcludesInTime system action) :=
  inferInstanceAs (Decidable (OnSteps _ action))

/-- Every entry of the two maps has somebody who will remove it, or its attempt is shown
running. -/
structure Tidy [LawfulStore σ] (system : System σ) : Prop where
  ledger : Ledger system
  flying : ∀ key flight,
    system.core.externalCancellations.lookup key = some (.inFlight flight) →
    (flight, key) ∈ system.threads.flatMap Thread.carries
  settled : ∀ key, system.core.externalCancellations.lookup key = some .succeeded →
    RunningAt (system.recordOf key.1) key.2 ∨ key ∈ system.threads.flatMap Thread.clearing
  registered : ∀ key flag, system.core.cancellations.lookup key = some flag →
    key ∈ system.threads.flatMap Thread.registered
  closed : system.core.ready = false → ∀ key, system.core.externalCancellations.lookup key = none

section Steps

variable [LawfulStore σ] {system next : System σ} {index : Nat} {input : Input}
  {thread : Thread} {result : Step σ} {key : TaskId × Nat}

theorem running_unless_own (ledger : Ledger system) (lookup : system.threads[index]? = some thread)
    (stepped : thread.step system.config system.core input = some result)
    (after : Ledger (system.moved index result))
    (unfailing : (thread.storeError system.config system.core input).any isFailure = false)
    (ready : system.core.ready = true) (running : RunningAt (system.recordOf key.1) key.2)
    (other : key ∉ thread.clearing) :
    RunningAt ((system.moved index result).recordOf key.1) key.2 := by
  have deed := (ledger.footprint lookup stepped).deed
  by_cases owned : key ∈ system.owned
  · apply after.books.running key.1 key.2
    apply mem_tokens_advance_of_kept Thread.owned lookup owned
    intro mine
    cases thread with
    | run task =>
      simp only [Thread.owned] at mine
      split at mine
      · rename_i unwritten
        obtain rfl := mem_singleton.mp mine
        apply (other _).elim
        obtain ⟨started, pc⟩ := task
        cases pc <;> first | exact mem_singleton_self _ | cases unwritten
      · cases mine
    | scheduler pc =>
      cases pc with
      | spawn =>
        cases stepped
        simpa [Thread.owned, RunPc.unwritten] using mine
      | _ => cases mine
    | _ => cases mine
  · apply abandoned_running ledger lookup deed unfailing ready ⟨running, ?_⟩
    intro attempt elsewhere
    obtain ⟨task, present, -, counted⟩ := running
    obtain ⟨found, shown, -, numbered⟩ := ledger.books.running key.1 attempt elsewhere
    cases present.symm.trans shown
    apply owned
    rw [show key = (key.1, attempt) from Prod.ext rfl (counted.symm.trans numbered)]
    exact elsewhere

variable {task : RunTask} {config : Config} {core : Core σ} {flag : Nat}

theorem run_clearing (ledger : Ledger system) (lookup : system.threads[index]? = some (.run task))
    (stepped : task.step system.config system.core input = some result)
    (working : input.storeFailure = none)
    (unfailing : ((Thread.run task).storeError system.config system.core input).any isFailure =
        false)
    (clearing : key ∈ (Thread.run task).clearing) :
    key ∈ result.threads.flatMap Thread.clearing ∨
      result.core.externalCancellations.lookup key = none ∨
      RunningAt (result.core.recordOf key.1) key.2 := by
  obtain ⟨started, pc⟩ := task
  have own : key = (started.id, started.attempt) := by
    simp only [Thread.clearing] at clearing
    split at clearing
    · exact mem_singleton.mp clearing
    · cases clearing
  subst own
  have reads : ∀ error, system.core.callGet input started.id ≠ .error error := by
    intro error called
    simp [Core.callGet, working] at called
  have running : pc.unwritten = true →
      RunningAt (system.core.recordOf started.id) started.attempt := fun unwritten =>
    running_of_unwritten ledger lookup unwritten
  cases run_step_cases _ stepped with
  | unread error called | unfinished completion error called | unchecked flag error called =>
    exact (reads error called).elim
  | vanished called | disappeared completion called =>
    obtain ⟨stored, shown, -⟩ := running rfl
    cases (call_get_record called).symm.trans shown
  | superseded stored called stopped =>
    obtain ⟨found, shown, state, -⟩ := running rfl
    cases (call_get_record called).symm.trans shown
    exact (stopped state).elim
  | panicked => exact .inr (.inr (running rfl))
  | lost called =>
    obtain ⟨stored, shown, state, counted⟩ := running rfl
    have kept := (call_transition_lost ledger.valid called shown).1
    exact .inr (.inr ⟨stored, kept, state, counted⟩)
  | @unwritten completion latest error after called other =>
    right
    right
    obtain ⟨-, ⟨-, message, failed, -⟩ | ⟨store, -, answered⟩⟩ := call_write_cases called
    · rw [working] at failed
      cases failed
    · have effect := LawfulStore.transition_effect system.core.store input.clock
        (RunTask.finishCommand system.config started latest completion input.now input.later)
        ledger.valid
      rw [store_error_transition rfl, ← answered] at unfailing
      rw [← answered, ← store] at effect
      cases effect with
      | rejected error unchanged => exact (running rfl).of_eq (unchanged started.id)
      | versionExhausted => cases unfailing
  | clears completion =>
    right
    left
    simp
  | contests | exits => cases clearing
  | _ =>
    exact .inl (mem_singleton_self _)

omit [LawfulStore σ] in
theorem run_registered (stepped : task.step config core input = some result)
    (working : input.storeFailure = none)
    (found : result.core.cancellations.lookup key = some flag) :
    key ∈ result.threads.flatMap Thread.registered ∨
      (core.cancellations.lookup key = some flag ∧
        (key ∈ (Thread.run task).registered → key ∈ result.threads.flatMap Thread.registered)) := by
  obtain ⟨started, pc⟩ := task
  cases run_step_cases _ stepped with
  | registers =>
    rw [Table.lookup_insert_eq] at found
    split at found
    · rename_i own
      subst own
      exact .inl (mem_singleton_self _)
    · exact .inr ⟨found, fun member => by cases member⟩
  | unchecked flag error called => simp [Core.callGet, working] at called
  | requested | unrequested | sets | completes => exact .inr ⟨found, fun member => member⟩
  | unregisters completion =>
    rw [Table.lookup_erase_eq] at found
    split at found
    · cases found
    · rename_i other
      refine .inr ⟨found, fun member => ?_⟩
      exact (other (mem_singleton.mp member)).elim
  | wrote called | lost called | unwritten called =>
    right
    refine ⟨?_, fun member => by cases member⟩
    rw [← (call_write_cells called).cancellations]
    exact found
  | contests completion version =>
    right
    refine ⟨?_, fun member => by cases member⟩
    rw [← (core.same_cells_competing input started.id version).cancellations]
    exact found
  | _ => exact .inr ⟨found, fun member => by cases member⟩

omit [LawfulStore σ] in
theorem thread_registered (stepped : thread.step config core input = some result)
    (working : input.storeFailure = none)
    (found : result.core.cancellations.lookup key = some flag) :
    key ∈ result.threads.flatMap Thread.registered ∨
      (core.cancellations.lookup key = some flag ∧
        (key ∈ thread.registered → key ∈ result.threads.flatMap Thread.registered)) := by
  cases thread with
  | run task => exact run_registered stepped working found
  | cancel call =>
    right
    refine ⟨?_, fun member => by cases member⟩
    rw [← (cancel_cells call stepped).cancellations key (fun member => by cases member)]
    exact found
  | hook task =>
    right
    refine ⟨?_, fun member => by cases member⟩
    rw [← (hook_cells task stepped).cancellations key (fun member => by cases member)]
    exact found
  | _ =>
    right
    refine ⟨?_, fun member => by cases member⟩
    rw [← (same_cells_step rfl (fun _ other => by cases other) stepped).1.cancellations]
    exact found

theorem Tidy.flying_moved (tidy : Tidy system) (lookup : system.threads[index]? = some thread)
    (flight : FlightStep system.core thread result) {number : Nat}
    (found : result.core.externalCancellations.lookup key = some (.inFlight number)) :
    (number, key) ∈ (system.moved index result).threads.flatMap Thread.carries := by
  rcases flight.entries key with same | settles | ⟨-, opened, entered, carried⟩
  · apply mem_tokens_advance_of_kept Thread.carries lookup
      (tidy.flying key number (same.symm.trans found))
    intro own
    rcases flight.kept (number, key) own with kept | settles
    · exact kept
    · exact (flight.settled key settles number found).elim
  · exact (flight.settled key settles number found).elim
  · cases entered.symm.trans found
    exact mem_tokens_of_step Thread.carries lookup carried

structure TidyStep (system : System σ) (index : Nat) (thread : Thread) (result : Step σ) :
    Prop where
  clearing : ∀ key ∈ thread.clearing, key ∈ result.threads.flatMap Thread.clearing ∨
    result.core.externalCancellations.lookup key = none ∨
    RunningAt ((system.moved index result).recordOf key.1) key.2
  running : ∀ key, system.core.ready = true → RunningAt (system.recordOf key.1) key.2 →
    key ∉ thread.clearing → RunningAt ((system.moved index result).recordOf key.1) key.2
  registered : ∀ key flag, result.core.cancellations.lookup key = some flag →
    key ∈ result.threads.flatMap Thread.registered ∨
      (system.core.cancellations.lookup key = some flag ∧
        (key ∈ thread.registered → key ∈ result.threads.flatMap Thread.registered))
  concludes : ∀ key ∈ thread.concludes, RunningAt (system.recordOf key.1) key.2 ∨
    key ∈ system.threads.flatMap Thread.clearing
  closed : system.core.ready = false →
    result.core.externalCancellations = system.core.externalCancellations

omit [LawfulStore σ] in
theorem settled_entry_moved (lookup : system.threads[index]? = some thread)
    (step : TidyStep system index thread result) (ready : system.core.ready = true)
    (found : result.core.externalCancellations.lookup key = some .succeeded)
    (before : RunningAt (system.recordOf key.1) key.2 ∨
      key ∈ system.threads.flatMap Thread.clearing) :
    RunningAt ((system.moved index result).recordOf key.1) key.2 ∨
      key ∈ (system.moved index result).threads.flatMap Thread.clearing := by
  by_cases own : key ∈ thread.clearing
  · rcases step.clearing key own with clearing | removed | running
    · exact .inr (mem_tokens_of_step Thread.clearing lookup clearing)
    · rw [found] at removed
      cases removed
    · exact .inl running
  · rcases before with running | clearing
    · exact .inl (step.running key ready running own)
    · right
      exact mem_tokens_advance_of_kept Thread.clearing lookup clearing fun mine => (own mine).elim

theorem tidy_moved (tidy : Tidy system) (lookup : system.threads[index]? = some thread)
    (ledger : Ledger (system.moved index result))
    (flight : FlightStep system.core thread result) (cells : Cells system.core thread result)
    (conduct : Conduct system.core thread result) (step : TidyStep system index thread result) :
    Tidy (system.moved index result) := by
  have empty : system.core.ready = false → ∀ key,
      result.core.externalCancellations.lookup key = none := by
    intro closed key
    rw [step.closed closed]
    exact tidy.closed closed key
  refine ⟨ledger, fun key number found => tidy.flying_moved lookup flight found, ?_, ?_, ?_⟩
  · intro key found
    have ready : system.core.ready = true := by
      by_contra closed
      cases (empty (by simpa using closed) key).symm.trans found
    apply settled_entry_moved lookup step ready found
    rcases cells.succeeded key found with old | ⟨task, rfl, concluding, rfl⟩
    · exact tidy.settled key old
    · apply step.concludes
      obtain ⟨id, attempt, kindId, number, pc⟩ := task
      cases concluding
      exact mem_singleton_self _
  · intro key flag found
    rcases step.registered key flag found with renewed | ⟨old, kept⟩
    · exact mem_tokens_of_step Thread.registered lookup renewed
    · exact mem_tokens_advance_of_kept Thread.registered lookup (tidy.registered key flag old) kept
  · intro closed key
    rcases conduct.ready with same | ⟨-, opened, -⟩
    · exact empty (same.symm.trans closed) key
    · exact (Bool.false_ne_true (closed.symm.trans opened)).elim

theorem tidy_thread_step (tidy : Tidy system) (lookup : system.threads[index]? = some thread)
    (stepped : thread.step system.config system.core input = some result)
    (ledger : Ledger (system.moved index result)) (works : StoreWorks system (.thread index input))
    (inTime : ConcludesInTime system (.thread index input)) :
    TidyStep system index thread result where
  clearing := by
    intro key clearing
    cases thread with
    | run task =>
      exact run_clearing tidy.ledger lookup stepped works.1 (works.2 _ lookup) clearing
    | _ => cases clearing
  running := fun key ready running other =>
    running_unless_own tidy.ledger lookup stepped ledger (works.2 thread lookup) ready running other
  registered := fun key flag found => thread_registered stepped works.1 found
  concludes := inTime thread lookup
  closed := by
    intro closed
    have asleep := tidy.ledger.staff.asleep closed thread (mem_of_getElem? lookup)
    cases thread with
    | cancel | hook | run => cases asleep
    | _ => exact (same_cells_step rfl (fun _ other => by cases other) stepped).1.entries

omit [LawfulStore σ] in
theorem tidy_drop_step (left : Dropped system.core thread input result) :
    TidyStep system index thread result := by
  have same : system.core.SameCells result.core := drop_same_cells left
  have idle : thread.clearing = [] ∧ thread.registered = [] ∧ thread.concludes = [] := by
    obtain ⟨after, dropped⟩ := left.dropped
    cases thread with
    | hook task | run task => cases dropped
    | _ => exact ⟨rfl, rfl, rfl⟩
  refine ⟨?_, ?_, ?_, ?_, fun _ => same.entries⟩
  · rw [idle.1]
    exact forall_mem_nil _
  · exact fun _ _ running _ => running.of_eq (drop_records left _)
  · intro key flag found
    rw [same.cancellations] at found
    refine .inr ⟨found, ?_⟩
    rw [idle.2.1]
    exact fun member => by cases member
  · rw [idle.2.2]
    exact forall_mem_nil _

theorem tidy_aside (tidy : Tidy system) (ledger : Ledger next) (unmoved : Aside system next) :
    Tidy next := by
  refine ⟨ledger, ?_, ?_, ?_, ?_⟩
  · rw [unmoved.entries, unmoved.tokens Thread.carries fun call => by cases call <;> rfl]
    exact tidy.flying
  · intro key found
    rw [unmoved.entries] at found
    rw [unmoved.tokens Thread.clearing fun call => by cases call <;> rfl]
    exact (tidy.settled key found).imp_left (unmoved.running key.1 key.2)
  · rw [unmoved.cancellations, unmoved.tokens Thread.registered fun call => by cases call <;> rfl]
    exact tidy.registered
  · rw [unmoved.ready, unmoved.entries]
    exact tidy.closed

theorem tidy_step {action : Action} (fresh : FreshIds system action)
    (works : StoreWorks system action) (inTime : ConcludesInTime system action)
    (tidy : Tidy system) (taken : system.step action = some next) : Tidy next := by
  have ledger := ledger_step fresh tidy.ledger taken
  cases step_change tidy.ledger taken with
  | stepped lookup stepped =>
    exact tidy_moved tidy lookup ledger (thread_flight_step stepped) (thread_cells stepped)
      (thread_conduct stepped) (tidy_thread_step tidy lookup stepped ledger works inTime)
  | dropped lookup left =>
    exact tidy_moved tidy lookup ledger (drop_flight_step left) (drop_cells left)
      (drop_conduct left) (tidy_drop_step left)
  | aside unmoved => exact tidy_aside tidy ledger unmoved
  | restart config =>
    exact
      { ledger := ledger
        flying := fun _ _ found => by cases found
        settled := fun _ found => by cases found
        registered := fun _ _ found => by cases found
        closed := fun _ _ => rfl }

theorem tidy_boot {config : Config} {store : σ} {knownIds : List TaskId}
    (ledger : Ledger (System.boot config store knownIds)) :
    Tidy (System.boot config store knownIds) where
  ledger
  flying := fun _ _ found => by cases found
  settled := fun _ found => by cases found
  registered := fun _ _ found => by cases found
  closed := fun _ _ => rfl

/-- Over a store that does not fail, and as long as no flight records its success after the
attempt's `finish` has removed the entry, an attempt that is over and that nobody is busy with
has an entry in neither map. -/
theorem cancel_bookkeeping_clean (config : Config) (store : σ) (knownIds : List TaskId)
    (valid : LawfulStore.Valid store)
    (known : ∀ id, TaskStore.getEncodedTask store id ≠ none → id ∈ knownIds)
    (actions : List Action) (final : System σ)
    (guarded : Guarded System.step (fun system action => FreshIds system action ∧
      StoreWorks system action ∧ ConcludesInTime system action)
      (System.boot config store knownIds) actions)
    (reached : runActions System.step (System.boot config store knownIds) actions = some final)
    (key : TaskId × Nat) (quiet : key ∉ final.threads.flatMap Thread.busyWith)
    (persisted : ¬ RunningAt (final.recordOf key.1) key.2) :
    final.core.externalCancellations.lookup key = none ∧
      final.core.cancellations.lookup key = none := by
  have tidy : Tidy final :=
    run_invariant (fun guard holds taken =>
        tidy_step guard.1 guard.2.1 guard.2.2 holds taken)
      (tidy_boot (ledger_boot valid known)) guarded reached
  have unclearing : key ∉ final.threads.flatMap Thread.clearing := by
    intro member
    obtain ⟨thread, among, clearing⟩ := mem_flatMap.mp member
    exact quiet (mem_flatMap.mpr ⟨thread, among, busy_of_clearing clearing⟩)
  refine ⟨?_, ?_⟩
  · cases found : final.core.externalCancellations.lookup key with
    | none => rfl
    | some entry =>
      cases entry with
      | inFlight flight =>
        obtain ⟨thread, among, carried⟩ := mem_flatMap.mp (tidy.flying key flight found)
        exact (quiet (mem_flatMap.mpr ⟨thread, among, busy_of_carries carried⟩)).elim
      | succeeded =>
        rcases tidy.settled key found with running | clearing
        · exact (persisted running).elim
        · exact (unclearing clearing).elim
  · cases found : final.core.cancellations.lookup key with
    | none => rfl
    | some flag =>
      obtain ⟨thread, among, registered⟩ := mem_flatMap.mp (tidy.registered key flag found)
      exact (unclearing (mem_flatMap.mpr ⟨thread, among, clearing_of_registered registered⟩)).elim

end Steps

/-- A caller opens a flight whose hook succeeds and whose last read sees the attempt running. -/
def sampleHookSucceeds : List Action :=
  sampleStart ++ [.call (.cancel sampleId)] ++ threadSteps (List.replicate 8 6) ++
    threadSteps (List.replicate 5 7)

/-- The handler returns, and `finish` records the outcome and removes the entry. -/
def sampleHandlerReturns : List Action :=
  [.thread 5 { execution := .returned (.ok (.succeeded { summary := [] })) }] ++
    threadSteps (List.replicate 5 5)

def sampleFlightLands : List Action := threadSteps [7, 7, 7, 6]

/-- A flight that records its success after `finish` has removed the entry leaves the entry
behind for good. -/
theorem cancel_bookkeeping_leaks :
    ∃ final : System MemoryTaskStore,
      Guarded System.step (fun system action => FreshIds system action ∧ StoreWorks system action)
          (sampleSystem .externalHook)
          (sampleHookSucceeds ++ sampleHandlerReturns ++ sampleFlightLands) ∧
        runActions System.step (sampleSystem .externalHook)
          (sampleHookSucceeds ++ sampleHandlerReturns ++ sampleFlightLands) = some final ∧
        (sampleId, 1) ∉ final.threads.flatMap Thread.busyWith ∧
        IsTerminal (final.recordOf sampleId) ∧
        final.core.externalCancellations.lookup (sampleId, 1) = some .succeeded := by
  obtain ⟨final, reached, checked⟩ := @run_of_check _ _ System.step (sampleSystem .externalHook)
    (sampleHookSucceeds ++ sampleHandlerReturns ++ sampleFlightLands)
    (fun final => decide ((sampleId, 1) ∉ final.threads.flatMap Thread.busyWith ∧
      IsTerminal (final.recordOf sampleId) ∧
      final.core.externalCancellations.lookup (sampleId, 1) = some .succeeded)) (by decide)
  exact ⟨final, by decide, reached, of_decide_eq_true checked⟩

/-- The flight records its success first, and `finish` removes the entry. -/
theorem cancel_bookkeeping_clean_sample :
    ∃ final : System MemoryTaskStore,
      runActions System.step (sampleSystem .externalHook)
          (sampleHookSucceeds ++ sampleFlightLands ++ sampleHandlerReturns) = some final ∧
        final.core.externalCancellations.lookup (sampleId, 1) = none ∧
        final.core.cancellations.lookup (sampleId, 1) = none := by
  obtain ⟨final, reached, checked⟩ := @run_of_check _ _ System.step (sampleSystem .externalHook)
    (sampleHookSucceeds ++ sampleFlightLands ++ sampleHandlerReturns)
    (fun final => decide ((sampleId, 1) ∉ final.threads.flatMap Thread.busyWith ∧
      ¬ RunningAt (final.recordOf sampleId) 1)) (by decide)
  obtain ⟨quiet, persisted⟩ := of_decide_eq_true checked
  refine ⟨final, reached, ?_⟩
  exact cancel_bookkeeping_clean _ _ _ (with_limits_valid ..) (with_limits_known _ _ _ _) _ _
    (by decide) reached (sampleId, 1) quiet persisted

end TaskService.Service
