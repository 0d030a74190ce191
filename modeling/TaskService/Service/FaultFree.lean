import TaskService.Service.ThreadFaults

/-!
# Services without a fault

A service whose store does not fail stays without a fault as long as no record is removed
that somebody goes back to.  The scheduler goes back to the records of a page it has read,
and a flight goes back to the record of its attempt; neither keeps the record from becoming
terminal and being pruned in between.
-/

namespace TaskService.Service

open Library Model Store List
open TaskStore LawfulStore

variable {σ : Type} [TaskStore σ]

def AsAssumed [LawfulStore σ] [PreciseStore σ] (system : System σ) : Action → Prop :=
  OnSteps fun index input => ∀ thread ∈ system.threads[index]?,
    Assumed system.config system.core input thread

/-- In memory no event is recorded, so that every event fits. -/
instance (config : Config) (core : Core MemoryTaskStore) (input : Input) (thread : Thread) :
    Decidable (Assumed config core input thread) :=
  decidable_of_iff
    (input.storeFailure = none ∧ (thread.storeError config core input).any isFailure = false ∧
      thread.WithinLimits config core input)
    ⟨fun checked =>
        { operational := checked.1
          unfailing := checked.2.1
          limits := checked.2.2
          room := fun _ _ _ => trivial
          accepts := fun _ _ _ _ => trivial },
      fun assumed => ⟨assumed.operational, assumed.unfailing, assumed.limits⟩⟩

instance (system : System MemoryTaskStore) (action : Action) :
    Decidable (AsAssumed system action) :=
  inferInstanceAs (Decidable (OnSteps _ action))

def Retained (system : System σ) : Action → Prop :=
  OnSteps fun index _ => ∀ thread ∈ system.threads[index]?, thread.Retains system.core

instance (system : System σ) (action : Action) : Decidable (Retained system action) :=
  inferInstanceAs (Decidable (OnSteps _ action))

/-- An attempt that its task has given up: it is shown as running, but nobody owns it. -/
structure Abandoned (system : System σ) (id : TaskId) (attempt : Nat) : Prop where
  running : RunningAt (system.recordOf id) attempt
  unowned : ∀ other, (id, other) ∉ system.owned

structure Untroubled [LawfulStore σ] (system : System σ) : Prop where
  ledger : Ledger system
  quiet : system.core.fault = none
  fit : ∀ thread ∈ system.threads, thread.Fit system.config
  newer : ∀ thread ∈ system.threads, ∀ id version, thread.contested = some (id, version) →
    Lasting (Newer version) system id
  abandoned : ∀ thread ∈ system.threads, ∀ id attempt, thread.abandoned = some (id, attempt) →
    Abandoned system id attempt

section Steps

variable [LawfulStore σ] {system next : System σ} {index : Nat} {input : Input}
  {thread : Thread} {result : Step σ} {id : TaskId} {version : Nat}

variable {summary : TaskSummary} {command : TransitionCommand} {attempt : Nat} {core : Core σ}

section

variable (ledger : Ledger system) (lookup : system.threads[index]? = some thread)
include ledger lookup

theorem abandoned_annotated (ready : system.core.ready = true)
    (abandoned : Abandoned system id attempt) {task : StoredTask}
    (following : thread.nextTransition system.config input = some (summary, command))
    (present : system.recordOf id = some task) (same : command.id = id)
    (matched : TransitionMatches task.summary command)
    (room : task.summary.stateVersion + 1 < u64Bound) : command.state = .running := by
  have member := mem_of_getElem? lookup
  obtain ⟨held, commandOn, author⟩ := next_transition_cases (ledger.wf thread member) following
  have named : summary.id = id := commandOn.id.symm.trans same
  rcases author with ⟨keeps, -⟩ | ⟨started, completion, rfl, -⟩ | ⟨rest, after, rfl⟩
  · have follows : Follows summary task.summary :=
      ledger.books.follows summary (mem_tokens lookup held) task
        (by rw [named]; exact present)
    obtain ⟨found, shown, state, -⟩ := abandoned.running
    cases present.symm.trans shown
    rcases follows.agree (commandOn.version.symm.trans matched.1.symm) with agrees | exhausted
    · exact (keeps (agrees.1.trans state)).1
    · exact absurd room (Nat.not_lt.mpr exhausted)
  · -- Whoever writes an outcome owns the attempt.
    have wf := ledger.wf _ member
    apply (abandoned.unowned started.attempt _).elim
    refine mem_tokens lookup ?_
    rw [← named, wf.2.1]
    simp [Thread.owned, RunPc.unwritten]
  · exact (ledger.staff.recovered ready _ member).elim

theorem abandoned_running (deed : system.Deed input thread result)
    (unfailing : (thread.storeError system.config system.core input).any isFailure = false)
    (ready : system.core.ready = true) (abandoned : Abandoned system id attempt) :
    RunningAt ((system.moved index result).recordOf id) attempt := by
  apply present_written ledger deed (running_of_live attempt) _ abandoned.running
  · intro summary command following effect
    rw [store_error_transition following] at unfailing
    generalize (transitionEncoded system.core.store input.clock command).2 = answer
      at effect unfailing
    have written := effect
    cases effect with
    | rejected error unchanged unmatched => exact abandoned.running.of_eq (unchanged id)
    | applied task held matched room =>
      apply abandoned.running.transition written
      rintro rfl found shown -
      cases held.symm.trans shown
      exact abandoned_annotated ledger lookup ready abandoned following held rfl matched room
    | versionExhausted => cases unfailing
  · rintro summary ⟨state, -⟩ queued
    rw [queued] at state
    cases state

theorem unowned_moved (deed : system.Deed input thread result)
    (abandoned : Abandoned system id attempt) (other : Nat) :
    (id, other) ∉ (system.moved index result).owned := by
  intro owned
  have kept : (id, other) ∉ thread.owned := fun mine =>
    abandoned.unowned other (mem_tokens lookup mine)
  rcases mem_owned_moved ledger lookup owned with renewed | ⟨old, -⟩
  · cases deed with
    | quiet _ _ _ _ passed => exact kept (passed.subset renewed)
    | generated _ _ _ _ _ _ passed | transition _ _ _ _ _ _ _ passed
    | accepted _ _ _ _ _ _ _ passed | published _ _ _ _ _ _ passed | archived _ _ _ _ _ passed =>
      rw [passed] at renewed
      cases renewed
    | started scan summary place store known held pending passed =>
      have effect := start_effect system.core.store input.clock
        (SchedulerPc.startCommand summary input.now) ledger.valid
      rw [passed] at renewed
      generalize (startEncoded system.core.store input.clock
        (SchedulerPc.startCommand summary input.now)).2 = answer at effect renewed
      cases effect with
      | rejected | attemptExhausted => cases renewed
      | started task present queued =>
        have named : task.summary.id = summary.id :=
          get_id system.core.store _ task ledger.valid present
        obtain ⟨found, shown, state, -⟩ := abandoned.running
        obtain rfl : id = summary.id := by
          simpa [startedSummary, named] using congrArg Prod.fst (mem_singleton.mp renewed)
        cases (show system.recordOf summary.id = some task from present).symm.trans shown
        rw [queued] at state
        cases state
  · exact abandoned.unowned other old

end

theorem untroubled_moved (untroubled : Untroubled system)
    (lookup : system.threads[index]? = some thread) (deed : system.Deed input thread result)
    (fresh : input.Fresh system.core) (calm : Calm system.config system.core result)
    (steady : ∀ other ∈ system.threads, ∀ id attempt, other.abandoned = some (id, attempt) →
      RunningAt ((system.moved index result).recordOf id) attempt)
    (gives : ∀ next ∈ result.threads, ∀ id attempt, next.abandoned = some (id, attempt) →
      Abandoned (system.moved index result) id attempt)
    (ledger : Ledger (system.moved index result)) : Untroubled (system.moved index result) := by
  refine ⟨ledger, calm.fault, ?_, ?_, ?_⟩
  · intro other member
    rcases mem_advance_cases member with renewed | ⟨position, -, found⟩
    · exact calm.fit other renewed
    · exact untroubled.fit other (mem_of_getElem? found)
  · intro other member id version contested
    rcases mem_advance_cases member with renewed | ⟨position, -, found⟩
    · obtain ⟨⟨task, present⟩, newer⟩ := calm.contest other renewed id version contested
      exact lasting_established untroubled.ledger lookup deed fresh present newer
    · have newer := untroubled.newer other (mem_of_getElem? found) id version contested
      exact lasting_moved untroubled.ledger lookup deed fresh newer
        (fun _ _ newer _ _ => ⟨Nat.lt_succ_of_lt newer, Nat.lt_succ_of_lt newer⟩)
        fun _ _ task _ present _ _ =>
          ⟨fun _ => Nat.lt_succ_of_lt (newer.holds task present), fun _ => newer.holds task present⟩
  · intro other member id attempt abandoned
    rcases mem_advance_cases member with renewed | ⟨position, -, found⟩
    · exact gives other renewed id attempt abandoned
    · have old := mem_of_getElem? found
      exact ⟨steady other old id attempt abandoned, unowned_moved untroubled.ledger lookup deed
          (untroubled.abandoned other old id attempt abandoned)⟩

omit [TaskStore σ] [LawfulStore σ] in
theorem dropped_fault {after : Core σ} (dropped : thread.dropped core = some after) :
    after.fault = core.fault := by
  unfold Thread.dropped at dropped
  repeat' split at dropped
  all_goals
    cases dropped
    try rfl

omit [LawfulStore σ] in
theorem drop_calm {config : Config} (quiet : core.fault = none)
    (left : Dropped core thread input result) : Calm config core result := by
  have remains : thread.remains.Fit config ∧ thread.remains.contested = none := by
    cases thread <;> exact ⟨trivial, rfl⟩
  cases left with
  | idle dropped left =>
    subst left
    exact calm_alone ((dropped_fault dropped).trans quiet) remains.1 remains.2 rfl
  | issued dropped carried left =>
    subst left
    exact calm_spawned ((dropped_fault dropped).trans quiet) remains.1 remains.2 rfl trivial rfl

theorem lost_abandons (ledger : Ledger system) (lookup : system.threads[index]? = some thread)
    (stepped : thread.step system.config system.core input = some result) {renewed : Thread}
    (member : renewed ∈ result.threads) (abandoned : renewed.abandoned = some (id, attempt)) :
    Abandoned (system.moved index result) id attempt := by
  obtain ⟨started, completion, latest, rfl, entry, settled, called⟩ :=
    abandoned_source stepped member abandoned
  cases entry
  have mine : (started.id, started.attempt) ∈
      (Thread.run { started := started, pc := .finishWrite completion latest }).owned := by
    simp [Thread.owned, RunPc.unwritten]
  obtain ⟨task, present, running⟩ := ledger.books.running started.id started.attempt
    (mem_tokens lookup mine)
  refine ⟨⟨task, (call_transition_lost ledger.valid called present).1, running⟩, ?_⟩
  intro other owned
  rcases mem_owned_moved ledger lookup owned with renewed | ⟨-, elsewhere⟩
  · rw [settled] at renewed
    cases renewed
  · exact elsewhere (mem_append_right _ (mem_map.mpr ⟨_, mine, rfl⟩))

omit [TaskStore σ] [LawfulStore σ] in
theorem ready_of_abandoned (staff : Staff system) (member : thread ∈ system.threads)
    (abandoned : thread.abandoned = some (id, attempt)) : system.core.ready = true := by
  by_contra closed
  have asleep := staff.asleep (by simpa using closed) thread member
  unfold Thread.abandoned at abandoned
  split at abandoned
  · cases asleep
  · cases abandoned

omit [TaskStore σ] [LawfulStore σ] in
theorem abandoned_of_uncontested (uncontested : thread.contested = none) :
    thread.abandoned = none := by
  unfold Thread.abandoned
  split
  · cases uncontested
  · rfl

omit [TaskStore σ] [LawfulStore σ] in
theorem boot_threads_fit (config : Config) :
    ∀ thread ∈ bootThreads, thread.Fit config ∧ thread.contested = none := by
  intro thread member
  simp only [bootThreads, mem_cons, not_mem_nil, or_false] at member
  rcases member with rfl | rfl | rfl | rfl <;> exact ⟨trivial, rfl⟩

theorem untroubled_aside (untroubled : Untroubled system) (ledger : Ledger next)
    (unmoved : Aside system next) : Untroubled next := by
  have plain : ∀ thread ∈ next.threads,
      thread ∈ system.threads ∨ thread.Fit system.config ∧ thread.contested = none := by
    intro thread member
    rcases unmoved.members thread member with old | ⟨call, rfl⟩
    · exact .inl old
    · cases call <;> exact .inr ⟨trivial, rfl⟩
  refine ⟨ledger, unmoved.fault.trans untroubled.quiet, ?_, ?_, ?_⟩
  · intro thread member
    rw [unmoved.config]
    exact (plain thread member).elim (untroubled.fit thread) And.left
  · intro thread member id version contested
    rcases plain thread member with old | ⟨-, uncontested⟩
    · exact (untroubled.newer thread old id version contested).aside unmoved fun _ _ known => known
    · rw [uncontested] at contested
      cases contested
  · intro thread member id attempt abandoned
    rcases plain thread member with old | ⟨-, uncontested⟩
    · have before := untroubled.abandoned thread old id attempt abandoned
      refine ⟨unmoved.running id attempt before.running, ?_⟩
      rw [System.owned, unmoved.tokens Thread.owned fun call => by cases call <;> rfl]
      exact before.unowned
    · rw [abandoned_of_uncontested uncontested] at abandoned
      cases abandoned

theorem untroubled_step [PreciseStore σ] {action : Action} (fresh : FreshIds system action)
    (assumed : AsAssumed system action) (retained : Retained system action)
    (untroubled : Untroubled system) (taken : system.step action = some next) :
    Untroubled next := by
  have ledger := ledger_step fresh untroubled.ledger taken
  cases step_change untroubled.ledger taken with
  | @stepped index input thread result lookup stepped =>
    have member := mem_of_getElem? lookup
    have wf := untroubled.ledger.wf thread member
    have deed := (untroubled.ledger.footprint lookup stepped).deed
    refine untroubled_moved untroubled lookup deed fresh ?_ ?_ ?_ ledger
    · refine thread_calm untroubled.quiet untroubled.ledger.valid (assumed thread lookup)
        (retained thread lookup) (untroubled.fit thread member) wf ?_ ?_ ?_ ?_ stepped
      · intro id attempt owned
        exact untroubled.ledger.books.running id attempt (mem_tokens lookup owned)
      · intro id attempt abandoned
        exact (untroubled.abandoned thread member id attempt abandoned).running
      · intro summary held
        exact untroubled.ledger.books.follows summary (mem_tokens lookup held)
      · intro id version contested
        exact (untroubled.newer thread member id version contested).holds
    · intro other old id attempt abandoned
      exact abandoned_running untroubled.ledger lookup deed (assumed thread lookup).unfailing
        (ready_of_abandoned untroubled.ledger.staff old abandoned)
        (untroubled.abandoned other old id attempt abandoned)
    · intro renewed among id attempt abandoned
      exact lost_abandons untroubled.ledger lookup stepped among abandoned
  | dropped lookup left =>
    refine untroubled_moved untroubled lookup (untroubled.ledger.left_footprint lookup left).deed
      (fun id minted => by cases minted) (drop_calm untroubled.quiet left) ?_ ?_ ledger
    · intro other old id attempt abandoned
      exact (untroubled.abandoned other old id attempt abandoned).running.of_eq
        (drop_records left _)
    · intro renewed among id attempt abandoned
      unfold Thread.abandoned at abandoned
      split at abandoned
      · exact (drop_no_run left _ among).elim
      · cases abandoned
  | aside unmoved => exact untroubled_aside untroubled ledger unmoved
  | restart config =>
    have plain : ∀ thread ∈ bootThreads ++ system.threads.filter Thread.isDetached,
        thread.Fit config ∧ thread.contested = none := by
      intro thread member
      rcases mem_append.mp member with booted | kept
      · exact boot_threads_fit config thread booted
      · obtain ⟨write, rfl⟩ := detached_of_kept kept
        exact ⟨trivial, rfl⟩
    refine ⟨ledger, rfl, fun thread member => (plain thread member).1, ?_, ?_⟩
    · intro thread member id version contested
      rw [(plain thread member).2] at contested
      cases contested
    · intro thread member id attempt abandoned
      rw [abandoned_of_uncontested (plain thread member).2] at abandoned
      cases abandoned

theorem untroubled_boot {config : Config} {store : σ} {knownIds : List TaskId}
    (ledger : Ledger (System.boot config store knownIds)) :
    Untroubled (System.boot config store knownIds) := by
  have plain := boot_threads_fit config
  refine ⟨ledger, rfl,
    fun thread member => (plain thread member).1, ?_, ?_⟩
  · intro thread member id version contested
    rw [(plain thread member).2] at contested
    cases contested
  · intro thread member id attempt abandoned
    rw [abandoned_of_uncontested (plain thread member).2] at abandoned
    cases abandoned

end Steps

/-- While whoever goes back to a record finds it, only failures of the store latch a fault. -/
theorem faultless_while_retained [LawfulStore σ] [PreciseStore σ] (config : Config)
    (store : σ) (knownIds : List TaskId) (valid : LawfulStore.Valid store)
    (known : ∀ id, TaskStore.getEncodedTask store id ≠ none → id ∈ knownIds)
    (actions : List Action) (final : System σ) (guarded : Guarded System.step
      (fun system action => FreshIds system action ∧ AsAssumed system action ∧
        Retained system action)
      (System.boot config store knownIds) actions)
    (reached : runActions System.step (System.boot config store knownIds) actions = some final) :
    final.core.fault = none := by
  have untroubled : Untroubled final :=
    run_invariant
      (fun conditions untroubled taken =>
        untroubled_step conditions.1 conditions.2.1 conditions.2.2 untroubled taken)
      (untroubled_boot (ledger_boot valid known)) guarded reached
  exact untroubled.quiet

def unhandledConfig : Config :=
  { sampleConfig .cooperative with
    handlers := { registration := fun _ => none, codec := fun _ => none } }

/-- A task is accepted, read on a page of the scheduler and cancelled before the scheduler
comes to its entry; `meanwhile` follows on the cancellation. -/
def cancelledOnPage (meanwhile : List Action) : List Action :=
  threadSteps [3, 3, 3] ++ [.call (.submit (.ok sampleRequest))] ++ threadSteps [4, 4, 4] ++
    [.thread 4 { generated := .ok sampleId }] ++ threadSteps [4] ++
    threadSteps (List.replicate 8 0) ++ [.call (.cancel sampleId)] ++
    threadSteps (List.replicate 6 5) ++ meanwhile ++ threadSteps (List.replicate 5 0)

/-- The record of a cancelled task may be pruned while the scheduler still holds its page. -/
theorem pruned_task_stops_service :
    Guarded System.step
        (fun system action => FreshIds system action ∧ AsAssumed system action)
        (System.boot unhandledConfig (MemoryTaskStore.withLimits 4 1024 4) [])
        (cancelledOnPage [.prune 1 1]) ∧
      ∃ final : System MemoryTaskStore,
        runActions System.step
            (System.boot unhandledConfig (MemoryTaskStore.withLimits 4 1024 4) [])
            (cancelledOnPage [.prune 1 1]) = some final ∧
          final.core.fault = some "task was not found" :=
  ⟨by decide +kernel, run_reaching (by decide +kernel)⟩

/-- Without the pruning the scheduler finds the newer revision. -/
theorem faultless_while_retained_sample :
    ∃ final : System MemoryTaskStore,
      runActions System.step
          (System.boot unhandledConfig (MemoryTaskStore.withLimits 4 1024 4) [])
          (cancelledOnPage []) = some final ∧
        final.core.fault = none := by
  obtain ⟨final, reached, -⟩ := @run_of_check _ _ System.step
    (System.boot unhandledConfig (MemoryTaskStore.withLimits 4 1024 4) []) (cancelledOnPage [])
    (fun (_ : System MemoryTaskStore) => true) (by decide +kernel)
  refine ⟨final, reached, ?_⟩
  exact faultless_while_retained _ _ _ (with_limits_valid ..) (with_limits_known _ _ _ _) _ _
    (by decide +kernel) reached

end TaskService.Service
