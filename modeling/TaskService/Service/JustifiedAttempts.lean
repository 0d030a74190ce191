import TaskService.Service.EquippedService

/-!
# What justifies an attempt

The limit on attempts is checked by `finish` alone, on the attempt that has just ended.
Records are queued and blocked elsewhere too, so the limit rests on every record that
waits: it stands at an attempt below the limit, and that attempt, unless it is none, has
ended with a retryable error before anybody asked to cancel it.  The retry deadline of
that end is still on the record, unless the task has been blocked since.  Then the engine
is out of tokens, and the task is not started any more.
-/

namespace TaskService.Service

open Library Model Store List
open TaskStore LawfulStore

variable {σ : Type} [TaskStore σ]

def HandlerReturned (start : System σ) (actions : List Action) (id : TaskId) (attempt : Nat)
    (execution : HandlerExecution) : Prop :=
  Took System.step (fun _ system action _ =>
    ∃ index input started flag, action = .thread index input ∧
      system.threads[index]? = some (.run { started := started, pc := .running flag }) ∧
      started.id = id ∧ started.attempt = attempt ∧ input.execution = execution) start actions

def FailedRetryably (start : System σ) (actions : List Action) (id : TaskId) (attempt : Nat) :
    Prop :=
  ∃ error : TaskRunError, HandlerReturned start actions id attempt (.returned (.error error)) ∧
    error.retryable = true

/-- An attempt whose handler had failed retryably was requeued until the deadline, while its
record showed no request to cancel it. -/
def Requeued (start : System σ) (actions : List Action) (id : TaskId) (attempt deadline : Nat) :
    Prop :=
  Took System.step (fun earlier system _ next =>
    FailedRetryably start earlier id attempt ∧
      Present (fun summary => summary.state = .running ∧ summary.attempt = attempt ∧
        summary.cancelRequested = false) (system.recordOf id) ∧
      Present (fun summary => summary.state = .queued ∧ summary.attempt = attempt ∧
        summary.retryNotBeforeMs = some deadline) (next.recordOf id)) start actions

section Threads

variable {config : Config} {core : Core σ} {input : Input} {thread : Thread} {result : Step σ}

/-- The attempt whose `finish` has been told of a retryable error. -/
def Thread.retrying : Thread → List (TaskId × Nat)
  | .run { started, pc := .unregister completion }
  | .run { started, pc := .finishRead completion }
  | .run { started, pc := .finishWrite completion _ } =>
      if completion.retryable then [(started.id, started.attempt)] else []
  | _ => []

theorem completion_retryable {execution : HandlerExecution}
    (retryable : (RunTask.completionOf execution).retryable = true) :
    ∃ error : TaskRunError, execution = .returned (.error error) ∧ error.retryable = true := by
  unfold RunTask.completionOf at retryable
  split at retryable
  · split at retryable <;> cases retryable
  · cases retryable
  · rename_i error
    exact ⟨error, rfl, retryable⟩
  · cases retryable

theorem thread_retrying (stepped : thread.step config core input = some result)
    {entry : TaskId × Nat} (member : entry ∈ result.threads.flatMap Thread.retrying) :
    entry ∈ thread.retrying ∨
      ∃ (started : TaskSummary) (flag : Nat) (error : TaskRunError),
        thread = .run { started := started, pc := .running flag } ∧
        entry = (started.id, started.attempt) ∧ input.execution = .returned (.error error) ∧
        error.retryable = true := by
  obtain ⟨next, among, retries⟩ := mem_flatMap.mp member
  cases thread with
  | run task =>
    obtain ⟨started, pc⟩ := task
    cases run_step_cases _ stepped with
    | completes flag =>
      right
      cases mem_singleton.mp among
      simp only [Thread.retrying] at retries
      split at retries
      · rename_i retryable
        obtain ⟨error, returned, again⟩ := completion_retryable retryable
        exact ⟨started, flag, error, rfl, mem_singleton.mp retries, returned, again⟩
      · cases retries
    | unregisters | reads =>
      left
      cases mem_singleton.mp among
      exact retries
    | _ =>
      cases mem_singleton.mp among
      cases retries
  | _ =>
    cases next with
    | run task =>
      obtain ⟨started, pc⟩ := task
      cases run_source (fun _ other => by cases other) stepped among
      cases retries
    | _ => cases retries

end Threads

section Sanction

/-- Why a record may wait for a start: it never had one, or its last attempt was requeued and
the deadline still holds it back or starts are barred. -/
def Excused (start : System σ) (actions : List Action) (barred : Prop) (summary : TaskSummary) :
    Prop :=
  summary.attempt = 0 ∨
    ∃ deadline, Requeued start actions summary.id summary.attempt deadline ∧
      (summary.retryNotBeforeMs = some deadline ∨ barred)

/-- What holds of every record.  Nothing is said of the state of a record whose version is
exhausted; such a record is never started. -/
structure Sanctioned (start : System σ) (actions : List Action) (limit : Nat) (barred : Prop)
    (summary : TaskSummary) : Prop where
  bounded : summary.attempt ≤ limit
  waiting : ¬ Exhausted summary → summary.state.kind = .queued ∨ summary.state.kind = .blocked →
    summary.attempt < limit ∧ Excused start actions barred summary
  cleared : ¬ Exhausted summary → summary.state.kind = .blocked → summary.retryNotBeforeMs = none

variable {start : System σ} {actions : List Action} {limit : Nat} {summary : TaskSummary}
  {barred after : Prop}

theorem FailedRetryably.later {id : TaskId} {attempt : Nat}
    (failed : FailedRetryably start actions id attempt) (more : List Action) :
    FailedRetryably start (actions ++ more) id attempt := by
  obtain ⟨error, returned, retryable⟩ := failed
  exact ⟨error, Took.later returned more, retryable⟩

theorem Excused.later (excused : Excused start actions barred summary) (still : barred → after)
    (more : List Action) : Excused start (actions ++ more) after summary := by
  rcases excused with first | ⟨deadline, requeued, waits⟩
  · exact .inl first
  · exact .inr ⟨deadline, Took.later requeued more, waits.imp_right still⟩

theorem Sanctioned.later (sanctioned : Sanctioned start actions limit barred summary)
    (still : barred → after) (more : List Action) :
    Sanctioned start (actions ++ more) limit after summary := by
  refine ⟨sanctioned.bounded, ?_, sanctioned.cleared⟩
  intro live waits
  obtain ⟨below, excused⟩ := sanctioned.waiting live waits
  exact ⟨below, excused.later still more⟩

theorem sanctioned_active (bounded : summary.attempt ≤ limit)
    (active : summary.state = .running ∨ summary.state.isTerminal = true) :
    Sanctioned start actions limit barred summary := by
  have notWaiting : ¬ (summary.state.kind = .queued ∨ summary.state.kind = .blocked) := by
    rcases active with running | terminal
    · simp [running, TaskState.kind]
    · cases state : summary.state <;>
        simp [state, TaskState.kind, TaskState.isTerminal] at terminal ⊢
  refine ⟨bounded, fun _ waits => (notWaiting waits).elim, ?_⟩
  exact fun _ blocked => (notWaiting (.inr blocked)).elim

theorem sanctioned_starts (sanctioned : Sanctioned start actions limit barred summary)
    (queued : summary.state = .queued) (room : summary.stateVersion + 1 < u64Bound)
    (command : StartCommand) :
    Starts (Sanctioned start actions limit barred) summary command := by
  have live : ¬ Exhausted summary := Nat.not_le.mpr room
  have waits := sanctioned.waiting live (.inl (by rw [queued]; rfl))
  refine ⟨sanctioned_active waits.1 (.inl rfl), sanctioned.bounded, fun _ _ => waits, ?_⟩
  intro _ blocked
  rw [queued] at blocked
  cases blocked

theorem sanctioned_resumed {command : TransitionCommand}
    (sanctioned : Sanctioned start actions limit barred summary) (live : ¬ Exhausted summary)
    (blocked : summary.state.kind = .blocked) (queued : command.state = .queued) :
    Sanctioned start actions limit barred (transitionedSummary summary command) := by
  obtain ⟨below, excused⟩ := sanctioned.waiting live (.inr blocked)
  have cleared := sanctioned.cleared live blocked
  refine ⟨sanctioned.bounded, fun _ _ => ⟨below, ?_⟩, ?_⟩
  · rcases excused with first | ⟨deadline, requeued, still | due⟩
    · exact .inl first
    · rw [cleared] at still
      cases still
    · exact .inr ⟨deadline, requeued, .inr due⟩
  · intro _ kind
    rw [show (transitionedSummary summary command).state = .queued from queued] at kind
    cases kind

theorem sanctioned_blocked {listed : TaskSummary} {reason : String}
    (sanctioned : Sanctioned start actions limit barred summary) (live : ¬ Exhausted summary)
    (queued : summary.state = .queued) (shut : summary.attempt = 0 ∨ barred) :
    Sanctioned start actions limit barred
      (transitionedSummary summary (SchedulerPc.blockCommand listed reason)) := by
  obtain ⟨below, excused⟩ := sanctioned.waiting live (.inl (by rw [queued]; rfl))
  refine ⟨sanctioned.bounded, fun _ _ => ⟨below, ?_⟩, fun _ _ => rfl⟩
  rcases excused with first | ⟨deadline, requeued, _⟩
  · exact .inl first
  · exact shut.imp_right fun barred => ⟨deadline, requeued, .inr barred⟩

variable [LawfulStore σ] {system : System σ} {index : Nat} {input : Input} {result : Step σ}
  {task later : StoredTask}

theorem sanctioned_retried {started : TaskSummary} {completion : Completion}
    (reached : runActions System.step start actions = some system)
    (taken : system.step (.thread index input) = some (system.moved index result))
    (ledger : Ledger system) (lookup : system.threads[index]? =
      some (.run { started := started, pc := .finishWrite completion summary }))
    (failed : FailedRetryably start actions started.id started.attempt)
    (again : RunTask.retries system.config started summary completion = true)
    (present : system.recordOf started.id = some task) (agree : Agree summary task.summary)
    (left : (system.moved index result).recordOf started.id = some later)
    (written : later.summary = transitionedSummary task.summary
      (RunTask.finishCommand system.config started summary completion input.now input.later)) :
    Sanctioned start (actions ++ [.thread index input]) system.config.maxAttempts barred
      later.summary := by
  have owned : (started.id, started.attempt) ∈ system.owned :=
    mem_tokens lookup (by simp [Thread.owned, RunPc.unwritten])
  obtain ⟨found, shown, running, counted⟩ := ledger.books.running started.id started.attempt owned
  rw [present] at shown
  cases shown
  have named : task.summary.id = started.id :=
    get_id system.core.store started.id task ledger.valid present
  simp only [RunTask.retries, Bool.and_eq_true, Bool.not_eq_true', decide_eq_true_eq] at again
  obtain ⟨⟨retryable, unrequested⟩, below⟩ := again
  have requeues : later.summary.state = .queued ∧ later.summary.retryNotBeforeMs =
      some (RunTask.retryDeadline system.config started input.now) := by
    rw [written]
    simp [transitionedSummary, RunTask.finishCommand, RunTask.retries, retryable, unrequested,
      below]
  have sameAttempt : later.summary.attempt = started.attempt := by
    rw [written]
    exact counted
  have sameId : later.summary.id = started.id := by
    rw [written]
    exact named
  refine ⟨?_, fun _ _ => ⟨?_, .inr ⟨_, ?_, .inl requeues.2⟩⟩, ?_⟩
  · rw [sameAttempt]
    exact Nat.le_of_lt below
  · rw [sameAttempt]
    exact below
  · rw [sameAttempt, sameId]
    apply took_now reached taken
    refine ⟨failed, ⟨task, present, running, counted, ?_⟩,
      ⟨later, left, requeues.1, sameAttempt, requeues.2⟩⟩
    rw [← agree.2.2]
    exact unrequested
  · intro _ blocked
    rw [requeues.1] at blocked
    cases blocked

end Sanction

section Run

variable [LawfulStore σ] {capacity : Engine.ResourceCapacity} {start : System σ}
  {actions : List Action} {state next : Equipped σ} {index : Nat} {input : Input}
  {thread : Thread} {result : Step σ} {id : TaskId}

structure Warranted (capacity : Engine.ResourceCapacity) (start : System σ)
    (actions : List Action) (state : Equipped σ) : Prop where
  reached : runActions System.step start actions = some state.system
  orderly : Orderly state.system
  vetted : Vetted capacity state
  config : state.system.config = start.config
  failed : ∀ entry ∈ state.system.threads.flatMap Thread.retrying,
    FailedRetryably start actions entry.1 entry.2
  sanctioned : ∀ id, Holds (Sanctioned start actions start.config.maxAttempts (Barred state))
    (state.system.recordOf id)

/-- A task that was started before is blocked only when starts are barred. -/
theorem blocked_barred {scan : Scan} {summary : TaskSummary} {reason : String} {task : StoredTask}
    (orderly : Orderly state.system) (vetted : Vetted capacity state)
    (lookup : state.system.threads[index]? =
      some (.scheduler (.markBlocked scan summary reason)))
    (present : state.system.recordOf summary.id = some task) :
    task.summary.attempt = 0 ∨ Barred state := by
  refine (vetted.eligible summary.id task present).imp_right fun eligible => ?_
  have same := (orderly.timely.listing lookup rfl mem_cons_self present).2.1
  have judged := vetted.judged (summary, false)
    (mem_tokens lookup (mem_singleton_self _))
  exact barred_of_blocking orderly.ledger.staff (judged (eligible.of_same same.symm)) lookup

theorem sanctioned_written {summary : TaskSummary} {command : TransitionCommand}
    {task later : StoredTask} {barred : Prop} (warranted : Warranted capacity start actions state)
    (taken : state.system.step (.thread index input) = some (state.system.moved index result))
    (still : Barred state → barred) (lookup : state.system.threads[index]? = some thread)
    (next : thread.nextTransition state.system.config input = some (summary, command))
    (present : state.system.recordOf id = some task) (same : command.id = id)
    (matched : TransitionMatches task.summary command)
    (left : (state.system.moved index result).recordOf id = some later)
    (written : TransitionedTo task.summary later.summary command) :
    Sanctioned start (actions ++ [.thread index input]) start.config.maxAttempts barred
      later.summary := by
  have ledger := warranted.orderly.ledger
  have member : thread ∈ state.system.threads := mem_of_getElem? lookup
  have sanctioned := (warranted.sanctioned id task present).later still [.thread index input]
  obtain ⟨held, commandOn, -⟩ := next_transition_cases (ledger.wf thread member) next
  have heldHere : summary ∈ state.system.held := mem_tokens lookup held
  have own : summary.id = id := commandOn.id.symm.trans same
  have version : summary.stateVersion = task.summary.stateVersion :=
    commandOn.version.symm.trans matched.1.symm
  rcases written with ⟨room, shape⟩ | ⟨full, shape⟩
  · have live : ¬ Exhausted task.summary := Nat.not_le.mpr room
    have agree : Agree summary task.summary := by
      rcases (ledger.books.follows summary heldHere task (by rw [own]; exact present)).agree
        version with agree | exhausted
      · exact agree
      · exact (live exhausted).elim
    cases next_rewrites (ledger.wf thread member) (warranted.orderly.mild thread member) next with
    | settles terminal =>
      rw [shape]
      exact sanctioned_active sanctioned.bounded (.inr terminal)
    | annotates running =>
      rw [shape]
      exact sanctioned_active sanctioned.bounded (.inl running)
    | resumes queued blocked =>
      rw [shape]
      apply sanctioned_resumed sanctioned live ?_ queued
      rw [← agree.1]
      exact blocked
    | retries started completion place form again =>
      subst place
      subst form
      cases same
      have retryable : completion.retryable = true := by
        simp only [RunTask.retries, Bool.and_eq_true] at again
        exact again.1.1
      have failed : FailedRetryably start actions started.id started.attempt :=
        warranted.failed (started.id, started.attempt)
          (mem_tokens lookup (by simp [Thread.retrying, retryable]))
      rw [← warranted.config]
      exact sanctioned_retried warranted.reached taken ledger lookup failed again present agree
        left shape
    | blocks scan reason place form =>
      subst place
      subst form
      cases own
      have queued : task.summary.state = .queued := by
        rw [← agree.1]
        exact ledger.wf _ member summary held
      rw [shape]
      exact sanctioned_blocked sanctioned live queued
        ((blocked_barred warranted.orderly warranted.vetted lookup present).imp_right still)
    | recovers rest after place =>
      -- Recovery is over before there is a record.
      subst place
      have closed : state.system.core.ready = false := by
        by_contra opened
        exact ledger.staff.recovered (by simpa using opened) _ member
      rw [(warranted.orderly.unopened closed).1 id] at present
      cases present
  · rw [shape]
    exact ⟨sanctioned.bounded, fun live => (live full).elim, fun live => (live full).elim⟩

variable {action : Action}

section

variable (guard : WithoutRestart state.system action)
  (warranted : Warranted capacity start actions state)
  (served : Served capacity state action next)
include guard warranted served

theorem failed_service : ∀ entry ∈ next.system.threads.flatMap Thread.retrying,
    FailedRetryably start (actions ++ [action]) entry.1 entry.2 := by
  have retried : ∀ entry ∈ state.system.threads.flatMap Thread.retrying,
      FailedRetryably start (actions ++ [action]) entry.1 entry.2 :=
    fun entry member => (warranted.failed entry member).later _
  intro entry member
  rcases token_origin warranted.orderly.ledger guard.2 served.taken
      (fun call => by cases call <;> rfl) member with
    old | ⟨index, input, thread, result, rfl, lookup, stepped, renewed⟩ |
      ⟨input, thread, result, left, renewed⟩
  · exact retried entry old
  · rcases thread_retrying stepped renewed with
      passed | ⟨started, flag, error, rfl, rfl, returned, retryable⟩
    · exact retried entry (mem_tokens lookup passed)
    · exact ⟨error, took_now warranted.reached served.taken
        ⟨index, input, started, flag, rfl, lookup, rfl, rfl, returned⟩, retryable⟩
  · obtain ⟨thread, among, retries⟩ := mem_flatMap.mp renewed
    cases thread with
    | run task => exact (drop_no_run left task among).elim
    | _ => cases retries

theorem sanctioned_service (positive : 0 < start.config.maxAttempts) (id : TaskId) :
    Holds (Sanctioned start (actions ++ [action]) start.config.maxAttempts (Barred next))
      (next.system.recordOf id) := by
  have ledger := warranted.orderly.ledger
  have still := barred_step ledger guard.2 served
  have before : Holds (Sanctioned start (actions ++ [action]) start.config.maxAttempts
      (Barred next)) (state.system.recordOf id) :=
    fun task present => (warranted.sanctioned id task present).later still _
  generalize Barred next = barred at still before ⊢
  obtain ⟨system, engine⟩ := next
  cases step_change ledger served.taken with
  | stepped lookup stepped =>
    apply holds_moved_by ledger lookup (ledger.footprint lookup stepped).deed before
    · exact fun _ _ _ => ⟨Nat.zero_le _, fun _ _ => ⟨positive, .inl rfl⟩,
        fun _ blocked => by cases blocked⟩
    · intro scan summary task _ _ present queued room
      exact sanctioned_starts (before task present) queued room _
    · intro summary command task later next present same matched left written
      exact sanctioned_written warranted served.taken still lookup next present same matched
        left written
  | dropped lookup left => exact before.of_eq (drop_records left _)
  | aside unmoved =>
    exact unmoved.holds id
      (fun _ _ known => ⟨known.bounded, known.waiting, known.cleared⟩) before
  | restart config => exact (guard.2 config rfl).elim

theorem warranted_service [PagedStore σ] (positive : 0 < start.config.maxAttempts) :
    Warranted capacity start (actions ++ [action]) next where
  reached := run_snoc_eq_some.mpr ⟨_, warranted.reached, served.taken⟩
  orderly := orderly_step guard warranted.orderly served.taken
  vetted := vetted_step warranted.orderly guard.2 served warranted.vetted
  config :=
    (step_config warranted.orderly.ledger guard.2 served.taken).trans warranted.config
  failed := failed_service guard warranted served
  sanctioned := sanctioned_service guard warranted served positive

end

theorem warranted_engine {action : Engine.EngineAction}
    (warranted : Warranted capacity start actions state)
    (stepped : state.step capacity (.engine action) = some next) :
    Warranted capacity start actions next := by
  obtain ⟨engine, taken, rfl⟩ := Option.map_eq_some_iff.mp stepped
  have spent := fun spent => Engine.spent_step spent taken
  refine { warranted with vetted := ⟨?_, warranted.vetted.eligible⟩, sanctioned := ?_ }
  · exact fun entry member => (warranted.vetted.judged entry member).later spent
  · intro id task present
    have still : Barred state → Barred { state with engine } :=
      fun barred => ⟨spent barred.1, barred.2⟩
    have sanctioned := (warranted.sanctioned id task present).later still []
    rwa [append_nil] at sanctioned

end Run

section Beginnings

variable [LawfulStore σ] {system next : System σ} {index : Nat} {input : Input}
  {thread : Thread} {result : Step σ} {id : TaskId} {attempt : Nat}

def Begins (system next : System σ) (id : TaskId) (attempt : Nat) : Prop :=
  ¬ Present (fun summary => summary.attempt = attempt) (system.recordOf id) ∧
    Present (fun summary => summary.attempt = attempt) (next.recordOf id)

instance (system next : System σ) (id : TaskId) (attempt : Nat) :
    Decidable (Begins system next id attempt) :=
  inferInstanceAs (Decidable (¬ Present _ _ ∧ Present _ _))

omit [LawfulStore σ] in
theorem Begins.differs (begins : Begins system next id attempt) :
    Holds (fun summary => summary.attempt ≠ attempt) (system.recordOf id) :=
  fun task present counted => begins.1 ⟨task, present, counted⟩

omit [LawfulStore σ] in
theorem Begins.contradicts (begins : Begins system next id attempt)
    (differs : Holds (fun summary => summary.attempt ≠ attempt) (next.recordOf id)) : False := by
  obtain ⟨task, present, counted⟩ := begins.2
  exact differs task present counted

structure StartsAttempt (system : System σ) (thread : Thread) (id : TaskId) (attempt : Nat)
    (scan : Scan) (summary : TaskSummary) (task : StoredTask) : Prop where
  place : thread = .scheduler (.start scan summary)
  own : summary.id = id
  present : system.recordOf id = some task
  queued : task.summary.state = .queued
  version : summary.stateVersion = task.summary.stateVersion
  room : task.summary.stateVersion + 1 < u64Bound
  counted : task.summary.attempt + 1 = attempt

theorem begun_by_start (ledger : Ledger system) (lookup : system.threads[index]? = some thread)
    (deed : system.Deed input thread result) (positive : 0 < attempt)
    (begins : Begins system (system.moved index result) id attempt) :
    ∃ scan summary task, StartsAttempt system thread id attempt scan summary task := by
  by_cases starting : ∃ scan summary, thread = .scheduler (.start scan summary)
  · have unmoved : (system.moved index result).recordOf id = system.recordOf id → False :=
      fun same => begins.contradicts (begins.differs.of_eq same)
    obtain ⟨scan, summary, rfl⟩ := starting
    cases @deed_effect _ _ _ system index _ _ result ledger.valid deed with
    | same unchanged => exact (unmoved (unchanged id)).elim
    | transition _ _ next => cases next
    | accepted _ _ _ place => cases place
    | started _ _ answer place effect =>
      cases place
      by_cases own : summary.id = id
      · subst own
        cases effect with
        | rejected error unchanged => exact (unmoved (unchanged _)).elim
        | attemptExhausted task error held queued room stored others =>
          exfalso
          apply begins.contradicts
          intro later present
          rw [show (system.moved index result).recordOf summary.id = _ from stored] at present
          cases present
          exact begins.differs task held
        | started task held queued version room stored others =>
          obtain ⟨later, present, counted⟩ := begins.2
          rw [show (system.moved index result).recordOf summary.id = _ from stored] at present
          cases present
          exact ⟨scan, summary, task, rfl, rfl, held, queued, version.symm, room, counted⟩
      · cases effect with
        | rejected error unchanged => exact (unmoved (unchanged _)).elim
        | attemptExhausted task error held queued room stored others
        | started task held queued version room stored others =>
          exact (unmoved (others id (Ne.symm own))).elim
  · exfalso
    apply begins.contradicts
    apply holds_moved_by ledger lookup deed begins.differs
    · intro _ _ _ same
      exact Nat.ne_of_lt positive same
    · intro scan summary _ place
      exact (starting ⟨scan, summary, place⟩).elim
    · intro summary command task later _ present _ _ _ written
      have differs := begins.differs task present
      rcases written with ⟨-, shape⟩ | ⟨-, shape⟩
      · rw [shape]
        exact differs
      · rw [shape]
        exact differs

theorem begun_by_scheduler {action : Action} (ledger : Ledger system)
    (stays : ∀ config, action ≠ .restart config) (taken : system.step action = some next)
    (positive : 0 < attempt) (begins : Begins system next id attempt) :
    ∃ index input scan summary task, action = .thread index input ∧
      system.threads[index]? = some (.scheduler (.start scan summary)) ∧
      StartsAttempt system (.scheduler (.start scan summary)) id attempt scan summary task := by
  cases step_change ledger taken with
  | @stepped index input thread result lookup stepped =>
    obtain ⟨scan, summary, task, starts⟩ := begun_by_start ledger lookup
      (ledger.footprint lookup stepped).deed positive begins
    cases starts.place
    exact ⟨index, input, scan, summary, task, rfl, lookup, starts⟩
  | dropped lookup left =>
    exact (begins.contradicts (begins.differs.of_eq (drop_records left _))).elim
  | aside unmoved =>
    exact (begins.contradicts
      (unmoved.holds id (fun _ _ differs => differs) begins.differs)).elim
  | restart config => exact (stays config rfl).elim

/-- A later attempt starts from a record that its requeue has left queued until a deadline, and
the scan has read a time that is not before it. -/
theorem start_due {capacity : Engine.ResourceCapacity} {start : System σ} {actions : List Action}
    {state : Equipped σ} {scan : Scan} {summary : TaskSummary} {task : StoredTask}
    (warranted : Warranted capacity start actions state)
    (lookup : state.system.threads[index]? = some (.scheduler (.start scan summary)))
    (starts : StartsAttempt state.system (.scheduler (.start scan summary)) id attempt scan summary
      task) (second : 2 ≤ attempt) :
    ∃ deadline, Requeued start actions id (attempt - 1) deadline ∧ deadline ≤ scan.now := by
  have live : ¬ Exhausted task.summary := Nat.not_le.mpr starts.room
  have named : task.summary.id = id := LawfulStore.get_id state.system.core.store id task
    warranted.orderly.ledger.valid starts.present
  have counted : task.summary.attempt = attempt - 1 := by
    have following := starts.counted
    omega
  obtain ⟨-, first | ⟨deadline, requeued, still | barred⟩⟩ :=
    (warranted.sanctioned id task starts.present).waiting live (.inl (by rw [starts.queued]; rfl))
  · omega
  · rw [named, counted] at requeued
    obtain ⟨due, shows⟩ := warranted.orderly.timely.listing lookup rfl mem_cons_self
      (by rw [starts.own]; exact starts.present)
    have sameDeadline : summary.retryNotBeforeMs = task.summary.retryNotBeforeMs := by
      rcases shows.2.agree starts.version with same | full
      · exact same
      · exact (live full).elim
    exact ⟨deadline, requeued, due deadline (sameDeadline.trans still)⟩
  · exact (barred.2 summary (mem_flatMap.mpr
      ⟨_, mem_of_getElem? lookup, mem_singleton_self _⟩)).elim

end Beginnings

/-- No record stands above the limit.  A second or later attempt is begun by a scan, after the
attempt before it was requeued with a deadline, and the scan has read a time not before it. -/
structure AttemptsJustified (start : System σ) (actions : List Action) (final : System σ) :
    Prop where
  bounded : ∀ id, Holds (fun summary => summary.attempt ≤ start.config.maxAttempts)
    (final.recordOf id)
  justified : ∀ before action after system next id attempt,
    actions = before ++ action :: after → runActions System.step start before = some system →
    system.step action = some next → Begins system next id attempt → 2 ≤ attempt →
    ∃ index input scan summary deadline, action = .thread index input ∧
      system.threads[index]? = some (.scheduler (.start scan summary)) ∧ summary.id = id ∧
      Requeued start before id (attempt - 1) deadline ∧ deadline ≤ scan.now

variable [LawfulStore σ] [PagedStore σ]

theorem warranted_run (capacity : Engine.ResourceCapacity) (engine : Engine.EngineState)
    (config : Config) (store : σ) (knownIds : List TaskId) (valid : Valid store)
    (empty : ∀ id, getEncodedTask store id = none) (positive : 0 < config.maxAttempts)
    {actions : List EquippedAction} {final : Equipped σ}
    (guarded : Guarded System.step WithoutRestart (System.boot config store knownIds)
      (serviced actions))
    (reached : runActions (Equipped.step capacity)
      { system := System.boot config store knownIds, engine } actions = some final) :
    Warranted capacity (System.boot config store knownIds) (serviced actions) final := by
  induction actions using List.reverseRecOn generalizing final with
  | nil =>
    cases reached
    exact ⟨rfl, orderly_boot valid empty,
      ⟨forall_mem_nil _, fun id => Holds.of_absent (empty id)⟩, rfl, forall_mem_nil _,
      fun id => Holds.of_absent (empty id)⟩
  | append_singleton earlier action ih =>
    obtain ⟨middle, passed, taken⟩ := run_snoc_eq_some.mp reached
    rw [serviced, filterMap_append] at guarded ⊢
    obtain ⟨before, last⟩ := guarded_append guarded (serviced_run passed)
    have warranted := ih before passed
    cases action with
    | service action => exact warranted_service last.1 warranted (served_of_step taken) positive
    | engine action =>
      rw [show [EquippedAction.engine action].filterMap EquippedAction.serviced = [] from rfl,
        append_nil]
      exact warranted_engine warranted taken

/-- In one lifetime of a service that starts on an empty store, attempts are bounded and every
attempt after the first is justified by how the one before it ended. -/
theorem attempts_justified (capacity : Engine.ResourceCapacity) (engine : Engine.EngineState)
    (config : Config) (store : σ) (knownIds : List TaskId) (valid : LawfulStore.Valid store)
    (empty : ∀ id, TaskStore.getEncodedTask store id = none) (positive : 0 < config.maxAttempts)
    (actions : List EquippedAction) (final : Equipped σ)
    (fresh : Guarded System.step FreshIds (System.boot config store knownIds) (serviced actions))
    (stays : ∀ other, EquippedAction.service (.restart other) ∉ actions)
    (reached : runActions (Equipped.step capacity)
      { system := System.boot config store knownIds, engine } actions = some final) :
    AttemptsJustified (System.boot config store knownIds) (serviced actions) final.system := by
  have guarded : Guarded System.step WithoutRestart (System.boot config store knownIds)
      (serviced actions) := by
    apply without_restart fresh
    intro other member
    obtain ⟨action, among, same⟩ := mem_filterMap.mp member
    cases action with
    | service action =>
      cases same
      exact stays other among
    | engine action => cases same
  refine ⟨?_, ?_⟩
  · intro id task present
    have warranted := warranted_run capacity engine config store knownIds valid empty positive
      guarded reached
    exact (warranted.sanctioned id task present).bounded
  · intro before action after system next id attempt split passed taken begins second
    obtain ⟨earlier, later, rfl, rfl, rest⟩ := filterMap_eq_append_iff.mp split
    rw [run_append] at reached
    obtain ⟨state, halfway, -⟩ := Option.bind_eq_some_iff.mp reached
    cases passed.symm.trans (serviced_run halfway)
    rw [serviced, filterMap_append, rest] at guarded
    obtain ⟨guardedBefore, guard, -⟩ := guarded_append guarded (serviced_run halfway)
    have warranted := warranted_run capacity engine config store knownIds valid empty positive
      guardedBefore halfway
    obtain ⟨index, input, scan, summary, task, rfl, lookup, starts⟩ := begun_by_scheduler
      warranted.orderly.ledger guard.2 taken (Nat.lt_of_lt_of_le Nat.zero_lt_two second) begins
    obtain ⟨deadline, requeued, due⟩ := start_due warranted lookup starts second
    exact ⟨index, input, scan, summary, deadline, rfl, lookup, starts.own, requeued, due⟩

section Samples

/-- The first attempt of the sample fails at time 0 and is requeued until time 1; a scan at
time 1 lists it and comes to its verdict. -/
def sampleDue : List Action :=
  sampleRetry ++ threadSteps [5, 5] ++ threadSteps (List.replicate 6 0) ++
  [.thread 0 { now := 1 }] ++
    threadSteps (List.replicate 6 0)

/-- The scan starts the second attempt. -/
theorem attempts_justified_sample :
    let start := sampleSystem .cooperative
    let actions := (sampleDue ++ threadSteps [0, 0, 0, 0]).map EquippedAction.service
    ∃ final : Equipped MemoryTaskStore,
      runActions (Equipped.step Engine.sharedCapacity)
          { system := start, engine := Engine.EngineState.new } actions = some final ∧
        RunningAt (final.system.recordOf sampleId) 2 ∧
        AttemptsJustified start (serviced actions) final.system := by
  intro start actions
  refine run_shows (by decide +kernel) fun final reached _ => ?_
  apply attempts_justified _ _ _ _ _ (with_limits_valid ..) (with_limits_get 4 1024 4) (by decide)
    _ _ (by decide +kernel) ?_ reached
  intro other member
  simp [actions, sampleDue, sampleRetry, sampleStart, threadSteps] at member

end Samples

end TaskService.Service
