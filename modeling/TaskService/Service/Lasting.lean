import TaskService.Service.Ledger

/-!
# Facts that last

A fact lasts for a task when it holds of the task's record whenever the record is
there, and nobody will create the task again.  Such a fact outlives the record:
a task that was evicted or pruned does not come back to break it.

A record is closed when no start can apply to it any more and no writer of the service
reopens it.  Whatever a thread does, a task whose record is closed or gone stays that way.
-/

namespace TaskService.Service

open Library Model Store List

variable {σ : Type} [TaskStore σ]

structure Lasting (fact : TaskSummary → Prop) (system : System σ) (id : TaskId) : Prop where
  known : id ∈ system.core.knownIds
  unborn : id ∉ system.pending
  holds : Holds fact (system.recordOf id)

section Stability

variable [LawfulStore σ] {system next : System σ} {index : Nat} {input : Input}
  {thread : Thread} {result : Step σ} {id : TaskId} {fact : TaskSummary → Prop}

theorem unborn_moved (ledger : Ledger system) (lookup : system.threads[index]? = some thread)
    (deed : system.Deed input thread result) (fresh : input.Fresh system.core)
    (known : id ∈ system.core.knownIds) (unborn : id ∉ system.pending) :
    id ∉ (system.moved index result).pending := by
  intro member
  have here : ∀ other, other ∈ thread.pending → other ∈ system.pending := fun other inside =>
    mem_tokens lookup inside
  rcases mem_pending_moved ledger lookup member with renewed | ⟨old, -⟩
  · cases deed with
    | quiet store same held pending owned => exact unborn (here id (pending.subset renewed))
    | generated minted generated store same held pending owned =>
      rw [pending] at renewed
      obtain rfl : id = minted := by simpa using renewed
      exact fresh id generated known
    | transition _ _ _ _ _ _ pending | started _ _ _ _ _ _ pending | accepted _ _ _ _ _ _ pending
    | published _ _ _ _ _ pending | archived _ _ _ _ pending =>
      rw [pending] at renewed
      cases renewed
  · exact unborn old

omit [LawfulStore σ] in
theorem known_moved (deed : system.Deed input thread result)
    (known : id ∈ system.core.knownIds) : id ∈ result.core.knownIds := by
  cases deed with
  | quiet _ same | transition _ _ _ _ same | started _ _ _ _ same | accepted _ _ _ _ same
  | published _ _ _ same | archived _ _ same =>
    rw [same]
    exact known
  | generated minted generated store same =>
    rw [same]
    exact mem_cons_of_mem _ known

theorem lasting_of_present (ledger : Ledger system) {task : StoredTask}
    (present : system.recordOf id = some task) (holds : Holds fact (system.recordOf id)) :
    Lasting fact system id := by
  refine ⟨ledger.books.knownRecords id (by simp [present]), ?_, holds⟩
  intro pending
  rw [ledger.books.absent id pending] at present
  cases present

section

variable (ledger : Ledger system) (lookup : system.threads[index]? = some thread)
  (deed : system.Deed input thread result) (fresh : input.Fresh system.core)
include ledger lookup deed fresh

theorem lasting_established {task : StoredTask} (present : system.recordOf id = some task)
    (holds : Holds fact ((system.moved index result).recordOf id)) :
    Lasting fact (system.moved index result) id := by
  obtain ⟨known, unborn, -⟩ := @lasting_of_present σ _ _ system id (fun _ => True) ledger task
    present (fun _ _ => trivial)
  exact ⟨known_moved deed known, unborn_moved ledger lookup deed fresh known unborn, holds⟩

theorem lasting_moved (lasting : Lasting fact system id)
    (starts : ∀ (summary : TaskSummary) (command : StartCommand), fact summary →
      summary.state = .queued → summary.stateVersion + 1 < u64Bound → Starts fact summary command)
    (survives : ∀ (summary : TaskSummary) (command : TransitionCommand) (task : StoredTask),
      thread.nextTransition system.config input = some (summary, command) →
      system.recordOf id = some task → command.id = id →
      TransitionMatches task.summary command → Survives fact task.summary command) :
    Lasting fact (system.moved index result) id :=
  ⟨known_moved deed lasting.known,
    unborn_moved ledger lookup deed fresh lasting.known lasting.unborn,
    holds_moved ledger lookup deed lasting.unborn lasting.holds starts survives⟩

end

omit [LawfulStore σ] in
theorem Lasting.frame (lasting : Lasting fact system id)
    (known : next.core.knownIds = system.core.knownIds) (pending : next.pending ⊆ system.pending)
    (holds : Holds fact (next.recordOf id)) : Lasting fact next id :=
  ⟨by rw [known]; exact lasting.known, fun member => lasting.unborn (pending member), holds⟩

variable {α : Type}

omit [TaskStore σ] [LawfulStore σ] in
theorem tokens_call (tokens : Thread → List α) {call : ClientCall}
    (nothing : tokens call.thread = []) :
    (system.threads ++ [call.thread]).flatMap tokens = system.threads.flatMap tokens := by
  simp [flatMap_append, nothing]

omit [TaskStore σ] [LawfulStore σ] in
theorem tokens_restart (tokens : Thread → List α) (booted : bootThreads.flatMap tokens = [])
    (detached : ∀ write, tokens (.detached write) = []) :
    (bootThreads ++ system.threads.filter Thread.isDetached).flatMap tokens = [] := by
  rw [flatMap_append, booted, nil_append, flatMap_eq_nil_iff]
  intro thread member
  obtain ⟨write, rfl⟩ := detached_of_kept member
  exact detached write

/-- What an action does that moves no thread: it begins a client call, sets flags, reports
progress or prunes. -/
structure Aside (system next : System σ) : Prop where
  config : next.config = system.config
  members : ∀ thread ∈ next.threads,
    thread ∈ system.threads ∨ ∃ call, thread = ClientCall.thread call
  tokens : ∀ {α : Type} (tokens : Thread → List α), (∀ call : ClientCall, tokens call.thread = []) →
    next.threads.flatMap tokens = system.threads.flatMap tokens
  known : next.core.knownIds = system.core.knownIds
  ready : next.core.ready = system.core.ready
  trace : next.core.trace = system.core.trace
  fault : next.core.fault = system.core.fault
  flights : next.core.flights = system.core.flights
  entries : next.core.externalCancellations = system.core.externalCancellations
  flags : next.core.flags = system.core.flags
  cancellations : next.core.cancellations = system.core.cancellations
  holds : ∀ {fact : TaskSummary → Prop} (id : TaskId),
    (∀ summary snapshot, fact summary → fact { summary with progress := some snapshot }) →
    Holds fact (system.recordOf id) → Holds fact (next.recordOf id)
  present : ∀ {fact : TaskSummary → Prop} (id : TaskId), OfLive fact →
    (∀ summary snapshot, fact summary → fact { summary with progress := some snapshot }) →
    Present fact (system.recordOf id) → Present fact (next.recordOf id)
  evolves : ∀ {rel : TaskSummary → TaskSummary → Prop}, Revision rel → ∀ id,
    EvolvesBy rel (system.recordOf id) (next.recordOf id)

inductive Change (system : System σ) : Action → System σ → Prop
  | stepped {index : Nat} {input : Input} {thread : Thread} {result : Step σ}
      (lookup : system.threads[index]? = some thread)
      (taken : thread.step system.config system.core input = some result) :
      Change system (.thread index input) (system.moved index result)
  | dropped {index : Nat} {input : Input} {issued : Bool} {thread : Thread} {result : Step σ}
      (lookup : system.threads[index]? = some thread)
      (left : Dropped system.core thread input result) :
      Change system (.drop index input issued) (system.moved index result)
  | aside {action : Action} {next : System σ} (unmoved : Aside system next) :
      Change system action next
  | restart (config : Config) :
      Change system (.restart config) (system.restarted config)

theorem step_change {action : Action} (ledger : Ledger system)
    (taken : system.step action = some next) : Change system action next := by
  cases step_move taken with
  | stepped lookup stepped =>
    exact .stepped lookup stepped
  | dropped lookup left =>
    exact .dropped lookup left
  | call call ready =>
    refine .aside ⟨rfl, ?_, fun tokens nothing => tokens_call tokens (nothing call), rfl, rfl,
      rfl, rfl, rfl, rfl, rfl, rfl, fun _ _ holds => holds, fun _ _ _ present => present,
      fun revision _ => revision.of_eq rfl⟩
    intro thread member
    exact (mem_append.mp member).imp_right fun new => ⟨call, mem_singleton.mp new⟩
  | flags keeps =>
    exact .aside ⟨rfl, fun _ => Or.inl, fun _ _ => rfl, rfl, rfl, rfl, rfl, rfl, rfl, rfl,
      rfl, fun _ _ holds => holds,
      fun _ _ _ present => present, fun revision _ => revision.of_eq rfl⟩
  | progress command =>
    have effect := LawfulStore.progress_effect system.core.store command ledger.valid
    exact .aside ⟨rfl, fun _ => Or.inl, fun _ _ => rfl, rfl, rfl, rfl, rfl, rfl, rfl, rfl,
      rfl,
      fun _ reported holds => holds.progress effect reported,
      fun _ _ reported present => present.progress effect reported,
      fun revision => revision.progress effect⟩
  | prune cutoff maxRows =>
    have kept := LawfulStore.prune_effect system.core.store cutoff maxRows ledger.valid
    exact .aside ⟨rfl, fun _ => Or.inl, fun _ _ => rfl, rfl, rfl, rfl, rfl, rfl, rfl, rfl,
      rfl, fun id _ holds => holds.kept (kept id),
      fun id live _ present => present.kept live (kept id),
      fun revision id => revision.kept (kept id)⟩
  | restart config => exact .restart config

section

variable (unmoved : Aside system next)

include unmoved

omit [LawfulStore σ] in
theorem Aside.pending : next.pending ⊆ system.pending := by
  rw [System.pending, unmoved.tokens Thread.pending fun call => by cases call <;> rfl]
  exact List.Subset.refl _

omit [LawfulStore σ] in
theorem Aside.running (id : TaskId) (attempt : Nat)
    (running : RunningAt (system.recordOf id) attempt) : RunningAt (next.recordOf id) attempt :=
  unmoved.present id (running_of_live attempt) (fun _ _ known => known) running

omit [LawfulStore σ] in
theorem Lasting.aside (lasting : Lasting fact system id)
    (reported : ∀ summary snapshot, fact summary →
      fact { summary with progress := some snapshot }) :
    Lasting fact next id :=
  lasting.frame unmoved.known unmoved.pending (unmoved.holds id reported lasting.holds)

end

end Stability

/-- The actions of one service: identifiers are fresh and nothing restarts. -/
abbrev WithoutRestart (system : System σ) (action : Action) : Prop :=
  FreshIds system action ∧ ∀ config, action ≠ .restart config

theorem without_restart {system : System σ} {actions : List Action}
    (fresh : Guarded System.step FreshIds system actions)
    (stays : ∀ config, Action.restart config ∉ actions) :
    Guarded System.step WithoutRestart system actions := by
  apply guarded_and_of_mem fresh
  rintro action member config rfl
  exact stays config member

def Closed (summary : TaskSummary) : Prop :=
  summary.state.isTerminal = true ∨
    (summary.cancelRequested = true ∧ (summary.state ≠ .queued ∨ Exhausted summary))

abbrev Sealed (record : Option StoredTask) : Prop := Holds Closed record

variable {summary : TaskSummary}

theorem Closed.not_startable (closed : Closed summary) (queued : summary.state = .queued) :
    u64Bound ≤ summary.stateVersion + 1 := by
  rcases closed with terminal | ⟨-, started | exhausted⟩
  · rw [queued] at terminal
    cases terminal
  · exact (started queued).elim
  · exact exhausted

theorem Closed.starts (command : StartCommand) (closed : Closed summary)
    (queued : summary.state = .queued) (room : summary.stateVersion + 1 < u64Bound) :
    Starts Closed summary command := by
  have full := closed.not_startable queued
  omega

theorem Closed.survives {command : TransitionCommand} (closed : Closed summary)
    (matched : TransitionMatches summary command)
    (closes : ¬ Exhausted summary → summary.state ≠ .queued → summary.cancelRequested = true →
      command.state.isTerminal = true ∨
        (command.state ≠ .queued ∧ command.cancelRequested = true)) :
    Survives Closed summary command := by
  refine ⟨?_, ?_⟩
  · intro room
    have live : ¬ Exhausted summary := Nat.not_le.mpr room
    rcases closed with terminal | ⟨requested, started | exhausted⟩
    · exact .inl (matched.keeps_terminal terminal)
    · rcases closes live started requested with terminal | ⟨open_, kept⟩
      · exact .inl terminal
      · exact .inr ⟨kept, .inl open_⟩
    · exact (live exhausted).elim
  · intro full
    rcases closed with terminal | ⟨requested, -⟩
    · exact .inl (matched.keeps_terminal terminal)
    · exact .inr ⟨requested, .inr full⟩

variable {σ : Type} [TaskStore σ]

/-- A task that exists or existed, that nobody will create again, and whose
record, if it is still there, is closed. -/
abbrev Settled (system : System σ) (id : TaskId) : Prop := Lasting Closed system id

section Stability

variable [LawfulStore σ] {system : System σ} {index : Nat} {input : Input} {thread : Thread}
  {result : Step σ} {id : TaskId}

theorem closed_survives (ledger : Ledger system)
    (lookup : system.threads[index]? = some thread) {summary : TaskSummary}
    {command : TransitionCommand} {task : StoredTask}
    (next : thread.nextTransition system.config input = some (summary, command))
    (present : system.recordOf id = some task) (same : command.id = id)
    (matched : TransitionMatches task.summary command) (closed : Closed task.summary) :
    Survives Closed task.summary command := by
  have member := List.mem_of_getElem? lookup
  obtain ⟨held, commandOn, -⟩ := next_transition_cases (ledger.wf thread member) next
  apply closed.survives matched
  intro live started requested
  have read : summary ∈ system.held := mem_tokens lookup held
  have named : summary.id = id := commandOn.id.symm.trans same
  have follows := ledger.books.follows summary read task (by rw [named]; exact present)
  have version : summary.stateVersion = task.summary.stateVersion :=
    commandOn.version.symm.trans matched.1.symm
  rcases follows.agree version with ⟨state, attempt, cancelled⟩ | exhausted
  · exact commandOn.seals (cancelled.trans requested) (by rw [state]; exact started)
  · exact (live exhausted).elim

theorem settled_moved (ledger : Ledger system) (lookup : system.threads[index]? = some thread)
    (deed : system.Deed input thread result) (fresh : input.Fresh system.core)
    (settled : Settled system id) : Settled (system.moved index result) id := by
  apply lasting_moved ledger lookup deed fresh settled
  · intro summary command closed queued room
    exact closed.starts command queued room
  · intro summary command task next present same matched
    exact closed_survives ledger lookup next present same matched (settled.holds task present)

end Stability

end TaskService.Service
