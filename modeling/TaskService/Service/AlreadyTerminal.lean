import TaskService.Service.Flights
import TaskService.Service.Lasting
import TaskService.Store.MemoryTaskStoreLaws

/-!
# Cancellations that report a finished task

A flight takes every record that does not show its attempt running for a
terminal one.  That is right as long as nobody takes the attempt back to the
queue between the caller's read of the running record and the flight's last
read.  A retryable failure does: `finish` requeues the task, and the caller is
told that a live task has finished.
-/

namespace TaskService.Service

open Library Model Store List

def HookPc.reads : HookPc → Bool
  | .load | .persist _ | .invoke | .awaitHook | .reload | .clearError _ | .failLoad _
  | .failRecord _ _ => true
  | .conclude _ | .publish _ | .exit | .done => false

/-- Attempts a thread has seen running and will judge by another read. -/
def Thread.cancelling : Thread → List (TaskId × Nat)
  | .cancel { id, pc := .joinHook summary } => [(id, summary.attempt)]
  | .cancel { id, pc := .spawnHook summary _ } => [(id, summary.attempt)]
  | .hook task => if task.pc.reads then [(task.id, task.attempt)] else []
  | _ => []

def HookPc.denies : HookPc → Bool
  | .conclude .alreadyTerminal | .publish .alreadyTerminal => true
  | _ => false

/-- Tasks a flight has found terminal, as it thinks. -/
def Thread.denied : Thread → List TaskId
  | .hook task => if task.pc.denies then [task.id] else []
  | _ => []

theorem bystander_cancelling {thread : Thread} (bystander : thread.bystander = true) :
    thread.cancelling = [] ∧ thread.denied = [] := by
  cases thread <;> first | exact ⟨rfl, rfl⟩ | cases bystander

variable {σ : Type}

theorem cancel_denied (call : CancelCall) : (Thread.cancel call).denied = [] := rfl

variable [TaskStore σ]

/-- Where the attempts and verdicts of a step's threads come from. -/
structure Denies (core : Core σ) (thread : Thread) (result : Step σ) : Prop where
  cancelling : ∀ entry ∈ result.threads.flatMap Thread.cancelling,
    entry ∈ thread.cancelling ∨
      (RunningAt (core.recordOf entry.1) entry.2 ∧ result.core.store = core.store)
  denied : ∀ id ∈ result.threads.flatMap Thread.denied,
    id ∈ thread.denied ∨
      ∃ attempt task, (id, attempt) ∈ thread.cancelling ∧ core.recordOf id = some task ∧
        ¬ (task.summary.attempt = attempt ∧ task.summary.state = .running)

section Threads

variable {config : Config} {core : Core σ} {input : Input} {thread : Thread} {result : Step σ}

theorem cancel_idle_denies {after : Core σ} {call next : CancelCall}
    (idle : (Thread.cancel next).cancelling = []) :
    Denies core (.cancel call) ⟨after, .cancel next, []⟩ := by
  refine ⟨?_, ?_⟩
  · intro entry member
    simp [Step.threads, idle] at member
  · intro id member
    simp [Step.threads, cancel_denied] at member

theorem cancel_denies (call : CancelCall) (stepped : call.step config core input = some result) :
    Denies core (.cancel call) result := by
  obtain ⟨id, pc⟩ := call
  cases cancel_step_cases _ stepped with
  | enters | unfaulted | accepting | owning | waiting | requests | persisted | joins | leaves
  | landed =>
    exact cancel_idle_denies rfl
  | hooked task descriptor called running =>
    refine ⟨?_, fun other member => by simp [Step.threads, cancel_denied] at member⟩
    intro entry member
    obtain rfl : entry = (id, task.summary.attempt) := by
      simpa [Step.threads, Thread.cancelling] using member
    right
    exact ⟨⟨task, call_get_record called, running, rfl⟩, rfl⟩
  | opens summary =>
    refine ⟨?_, fun other member => by simp [Step.threads, cancel_denied] at member⟩
    intro entry member
    left
    simpa [Step.threads, Thread.cancelling] using member
  | spawns =>
    refine ⟨?_, fun other member => by
      simp [Step.threads, Thread.denied, HookPc.denies] at member⟩
    intro entry member
    left
    simpa [Step.threads, Thread.cancelling, HookPc.reads] using member
  | _ =>
    exact cancel_idle_denies rfl

theorem hook_passes_denies {task : HookTask} {after : Core σ} {pc : HookPc}
    (reads : pc.reads = true → task.pc.reads = true)
    (denies : pc.denies = true → task.pc.denies = true) :
    Denies core (.hook task) ⟨after, .hook { task with pc := pc }, []⟩ := by
  refine ⟨?_, ?_⟩
  · intro entry member
    simp only [Step.threads, Thread.cancelling, flatMap_cons, flatMap_nil, append_nil] at member
    split at member
    · rename_i reading
      left
      simpa [Thread.cancelling, reads reading] using member
    · cases member
  · intro id member
    simp only [Step.threads, Thread.denied, flatMap_cons, flatMap_nil, append_nil] at member
    split at member
    · rename_i denying
      left
      simpa [Thread.denied, denies denying] using member
    · cases member

theorem hook_reading_denies {task : HookTask} (disappeared : String)
    (running : TaskSummary → HookPc) (reads : task.pc.reads = true)
    (silent : ∀ summary, (running summary).denies = false) :
    Denies core (.hook task) (task.reading core input disappeared running) := by
  unfold HookTask.reading
  simp only
  split
  · exact hook_passes_denies (fun _ => reads) (fun now => by cases now)
  · exact hook_passes_denies (fun _ => reads) (fun now => by cases now)
  · rename_i stored called
    split
    · exact hook_passes_denies (fun _ => reads) (fun now => by rw [silent] at now; cases now)
    · rename_i judged
      refine ⟨fun entry member => by simp [Step.threads, Thread.cancelling, HookPc.reads] at member,
        ?_⟩
      intro id member
      obtain rfl : id = task.id := by
        simpa [Step.threads, Thread.denied, HookPc.denies] using member
      right
      refine ⟨task.attempt, stored, by simp [Thread.cancelling, reads], call_get_record called, ?_⟩
      intro running
      exact judged ((still_running_iff task stored.summary).mpr running)

theorem hook_writing_denies {task : HookTask} (command : TransitionCommand)
    (written again : HookPc) (reads : task.pc.reads = true) (writtenSilent : written.denies = false)
    (againSilent : again.denies = false) :
    Denies core (.hook task) (task.writing core input command written again) := by
  unfold HookTask.writing
  split
  · exact hook_passes_denies (fun _ => reads) (fun now => by rw [writtenSilent] at now; cases now)
  · split
    · exact hook_passes_denies (fun _ => reads) (fun now => by rw [againSilent] at now; cases now)
    · exact hook_passes_denies (fun _ => reads) (fun now => by cases now)

theorem hook_denies (task : HookTask) (stepped : task.step config core input = some result) :
    Denies core (.hook task) result := by
  obtain ⟨id, attempt, kindId, flight, pc⟩ := task
  cases hook_step_cases _ stepped with
  | loads | reloads =>
    apply hook_reading_denies _ _ rfl
    intro summary
    split <;> rfl
  | failureLoads message => exact hook_reading_denies _ _ rfl (fun _ => rfl)
  | persists | clears | failureRecords =>
    exact hook_writing_denies _ _ _ rfl rfl rfl
  | unavailable | interrupted | invokes | returns | fails =>
    exact hook_passes_denies (fun _ => rfl) (fun now => by cases now)
  | concludes answer =>
    apply hook_passes_denies (fun now => by cases now)
    cases answer <;> exact fun now => now
  | publishes | exits =>
    exact hook_passes_denies (fun now => by cases now) (fun now => by cases now)

theorem denies_of_bystanders (bystanders : result.threads.all Thread.bystander = true) :
    Denies core thread result := by
  have idle : ∀ next ∈ result.threads, next.cancelling = [] ∧ next.denied = [] :=
    fun next among => bystander_cancelling (all_eq_true.mp bystanders next among)
  refine ⟨?_, ?_⟩
  · intro entry member
    obtain ⟨next, among, inside⟩ := mem_flatMap.mp member
    rw [(idle next among).1] at inside
    cases inside
  · intro id member
    obtain ⟨next, among, inside⟩ := mem_flatMap.mp member
    rw [(idle next among).2] at inside
    cases inside

theorem thread_denies (stepped : thread.step config core input = some result) :
    Denies core thread result := by
  cases thread with
  | cancel call => exact cancel_denies call stepped
  | hook task => exact hook_denies task stepped
  | _ => exact denies_of_bystanders (bystanders_step rfl stepped)

end Threads

def IsTerminal (record : Option StoredTask) : Prop :=
  Present (fun summary => summary.state.isTerminal = true) record

instance (record : Option StoredTask) : Decidable (IsTerminal record) :=
  inferInstanceAs (Decidable (Present _ record))

/-- A running record is rewritten, ended or evicted by writers that do not take
it back to a waiting state. -/
theorem RunningAt.rewritten {before after : Records} {command : TransitionCommand}
    {answer : Except StoreError TaskSummary} {id : TaskId} {attempt : Nat}
    (running : RunningAt (before id) attempt)
    (effect : TransitionEffect before after command answer)
    (forward : ∀ task, before id = some task → command.id = id →
      TransitionMatches task.summary command →
      command.state = .running ∨ command.state.isTerminal = true) :
    RunningAt (after id) attempt ∨ IsTerminal (after id) ∨ after id = none := by
  obtain ⟨task, held, state, counted⟩ := running
  have live : task.summary.state.isTerminal = false := by rw [state]; rfl
  cases effect with
  | rejected error unchanged unmatched =>
    exact .inl ⟨task, (unchanged id).trans held, state, counted⟩
  | applied other found matched room stored others =>
    by_cases same : command.id = id
    · subst same
      rw [held] at found
      cases found
      rcases stored with stored | ⟨-, gone⟩
      · rcases forward task held rfl matched with keeps | ends
        · exact .inl ⟨_, stored, keeps, counted⟩
        · exact .inr (.inl ⟨_, stored, ends⟩)
      · exact .inr (.inr gone)
    · exact .inl ⟨task, (others id (Ne.symm same)).some_of_live held live, state, counted⟩
  | versionExhausted other found matched full stored others =>
    by_cases same : command.id = id
    · subst same
      rw [held] at found
      cases found
      rcases forward task held rfl matched with keeps | ends
      · exact .inl ⟨_, stored, keeps, counted⟩
      · exact .inr (.inl ⟨_, stored, ends⟩)
    · exact .inl ⟨task, (others id (Ne.symm same)).trans held, state, counted⟩

def System.cancelling (system : System σ) : List (TaskId × Nat) :=
  system.threads.flatMap Thread.cancelling

/-- Whether the transition a thread is about to write still matches the running
attempt and takes it back to a waiting state, as a retry does. -/
def System.requeues (system : System σ) (index : Nat) (input : Input) (entry : TaskId × Nat) :
    Bool :=
  match system.threads[index]?.bind (Thread.nextTransition system.config input),
      system.recordOf entry.1 with
  | some (_, command), some task =>
      decide (command.id = entry.1) && decide (task.summary.state = .running) &&
        decide (task.summary.attempt = entry.2) &&
        decide (TransitionMatches task.summary command) &&
        decide (command.state ≠ .running) && !command.state.isTerminal
  | _, _ => false

/-- No attempt is taken back to the queue while a cancellation that has seen it
running has another read to come. -/
def NoRequeue (system : System σ) : Action → Prop :=
  OnSteps fun index input =>
    ∀ entry ∈ system.cancelling, system.requeues index input entry = false

instance (system : System σ) (action : Action) : Decidable (NoRequeue system action) :=
  inferInstanceAs (Decidable (OnSteps _ action))

theorem forward_of_no_requeue {system : System σ} {index : Nat} {input : Input}
    {thread : Thread} {entry : TaskId × Nat} {summary : TaskSummary} {command : TransitionCommand}
    (lookup : system.threads[index]? = some thread)
    (next : thread.nextTransition system.config input = some (summary, command))
    (running : RunningAt (system.recordOf entry.1) entry.2)
    (quiet : system.requeues index input entry = false) :
    ∀ task, system.recordOf entry.1 = some task → command.id = entry.1 →
      TransitionMatches task.summary command →
      command.state = .running ∨ command.state.isTerminal = true := by
  intro task present same matched
  obtain ⟨found, shown, state, counted⟩ := running
  rw [present] at shown
  cases shown
  by_cases keeps : command.state = .running
  · exact .inl keeps
  · right
    simpa [System.requeues, lookup, next, present, same, state, counted, matched, keeps] using quiet

abbrev Gone (system : System σ) (id : TaskId) : Prop := Lasting (fun _ => False) system id

theorem Gone.absent {system : System σ} {id : TaskId} (gone : Gone system id) :
    system.recordOf id = none := by
  cases present : system.recordOf id with
  | none => rfl
  | some task => exact (gone.holds task present).elim

/-- An attempt that a cancellation has seen running is still running, or its
task has been terminal, or the record is gone. -/
def Live (was : TaskId → Prop) (system : System σ) (entry : TaskId × Nat) : Prop :=
  RunningAt (system.recordOf entry.1) entry.2 ∨ was entry.1 ∨ Gone system entry.1

section Stability

variable [LawfulStore σ] {system : System σ} {index : Nat} {input : Input} {thread : Thread}
  {result : Step σ} {was wasAfter : TaskId → Prop} {entry : TaskId × Nat}

section

variable (ledger : Ledger system) (lookup : system.threads[index]? = some thread)
  (deed : system.Deed input thread result)
include ledger lookup deed

theorem gone_moved (fresh : input.Fresh system.core)
    {id : TaskId} (gone : Gone system id) : Gone (system.moved index result) id := by
  apply lasting_moved ledger lookup deed fresh gone
  · exact fun summary command never => never.elim
  · exact fun summary command task next present => (gone.holds task present).elim

theorem running_moved (quiet : system.requeues index input entry = false)
    (running : RunningAt (system.recordOf entry.1) entry.2) :
    RunningAt ((system.moved index result).recordOf entry.1) entry.2 ∨
      IsTerminal ((system.moved index result).recordOf entry.1) ∨
      (system.moved index result).recordOf entry.1 = none := by
  cases @deed_effect _ _ _ system index input thread result ledger.valid deed with
  | same unchanged => exact .inl (running.of_eq (unchanged _))
  | transition summary command next effect =>
    exact running.rewritten effect (forward_of_no_requeue lookup next running quiet)
  | started scan summary answer place effect => exact .inl (running.start effect)
  | accepted other request answer place effect => exact .inl (running.accept effect)

theorem live_moved (fresh : input.Fresh system.core)
    (quiet : system.requeues index input entry = false) (older : ∀ id, was id → wasAfter id)
    (now : ∀ id, IsTerminal ((system.moved index result).recordOf id) → wasAfter id)
    (live : Live was system entry) : Live wasAfter (system.moved index result) entry := by
  rcases live with running | terminal | gone
  · rcases running_moved ledger lookup deed quiet running with kept | ended | vanished
    · exact .inl kept
    · exact .inr (.inl (now entry.1 ended))
    · obtain ⟨task, present, -, -⟩ := running
      exact .inr (.inr (lasting_established ledger lookup deed fresh present
        (Holds.of_absent vanished)))
  · exact .inr (.inl (older entry.1 terminal))
  · exact .inr (.inr (gone_moved ledger lookup deed fresh gone))

theorem live_unchanged (fresh : input.Fresh system.core)
    (store : result.core.store = system.core.store) (older : ∀ id, was id → wasAfter id)
    (live : Live was system entry) : Live wasAfter (system.moved index result) entry := by
  rcases live with running | terminal | gone
  · left
    apply running.of_eq
    simp only [System.recordOf, Core.recordOf, System.moved, store]
  · exact .inr (.inl (older entry.1 terminal))
  · exact .inr (.inr (gone_moved ledger lookup deed fresh gone))

end

end Stability

/-- Whoever says or will say that a task is terminal is right, where `was` holds
of the tasks that have been terminal so far. -/
structure Honest [LawfulStore σ] (was : TaskId → Prop) (system : System σ) : Prop where
  ledger : Ledger system
  book : FlightBook system
  now : ∀ id, IsTerminal (system.recordOf id) → was id
  live : ∀ entry ∈ system.cancelling, Live was system entry
  denied : ∀ id ∈ system.threads.flatMap Thread.denied, was id
  landed : ∀ (flight : Nat) (cell : Flight), system.core.flights[flight]? = some cell →
    cell.result = some .alreadyTerminal → was cell.owner.1
  returned : ∀ id, Event.cancelReturned id .alreadyTerminal ∈ system.core.trace → was id

section Run

variable [LawfulStore σ] {system next : System σ} {index : Nat} {input : Input}
  {thread : Thread} {result : Step σ} {was wasAfter : TaskId → Prop}

section

variable (honest : Honest was system) (lookup : system.threads[index]? = some thread)
include honest lookup

theorem denied_was {id : TaskId} {attempt : Nat} {task : StoredTask}
    (seen : (id, attempt) ∈ thread.cancelling) (present : system.recordOf id = some task)
    (judged : ¬ (task.summary.attempt = attempt ∧ task.summary.state = .running)) : was id := by
  have live := honest.live (id, attempt)
    (mem_tokens lookup seen)
  rcases live with ⟨found, shown, state, counted⟩ | terminal | gone
  · rw [present] at shown
    cases shown
    exact (judged ⟨counted, state⟩).elim
  · exact terminal
  · rw [gone.absent] at present
    cases present

theorem honest_moved (ledger : Ledger (system.moved index result))
    (cells : Cells system.core thread result) (denies : Denies system.core thread result)
    (older : ∀ id, was id → wasAfter id)
    (now : ∀ id, IsTerminal ((system.moved index result).recordOf id) → wasAfter id)
    (live : ∀ entry ∈ system.cancelling, Live wasAfter (system.moved index result) entry)
    (returned : ∀ id, Event.cancelReturned id .alreadyTerminal ∈ result.core.trace → was id) :
    Honest wasAfter (system.moved index result) := by
  have own : ∀ id, id ∈ thread.denied → was id := fun id denied =>
    honest.denied id (mem_tokens lookup denied)
  refine ⟨ledger, flight_book_moved honest.book lookup cells, now, ?_, ?_, ?_,
    fun id outcome => older id (returned id outcome)⟩
  · intro entry among
    rcases mem_tokens_advance Thread.cancelling among with
      renewed | ⟨_, other, _, found, seen⟩
    · rcases denies.cancelling entry renewed with seen | ⟨running, store⟩
      · exact live entry (mem_tokens lookup seen)
      · left
        apply running.of_eq
        simp only [System.recordOf, Core.recordOf, System.moved, store]
    · exact live entry (mem_tokens found seen)
  · intro id among
    apply older
    rcases mem_tokens_advance Thread.denied among with
      renewed | ⟨_, other, _, found, denied⟩
    · rcases denies.denied id renewed with denied | ⟨attempt, task, seen, present, judged⟩
      · exact own id denied
      · exact denied_was honest lookup seen present judged
    · exact honest.denied id (mem_tokens found denied)
  · intro flight cell found landed
    apply older
    rcases cells.results flight cell .alreadyTerminal found landed with
      old | ⟨task, rfl, publishing, rfl⟩
    · exact honest.landed flight cell old landed
    · obtain ⟨owned, present, named⟩ := cells.owned _ _ (honest.book.watched
        (task.flight, (task.id, task.attempt))
        (mem_tokens lookup (by simp [Thread.watches])))
      rw [show result.core.flights[task.flight]? = some cell from found] at present
      cases present
      rw [named]
      exact own task.id (by simp [Thread.denied, publishing, HookPc.denies])

theorem returned_was (stepped : thread.step system.config system.core input = some result)
    (id : TaskId) (member : Event.cancelReturned id .alreadyTerminal ∈ result.core.trace) :
    was id := by
  cases thread with
  | cancel call =>
    rcases cancel_returned call stepped member with old | ⟨rfl, returned⟩
    · exact honest.returned id old
    · cases returned with
      | read task outcome called judged store =>
        cases judged with
        | terminal terminal => exact honest.now call.id ⟨task, call_get_record called, terminal⟩
      | landed flight attempt answer outcome watching found told =>
        obtain ⟨cell, present, named⟩ := honest.book.watched (flight, (call.id, attempt))
          (mem_tokens lookup watching)
        rw [present] at found
        cases answer with
        | alreadyTerminal =>
          have terminal := honest.landed flight cell present found
          rw [named] at terminal
          exact terminal
        | success | hookFailed | serviceFailed => cases told
  | _ =>
    apply honest.returned id
    exact returned_source (thread_conduct stepped) (fun _ other => by cases other) member

end

theorem honest_aside (honest : Honest was system) (ledger : Ledger next) (book : FlightBook next)
    (older : ∀ id, was id → wasAfter id) (now : ∀ id, IsTerminal (next.recordOf id) → wasAfter id)
    (unmoved : Aside system next) : Honest wasAfter next where
  ledger
  book := book
  now := now
  live := by
    rw [System.cancelling, unmoved.tokens Thread.cancelling fun call => by cases call <;> rfl]
    intro entry member
    rcases honest.live entry member with running | terminal | gone
    · exact .inl (unmoved.running _ _ running)
    · exact .inr (.inl (older entry.1 terminal))
    · exact .inr (.inr (gone.aside unmoved fun _ _ absent => absent))
  denied := by
    rw [unmoved.tokens Thread.denied fun call => by cases call <;> rfl]
    exact fun id member => older id (honest.denied id member)
  landed := by
    rw [unmoved.flights]
    exact fun flight cell found landed => older _ (honest.landed flight cell found landed)
  returned := by
    rw [unmoved.trace]
    exact fun id member => older id (honest.returned id member)

theorem honest_step {action : Action} (fresh : FreshIds system action)
    (quiet : NoRequeue system action) (honest : Honest was system)
    (taken : system.step action = some next) (older : ∀ id, was id → wasAfter id)
    (now : ∀ id, IsTerminal (next.recordOf id) → wasAfter id) : Honest wasAfter next := by
  have ledger := ledger_step fresh honest.ledger taken
  have book := flight_book_step honest.book taken
  cases step_change honest.ledger taken with
  | stepped lookup stepped =>
    have footprint := honest.ledger.footprint lookup stepped
    apply honest_moved honest lookup ledger (thread_cells stepped) (thread_denies stepped) older
      now ?_ (returned_was honest lookup stepped)
    intro entry member
    exact live_moved honest.ledger lookup footprint.deed fresh (quiet entry member) older now
      (honest.live entry member)
  | dropped lookup left =>
    have footprint := honest.ledger.left_footprint lookup left
    apply honest_moved honest lookup ledger (drop_cells left)
      (denies_of_bystanders (drop_bystanders left)) older now ?_
      (fun id member => honest.returned id (drop_returned left member))
    intro entry member
    exact live_unchanged honest.ledger lookup footprint.deed (fun id minted => by cases minted)
      (drop_store left) older (honest.live entry member)
  | aside unmoved => exact honest_aside honest ledger book older now unmoved
  | restart config =>
    refine ⟨ledger, book, now, ?_, ?_, (fun flight cell found => by cases found), ?_⟩
    · intro entry member
      rw [System.cancelling, tokens_restart Thread.cancelling rfl (fun _ => rfl)] at member
      cases member
    · intro id member
      rw [tokens_restart Thread.denied rfl (fun _ => rfl)] at member
      cases member
    · intro id member
      exact older id (honest.returned id (by simpa [Core.boot] using member))

/-- Some state of the run, up to its end, showed the task terminal. -/
def WasTerminal (start : System σ) (actions : List Action) (id : TaskId) : Prop :=
  ∃ before after middle, actions = before ++ after ∧
    runActions System.step start before = some middle ∧ IsTerminal (middle.recordOf id)

omit [LawfulStore σ] in
theorem WasTerminal.later {start : System σ} {actions more : List Action} {id : TaskId}
    (was : WasTerminal start actions id) : WasTerminal start (actions ++ more) id :=
  PassedThrough.later was more

omit [LawfulStore σ] in
theorem was_terminal_now {start : System σ} {actions : List Action} {id : TaskId}
    (reached : runActions System.step start actions = some system)
    (terminal : IsTerminal (system.recordOf id)) : WasTerminal start actions id :=
  ⟨actions, [], system, (append_nil _).symm, reached, terminal⟩

theorem honest_boot {config : Config} {store : σ} {knownIds : List TaskId}
    (ledger : Ledger (System.boot config store knownIds)) :
    Honest (WasTerminal (System.boot config store knownIds) [])
      (System.boot config store knownIds) where
  ledger
  book := flight_book_boot
  now := fun id terminal => was_terminal_now rfl terminal
  live := fun entry member => by cases member
  denied := fun id member => by cases member
  landed := fun flight cell found => by cases found
  returned := fun id member => by cases member

/-- As long as no attempt is requeued under a cancellation that has seen it
running, `AlreadyTerminal` is only returned for tasks that have been terminal. -/
theorem already_terminal_of_no_requeue (config : Config) (store : σ) (knownIds : List TaskId)
    (valid : LawfulStore.Valid store)
    (known : ∀ id, TaskStore.getEncodedTask store id ≠ none → id ∈ knownIds)
    (actions : List Action) (final : System σ)
    (guarded : Guarded System.step (fun system action => FreshIds system action ∧
      NoRequeue system action) (System.boot config store knownIds) actions)
    (reached : runActions System.step (System.boot config store knownIds) actions = some final)
    (id : TaskId) (returned : Event.cancelReturned id .alreadyTerminal ∈ final.core.trace) :
    WasTerminal (System.boot config store knownIds) actions id := by
  have honest : Honest (WasTerminal (System.boot config store knownIds) actions) final := by
    apply @run_history _ _ System.step _ (System.boot config store knownIds)
      (fun actions system =>
        Honest (WasTerminal (System.boot config store knownIds) actions) system)
      (honest_boot (ledger_boot valid known)) ?_ _ _ guarded reached
    intro earlier system action next before guard honest taken
    have after : runActions System.step (System.boot config store knownIds)
        (earlier ++ [action]) = some next :=
      run_snoc_eq_some.mpr ⟨system, before, taken⟩
    exact honest_step guard.1 guard.2 honest taken (fun id => WasTerminal.later)
      (fun id => was_terminal_now after)
  exact honest.returned id returned

end Run

theorem not_was_terminal {start final : System σ} {actions : List Action} {id : TaskId}
    (live : Guarded System.step (fun system _ => ¬ IsTerminal (system.recordOf id)) start actions)
    (reached : runActions System.step start actions = some final)
    (lastLive : ¬ IsTerminal (final.recordOf id)) : ¬ WasTerminal start actions id := by
  rintro ⟨before, after, middle, rfl, passed, terminal⟩
  cases after with
  | nil =>
    rw [append_nil, passed] at reached
    cases reached
    exact lastLive terminal
  | cons => exact (guarded_append live passed).2.1 terminal

/-- A caller reads the running attempt; then the attempt ends as `execution`
says, before the caller's flight reads the record. -/
def sampleOvertaken (execution : HandlerExecution) : List Action :=
  sampleStart ++ [.call (.cancel sampleId)] ++ threadSteps [6, 6, 6, 6, 6] ++
    [.thread 5 { execution := execution }] ++ threadSteps [5, 5, 5] ++
    threadSteps [6, 6, 7, 7, 7, 6, 6]

/-- The attempt fails and is requeued, and the caller is told that the task,
which has never been terminal, is. -/
theorem already_terminal_of_requeued :
    ∃ final : System MemoryTaskStore,
      runActions System.step (sampleSystem .externalHook)
          (sampleOvertaken (.returned (.error
            { category := "io", message := "busy", retryable := true }))) = some final ∧
        Event.cancelReturned sampleId .alreadyTerminal ∈ final.core.trace ∧
        ¬ WasTerminal (sampleSystem .externalHook)
          (sampleOvertaken (.returned (.error
            { category := "io", message := "busy", retryable := true }))) sampleId := by
  obtain ⟨final, reached, checked⟩ := @run_of_check _ _ System.step (sampleSystem .externalHook)
    (sampleOvertaken (.returned (.error
      { category := "io", message := "busy", retryable := true })))
    (fun final =>
      decide (Event.cancelReturned sampleId .alreadyTerminal ∈ final.core.trace) &&
        decide (¬ IsTerminal (final.recordOf sampleId)))
    (by decide)
  simp only [Bool.and_eq_true, decide_eq_true_eq] at checked
  refine ⟨final, reached, checked.1, ?_⟩
  exact not_was_terminal (by decide) reached checked.2

/-- The attempt succeeds instead, and the same verdict of the flight is right. -/
theorem already_terminal_of_no_requeue_sample :
    ∃ final : System MemoryTaskStore,
      runActions System.step (sampleSystem .externalHook)
          (sampleOvertaken (.returned (.ok (.succeeded { summary := [] })))) = some final ∧
        Event.cancelReturned sampleId .alreadyTerminal ∈ final.core.trace ∧
        WasTerminal (sampleSystem .externalHook)
          (sampleOvertaken (.returned (.ok (.succeeded { summary := [] })))) sampleId := by
  refine run_shows (by decide) fun final reached returned => ?_
  exact already_terminal_of_no_requeue _ _ _ (with_limits_valid ..) (with_limits_known _ _ _ _) _ _
    (by decide) reached sampleId returned

end TaskService.Service
