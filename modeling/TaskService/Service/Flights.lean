import TaskService.Service.SharedCells

/-!
# Flights and who watches them

A flight is created for one attempt of one task.  Every thread that will read
or write its result, and every entry of the external cancellation map, refers
to the flight of its own attempt.

A `cancel` call returns an outcome that rests on a read, a write or a flight; no other
thread returns one.
-/

namespace TaskService.Service

open Library Model Store List

variable {σ : Type}

/-- The flight a thread waits for or drives, with the attempt it thinks it is of. -/
def Thread.watches : Thread → List (Nat × (TaskId × Nat))
  | .cancel { id, pc := .spawnHook summary flight } => [(flight, (id, summary.attempt))]
  | .cancel { id, pc := .dropAdmission attempt flight } => [(flight, (id, attempt))]
  | .cancel { id, pc := .waitHook attempt flight } => [(flight, (id, attempt))]
  | .hook task => [(task.flight, (task.id, task.attempt))]
  | _ => []

theorem bystander_watches {thread : Thread} (bystander : thread.bystander = true) :
    thread.watches = [] := by
  cases thread <;> first | rfl | cases bystander

def Core.Owns (core : Core σ) (flight : Nat) (owner : TaskId × Nat) : Prop :=
  ∃ cell, core.flights[flight]? = some cell ∧ cell.owner = owner

def Raised (before after : List Bool) : Prop :=
  ∀ (flag : Nat) value, before[flag]? = some value →
    ∃ now, after[flag]? = some now ∧ (value = true → now = true)

theorem Raised.refl (flags : List Bool) : Raised flags flags :=
  fun _ value found => ⟨value, found, fun set => set⟩

theorem Raised.of_eq {before after : List Bool} (same : after = before) : Raised before after := by
  rw [same]
  exact Raised.refl before

theorem raised_set (flags : List Bool) (flag : Nat) : Raised flags (flags.set flag true) := by
  intro other value found
  rw [List.getElem?_set]
  split
  · rename_i same
    subst same
    rw [if_pos (List.getElem?_eq_some_iff.mp found).1]
    exact ⟨true, rfl, fun _ => rfl⟩
  · exact ⟨value, found, fun set => set⟩

theorem raised_append (flags more : List Bool) : Raised flags (flags ++ more) := by
  intro flag value found
  rw [List.getElem?_append_left (List.getElem?_eq_some_iff.mp found).1]
  exact ⟨value, found, fun set => set⟩

structure Cells (core : Core σ) (thread : Thread) (result : Step σ) : Prop where
  owned : ∀ flight owner, core.Owns flight owner → result.core.Owns flight owner
  watches : ∀ entry ∈ result.threads.flatMap Thread.watches,
    entry ∈ thread.watches ∨ result.core.Owns entry.1 entry.2 ∨
      core.externalCancellations.lookup entry.2 = some (.inFlight entry.1)
  entered : ∀ key flight,
    result.core.externalCancellations.lookup key = some (.inFlight flight) →
    core.externalCancellations.lookup key = some (.inFlight flight) ∨
      result.core.Owns flight key
  succeeded : ∀ key, result.core.externalCancellations.lookup key = some .succeeded →
    core.externalCancellations.lookup key = some .succeeded ∨
      ∃ task, thread = .hook task ∧ task.pc = .conclude .success ∧ key = (task.id, task.attempt)
  results : ∀ flight cell answer, result.core.flights[flight]? = some cell →
    cell.result = some answer →
    core.flights[flight]? = some cell ∨
      ∃ task, thread = .hook task ∧ task.pc = .publish answer ∧ task.flight = flight
  fault : core.fault.isSome = true → result.core.fault.isSome = true
  flags : Raised core.flags result.core.flags
  cancellations : ∀ key, key ∉ thread.owned →
    result.core.cancellations.lookup key = core.cancellations.lookup key

section Watchers

variable {config : Config} {core : Core σ} {input : Input} {thread : Thread} {result : Step σ}

variable {after : Core σ} {task : HookTask} {answer : ExternalCancelResult}

theorem Core.SameCells.owns (same : core.SameCells after) {flight : Nat} {owner : TaskId × Nat}
    (owns : core.Owns flight owner) : after.Owns flight owner := by
  obtain ⟨cell, found, named⟩ := owns
  exact ⟨cell, by rw [same.flights]; exact found, named⟩

theorem cells_of_same (same : core.SameCells result.core)
    (watches : ∀ entry ∈ result.threads.flatMap Thread.watches, entry ∈ thread.watches ∨
      core.externalCancellations.lookup entry.2 = some (.inFlight entry.1)) :
    Cells core thread result where
  owned := fun _ _ owns => same.owns owns
  watches := by
    intro entry member
    rcases watches entry member with old | joined
    · exact .inl old
    · exact .inr (.inr joined)
  entered := fun key flight found => by
    rw [same.entries] at found
    exact .inl found
  succeeded := fun key found => by
    rw [same.entries] at found
    exact .inl found
  results := by
    intro flight cell answer found _
    left
    rw [← same.flights]
    exact found
  fault := same.fault
  flags := Raised.of_eq same.flags
  cancellations := by
    intro key _
    rw [same.cancellations]

theorem cells_pass (same : core.SameCells result.core) (alone : result.spawned = [])
    (passed : ∀ entry ∈ result.thread.watches, entry ∈ thread.watches) :
    Cells core thread result := by
  apply cells_of_same same
  intro entry member
  left
  apply passed
  simpa [Step.threads, alone] using member

theorem cancel_returns_cells {call : CancelCall} (answer : Except TaskServiceError CancelOutcome)
    (same : core.SameCells after) :
    Cells core (.cancel call) (CancelCall.finish after call answer) := by
  refine cells_pass (same.trans ?_) rfl (forall_mem_nil _)
  unfold CancelCall.finish CancelCall.returnWith
  cases answer with
  | error error => exact after.same_cells_leave
  | ok outcome => exact Core.same_cells_of_eq rfl rfl rfl rfl rfl

theorem cancel_opens_cells (call : CancelCall) (summary : TaskSummary) :
    Cells core (.cancel call)
      { core :=
          { core with
            flights := core.flights ++ [{ owner := (call.id, summary.attempt), result := none }]
            externalCancellations :=
              core.externalCancellations.insert (call.id, summary.attempt)
                (.inFlight core.flights.length) }
        thread := .cancel { call with pc := .spawnHook summary core.flights.length } } := by
  have appended : ∀ (flight : Nat) (cell : Flight), core.flights[flight]? = some cell →
      (core.flights ++ [{ owner := (call.id, summary.attempt), result := none }])[flight]? =
        some cell := by
    intro flight cell found
    rw [List.getElem?_append_left (List.getElem?_eq_some_iff.mp found).1]
    exact found
  refine ⟨?_, ?_, ?_, ?_, ?_, ?_, ?_, ?_⟩
  · rintro flight owner ⟨cell, found, named⟩
    exact ⟨cell, appended flight cell found, named⟩
  · intro entry member
    obtain rfl : entry = (core.flights.length, (call.id, summary.attempt)) := by
      simpa [Step.threads, Thread.watches] using member
    right
    left
    exact ⟨_, List.getElem?_concat_length, rfl⟩
  · intro key flight found
    rw [Table.lookup_insert_eq] at found
    split at found
    · rename_i same
      cases found
      right
      exact ⟨_, List.getElem?_concat_length, same.symm⟩
    · exact .inl found
  · intro key found
    rw [Table.lookup_insert_eq] at found
    split at found
    · cases found
    · exact .inl found
  · intro flight cell answer found answered
    left
    by_cases inside : flight < core.flights.length
    · rw [List.getElem?_append_left inside] at found
      exact found
    · rw [List.getElem?_append_right (Nat.le_of_not_lt inside)] at found
      have last := mem_of_getElem? found
      rw [mem_singleton.mp last] at answered
      cases answered
  · exact fun latched => latched
  · exact Raised.refl _
  · exact fun key _ => rfl

theorem hook_passes_cells (pc : HookPc) (same : core.SameCells after) :
    Cells core (.hook task) ⟨after, .hook { task with pc := pc }, []⟩ :=
  cells_pass same rfl (fun _ member => member)

theorem cells_of_bystanders (same : core.SameCells result.core)
    (bystanders : result.threads.all Thread.bystander = true) : Cells core thread result := by
  apply cells_of_same same
  intro entry member
  obtain ⟨next, among, watching⟩ := mem_flatMap.mp member
  rw [bystander_watches (all_eq_true.mp bystanders next among)] at watching
  cases watching

theorem run_passes_cells {task : RunTask} (pc : RunPc) (same : core.SameCells after) :
    Cells core (.run task) ⟨after, .run { task with pc := pc }, []⟩ :=
  cells_of_bystanders same rfl

theorem run_flag_cells {task : RunTask} (pc : RunPc) (flights : after.flights = core.flights)
    (entries : after.externalCancellations = core.externalCancellations)
    (fault : after.fault = core.fault) (flags : Raised core.flags after.flags)
    (unwritten : task.pc.unwritten = true)
    (cancellations : ∀ key, key ≠ (task.started.id, task.started.attempt) →
      after.cancellations.lookup key = core.cancellations.lookup key) :
    Cells core (.run task) ⟨after, .run { task with pc := pc }, []⟩ where
  owned := by
    rintro flight owner ⟨cell, found, named⟩
    exact ⟨cell, by rw [flights]; exact found, named⟩
  watches := forall_mem_nil _
  entered := fun key flight found => by
    rw [entries] at found
    exact .inl found
  succeeded := fun key found => by
    rw [entries] at found
    exact .inl found
  results := fun flight cell answer found _ => by
    rw [flights] at found
    exact .inl found
  fault := by
    rw [fault]
    exact fun latched => latched
  flags := flags
  cancellations := by
    intro key other
    apply cancellations key
    simpa [Thread.owned, unwritten] using other

theorem run_clears_cells {task : RunTask} (pc : RunPc) (key : TaskId × Nat) :
    Cells core (.run task)
      ⟨{ core with externalCancellations := core.externalCancellations.erase key },
        .run { task with pc := pc }, []⟩ := by
  have older : ∀ other entry, (core.externalCancellations.erase key).lookup other = some entry →
      core.externalCancellations.lookup other = some entry := by
    intro other entry found
    rw [Table.lookup_erase_eq] at found
    split at found
    · cases found
    · exact found
  exact
    { owned := fun _ _ owns => owns
      watches := forall_mem_nil _
      entered := fun other flight found => .inl (older other _ found)
      succeeded := fun other found => .inl (older other _ found)
      results := fun flight cell answer found _ => .inl found
      fault := fun latched => latched
      flags := Raised.refl _
      cancellations := fun _ _ => rfl }

theorem drop_cells (left : Dropped core thread input result) : Cells core thread result := by
  have same := drop_same_cells left
  apply cells_of_same same
  intro entry member
  obtain ⟨next, among, watching⟩ := mem_flatMap.mp member
  rw [bystander_watches (all_eq_true.mp (drop_bystanders left) next among)] at watching
  cases watching

variable [TaskStore σ]

theorem cancel_cells (call : CancelCall) (stepped : call.step config core input = some result) :
    Cells core (.cancel call) result := by
  obtain ⟨id, pc⟩ := call
  cases cancel_step_cases _ stepped with
  | enters free =>
    exact cells_pass (Core.same_cells_of_eq rfl rfl rfl rfl rfl) rfl (forall_mem_nil _)
  | unfaulted | accepting | owning | waiting | hooked | requests =>
    exact cells_pass core.same_cells_refl rfl (forall_mem_nil _)
  | unread => exact cancel_returns_cells _ (core.same_cells_store_result _)
  | @notCancelled summary error after called | @notRequested summary error after called =>
    exact cancel_returns_cells _ ((call_write_cells called).trans (after.same_cells_store_result _))
  | cancelled called => exact cancel_returns_cells _ (call_write_cells called)
  | persisted called =>
    exact cells_pass (call_write_cells called) rfl (forall_mem_nil _)
  | signals =>
    refine ⟨fun _ _ owns => owns, (forall_mem_nil _), fun _ _ found => .inl found,
      fun _ found => .inl found, fun _ _ _ found _ => .inl found, fun latched => latched,
      raised_set _ _, fun _ _ => rfl⟩
  | joins summary flight found =>
    apply cells_of_same core.same_cells_refl
    intro entry member
    obtain rfl : entry = (flight, (id, summary.attempt)) := by
      simpa [Step.threads, Thread.watches] using member
    exact .inr found
  | opens summary => exact cancel_opens_cells { id := id, pc := .joinHook summary } summary
  | spawns =>
    refine cells_of_same (Core.same_cells_of_eq rfl rfl rfl rfl rfl) ?_
    intro entry member
    left
    simpa [Step.threads, Thread.watches] using member
  | leaves => exact cells_pass core.same_cells_leave rfl (fun _ member => member)
  | landed attempt flight answer =>
    refine cells_pass ?_ rfl (forall_mem_nil _)
    unfold CancelCall.returnWith
    cases CancelCall.flightOutcome id attempt answer with
    | error error => exact core.same_cells_refl
    | ok outcome => exact Core.same_cells_of_eq rfl rfl rfl rfl rfl
  | _ =>
    exact cancel_returns_cells _ core.same_cells_refl

theorem hook_reading_cells (task : HookTask) (disappeared : String)
    (running : TaskSummary → HookPc) :
    Cells core (.hook task) (task.reading core input disappeared running) := by
  unfold HookTask.reading
  simp only
  split
  · exact hook_passes_cells _ core.same_cells_refl
  · exact hook_passes_cells _ core.same_cells_refl
  · split <;> exact hook_passes_cells _ core.same_cells_refl

theorem hook_writing_cells (task : HookTask) (command : TransitionCommand)
    (written again : HookPc) :
    Cells core (.hook task) (task.writing core input command written again) := by
  unfold HookTask.writing
  split
  · rename_i after answer called
    exact hook_passes_cells _ (call_write_cells called)
  · rename_i after error called
    split <;> exact hook_passes_cells _ (call_write_cells called)

theorem hook_conclude_cells (at_ : task.pc = .conclude answer)
    (stepped : task.step config core input = some result) :
    Cells core (.hook task) result := by
  simp only [HookTask.step, at_] at stepped
  cases stepped
  refine ⟨fun _ _ owns => owns, ?_, ?_, ?_, fun _ _ _ found _ => .inl found,
    fun latched => latched, Raised.refl _, fun key _ => rfl⟩
  · intro entry member
    left
    simpa [Step.threads, Thread.watches] using member
  · intro key flight found
    left
    simp only at found
    split at found
    · rw [Table.lookup_insert_eq] at found
      split at found
      · cases found
      · exact found
    · rw [Table.lookup_erase_eq] at found
      split at found
      · cases found
      · exact found
  · intro key found
    simp only at found
    split at found
    · rw [Table.lookup_insert_eq] at found
      split at found
      · rename_i same
        exact .inr ⟨task, rfl, at_, same⟩
      · exact .inl found
    · rw [Table.lookup_erase_eq] at found
      split at found
      · cases found
      · exact .inl found

theorem hook_publish_cells (at_ : task.pc = .publish answer)
    (stepped : task.step config core input = some result) :
    Cells core (.hook task) result := by
  have told : ∀ after : Core σ, core.SameCells after →
      after.externalCancellations = core.externalCancellations →
      Cells core (.hook task)
        { core :=
            { after with
              flights :=
                after.flights.modify task.flight fun flight =>
                  { flight with result := some answer } }
          thread := .hook { task with pc := .exit } } := by
    intro after same entries
    have flights := same.flights
    refine ⟨?_, ?_, ?_, ?_, ?_, same.fault, ?_, ?_⟩
    · rintro flight owner ⟨cell, found, named⟩
      simp only [Core.Owns, flights, List.getElem?_modify, found]
      split
      · exact ⟨_, rfl, named⟩
      · exact ⟨_, rfl, named⟩
    · intro entry member
      left
      simpa [Step.threads, Thread.watches] using member
    · intro key flight found
      rw [entries] at found
      exact .inl found
    · intro key found
      rw [entries] at found
      exact .inl found
    · intro flight cell other found answered
      simp only [flights, List.getElem?_modify] at found
      by_cases different : task.flight = flight
      · right
        obtain ⟨old, -, rfl⟩ := Option.map_eq_some_iff.mp found
        rw [if_pos different] at answered
        cases answered
        exact ⟨task, rfl, at_, different⟩
      · left
        simpa [different] using found
    · exact Raised.of_eq same.flags
    · intro key _
      rw [same.cancellations]
  simp only [HookTask.step, at_] at stepped
  cases stepped
  cases answer with
  | serviceFailed message => exact told _ (core.same_cells_latch message) rfl
  | success | alreadyTerminal | hookFailed message => exact told _ core.same_cells_refl rfl

theorem hook_cells (task : HookTask) (stepped : task.step config core input = some result) :
    Cells core (.hook task) result := by
  obtain ⟨id, attempt, kindId, flight, pc⟩ := task
  cases hook_step_cases _ stepped with
  | loads | reloads | failureLoads => exact hook_reading_cells _ _ _
  | persists | clears | failureRecords => exact hook_writing_cells _ _ _ _
  | unavailable | interrupted | invokes | returns | fails =>
    exact hook_passes_cells _ core.same_cells_refl
  | concludes answer => exact hook_conclude_cells rfl stepped
  | publishes answer => exact hook_publish_cells rfl stepped
  | exits => exact hook_passes_cells _ (Core.same_cells_of_eq rfl rfl rfl rfl rfl)

theorem run_cells (task : RunTask) (stepped : task.step config core input = some result) :
    Cells core (.run task) result := by
  obtain ⟨started, pc⟩ := task
  cases run_step_cases _ stepped with
  | unread | panicked | unchecked | unfinished | disappeared =>
    exact run_passes_cells _ (core.same_cells_latch _)
  | registers =>
    refine run_flag_cells _ rfl rfl rfl (raised_append _ _) rfl ?_
    intro key other
    simp only [Table.lookup_insert_eq, if_neg other]
  | sets flag =>
    exact run_flag_cells _ rfl rfl rfl (raised_set _ _) rfl (fun _ _ => rfl)
  | unregisters completion =>
    refine run_flag_cells _ rfl rfl rfl (Raised.refl _) rfl ?_
    intro key other
    simp only [Table.lookup_erase_eq, if_neg other]
  | wrote called | lost called => exact run_passes_cells _ (call_write_cells called)
  | unwritten called =>
    exact run_passes_cells _ ((call_write_cells called).trans (Core.same_cells_latch _ _))
  | clears completion => exact run_clears_cells _ _
  | contests completion version =>
    exact run_passes_cells _ (core.same_cells_competing input started.id version)
  | exits finished =>
    exact run_passes_cells _ (Core.same_cells_of_eq rfl rfl rfl rfl rfl)
  | _ =>
    exact run_passes_cells _ core.same_cells_refl

theorem thread_cells (stepped : thread.step config core input = some result) :
    Cells core thread result := by
  cases thread with
  | cancel call => exact cancel_cells call stepped
  | hook task => exact hook_cells task stepped
  | run task => exact run_cells task stepped
  | _ =>
    obtain ⟨same, plain⟩ := same_cells_step rfl (fun _ other => by cases other) stepped
    apply cells_of_bystanders same
    apply all_eq_true.mpr
    exact fun next among => plain_bystander (all_eq_true.mp plain next among)

end Watchers

structure FlightBook (system : System σ) : Prop where
  watched : ∀ entry ∈ system.threads.flatMap Thread.watches, system.core.Owns entry.1 entry.2
  entered : ∀ key flight,
    system.core.externalCancellations.lookup key = some (.inFlight flight) →
    system.core.Owns flight key

section Book

variable {system : System σ} {index : Nat} {thread : Thread} {result : Step σ}

theorem flight_book_moved (book : FlightBook system)
    (lookup : system.threads[index]? = some thread) (cells : Cells system.core thread result) :
    FlightBook (system.moved index result) := by
  have known : ∀ entry, entry ∈ system.threads.flatMap Thread.watches →
      result.core.Owns entry.1 entry.2 := fun entry member =>
    cells.owned _ _ (book.watched entry member)
  refine ⟨?_, ?_⟩
  · intro entry member
    rcases mem_tokens_advance Thread.watches member with
      renewed | ⟨_, other, _, found, watching⟩
    · rcases cells.watches entry renewed with old | owns | joined
      · exact known entry (mem_tokens lookup old)
      · exact owns
      · exact cells.owned _ _ (book.entered entry.2 entry.1 joined)
    · exact known entry (mem_tokens found watching)
  · intro key flight found
    rcases cells.entered key flight found with old | owns
    · exact cells.owned _ _ (book.entered key flight old)
    · exact owns

theorem flight_book_boot {config : Config} {store : σ} {knownIds : List TaskId} :
    FlightBook (System.boot config store knownIds) := by
  refine ⟨(fun entry member => by cases member), (fun key flight found => by cases found)⟩

variable [TaskStore σ] {next : System σ}

theorem flight_book_step {action : Action} (book : FlightBook system)
    (taken : system.step action = some next) : FlightBook next := by
  cases step_move taken with
  | stepped lookup stepped =>
    exact flight_book_moved book lookup (thread_cells stepped)
  | dropped lookup left =>
    exact flight_book_moved book lookup (drop_cells left)
  | call call ready =>
    refine ⟨?_, book.entered⟩
    intro entry member
    apply book.watched
    cases call <;> simpa [flatMap_append, ClientCall.thread, Thread.watches] using member
  | flags | progress | prune => exact ⟨book.watched, book.entered⟩
  | restart config =>
    refine ⟨?_, ?_⟩
    · intro entry member
      rw [flatMap_append] at member
      rcases mem_append.mp member with booted | old
      · cases booted
      · obtain ⟨thread, kept, watching⟩ := mem_flatMap.mp old
        obtain ⟨write, rfl⟩ := detached_of_kept kept
        cases watching
    · intro key flight found
      cases found

end Book

open Event (cancelReturned)


inductive ReadOutcome (summary : TaskSummary) : CancelOutcome → Prop
  | terminal (terminal : summary.state.isTerminal = true) : ReadOutcome summary .alreadyTerminal
  | requested (running : summary.state = .running) (requested : summary.cancelRequested = true) :
      ReadOutcome summary .cancellationRequested
  | unsupported (running : summary.state = .running) :
      ReadOutcome summary .cancellationUnsupported

inductive Returned [TaskStore σ] (core : Core σ) (input : Input) (call : CancelCall)
    (result : Step σ) : CancelOutcome → Prop
  | read (task : StoredTask) (outcome : CancelOutcome)
      (called : core.callGet input call.id = .ok (some task))
      (judged : ReadOutcome task.summary outcome)
      (store : result.core.store = core.store) : Returned core input call result outcome
  | cancelled (summary written : TaskSummary) (after : Core σ) (called : core.callTransition input
        (CancelCall.beforeStartCommand call.id summary input.now) = (after, .ok written))
      (store : result.core.store = after.store) :
      Returned core input call result .cancelledBeforeStart
  | signalled (attempt : Nat) (at_ : call.pc = .signal attempt) :
      Returned core input call result .cancellationRequested
  | joined (attempt : Nat)
      (found : core.externalCancellations.lookup (call.id, attempt) = some .succeeded) :
      Returned core input call result .cancellationRequested
  | landed (flight attempt : Nat) (answer : ExternalCancelResult) (outcome : CancelOutcome)
      (watching : (flight, (call.id, attempt)) ∈ (Thread.cancel call).watches)
      (found : core.flights[flight]?.bind Flight.result = some answer)
      (told : CancelCall.flightOutcome call.id attempt answer = .ok outcome) :
      Returned core input call result outcome

section

variable {config : Config} {core : Core σ} {input : Input} {thread : Thread} {result : Step σ}
  {id : TaskId} {outcome : CancelOutcome}

theorem returned_source (conduct : Conduct core thread result)
    (notCancel : ∀ call, thread ≠ .cancel call)
    (member : cancelReturned id outcome ∈ result.core.trace) :
    cancelReturned id outcome ∈ core.trace := by
  cases conduct.emission with
  | silent trace =>
    rw [trace] at member
    exact member
  | issued kind writes trace | started scan summary running place trace
  | released pc place releasing trace =>
    rw [trace] at member
    simpa using member
  | cancelled call summary place | returned call outcome place =>
    exact (notCancel call place).elim

variable {after : Core σ} {call : CancelCall}

theorem call_write_returned {α : Type} {kind : WriteKind} {operation : σ → σ × Except StoreError α}
    {answer : Except StoreError α} (called : core.callWrite input kind operation = (after, answer))
    (member : cancelReturned id outcome ∈ after.trace) :
    cancelReturned id outcome ∈ core.trace := by
  obtain ⟨-, -, trace⟩ := call_write_framed called
  rw [trace] at member
  simpa using member

theorem return_with_returned {answer : Except TaskServiceError CancelOutcome}
    (member : cancelReturned id outcome ∈
      (CancelCall.returnWith after call answer).core.trace) :
    cancelReturned id outcome ∈ after.trace ∨ (id = call.id ∧ answer = .ok outcome) := by
  cases answer with
  | error error => exact .inl member
  | ok returned =>
    rcases List.mem_cons.mp member with same | old
    · cases same
      exact .inr ⟨rfl, rfl⟩
    · exact .inl old

theorem finish_error_returned {error : TaskServiceError} (member : cancelReturned id outcome ∈
      (CancelCall.finish after call (.error error)).core.trace) :
    cancelReturned id outcome ∈ after.trace := member

theorem finish_read_returned [TaskStore σ] {task : StoredTask} {answer : CancelOutcome}
    (called : core.callGet input call.id = .ok (some task))
    (judged : ReadOutcome task.summary answer) (member : cancelReturned id outcome ∈
      (CancelCall.finish core call (.ok answer)).core.trace) :
    cancelReturned id outcome ∈ core.trace ∨
      (id = call.id ∧
        Returned core input call (CancelCall.finish core call (.ok answer)) outcome) := by
  rcases return_with_returned member with old | ⟨named, same⟩
  · exact .inl old
  · cases same
    exact .inr ⟨named, .read task outcome called judged rfl⟩

theorem cancel_returned [TaskStore σ] (call : CancelCall)
    (stepped : call.step config core input = some result)
    (member : cancelReturned id outcome ∈ result.core.trace) :
    cancelReturned id outcome ∈ core.trace ∨
      (id = call.id ∧ Returned core input call result outcome) := by
  obtain ⟨callId, pc⟩ := call
  cases cancel_step_cases _ stepped with
  | faulted | closing | released | missing | unknown => exact .inl (finish_error_returned member)
  | unread =>
    have inside := finish_error_returned member
    rw [Core.store_result_trace] at inside
    exact .inl inside
  | settled task called terminal => exact finish_read_returned called (.terminal terminal) member
  | unsupported task called running =>
    exact finish_read_returned called (.unsupported running) member
  | requested task called running asked =>
    exact finish_read_returned called (.requested running asked) member
  | notCancelled called | notRequested called =>
    have inside := finish_error_returned member
    rw [Core.store_result_trace] at inside
    exact .inl (call_write_returned called inside)
  | @cancelled summary written after called =>
    rcases return_with_returned member with old | ⟨named, same⟩
    · exact .inl (call_write_returned called old)
    · cases same
      exact .inr ⟨named, .cancelled summary written after called rfl⟩
  | persisted called => exact .inl (call_write_returned called member)
  | signals attempt | unregistered attempt =>
    rcases return_with_returned member with old | ⟨named, same⟩
    · exact .inl old
    · cases same
      exact .inr ⟨named, .signalled attempt rfl⟩
  | succeeded summary found =>
    rcases return_with_returned member with old | ⟨named, same⟩
    · exact .inl old
    · cases same
      exact .inr ⟨named, .joined summary.attempt found⟩
  | landed attempt flight answer arrived =>
    rcases return_with_returned member with old | ⟨named, told⟩
    · exact .inl old
    · exact .inr ⟨named,
        .landed flight attempt answer outcome (List.mem_singleton_self _) arrived told⟩
  | _ =>
    exact .inl member

theorem dropped_trace (dropped : thread.dropped core = some after) :
    after.trace = core.trace := by
  unfold Thread.dropped at dropped
  split at dropped
  all_goals try cases dropped
  all_goals
    split at dropped
    all_goals
      cases dropped
      try rfl

theorem drop_returned (left : Dropped core thread input result)
    (member : cancelReturned id outcome ∈ result.core.trace) :
    cancelReturned id outcome ∈ core.trace := by
  cases left with
  | idle dropped left =>
    subst left
    rw [dropped_trace dropped] at member
    exact member
  | issued dropped carried left =>
    subst left
    simp only [Core.record, dropped_trace dropped] at member
    simpa using member

end

end TaskService.Service
