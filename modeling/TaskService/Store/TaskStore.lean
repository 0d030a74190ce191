import TaskService.Library.Checks
import TaskService.Library.StepSystem
import TaskService.Model.TaskRecord

/-!
# The task store interface

Operations the service requires of a store, and what each of them may do to the
retained records.  A store call is one atomic step.  The laws are stated per
call and per record, so every argument about the service's writers uses the
same description of a compare-and-set whichever store is selected.
-/

namespace TaskService.Store

open Library Model

/-- Wall-clock readings a store takes inside one call: the acceptance time and
the creation time of an event row. -/
structure Clock where
  now : Nat
  eventNow : Nat
  deriving DecidableEq, Repr

/-- One row of the event outbox as a reader receives it.  The serialized event
is carried as the event it was serialized from. -/
structure EventOutboxEntry where
  taskId : TaskId
  stateVersion : Nat
  eventId : String
  event : TaskEvent
  deriving DecidableEq, Repr

structure QuarantineCommand where
  taskId : TaskId
  stateVersion : Nat
  eventId : String
  reason : String
  lastError : String
  deriving DecidableEq, Repr

class TaskStore (σ : Type) where
  getEncodedTask : σ → TaskId → Option StoredTask
  acceptEncoded : σ → Clock → TaskId → StoredTaskRequest → σ × Except StoreError AcceptOutcome
  startEncoded : σ → Clock → StartCommand → σ × Except StoreError TaskSummary
  transitionEncoded : σ → Clock → TransitionCommand → σ × Except StoreError TaskSummary
  updateProgress : σ → ProgressCommand → σ × Except StoreError TaskSummary
  listEncoded : σ → TaskQuery → Except StoreError TaskPage
  listReadyQueued : σ → Option TaskCursor → Nat → Nat → Except StoreError TaskPage
  nextRetryDeadline : σ → Nat → Except StoreError (Option Nat)
  pruneTerminalBefore : σ → Nat → Nat → σ × Except StoreError Nat
  listEventOutbox : σ → Nat → Except StoreError (List EventOutboxEntry)
  markEventPublished : σ → TaskId → Nat → σ × Except StoreError Unit
  quarantineEventOutboxHead : σ → Clock → QuarantineCommand → σ × Except StoreError Unit

/-- Checks shared by both stores' transitions before a record is consulted. -/
def validateEncodedOutput (state : TaskState) (output : Option TaskOutput) :
    Except StoreError Unit :=
  match output with
  | none => .ok ()
  | some value =>
      if state ≠ .succeeded then
        .error (.invalidRequest "task output can only be stored with the succeeded state")
      else if value.summary.length > maxTaskOutputSummaryBytes then
        .error (.invalidRequest "task output summary exceeds the 64 KiB limit")
      else .ok ()

theorem validate_encoded_output_ne_conflict (state : TaskState) (output : Option TaskOutput) :
    validateEncodedOutput state output ≠ .error .conflict := by
  unfold validateEncodedOutput
  split
  · simp
  · split_ifs <;> simp

def acceptedSummary (id : TaskId) (request : StoredTaskRequest) (now : Nat) : TaskSummary :=
  { id := id
    kindId := request.kindId
    category := request.category
    payloadTypeId := request.payload.typeId
    payloadSchemaVersion := request.payload.schemaVersion
    payloadCodecId := request.payload.codecId
    metadata := request.metadata
    resourceLimit := request.resourceLimit
    correlationKey := request.correlationKey
    idempotencyKey := request.idempotencyKey
    state := .queued
    cancelRequested := false
    cancelError := none
    stateVersion := 0
    attempt := 0
    retryNotBeforeMs := none
    acceptedAtMs := now
    startedAtMs := none
    finishedAtMs := none
    progress := none
    output := none }

def startedSummary (summary : TaskSummary) (command : StartCommand) : TaskSummary :=
  { summary with
    state := .running
    stateVersion := summary.stateVersion + 1
    attempt := summary.attempt + 1
    retryNotBeforeMs := none
    startedAtMs := some command.startedAtMs
    finishedAtMs := none
    progress := none }

def transitionedSummary (summary : TaskSummary) (command : TransitionCommand) : TaskSummary :=
  { summary with
    state := command.state
    retryNotBeforeMs := command.retryNotBeforeMs
    stateVersion := summary.stateVersion + 1
    cancelRequested := command.cancelRequested
    cancelError := command.cancelError
    output := if command.output.isSome then command.output else summary.output
    finishedAtMs :=
      if command.state.isTerminal && command.finishedAtMs.isSome then command.finishedAtMs
      else summary.finishedAtMs }

/-- A terminal record may be rewritten in place only to annotate a failed
cancellation. -/
def terminalCancelAnnotation (state : TaskState) (command : TransitionCommand) : Bool :=
  state.isTerminal && decide (state = command.state) && command.cancelRequested &&
    command.cancelError.isSome

def TransitionMatches (summary : TaskSummary) (command : TransitionCommand) : Prop :=
  summary.stateVersion = command.expectedStateVersion ∧
    summary.attempt = command.expectedAttempt ∧
    (summary.state.allowsTransitionTo command.state = true ∨
      terminalCancelAnnotation summary.state command = true)

instance (summary : TaskSummary) (command : TransitionCommand) :
    Decidable (TransitionMatches summary command) :=
  inferInstanceAs (Decidable (_ ∧ _ ∧ _))

abbrev Records := TaskId → Option StoredTask

/-- A record that a call does not address either stays as it is or, being
terminal, is evicted from the retained history. -/
def Kept (old new : Option StoredTask) : Prop :=
  new = old ∨ (new = none ∧ ∃ task, old = some task ∧ task.summary.state.isTerminal = true)

theorem Kept.refl (record : Option StoredTask) : Kept record record := .inl rfl

theorem Kept.trans {first second third : Option StoredTask}
    (left : Kept first second) (right : Kept second third) : Kept first third := by
  rcases right with rfl | ⟨gone, task, held, terminal⟩
  · exact left
  · rcases left with rfl | ⟨absent, _⟩
    · exact .inr ⟨gone, task, held, terminal⟩
    · rw [absent] at held
      cases held

variable {new old : Option StoredTask} {task : StoredTask}

theorem Kept.eq_of_some (kept : Kept old new) (present : new = some task) : old = some task := by
  rcases kept with rfl | ⟨gone, _⟩
  · exact present
  · rw [gone] at present
    cases present

theorem Kept.some_of_live (kept : Kept old new) (held : old = some task)
    (live : task.summary.state.isTerminal = false) : new = some task := by
  rcases kept with rfl | ⟨_, other, same, terminal⟩
  · exact held
  · rw [held] at same
    cases same
    rw [live] at terminal
    cases terminal

theorem TransitionMatches.same_state {summary : TaskSummary} {command : TransitionCommand}
    (matched : TransitionMatches summary command) (terminal : summary.state.isTerminal = true) :
    command.state = summary.state := by
  rcases matched.2.2 with allowed | annotated
  · rw [TaskState.terminal_allows_nothing _ _ terminal] at allowed
    cases allowed
  · simp only [Bool.and_eq_true, decide_eq_true_eq, terminalCancelAnnotation] at annotated
    exact annotated.1.1.2.symm

theorem TransitionMatches.keeps_terminal {summary : TaskSummary} {command : TransitionCommand}
    (matched : TransitionMatches summary command)
    (terminal : summary.state.isTerminal = true) : command.state.isTerminal = true := by
  rw [matched.same_state terminal]
  exact terminal

inductive AcceptEffect (before after : Records) (id : TaskId) (request : StoredTaskRequest)
    (now : Nat) : Except StoreError AcceptOutcome → Prop
  | created
      (absent : before id = none)
      (stored : after id = some { request := request, summary := acceptedSummary id request now })
      (others : ∀ other, other ≠ id → Kept (before other) (after other)) :
      AcceptEffect before after id request now
        (.ok { summary := acceptedSummary id request now, created := true })
  | replayed (summary : TaskSummary) (unchanged : ∀ other, after other = before other) :
      AcceptEffect before after id request now (.ok { summary := summary, created := false })
  | rejected (error : StoreError) (others : ∀ other, Kept (before other) (after other)) :
      AcceptEffect before after id request now (.error error)

/-- What a start may do.  A start whose attempt counter is exhausted may leave
the already incremented version behind. -/
inductive StartEffect (before after : Records) (command : StartCommand) :
    Except StoreError TaskSummary → Prop
  | started (task : StoredTask) (held : before command.id = some task)
      (queued : task.summary.state = .queued)
      (version : task.summary.stateVersion = command.expectedStateVersion)
      (room : task.summary.stateVersion + 1 < u64Bound) (stored : after command.id =
        some { task with summary := startedSummary task.summary command })
      (others : ∀ other, other ≠ command.id → after other = before other) :
      StartEffect before after command (.ok (startedSummary task.summary command))
  | rejected (error : StoreError) (unchanged : ∀ other, after other = before other) :
      StartEffect before after command (.error error)
  | attemptExhausted (task : StoredTask) (error : StoreError) (held : before command.id = some task)
      (queued : task.summary.state = .queued) (room : task.summary.stateVersion + 1 < u64Bound)
      (stored : after command.id =
        some { task with summary :=
          { task.summary with stateVersion := task.summary.stateVersion + 1 } })
      (others : ∀ other, other ≠ command.id → after other = before other) :
      StartEffect before after command (.error error)

/-- What a transition may do.  A transition whose version counter is exhausted
may leave the already assigned state and retry deadline behind. -/
inductive TransitionEffect (before after : Records) (command : TransitionCommand) :
    Except StoreError TaskSummary → Prop
  | applied (task : StoredTask) (held : before command.id = some task)
      (matched : TransitionMatches task.summary command)
      (room : task.summary.stateVersion + 1 < u64Bound) (stored : after command.id =
          some { task with summary := transitionedSummary task.summary command } ∨
        (command.state.isTerminal = true ∧ after command.id = none))
      (others : ∀ other, other ≠ command.id → Kept (before other) (after other)) :
      TransitionEffect before after command (.ok (transitionedSummary task.summary command))
  | rejected (error : StoreError) (unchanged : ∀ other, after other = before other)
      (unmatched : error = .conflict →
        ∀ task, before command.id = some task → ¬ TransitionMatches task.summary command) :
      TransitionEffect before after command (.error error)
  | versionExhausted (task : StoredTask) (held : before command.id = some task)
      (matched : TransitionMatches task.summary command)
      (full : u64Bound ≤ task.summary.stateVersion + 1) (stored : after command.id =
        some { task with summary :=
          { task.summary with
            state := command.state
            retryNotBeforeMs := command.retryNotBeforeMs } })
      (others : ∀ other, other ≠ command.id → after other = before other) :
      TransitionEffect before after command (.error (.failure "task state version overflow"))

inductive ProgressEffect (before after : Records) (id : TaskId) : Prop
  | reported (task : StoredTask) (snapshot : TaskProgressSnapshot) (held : before id = some task)
      (stored : after id =
        some { task with summary := { task.summary with progress := some snapshot } })
      (others : ∀ other, other ≠ id → after other = before other)
  | rejected (unchanged : ∀ other, after other = before other)

section Records

variable {before after : Records} {id other : TaskId} {answer : Except StoreError TaskSummary}

/-- What an acceptance does to one record, whatever it answers. -/
theorem AcceptEffect.record {request : StoredTaskRequest} {now : Nat}
    {answer : Except StoreError AcceptOutcome}
    (effect : AcceptEffect before after id request now answer) (other : TaskId) :
    Kept (before other) (after other) ∨
      other = id ∧ before other = none ∧
        after other =
          some { request := request, summary := acceptedSummary other request now } := by
  cases effect with
  | created absent stored others =>
    by_cases same : other = id
    · subst same
      exact .inr ⟨rfl, absent, stored⟩
    · exact .inl (others other same)
  | replayed summary unchanged => exact .inl (.inl (unchanged other))
  | rejected error others => exact .inl (others other)

theorem StartEffect.record {command : StartCommand}
    (effect : StartEffect before after command answer) (other : TaskId) :
    after other = before other ∨
      other = command.id ∧ ∃ task, before other = some task ∧ task.summary.state = .queued ∧
        task.summary.stateVersion + 1 < u64Bound ∧
        (after other = some { task with summary := startedSummary task.summary command } ∨
          after other = some { task with summary :=
            { task.summary with stateVersion := task.summary.stateVersion + 1 } }) := by
  by_cases same : other = command.id
  · subst same
    cases effect with
    | rejected error unchanged => exact .inl (unchanged _)
    | started task held queued version room stored others =>
      exact .inr ⟨rfl, task, held, queued, room, .inl stored⟩
    | attemptExhausted task error held queued room stored others =>
      exact .inr ⟨rfl, task, held, queued, room, .inr stored⟩
  · left
    cases effect with
    | rejected error unchanged => exact unchanged other
    | started _ _ _ _ _ _ others | attemptExhausted _ _ _ _ _ _ others => exact others other same

theorem TransitionEffect.record {command : TransitionCommand}
    (effect : TransitionEffect before after command answer) (other : TaskId) :
    Kept (before other) (after other) ∨
      other = command.id ∧ ∃ task, before other = some task ∧
        TransitionMatches task.summary command ∧
        ((task.summary.stateVersion + 1 < u64Bound ∧
            after other = some { task with summary := transitionedSummary task.summary command }) ∨
          (task.summary.stateVersion + 1 < u64Bound ∧ command.state.isTerminal = true ∧
            after other = none) ∨
          (u64Bound ≤ task.summary.stateVersion + 1 ∧
            after other = some { task with summary :=
              { task.summary with
                state := command.state
                retryNotBeforeMs := command.retryNotBeforeMs } })) := by
  by_cases same : other = command.id
  · subst same
    cases effect with
    | rejected error unchanged unmatched => exact .inl (.inl (unchanged _))
    | applied task held matched room stored others =>
      exact .inr ⟨rfl, task, held, matched, stored.imp (⟨room, ·⟩) fun gone => .inl ⟨room, gone⟩⟩
    | versionExhausted task held matched full stored others =>
      exact .inr ⟨rfl, task, held, matched, .inr (.inr ⟨full, stored⟩)⟩
  · left
    cases effect with
    | rejected error unchanged unmatched => exact .inl (unchanged other)
    | applied _ _ _ _ _ others => exact others other same
    | versionExhausted _ _ _ _ _ others => exact .inl (others other same)

theorem ProgressEffect.record (effect : ProgressEffect before after id) (other : TaskId) :
    after other = before other ∨
      other = id ∧ ∃ task snapshot, before other = some task ∧
        after other =
          some { task with summary := { task.summary with progress := some snapshot } } := by
  cases effect with
  | rejected unchanged => exact .inl (unchanged other)
  | reported task snapshot held stored others =>
    by_cases same : other = id
    · subst same
      exact .inr ⟨rfl, task, snapshot, held, stored⟩
    · exact .inl (others other same)

end Records

def QueuedUntil (records : Records) (id : TaskId) (deadline : Nat) : Prop :=
  ∃ task, records id = some task ∧ task.summary.state = .queued ∧
    task.summary.retryNotBeforeMs = some deadline

instance (records : Records) (id : TaskId) (deadline : Nat) :
    Decidable (QueuedUntil records id deadline) :=
  decidable_of_iff ((records id).any (fun task => decide (task.summary.state = .queued ∧
    task.summary.retryNotBeforeMs = some deadline)) = true) (by
    simp [QueuedUntil, Option.any_eq_true])

structure NextDeadline (records : Records) (now : Nat) (answer : Option Nat) : Prop where
  later : ∀ deadline, answer = some deadline → now < deadline
  least : ∀ id deadline, QueuedUntil records id deadline → now < deadline →
    ∃ first, answer = some first ∧ first ≤ deadline

theorem next_deadline_of_min {records : Records} {now : Nat} {deadlines : List Nat}
    (complete : ∀ id deadline, QueuedUntil records id deadline → deadline ∈ deadlines) :
    NextDeadline records now (deadlines.filter fun deadline => decide (deadline > now)).min? := by
  refine ⟨?_, ?_⟩
  · intro deadline found
    have member := (List.mem_filter.mp (List.min?_mem found)).2
    exact of_decide_eq_true member
  · intro id deadline queued later
    have member : deadline ∈ deadlines.filter fun deadline => decide (deadline > now) :=
      List.mem_filter.mpr ⟨complete id deadline queued, decide_eq_true later⟩
    cases found : (deadlines.filter fun deadline => decide (deadline > now)).min? with
    | none =>
      rw [List.min?_eq_none_iff.mp found] at member
      cases member
    | some first =>
      exact ⟨first, rfl, (List.le_min?_iff found).mp (Nat.le_refl first) deadline member⟩

section

open TaskStore

/-- A store that keeps a validity condition and whose calls have the effects
above on the records it shows. -/
class LawfulStore (σ : Type) [TaskStore σ] where
  Valid : σ → Prop
  get_id : ∀ (store : σ) (id : TaskId) (task : StoredTask), Valid store →
    getEncodedTask store id = some task → task.summary.id = id
  accept_valid : ∀ (store : σ) (clock : Clock) (id : TaskId) (request : StoredTaskRequest),
    Valid store → Valid (acceptEncoded store clock id request).1
  accept_effect : ∀ (store : σ) (clock : Clock) (id : TaskId) (request : StoredTaskRequest),
    Valid store →
    AcceptEffect (getEncodedTask store)
      (getEncodedTask (acceptEncoded store clock id request).1) id request clock.now
      (acceptEncoded store clock id request).2
  start_valid : ∀ (store : σ) (clock : Clock) (command : StartCommand),
    Valid store → Valid (startEncoded store clock command).1
  start_effect : ∀ (store : σ) (clock : Clock) (command : StartCommand), Valid store →
    StartEffect (getEncodedTask store) (getEncodedTask (startEncoded store clock command).1)
      command (startEncoded store clock command).2
  transition_valid : ∀ (store : σ) (clock : Clock) (command : TransitionCommand),
    Valid store → Valid (transitionEncoded store clock command).1
  transition_effect : ∀ (store : σ) (clock : Clock) (command : TransitionCommand),
    Valid store →
    TransitionEffect (getEncodedTask store)
      (getEncodedTask (transitionEncoded store clock command).1) command
      (transitionEncoded store clock command).2
  progress_valid : ∀ (store : σ) (command : ProgressCommand),
    Valid store → Valid (updateProgress store command).1
  progress_effect : ∀ (store : σ) (command : ProgressCommand), Valid store →
    ProgressEffect (getEncodedTask store) (getEncodedTask (updateProgress store command).1)
      command.id
  prune_valid : ∀ (store : σ) (before rows : Nat),
    Valid store → Valid (pruneTerminalBefore store before rows).1
  prune_effect : ∀ (store : σ) (before rows : Nat), Valid store → ∀ other,
    Kept (getEncodedTask store other)
      (getEncodedTask (pruneTerminalBefore store before rows).1 other)
  mark_valid : ∀ (store : σ) (id : TaskId) (version : Nat),
    Valid store → Valid (markEventPublished store id version).1
  mark_records : ∀ (store : σ) (id : TaskId) (version : Nat) (other : TaskId),
    getEncodedTask (markEventPublished store id version).1 other = getEncodedTask store other
  quarantine_valid : ∀ (store : σ) (clock : Clock) (command : QuarantineCommand),
    Valid store → Valid (quarantineEventOutboxHead store clock command).1
  quarantine_records : ∀ (store : σ) (clock : Clock) (command : QuarantineCommand)
    (other : TaskId),
    getEncodedTask (quarantineEventOutboxHead store clock command).1 other =
      getEncodedTask store other
  list_ready_sound : ∀ (store : σ) (after : Option TaskCursor) (limit now : Nat)
    (page : TaskPage), Valid store → listReadyQueued store after limit now = .ok page →
    ∀ summary ∈ page.records, summary.state = .queued ∧
      ∃ task, getEncodedTask store summary.id = some task ∧ task.summary = summary
  list_sound : ∀ (store : σ) (query : TaskQuery) (page : TaskPage), Valid store →
    listEncoded store query = .ok page →
    ∀ summary ∈ page.records,
      ∃ task, getEncodedTask store summary.id = some task ∧ task.summary = summary
  next_deadline : ∀ (store : σ) (now : Nat) (answer : Option Nat), Valid store →
    nextRetryDeadline store now = .ok answer → NextDeadline (getEncodedTask store) now answer

end

inductive StoreCall where
  | accept (clock : Clock) (id : TaskId) (request : StoredTaskRequest)
  | start (clock : Clock) (command : StartCommand)
  | transition (clock : Clock) (command : TransitionCommand)
  | progress (command : ProgressCommand)
  | prune (cutoff maxRows : Nat)

inductive StoreAnswer where
  | accepted (answer : Except StoreError AcceptOutcome)
  | summary (answer : Except StoreError TaskSummary)
  | pruned (answer : Except StoreError Nat)

def StoreAnswer.failed : StoreAnswer → Bool
  | .accepted (.error _) | .summary (.error _) | .pruned (.error _) => true
  | .accepted (.ok _) | .summary (.ok _) | .pruned (.ok _) => false

variable {σ : Type} [TaskStore σ]

def StoreCall.run (store : σ) : StoreCall → σ × StoreAnswer
  | .accept clock id request =>
      ((TaskStore.acceptEncoded store clock id request).1,
        .accepted (TaskStore.acceptEncoded store clock id request).2)
  | .start clock command =>
      ((TaskStore.startEncoded store clock command).1,
        .summary (TaskStore.startEncoded store clock command).2)
  | .transition clock command =>
      ((TaskStore.transitionEncoded store clock command).1,
        .summary (TaskStore.transitionEncoded store clock command).2)
  | .progress command =>
      ((TaskStore.updateProgress store command).1,
        .summary (TaskStore.updateProgress store command).2)
  | .prune cutoff maxRows =>
      ((TaskStore.pruneTerminalBefore store cutoff maxRows).1,
        .pruned (TaskStore.pruneTerminalBefore store cutoff maxRows).2)

section Samples

def sampleStored (key : Option String) (bytes : List UInt8) : StoredTaskRequest :=
  { kindId := "report"
    category := none
    payload := { typeId := "text", schemaVersion := 1, codecId := "utf8", bytes := bytes }
    metadata := { json := "null" }
    resourceLimit :=
      { cpuSlots := 1
        gpuCount := 0
        memoryBytes := none
        diskBytes := none
        gpuLabels := []
        custom := [] }
    correlationKey := none
    idempotencyKey := key }

def sampleClock : Clock := { now := 5, eventNow := 5 }

def sampleStarting (id : UInt64) (version : Nat) : StoreCall :=
  .start sampleClock { id := { value := id }, expectedStateVersion := version, startedAtMs := 6 }

/-- A transition without retry deadline, cancellation or output. -/
def sampleMove (id : UInt64) (version attempt : Nat) (state : TaskState) : StoreCall :=
  .transition sampleClock
    { id := { value := id }
      expectedStateVersion := version
      expectedAttempt := attempt
      retryNotBeforeMs := none
      state := state
      cancelRequested := false
      cancelError := none
      finishedAtMs := if state.isTerminal then some 7 else none
      output := none }

end Samples

end TaskService.Store
