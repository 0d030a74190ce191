import TaskService.Store.MemoryCalls
import TaskService.Store.SqliteCalls

/-!
# Laws of retained records

What any call may make of one record, for every store that checks its transitions, and
the laws of records over whole runs that follow from it.  Both stores are instances.
-/

namespace TaskService.Store

open Library Model

structure TransitionChecked (records : Records) (command : TransitionCommand) : Prop where
  output : command.output.isSome = true → command.state = .succeeded
  writable : command.output.isSome = true → ∀ task, records command.id = some task →
    task.summary.state.isTerminal = false
  retry : command.retryNotBeforeMs.isSome = true → command.state = .queued

/-- A store whose transitions pass the checks or leave no trace. -/
class CheckingStore (σ : Type) [TaskStore σ] : Prop where
  transition_checked : ∀ (store : σ) (clock : Clock) (command : TransitionCommand),
    TransitionChecked (TaskStore.getEncodedTask store) command ∨
      ((∃ error, (TaskStore.transitionEncoded store clock command).2 = .error error) ∧
        ∀ id, TaskStore.getEncodedTask (TaskStore.transitionEncoded store clock command).1 id =
          TaskStore.getEncodedTask store id)

theorem output_of_validated {state : TaskState} {output : Option TaskOutput}
    (validated : validateEncodedOutput state output = .ok ()) (present : output.isSome = true) :
    state = .succeeded := by
  cases output with
  | none => cases present
  | some value =>
    simp only [validateEncodedOutput] at validated
    split at validated
    · cases validated
    · rename_i succeeded
      exact not_not.mp succeeded

variable {command : TransitionCommand} {after before : Option StoredTask} {id : TaskId}

theorem queued_of_retry (checked : command.retryNotBeforeMs = none ∨ command.state = .queued)
    (present : command.retryNotBeforeMs.isSome = true) : command.state = .queued := by
  rcases checked with absent | queued
  · rw [absent] at present
    cases present
  · exact queued

instance : CheckingStore MemoryTaskStore where
  transition_checked store clock command := by
    show TransitionChecked store.getEncodedTask command ∨
      ((∃ error, (store.transitionEncoded command).2 = .error error) ∧
        ∀ id, (store.transitionEncoded command).1.getEncodedTask id = store.getEncodedTask id)
    unfold MemoryTaskStore.transitionEncoded MemoryTaskStore.transitionEncodedBy
    split
    · exact .inr ⟨⟨_, rfl⟩, fun _ => rfl⟩
    split
    · exact .inr ⟨⟨_, rfl⟩, fun _ => rfl⟩
    split
    · exact .inr ⟨⟨_, rfl⟩, fun _ => rfl⟩
    rename_i diagnosed _ validated _ task held
    split
    · exact .inr ⟨⟨_, rfl⟩, fun _ => rfl⟩
    rename_i passed
    obtain ⟨_, writable, retry⟩ := (MemoryTaskStore.transition_check_iff _ _).mp passed
    refine .inl ⟨output_of_validated validated, ?_, queued_of_retry retry⟩
    intro present other found
    cases held.symm.trans found
    by_contra terminal
    exact writable ⟨present, Bool.eq_true_of_not_eq_false terminal⟩

instance [IdCodec] : CheckingStore SqliteTaskStore where
  transition_checked store clock command := by
    show TransitionChecked store.getEncodedTask command ∨
      ((∃ error, (store.transitionEncoded clock command).2 = .error error) ∧
        ∀ id, (store.transitionEncoded clock command).1.getEncodedTask id =
          store.getEncodedTask id)
    unfold SqliteTaskStore.transitionEncoded
    rcases store.run_write_cases fun database =>
        database.transitionEncoded clock command store.outboxEnabled with
      ⟨error, failed, _⟩ | ⟨database, summary, applied, committed⟩
    · rw [failed]
      exact .inr ⟨⟨error, rfl⟩, fun _ => rfl⟩
    · left
      unfold Database.transitionEncoded at applied
      simp only [bind_eq_ok, require_eq_ok, Database.addressed_row_eq_ok] at applied
      obtain ⟨_, _, _, validated, _, retry, row, found, _, _, _, _, _, writable, _⟩ := applied
      refine ⟨output_of_validated validated, ?_, queued_of_retry retry⟩
      intro present task held
      obtain ⟨other, same, rfl⟩ := Database.get_encoded_task_eq_some.mp held
      cases found.symm.trans same
      by_contra terminal
      exact writable ⟨present, Bool.eq_true_of_not_eq_false terminal⟩

inductive RecordStep (id : TaskId) : Option StoredTask → Option StoredTask → Prop
  | kept (record : Option StoredTask) : RecordStep id record record
  | removed (task : StoredTask) : RecordStep id (some task) none
  | accepted (request : StoredTaskRequest) (now : Nat) :
      RecordStep id none (some { request := request, summary := acceptedSummary id request now })
  | started (task : StoredTask) (command : StartCommand) (queued : task.summary.state = .queued) :
      RecordStep id (some task)
        (some { task with summary := startedSummary task.summary command })
  | counted (task : StoredTask) (queued : task.summary.state = .queued) :
      RecordStep id (some task)
        (some { task with summary :=
          { task.summary with stateVersion := task.summary.stateVersion + 1 } })
  | moved (task : StoredTask) (command : TransitionCommand)
      (matched : TransitionMatches task.summary command) (output : command.output.isSome = true →
        command.state = .succeeded ∧ task.summary.state.isTerminal = false)
      (retry : command.retryNotBeforeMs.isSome = true → command.state = .queued) :
      RecordStep id (some task)
        (some { task with summary := transitionedSummary task.summary command })
  | halfMoved (task : StoredTask) (command : TransitionCommand)
      (matched : TransitionMatches task.summary command)
      (retry : command.retryNotBeforeMs.isSome = true → command.state = .queued) :
      RecordStep id (some task)
        (some { task with summary :=
          { task.summary with
            state := command.state
            retryNotBeforeMs := command.retryNotBeforeMs } })
  | reported (task : StoredTask) (snapshot : TaskProgressSnapshot) :
      RecordStep id (some task)
        (some { task with summary := { task.summary with progress := some snapshot } })

theorem RecordStep.of_kept (kept : Kept before after) : RecordStep id before after := by
  rcases kept with rfl | ⟨rfl, task, rfl, _⟩
  · exact .kept _
  · exact .removed task

theorem RecordStep.of_eq (same : after = before) : RecordStep id before after := by
  rw [same]
  exact .kept _

section Steps

variable {σ : Type} [TaskStore σ] [LawfulStore σ]

open TaskStore LawfulStore

section

variable {store : σ} (valid : Valid store)
include valid

theorem accept_record_step (clock : Clock) (id : TaskId) (request : StoredTaskRequest)
    (other : TaskId) :
    RecordStep other (getEncodedTask store other)
      (getEncodedTask (acceptEncoded store clock id request).1 other) := by
  rcases (accept_effect store clock id request valid).record other with
    kept | ⟨-, absent, stored⟩
  · exact .of_kept kept
  · rw [absent, stored]
    exact .accepted request clock.now

theorem start_record_step (clock : Clock) (command : StartCommand) (other : TaskId) :
    RecordStep other (getEncodedTask store other)
      (getEncodedTask (startEncoded store clock command).1 other) := by
  rcases (start_effect store clock command valid).record other with
    same | ⟨-, task, held, queued, -, stored | stored⟩
  · exact .of_eq same
  · rw [held, stored]
    exact .started task command queued
  · rw [held, stored]
    exact .counted task queued

theorem progress_record_step (command : ProgressCommand) (other : TaskId) :
    RecordStep other (getEncodedTask store other)
      (getEncodedTask (updateProgress store command).1 other) := by
  rcases (progress_effect store command valid).record other with
    same | ⟨-, task, snapshot, held, stored⟩
  · exact .of_eq same
  · rw [held, stored]
    exact .reported task snapshot

theorem call_valid (call : StoreCall) : Valid (call.run store).1 := by
  cases call with
  | accept clock id request => exact accept_valid store clock id request valid
  | start clock command => exact start_valid store clock command valid
  | transition clock command => exact transition_valid store clock command valid
  | progress command => exact progress_valid store command valid
  | prune cutoff maxRows => exact prune_valid store cutoff maxRows valid

end

variable [CheckingStore σ]

theorem transition_record_step {store : σ} (valid : Valid store) (clock : Clock)
    (command : TransitionCommand) (other : TaskId) :
    RecordStep other (getEncodedTask store other)
      (getEncodedTask (transitionEncoded store clock command).1 other) := by
  rcases CheckingStore.transition_checked store clock command with checked | ⟨-, unchanged⟩
  · rcases (transition_effect store clock command valid).record other with
      kept | ⟨rfl, task, held, matched, ⟨-, stored⟩ | ⟨-, -, gone⟩ | ⟨-, stored⟩⟩
    · exact .of_kept kept
    · rw [held, stored]
      exact .moved task command matched
        (fun present => ⟨checked.output present, checked.writable present task held⟩)
        checked.retry
    · rw [held, gone]
      exact .removed task
    · rw [held, stored]
      exact .halfMoved task command matched checked.retry
  · exact .of_eq (unchanged other)

theorem call_record_step {store : σ} (valid : Valid store) (call : StoreCall) (other : TaskId) :
    RecordStep other (getEncodedTask store other) (getEncodedTask (call.run store).1 other) := by
  cases call with
  | accept clock id request => exact accept_record_step valid clock id request other
  | start clock command => exact start_record_step valid clock command other
  | transition clock command => exact transition_record_step valid clock command other
  | progress command => exact progress_record_step valid command other
  | prune cutoff maxRows => exact .of_kept (prune_effect store cutoff maxRows valid other)

end Steps

/-- A record under its own identity, with its optional parts where they belong. -/
structure LawfulRecord (id : TaskId) (task : StoredTask) : Prop where
  identity : task.summary.id = id
  output : task.summary.output.isSome = true → task.summary.state = .succeeded
  retry : task.summary.retryNotBeforeMs.isSome = true → task.summary.state = .queued
  finished : task.summary.finishedAtMs.isSome = true → task.summary.state.isTerminal = true

/-- What a later version of a record shares with an earlier one. -/
structure SameTask (old new : StoredTask) : Prop where
  request : new.request = old.request
  identity : new.summary.id = old.summary.id
  acceptedAt : new.summary.acceptedAtMs = old.summary.acceptedAtMs
  settled : old.summary.state.isTerminal = true →
    new.summary.state = old.summary.state ∧ new.summary.attempt = old.summary.attempt ∧
      new.summary.output = old.summary.output

theorem SameTask.refl (task : StoredTask) : SameTask task task :=
  ⟨rfl, rfl, rfl, fun _ => ⟨rfl, rfl, rfl⟩⟩

theorem SameTask.trans {first second third : StoredTask} (left : SameTask first second)
    (right : SameTask second third) : SameTask first third := by
  refine ⟨right.request.trans left.request, right.identity.trans left.identity,
    right.acceptedAt.trans left.acceptedAt, ?_⟩
  intro terminal
  obtain ⟨state, attempt, output⟩ := left.settled terminal
  obtain ⟨laterState, laterAttempt, laterOutput⟩ := right.settled (state ▸ terminal)
  exact ⟨laterState.trans state, laterAttempt.trans attempt, laterOutput.trans output⟩

namespace RecordStep

variable {id : TaskId} {before after : Option StoredTask}

theorem terminal_of_output {task : StoredTask} (lawful : LawfulRecord id task)
    (present : task.summary.output.isSome = true) : task.summary.state.isTerminal = true := by
  rw [lawful.output present]
  rfl

theorem lawful (step : RecordStep id before after)
    (earlier : ∀ task, before = some task → LawfulRecord id task) :
    ∀ task, after = some task → LawfulRecord id task := by
  cases step with
  | kept => exact earlier
  | removed task =>
    intro other found
    cases found
  | accepted =>
    rintro task found
    cases found
    exact ⟨rfl, (fun present => by cases present), (fun present => by cases present),
      (fun present => by cases present)⟩
  | started old command queued =>
    rintro task found
    cases found
    have old' := earlier old rfl
    refine ⟨old'.identity, fun present => ?_, (fun present => by cases present),
      (fun present => by cases present)⟩
    have ended := terminal_of_output old' present
    rw [queued] at ended
    cases ended
  | counted old | reported old =>
    rintro task found
    cases found
    have old' := earlier old rfl
    exact ⟨old'.identity, old'.output, old'.retry, old'.finished⟩
  | moved old command matched output retry =>
    rintro task found
    cases found
    have old' := earlier old rfl
    refine ⟨old'.identity, ?_, retry, ?_⟩
    · intro present
      show command.state = .succeeded
      cases given : command.output.isSome with
      | true => exact (output given).1
      | false =>
        have kept : old.summary.output.isSome = true := by
          simpa [transitionedSummary, given] using present
        rw [matched.same_state (terminal_of_output old' kept)]
        exact old'.output kept
    · intro present
      show command.state.isTerminal = true
      by_contra live
      have kept : old.summary.finishedAtMs.isSome = true := by
        simpa [transitionedSummary, live] using present
      exact live (matched.keeps_terminal (old'.finished kept))
  | halfMoved old command matched retry =>
    rintro task found
    cases found
    have old' := earlier old rfl
    refine ⟨old'.identity, ?_, retry, ?_⟩
    · intro present
      show command.state = .succeeded
      rw [matched.same_state (terminal_of_output old' present)]
      exact old'.output present
    · intro present
      exact matched.keeps_terminal (old'.finished present)

theorem same_task (step : RecordStep id before after) {old new : StoredTask}
    (held : before = some old) (found : after = some new) : SameTask old new := by
  cases step with
  | kept =>
    cases held.symm.trans found
    exact SameTask.refl _
  | removed => cases found
  | accepted => cases held
  | started task command queued =>
    cases held
    cases found
    refine ⟨rfl, rfl, rfl, fun terminal => ?_⟩
    rw [queued] at terminal
    cases terminal
  | counted | reported =>
    cases held
    cases found
    exact ⟨rfl, rfl, rfl, fun _ => ⟨rfl, rfl, rfl⟩⟩
  | moved task command matched output retry =>
    cases held
    cases found
    refine ⟨rfl, rfl, rfl, fun terminal => ⟨matched.same_state terminal, rfl, ?_⟩⟩
    have silent : ¬ command.output.isSome = true := by
      intro given
      rw [(output given).2] at terminal
      cases terminal
    show (if command.output.isSome = true then command.output else old.summary.output) = _
    rw [if_neg silent]
  | halfMoved task command matched retry =>
    cases held
    cases found
    exact ⟨rfl, rfl, rfl, fun terminal => ⟨matched.same_state terminal, rfl, rfl⟩⟩

end RecordStep

/-- Every step is a lifecycle call or leaves the records alone. -/
structure RecordSystem {σ Call : Type} [TaskStore σ] [LawfulStore σ]
    (step : σ → Call → Option σ) (lifecycle : StoreCall → Call) : Prop where
  calls : ∀ store call, step store (lifecycle call) = some (call.run store).1
  others : ∀ store call next, LawfulStore.Valid store → step store call = some next →
    (∃ lifecycleCall, call = lifecycle lifecycleCall) ∨
      (LawfulStore.Valid next ∧
        ∀ id, TaskStore.getEncodedTask next id = TaskStore.getEncodedTask store id)

/-- The laws of the records of one store: what the next call may do to them, what they
look like, and what stays of each of them as long as it is retained. -/
structure RecordLaws {σ Call : Type} [TaskStore σ] (step : σ → Call → Option σ)
    (lifecycle : StoreCall → Call) (store : σ) : Prop where
  started : ∀ clock command next summary,
    step store (lifecycle (.start clock command)) = some next →
    (TaskStore.startEncoded store clock command).2 = .ok summary →
    ∃ old new, TaskStore.getEncodedTask store command.id = some old ∧
      TaskStore.getEncodedTask next command.id = some new ∧ new.summary = summary ∧
      summary.stateVersion = old.summary.stateVersion + 1
  transitioned : ∀ clock command next summary,
    step store (lifecycle (.transition clock command)) = some next →
    (TaskStore.transitionEncoded store clock command).2 = .ok summary →
    ∃ old, TaskStore.getEncodedTask store command.id = some old ∧
      summary.stateVersion = old.summary.stateVersion + 1 ∧
      ∀ new, TaskStore.getEncodedTask next command.id = some new → new.summary = summary
  progressed : ∀ command next id old new,
    step store (lifecycle (.progress command)) = some next →
    TaskStore.getEncodedTask store id = some old →
    TaskStore.getEncodedTask next id = some new →
    new.summary.stateVersion = old.summary.stateVersion
  lawful : ∀ id task, TaskStore.getEncodedTask store id = some task → LawfulRecord id task
  retained : ∀ later final id old new,
    Guarded step (fun current _ => (TaskStore.getEncodedTask current id).isSome = true) store
      later →
    runActions step store later = some final →
    TaskStore.getEncodedTask store id = some old →
    TaskStore.getEncodedTask final id = some new → SameTask old new

section Runs

variable {σ Call : Type} [TaskStore σ] [LawfulStore σ] [CheckingStore σ]
  {step : σ → Call → Option σ} {lifecycle : StoreCall → Call}

open TaskStore LawfulStore

section

variable (system : RecordSystem step lifecycle)
include system

theorem RecordSystem.record_step {store next : σ} {call : Call} (valid : Valid store)
    (taken : step store call = some next) :
    Valid next ∧ ∀ id, RecordStep id (getEncodedTask store id) (getEncodedTask next id) := by
  rcases system.others store call next valid taken with ⟨inner, rfl⟩ | ⟨kept, unchanged⟩
  · rw [system.calls] at taken
    cases taken
    exact ⟨call_valid valid inner, call_record_step valid inner⟩
  · exact ⟨kept, fun id => .of_eq (unchanged id)⟩

theorem RecordSystem.laws {store : σ} (valid : Valid store)
    (lawful : ∀ id task, getEncodedTask store id = some task → LawfulRecord id task) :
    RecordLaws step lifecycle store := by
  refine ⟨?_, ?_, ?_, lawful, ?_⟩
  · intro clock command next summary taken answered
    rw [system.calls] at taken
    cases taken
    have effect := start_effect store clock command valid
    rw [answered] at effect
    cases effect with
    | started task held queued version room stored others =>
      exact ⟨task, _, held, stored, rfl, rfl⟩
  · intro clock command next summary taken answered
    rw [system.calls] at taken
    cases taken
    have effect := transition_effect store clock command valid
    rw [answered] at effect
    cases effect with
    | applied task held matched room stored others =>
      refine ⟨task, held, rfl, ?_⟩
      intro new found
      rcases stored with stored | ⟨_, gone⟩
      · cases stored.symm.trans found
        rfl
      · cases gone.symm.trans found
  · intro command next id old new taken held found
    rw [system.calls] at taken
    cases taken
    rcases (progress_effect store command valid).record id with
      same | ⟨-, task, snapshot, own, stored⟩
    · cases held.symm.trans (same.symm.trans found)
      rfl
    · cases own.symm.trans held
      cases stored.symm.trans found
      rfl
  · intro later final id old new present reached held found
    apply run_retained (fun store call next valid taken => ?_) present reached valid held found
      (SameTask.refl old)
    obtain ⟨nextValid, changes⟩ := system.record_step valid taken
    exact ⟨nextValid, fun earlier later held found same =>
      same.trans ((changes id).same_task held found)⟩

theorem RecordSystem.run_laws {initial final : σ} {calls : List Call} (valid : Valid initial)
    (lawful : ∀ id task, getEncodedTask initial id = some task → LawfulRecord id task)
    (reached : runActions step initial calls = some final) : RecordLaws step lifecycle final := by
  obtain ⟨finalValid, finalLawful⟩ := @run_preserves _ _ step
    (fun store => Valid store ∧
      ∀ id task, getEncodedTask store id = some task → LawfulRecord id task)
    (by
      rintro store call next ⟨held, records⟩ taken
      obtain ⟨nextValid, changes⟩ := system.record_step held taken
      exact ⟨nextValid, fun id => (changes id).lawful (records id)⟩)
    _ _ _ ⟨valid, lawful⟩ reached
  exact system.laws finalValid finalLawful

end

end Runs

theorem memory_record_system : RecordSystem memoryStep MemoryCall.lifecycle where
  calls _ _ := rfl
  others store call next valid taken := by
    cases taken
    cases call with
    | lifecycle inner => exact .inl ⟨inner, rfl⟩
    | acquireOwner =>
      right
      simp only [MemoryCall.run, MemoryTaskStore.acquireOwner]
      split
      · exact ⟨valid, fun _ => rfl⟩
      split
      · exact ⟨valid, fun _ => rfl⟩
      · exact ⟨⟨valid.keyed, valid.retired⟩, fun _ => rfl⟩
    | releaseOwner epoch =>
      right
      simp only [MemoryCall.run, MemoryTaskStore.releaseOwner]
      split
      · exact ⟨valid, fun _ => rfl⟩
      · exact ⟨⟨valid.keyed, valid.retired⟩, fun _ => rfl⟩

section Sqlite

variable [IdCodec]

theorem other_call_records (store : SqliteTaskStore) (call : SqliteCall)
    (other : ∀ inner, call ≠ .lifecycle inner) (id : TaskId) :
    (call.run store).getEncodedTask id = store.getEncodedTask id := by
  have slot : (call.run store).database.slot id = store.database.slot id := by
    generalize after : (call.run store).database.slot id = slotAfter
    generalize before : store.database.slot id = slotBefore
    have change := SqliteTaskStore.call_slots store call id
    rw [after, before] at change
    cases change with
    | kept => rfl
    | accepted clock request checkpoint given fits | started clock command row checkpoint given
    | transitioned clock command row checkpoint given
    | progressed command snapshot row checkpoint given
    | pruned cutoff maxRows row checkpoint given => exact (other _ given).elim
  exact congrArg (fun found : Slot => found.row.map fun row => row.storedTask id) slot

theorem sqlite_record_system : RecordSystem sqliteStep SqliteCall.lifecycle where
  calls _ _ := rfl
  others store call next valid taken := by
    cases taken
    cases call with
    | lifecycle inner => exact .inl ⟨inner, rfl⟩
    | acquireOwner lock =>
      refine .inr ⟨?_, other_call_records store _ (fun _ same => by cases same)⟩
      simp only [SqliteCall.run, SqliteTaskStore.acquireOwner]
      split
      · exact valid
      split
      · exact valid
      · exact ⟨valid.rows, valid.events⟩
    | releaseOwner =>
      refine .inr ⟨?_, other_call_records store _ (fun _ same => by cases same)⟩
      simp only [SqliteCall.run, SqliteTaskStore.releaseOwner]
      split
      · exact valid
      split
      · exact valid
      · exact valid
    | enableOutbox =>
      refine .inr ⟨?_, other_call_records store _ (fun _ same => by cases same)⟩
      simp only [SqliteCall.run, SqliteTaskStore.enableOutbox]
      split
      · exact valid
      · exact valid
    | markPublished id version =>
      exact .inr ⟨LawfulStore.mark_valid store id version valid,
        other_call_records store _ (fun _ same => by cases same)⟩
    | quarantine clock command =>
      exact .inr ⟨LawfulStore.quarantine_valid store clock command valid,
        other_call_records store _ (fun _ same => by cases same)⟩
    | reopen => exact .inr ⟨valid, fun _ => rfl⟩

end Sqlite

/-- Whatever calls a new store of either kind has seen: a successful start or transition
raises the version by one and a progress report leaves it, terminal records keep state,
attempt and output, the optional parts of a record belong to its state, and request,
identity and acceptance time stay for as long as the record is retained. -/
theorem lifecycle_record_laws [IdCodec] :
    (∀ historyCapacity maxPayloadBytes maxUnfinishedRecords calls final,
      runActions memoryStep
        (MemoryTaskStore.withLimits historyCapacity maxPayloadBytes maxUnfinishedRecords) calls =
          some final →
      RecordLaws memoryStep MemoryCall.lifecycle final) ∧
    ∀ calls final,
      runActions sqliteStep (SqliteTaskStore.opened Database.empty) calls = some final →
      RecordLaws sqliteStep SqliteCall.lifecycle final := by
  refine ⟨?_, ?_⟩
  · intro historyCapacity maxPayloadBytes maxUnfinishedRecords calls final reached
    refine memory_record_system.run_laws (with_limits_valid _ _ _) ?_ reached
    intro id task found
    cases found
  · intro calls final reached
    refine sqlite_record_system.run_laws ?_ ?_ reached
    · exact ⟨(fun id row found => by cases found), (fun event member => by cases member)⟩
    · intro id task found
      cases found

/-- A memory store with one task that has succeeded. -/
theorem lifecycle_record_laws_sample :
    ∃ final, runActions memoryStep (MemoryTaskStore.withLimits 4 64 4)
        [.lifecycle (.accept sampleClock { value := 1 } (sampleStored none [])),
          .lifecycle (sampleStarting 1 0), .lifecycle (sampleMove 1 1 1 .succeeded)] =
        some final ∧
      (final.getEncodedTask { value := 1 }).isSome = true ∧
      RecordLaws memoryStep MemoryCall.lifecycle final :=
  run_shows (by decide +kernel) fun final reached _ =>
    (@lifecycle_record_laws sampleIdCodec).1 4 64 4 _ final reached

end TaskService.Store
