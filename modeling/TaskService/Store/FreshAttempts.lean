import TaskService.Store.RecordLaws
import TaskService.Store.Revisions

/-!
# Entries into the running state

A start counts the attempt, stamps it and clears the progress of the attempt before it.
A general transition does none of this, and the lifecycle relation lets it take a queued
record to the running state as well.  As long as no transition does that, the attempt
counter is the number of times a task has entered the running state.
-/

namespace TaskService.Store

open Library Model

structure FreshAttempt (call : StoreCall) (old new : TaskSummary) : Prop where
  counted : new.attempt = old.attempt + 1
  stamped : ∃ clock command, call = .start clock command ∧
    new.startedAtMs = some command.startedAtMs
  cleared : new.progress = none

def EntersRunning (old new : StoredTask) : Prop :=
  old.summary.state ≠ .running ∧ new.summary.state = .running

instance (old new : StoredTask) : Decidable (EntersRunning old new) :=
  inferInstanceAs (Decidable (_ ∧ _))

def countEntry (count : Nat) : Option StoredTask → Option StoredTask → Nat
  | some old, some new => if EntersRunning old new then count + 1 else count
  | _, _ => 0

section Runs

variable {σ Call : Type} [TaskStore σ]

def runningEntries (step : σ → Call → Option σ) (id : TaskId) : Nat → σ → List Call → Nat
  | count, _, [] => count
  | count, store, call :: rest =>
      match step store call with
      | none => count
      | some next =>
          runningEntries step id
            (countEntry count (TaskStore.getEncodedTask store id)
              (TaskStore.getEncodedTask next id)) next rest

/-- The call is no transition that takes a queued record to the running state. -/
def StartsAttempts (lifecycle : StoreCall → Call) (store : σ) (call : Call) : Prop :=
  ∀ clock command, call = lifecycle (.transition clock command) → command.state = .running →
    ∀ task, TaskStore.getEncodedTask store command.id = some task → task.summary.state ≠ .queued

variable {command : TransitionCommand} {clock : Clock} {id : TaskId} {new old task : StoredTask}
  {after : Option StoredTask} {call : Call} {count : Nat} {calls : List Call}

/-- A transition that the lifecycle allows leads to the running state from a queued or a
running record only. -/
theorem TransitionMatches.running_source {summary : TaskSummary}
    (matched : TransitionMatches summary command) (running : command.state = .running) :
    summary.state = .queued ∨ summary.state = .running := by
  rcases matched.2.2 with allowed | annotated
  · rw [running] at allowed
    cases source : summary.state with
    | queued => exact .inl rfl
    | running => exact .inr rfl
    | blocked | succeeded | failed | panicked | cancelled =>
      rw [source] at allowed
      cases allowed
  · simp only [Bool.and_eq_true, decide_eq_true_eq, terminalCancelAnnotation] at annotated
    exact .inr (annotated.1.1.2.trans running)

variable [LawfulStore σ]

open TaskStore LawfulStore

section

variable {store : σ} (valid : Valid store)
include valid

theorem transition_enters_nothing (starts : command.state = .running →
      ∀ task, getEncodedTask store command.id = some task → task.summary.state ≠ .queued)
    (held : getEncodedTask store id = some old)
    (found : getEncodedTask (transitionEncoded store clock command).1 id = some new) :
    ¬ EntersRunning old new := by
  rintro ⟨idle, running⟩
  have not_taken : ∀ task, getEncodedTask store command.id = some task →
      TransitionMatches task.summary command → command.state = .running →
      task.summary.state = .running := by
    intro task shown matched entered
    rcases matched.running_source entered with queued | already
    · exact (starts entered task shown queued).elim
    · exact already
  rcases (transition_effect store clock command valid).record id with
    kept | ⟨rfl, task, shown, matched, ⟨-, stored⟩ | ⟨-, -, gone⟩ | ⟨-, stored⟩⟩
  · cases held.symm.trans (kept.eq_of_some found)
    exact idle running
  · cases shown.symm.trans held
    cases stored.symm.trans found
    exact idle (not_taken old shown matched running)
  · cases gone.symm.trans found
  · cases shown.symm.trans held
    cases stored.symm.trans found
    exact idle (not_taken old shown matched running)

theorem start_entry {command : StartCommand} (held : getEncodedTask store id = some old)
    (found : getEncodedTask (startEncoded store clock command).1 id = some new)
    (enters : EntersRunning old new) :
    FreshAttempt (.start clock command) old.summary new.summary := by
  rcases (start_effect store clock command valid).record id with
    same | ⟨rfl, task, shown, -, -, stored | stored⟩
  · cases held.symm.trans (same.symm.trans found)
    exact (enters.1 enters.2).elim
  · cases shown.symm.trans held
    cases stored.symm.trans found
    exact ⟨rfl, ⟨clock, command, rfl, rfl⟩, rfl⟩
  · cases shown.symm.trans held
    cases stored.symm.trans found
    exact (enters.1 enters.2).elim

theorem accept_same {given : TaskId} {request : StoredTaskRequest}
    (held : getEncodedTask store id = some old)
    (found : getEncodedTask (acceptEncoded store clock given request).1 id = some new) :
    new = old := by
  rcases (accept_effect store clock given request valid).record id with kept | ⟨-, absent, -⟩
  · cases held.symm.trans (kept.eq_of_some found)
    rfl
  · cases absent.symm.trans held

theorem progress_same_state {command : ProgressCommand} (held : getEncodedTask store id = some old)
    (found : getEncodedTask (updateProgress store command).1 id = some new) :
    new.summary.state = old.summary.state := by
  rcases (progress_effect store command valid).record id with
    same | ⟨-, task, snapshot, shown, stored⟩
  · cases held.symm.trans (same.symm.trans found)
    rfl
  · cases shown.symm.trans held
    cases stored.symm.trans found
    rfl

theorem entry_fresh {call : StoreCall} (starts : StartsAttempts (fun inner => inner) store call)
    (held : getEncodedTask store id = some old)
    (found : getEncodedTask (call.run store).1 id = some new) (enters : EntersRunning old new) :
    FreshAttempt call old.summary new.summary := by
  cases call with
  | accept =>
    cases accept_same valid held found
    exact (enters.1 enters.2).elim
  | start => exact start_entry valid held found enters
  | transition clock command =>
    exact (transition_enters_nothing valid (starts clock command rfl) held found enters).elim
  | progress command =>
    rw [EntersRunning, progress_same_state valid held found] at enters
    exact (enters.1 enters.2).elim
  | prune cutoff maxRows =>
    cases held.symm.trans ((prune_effect store cutoff maxRows valid id).eq_of_some found)
    exact (enters.1 enters.2).elim

end

/-- The attempt counter moves with a started attempt and stays otherwise. -/
theorem RecordStep.attempt {before : Option StoredTask} (change : RecordStep id before after)
    (held : before = some old) (found : after = some new) :
    EntersRunning old new ∨ new.summary.attempt = old.summary.attempt := by
  cases change with
  | kept =>
    cases held.symm.trans found
    exact .inr rfl
  | removed => cases found
  | accepted => cases held
  | started task command queued =>
    cases held
    cases found
    left
    refine ⟨?_, rfl⟩
    rw [queued]
    exact fun same => by cases same
  | counted | moved | halfMoved | reported =>
    cases held
    cases found
    exact .inr rfl

theorem RecordStep.attempt_born (change : RecordStep id none after) (found : after = some new) :
    new.summary.attempt = 0 := by
  cases change with
  | kept => cases found
  | accepted =>
    cases found
    rfl

variable {step : σ → Call → Option σ} {lifecycle : StoreCall → Call}

theorem RecordSystem.entry_fresh (system : RecordSystem step lifecycle) {store next : σ}
    (valid : Valid store) (taken : step store call = some next)
    (starts : StartsAttempts lifecycle store call) (held : getEncodedTask store id = some old)
    (found : getEncodedTask next id = some new) (enters : EntersRunning old new) :
    ∃ inner, call = lifecycle inner ∧ FreshAttempt inner old.summary new.summary := by
  rcases system.others store call next valid taken with ⟨inner, rfl⟩ | ⟨_, unchanged⟩
  · rw [system.calls] at taken
    cases taken
    refine ⟨inner, rfl, TaskService.Store.entry_fresh valid ?_ held found enters⟩
    intro clock command same
    exact starts clock command (congrArg lifecycle same)
  · cases held.symm.trans ((unchanged id).symm.trans found)
    exact (enters.1 enters.2).elim

variable [CheckingStore σ]

theorem RecordSystem.counts_entry (system : RecordSystem step lifecycle) {store next : σ}
    (valid : Valid store) (taken : step store call = some next)
    (starts : StartsAttempts lifecycle store call)
    (counted : ∀ task, getEncodedTask store id = some task → task.summary.attempt = count)
    (found : getEncodedTask next id = some task) :
    task.summary.attempt =
      countEntry count (getEncodedTask store id) (getEncodedTask next id) := by
  have change := (system.record_step valid taken).2 id
  cases held : getEncodedTask store id with
  | none =>
    rw [held] at change
    rw [change.attempt_born found]
    rfl
  | some old =>
    rw [found]
    have before := counted old held
    simp only [countEntry]
    by_cases enters : EntersRunning old task
    · obtain ⟨_, _, fresh⟩ := system.entry_fresh valid taken starts held found enters
      rw [if_pos enters, fresh.counted, before]
    · rw [if_neg enters, ← before]
      exact (change.attempt held found).resolve_left enters

theorem RecordSystem.counts_entries (system : RecordSystem step lifecycle) {store final : σ}
    (valid : Valid store)
    (counted : ∀ task, getEncodedTask store id = some task → task.summary.attempt = count)
    (guarded : Guarded step (StartsAttempts lifecycle) store calls)
    (reached : runActions step store calls = some final)
    (found : getEncodedTask final id = some task) :
    task.summary.attempt = runningEntries step id count store calls := by
  induction calls generalizing store count with
  | nil =>
    cases reached
    exact counted task found
  | cons call rest ih =>
    obtain ⟨next, taken, remaining⟩ := run_cons_eq_some.mp reached
    have later := ih (system.record_step valid taken).1
      (fun task shown => system.counts_entry valid taken guarded.1 counted shown)
      (guarded.2 next taken) remaining
    simp only [runningEntries, taken]
    exact later

/-- In a store that a run has led to: the next call enters the running state with a fresh
attempt, and every attempt counter is the number of entries so far. -/
structure FreshAttempts (step : σ → Call → Option σ) (lifecycle : StoreCall → Call)
    (initial : σ) (calls : List Call) (final : σ) : Prop where
  entered : ∀ call next id old new, StartsAttempts lifecycle final call →
    step final call = some next → getEncodedTask final id = some old →
    getEncodedTask next id = some new → EntersRunning old new →
    ∃ inner, call = lifecycle inner ∧ FreshAttempt inner old.summary new.summary
  counted : ∀ id task, getEncodedTask final id = some task →
    task.summary.attempt = runningEntries step id 0 initial calls

theorem RecordSystem.fresh_attempts (system : RecordSystem step lifecycle) {initial final : σ}
    (valid : Valid initial) (empty : ∀ id, getEncodedTask initial id = none)
    (guarded : Guarded step (StartsAttempts lifecycle) initial calls)
    (reached : runActions step initial calls = some final) :
    FreshAttempts step lifecycle initial calls final := by
  have finalValid : Valid final :=
    run_preserves (fun held taken => (system.record_step held taken).1) valid reached
  refine ⟨?_, ?_⟩
  · intro call next id old new starts taken held found enters
    exact system.entry_fresh finalValid taken starts held found enters
  · intro id task found
    refine system.counts_entries valid ?_ guarded reached found
    intro other shown
    cases (empty id).symm.trans shown

end Runs

/-- Whatever calls a new store of either kind has seen, as long as no transition took a
queued record to the running state: every entry into the running state was a fresh attempt,
and the attempt counter of a task is the number of its entries. -/
theorem running_entries_are_attempts [IdCodec] :
    (∀ historyCapacity maxPayloadBytes maxUnfinishedRecords calls final,
      Guarded memoryStep (StartsAttempts MemoryCall.lifecycle)
        (MemoryTaskStore.withLimits historyCapacity maxPayloadBytes maxUnfinishedRecords) calls →
      runActions memoryStep
        (MemoryTaskStore.withLimits historyCapacity maxPayloadBytes maxUnfinishedRecords) calls =
          some final →
      FreshAttempts memoryStep MemoryCall.lifecycle
        (MemoryTaskStore.withLimits historyCapacity maxPayloadBytes maxUnfinishedRecords) calls
        final) ∧
    ∀ calls final,
      Guarded sqliteStep (StartsAttempts SqliteCall.lifecycle)
        (SqliteTaskStore.opened Database.empty) calls →
      runActions sqliteStep (SqliteTaskStore.opened Database.empty) calls = some final →
      FreshAttempts sqliteStep SqliteCall.lifecycle (SqliteTaskStore.opened Database.empty) calls
        final := by
  refine ⟨?_, ?_⟩
  · intro historyCapacity maxPayloadBytes maxUnfinishedRecords calls final guarded reached
    exact memory_record_system.fresh_attempts (with_limits_valid _ _ _) (fun _ => rfl) guarded
      reached
  · intro calls final guarded reached
    refine sqlite_record_system.fresh_attempts ?_ (fun _ => rfl) guarded reached
    exact ⟨(fun id row found => by cases found), (fun event member => by cases member)⟩

def sampleProgressed (attempt version : Nat) : StoreCall :=
  .progress
    { id := { value := 1 }
      expectedAttempt := attempt
      progressVersion := version
      stage := none
      metrics := []
      updatedAtMs := 7 }

/-- A task that is started, reports, is queued again and is taken back to the running state
by the last call. -/
def sampleReentry (last : StoreCall) : List StoreCall :=
  [.accept sampleClock { value := 1 } (sampleStored none []), sampleStarting 1 0,
    sampleProgressed 1 1, sampleMove 1 1 1 .queued, last]

/-- Started again, the task is at its second attempt. -/
theorem running_entries_are_attempts_sample :
    ∃ final, runActions memoryStep (MemoryTaskStore.withLimits 4 64 4)
        ((sampleReentry (sampleStarting 1 2)).map .lifecycle) = some final ∧
      Present (fun summary => summary.attempt = 2) (final.getEncodedTask { value := 1 }) ∧
      FreshAttempts memoryStep MemoryCall.lifecycle (MemoryTaskStore.withLimits 4 64 4)
        ((sampleReentry (sampleStarting 1 2)).map .lifecycle) final := by
  refine run_shows (by decide +kernel) fun final reached _ =>
    (@running_entries_are_attempts sampleIdCodec).1 4 64 4 _ final ?_ reached
  refine ⟨?_, fun _ _ => ⟨?_, fun _ _ => ⟨?_, fun _ _ => ⟨?_, fun _ _ => ⟨?_, ?_⟩⟩⟩⟩⟩
  case refine_6 => exact fun _ _ => trivial
  all_goals
    intro clock command same running
    cases same
  cases running

def StaleEntry (summary : TaskSummary) : Prop :=
  summary.state = .running ∧ summary.attempt = 1 ∧ summary.startedAtMs = some 6 ∧
    summary.progress.isSome = true

instance : DecidablePred StaleEntry :=
  fun _ => inferInstanceAs (Decidable (_ ∧ _))

/-- Taken back by a transition, the task has entered the running state twice at attempt one,
with the start time and the progress of the first entry; in both stores. -/
theorem transition_reenters_stale_attempt :
    (∃ final, runActions memoryStep (MemoryTaskStore.withLimits 4 64 4)
        ((sampleReentry (sampleMove 1 2 1 .running)).map .lifecycle) = some final ∧
      Present StaleEntry (final.getEncodedTask { value := 1 }) ∧
      runningEntries memoryStep { value := 1 } 0 (MemoryTaskStore.withLimits 4 64 4)
        ((sampleReentry (sampleMove 1 2 1 .running)).map .lifecycle) = 2) ∧
    ∃ _codec : IdCodec, ∃ final,
      runActions sqliteStep (SqliteTaskStore.opened Database.empty)
        ((sampleReentry (sampleMove 1 2 1 .running)).map .lifecycle) = some final ∧
      Present StaleEntry (final.getEncodedTask { value := 1 }) ∧
      runningEntries sqliteStep { value := 1 } 0 (SqliteTaskStore.opened Database.empty)
        ((sampleReentry (sampleMove 1 2 1 .running)).map .lifecycle) = 2 := by
  refine ⟨⟨_, rfl, ?_, ?_⟩, ⟨sampleIdCodec, _, rfl, ?_, ?_⟩⟩
  all_goals decide +kernel

end TaskService.Store
