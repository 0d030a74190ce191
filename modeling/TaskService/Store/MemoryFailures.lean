import TaskService.Store.MemoryCalls

/-!
# Failed calls of the memory store

A call that returns an error leaves the state as it was, with two exceptions: a start
writes the new version before it finds the attempt counter exhausted, and a transition
writes state and retry deadline before it finds the version exhausted.
-/

namespace TaskService.Store

open Library Model

/-- Equal states, with maps compared by their entries. -/
structure MemoryState.Same (left right : MemoryState) : Prop where
  ownerEpoch : right.ownerEpoch = left.ownerEpoch
  lastOwnerEpoch : right.lastOwnerEpoch = left.lastOwnerEpoch
  encodedTasks : ∀ id, right.encodedTasks.lookup id = left.encodedTasks.lookup id
  encodedIdempotency : ∀ key,
    right.encodedIdempotency.lookup key = left.encodedIdempotency.lookup key
  encodedTerminalOrder : right.encodedTerminalOrder = left.encodedTerminalOrder
  retainedPayloadBytes : right.retainedPayloadBytes = left.retainedPayloadBytes
  unfinishedRecords : right.unfinishedRecords = left.unfinishedRecords

theorem MemoryState.Same.refl (state : MemoryState) : MemoryState.Same state state :=
  ⟨rfl, rfl, fun _ => rfl, fun _ => rfl, rfl, rfl, rfl⟩

theorem MemoryState.put_same_iff {state : MemoryState} {id : TaskId} {task : StoredTask}
    (found : state.encodedTasks.lookup id = some task) (summary : TaskSummary) :
    MemoryState.Same state (state.putSummary id task summary) ↔ summary = task.summary := by
  constructor
  · intro same
    have stored := same.encodedTasks id
    rw [put_summary_lookup, if_pos rfl, found] at stored
    exact congrArg StoredTask.summary (Option.some.inj stored)
  · rintro rfl
    refine ⟨rfl, rfl, ?_, fun _ => rfl, rfl, rfl, rfl⟩
    intro other
    rw [put_summary_lookup]
    split_ifs with same
    · rw [same, found]
    · rfl

namespace MemoryTaskStore

/-- A start or a transition of a record whose counter is at its maximum, all other checks
passed, and the transition asking for another state or deadline. -/
def CounterExhausted (store : MemoryTaskStore) : MemoryCall → Prop
  | .lifecycle (.start _ command) =>
      ∃ task, store.getEncodedTask command.id = some task ∧
        task.summary.stateVersion = command.expectedStateVersion ∧
        task.summary.state = .queued ∧
        task.summary.stateVersion + 1 < u64Bound ∧ u32Bound ≤ task.summary.attempt + 1
  | .lifecycle (.transition _ command) =>
      command.state.validateDiagnostics = .ok () ∧
        validateEncodedOutput command.state command.output = .ok () ∧
        ∃ task, store.getEncodedTask command.id = some task ∧
          transitionCheck task.summary command = .ok () ∧
          u64Bound ≤ task.summary.stateVersion + 1 ∧
          (task.summary.state ≠ command.state ∨
            task.summary.retryNotBeforeMs ≠ command.retryNotBeforeMs)
  | _ => False

variable {store : MemoryTaskStore}

/-- The reclaim loop of an acceptance that passed the capacity check succeeds, so an
acceptance never fails after an eviction. -/
theorem accept_error_unchanged (consistent : store.Consistent) (clock : Clock) (id : TaskId)
    (request : StoredTaskRequest) (error : StoreError)
    (failed : (store.acceptEncoded clock id request).2 = .error error) :
    (store.acceptEncoded clock id request).1 = store := by
  unfold acceptEncoded acceptEncodedBy at failed ⊢
  split at failed
  · rw [if_pos (by assumption)]
  rename_i named
  rw [if_neg named]
  cases known : store.idempotentId request with
  | some existing =>
    simp only
    split
    · rfl
    split
    · rfl
    · rfl
  | none =>
    simp only [known] at failed ⊢
    split at failed
    · rw [if_pos (by assumption)]
    rename_i fresh
    rw [if_neg fresh]
    split at failed
    · rw [if_pos (by assumption)]
    rename_i room
    rw [if_neg room]
    simp only [acceptNew, acceptNewBy] at failed ⊢
    split at failed
    · rw [if_pos (by assumption)]
    rename_i fits
    have reclaimed := MemoryState.reclaim_succeeds
      (store.maxPayloadBytes - request.payload.bytes.length) consistent.accounts (by omega)
    rw [if_pos reclaimed] at failed
    cases failed

/-- The outcomes of a start: rejected without a trace, rejected with the new version
already written, or accepted. -/
theorem start_outcome (store : MemoryTaskStore) (clock : Clock) (command : StartCommand) :
    (¬ store.CounterExhausted (.lifecycle (.start clock command)) ∧
      ((∃ error, store.startEncoded command = (store, .error error)) ∨
        ∃ next summary, store.startEncoded command = (next, .ok summary))) ∨
    (store.CounterExhausted (.lifecycle (.start clock command)) ∧
      ∃ task error, store.getEncodedTask command.id = some task ∧
        store.startEncoded command =
          (store.withState (store.state.putSummary command.id task
            { task.summary with stateVersion := task.summary.stateVersion + 1 }),
            .error error)) := by
  have own : ∀ task, store.getEncodedTask command.id = some task →
      (store.CounterExhausted (.lifecycle (.start clock command)) ↔
        task.summary.stateVersion = command.expectedStateVersion ∧
        task.summary.state = .queued ∧
        task.summary.stateVersion + 1 < u64Bound ∧ u32Bound ≤ task.summary.attempt + 1) := by
    intro task held
    simp [CounterExhausted, held]
  unfold startEncoded
  split
  · rename_i absent
    exact .inl ⟨by simp [CounterExhausted, absent], .inl ⟨_, rfl⟩⟩
  rename_i task held
  rw [own task held]
  split
  · rename_i lost
    exact .inl ⟨by tauto, .inl ⟨_, rfl⟩⟩
  rename_i matched
  push Not at matched
  split
  · rename_i overflow
    have full := checked_add_eq_none.mp overflow
    exact .inl ⟨by omega, .inl ⟨_, rfl⟩⟩
  rename_i version increment
  obtain ⟨room, rfl⟩ := checked_add_eq_some.mp increment
  split
  · rename_i overflow
    have full := checked_add_eq_none.mp overflow
    exact .inr ⟨⟨matched.1, matched.2, room, full⟩, task, _, held, rfl⟩
  · rename_i attempt counted
    have free := (checked_add_eq_some.mp counted).1
    exact .inl ⟨by omega, .inr ⟨_, _, rfl⟩⟩

theorem transition_outcome (store : MemoryTaskStore) (clock : Clock) (command : TransitionCommand) :
    (¬ store.CounterExhausted (.lifecycle (.transition clock command)) ∧
      ((∃ next error, store.transitionEncoded command = (next, .error error) ∧
          MemoryState.Same store.state next.state) ∨
        ∃ next summary, store.transitionEncoded command = (next, .ok summary))) ∨
    (store.CounterExhausted (.lifecycle (.transition clock command)) ∧
      ∃ next error, store.transitionEncoded command = (next, .error error) ∧
        ¬ MemoryState.Same store.state next.state) := by
  have same := MemoryState.Same.refl store.state
  have own : ∀ task, store.getEncodedTask command.id = some task →
      (store.CounterExhausted (.lifecycle (.transition clock command)) ↔
        command.state.validateDiagnostics = .ok () ∧
        validateEncodedOutput command.state command.output = .ok () ∧
        transitionCheck task.summary command = .ok () ∧
        u64Bound ≤ task.summary.stateVersion + 1 ∧
        (task.summary.state ≠ command.state ∨
          task.summary.retryNotBeforeMs ≠ command.retryNotBeforeMs)) := by
    intro task held
    simp [CounterExhausted, held]
  unfold transitionEncoded transitionEncodedBy
  split
  · rename_i message invalid
    exact .inl ⟨by simp [CounterExhausted, invalid], .inl ⟨_, _, rfl, same⟩⟩
  split
  · rename_i error invalid
    exact .inl ⟨by simp [CounterExhausted, invalid], .inl ⟨_, _, rfl, same⟩⟩
  split
  · rename_i absent
    exact .inl ⟨by simp [CounterExhausted, absent], .inl ⟨_, _, rfl, same⟩⟩
  rename_i diagnosed _ produced _ task held
  rw [own task held]
  split
  · rename_i error failed
    exact .inl ⟨by simp [failed], .inl ⟨_, _, rfl, same⟩⟩
  rename_i passed
  split
  · rename_i overflow
    have full := checked_add_eq_none.mp overflow
    have written := MemoryState.put_same_iff held
      { task.summary with
        state := command.state
        retryNotBeforeMs := command.retryNotBeforeMs }
    by_cases moved : task.summary.state ≠ command.state ∨
        task.summary.retryNotBeforeMs ≠ command.retryNotBeforeMs
    · refine .inr ⟨⟨diagnosed, produced, passed, full, moved⟩, _, _, rfl, ?_⟩
      intro unchanged
      have kept := written.mp unchanged
      rcases moved with other | other
      · exact other (congrArg TaskSummary.state kept).symm
      · exact other (congrArg TaskSummary.retryNotBeforeMs kept).symm
    · refine .inl ⟨by tauto, .inl ⟨_, _, rfl, written.mpr ?_⟩⟩
      push Not at moved
      rw [← moved.1, ← moved.2]
  · rename_i version increment
    have room := (checked_add_eq_some.mp increment).1
    exact .inl ⟨by omega, .inr ⟨_, _, rfl⟩⟩

theorem failed_call_same_iff (consistent : store.Consistent) (call : MemoryCall) :
    ((call.run store).2.failed = true →
      MemoryState.Same store.state (call.run store).1.state) ↔ ¬ store.CounterExhausted call := by
  have same := MemoryState.Same.refl store.state
  cases call with
  | lifecycle call =>
    cases call with
    | accept clock id request =>
      refine iff_of_true ?_ (fun exhausted => exhausted)
      intro failed
      show MemoryState.Same store.state (store.acceptEncoded clock id request).1.state
      have answered : (StoreAnswer.accepted
          (store.acceptEncoded clock id request).2).failed = true := failed
      cases answer : (store.acceptEncoded clock id request).2 with
      | error error =>
        rw [accept_error_unchanged consistent clock id request error answer]
        exact same
      | ok outcome =>
        rw [answer] at answered
        cases answered
    | start clock command =>
      show ((StoreAnswer.summary (store.startEncoded command).2).failed = true →
        MemoryState.Same store.state (store.startEncoded command).1.state) ↔ _
      rcases start_outcome store clock command with
        ⟨free, ⟨error, ended⟩ | ⟨next, summary, ended⟩⟩ | ⟨exhausted, task, error, held, ended⟩
      · rw [ended]
        exact iff_of_true (fun _ => same) free
      · rw [ended]
        exact iff_of_true (fun failed => by cases failed) free
      · rw [ended]
        refine iff_of_false ?_ (fun free => free exhausted)
        intro unchanged
        have kept := (MemoryState.put_same_iff held _).mp (unchanged rfl)
        have version := congrArg TaskSummary.stateVersion kept
        exact Nat.succ_ne_self _ version
    | transition clock command =>
      show ((StoreAnswer.summary (store.transitionEncoded command).2).failed = true →
        MemoryState.Same store.state (store.transitionEncoded command).1.state) ↔ _
      rcases transition_outcome store clock command with
        ⟨free, ⟨next, error, ended, kept⟩ | ⟨next, summary, ended⟩⟩ |
          ⟨exhausted, next, error, ended, changed⟩
      · rw [ended]
        exact iff_of_true (fun _ => kept) free
      · rw [ended]
        exact iff_of_true (fun failed => by cases failed) free
      · rw [ended]
        exact iff_of_false (fun unchanged => changed (unchanged rfl))
          (fun free => free exhausted)
    | progress command =>
      refine iff_of_true ?_ (fun exhausted => exhausted)
      show (StoreAnswer.summary (store.updateProgress command).2).failed = true →
        MemoryState.Same store.state (store.updateProgress command).1.state
      unfold updateProgress
      split
      · exact fun _ => same
      split
      · exact fun _ => same
      split
      · exact fun _ => same
      · exact fun failed => by cases failed
    | prune =>
      exact iff_of_true (fun failed => by cases failed) (fun exhausted => exhausted)
  | acquireOwner =>
    refine iff_of_true ?_ (fun exhausted => exhausted)
    show (MemoryAnswer.acquired store.acquireOwner.2).failed = true →
      MemoryState.Same store.state store.acquireOwner.1.state
    unfold acquireOwner
    split
    · exact fun _ => same
    split
    · exact fun _ => same
    · exact fun failed => by cases failed
  | releaseOwner epoch =>
    refine iff_of_true ?_ (fun exhausted => exhausted)
    show (MemoryAnswer.released (store.releaseOwner epoch).2).failed = true →
      MemoryState.Same store.state (store.releaseOwner epoch).1.state
    unfold releaseOwner
    split
    · exact fun _ => same
    · exact fun failed => by cases failed

end MemoryTaskStore

/-- A failed call leaves the state as it was exactly when it does not run into an
exhausted counter after its other checks. -/
theorem failed_call_unchanged_iff (store : MemoryTaskStore) (consistent : store.Consistent)
    (call : MemoryCall) :
    ((call.run store).2.failed = true →
      MemoryState.Same store.state (call.run store).1.state) ↔ ¬ store.CounterExhausted call :=
  MemoryTaskStore.failed_call_same_iff consistent call

section Samples

def sampleAttempts (attempt : Nat) : StoredTask :=
  { request := sampleStored none []
    summary := { acceptedSummary { value := 1 } (sampleStored none []) 5 with attempt := attempt } }

def sampleCounted (attempt : Nat) : MemoryTaskStore :=
  let empty := MemoryTaskStore.withLimits 4 64 4
  let accepted := (empty.acceptEncoded sampleClock { value := 1 } (sampleStored none [])).1
  accepted.withState (accepted.state.putSummary { value := 1 } (sampleAttempts 0)
    (sampleAttempts attempt).summary)

theorem sample_counted_consistent (attempt : Nat) : (sampleCounted attempt).Consistent :=
  MemoryTaskStore.put_consistent
    (MemoryTaskStore.accept_consistent (MemoryTaskStore.with_limits_consistent 4 64 4)
      sampleClock { value := 1 } (sampleStored none []))
    (by decide) (sampleAttempts attempt).summary rfl rfl

/-- The start of a record at the last attempt number fails and leaves version 1 behind. -/
theorem failed_start_keeps_version :
    (sampleCounted (u32Bound - 1)).Consistent ∧
      ((MemoryCall.lifecycle (sampleStarting 1 0)).run
        (sampleCounted (u32Bound - 1))).2.failed = true ∧
      ¬ MemoryState.Same (sampleCounted (u32Bound - 1)).state
        ((MemoryCall.lifecycle (sampleStarting 1 0)).run
          (sampleCounted (u32Bound - 1))).1.state := by
  refine ⟨sample_counted_consistent _, by decide +kernel, ?_⟩
  intro same
  have version := congrArg (Option.map fun task => task.summary.stateVersion)
    (same.encodedTasks { value := 1 })
  revert version
  decide +kernel

/-- A start that loses its race leaves no trace. -/
theorem failed_call_unchanged_sample :
    (sampleCounted 3).Consistent ∧
      ((MemoryCall.lifecycle (sampleStarting 1 4)).run (sampleCounted 3)).2.failed = true ∧
      MemoryState.Same (sampleCounted 3).state
        ((MemoryCall.lifecycle (sampleStarting 1 4)).run (sampleCounted 3)).1.state := by
  have failed : ((MemoryCall.lifecycle (sampleStarting 1 4)).run
      (sampleCounted 3)).2.failed = true := by decide +kernel
  refine ⟨sample_counted_consistent 3, failed, ?_⟩
  apply (failed_call_unchanged_iff (sampleCounted 3) (sample_counted_consistent 3)
    (.lifecycle (sampleStarting 1 4))).mpr ?_ failed
  rintro ⟨task, held, version, _⟩
  have found : (sampleCounted 3).getEncodedTask { value := 1 } = some (sampleAttempts 3) := by
    decide +kernel
  cases held.symm.trans found
  cases version

end Samples

end TaskService.Store
