import TaskService.Store.MemoryInvariant

/-!
# Runs of the memory store

Every call of the memory store, the owner operations included, as one step.  Each call
is also given with subtractions that report an underflow; along every run the two agree.
-/

namespace TaskService.Store

open Library Model MemoryState

inductive MemoryCall where
  | lifecycle (call : StoreCall)
  | acquireOwner
  | releaseOwner (epoch : Nat)

inductive MemoryAnswer where
  | lifecycle (answer : StoreAnswer)
  | acquired (answer : Except StoreError Nat)
  | released (answer : Except StoreError Unit)

def MemoryAnswer.failed : MemoryAnswer → Bool
  | .lifecycle answer => answer.failed
  | .acquired (.error _) | .released (.error _) => true
  | .acquired (.ok _) | .released (.ok _) => false

def MemoryCall.run (store : MemoryTaskStore) : MemoryCall → MemoryTaskStore × MemoryAnswer
  | .lifecycle call => ((call.run store).1, .lifecycle (call.run store).2)
  | .acquireOwner => (store.acquireOwner.1, .acquired store.acquireOwner.2)
  | .releaseOwner epoch => ((store.releaseOwner epoch).1, .released (store.releaseOwner epoch).2)

def memoryStep (store : MemoryTaskStore) (call : MemoryCall) : Option MemoryTaskStore :=
  some (call.run store).1

namespace MemoryState

def removeChecked (state : MemoryState) (id : TaskId) : Option MemoryState :=
  match state.encodedTasks.lookup id with
  | none => some state
  | some task => do
      let bytes ← checkedSub state.retainedPayloadBytes task.request.payload.bytes.length
      let records ←
        if task.summary.state.isTerminal then some state.unfinishedRecords
        else checkedSub state.unfinishedRecords 1
      some
        { (state.removeEncodedTask id).1 with
          retainedPayloadBytes := bytes
          unfinishedRecords := records }

def evictChecked (state : MemoryState) : Option (MemoryState × Bool) :=
  match state.encodedTerminalOrder.head? with
  | none => some (state, false)
  | some id => do
      let next ← state.removeChecked id
      some (next, (state.removeEncodedTask id).2.isSome)

def evictUntilChecked (done : MemoryState → Bool) :
    Nat → MemoryState → Option (MemoryState × Bool)
  | 0, state => some (state, done state)
  | rounds + 1, state =>
      if done state then some (state, true)
      else do
        let evicted ← state.evictChecked
        if evicted.2 then evictUntilChecked done rounds evicted.1
        else some (evicted.1, false)

/-- The decrement of a retiring record saturates in the source, so only the evictions
that follow are checked. -/
def retireChecked (state : MemoryState) (id : TaskId) (capacity : Nat) : Option MemoryState :=
  (evictUntilChecked (fun state => decide (state.encodedTerminalOrder.length ≤ capacity))
    (state.retiring id).encodedTerminalOrder.length (state.retiring id)).map Prod.fst

variable {state : MemoryState}

theorem remove_checked (accounts : state.Accounts) (id : TaskId) :
    state.removeChecked id = some (state.removeEncodedTask id).1 := by
  unfold removeChecked
  cases found : state.encodedTasks.lookup id with
  | none => simp only [removeEncodedTask, found]
  | some task =>
    have bytes := checked_sub_of_le (accounts.payload_le found)
    simp only [payloadSize] at bytes
    simp only [bytes, Option.bind_eq_bind, Option.bind_some]
    cases terminal : task.summary.state.isTerminal with
    | true => simp [removeEncodedTask, found, terminal]
    | false =>
      have records := checked_sub_of_le
        (Nat.succ_le_of_lt (accounts.records_pos found terminal))
      simp only [Bool.false_eq_true, if_false, Nat.zero_add, Nat.succ_eq_add_one] at records ⊢
      rw [records]
      simp [removeEncodedTask, found, terminal]

theorem evict_checked (accounts : state.Accounts) :
    state.evictChecked = some state.evictOldestEncodedTerminal := by
  unfold evictChecked evictOldestEncodedTerminal
  cases state.encodedTerminalOrder.head? with
  | none => rfl
  | some id =>
    simp only [remove_checked accounts]
    rfl

theorem evict_until_checked (done : MemoryState → Bool) (rounds : Nat) (accounts : state.Accounts) :
    evictUntilChecked done rounds state = some (evictUntil done rounds state) := by
  induction rounds generalizing state with
  | zero => rfl
  | succ rounds ih =>
    have next := ih (evict_oldest_spec accounts).1
    simp only [evictUntilChecked, evictUntil, evict_checked accounts, Option.bind_eq_bind,
      Option.bind_some]
    split
    · rfl
    · split
      · exact next
      · rfl

theorem remove_all_checked (ids : List TaskId) (accounts : state.Accounts) :
    ids.foldlM removeChecked state =
      some (ids.foldl (fun current id => (current.removeEncodedTask id).1) state) := by
  induction ids generalizing state with
  | nil => rfl
  | cons id rest ih =>
    rw [List.foldlM_cons, remove_checked accounts]
    exact ih (remove_accounts accounts id)

end MemoryState

namespace MemoryTaskStore

def acceptNewChecked (store : MemoryTaskStore) (clock : Clock) (id : TaskId)
    (request : StoredTaskRequest) : Option (MemoryTaskStore × Except StoreError AcceptOutcome) :=
  store.acceptNewBy some
    (fun go => do
      let limit ← checkedSub store.maxPayloadBytes request.payload.bytes.length
      let reclaimed ←
        evictUntilChecked (fun state => decide (state.retainedPayloadBytes ≤ limit))
          store.state.encodedTerminalOrder.length store.state
      go reclaimed)
    clock id request

def acceptChecked (store : MemoryTaskStore) (clock : Clock) (id : TaskId)
    (request : StoredTaskRequest) : Option (MemoryTaskStore × Except StoreError AcceptOutcome) :=
  store.acceptEncodedBy some (store.acceptNewChecked clock id request) id request

def applyTransitionChecked (store : MemoryTaskStore) (task : StoredTask)
    (command : TransitionCommand) : Option MemoryState :=
  let written := store.state.putSummary command.id task (transitionedSummary task.summary command)
  if !task.summary.state.isTerminal && command.state.isTerminal then
    written.retireChecked command.id store.historyCapacity
  else some written

def transitionChecked (store : MemoryTaskStore) (command : TransitionCommand) :
    Option (MemoryTaskStore × Except StoreError TaskSummary) :=
  store.transitionEncodedBy some
    (fun task go => (store.applyTransitionChecked task command).bind go) command

def expiredIds (store : MemoryTaskStore) (cutoff maxRows : Nat) : List TaskId :=
  ((((store.state.encodedTasks.values.map StoredTask.summary).filterMap
    (expiredAt cutoff)).insertionSort fun left right => left.le right = true).take maxRows).map
      TaskCursor.id

def pruneChecked (store : MemoryTaskStore) (cutoff maxRows : Nat) :
    Option (MemoryTaskStore × Except StoreError Nat) := do
  let state ← (store.expiredIds cutoff maxRows).foldlM MemoryState.removeChecked store.state
  some (store.withState state, .ok (store.expiredIds cutoff maxRows).length)

end MemoryTaskStore

/-- A call whose plain subtractions report an underflow. -/
def MemoryCall.runChecked (store : MemoryTaskStore) :
    MemoryCall → Option (MemoryTaskStore × MemoryAnswer)
  | .lifecycle (.accept clock id request) =>
      (store.acceptChecked clock id request).map fun done =>
        (done.1, .lifecycle (.accepted done.2))
  | .lifecycle (.transition _ command) =>
      (store.transitionChecked command).map fun done => (done.1, .lifecycle (.summary done.2))
  | .lifecycle (.prune cutoff maxRows) =>
      (store.pruneChecked cutoff maxRows).map fun done => (done.1, .lifecycle (.pruned done.2))
  | call => some (call.run store)

namespace MemoryTaskStore

/-- The representation invariant: the redundant structures agree with the records and
stay within the limits. -/
structure Consistent (store : MemoryTaskStore) : Prop where
  accounts : store.state.Accounts
  payload : store.state.retainedPayloadBytes ≤ store.maxPayloadBytes
  records : store.state.unfinishedRecords ≤ store.maxUnfinishedRecords
  history : store.state.encodedTerminalOrder.length ≤ store.historyCapacity

variable {store : MemoryTaskStore}

theorem Consistent.shrink (consistent : store.Consistent) {state : MemoryState}
    (accounts : state.Accounts) (smaller : MemoryState.Shrinks store.state state) :
    (store.withState state).Consistent :=
  ⟨accounts, smaller.payload.trans consistent.payload,
    smaller.records.trans consistent.records, smaller.history.trans consistent.history⟩

theorem accept_new_checked (consistent : store.Consistent) (clock : Clock) (id : TaskId)
    (request : StoredTaskRequest) :
    store.acceptNewChecked clock id request = some (store.acceptNew clock id request) := by
  simp only [acceptNewChecked, acceptNew, acceptNewBy]
  split
  · rfl
  · rename_i room
    have fits : request.payload.bytes.length ≤ store.maxPayloadBytes := by omega
    rw [checked_sub_of_le fits]
    simp only [Option.bind_eq_bind, Option.bind_some, reclaimPayload,
      evict_until_checked _ _ consistent.accounts]
    exact (apply_ite some _ _ _).symm

theorem accept_checked (consistent : store.Consistent) (clock : Clock) (id : TaskId)
    (request : StoredTaskRequest) :
    store.acceptChecked clock id request = some (store.acceptEncoded clock id request) := by
  unfold acceptChecked acceptEncoded acceptEncodedBy
  split
  · rfl
  cases store.idempotentId request with
  | some existing =>
    simp only
    cases store.getEncodedTask existing with
    | none => rfl
    | some task =>
      simp only
      split
      · rfl
      · rfl
  | none =>
    simp only
    split
    · rfl
    split
    · rfl
    · exact accept_new_checked consistent clock id request

variable {task : StoredTask}

theorem apply_transition_consistent (consistent : store.Consistent) {command : TransitionCommand}
    (held : store.getEncodedTask command.id = some task)
    (matched : TransitionMatches task.summary command) :
    store.applyTransitionChecked task command = some (store.applyTransition task command) ∧
      (store.withState (store.applyTransition task command)).Consistent := by
  simp only [applyTransitionChecked, applyTransition]
  split
  · rename_i retires
    simp only [Bool.and_eq_true, Bool.not_eq_true'] at retires
    have retired := retiring_accounts consistent.accounts held
      (transitionedSummary task.summary command) rfl retires.1 retires.2
    obtain ⟨accounts, smaller⟩ := evict_until_accounts
      (fun state => decide (state.encodedTerminalOrder.length ≤ store.historyCapacity))
      (store.state.encodedTerminalOrder ++ [command.id]).length retired
    refine ⟨?_, accounts, smaller.payload.trans consistent.payload,
      (smaller.records.trans (Nat.sub_le _ _)).trans consistent.records,
      trim_within store.historyCapacity _ retired (Nat.le_add_right _ _)⟩
    simp only [retireChecked, evict_until_checked _ _ retired]
    rfl
  · rename_i stays
    refine ⟨rfl, ?_, consistent.payload, consistent.records, consistent.history⟩
    apply put_accounts consistent.accounts held (transitionedSummary task.summary command) rfl
    show command.state.isTerminal = task.summary.state.isTerminal
    cases before : task.summary.state.isTerminal with
    | true => exact matched.keeps_terminal before
    | false =>
      simp only [before, Bool.not_false, Bool.true_and, Bool.not_eq_true] at stays
      exact stays

theorem transition_checked (consistent : store.Consistent) (command : TransitionCommand) :
    store.transitionChecked command = some (store.transitionEncoded command) := by
  unfold transitionChecked transitionEncoded transitionEncodedBy
  cases command.state.validateDiagnostics with
  | error message => rfl
  | ok _ =>
    simp only
    cases validateEncodedOutput command.state command.output with
    | error error => rfl
    | ok _ =>
      simp only
      cases held : store.getEncodedTask command.id with
      | none => rfl
      | some task =>
        simp only
        cases checked : transitionCheck task.summary command with
        | error error => rfl
        | ok _ =>
          simp only
          cases checkedAdd u64Bound task.summary.stateVersion 1 with
          | none => rfl
          | some version =>
            simp only [(apply_transition_consistent consistent held
              (transition_check_ok checked)).1]
            rfl

section

variable (consistent : store.Consistent)
include consistent

theorem accept_consistent (clock : Clock) (id : TaskId) (request : StoredTaskRequest) :
    (store.acceptEncoded clock id request).1.Consistent := by
  unfold acceptEncoded acceptEncodedBy
  split
  · exact consistent
  split
  · split
    · exact consistent
    split
    · exact consistent
    · exact consistent
  · rename_i unknown
    split
    · exact consistent
    rename_i fresh
    split
    · exact consistent
    rename_i room
    simp only [acceptNew, acceptNewBy]
    split
    · exact consistent
    rename_i fits
    let done (state : MemoryState) : Bool :=
      decide (state.retainedPayloadBytes ≤ store.maxPayloadBytes - request.payload.bytes.length)
    obtain ⟨accounts, smaller⟩ :=
      evict_until_accounts done store.state.encodedTerminalOrder.length consistent.accounts
    have evicted :=
      evict_until_evicts done store.state.encodedTerminalOrder.length consistent.accounts.sound
    split
    · rename_i reclaimed
      have within := reclaim_within _ _ reclaimed
      refine ⟨insert_accounts accounts id request clock.now ?_ ?_, ?_, ?_,
        smaller.history.trans consistent.history⟩
      · exact evicted.absent (Option.not_isSome_iff_eq_none.mp fresh)
      · exact fun key carried => accounts.free_of_evicted consistent.accounts evicted
          (by rwa [idempotentId, carried] at unknown)
      · show _ + request.payload.bytes.length ≤ store.maxPayloadBytes
        omega
      · exact Nat.lt_of_le_of_lt smaller.records (Nat.not_le.mp room)
    · exact consistent.shrink accounts smaller

theorem put_consistent {id : TaskId} (held : store.getEncodedTask id = some task)
    (summary : TaskSummary) (identity : summary.id = task.summary.id)
    (side : summary.state.isTerminal = task.summary.state.isTerminal) :
    (store.withState (store.state.putSummary id task summary)).Consistent :=
  ⟨put_accounts consistent.accounts held summary identity side, consistent.payload,
    consistent.records, consistent.history⟩

theorem start_consistent (command : StartCommand) : (store.startEncoded command).1.Consistent := by
  unfold startEncoded
  split
  · exact consistent
  rename_i task held
  split
  · exact consistent
  rename_i matched
  push Not at matched
  split
  · exact consistent
  split
  · exact put_consistent consistent held _ rfl rfl
  · apply put_consistent consistent held (startedSummary task.summary command) rfl
    rw [matched.2]
    rfl

theorem progress_consistent (command : ProgressCommand) :
    (store.updateProgress command).1.Consistent := by
  unfold updateProgress
  split
  · exact consistent
  split
  · exact consistent
  rename_i task held
  split
  · exact consistent
  · exact put_consistent consistent held _ rfl rfl

def CountersBelowMax (store : MemoryTaskStore) : Prop :=
  ∀ task ∈ store.state.encodedTasks.values,
    task.summary.stateVersion + 1 < u64Bound ∧ task.summary.attempt + 1 < u32Bound

instance (store : MemoryTaskStore) : Decidable store.CountersBelowMax :=
  inferInstanceAs (Decidable (∀ task ∈ store.state.encodedTasks.values, _))

theorem transition_consistent (command : TransitionCommand)
    (below : ∀ task, store.getEncodedTask command.id = some task →
      task.summary.stateVersion + 1 < u64Bound) :
    (store.transitionEncoded command).1.Consistent := by
  unfold transitionEncoded transitionEncodedBy
  split
  · exact consistent
  split
  · exact consistent
  split
  · exact consistent
  rename_i task held
  split
  · exact consistent
  rename_i passed
  split
  · rename_i overflow
    -- The half-written record needs a version at its maximum.
    have full := checked_add_eq_none.mp overflow
    have room := below task held
    omega
  · exact (apply_transition_consistent consistent held (transition_check_ok passed)).2

theorem prune_consistent (cutoff maxRows : Nat) :
    (store.pruneTerminalBefore cutoff maxRows).1.Consistent := by
  obtain ⟨accounts, smaller⟩ := remove_all_accounts
    (store.expiredIds cutoff maxRows) consistent.accounts
  exact consistent.shrink accounts smaller

theorem owner_consistent (current : Option Nat) (last : Nat) :
    (store.withState { store.state with
      ownerEpoch := current, lastOwnerEpoch := last }).Consistent :=
  ⟨⟨consistent.accounts.keyed, consistent.accounts.payload, consistent.accounts.records,
    consistent.accounts.order, consistent.accounts.nodup, consistent.accounts.index⟩,
    consistent.payload, consistent.records, consistent.history⟩

theorem call_consistent (below : store.CountersBelowMax) (call : MemoryCall) :
    (call.run store).1.Consistent := by
  cases call with
  | lifecycle call =>
    cases call with
    | accept clock id request => exact accept_consistent consistent clock id request
    | start clock command => exact start_consistent consistent command
    | transition clock command =>
      refine transition_consistent consistent command ?_
      intro task held
      exact (below task ((Table.mem_values_iff _ _).mpr ⟨command.id, held⟩)).1
    | progress command => exact progress_consistent consistent command
    | prune cutoff maxRows => exact prune_consistent consistent cutoff maxRows
  | acquireOwner =>
    simp only [MemoryCall.run, acquireOwner]
    split
    · exact consistent
    split
    · exact consistent
    · exact owner_consistent consistent _ _
  | releaseOwner epoch =>
    simp only [MemoryCall.run, releaseOwner]
    split
    · exact consistent
    · exact owner_consistent consistent _ _

theorem call_checked (call : MemoryCall) : call.runChecked store = some (call.run store) := by
  cases call with
  | lifecycle call =>
    cases call with
    | accept =>
      simp only [MemoryCall.runChecked, accept_checked consistent]
      rfl
    | start | progress => rfl
    | transition =>
      simp only [MemoryCall.runChecked, transition_checked consistent]
      rfl
    | prune =>
      simp only [MemoryCall.runChecked, pruneChecked, remove_all_checked _ consistent.accounts]
      rfl
  | acquireOwner | releaseOwner epoch => rfl

end

theorem call_limits (store : MemoryTaskStore) (call : MemoryCall) :
    ∃ state, (call.run store).1 = store.withState state := by
  have kept : ∃ state, store = store.withState state := ⟨store.state, rfl⟩
  cases call with
  | lifecycle call =>
    cases call with
    | accept clock id request =>
      show ∃ state, (store.acceptEncoded clock id request).1 = store.withState state
      simp only [acceptEncoded, acceptEncodedBy, acceptNew, acceptNewBy]
      repeat' split
      all_goals first | exact kept | exact ⟨_, rfl⟩
    | start clock command =>
      show ∃ state, (store.startEncoded command).1 = store.withState state
      unfold startEncoded
      repeat' split
      all_goals first | exact kept | exact ⟨_, rfl⟩
    | transition clock command =>
      show ∃ state, (store.transitionEncoded command).1 = store.withState state
      unfold transitionEncoded transitionEncodedBy
      repeat' split
      all_goals first | exact kept | exact ⟨_, rfl⟩
    | progress command =>
      show ∃ state, (store.updateProgress command).1 = store.withState state
      unfold updateProgress
      repeat' split
      all_goals first | exact kept | exact ⟨_, rfl⟩
    | prune => exact ⟨_, rfl⟩
  | acquireOwner =>
    show ∃ state, store.acquireOwner.1 = store.withState state
    unfold acquireOwner
    repeat' split
    all_goals first | exact kept | exact ⟨_, rfl⟩
  | releaseOwner epoch =>
    show ∃ state, (store.releaseOwner epoch).1 = store.withState state
    unfold releaseOwner
    split
    · exact kept
    · exact ⟨_, rfl⟩

theorem with_limits_consistent (historyCapacity maxPayloadBytes maxUnfinishedRecords : Nat) :
    (withLimits historyCapacity maxPayloadBytes maxUnfinishedRecords).Consistent := by
  refine ⟨⟨?_, rfl, rfl, ?_, List.nodup_nil, ?_⟩, Nat.zero_le _, Nat.zero_le _, Nat.zero_le _⟩
  · intro id task found
    cases found
  · intro id
    simp [withLimits]
  · intro key id
    simp [withLimits]

theorem run_consistent (historyCapacity maxPayloadBytes maxUnfinishedRecords : Nat)
    (calls : List MemoryCall) (final : MemoryTaskStore)
    (below : Guarded memoryStep (fun store _ => store.CountersBelowMax)
      (withLimits historyCapacity maxPayloadBytes maxUnfinishedRecords) calls)
    (reached : runActions memoryStep
      (withLimits historyCapacity maxPayloadBytes maxUnfinishedRecords) calls = some final) :
    final.Consistent ∧ final.historyCapacity = historyCapacity ∧
      final.maxPayloadBytes = maxPayloadBytes ∧
      final.maxUnfinishedRecords = maxUnfinishedRecords := by
  refine @run_invariant _ _ memoryStep (fun store _ => store.CountersBelowMax)
    (fun store => store.Consistent ∧ store.historyCapacity = historyCapacity ∧
      store.maxPayloadBytes = maxPayloadBytes ∧ store.maxUnfinishedRecords = maxUnfinishedRecords)
    ?_ _ _ _ ?_ below reached
  · rintro store call next counters ⟨consistent, limits⟩ taken
    cases taken
    refine ⟨call_consistent consistent counters call, ?_⟩
    obtain ⟨state, same⟩ := call_limits store call
    rw [same]
    exact limits
  · exact ⟨with_limits_consistent _ _ _, rfl, rfl, rfl⟩

end MemoryTaskStore

/-- In every state a run of calls reaches, as long as no version or attempt counter has
reached its maximum, the counters are the sums over the records, the terminal order and
the idempotency index list exactly the records they should, the limits hold, and the next
call subtracts without underflow. -/
theorem memory_representation_invariant
    (historyCapacity maxPayloadBytes maxUnfinishedRecords : Nat) (calls : List MemoryCall)
    (final : MemoryTaskStore) (below : Guarded memoryStep (fun store _ => store.CountersBelowMax)
      (MemoryTaskStore.withLimits historyCapacity maxPayloadBytes maxUnfinishedRecords) calls)
    (reached : runActions memoryStep
      (MemoryTaskStore.withLimits historyCapacity maxPayloadBytes maxUnfinishedRecords) calls =
        some final) :
    (final.state.retainedPayloadBytes =
        (final.state.encodedTasks.values.map fun task => task.request.payload.bytes.length).sum ∧
      final.state.retainedPayloadBytes ≤ maxPayloadBytes) ∧
    (final.state.unfinishedRecords =
        (final.state.encodedTasks.values.filter fun task =>
          !task.summary.state.isTerminal).length ∧
      final.state.unfinishedRecords ≤ maxUnfinishedRecords) ∧
    ((∀ id, id ∈ final.state.encodedTerminalOrder ↔
        ∃ task, final.state.encodedTasks.lookup id = some task ∧
          task.summary.state.isTerminal = true) ∧
      final.state.encodedTerminalOrder.Nodup ∧
      final.state.encodedTerminalOrder.length ≤ historyCapacity) ∧
    ((∀ key id, final.state.encodedIdempotency.lookup key = some id ↔
        ∃ task, final.state.encodedTasks.lookup id = some task ∧
          task.request.idempotencyKey = some key) ∧
      ∀ key left right leftTask rightTask,
        final.state.encodedTasks.lookup left = some leftTask →
        leftTask.request.idempotencyKey = some key →
        final.state.encodedTasks.lookup right = some rightTask →
        rightTask.request.idempotencyKey = some key → left = right) ∧
    ∀ call : MemoryCall, call.runChecked final = some (call.run final) := by
  obtain ⟨consistent, history, payload, records⟩ := MemoryTaskStore.run_consistent
    historyCapacity maxPayloadBytes maxUnfinishedRecords calls final below reached
  have accounts := consistent.accounts
  refine ⟨⟨accounts.payload, payload ▸ consistent.payload⟩, ⟨?_, records ▸ consistent.records⟩,
    ⟨accounts.order, accounts.nodup, history ▸ consistent.history⟩, ⟨accounts.index, ?_⟩,
    MemoryTaskStore.call_checked consistent⟩
  · rw [accounts.records, Table.total_indicator]
    rfl
  · intro key left right leftTask rightTask leftFound leftKey rightFound rightKey
    exact accounts.one_record_per_key leftFound leftKey rightFound rightKey

section Samples

/-- Two tasks within four payload bytes: the second evicts the first, which has ended. -/
def sampleMemoryCalls : List MemoryCall :=
  [.acquireOwner,
    .lifecycle (.accept sampleClock { value := 1 } (sampleStored (some "a") [1, 2, 3])),
    .lifecycle (sampleStarting 1 0), .lifecycle (sampleMove 1 1 1 .succeeded),
    .lifecycle (.accept sampleClock { value := 2 } (sampleStored (some "b") [1, 2])),
    .lifecycle (.prune 9 4), .releaseOwner 1]

theorem memory_representation_sample :
    ∃ final, runActions memoryStep (MemoryTaskStore.withLimits 1 4 2) sampleMemoryCalls =
        some final ∧ final.state.encodedTasks.values.length = 1 ∧
      final.state.retainedPayloadBytes =
        (final.state.encodedTasks.values.map fun task =>
          task.request.payload.bytes.length).sum := by
  have below : Guarded memoryStep (fun store _ => store.CountersBelowMax)
      (MemoryTaskStore.withLimits 1 4 2) sampleMemoryCalls := by
    decide +kernel
  exact run_shows (by decide +kernel) fun final reached _ =>
    (memory_representation_invariant 1 4 2 sampleMemoryCalls final below reached).1.1

end Samples

end TaskService.Store
