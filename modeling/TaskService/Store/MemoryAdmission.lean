import TaskService.Store.MemoryFailures

/-!
# Admission to the memory store

An acceptance compares the requested payload with what can be made free before it evicts
anything, and then evicts from the front of the terminal order until the payload fits.
The two agree: the check lets a request through exactly when the loop will succeed, and
the loop stops at the first prefix that is long enough.
-/

namespace TaskService.Store

open Library Model List

namespace MemoryState

variable {state : MemoryState}

def unfinishedBytes (state : MemoryState) : Nat :=
  Table.total (fun task => if task.summary.state.isTerminal then 0 else payloadSize task)
    state.encodedTasks

/-- Payload bytes left after the first records of the terminal order are evicted. -/
def bytesWithout (state : MemoryState) (count : Nat) : Nat :=
  state.retainedPayloadBytes -
    listedBytes state.encodedTasks (state.encodedTerminalOrder.take count)

theorem Accounts.reclaimable_add_unfinished (accounts : state.Accounts) :
    state.reclaimableBytes + state.unfinishedBytes = state.retainedPayloadBytes := by
  rw [accounts.payload]
  exact Table.total_listed payloadSize (fun task => task.summary.state.isTerminal)
    state.encodedTasks state.encodedTerminalOrder accounts.nodup accounts.order

/-- The state after the first `count` records of the terminal order have been evicted. -/
structure EvictedPrefix (before after : MemoryState) (count : Nat) : Prop where
  order : after.encodedTerminalOrder = before.encodedTerminalOrder.drop count
  records : ∀ id, after.encodedTasks.lookup id =
    if id ∈ before.encodedTerminalOrder.take count then none else before.encodedTasks.lookup id
  bytes : after.retainedPayloadBytes = before.bytesWithout count

theorem evicted_nothing (state : MemoryState) : EvictedPrefix state state 0 :=
  ⟨rfl, fun id => by simp, by simp [bytesWithout, listedBytes]⟩

variable {first : TaskId} {rest : List TaskId} {middle : MemoryState}

section

variable (accounts : state.Accounts) (listed : state.encodedTerminalOrder = first :: rest)
include accounts listed

theorem evict_oldest_prefix : EvictedPrefix state state.evictOldestEncodedTerminal.1 1 := by
  obtain ⟨task, found, _⟩ := (accounts.order first).mp (by simp [listed])
  have removed : state.evictOldestEncodedTerminal.1 = (state.removeEncodedTask first).1 := by
    simp only [evictOldestEncodedTerminal, listed, List.head?_cons]
  refine ⟨?_, ?_, ?_⟩
  · rw [(evict_oldest_spec accounts).2.2, drop_one]
  · intro id
    rw [removed, listed]
    simp only [removeEncodedTask, found, take_succ_cons, take_zero, mem_singleton]
    exact Table.lookup_erase_eq _ _ _
  · rw [removed]
    simp [removeEncodedTask, found, bytesWithout, listed, listedBytes, payloadSize]

theorem EvictedPrefix.listed_rest (front : EvictedPrefix state middle 1) (ids : List TaskId)
    (inside : ∀ id ∈ ids, id ∈ rest) :
    listedBytes middle.encodedTasks ids = listedBytes state.encodedTasks ids := by
  have nodup := accounts.nodup
  rw [listed] at nodup
  have absent := (nodup_cons.mp nodup).1
  unfold listedBytes
  congr 2
  apply filterMap_congr
  intro id member
  rw [front.records, listed, if_neg]
  simp only [take_succ_cons, take_zero, mem_singleton]
  rintro rfl
  exact absent (inside id member)

theorem EvictedPrefix.bytes_rest (front : EvictedPrefix state middle 1) (count : Nat) :
    middle.bytesWithout count = state.bytesWithout (count + 1) := by
  have order : middle.encodedTerminalOrder = rest := by
    rw [front.order, listed, drop_one, tail_cons]
  have shared := front.listed_rest accounts listed (rest.take count)
    fun id member => mem_of_mem_take member
  have split : listedBytes state.encodedTasks (first :: rest.take count) =
      listedBytes state.encodedTasks [first] +
        listedBytes state.encodedTasks (rest.take count) := by
    rw [← singleton_append]
    simp only [listedBytes, filterMap_append, map_append, sum_append]
  rw [bytesWithout, front.bytes, order, shared]
  simp only [bytesWithout, listed, take_succ_cons, take_zero]
  rw [split]
  omega

theorem EvictedPrefix.cons {after : MemoryState} {count : Nat}
    (front : EvictedPrefix state middle 1) (later : EvictedPrefix middle after count) :
    EvictedPrefix state after (count + 1) := by
  have order : middle.encodedTerminalOrder = rest := by
    rw [front.order, listed, drop_one, tail_cons]
  refine ⟨?_, ?_, ?_⟩
  · rw [later.order, order, listed, drop_succ_cons]
  · intro id
    rw [later.records, front.records, order, listed]
    simp only [take_succ_cons, take_zero, mem_cons, not_mem_nil, or_false]
    by_cases same : id = first
    · simp [same]
    · simp [same]
  · rw [later.bytes, front.bytes_rest accounts listed]

end

/-- The reclaim loop evicts a prefix of the terminal order, and no shorter one would do. -/
theorem reclaim_prefix (limit : Nat) (accounts : state.Accounts) :
    ∃ count, EvictedPrefix state
        (state.reclaimPayload limit state.encodedTerminalOrder.length).1 count ∧
      ∀ fewer, fewer < count → limit < state.bytesWithout fewer := by
  generalize listed : state.encodedTerminalOrder = order
  induction order generalizing state with
  | nil => exact ⟨0, evicted_nothing state, fun fewer less => absurd less (Nat.not_lt_zero _)⟩
  | cons first rest ih =>
    simp only [length_cons, reclaimPayload, evictUntil]
    by_cases within : state.retainedPayloadBytes ≤ limit
    · rw [if_pos (decide_eq_true within)]
      exact ⟨0, evicted_nothing state, fun fewer less => absurd less (Nat.not_lt_zero _)⟩
    · have nonempty : state.encodedTerminalOrder ≠ [] := by simp [listed]
      obtain ⟨evicted, succeeds, order⟩ := evict_oldest_spec accounts
      have front := evict_oldest_prefix accounts listed
      rw [if_neg (by simpa using within), if_pos (succeeds.mpr nonempty)]
      obtain ⟨count, removed, least⟩ := ih evicted (by rw [order, listed, tail_cons])
      refine ⟨count + 1, front.cons accounts listed removed, ?_⟩
      intro fewer less
      cases fewer with
      | zero =>
        have start := (evicted_nothing state).bytes
        omega
      | succ fewer =>
        rw [← front.bytes_rest accounts listed]
        exact least fewer (Nat.lt_of_succ_lt_succ less)

end MemoryState

namespace MemoryTaskStore

variable {store : MemoryTaskStore}

/-- A request that the checks before the capacity check let through: it names a kind and a
codec, is known neither by its key nor by its identity, and there is room for a record. -/
structure Admissible (store : MemoryTaskStore) (id : TaskId) (request : StoredTaskRequest) :
    Prop where
  named : (request.kindId.isEmpty || request.payload.codecId.isEmpty) = false
  unknownKey : store.idempotentId request = none
  unknownId : store.getEncodedTask id = none
  room : store.state.unfinishedRecords < store.maxUnfinishedRecords

def FitsWithout (store : MemoryTaskStore) (request : StoredTaskRequest) (count : Nat) : Prop :=
  store.state.bytesWithout count + request.payload.bytes.length ≤ store.maxPayloadBytes

variable {id : TaskId} {request : StoredTaskRequest}

theorem accept_admissible (admissible : store.Admissible id request) (clock : Clock) :
    store.acceptEncoded clock id request = store.acceptNew clock id request := by
  have present : (store.getEncodedTask id).isSome = false := by rw [admissible.unknownId]; rfl
  have room := admissible.room
  simp only [acceptEncoded, acceptEncodedBy, admissible.named, admissible.unknownKey, present,
    Bool.false_eq_true, if_false, if_neg (Nat.not_le.mpr room)]

/-- A request stopped before the capacity check is answered by another error or by the
record its key names, and nothing changes. -/
theorem accept_inadmissible (inadmissible : ¬ store.Admissible id request) (clock : Clock) :
    (store.acceptEncoded clock id request).1 = store ∧
      (∀ requested available, (store.acceptEncoded clock id request).2 ≠
        .error (.capacityExceeded requested available)) ∧
      ∀ outcome, (store.acceptEncoded clock id request).2 = .ok outcome →
        outcome.created = false := by
  unfold acceptEncoded acceptEncodedBy
  split
  · exact ⟨rfl, by simp, by simp⟩
  rename_i named
  split
  · split
    · exact ⟨rfl, by simp, by simp⟩
    · split
      · exact ⟨rfl, by simp, by simp⟩
      · refine ⟨rfl, by simp, ?_⟩
        intro outcome answered
        cases answered
        rfl
  rename_i unknownKey
  split
  · exact ⟨rfl, by simp, by simp⟩
  rename_i unknownId
  split
  · exact ⟨rfl, by simp, by simp⟩
  rename_i room
  refine (inadmissible ⟨?_, unknownKey, ?_, Nat.not_le.mp room⟩).elim
  · exact Bool.eq_false_of_not_eq_true named
  · exact Option.not_isSome_iff_eq_none.mp unknownId

section

variable (consistent : store.Consistent)
include consistent

theorem minimum_retained_eq :
    store.state.retainedPayloadBytes - store.state.reclaimableBytes =
      store.state.unfinishedBytes := by
  have parts := consistent.accounts.reclaimable_add_unfinished
  omega

/-- Once the capacity check has passed, the subtraction of the loop's bound does not go
below zero and the loop makes room. -/
theorem capacity_check_sufficient (request : StoredTaskRequest)
    (fits : store.state.unfinishedBytes + request.payload.bytes.length ≤ store.maxPayloadBytes) :
    request.payload.bytes.length ≤ store.maxPayloadBytes ∧
      (store.state.reclaimPayload (store.maxPayloadBytes - request.payload.bytes.length)
        store.state.encodedTerminalOrder.length).2 = true := by
  refine ⟨by omega, MemoryState.reclaim_succeeds _ consistent.accounts ?_⟩
  have parts := consistent.accounts.reclaimable_add_unfinished
  omega

/-- What an admitted request has displaced: the shortest prefix of the terminal order
whose eviction makes its payload fit, and nothing else. -/
structure Displaces (store next : MemoryTaskStore) (id : TaskId) (request : StoredTaskRequest)
    (count : Nat) : Prop where
  fits : store.FitsWithout request count
  shortest : ∀ fewer, fewer < count → ¬ store.FitsWithout request fewer
  order : next.state.encodedTerminalOrder = store.state.encodedTerminalOrder.drop count
  records : ∀ other, other ≠ id → next.getEncodedTask other =
    if other ∈ store.state.encodedTerminalOrder.take count then none
    else store.getEncodedTask other
  unfinished : ∀ other task, other ≠ id → store.getEncodedTask other = some task →
    task.summary.state.isTerminal = false → next.getEncodedTask other = some task

theorem accept_new_displaces (clock : Clock) (id : TaskId) (request : StoredTaskRequest)
    (fits : store.state.unfinishedBytes + request.payload.bytes.length ≤ store.maxPayloadBytes) :
    (store.acceptNew clock id request).2 =
        .ok { summary := acceptedSummary id request clock.now, created := true } ∧
      ∃ count, store.Displaces (store.acceptNew clock id request).1 id request count := by
  obtain ⟨bounded, reclaimed⟩ := capacity_check_sufficient consistent request fits
  obtain ⟨count, evicted, least⟩ := MemoryState.reclaim_prefix
    (store.maxPayloadBytes - request.payload.bytes.length) consistent.accounts
  have within := MemoryState.reclaim_within _ _ reclaimed
  have passed : ¬ store.state.retainedPayloadBytes - store.state.reclaimableBytes +
      request.payload.bytes.length > store.maxPayloadBytes := by
    rw [minimum_retained_eq consistent]
    exact Nat.not_lt.mpr fits
  have taken : store.acceptNew clock id request =
      (store.withState ((store.state.reclaimPayload
          (store.maxPayloadBytes - request.payload.bytes.length)
          store.state.encodedTerminalOrder.length).1.insertAccepted id request clock.now),
        .ok { summary := acceptedSummary id request clock.now, created := true }) := by
    simp only [acceptNew, acceptNewBy, if_neg passed, if_pos reclaimed]
  have shown : ∀ other, other ≠ id → (store.acceptNew clock id request).1.getEncodedTask other =
      if other ∈ store.state.encodedTerminalOrder.take count then none
      else store.getEncodedTask other := by
    intro other different
    rw [taken]
    show (AList.insert id _ _).lookup other = _
    rw [AList.lookup_insert_ne different]
    exact evicted.records other
  refine ⟨by rw [taken], count, ?_, ?_, ?_, shown, ?_⟩
  · rw [FitsWithout, ← evicted.bytes]
    omega
  · intro fewer less
    have above := least fewer less
    unfold FitsWithout
    omega
  · rw [taken]
    exact evicted.order
  · intro other task different held live
    rw [shown other different, if_neg, held]
    intro listed
    obtain ⟨found, same, terminal⟩ :=
      (consistent.accounts.order other).mp (mem_of_mem_take listed)
    cases held.symm.trans same
    rw [live] at terminal
    cases terminal

theorem accept_new_exceeds (clock : Clock) (id : TaskId) (request : StoredTaskRequest)
    (exceeds : store.maxPayloadBytes <
      store.state.unfinishedBytes + request.payload.bytes.length) :
    ∃ requested available, (store.acceptNew clock id request).2 =
      .error (.capacityExceeded requested available) := by
  have stopped : store.state.retainedPayloadBytes - store.state.reclaimableBytes +
      request.payload.bytes.length > store.maxPayloadBytes := by
    rw [minimum_retained_eq consistent]
    exact exceeds
  simp only [acceptNew, acceptNewBy, if_pos stopped]
  exact ⟨_, _, rfl⟩

end

end MemoryTaskStore

open MemoryTaskStore

/-- For every consistent store and every request: the capacity answer is given exactly to
requests that pass the earlier checks and do not fit beside the unfinished records; the
loop's bound does not underflow and the loop does not run out of records; an error leaves
the store as it was; and an admitted request displaces the shortest sufficient prefix of
the terminal order. -/
theorem admission_evicts_shortest_prefix (store : MemoryTaskStore) (consistent : store.Consistent)
    (clock : Clock) (id : TaskId) (request : StoredTaskRequest) :
    ((∃ requested available, (store.acceptEncoded clock id request).2 =
        .error (.capacityExceeded requested available)) ↔
      store.Admissible id request ∧
        store.maxPayloadBytes < store.state.unfinishedBytes + request.payload.bytes.length) ∧
    (store.state.unfinishedBytes + request.payload.bytes.length ≤ store.maxPayloadBytes →
      request.payload.bytes.length ≤ store.maxPayloadBytes ∧
        (store.state.reclaimPayload (store.maxPayloadBytes - request.payload.bytes.length)
          store.state.encodedTerminalOrder.length).2 = true) ∧
    (∀ error, (store.acceptEncoded clock id request).2 = .error error →
      (store.acceptEncoded clock id request).1 = store) ∧
    ∀ outcome, (store.acceptEncoded clock id request).2 = .ok outcome →
      outcome.created = true →
      ∃ count, store.Displaces (store.acceptEncoded clock id request).1 id request count := by
  refine ⟨?_, capacity_check_sufficient consistent request,
    fun error failed => accept_error_unchanged consistent clock id request error failed, ?_⟩
  · by_cases admissible : store.Admissible id request
    · rw [accept_admissible admissible]
      constructor
      · rintro ⟨requested, available, answered⟩
        refine ⟨admissible, ?_⟩
        by_contra fits
        rw [(accept_new_displaces consistent clock id request (Nat.not_lt.mp fits)).1] at answered
        cases answered
      · rintro ⟨_, exceeds⟩
        exact accept_new_exceeds consistent clock id request exceeds
    · refine iff_of_false ?_ fun both => admissible both.1
      rintro ⟨requested, available, answered⟩
      exact (accept_inadmissible admissible clock).2.1 requested available answered
  · intro outcome answered created
    by_cases admissible : store.Admissible id request
    · rw [accept_admissible admissible] at answered ⊢
      by_cases fits : store.state.unfinishedBytes + request.payload.bytes.length ≤
          store.maxPayloadBytes
      · exact (accept_new_displaces consistent clock id request fits).2
      · obtain ⟨_, _, failed⟩ :=
          accept_new_exceeds consistent clock id request (Nat.not_le.mp fits)
        rw [failed] at answered
        cases answered
    · rw [(accept_inadmissible admissible clock).2.2 outcome answered] at created
      cases created

section Samples

/-- Within four payload bytes, a task of three bytes that has ended and one of one byte that
has not. -/
def sampleHalfEnded : List MemoryCall :=
  [.lifecycle (.accept sampleClock { value := 1 } (sampleStored none [1, 2, 3])),
    .lifecycle (.accept sampleClock { value := 2 } (sampleStored none [4])),
    .lifecycle (sampleStarting 1 0), .lifecycle (sampleMove 1 1 1 .succeeded)]

/-- A third task of two bytes displaces the one that has ended. -/
theorem admission_evicts_shortest_prefix_sample :
    ∃ store, runActions memoryStep (MemoryTaskStore.withLimits 4 4 4) sampleHalfEnded =
        some store ∧
      (store.acceptEncoded sampleClock { value := 3 } (sampleStored none [5, 6])).2.isOk = true ∧
      ((store.acceptEncoded sampleClock { value := 3 }
        (sampleStored none [5, 6])).1.getEncodedTask { value := 1 }).isNone = true ∧
      ∀ outcome, (store.acceptEncoded sampleClock { value := 3 }
          (sampleStored none [5, 6])).2 = .ok outcome → outcome.created = true →
        ∃ count, store.Displaces (store.acceptEncoded sampleClock { value := 3 }
          (sampleStored none [5, 6])).1 { value := 3 } (sampleStored none [5, 6]) count := by
  obtain ⟨store, reached, checked⟩ := @run_of_check _ _ memoryStep
    (MemoryTaskStore.withLimits 4 4 4) sampleHalfEnded
    (fun (store : MemoryTaskStore) =>
      (store.acceptEncoded sampleClock { value := 3 } (sampleStored none [5, 6])).2.isOk &&
        ((store.acceptEncoded sampleClock { value := 3 }
          (sampleStored none [5, 6])).1.getEncodedTask { value := 1 }).isNone)
    (by decide +kernel)
  have below : Guarded memoryStep (fun store _ => store.CountersBelowMax)
      (MemoryTaskStore.withLimits 4 4 4) sampleHalfEnded := by
    decide +kernel
  obtain ⟨admitted, displaced⟩ := (Bool.and_eq_true _ _).mp checked
  have shortest := admission_evicts_shortest_prefix store
    (run_consistent 4 4 4 _ store below reached).1 sampleClock { value := 3 }
    (sampleStored none [5, 6])
  exact ⟨store, reached, admitted, displaced, shortest.2.2.2⟩

/-- A store with as many unfinished records as it may have answers by that limit, also to a
new request that does not fit. -/
theorem record_limit_answers_first :
    ∃ store : MemoryTaskStore, store.Consistent ∧
      store.getEncodedTask { value := 2 } = none ∧
      store.idempotentId (sampleStored none [1, 2, 3, 4, 5]) = none ∧
      store.maxPayloadBytes < store.state.unfinishedBytes +
        (sampleStored none [1, 2, 3, 4, 5]).payload.bytes.length ∧
      (store.acceptEncoded sampleClock { value := 2 } (sampleStored none [1, 2, 3, 4, 5])).2 =
        .error (.unfinishedRecordLimitExceeded 1) := by
  refine ⟨((MemoryTaskStore.withLimits 4 4 1).acceptEncoded sampleClock { value := 1 }
    (sampleStored none [])).1, ?_, by decide +kernel, by decide +kernel, by decide +kernel, ?_⟩
  · exact accept_consistent (with_limits_consistent 4 4 1) sampleClock { value := 1 }
      (sampleStored none [])
  · rfl

end Samples

end TaskService.Store
