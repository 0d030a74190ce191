import TaskService.Store.MemoryTaskStoreLaws

/-!
# The redundant structures of the memory store

The usage counters, the terminal order and the idempotency index repeat what the table
of records says.  Every operation keeps them in step, the limits hold in every state,
and the plain subtractions never go below zero: the operations are run a second time
with subtractions that report an underflow, and the report never comes.
-/

namespace TaskService.Store

open Library Model List

def payloadSize (task : StoredTask) : Nat :=
  task.request.payload.bytes.length

def unfinished (task : StoredTask) : Bool :=
  !task.summary.state.isTerminal

/-- Counters, order and index say what the table says. -/
structure MemoryState.Accounts (state : MemoryState) : Prop where
  keyed : ∀ id task, state.encodedTasks.lookup id = some task → task.summary.id = id
  payload : state.retainedPayloadBytes = Table.total payloadSize state.encodedTasks
  records : state.unfinishedRecords =
    Table.total (fun task => if unfinished task then 1 else 0) state.encodedTasks
  order : ∀ id, id ∈ state.encodedTerminalOrder ↔
    ∃ task, state.encodedTasks.lookup id = some task ∧ task.summary.state.isTerminal = true
  nodup : state.encodedTerminalOrder.Nodup
  index : ∀ key id, state.encodedIdempotency.lookup key = some id ↔
    ∃ task, state.encodedTasks.lookup id = some task ∧ task.request.idempotencyKey = some key

namespace MemoryState

variable {state : MemoryState}

theorem Accounts.sound (accounts : state.Accounts) : state.Sound :=
  ⟨accounts.keyed, fun id member => (accounts.order id).mp member⟩

variable {id : TaskId} {task : StoredTask} {key : String}

theorem Accounts.payload_le (accounts : state.Accounts)
    (found : state.encodedTasks.lookup id = some task) :
    payloadSize task ≤ state.retainedPayloadBytes := by
  have total := Table.total_erase payloadSize state.encodedTasks id task found
  rw [accounts.payload]
  omega

theorem Accounts.records_pos (accounts : state.Accounts)
    (found : state.encodedTasks.lookup id = some task)
    (live : task.summary.state.isTerminal = false) : 0 < state.unfinishedRecords := by
  have total := Table.total_erase (fun task => if unfinished task then 1 else 0)
    state.encodedTasks id task found
  have counted : unfinished task = true := by simp [unfinished, live]
  simp only [counted, if_true] at total
  rw [accounts.records]
  omega

theorem Accounts.free_of_evicted {after : MemoryState} (accounts : after.Accounts)
    (larger : state.Accounts) (evicted : EvictsOnly state after)
    (free : state.encodedIdempotency.lookup key = none) :
    after.encodedIdempotency.lookup key = none := by
  cases named : after.encodedIdempotency.lookup key with
  | none => rfl
  | some id =>
    obtain ⟨task, found, carried⟩ := (accounts.index key id).mp named
    have before := (larger.index key id).mpr
      ⟨task, (evicted.kept id).eq_of_some found, carried⟩
    rw [free] at before
    cases before

theorem Accounts.one_record_per_key (accounts : state.Accounts) {left right : TaskId}
    {leftTask rightTask : StoredTask} (leftFound : state.encodedTasks.lookup left = some leftTask)
    (leftKey : leftTask.request.idempotencyKey = some key)
    (rightFound : state.encodedTasks.lookup right = some rightTask)
    (rightKey : rightTask.request.idempotencyKey = some key) : left = right := by
  have named := (accounts.index key left).mpr ⟨leftTask, leftFound, leftKey⟩
  have other := (accounts.index key right).mpr ⟨rightTask, rightFound, rightKey⟩
  exact Option.some.inj (named.symm.trans other)

theorem remove_index (accounts : state.Accounts) (found : state.encodedTasks.lookup id = some task)
    (key : String) (other : TaskId) :
    (match task.request.idempotencyKey with
      | none => state.encodedIdempotency
      | some own => state.encodedIdempotency.erase own).lookup key = some other ↔
      other ≠ id ∧ ∃ kept, state.encodedTasks.lookup other = some kept ∧
        kept.request.idempotencyKey = some key := by
  have own : ∀ kept, state.encodedTasks.lookup id = some kept → kept = task := by
    intro kept held
    exact Option.some.inj (held.symm.trans found)
  cases carried : task.request.idempotencyKey with
  | none =>
    rw [accounts.index]
    constructor
    · rintro ⟨kept, held, named⟩
      refine ⟨?_, kept, held, named⟩
      rintro rfl
      rw [own kept held, carried] at named
      cases named
    · rintro ⟨_, kept, held, named⟩
      exact ⟨kept, held, named⟩
  | some ownKey =>
    rw [Table.lookup_erase_eq]
    split_ifs with same
    · subst same
      constructor
      · intro absurdity
        cases absurdity
      · rintro ⟨different, kept, held, named⟩
        exact (different (accounts.one_record_per_key held named found carried)).elim
    · rw [accounts.index]
      constructor
      · rintro ⟨kept, held, named⟩
        refine ⟨?_, kept, held, named⟩
        rintro rfl
        rw [own kept held, carried] at named
        exact same (Option.some.inj named).symm
      · rintro ⟨_, kept, held, named⟩
        exact ⟨kept, held, named⟩

theorem remove_accounts (accounts : state.Accounts) (id : TaskId) :
    (state.removeEncodedTask id).1.Accounts := by
  cases found : state.encodedTasks.lookup id with
  | none =>
    unfold removeEncodedTask
    rw [found]
    exact accounts
  | some task =>
    have erased : ∀ other, (state.encodedTasks.erase id).lookup other =
        if other = id then none else state.encodedTasks.lookup other :=
      fun other => Table.lookup_erase_eq _ _ _
    have present : ∀ {other : TaskId} {kept : StoredTask},
        (state.encodedTasks.erase id).lookup other = some kept ↔
          other ≠ id ∧ state.encodedTasks.lookup other = some kept := by
      intro other kept
      rw [erased]
      split_ifs with same
      · simp [same]
      · simp [same]
    unfold removeEncodedTask
    rw [found]
    constructor
    · intro other kept held
      exact accounts.keyed other kept (present.mp held).2
    · have total := Table.total_erase payloadSize state.encodedTasks id task found
      show state.retainedPayloadBytes - payloadSize task =
        Table.total payloadSize (state.encodedTasks.erase id)
      rw [accounts.payload]
      omega
    · have total := Table.total_erase (fun task => if unfinished task then 1 else 0)
        state.encodedTasks id task found
      show (if task.summary.state.isTerminal = true then state.unfinishedRecords
        else state.unfinishedRecords - 1) = _
      rw [accounts.records]
      cases terminal : task.summary.state.isTerminal with
      | true =>
        simp only [unfinished, terminal, Bool.not_true, Bool.false_eq_true, if_false,
          if_true] at total ⊢
        omega
      | false =>
        simp only [unfinished, terminal, Bool.not_false, Bool.false_eq_true, if_false,
          if_true] at total ⊢
        omega
    · intro other
      show other ∈ state.encodedTerminalOrder.filter (fun listed => decide (listed ≠ id)) ↔ _
      rw [mem_filter, accounts.order]
      constructor
      · rintro ⟨⟨kept, held, terminal⟩, different⟩
        exact ⟨kept, present.mpr ⟨of_decide_eq_true different, held⟩, terminal⟩
      · rintro ⟨kept, held, terminal⟩
        obtain ⟨different, before⟩ := present.mp held
        exact ⟨⟨kept, before, terminal⟩, decide_eq_true different⟩
    · exact accounts.nodup.filter _
    · intro key other
      show (match task.request.idempotencyKey with
        | none => state.encodedIdempotency
        | some own => state.encodedIdempotency.erase own).lookup key = some other ↔ _
      rw [remove_index accounts found]
      constructor
      · rintro ⟨different, kept, held, named⟩
        exact ⟨kept, present.mpr ⟨different, held⟩, named⟩
      · rintro ⟨kept, held, named⟩
        obtain ⟨different, before⟩ := present.mp held
        exact ⟨different, kept, before, named⟩

theorem evict_oldest_spec (accounts : state.Accounts) :
    state.evictOldestEncodedTerminal.1.Accounts ∧
      (state.evictOldestEncodedTerminal.2 = true ↔ state.encodedTerminalOrder ≠ []) ∧
      state.evictOldestEncodedTerminal.1.encodedTerminalOrder =
        state.encodedTerminalOrder.tail := by
  unfold evictOldestEncodedTerminal
  cases listed : state.encodedTerminalOrder with
  | nil => exact ⟨accounts, by simp, listed⟩
  | cons first rest =>
    have member : first ∈ state.encodedTerminalOrder := by simp [listed]
    obtain ⟨task, found, terminal⟩ := (accounts.order first).mp member
    have absent : first ∉ rest := by
      have nodup := accounts.nodup
      rw [listed] at nodup
      exact (nodup_cons.mp nodup).1
    refine ⟨remove_accounts accounts first, ?_, ?_⟩
    · simp [removeEncodedTask, found]
    · simp only [List.head?_cons, removeEncodedTask, found, listed, tail_cons]
      rw [filter_cons_of_neg (by simp)]
      apply filter_eq_self.mpr
      intro other inRest
      apply decide_eq_true
      rintro rfl
      exact absent inRest

def listedBytes (tasks : Table TaskId StoredTask) (ids : List TaskId) : Nat :=
  ((ids.filterMap fun id => tasks.lookup id).map payloadSize).sum

theorem listed_bytes_erase (tasks : Table TaskId StoredTask) (id : TaskId) (ids : List TaskId)
    (absent : id ∉ ids) : listedBytes (tasks.erase id) ids = listedBytes tasks ids := by
  unfold listedBytes
  congr 2
  apply filterMap_congr
  intro other member
  rw [Table.lookup_erase_eq, if_neg]
  rintro rfl
  exact absent member

theorem evict_oldest_bytes (accounts : state.Accounts)
    (nonempty : state.encodedTerminalOrder ≠ []) :
    ∃ bytes, state.evictOldestEncodedTerminal.1.reclaimableBytes + bytes =
        state.reclaimableBytes ∧
      state.evictOldestEncodedTerminal.1.retainedPayloadBytes + bytes =
        state.retainedPayloadBytes := by
  obtain ⟨first, rest, listed⟩ := exists_cons_of_ne_nil nonempty
  obtain ⟨task, found, _⟩ := (accounts.order first).mp (by simp [listed])
  have absent : first ∉ rest := by
    have nodup := accounts.nodup
    rw [listed] at nodup
    exact (nodup_cons.mp nodup).1
  have order := (evict_oldest_spec accounts).2.2
  have removed : state.evictOldestEncodedTerminal.1 = (state.removeEncodedTask first).1 := by
    simp only [evictOldestEncodedTerminal, listed, List.head?_cons]
  have tasks : (state.removeEncodedTask first).1.encodedTasks = state.encodedTasks.erase first := by
    simp only [removeEncodedTask, found]
  have bytes : (state.removeEncodedTask first).1.retainedPayloadBytes =
      state.retainedPayloadBytes - payloadSize task := by
    simp only [removeEncodedTask, found, payloadSize]
  refine ⟨payloadSize task, ?_, ?_⟩
  · show listedBytes state.evictOldestEncodedTerminal.1.encodedTasks
      state.evictOldestEncodedTerminal.1.encodedTerminalOrder + _ =
        listedBytes state.encodedTasks state.encodedTerminalOrder
    rw [order, removed, tasks, listed, tail_cons, listed_bytes_erase _ _ _ absent]
    simp [listedBytes, found, Nat.add_comm]
  · rw [removed, bytes]
    exact Nat.sub_add_cancel (accounts.payload_le found)

theorem reclaim_succeeds (limit : Nat) (accounts : state.Accounts)
    (enough : state.retainedPayloadBytes ≤ limit + state.reclaimableBytes) :
    (state.reclaimPayload limit state.encodedTerminalOrder.length).2 = true := by
  -- Induction on the order: each round evicts its front.
  generalize listed : state.encodedTerminalOrder = order
  induction order generalizing state with
  | nil =>
    have nothing : state.reclaimableBytes = 0 := by simp [reclaimableBytes, listed]
    simp only [length_nil, reclaimPayload, evictUntil, decide_eq_true_eq]
    omega
  | cons first rest ih =>
    have nonempty : state.encodedTerminalOrder ≠ [] := by simp [listed]
    obtain ⟨evicted, succeeds, order⟩ := evict_oldest_spec accounts
    obtain ⟨bytes, reclaimable, retained⟩ := evict_oldest_bytes accounts nonempty
    simp only [length_cons, reclaimPayload, evictUntil]
    split
    · rfl
    · rw [if_pos (succeeds.mpr nonempty)]
      apply ih evicted
      · omega
      · rw [order, listed, tail_cons]

theorem reclaim_within (limit rounds : Nat)
    (reclaimed : (state.reclaimPayload limit rounds).2 = true) :
    (state.reclaimPayload limit rounds).1.retainedPayloadBytes ≤ limit := by
  unfold reclaimPayload at reclaimed ⊢
  induction rounds generalizing state with
  | zero => exact of_decide_eq_true reclaimed
  | succ rounds ih =>
    simp only [evictUntil] at reclaimed ⊢
    split_ifs at reclaimed ⊢ with within
    · exact of_decide_eq_true within
    · exact ih reclaimed

structure Shrinks (before after : MemoryState) : Prop where
  payload : after.retainedPayloadBytes ≤ before.retainedPayloadBytes
  records : after.unfinishedRecords ≤ before.unfinishedRecords
  history : after.encodedTerminalOrder.length ≤ before.encodedTerminalOrder.length

theorem Shrinks.refl (state : MemoryState) : Shrinks state state :=
  ⟨Nat.le_refl _, Nat.le_refl _, Nat.le_refl _⟩

theorem Shrinks.trans {first second third : MemoryState} (left : Shrinks first second)
    (right : Shrinks second third) : Shrinks first third :=
  ⟨right.payload.trans left.payload, right.records.trans left.records,
    right.history.trans left.history⟩

theorem remove_shrinks (state : MemoryState) (id : TaskId) :
    Shrinks state (state.removeEncodedTask id).1 := by
  unfold removeEncodedTask
  split
  · exact Shrinks.refl state
  · refine ⟨Nat.sub_le _ _, ?_, length_filter_le _ _⟩
    simp only
    split
    · exact Nat.le_refl _
    · exact Nat.sub_le _ _

theorem evict_oldest_shrinks (state : MemoryState) :
    Shrinks state state.evictOldestEncodedTerminal.1 := by
  unfold evictOldestEncodedTerminal
  split
  · exact Shrinks.refl state
  · exact remove_shrinks state _

theorem evict_until_accounts (done : MemoryState → Bool) (rounds : Nat)
    (accounts : state.Accounts) :
    (evictUntil done rounds state).1.Accounts ∧ Shrinks state (evictUntil done rounds state).1 := by
  induction rounds generalizing state with
  | zero => exact ⟨accounts, Shrinks.refl state⟩
  | succ rounds ih =>
    have evicted := (evict_oldest_spec accounts).1
    have smaller := evict_oldest_shrinks state
    simp only [evictUntil]
    split
    · exact ⟨accounts, Shrinks.refl state⟩
    · split
      · exact ⟨(ih evicted).1, smaller.trans (ih evicted).2⟩
      · exact ⟨evicted, smaller⟩

theorem remove_all_accounts (ids : List TaskId) (accounts : state.Accounts) :
    (ids.foldl (fun current id => (current.removeEncodedTask id).1) state).Accounts ∧
      Shrinks state (ids.foldl (fun current id => (current.removeEncodedTask id).1) state) := by
  induction ids generalizing state with
  | nil => exact ⟨accounts, Shrinks.refl state⟩
  | cons id rest ih =>
    obtain ⟨kept, smaller⟩ := ih (remove_accounts accounts id)
    exact ⟨kept, (remove_shrinks state id).trans smaller⟩

theorem trim_within (capacity rounds : Nat) (accounts : state.Accounts)
    (enough : state.encodedTerminalOrder.length ≤ rounds + capacity) :
    (state.trimHistory capacity rounds).encodedTerminalOrder.length ≤ capacity := by
  unfold trimHistory
  induction rounds generalizing state with
  | zero => simpa [evictUntil] using enough
  | succ rounds ih =>
    obtain ⟨evicted, succeeds, order⟩ := evict_oldest_spec accounts
    simp only [evictUntil]
    split
    · rename_i within
      exact of_decide_eq_true within
    · rename_i above
      have nonempty : state.encodedTerminalOrder ≠ [] := by
        intro empty
        rw [empty] at above
        simp at above
      rw [if_pos (succeeds.mpr nonempty)]
      apply ih evicted
      rw [order, length_tail]
      omega

section

variable {id : TaskId} {task : StoredTask} (accounts : state.Accounts)
  (found : state.encodedTasks.lookup id = some task)
  (summary : TaskSummary) (identity : summary.id = task.summary.id)
include accounts found summary identity

/-- A record with a new summary, together with the order and the counter that go with
the new state. -/
theorem rewrite_accounts (order : List TaskId) (records : Nat)
    (counted : records + (if unfinished task then 1 else 0) =
      (if unfinished { task with summary := summary } then 1 else 0) + state.unfinishedRecords)
    (own : id ∈ order ↔ summary.state.isTerminal = true)
    (others : ∀ other, other ≠ id → (other ∈ order ↔ other ∈ state.encodedTerminalOrder))
    (nodup : order.Nodup) :
    MemoryState.Accounts
      { state.putSummary id task summary with
        unfinishedRecords := records
        encodedTerminalOrder := order } := by
  have lookup := put_summary_lookup state id
  constructor
  · intro other stored held
    rw [lookup] at held
    split_ifs at held with same
    · cases held
      rw [same]
      exact identity.trans (accounts.keyed id task found)
    · exact accounts.keyed other stored held
  · have total := Table.total_insert_old payloadSize state.encodedTasks id task
      { task with summary := summary } found
    show state.retainedPayloadBytes =
      Table.total payloadSize (state.putSummary id task summary).encodedTasks
    rw [accounts.payload]
    simp only [payloadSize] at total
    exact (Nat.add_right_cancel (total.trans (Nat.add_comm _ _))).symm
  · have total := Table.total_insert_old (fun task => if unfinished task then 1 else 0)
      state.encodedTasks id task { task with summary := summary } found
    rw [accounts.records] at counted
    exact Nat.add_right_cancel (counted.trans total.symm)
  · intro other
    show other ∈ order ↔ ∃ kept,
      (state.putSummary id task summary).encodedTasks.lookup other = some kept ∧ _
    rw [lookup]
    split_ifs with same
    · subst same
      simp [own]
    · rw [others other same, accounts.order]
  · exact nodup
  · intro key other
    show state.encodedIdempotency.lookup key = some other ↔ ∃ kept,
      (state.putSummary id task summary).encodedTasks.lookup other = some kept ∧ _
    rw [lookup, accounts.index]
    split_ifs with same
    · subst same
      simp [found]
    · exact Iff.rfl

theorem put_accounts (side : summary.state.isTerminal = task.summary.state.isTerminal) :
    (state.putSummary id task summary).Accounts := by
  apply rewrite_accounts accounts found summary identity state.encodedTerminalOrder
    state.unfinishedRecords
  · have same : unfinished { task with summary := summary } = unfinished task := by
      simp only [unfinished, side]
    rw [same]
    exact Nat.add_comm _ _
  · rw [accounts.order, found, side]
    simp
  · exact fun _ _ => Iff.rfl
  · exact accounts.nodup

theorem retiring_accounts (live : task.summary.state.isTerminal = false)
    (ended : summary.state.isTerminal = true) :
    ((state.putSummary id task summary).retiring id).Accounts := by
  have absent : id ∉ state.encodedTerminalOrder := by
    rw [accounts.order, found]
    simp [live]
  have positive := accounts.records_pos found live
  apply rewrite_accounts accounts found summary identity (state.encodedTerminalOrder ++ [id])
    (state.unfinishedRecords - 1)
  · simp only [unfinished, live, ended, Bool.not_true, Bool.not_false, Bool.false_eq_true,
      if_true, if_false]
    omega
  · simp [ended]
  · intro other different
    simp [different]
  · refine nodup_append.mpr ⟨accounts.nodup, nodup_singleton _, ?_⟩
    intro other member last single
    rw [mem_singleton.mp single]
    rintro rfl
    exact absent member

end

theorem insert_accounts (accounts : state.Accounts) (id : TaskId) (request : StoredTaskRequest)
    (now : Nat) (absent : state.encodedTasks.lookup id = none)
    (free : ∀ key, request.idempotencyKey = some key →
      state.encodedIdempotency.lookup key = none) :
    (state.insertAccepted id request now).Accounts := by
  have lookup := fun other => insert_accepted_lookup state id other request now
  constructor
  · exact (insert_accepted_sound accounts.sound id request now absent).keyed
  · have total := Table.total_insert_new payloadSize state.encodedTasks id
      { request := request, summary := acceptedSummary id request now } absent
    rw [← accounts.payload] at total
    exact (Nat.add_comm _ _).trans total.symm
  · have total := Table.total_insert_new (fun task => if unfinished task then 1 else 0)
      state.encodedTasks id { request := request, summary := acceptedSummary id request now } absent
    rw [← accounts.records] at total
    exact (Nat.add_comm _ _).trans total.symm
  · intro other
    show other ∈ state.encodedTerminalOrder ↔ _
    rw [lookup, accounts.order]
    split_ifs with same
    · subst same
      simp [absent, acceptedSummary, TaskState.isTerminal]
    · exact Iff.rfl
  · exact accounts.nodup
  · intro key other
    rw [lookup]
    have unnamed : state.encodedIdempotency.lookup key ≠ some id := by
      rw [Ne, accounts.index, absent]
      simp
    show (match request.idempotencyKey with
      | none => state.encodedIdempotency
      | some own => state.encodedIdempotency.insert own id).lookup key = some other ↔ _
    cases carried : request.idempotencyKey with
    | none =>
      split_ifs with same
      · subst same
        simp [unnamed, carried]
      · exact accounts.index key other
    | some own =>
      rw [Table.lookup_insert_eq]
      split_ifs with sameKey same same
      · simp [same, sameKey, carried]
      · subst sameKey
        have unused := accounts.index key other
        rw [free key carried] at unused
        simp only [reduceCtorEq, false_iff] at unused
        simp [unused, Ne.symm same]
      · subst same
        simp [unnamed, carried, Ne.symm sameKey]
      · exact accounts.index key other

end MemoryState

end TaskService.Store
