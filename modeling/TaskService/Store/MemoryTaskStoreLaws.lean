import TaskService.Store.MemoryTaskStore

/-!
# The in-memory store meets the store laws

Evictions are the only way a call touches a record it does not address.  They
remove the front of the terminal order, so the invariant that carries the laws
is that every identifier of that order names a retained terminal record.
-/

namespace TaskService.Store

open Library Model List MemoryState
open AcceptEffect (rejected created replayed)
open TransitionEffect (rejected applied)

namespace MemoryState

/-- Records are kept under their own identity and the terminal order names
retained terminal records only. -/
structure Sound (state : MemoryState) : Prop where
  keyed : ∀ id task, state.encodedTasks.lookup id = some task → task.summary.id = id
  retired : ∀ id ∈ state.encodedTerminalOrder,
    ∃ task, state.encodedTasks.lookup id = some task ∧ task.summary.state.isTerminal = true

/-- `after` differs from `before` by evicted terminal records at most. -/
structure EvictsOnly (before after : MemoryState) : Prop where
  sound : after.Sound
  kept : ∀ other, Kept (before.encodedTasks.lookup other) (after.encodedTasks.lookup other)

variable {state : MemoryState}

theorem EvictsOnly.refl (sound : state.Sound) : EvictsOnly state state :=
  ⟨sound, fun _ => Kept.refl _⟩

theorem EvictsOnly.trans {first second third : MemoryState}
    (left : EvictsOnly first second) (right : EvictsOnly second third) : EvictsOnly first third :=
  ⟨right.sound, fun other => (left.kept other).trans (right.kept other)⟩

theorem EvictsOnly.absent {before after : MemoryState} (evicted : EvictsOnly before after)
    {id : TaskId} (absent : before.encodedTasks.lookup id = none) :
    after.encodedTasks.lookup id = none := by
  cases found : after.encodedTasks.lookup id with
  | none => rfl
  | some task =>
    rw [(evicted.kept id).eq_of_some found] at absent
    cases absent

theorem remove_lookup (state : MemoryState) (id other : TaskId) :
    (state.removeEncodedTask id).1.encodedTasks.lookup other =
      if other = id then none else state.encodedTasks.lookup other := by
  unfold removeEncodedTask
  split
  · rename_i absent
    by_cases same : other = id
    · rw [if_pos same, same, absent]
    · rw [if_neg same]
  · exact Table.lookup_erase_eq _ _ _

theorem remove_order_subset (state : MemoryState) (id : TaskId) :
    ∀ other ∈ (state.removeEncodedTask id).1.encodedTerminalOrder,
      other ∈ state.encodedTerminalOrder ∧
        (other ≠ id ∨ state.encodedTasks.lookup id = none) := by
  intro other member
  unfold removeEncodedTask at member
  split at member
  · rename_i absent
    exact ⟨member, .inr absent⟩
  · simp only [mem_filter, decide_eq_true_eq] at member
    exact ⟨member.1, .inl member.2⟩

theorem remove_evicts (sound : state.Sound) (id : TaskId)
    (terminal : ∀ task, state.encodedTasks.lookup id = some task →
      task.summary.state.isTerminal = true) :
    EvictsOnly state (state.removeEncodedTask id).1 := by
  refine ⟨⟨?_, ?_⟩, ?_⟩
  · intro other task found
    rw [remove_lookup] at found
    split_ifs at found
    exact sound.keyed other task found
  · intro other member
    obtain ⟨earlier, different⟩ := remove_order_subset state id other member
    obtain ⟨task, found, ended⟩ := sound.retired other earlier
    refine ⟨task, ?_, ended⟩
    have distinct : other ≠ id := by
      rcases different with distinct | absent
      · exact distinct
      · rintro rfl
        rw [absent] at found
        cases found
    rw [remove_lookup, if_neg distinct, found]
  · intro other
    rw [remove_lookup]
    split_ifs with same
    · subst same
      cases found : state.encodedTasks.lookup other with
      | none => exact Kept.refl _
      | some task => exact .inr ⟨rfl, task, rfl, terminal task found⟩
    · exact Kept.refl _

theorem evict_oldest_evicts (sound : state.Sound) :
    EvictsOnly state state.evictOldestEncodedTerminal.1 := by
  unfold evictOldestEncodedTerminal
  split
  · exact EvictsOnly.refl sound
  · rename_i id front
    apply remove_evicts sound
    intro task found
    obtain ⟨retired, held, terminal⟩ := sound.retired id (mem_of_head? front)
    rw [held] at found
    cases found
    exact terminal

theorem evict_until_evicts (done : MemoryState → Bool) (rounds : Nat) (sound : state.Sound) :
    EvictsOnly state (evictUntil done rounds state).1 := by
  induction rounds generalizing state with
  | zero => exact EvictsOnly.refl sound
  | succ rounds ih =>
    have evicted := evict_oldest_evicts sound
    simp only [evictUntil]
    split_ifs
    · exact EvictsOnly.refl sound
    · exact evicted.trans (ih evicted.sound)
    · exact evicted

theorem remove_all_evicts (ids : List TaskId) (sound : state.Sound)
    (terminal : ∀ id ∈ ids, ∀ task, state.encodedTasks.lookup id = some task →
      task.summary.state.isTerminal = true) :
    EvictsOnly state (ids.foldl (fun current id => (current.removeEncodedTask id).1) state) := by
  induction ids generalizing state with
  | nil => exact EvictsOnly.refl sound
  | cons id rest ih =>
    have first := remove_evicts sound id (terminal id (by simp))
    refine first.trans (ih first.sound ?_)
    intro other member task found
    exact terminal other (mem_cons_of_mem _ member) task ((first.kept other).eq_of_some found)

theorem put_summary_lookup (state : MemoryState) (id other : TaskId) (task : StoredTask)
    (summary : TaskSummary) :
    (state.putSummary id task summary).encodedTasks.lookup other =
      if other = id then some { task with summary := summary }
      else state.encodedTasks.lookup other :=
  Table.lookup_insert_eq _ _ _ _

theorem put_summary_own {id : TaskId} {task : StoredTask} {summary : TaskSummary} :
    (state.putSummary id task summary).encodedTasks.lookup id =
      some { task with summary := summary } :=
  (put_summary_lookup _ _ _ _ _).trans (if_pos rfl)

theorem put_summary_other {id : TaskId} {task : StoredTask} {summary : TaskSummary} (other : TaskId)
    (different : other ≠ id) : (state.putSummary id task summary).encodedTasks.lookup other =
      state.encodedTasks.lookup other :=
  (put_summary_lookup _ _ _ _ _).trans (if_neg different)

/-- Rewriting a summary in place is sound when the identity stays and a record
of the terminal order stays terminal. -/
theorem put_summary_sound (sound : state.Sound) (id : TaskId) (task : StoredTask)
    (summary : TaskSummary) (held : state.encodedTasks.lookup id = some task)
    (identity : summary.id = task.summary.id)
    (terminal : task.summary.state.isTerminal = true → summary.state.isTerminal = true) :
    (state.putSummary id task summary).Sound := by
  refine ⟨?_, ?_⟩
  · intro other stored found
    rw [put_summary_lookup] at found
    split_ifs at found with same
    · cases found
      rw [same]
      exact identity.trans (sound.keyed id task held)
    · exact sound.keyed other stored found
  · intro other member
    obtain ⟨stored, found, ended⟩ := sound.retired other member
    rw [put_summary_lookup]
    split_ifs with same
    · rw [same, held] at found
      cases found
      exact ⟨_, rfl, terminal ended⟩
    · exact ⟨stored, found, ended⟩

theorem insert_accepted_lookup (state : MemoryState) (id other : TaskId)
    (request : StoredTaskRequest) (now : Nat) :
    (state.insertAccepted id request now).encodedTasks.lookup other =
      if other = id then
        some { request := request, summary := acceptedSummary id request now }
      else state.encodedTasks.lookup other :=
  Table.lookup_insert_eq _ _ _ _

theorem insert_accepted_sound (sound : state.Sound) (id : TaskId) (request : StoredTaskRequest)
    (now : Nat) (absent : state.encodedTasks.lookup id = none) :
    (state.insertAccepted id request now).Sound := by
  refine ⟨?_, ?_⟩
  · intro other stored found
    rw [insert_accepted_lookup] at found
    split_ifs at found with same
    · cases found
      exact same.symm
    · exact sound.keyed other stored found
  · intro other member
    obtain ⟨stored, found, ended⟩ := sound.retired other member
    rw [insert_accepted_lookup]
    split_ifs with same
    · rw [same, absent] at found
      cases found
    · exact ⟨stored, found, ended⟩

theorem retire_record_evicts (sound : state.Sound) (id : TaskId) (task : StoredTask)
    (capacity : Nat) (held : state.encodedTasks.lookup id = some task)
    (terminal : task.summary.state.isTerminal = true) :
    EvictsOnly state (state.retireRecord id capacity) := by
  have retired : (state.retiring id).Sound := by
    refine ⟨sound.keyed, ?_⟩
    intro other member
    rcases mem_append.mp member with earlier | last
    · exact sound.retired other earlier
    · rw [mem_singleton.mp last]
      exact ⟨task, held, terminal⟩
  have trimmed : EvictsOnly (state.retiring id) (state.retireRecord id capacity) :=
    evict_until_evicts _ _ retired
  exact ⟨trimmed.sound, trimmed.kept⟩

end MemoryState

namespace MemoryTaskStore

def Valid (store : MemoryTaskStore) : Prop :=
  store.state.Sound

section

variable (store : MemoryTaskStore) (clock : Clock) (id : TaskId) (request : StoredTaskRequest)
  (valid : store.Valid)
include store clock id request valid

theorem accept_new_effect (absent : store.getEncodedTask id = none) :
    (store.acceptNew clock id request).1.Valid ∧
      AcceptEffect store.getEncodedTask (store.acceptNew clock id request).1.getEncodedTask id
        request clock.now (store.acceptNew clock id request).2 := by
  have reclaimed : EvictsOnly store.state (store.state.reclaimPayload
      (store.maxPayloadBytes - request.payload.bytes.length)
      store.state.encodedTerminalOrder.length).1 := evict_until_evicts _ _ valid
  have stillAbsent := reclaimed.absent absent
  simp only [acceptNew, acceptNewBy]
  split_ifs
  · exact ⟨valid, rejected _ fun _ => Kept.refl _⟩
  · refine ⟨insert_accepted_sound reclaimed.sound id request clock.now stillAbsent,
      created absent ?_ ?_⟩
    · exact (insert_accepted_lookup _ id id request clock.now).trans (if_pos rfl)
    · intro other different
      have lookup := insert_accepted_lookup (store.state.reclaimPayload
        (store.maxPayloadBytes - request.payload.bytes.length)
        store.state.encodedTerminalOrder.length).1 id other request clock.now
      rw [if_neg different] at lookup
      have kept := reclaimed.kept other
      rw [← lookup] at kept
      exact kept
  · exact ⟨reclaimed.sound, rejected _ reclaimed.kept⟩

theorem accept_spec :
    (store.acceptEncoded clock id request).1.Valid ∧
      AcceptEffect store.getEncodedTask (store.acceptEncoded clock id request).1.getEncodedTask id
        request clock.now (store.acceptEncoded clock id request).2 := by
  have unchanged : ∀ other, Kept (store.getEncodedTask other) (store.getEncodedTask other) :=
    fun _ => Kept.refl _
  unfold acceptEncoded acceptEncodedBy
  split
  · exact ⟨valid, rejected _ unchanged⟩
  split
  · split
    · exact ⟨valid, rejected _ unchanged⟩
    split
    · exact ⟨valid, rejected _ unchanged⟩
    · exact ⟨valid, replayed _ fun _ => rfl⟩
  · split
    · exact ⟨valid, rejected _ unchanged⟩
    rename_i fresh
    split
    · exact ⟨valid, rejected _ unchanged⟩
    · exact accept_new_effect store clock id request valid (Option.not_isSome_iff_eq_none.mp fresh)

end

theorem start_spec (store : MemoryTaskStore) (command : StartCommand) (valid : store.Valid) :
    (store.startEncoded command).1.Valid ∧
      StartEffect store.getEncodedTask (store.startEncoded command).1.getEncodedTask command
        (store.startEncoded command).2 := by
  unfold startEncoded
  split
  · exact ⟨valid, StartEffect.rejected _ fun _ => rfl⟩
  rename_i task held
  split
  · exact ⟨valid, StartEffect.rejected _ fun _ => rfl⟩
  rename_i matched
  push Not at matched
  have live : task.summary.state.isTerminal = true → False := by
    rw [matched.2]
    exact Bool.false_ne_true
  split
  · exact ⟨valid, StartEffect.rejected _ fun _ => rfl⟩
  rename_i version increment
  obtain ⟨room, rfl⟩ := checked_add_eq_some.mp increment
  split
  · exact ⟨put_summary_sound valid _ _ _ held rfl fun ended => (live ended).elim,
      StartEffect.attemptExhausted task _ held matched.2 room
        put_summary_own put_summary_other⟩
  · exact ⟨put_summary_sound valid _ _ _ held rfl fun ended => (live ended).elim,
      StartEffect.started task held matched.2 matched.1 room
        put_summary_own put_summary_other⟩

theorem transition_check_iff (summary : TaskSummary) (command : TransitionCommand) :
    transitionCheck summary command = .ok () ↔
      TransitionMatches summary command ∧
        ¬ (command.output.isSome = true ∧ summary.state.isTerminal = true) ∧
        (command.retryNotBeforeMs = none ∨ command.state = .queued) := by
  unfold transitionCheck
  by_cases matched : TransitionMatches summary command
  · cases command.output.isSome <;> cases summary.state.isTerminal <;>
      cases command.retryNotBeforeMs <;> by_cases queued : command.state = .queued <;>
      simp [matched, queued]
  · simp [matched]

variable {command : TransitionCommand} {summary : TaskSummary}

theorem transition_check_ok (passed : transitionCheck summary command = .ok ()) :
    TransitionMatches summary command :=
  ((transition_check_iff summary command).mp passed).1

theorem transition_check_conflict (failed : transitionCheck summary command = .error .conflict) :
    ¬ TransitionMatches summary command := by
  unfold transitionCheck at failed
  split at failed
  · rename_i unmatched
    exact unmatched
  · split_ifs at failed <;> simp at failed

theorem apply_transition_spec (store : MemoryTaskStore) (command : TransitionCommand)
    (task : StoredTask) (valid : store.Valid) (held : store.getEncodedTask command.id = some task)
    (matched : TransitionMatches task.summary command) :
    (store.applyTransition task command).Sound ∧
      ((store.applyTransition task command).encodedTasks.lookup command.id =
          some { task with summary := transitionedSummary task.summary command } ∨
        (command.state.isTerminal = true ∧
          (store.applyTransition task command).encodedTasks.lookup command.id = none)) ∧
      ∀ other, other ≠ command.id →
        Kept (store.getEncodedTask other)
          ((store.applyTransition task command).encodedTasks.lookup other) := by
  have written := put_summary_sound valid command.id task
    (transitionedSummary task.summary command) held rfl matched.keeps_terminal
  have own := @put_summary_own store.state command.id task
    (transitionedSummary task.summary command)
  have elsewhere := @put_summary_other store.state command.id task
    (transitionedSummary task.summary command)
  simp only [applyTransition]
  split_ifs with retires
  · rw [Bool.and_eq_true] at retires
    have retired := retire_record_evicts written command.id _ store.historyCapacity
      own retires.2
    refine ⟨retired.sound, ?_, ?_⟩
    · rcases retired.kept command.id with same | ⟨gone, _⟩
      · exact .inl (same.trans own)
      · exact .inr ⟨retires.2, gone⟩
    · intro other different
      have kept := retired.kept other
      rw [elsewhere other different] at kept
      exact kept
  · refine ⟨written, .inl own, ?_⟩
    intro other different
    exact .inl (elsewhere other different)

theorem transition_spec (store : MemoryTaskStore) (command : TransitionCommand)
    (valid : store.Valid) :
    (store.transitionEncoded command).1.Valid ∧
      TransitionEffect store.getEncodedTask (store.transitionEncoded command).1.getEncodedTask
        command (store.transitionEncoded command).2 := by
  unfold transitionEncoded transitionEncodedBy
  split
  · exact ⟨valid, rejected _ (fun _ => rfl) (by simp)⟩
  split
  · rename_i error invalid
    refine ⟨valid, rejected _ (fun _ => rfl) ?_⟩
    rintro rfl
    exact (validate_encoded_output_ne_conflict _ _ invalid).elim
  split
  · exact ⟨valid, rejected _ (fun _ => rfl) (by simp)⟩
  rename_i task held
  split
  · rename_i error failed
    refine ⟨valid, rejected _ (fun _ => rfl) ?_⟩
    rintro rfl other found
    rw [held] at found
    cases found
    exact transition_check_conflict failed
  rename_i passed
  have matched := transition_check_ok passed
  split
  · rename_i overflow
    have full := checked_add_eq_none.mp overflow
    exact ⟨put_summary_sound valid _ _ _ held rfl matched.keeps_terminal,
      TransitionEffect.versionExhausted task held matched full
        put_summary_own put_summary_other⟩
  · rename_i version increment
    obtain ⟨room, _⟩ := checked_add_eq_some.mp increment
    obtain ⟨sound, own, others⟩ := apply_transition_spec store command task valid held matched
    exact ⟨sound, applied task held matched room own others⟩

theorem progress_spec (store : MemoryTaskStore) (command : ProgressCommand) (valid : store.Valid) :
    (store.updateProgress command).1.Valid ∧
      ProgressEffect store.getEncodedTask (store.updateProgress command).1.getEncodedTask
        command.id := by
  unfold updateProgress
  split
  · exact ⟨valid, ProgressEffect.rejected fun _ => rfl⟩
  rename_i snapshot _
  split
  · exact ⟨valid, ProgressEffect.rejected fun _ => rfl⟩
  rename_i task held
  split
  · exact ⟨valid, ProgressEffect.rejected fun _ => rfl⟩
  exact ⟨put_summary_sound valid _ _ _ held rfl id,
    ProgressEffect.reported task snapshot held put_summary_own put_summary_other⟩

theorem scanned_summary {store : MemoryTaskStore} (valid : store.Valid)
    (member : summary ∈ store.state.encodedTasks.values.map StoredTask.summary) :
    ∃ task, store.getEncodedTask summary.id = some task ∧ task.summary = summary := by
  obtain ⟨task, scanned, rfl⟩ := mem_map.mp member
  obtain ⟨key, found⟩ := (Table.mem_values_iff _ _).mp scanned
  refine ⟨task, ?_, rfl⟩
  rw [valid.keyed key task found]
  exact found

theorem prune_evicts (store : MemoryTaskStore) (cutoff maxRows : Nat) (valid : store.Valid) :
    MemoryState.EvictsOnly store.state (store.pruneTerminalBefore cutoff maxRows).1.state := by
  apply remove_all_evicts _ valid
  intro id member task found
  obtain ⟨key, taken, rfl⟩ := mem_map.mp member
  have candidate := (mem_insertionSort _).mp (mem_of_mem_take taken)
  obtain ⟨summary, scanned, expired⟩ := mem_filterMap.mp candidate
  obtain ⟨stored, held, rfl⟩ := scanned_summary valid scanned
  unfold expiredAt at expired
  split at expired
  · cases expired
  split_ifs at expired with terminal
  cases expired
  rw [show store.state.encodedTasks.lookup stored.summary.id = some stored from held] at found
  cases found
  exact (Bool.and_eq_true _ _ ▸ terminal).1

theorem list_ready_spec (store : MemoryTaskStore) (after : Option TaskCursor) (limit now : Nat)
    (page : TaskPage) (valid : store.Valid)
    (listed : store.listReadyQueued after limit now = .ok page) :
    ∀ summary ∈ page.records, summary.state = .queued ∧
      ∃ task, store.getEncodedTask summary.id = some task ∧ task.summary = summary := by
  unfold listReadyQueued at listed
  split_ifs at listed
  cases listed
  intro summary member
  have sorted := (mem_insertionSort _).mp (mem_of_mem_take member)
  obtain ⟨scanned, ready⟩ := mem_filter.mp sorted
  refine ⟨?_, scanned_summary valid scanned⟩
  simp only [readyAt, Bool.and_eq_true, decide_eq_true_eq] at ready
  exact ready.1.1

theorem next_deadline_spec (store : MemoryTaskStore) (now : Nat) :
    NextDeadline store.getEncodedTask now (store.nextRetryDeadline now) := by
  apply next_deadline_of_min
  rintro id deadline ⟨task, found, queued, retry⟩
  refine mem_filterMap.mpr ⟨task.summary, mem_filter.mpr ⟨?_, ?_⟩, retry⟩
  · exact mem_map_of_mem ((Table.mem_values_iff _ _).mpr ⟨id, found⟩)
  · exact decide_eq_true queued

theorem list_spec (store : MemoryTaskStore) (query : TaskQuery) (page : TaskPage)
    (valid : store.Valid) (listed : store.listEncoded query = .ok page) :
    ∀ summary ∈ page.records,
      ∃ task, store.getEncodedTask summary.id = some task ∧ task.summary = summary := by
  unfold listEncoded at listed
  split at listed
  · cases listed
  cases listed
  intro summary member
  obtain ⟨key, _, mapped⟩ := mem_filterMap.mp member
  obtain ⟨task, found, rfl⟩ := Option.map_eq_some_iff.mp mapped
  refine ⟨task, ?_, rfl⟩
  rw [valid.keyed key.id task found]
  exact found

end MemoryTaskStore

instance : LawfulStore MemoryTaskStore where
  Valid := MemoryTaskStore.Valid
  get_id _ id task valid found := valid.keyed id task found
  accept_valid store clock id request valid := (store.accept_spec clock id request valid).1
  accept_effect store clock id request valid := (store.accept_spec clock id request valid).2
  start_valid store _ command valid := (store.start_spec command valid).1
  start_effect store _ command valid := (store.start_spec command valid).2
  transition_valid store _ command valid := (store.transition_spec command valid).1
  transition_effect store _ command valid := (store.transition_spec command valid).2
  progress_valid store command valid := (store.progress_spec command valid).1
  progress_effect store command valid := (store.progress_spec command valid).2
  prune_valid store cutoff maxRows valid := (store.prune_evicts cutoff maxRows valid).sound
  prune_effect store cutoff maxRows valid := (store.prune_evicts cutoff maxRows valid).kept
  mark_valid _ _ _ valid := valid
  mark_records _ _ _ _ := rfl
  quarantine_valid _ _ _ valid := valid
  quarantine_records _ _ _ _ := rfl
  list_ready_sound store after limit now page valid :=
    store.list_ready_spec after limit now page valid
  list_sound store query page valid := store.list_spec query page valid
  next_deadline store now answer _ asked := by
    cases asked
    exact store.next_deadline_spec now

theorem with_limits_valid (historyCapacity maxPayloadBytes maxUnfinishedRecords : Nat) :
    LawfulStore.Valid
      (MemoryTaskStore.withLimits historyCapacity maxPayloadBytes maxUnfinishedRecords) := by
  refine ⟨?_, ?_⟩
  · intro id task found
    cases found
  · intro id member
    cases member

theorem with_limits_get (historyCapacity maxPayloadBytes maxUnfinishedRecords : Nat) (id : TaskId) :
    TaskStore.getEncodedTask
      (MemoryTaskStore.withLimits historyCapacity maxPayloadBytes maxUnfinishedRecords) id = none :=
  rfl

theorem with_limits_known (historyCapacity maxPayloadBytes maxUnfinishedRecords : Nat)
    (knownIds : List TaskId) (id : TaskId) (present : TaskStore.getEncodedTask
      (MemoryTaskStore.withLimits historyCapacity maxPayloadBytes maxUnfinishedRecords) id ≠ none) :
    id ∈ knownIds :=
  (present (with_limits_get ..)).elim

end TaskService.Store
