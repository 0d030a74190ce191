import TaskService.Store.StoreAgreement

/-!
# Runs of the two stores

Both stores start empty and run through the same calls.  As long as every call is within
the common limits and none is one of the exceptional ones, they answer alike and show the
same records; at an exceptional call they part.

A client that does not know whether its request was accepted sends it again under the same
idempotency key.  The SQLite store keeps one row for each key, so the retry meets the task of
the first request, whatever has happened in between.
-/

namespace TaskService.Store

open Library Model

section Parting

theorem AnswersAgree.together {α : Type} {left right : Except StoreError α}
    (agree : AnswersAgree left right) :
    (∃ value, left = .ok value) ↔ ∃ value, right = .ok value := by
  cases left <;> cases right <;> first | exact agree.elim | simp

variable [IdCodec] {memory : MemoryTaskStore} {sqlite : SqliteTaskStore}

def Alike (memory : MemoryTaskStore) (sqlite : SqliteTaskStore) (call : StoreCall) : Prop :=
  StoreAnswer.Agree (call.run memory).2 (call.run sqlite).2 ∧
    ∀ id, (call.run sqlite).1.getEncodedTask id = (call.run memory).1.getEncodedTask id

/-- The memory store has written the new version when the attempt counter overflows; the
SQLite store has written nothing. -/
theorem exhausted_start_parts (mirrors : Mirrors memory sqlite) (clock : Clock)
    (command : StartCommand)
    (exhausted : memory.CounterExhausted (.lifecycle (.start clock command))) :
    (StoreCall.run sqlite (.start clock command)).1.getEncodedTask command.id ≠
      (StoreCall.run memory (.start clock command)).1.getEncodedTask command.id := by
  intro versions
  obtain ⟨regular, _⟩ | ⟨_, task, error, held, started⟩ := memory.start_outcome clock command
  · exact regular exhausted
  have shown : (memory.startEncoded command).1.getEncodedTask command.id =
      some { task with summary :=
        { task.summary with stateVersion := task.summary.stateVersion + 1 } } := by
    rw [started]
    exact (MemoryState.put_summary_lookup _ _ _ _ _).trans (if_pos rfl)
  have kept : (sqlite.startEncoded clock command).1 = sqlite := by
    unfold SqliteTaskStore.startEncoded
    rcases sqlite.run_write_cases fun database =>
        database.startEncoded clock command sqlite.outboxEnabled with
      ⟨error, failed, _⟩ | ⟨database, value, done, _⟩
    · rw [failed]
    · obtain ⟨row, found, _, _, counted, _⟩ := Database.start_succeeds_iff.mp ⟨_, _, done⟩
      obtain ⟨other, same, _, _, _, full⟩ := exhausted
      rw [mirrors.record_of_row found] at same
      cases same
      exact absurd counted (Nat.not_lt.mpr full)
  rw [show (StoreCall.run sqlite (.start clock command)).1 = sqlite from kept,
    show (StoreCall.run memory (.start clock command)).1.getEncodedTask command.id = _ from shown,
    mirrors.records, held] at versions
  have numbers := congrArg (Option.map fun task => task.summary.stateVersion) versions
  simp at numbers

omit [IdCodec] in
/-- The first report of an attempt under version 0 is news to the memory store only: the
SQLite store compares it with the baseline 0. -/
theorem zero_report_parts (mirrors : Mirrors memory sqlite) (command : ProgressCommand)
    (exceptional : Exceptional memory (.progress command)) :
    ¬ ((∃ summary, (memory.updateProgress command).2 = .ok summary) ↔
      ∃ summary, (sqlite.updateProgress command).2 = .ok summary) := by
  obtain ⟨zero, wellFormed, task, held, running, attempt, absent⟩ := exceptional
  have accepted := memory.progress_succeeds_iff command |>.mpr
    ⟨wellFormed, task, held, running, attempt, by rw [absent]; rfl⟩
  intro together
  obtain ⟨summary, done⟩ := together.mp accepted
  obtain ⟨_, row, _, _, _, newer, _⟩ := Database.progress_succeeds_iff.mp
    ((SqliteTaskStore.run_write_succeeds_iff mirrors.held _).mp ⟨summary, done⟩)
  rw [zero] at newer
  exact Nat.not_lt_zero _ newer

theorem oversized_prune_parts {cutoff maxRows : Nat}
    (oversized : i64Bound ≤ maxRows) : ¬ Alike memory sqlite (.prune cutoff maxRows) := by
  rintro ⟨agree, _⟩
  have refused : ∃ error, (sqlite.pruneTerminalBefore cutoff maxRows).2 = .error error := by
    unfold SqliteTaskStore.pruneTerminalBefore
    split_ifs
    · exact ⟨_, rfl⟩
    · exact ⟨_, rfl⟩
  obtain ⟨error, refused⟩ := refused
  rw [show (StoreCall.run sqlite (.prune cutoff maxRows)).2 = .pruned (.error error) from
    congrArg StoreAnswer.pruned refused] at agree
  exact agree

theorem Mirrors.alike_iff (mirrors : Mirrors memory sqlite) (call : StoreCall)
    (within : WithinLimits memory sqlite.outboxEnabled call) :
    Alike memory sqlite call ↔ ¬ Exceptional memory call := by
  constructor
  · intro alike exceptional
    cases call with
    | accept | transition => exact exceptional
    | start clock command =>
      exact exhausted_start_parts mirrors clock command exceptional (alike.2 command.id)
    | progress command =>
      exact zero_report_parts mirrors command exceptional (AnswersAgree.together alike.1)
    | prune => exact oversized_prune_parts exceptional alike
  · intro regular
    obtain ⟨agree, after⟩ := mirrors.call_agreed call within regular
    exact ⟨agree, after.records⟩

end Parting

section Runs

theorem mirrors_empty (historyCapacity maxPayloadBytes maxUnfinishedRecords : Nat)
    {sqlite : SqliteTaskStore} (empty : sqlite.database = Database.empty)
    (held : sqlite.lockHeld = true) :
    Mirrors (MemoryTaskStore.withLimits historyCapacity maxPayloadBytes maxUnfinishedRecords)
      sqlite where
  records id := by
    show sqlite.database.getEncodedTask id = _
    rw [empty]
    rfl
  consistent := MemoryTaskStore.with_limits_consistent _ _ _
  rows := by
    rw [empty]
    exact fun _ _ absent => by cases absent
  sound := by
    rw [empty]
    exact ⟨(fun id row found => by cases found), (fun event member => by cases member)⟩
  held := held
  quiet _ := by rw [empty]; rfl

variable [IdCodec]

def storesStep (stores : MemoryTaskStore × SqliteTaskStore) (call : StoreCall) :
    Option (MemoryTaskStore × SqliteTaskStore) :=
  some ((call.run stores.1).1, (call.run stores.2).1)

def Regular (stores : MemoryTaskStore × SqliteTaskStore) (call : StoreCall) : Prop :=
  WithinLimits stores.1 stores.2.outboxEnabled call ∧ ¬ Exceptional stores.1 call

theorem run_mirrors {start final : MemoryTaskStore × SqliteTaskStore} {calls : List StoreCall}
    (mirrors : Mirrors start.1 start.2) (regular : Guarded storesStep Regular start calls)
    (reached : runActions storesStep start calls = some final) : Mirrors final.1 final.2 := by
  refine @run_invariant _ _ storesStep Regular (fun stores => Mirrors stores.1 stores.2) ?_ _ _ _
    mirrors regular reached
  intro stores call next allowed related taken
  cases taken
  exact (related.call_agreed call allowed.1 allowed.2).2

end Runs

section Overflow

variable [IdCodec]

def sampleStores : MemoryTaskStore × SqliteTaskStore :=
  (MemoryTaskStore.withLimits 4 64 4, SqliteTaskStore.opened Database.empty)

/-- Regular calls lead the new stores to a task with this state, version and attempt. -/
structure SampleAt (state : TaskState) (version attempt : Nat)
    (stores : MemoryTaskStore × SqliteTaskStore) (calls : List StoreCall) (task : StoredTask) :
    Prop where
  regular : Guarded storesStep Regular sampleStores calls
  reached : runActions storesStep sampleStores calls = some stores
  quiet : stores.2.outboxEnabled = false
  held : stores.1.getEncodedTask { value := 1 } = some task
  state : task.summary.state = state
  version : task.summary.stateVersion = version
  attempt : task.summary.attempt = attempt

variable {state : TaskState} {version attempt : Nat}
  {stores : MemoryTaskStore × SqliteTaskStore} {calls : List StoreCall} {task : StoredTask}

theorem SampleAt.mirrors (sample : SampleAt state version attempt stores calls task) :
    Mirrors stores.1 stores.2 :=
  run_mirrors (mirrors_empty _ _ _ rfl rfl) sample.regular sample.reached

theorem SampleAt.next (sample : SampleAt state version attempt stores calls task)
    {call : StoreCall} (allowed : Regular stores call) {after : StoredTask}
    (held : (call.run stores.1).1.getEncodedTask { value := 1 } = some after) :
    SampleAt after.summary.state after.summary.stateVersion after.summary.attempt
      ((call.run stores.1).1, (call.run stores.2).1) (calls ++ [call]) after where
  regular := guarded_extend sample.regular sample.reached allowed
  reached := run_snoc_eq_some.mpr ⟨stores, sample.reached, rfl⟩
  quiet := (call_outcome sample.mirrors.sound call).settings.1.trans sample.quiet
  held := held
  state := rfl
  version := rfl
  attempt := rfl

theorem SampleAt.start (sample : SampleAt .queued version attempt stores calls task)
    (room : version + 1 < i64Bound) (few : attempt + 1 < u32Bound) :
    ∃ stores calls task, SampleAt .running (version + 1) (attempt + 1) stores calls task := by
  obtain ⟨regular, reached, quiet, held, queued, rfl, rfl⟩ := id sample
  let command : StartCommand :=
    { id := { value := 1 }, expectedStateVersion := task.summary.stateVersion, startedAtMs := 6 }
  have allowed : Regular stores (.start sampleClock command) := by
    refine ⟨⟨(show 6 < i64Bound by decide), ?_⟩, ?_⟩
    · intro other same
      cases held.symm.trans same
      exact ⟨room, fun enabled => by cases quiet.symm.trans enabled⟩
    · rintro ⟨other, same, _, _, _, full⟩
      cases held.symm.trans same
      exact Nat.not_lt.mpr full few
  obtain ⟨summary, started⟩ := (stores.1.start_succeeds_iff command).mpr
    ⟨task, held, rfl, queued, lt_u64_of_lt_i64 room, few⟩
  have effect := (stores.1.start_spec command sample.mirrors.consistent.accounts.sound).2
  rw [started] at effect
  obtain ⟨other, same, _, records⟩ := effect.rewritten
  cases held.symm.trans same
  exact ⟨_, _, _, sample.next allowed ((records _).trans (if_pos rfl))⟩

theorem SampleAt.requeue (sample : SampleAt .running version attempt stores calls task)
    (room : version + 1 < i64Bound) :
    ∃ stores calls task, SampleAt .queued (version + 1) attempt stores calls task := by
  obtain ⟨regular, reached, quiet, held, running, rfl, rfl⟩ := id sample
  let command : TransitionCommand :=
    { id := { value := 1 }
      expectedStateVersion := task.summary.stateVersion
      expectedAttempt := task.summary.attempt
      retryNotBeforeMs := none
      state := .queued
      cancelRequested := false
      cancelError := none
      finishedAtMs := none
      output := none }
  have allowed : Regular stores (.transition sampleClock command) := by
    refine ⟨⟨(fun _ absent => by cases absent), ?_⟩, id⟩
    intro other same
    cases held.symm.trans same
    exact ⟨room, (fun _ terminal => by cases terminal),
      fun enabled => by cases quiet.symm.trans enabled⟩
  have passed : MemoryTaskStore.transitionCheck task.summary command = .ok () := by
    refine (MemoryTaskStore.transition_check_iff _ _).mpr ⟨⟨rfl, rfl, .inl ?_⟩, ?_, .inl rfl⟩
    · rw [running]
      rfl
    · rintro ⟨absent, _⟩
      cases absent
  obtain ⟨summary, moved⟩ := (stores.1.transition_succeeds_iff command).mpr
    ⟨rfl, rfl, task, held, passed, lt_u64_of_lt_i64 room⟩
  obtain ⟨other, same, _, records⟩ :=
    MemoryTaskStore.transition_result (fun _ _ _ terminal => by cases terminal) moved
  cases held.symm.trans same
  exact ⟨_, _, _, sample.next allowed ((records _).trans (if_pos rfl))⟩

theorem rounds_reach (attempt : Nat) (few : attempt < u32Bound) :
    ∃ stores calls task, SampleAt .queued (2 * attempt) attempt stores calls task := by
  induction attempt with
  | zero =>
    have allowed : Regular sampleStores
        (.accept sampleClock { value := 1 } (sampleStored none [])) := by
      refine ⟨⟨rfl, rfl, by decide, ?_⟩, id⟩
      intro _ _
      exact ⟨by decide, by decide, fun enabled => by cases enabled⟩
    have alone : Guarded storesStep Regular sampleStores
        [.accept sampleClock { value := 1 } (sampleStored none [])] :=
      ⟨allowed, fun _ _ => trivial⟩
    exact ⟨_, _, _, alone, rfl, rfl, rfl, rfl, rfl, rfl⟩
  | succ attempt reach =>
    have small : 2 * attempt + 2 < i64Bound := by
      have bounds : 2 * u32Bound < i64Bound := by decide
      omega
    obtain ⟨stores, calls, task, queued⟩ := reach (by omega)
    obtain ⟨_, _, _, running⟩ := queued.start (by omega) few
    exact running.requeue small

end Overflow

def sampleLifecycle : List StoreCall :=
  [.accept sampleClock { value := 1 } (sampleStored (some "a") [1]), sampleStarting 1 0,
    sampleMove 1 1 1 .succeeded]

theorem sample_lifecycle_regular [IdCodec] :
    Guarded storesStep Regular sampleStores sampleLifecycle := by
  refine ⟨⟨⟨rfl, rfl, by decide, ?_⟩, id⟩, ?_⟩
  · intro _ _
    exact ⟨by decide, by decide, fun enabled => by cases enabled⟩
  intro accepted taken
  cases taken
  refine ⟨⟨⟨(show 6 < i64Bound by decide), ?_⟩, ?_⟩, ?_⟩
  · intro task held
    cases held
    exact ⟨(show 1 < i64Bound by decide), fun enabled => by cases enabled⟩
  · rintro ⟨task, held, _, _, _, full⟩
    cases held
    exact absurd full (show ¬ u32Bound ≤ 1 by decide)
  intro started taken
  cases taken
  refine ⟨⟨⟨(fun _ absent => by cases absent), ?_⟩, id⟩, fun _ _ => trivial⟩
  intro task held
  cases held
  exact ⟨(show 2 < i64Bound by decide), (fun _ _ => (show 0 < 4 by decide)),
    fun enabled => by cases enabled⟩

/-- Both stores start empty and see the same calls, the SQLite store without an outbox.
After regular calls they show the same records, and they act alike at the next call within
the limits exactly when it is not exceptional. -/
theorem stores_implement_one_lifecycle [IdCodec]
    (historyCapacity maxPayloadBytes maxUnfinishedRecords : Nat) (calls : List StoreCall)
    (final : MemoryTaskStore × SqliteTaskStore) (regular : Guarded storesStep Regular
      (MemoryTaskStore.withLimits historyCapacity maxPayloadBytes maxUnfinishedRecords,
        SqliteTaskStore.opened Database.empty) calls)
    (reached : runActions storesStep
      (MemoryTaskStore.withLimits historyCapacity maxPayloadBytes maxUnfinishedRecords,
        SqliteTaskStore.opened Database.empty) calls = some final) :
    (∀ id, final.2.getEncodedTask id = final.1.getEncodedTask id) ∧
      ∀ call, WithinLimits final.1 final.2.outboxEnabled call →
        (Alike final.1 final.2 call ↔ ¬ Exceptional final.1 call) := by
  have mirrors := run_mirrors (mirrors_empty _ _ _ rfl rfl) regular reached
  exact ⟨mirrors.records, fun call within => mirrors.alike_iff call within⟩

/-- The start of a task at the last attempt number fails on both stores, and then they show
different records; a prune without a row limit is refused by the SQLite store only. -/
theorem stores_part :
    (∃ calls middle final,
      Guarded (@storesStep sampleIdCodec) (@Regular sampleIdCodec) sampleStores calls ∧
      runActions (@storesStep sampleIdCodec) sampleStores calls = some middle ∧
      @WithinLimits sampleIdCodec middle.1 middle.2.outboxEnabled
        (sampleStarting 1 (2 * (u32Bound - 1))) ∧
      @storesStep sampleIdCodec middle (sampleStarting 1 (2 * (u32Bound - 1))) = some final ∧
      final.2.getEncodedTask { value := 1 } ≠ final.1.getEncodedTask { value := 1 }) ∧
    @WithinLimits sampleIdCodec sampleStores.1 sampleStores.2.outboxEnabled
      (.prune 0 (u64Bound - 1)) ∧
    (sampleStores.1.pruneTerminalBefore 0 (u64Bound - 1)).2 = 0 ∧
    (sampleStores.2.pruneTerminalBefore 0 (u64Bound - 1)).2 =
      .error (.invalidRequest "task history prune limit exceeds the SQLite integer range") := by
  let codec := sampleIdCodec
  refine ⟨?_, ⟨by decide, rfl⟩, by decide, by decide⟩
  obtain ⟨stores, calls, task, sample⟩ := rounds_reach (u32Bound - 1) (by decide)
  refine ⟨calls, stores, _, sample.regular, sample.reached,
    ⟨(show 6 < i64Bound by decide), ?_⟩, rfl, ?_⟩
  · intro other same
    cases sample.held.symm.trans same
    rw [sample.version]
    exact ⟨by decide, fun enabled => by cases sample.quiet.symm.trans enabled⟩
  · refine exhausted_start_parts sample.mirrors _ _
      ⟨task, sample.held, sample.version, sample.state, ?_, ?_⟩
    · rw [sample.version]
      decide
    · rw [sample.attempt]
      decide

theorem stores_implement_one_lifecycle_sample :
    ∃ final, runActions (@storesStep sampleIdCodec) sampleStores sampleLifecycle = some final ∧
      (final.1.getEncodedTask { value := 1 }).isSome = true ∧
      final.2.getEncodedTask { value := 1 } = final.1.getEncodedTask { value := 1 } ∧
      @Alike sampleIdCodec final.1 final.2 (.prune 9 4) := by
  let codec := sampleIdCodec
  obtain ⟨records, next⟩ := stores_implement_one_lifecycle 4 64 4 sampleLifecycle _
    sample_lifecycle_regular rfl
  refine ⟨_, rfl, rfl, records _, (next (.prune 9 4) ⟨by decide, rfl⟩).mpr ?_⟩
  show ¬ i64Bound ≤ 4
  decide

def sampleReport (attempt version : Nat) : ProgressCommand :=
  { id := { value := 1 }
    expectedAttempt := attempt
    progressVersion := version
    stage := none
    metrics := []
    updatedAtMs := 7 }

/-- Both stores start empty and see the same calls, with or without an outbox.  After
regular calls they report the same progress for every task, and the next report is
accepted by both or by neither exactly when it is not exceptional. -/
theorem stores_accept_same_progress [IdCodec]
    (historyCapacity maxPayloadBytes maxUnfinishedRecords : Nat) (sqlite : SqliteTaskStore)
    (empty : sqlite.database = Database.empty) (held : sqlite.lockHeld = true)
    (calls : List StoreCall) (final : MemoryTaskStore × SqliteTaskStore)
    (regular : Guarded storesStep Regular
      (MemoryTaskStore.withLimits historyCapacity maxPayloadBytes maxUnfinishedRecords, sqlite)
      calls)
    (reached : runActions storesStep
      (MemoryTaskStore.withLimits historyCapacity maxPayloadBytes maxUnfinishedRecords, sqlite)
      calls = some final) :
    (∀ id, (final.2.getEncodedTask id).map (fun task => task.summary.progress) =
      (final.1.getEncodedTask id).map fun task => task.summary.progress) ∧
    ∀ command, command.progressVersion < i64Bound →
      (((∃ summary, (final.1.updateProgress command).2 = .ok summary) ↔
          ∃ summary, (final.2.updateProgress command).2 = .ok summary) ↔
        ¬ Exceptional final.1 (.progress command)) := by
  have mirrors := run_mirrors (mirrors_empty _ _ _ empty held) regular reached
  refine ⟨fun id => by rw [mirrors.records], fun command fits => ⟨?_, ?_⟩⟩
  · intro together exceptional
    exact zero_report_parts mirrors command exceptional together
  · intro ordinary
    exact AnswersAgree.together (progress_agreed mirrors command fits ordinary).1

/-- The first report of an attempt under version 0: the memory store takes it, the SQLite
store answers with a conflict, and then they show different progress. -/
theorem zero_report_diverges :
    ∃ middle final,
      runActions (@storesStep sampleIdCodec) sampleStores (sampleLifecycle.take 2) = some middle ∧
      (middle.2.updateProgress (sampleReport 1 0)).2 = .error .conflict ∧
      (middle.1.updateProgress (sampleReport 1 0)).2.isOk = true ∧
      @storesStep sampleIdCodec middle (.progress (sampleReport 1 0)) = some final ∧
      (final.2.getEncodedTask { value := 1 }).map (fun task => task.summary.progress) ≠
        (final.1.getEncodedTask { value := 1 }).map fun task => task.summary.progress := by
  let codec := sampleIdCodec
  exact ⟨_, _, rfl, by decide +kernel, by decide +kernel, rfl, by decide +kernel⟩

/-- Reports of the running attempt are accepted by both stores from version 1 on. -/
theorem stores_accept_same_progress_sample :
    ∃ final, runActions (@storesStep sampleIdCodec) sampleStores (sampleLifecycle.take 2) =
        some final ∧
      ((∃ summary, (final.1.updateProgress (sampleReport 1 1)).2 = .ok summary) ↔
        ∃ summary, (final.2.updateProgress (sampleReport 1 1)).2 = .ok summary) := by
  let codec := sampleIdCodec
  have regular : Guarded storesStep Regular sampleStores (sampleLifecycle.take 2) :=
    (@guarded_append _ _ _ _ _ _ (sampleLifecycle.take 2) (sampleLifecycle.drop 2)
      sample_lifecycle_regular rfl).1
  obtain ⟨_, next⟩ := stores_accept_same_progress 4 64 4 (SqliteTaskStore.opened Database.empty)
    rfl rfl (sampleLifecycle.take 2) _ regular rfl
  refine ⟨_, rfl, (next (sampleReport 1 1) (by decide)).mpr ?_⟩
  rintro ⟨zero, _⟩
  cases zero

open List

variable {database : Database} {store : SqliteTaskStore} {key : String} {id : TaskId}
  {row : TaskRow}

def Database.Carries (database : Database) (key : String) (id : TaskId) (row : TaskRow) : Prop :=
  database.tasks.lookup id = some row ∧ row.idempotencyKey = some key

def Database.OneRowPerKey (database : Database) : Prop :=
  ∀ key first left second right, database.Carries key first left →
    database.Carries key second right → first = second

theorem idempotent_row_found (single : database.OneRowPerKey)
    (carries : database.Carries key id row) {request : StoredTaskRequest}
    (retried : request.idempotencyKey = some key) :
    database.idempotentRow request = some (id, row) := by
  unfold Database.idempotentRow
  rw [retried, Option.bind_some]
  cases searched : database.tasks.entries.find?
      (fun entry => decide (entry.2.idempotencyKey = some key)) with
  | none =>
    have absent := List.find?_eq_none.mp searched _ (AList.mem_lookup_iff.mp carries.1)
    exact absurd (decide_eq_true carries.2) absent
  | some entry =>
    have found : database.tasks.lookup entry.1 = some entry.2 :=
      AList.mem_lookup_iff.mpr (mem_of_find?_eq_some searched)
    obtain rfl := single key _ _ _ _ ⟨found, by simpa using List.find?_some searched⟩ carries
    cases found.symm.trans carries.1
    rfl

variable [IdCodec]

/-- The row behind a key is an earlier one, or it is accepted while no row carries the key. -/
theorem carried_before (single : store.database.OneRowPerKey) {call : SqliteCall}
    (carries : (call.run store).database.Carries key id row) :
    (∃ earlier, store.database.Carries key id earlier) ∨
      (∃ clock request, call = .lifecycle (.accept clock id request)) ∧
        ∀ other earlier, ¬ store.database.Carries key other earlier := by
  have change := SqliteTaskStore.call_slots store call id
  obtain ⟨found, carried⟩ := carries
  generalize before : store.database.slot id = old at change
  generalize after : (call.run store).database.slot id = new at change
  have shown : new.row = some row := after ▸ found
  have held : store.database.tasks.lookup id = old.row := before ▸ rfl
  cases change with
  | kept => exact .inl ⟨row, held.trans shown, carried⟩
  | accepted clock request checkpoint given fits =>
    cases shown
    subst given
    refine .inr ⟨⟨clock, request, rfl⟩, fun other earlier known => ?_⟩
    have idle : (store.acceptEncoded clock id request).1 = store := by
      by_cases locked : store.lockHeld = true
      · rw [SqliteTaskStore.accept_known locked (idempotent_row_found single known carried)]
      · unfold SqliteTaskStore.acceptEncoded SqliteTaskStore.runWrite
        rw [if_neg locked]
    have same : ((SqliteCall.lifecycle (.accept clock id request)).run store).database =
        store.database := congrArg SqliteTaskStore.database idle
    rw [same, held] at found
    cases found
  | started _ _ earlier | transitioned _ _ earlier | progressed _ _ earlier =>
    cases shown
    exact .inl ⟨earlier, held, carried⟩
  | pruned => cases shown

theorem one_row_per_key_kept (single : store.database.OneRowPerKey) (call : SqliteCall) :
    (call.run store).database.OneRowPerKey := by
  intro key first left second right carries again
  rcases carried_before single carries with ⟨_, old⟩ | ⟨⟨_, _, rfl⟩, fresh⟩ <;>
    rcases carried_before single again with ⟨_, known⟩ | ⟨⟨_, _, same⟩, unknown⟩
  · exact single key _ _ _ _ old known
  · exact (unknown _ _ old).elim
  · exact (fresh _ _ known).elim
  · cases same
    rfl

/-- After any calls, an acceptance under the key of a retained task changes nothing.  It is
answered with that task if it asks for the same, and refused as a conflict if it does not. -/
theorem retried_acceptance_replayed (calls : List SqliteCall) (final : SqliteTaskStore)
    (reached : runActions sqliteStep (SqliteTaskStore.opened Database.empty) calls = some final)
    (id : TaskId) (row : TaskRow) (key : String) (carries : final.database.Carries key id row)
    (held : final.lockHeld = true) (clock : Clock) (other : TaskId) (request : StoredTaskRequest)
    (retried : request.idempotencyKey = some key) :
    final.acceptEncoded clock other request =
      (final, replayAnswer (row.storedTask id) request) := by
  have single : final.database.OneRowPerKey := by
    refine @run_preserves _ _ _ (fun store => store.database.OneRowPerKey) ?_ _ _ _ ?_ reached
    · intro before call next single taken
      cases taken
      exact one_row_per_key_kept single call
    · intro key first left second right carries
      cases carries.1
  exact SqliteTaskStore.accept_known held (idempotent_row_found single carries retried)

omit [IdCodec] in
theorem retried_acceptance_replayed_sample :
    ∃ final row, runActions (@sqliteStep sampleIdCodec) (SqliteTaskStore.opened Database.empty)
        (sampleLifecycle.map .lifecycle) = some final ∧
      final.database.tasks.lookup ⟨1⟩ = some row ∧ row.stateKind = .succeeded ∧
      @SqliteTaskStore.acceptEncoded sampleIdCodec final sampleClock ⟨2⟩
          (sampleStored (some "a") [1]) =
        (final, replayAnswer (row.storedTask ⟨1⟩) (sampleStored (some "a") [1])) := by
  let codec := sampleIdCodec
  exact ⟨_, _, rfl, rfl, rfl, retried_acceptance_replayed (sampleLifecycle.map .lifecycle) _ rfl
    ⟨1⟩ _ "a" ⟨rfl, rfl⟩ rfl sampleClock ⟨2⟩ _ rfl⟩

end TaskService.Store
