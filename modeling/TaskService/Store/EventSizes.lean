import TaskService.Store.StoreAgreement

/-!
# Sizes of the events of one task

Every revision of a task writes an event, and an event that is too large rejects its
revision.  Acceptance checks the first event only.  Identity and correlation key are in
every later one too, next to a version and a state that may take more room.  The later
revisions are safe from the size check exactly when the longest event fits as well.
-/

namespace TaskService.Store

open Library Model List Database

section Sizes

theorem failed_size (category message : String) :
    (TaskState.failed category message).toJson.utf8ByteSize =
      35 + (jsonString category).utf8ByteSize + (jsonString message).utf8ByteSize := by
  have keys : (jsonString "Failed").utf8ByteSize = 8 ∧
      (jsonString "category").utf8ByteSize = 10 ∧ (jsonString "message").utf8ByteSize = 9 := by
    decide
  simp only [TaskState.toJson, json_object_size, map_cons, map_nil,
    sum_cons, sum_nil, memberSize, keys]
  omega

theorem tagged_text_size (tag field text : String) :
    (jsonObject [(tag, jsonObject [(field, jsonString text)])]).utf8ByteSize =
      6 + (jsonString tag).utf8ByteSize + (jsonString field).utf8ByteSize +
        (jsonString text).utf8ByteSize := by
  simp only [json_object_size, map_nil, sum_nil, memberSize]
  omega

variable [IdCodec]

def eventSize (id : TaskId) (version : Nat) (state : TaskState) (key : Option String) : Nat :=
  (TaskEvent.toJson
    { schemaVersion := 1
      taskId := id
      stateVersion := version
      state := state
      correlationKey := key }).utf8ByteSize

theorem event_size_eq (id : TaskId) (version : Nat) (state : TaskState) (key : Option String) :
    eventSize id version state key =
      76 + (IdCodec.idJson id).utf8ByteSize + (jsonNat version).utf8ByteSize +
        state.toJson.utf8ByteSize + (jsonOption jsonString key).utf8ByteSize := by
  have keys : (jsonString "schema_version").utf8ByteSize = 16 ∧
      (jsonString "task_id").utf8ByteSize = 9 ∧
      (jsonString "state_version").utf8ByteSize = 15 ∧
      (jsonString "state").utf8ByteSize = 7 ∧
      (jsonString "correlation_key").utf8ByteSize = 17 ∧ (jsonNat 1).utf8ByteSize = 1 := by
    decide
  simp only [eventSize, TaskEvent.toJson, json_object_size, map_cons, map_nil,
    sum_cons, sum_nil, memberSize, keys]
  omega

def longestState : TaskState :=
  .failed (repeated maxTaskDiagnosticCategoryBytes '\x01')
    (repeated maxTaskDiagnosticMessageBytes '\x01')

omit [IdCodec] in
theorem longest_state_size : longestState.toJson.utf8ByteSize = 25383 := by
  have control : String.utf8Len (jsonEscape '\x01') = 6 := by decide
  rw [longestState, failed_size, json_repeated_size, json_repeated_size, control]
  rfl

omit [IdCodec] in
theorem longest_state_valid : longestState.validateDiagnostics = .ok () := by
  have single : ('\x01').utf8Size = 1 := by decide
  simp only [longestState, TaskState.validateDiagnostics, repeated_size, single]
  decide

variable {state : TaskState}

omit [IdCodec] in
theorem state_size_le (valid : state.validateDiagnostics = .ok ()) :
    state.toJson.utf8ByteSize ≤ longestState.toJson.utf8ByteSize := by
  rw [longest_state_size]
  cases state with
  | queued | running | succeeded | cancelled => decide
  | blocked reason =>
    have short : reason.utf8ByteSize ≤ 4096 := by
      simp only [TaskState.validateDiagnostics] at valid
      split_ifs at valid with long
      exact Nat.not_lt.mp long
    have text := json_string_size_le reason
    have keys : (jsonString "Blocked").utf8ByteSize = 9 ∧
        (jsonString "reason").utf8ByteSize = 8 := by decide
    rw [TaskState.toJson, tagged_text_size, keys.1, keys.2]
    omega
  | failed category message =>
    have short : category.utf8ByteSize ≤ 128 ∧ message.utf8ByteSize ≤ 4096 := by
      simp only [TaskState.validateDiagnostics] at valid
      split_ifs at valid with long
      exact ⟨Nat.not_lt.mp fun above => long (.inl above),
        Nat.not_lt.mp fun above => long (.inr above)⟩
    have categoryText := json_string_size_le category
    have messageText := json_string_size_le message
    rw [failed_size]
    omega
  | panicked message =>
    have short : message.utf8ByteSize ≤ 4096 := by
      simp only [TaskState.validateDiagnostics] at valid
      split_ifs at valid with long
      exact Nat.not_lt.mp long
    have text := json_string_size_le message
    have keys : (jsonString "Panicked").utf8ByteSize = 10 ∧
        (jsonString "message").utf8ByteSize = 9 := by decide
    rw [TaskState.toJson, tagged_text_size, keys.1, keys.2]
    omega

/-- The longest event a task can have: the largest version and the longest state. -/
def longestEventSize (id : TaskId) (key : Option String) : Nat :=
  eventSize id (i64Bound - 1) longestState key

theorem event_size_le (id : TaskId) {version : Nat} (key : Option String)
    (fits : version < i64Bound) (valid : state.validateDiagnostics = .ok ()) :
    eventSize id version state key ≤ longestEventSize id key := by
  have digits : (jsonNat version).utf8ByteSize ≤ 19 :=
    json_nat_size_le (by decide) (lt_trans fits (by decide))
  have largest : (jsonNat (i64Bound - 1)).utf8ByteSize = 19 := by decide
  have states := state_size_le valid
  rw [longestEventSize, event_size_eq, event_size_eq, largest]
  omega

end Sizes

section TooLarge

variable [IdCodec] {database : Database}

def eventTooLarge : StoreError := .invalidRequest "task event snapshot exceeds 128 KiB"

omit [IdCodec] in
theorem failure_ne_too_large (message : String) : StoreError.failure message ≠ eventTooLarge := by
  intro same
  cases same

omit [IdCodec] in
theorem addressed_row_ne_too_large (id : TaskId) :
    database.addressedRow id ≠ .error eventTooLarge := by
  unfold addressedRow
  split <;> simp [eventTooLarge]

variable {clock : Clock} {outboxEnabled : Bool}

theorem start_too_large_iff {command : StartCommand} :
    database.startEncoded clock command outboxEnabled = .error eventTooLarge ↔
      ∃ row, database.tasks.lookup command.id = some row ∧ row.stateKind = .queued ∧
        row.stateVersion = command.expectedStateVersion ∧
        row.lifecycle.attempt + 1 < u32Bound ∧ row.lifecycle.stateVersion + 1 < i64Bound ∧
        command.startedAtMs < i64Bound ∧ outboxEnabled = true ∧
        maxEventSnapshotBytes <
          eventSize command.id (row.lifecycle.stateVersion + 1) .running
            row.requestInfo.correlationKey := by
  have other := failure_ne_too_large
  have race : StoreError.conflict ≠ eventTooLarge := by
    intro same
    cases same
  simp only [startEncoded, bind_eq_error, require_eq_error, require_eq_ok,
    addressed_row_eq_ok, increment_version_eq_ok,
    increment_attempt_eq_ok, sqlite_i64_eq_ok, signed_column_eq_ok,
    addressed_row_ne_too_large, increment_version_ne other,
    increment_attempt_ne other, sqlite_i64_ne other,
    signed_column_ne other, record_event_error_iff other, race, and_false,
    exists_false, or_false, false_or, reduceCtorEq]
  constructor
  · rintro ⟨row, found, _, ⟨queued, version⟩, _, ⟨_, rfl⟩, _, ⟨counted, _⟩, _, ⟨room, _⟩, _,
      ⟨moment, _⟩, enabled, large, _⟩
    exact ⟨row, found, queued, version, counted, room, moment, enabled, large⟩
  · rintro ⟨row, found, queued, version, counted, room, moment, enabled, large⟩
    exact ⟨row, found, (), ⟨queued, version⟩, _, ⟨lt_u64_of_lt_i64 room, rfl⟩, _, ⟨counted, rfl⟩,
      _, ⟨room, rfl⟩, _, ⟨moment, rfl⟩, enabled, large, rfl⟩

omit [IdCodec] in
theorem validate_encoded_output_ne_too_large (state : TaskState) (output : Option TaskOutput) :
    validateEncodedOutput state output ≠ .error eventTooLarge := by
  unfold validateEncodedOutput
  split
  · simp
  · split_ifs <;> simp [eventTooLarge]

omit [IdCodec] in
theorem validate_diagnostics_ne_too_large (state : TaskState) :
    state.validateDiagnostics.mapError StoreError.invalidRequest ≠ .error eventTooLarge := by
  unfold TaskState.validateDiagnostics
  split
  all_goals
    try split_ifs
    all_goals simp [map_error_eq_error, eventTooLarge]

theorem transition_too_large_iff {command : TransitionCommand} :
    database.transitionEncoded clock command outboxEnabled = .error eventTooLarge ↔
      command.state.validateDiagnostics = .ok () ∧
        validateEncodedOutput command.state command.output = .ok () ∧
        (command.retryNotBeforeMs = none ∨ command.state = .queued) ∧
        (∀ deadline, command.retryNotBeforeMs = some deadline → deadline < i64Bound) ∧
        ∃ row, database.tasks.lookup command.id = some row ∧ rowMatches row command ∧
          ¬ (command.output.isSome = true ∧ row.lifecycle.state.isTerminal = true) ∧
          row.lifecycle.stateVersion + 1 < i64Bound ∧ outboxEnabled = true ∧
          maxEventSnapshotBytes <
            eventSize command.id (row.lifecycle.stateVersion + 1) command.state
              row.requestInfo.correlationKey := by
  have other := failure_ne_too_large
  have race : StoreError.conflict ≠ eventTooLarge := by
    intro same
    cases same
  have retry : StoreError.invalidRequest "retry deadline is only valid for queued tasks" ≠
      eventTooLarge := by decide
  have late : StoreError.invalidRequest
      "task output can only be written before the task becomes terminal" ≠ eventTooLarge := by
    decide
  simp only [transitionEncoded, bind_eq_error, require_eq_error, require_eq_ok,
    map_error_eq_ok, validate_diagnostics_ne_too_large, validate_encoded_output_ne_too_large,
    addressed_row_eq_ok, increment_version_eq_ok, sqlite_i64_eq_ok,
    addressed_row_ne_too_large, increment_version_ne other, sqlite_i64_ne other,
    deadline_column_ne other, record_event_error_iff other, race, retry, late,
    and_false, exists_false, or_false, false_or, reduceCtorEq]
  constructor
  · rintro ⟨_, diagnostics, _, output, _, deadline, row, found, _, column, _, matched, _, open_,
      _, ⟨_, rfl⟩, _, ⟨room, _⟩, enabled, large, _⟩
    exact ⟨diagnostics, output, deadline, (deadline_column_eq_ok _).mp column, row, found,
      matched, open_, room, enabled, large⟩
  · rintro ⟨diagnostics, output, deadline, column, row, found, matched, open_, room, enabled, large⟩
    exact ⟨(), diagnostics, (), output, (), deadline, row, found, (),
      (deadline_column_eq_ok _).mpr column, (), matched, (), open_, _, ⟨lt_u64_of_lt_i64 room, rfl⟩,
      _, ⟨room, rfl⟩, enabled, large, rfl⟩

end TooLarge

variable [IdCodec]

/-- Once the request has been accepted with the outbox enabled, no start and no transition
of the task is ever refused for the size of its event. -/
def AdmitsLifecycle (id : TaskId) (request : StoredTaskRequest) : Prop :=
  ∀ (store : SqliteTaskStore) (clock : Clock) (summary : TaskSummary),
    store.outboxEnabled = true →
    (store.acceptEncoded clock id request).2 = .ok { summary := summary, created := true } →
    ∀ calls final,
      runActions sqliteStep (store.acceptEncoded clock id request).1 calls = some final →
      ∀ task, final.getEncodedTask id = some task → task.request = request →
        (∀ clock command, command.id = id →
          (final.startEncoded clock command).2 ≠ .error eventTooLarge) ∧
        ∀ clock command, command.id = id →
          (final.transitionEncoded clock command).2 ≠ .error eventTooLarge

section Sufficient

variable {store : SqliteTaskStore} {id : TaskId} {request : StoredTaskRequest}

omit [IdCodec] in
theorem run_write_too_large_iff {α : Type}
    (operation : Database → Except StoreError (Database × α)) :
    (store.runWrite operation).2 = .error eventTooLarge ↔
      store.lockHeld = true ∧ operation store.database = .error eventTooLarge := by
  by_cases held : store.lockHeld = true
  · simp only [SqliteTaskStore.run_write_error_iff held, held, true_and]
  · simp [SqliteTaskStore.runWrite, held, eventTooLarge]

theorem accepted_event_fits {clock : Clock} {summary : TaskSummary}
    (enabled : store.outboxEnabled = true) (accepted : (store.acceptEncoded clock id request).2 =
      .ok { summary := summary, created := true }) :
    eventSize id 0 .queued request.correlationKey ≤ maxEventSnapshotBytes := by
  unfold SqliteTaskStore.acceptEncoded at accepted
  rcases store.run_write_cases fun database =>
      database.acceptEncoded clock id request store.outboxEnabled with
    ⟨error, failed, _⟩ | ⟨database, outcome, done, committed⟩
  · rw [failed] at accepted
    cases accepted
  rw [committed] at accepted
  cases accepted
  unfold acceptEncoded at done
  split at done
  · split at done
    · cases done
    · cases done
  · simp only [bind_eq_ok] at done
    obtain ⟨_, _, _, _, written, recorded, _⟩ := done
    exact ((record_event_accepts_iff _ _ _ _).mp ⟨written, recorded⟩ enabled).1

theorem longest_fits_admits
    (fits : longestEventSize id request.correlationKey ≤ maxEventSnapshotBytes)
    {task : StoredTask} (held : store.getEncodedTask id = some task)
    (own : task.request = request) :
    (∀ clock command, command.id = id →
      (store.startEncoded clock command).2 ≠ .error eventTooLarge) ∧
    ∀ clock command, command.id = id →
      (store.transitionEncoded clock command).2 ≠ .error eventTooLarge := by
  obtain ⟨row, found, rfl⟩ := get_encoded_task_eq_some.mp held
  have key : row.requestInfo.correlationKey = request.correlationKey :=
    congrArg StoredTaskRequest.correlationKey own
  refine ⟨?_, ?_⟩
  · rintro clock command rfl refused
    obtain ⟨_, refused⟩ := (run_write_too_large_iff _).mp refused
    obtain ⟨other, same, _, _, _, room, _, _, large⟩ := start_too_large_iff.mp refused
    cases found.symm.trans same
    have bound := event_size_le command.id row.requestInfo.correlationKey room
      (show TaskState.running.validateDiagnostics = .ok () from rfl)
    rw [key] at bound large
    omega
  · rintro clock command rfl refused
    obtain ⟨_, refused⟩ := (run_write_too_large_iff _).mp refused
    obtain ⟨diagnostics, _, _, _, other, same, _, _, room, _, large⟩ :=
      transition_too_large_iff.mp refused
    cases found.symm.trans same
    have bound := event_size_le command.id row.requestInfo.correlationKey room diagnostics
    rw [key] at bound large
    omega

end Sufficient

section Necessary

structure Underway (id : TaskId) (request : StoredTaskRequest) (accepted : SqliteTaskStore)
    (state : TaskState) (version : Nat) (store : SqliteTaskStore) (calls : List SqliteCall)
    (task : StoredTask) : Prop where
  reached : runActions sqliteStep accepted calls = some store
  sound : store.database.Sound
  locked : store.lockHeld = true
  enabled : store.outboxEnabled = true
  held : store.getEncodedTask id = some task
  request : task.request = request
  state : task.summary.state = state
  version : task.summary.stateVersion = version

variable {id : TaskId} {request : StoredTaskRequest} {accepted store : SqliteTaskStore}
  {state : TaskState} {version : Nat} {calls : List SqliteCall} {task : StoredTask}

theorem Underway.next (underway : Underway id request accepted state version store calls task)
    (call : StoreCall) {after : StoredTask}
    (held : (call.run store).1.getEncodedTask id = some after) (own : after.request = request) :
    Underway id request accepted after.summary.state after.summary.stateVersion
      (call.run store).1 (calls ++ [.lifecycle call]) after where
  reached := run_snoc_eq_some.mpr ⟨store, underway.reached, rfl⟩
  sound := @call_valid SqliteTaskStore _ _ store underway.sound call
  locked := (call_outcome underway.sound call).settings.2.trans underway.locked
  enabled := (call_outcome underway.sound call).settings.1.trans underway.enabled
  held := held
  request := own
  state := rfl
  version := rfl

def startOf (id : TaskId) (task : StoredTask) : StartCommand :=
  { id := id, expectedStateVersion := task.summary.stateVersion, startedAtMs := 0 }

def moveOf (id : TaskId) (task : StoredTask) (target : TaskState) : TransitionCommand :=
  { id := id
    expectedStateVersion := task.summary.stateVersion
    expectedAttempt := task.summary.attempt
    retryNotBeforeMs := none
    state := target
    cancelRequested := false
    cancelError := none
    finishedAtMs := none
    output := none }

/-- The answer to a call that would put the task into the target state: its event is too large,
or the task is there. -/
def Turns (id : TaskId) (request : StoredTaskRequest) (accepted : SqliteTaskStore)
    (target : TaskState) (version : Nat) (answer : Except StoreError TaskSummary) : Prop :=
  (answer = .error eventTooLarge ∧
      maxEventSnapshotBytes < eventSize id version target request.correlationKey) ∨
    (eventSize id version target request.correlationKey ≤ maxEventSnapshotBytes ∧
      ∃ store calls task, Underway id request accepted target version store calls task)

theorem Underway.start (underway : Underway id request accepted .queued version store calls task)
    (clock : Clock) (moment : clock.eventNow < i64Bound) (room : version + 1 < i64Bound)
    (few : task.summary.attempt + 1 < u32Bound) :
    Turns id request accepted .running (version + 1)
      (store.startEncoded clock (startOf id task)).2 := by
  obtain ⟨row, found, rfl⟩ := get_encoded_task_eq_some.mp underway.held
  obtain rfl := underway.version
  obtain rfl := underway.request
  have sound := underway.sound.rows _ _ found
  have queued : row.stateKind = .queued := by
    rw [sound.kind]
    exact (TaskState.kind_queued_iff _).mpr underway.state
  let command := startOf id (row.storedTask id)
  by_cases fits : eventSize id (row.lifecycle.stateVersion + 1) .running
      row.requestInfo.correlationKey ≤ maxEventSnapshotBytes
  · refine .inr ⟨fits, ?_⟩
    have event : EventFits clock ((startedRow row command).summary id) := ⟨fits, moment⟩
    have recorded := @records_event _ _ underway.sound _ _ clock
      ((startedRow row command).summary id) store.outboxEnabled
      (startedRow row command) found rfl rfl room (fun _ => event)
    obtain ⟨summary, started⟩ := (SqliteTaskStore.run_write_succeeds_iff underway.locked
      fun database => database.startEncoded clock command store.outboxEnabled).mpr
        (start_succeeds_iff.mpr
          ⟨row, found, queued, sound.version, few, room, (show 0 < i64Bound by decide), recorded⟩)
    have effect := (store.start_spec clock command underway.sound).2
    rw [show (store.startEncoded clock command).2 = .ok summary from started] at effect
    obtain ⟨other, same, _, records⟩ := effect.rewritten
    cases underway.held.symm.trans same
    exact ⟨_, _, _, underway.next (.start clock command) ((records id).trans (if_pos rfl)) rfl⟩
  · refine .inl ⟨(run_write_too_large_iff _).mpr ⟨underway.locked, start_too_large_iff.mpr ?_⟩,
      Nat.not_le.mp fits⟩
    exact ⟨row, found, queued, sound.version, few, room, (show 0 < i64Bound by decide),
      underway.enabled, Nat.not_le.mp fits⟩

theorem Underway.move (underway : Underway id request accepted .running version store calls task)
    (clock : Clock) (moment : clock.eventNow < i64Bound) (room : version + 1 < i64Bound)
    {target : TaskState} (valid : target.validateDiagnostics = .ok ()) :
    Turns id request accepted target (version + 1)
      (store.transitionEncoded clock (moveOf id task target)).2 := by
  obtain ⟨row, found, rfl⟩ := get_encoded_task_eq_some.mp underway.held
  obtain rfl := underway.version
  obtain rfl := underway.request
  have sound := underway.sound.rows _ _ found
  let command := moveOf id (row.storedTask id) target
  have matched : rowMatches row command := by
    refine ⟨sound.version, rfl, .inl ?_⟩
    rw [show row.lifecycle.state = .running from underway.state]
    exact TaskState.running_allows target
  have deadlines : ∀ deadline, command.retryNotBeforeMs = some deadline → deadline < i64Bound :=
    fun _ absent => by cases absent
  have quiet : ¬ (command.output.isSome = true ∧ row.lifecycle.state.isTerminal = true) :=
    fun both => by cases both.1
  by_cases fits : eventSize id (row.lifecycle.stateVersion + 1) target
      row.requestInfo.correlationKey ≤ maxEventSnapshotBytes
  · refine .inr ⟨fits, ?_⟩
    have event : EventFits clock ((transitionedRow row command).summary id) := ⟨fits, moment⟩
    have recorded := @records_event _ _ underway.sound _ _ clock
      ((transitionedRow row command).summary id) store.outboxEnabled
      (transitionedRow row command) found rfl rfl room (fun _ => event)
    obtain ⟨summary, moved⟩ := (SqliteTaskStore.run_write_succeeds_iff underway.locked
      fun database => database.transitionEncoded clock command store.outboxEnabled).mpr
        ((transition_accepts_iff found).mpr
          ⟨valid, rfl, .inl rfl, deadlines, matched, quiet, room, recorded⟩)
    obtain ⟨other, same, _, records⟩ := SqliteTaskStore.transition_result moved
    cases underway.held.symm.trans same
    exact ⟨_, _, _, underway.next (.transition clock command) ((records id).trans (if_pos rfl)) rfl⟩
  · refine .inl ⟨(run_write_too_large_iff _).mpr ⟨underway.locked, transition_too_large_iff.mpr ?_⟩,
      Nat.not_le.mp fits⟩
    exact ⟨valid, rfl, .inl rfl, deadlines, row, found, matched, quiet, room, underway.enabled,
      Nat.not_le.mp fits⟩

def publishingStore : SqliteTaskStore :=
  SqliteTaskStore.sample.enableOutbox.1

def zeroClock : Clock := { now := 0, eventNow := 0 }

theorem underway_accepted
    (fits : eventSize id 0 .queued request.correlationKey ≤ maxEventSnapshotBytes) :
    (publishingStore.acceptEncoded zeroClock id request).2 =
        .ok { summary := acceptedSummary id request 0, created := true } ∧
      Underway id request (publishingStore.acceptEncoded zeroClock id request).1 .queued 0
        (publishingStore.acceptEncoded zeroClock id request).1 []
        (acceptedTask id request 0) := by
  have empty : publishingStore.database.Sound :=
    ⟨(fun id row found => by cases found), (fun event member => by cases member)⟩
  have event : EventFits zeroClock (acceptedSummary id request 0) := ⟨fits, by decide⟩
  have unknown : publishingStore.database.idempotentRow request = none := by
    unfold idempotentRow
    cases request.idempotencyKey <;> rfl
  obtain ⟨written, revision, accepted⟩ := @SqliteTaskStore.accept_unknown _ publishingStore
    zeroClock id request rfl unknown rfl (by decide)
    (records_acceptance empty rfl fun _ => event)
  rw [accepted]
  refine ⟨rfl, rfl, ?_, rfl, rfl, revision.own, rfl, rfl, rfl⟩
  exact revision.sound empty (accepted_row_sound _ _) (fun _ found => by cases found)

theorem admits_longest_fits (admits : AdmitsLifecycle id request)
    (fits : eventSize id 0 .queued request.correlationKey ≤ maxEventSnapshotBytes) :
    longestEventSize id request.correlationKey ≤ maxEventSnapshotBytes := by
  obtain ⟨done, queued⟩ := underway_accepted fits
  have safe := admits publishingStore zeroClock _ rfl done
  have moment : zeroClock.eventNow < i64Bound := by decide
  -- Running to running, the version can be raised to any number.
  have versions : ∀ version, version + 1 < i64Bound → ∃ store calls task, Underway id request
      (publishingStore.acceptEncoded zeroClock id request).1 .running (version + 1)
        store calls task := by
    intro version
    induction version with
    | zero =>
      intro room
      rcases queued.start zeroClock moment room (show 0 + 1 < u32Bound by decide) with
        ⟨refused, _⟩ | ⟨_, started⟩
      · exact absurd refused ((safe _ _ queued.reached _ queued.held rfl).1 _ _ rfl)
      · exact started
    | succ version reach =>
      intro room
      obtain ⟨store, calls, task, running⟩ := reach (by omega)
      rcases running.move zeroClock moment room
          (show TaskState.running.validateDiagnostics = .ok () from rfl) with
        ⟨refused, _⟩ | ⟨_, moved⟩
      · exact absurd refused ((safe _ _ running.reached _ running.held running.request).2 _ _ rfl)
      · exact moved
  obtain ⟨store, calls, task, running⟩ := versions (i64Bound - 3) (by decide)
  rcases running.move zeroClock moment (by decide) longest_state_valid with
    ⟨refused, _⟩ | ⟨small, _⟩
  · exact absurd refused ((safe _ _ running.reached _ running.held running.request).2 _ _ rfl)
  · exact small

end Necessary

/-- Acceptance admits the whole lifecycle of a task exactly when the first event already
does not fit or the longest event fits. -/
theorem acceptance_admits_lifecycle_iff (id : TaskId) (request : StoredTaskRequest) :
    AdmitsLifecycle id request ↔
      (eventSize id 0 .queued request.correlationKey ≤ Database.maxEventSnapshotBytes →
        longestEventSize id request.correlationKey ≤ Database.maxEventSnapshotBytes) := by
  constructor
  · intro admits fits
    exact admits_longest_fits admits fits
  · intro condition store clock summary enabled accepted calls final reached task held own
    exact longest_fits_admits (condition (accepted_event_fits enabled accepted)) held own

def fullRequest : StoredTaskRequest :=
  { sampleStored none [] with correlationKey := some (repeated 130982 'a') }

omit [IdCodec] in
theorem full_request_size (version : Nat) (state : TaskState) :
    @eventSize sampleIdCodec { value := 1 } version state fullRequest.correlationKey =
      131063 + (jsonNat version).utf8ByteSize + state.toJson.utf8ByteSize := by
  have letter : String.utf8Len (jsonEscape 'a') = 1 := by decide
  have identity : (@IdCodec.idJson sampleIdCodec { value := 1 }).utf8ByteSize = 3 := by decide
  rw [@event_size_eq sampleIdCodec, identity]
  simp only [fullRequest, jsonOption, json_repeated_size, letter]
  omega

omit [IdCodec] in
/-- The task is accepted, and its start is refused for the size of the event. -/
theorem accepted_task_cannot_start :
    (@SqliteTaskStore.acceptEncoded sampleIdCodec publishingStore zeroClock { value := 1 }
        fullRequest).2 =
      .ok { summary := acceptedSummary { value := 1 } fullRequest 0, created := true } ∧
    (@SqliteTaskStore.startEncoded sampleIdCodec
        (@SqliteTaskStore.acceptEncoded sampleIdCodec publishingStore zeroClock { value := 1 }
          fullRequest).1
        zeroClock { id := { value := 1 }, expectedStateVersion := 0, startedAtMs := 0 }).2 =
      .error eventTooLarge := by
  let codec := sampleIdCodec
  have sizes : (jsonNat 0).utf8ByteSize = 1 ∧ (jsonNat 1).utf8ByteSize = 1 ∧
      TaskState.queued.toJson.utf8ByteSize = 8 ∧ TaskState.running.toJson.utf8ByteSize = 9 := by
    decide
  have limit : Database.maxEventSnapshotBytes = 131072 := rfl
  have first := full_request_size 0 .queued
  have second := full_request_size 1 .running
  obtain ⟨accepted, queued⟩ := @underway_accepted codec { value := 1 } fullRequest (by omega)
  refine ⟨accepted, ?_⟩
  rcases queued.start zeroClock (by decide) (by decide) (show 0 + 1 < u32Bound by decide) with
    ⟨refused, _⟩ | ⟨small, _⟩
  · exact refused
  · have fits : eventSize { value := 1 } 1 .running fullRequest.correlationKey ≤
        Database.maxEventSnapshotBytes := small
    omega

end TaskService.Store
