import TaskService.Store.SqliteTaskStore

/-!
# The SQLite store meets the store laws

The guards of the statements read columns while the results are decoded from
the lifecycle document, so the laws rest on the two agreeing in every row.  The
outbox is tied to the task table as well: an event row belongs to a retained
task and its version does not run ahead of the task's.
-/

namespace TaskService.Store

open Library Model List

/-- The indexed columns say what the lifecycle document says. -/
structure TaskRow.Sound (row : TaskRow) : Prop where
  kind : row.stateKind = row.lifecycle.state.kind
  version : row.stateVersion = row.lifecycle.stateVersion
  attempt : row.attempt = row.lifecycle.attempt
  retry : row.retryNotBeforeMs = row.lifecycle.retryNotBeforeMs

namespace Database

structure Sound (database : Database) : Prop where
  rows : ∀ id row, database.tasks.lookup id = some row → row.Sound
  events : ∀ event ∈ database.taskEventOutbox,
    ∃ row, database.tasks.lookup event.taskId = some row ∧ event.stateVersion ≤ row.stateVersion

theorem get_encoded_task_eq_some {database : Database} {id : TaskId} {task : StoredTask} :
    database.getEncodedTask id = some task ↔
      ∃ row, database.tasks.lookup id = some row ∧ row.storedTask id = task := by
  unfold getEncodedTask
  rw [Option.map_eq_some_iff]

theorem put_row_lookup (database : Database) (id other : TaskId) (row : TaskRow) :
    (database.putRow id row).tasks.lookup other =
      if other = id then some row else database.tasks.lookup other :=
  Table.lookup_insert_eq _ _ _ _

theorem addressed_row_eq_ok (database : Database) (id : TaskId) (row : TaskRow) :
    database.addressedRow id = .ok row ↔ database.tasks.lookup id = some row := by
  unfold addressedRow
  split
  · rename_i absent
    simp [absent]
  · rename_i found present
    simp [present]

theorem increment_eq_ok {bound value next : Nat} {error : StoreError} :
    (match checkedAdd bound value 1 with
      | none => .error error
      | some next => .ok next) = Except.ok next ↔ value + 1 < bound ∧ next = value + 1 := by
  split
  · rename_i overflow
    have full := checked_add_eq_none.mp overflow
    simp only [reduceCtorEq, false_iff, not_and]
    omega
  · rename_i found increment
    obtain ⟨room, rfl⟩ := checked_add_eq_some.mp increment
    simp only [Except.ok.injEq, room, true_and]
    exact eq_comm

theorem increment_version_eq_ok (version next : Nat) :
    incrementVersion version = .ok next ↔ version + 1 < u64Bound ∧ next = version + 1 :=
  increment_eq_ok

theorem increment_attempt_eq_ok (attempt next : Nat) :
    incrementAttempt attempt = .ok next ↔ attempt + 1 < u32Bound ∧ next = attempt + 1 :=
  increment_eq_ok

/-- What the event part of a lifecycle transaction does when it succeeds. -/
structure EventRecorded (before after : Database) (outboxEnabled : Bool) (now : Nat)
    (summary : TaskSummary) : Prop where
  tasks : after.tasks = before.tasks
  quarantine : after.taskEventOutboxQuarantine = before.taskEventOutboxQuarantine
  disabled : outboxEnabled = false → after.taskEventOutbox = before.taskEventOutbox
  enabled : outboxEnabled = true →
    after.taskEventOutbox = before.taskEventOutbox ++ [before.eventRow now summary] ∧
      ¬ outboxKeyTaken before.taskEventOutbox summary.id summary.stateVersion

variable {after before database : Database} {now : Nat} {outboxEnabled : Bool}
  {summary : TaskSummary} {id : TaskId} {row : TaskRow} {clock : Clock}
  {command : TransitionCommand}

theorem record_event_spec [IdCodec]
    (recorded : before.recordEvent outboxEnabled now summary = .ok after) :
    EventRecorded before after outboxEnabled now summary := by
  unfold recordEvent at recorded
  split at recorded
  · rename_i enabled
    unfold insertEventOutbox at recorded
    simp only [bind_eq_ok, require_eq_ok] at recorded
    obtain ⟨_, _, _, _, _, _, _, free, inserted⟩ := recorded
    cases inserted
    refine ⟨rfl, rfl, ?_, fun _ => ⟨rfl, free⟩⟩
    rw [enabled]
    exact fun contradiction => (Bool.false_ne_true contradiction.symm).elim
  · rename_i disabled
    cases recorded
    exact ⟨rfl, rfl, fun _ => rfl, fun enabled => (disabled enabled).elim⟩

/-- A lifecycle revision: one row is written and its event is recorded. -/
structure Revision (before after : Database) (id : TaskId) (row : TaskRow)
    (outboxEnabled : Bool) (now : Nat) : Prop where
  tasks : after.tasks = before.tasks.insert id row
  quarantine : after.taskEventOutboxQuarantine = before.taskEventOutboxQuarantine
  disabled : outboxEnabled = false → after.taskEventOutbox = before.taskEventOutbox
  enabled : outboxEnabled = true →
    after.taskEventOutbox =
        before.taskEventOutbox ++ [before.eventRow now (row.summary id)] ∧
      ¬ outboxKeyTaken before.taskEventOutbox id row.lifecycle.stateVersion

theorem revision_of_recorded [IdCodec]
    (recorded : (before.putRow id row).recordEvent outboxEnabled now (row.summary id) =
      .ok after) :
    Revision before after id row outboxEnabled now := by
  have event := record_event_spec recorded
  exact ⟨event.tasks, event.quarantine, event.disabled, event.enabled⟩

section

variable (revision : Revision before after id row outboxEnabled now)
include revision

theorem Revision.lookup (other : TaskId) :
    after.tasks.lookup other = if other = id then some row else before.tasks.lookup other := by
  rw [revision.tasks]
  exact Table.lookup_insert_eq _ _ _ _

theorem Revision.own : after.getEncodedTask id = some (row.storedTask id) := by
  unfold getEncodedTask
  rw [revision.lookup, if_pos rfl]
  rfl

theorem Revision.others (other : TaskId) (different : other ≠ id) :
    after.getEncodedTask other = before.getEncodedTask other := by
  unfold getEncodedTask
  rw [revision.lookup, if_neg different]

theorem Revision.event_cases {event : OutboxRow} (member : event ∈ after.taskEventOutbox) :
    event ∈ before.taskEventOutbox ∨ event = before.eventRow now (row.summary id) := by
  cases enabled : outboxEnabled with
  | false =>
    rw [revision.disabled enabled] at member
    exact .inl member
  | true =>
    rw [(revision.enabled enabled).1] at member
    rcases mem_append.mp member with old | new
    · exact .inl old
    · exact .inr (mem_singleton.mp new)

theorem Revision.sound (sound : before.Sound) (written : row.Sound)
    (advances : ∀ old, before.tasks.lookup id = some old → old.stateVersion ≤ row.stateVersion) :
    after.Sound := by
  refine ⟨?_, ?_⟩
  · intro other stored found
    rw [revision.lookup] at found
    split_ifs at found
    · cases found
      exact written
    · exact sound.rows other stored found
  · intro event member
    rw [revision.lookup]
    rcases revision.event_cases member with old | rfl
    · obtain ⟨stored, found, bounded⟩ := sound.events event old
      split_ifs with same
      · refine ⟨row, rfl, bounded.trans (advances stored ?_)⟩
        rw [← same]
        exact found
      · exact ⟨stored, found, bounded⟩
    · refine ⟨row, if_pos rfl, ?_⟩
      exact Nat.le_of_eq written.version.symm

end

theorem accept_revision [IdCodec] {request : StoredTaskRequest} {outcome : AcceptOutcome}
    (accepted : before.acceptEncoded clock id request outboxEnabled = .ok (after, outcome)) :
    (outcome.created = false ∧ after = before) ∨
      (outcome = { summary := acceptedSummary id request clock.now, created := true } ∧
        before.tasks.lookup id = none ∧
        Revision before after id (acceptedRow request clock.now) outboxEnabled
          clock.eventNow) := by
  unfold acceptEncoded at accepted
  split at accepted
  · split at accepted
    · cases accepted
    · cases accepted
      exact .inl ⟨rfl, rfl⟩
  · simp only [bind_eq_ok, require_eq_ok] at accepted
    obtain ⟨_, absent, _, _, written, recorded, result⟩ := accepted
    cases result
    exact .inr ⟨rfl, Option.isNone_iff_eq_none.mp absent, revision_of_recorded recorded⟩

theorem start_revision [IdCodec] {command : StartCommand}
    (started : before.startEncoded clock command outboxEnabled = .ok (after, summary)) :
    ∃ row, before.tasks.lookup command.id = some row ∧ row.stateKind = .queued ∧
      row.stateVersion = command.expectedStateVersion ∧
      row.lifecycle.stateVersion + 1 < u64Bound ∧
      summary = (startedRow row command).summary command.id ∧
      Revision before after command.id (startedRow row command) outboxEnabled
        clock.eventNow := by
  unfold startEncoded at started
  simp only [bind_eq_ok, require_eq_ok, addressed_row_eq_ok, increment_version_eq_ok] at started
  obtain ⟨row, found, _, ⟨queued, version⟩, _, ⟨room, _⟩, _, _, _, _, _, _, written, recorded,
    result⟩ := started
  cases result
  exact ⟨row, found, queued, version, room, rfl, revision_of_recorded recorded⟩

theorem transition_revision [IdCodec]
    (applied : before.transitionEncoded clock command outboxEnabled = .ok (after, summary)) :
    ∃ row, before.tasks.lookup command.id = some row ∧ rowMatches row command ∧
      row.lifecycle.stateVersion + 1 < u64Bound ∧
      summary = (transitionedRow row command).summary command.id ∧
      Revision before after command.id (transitionedRow row command) outboxEnabled
        clock.eventNow := by
  unfold transitionEncoded at applied
  simp only [bind_eq_ok, require_eq_ok, addressed_row_eq_ok, increment_version_eq_ok] at applied
  obtain ⟨_, _, _, _, _, _, row, found, _, _, _, matched, _, _, _, ⟨room, _⟩, _, _, written,
    recorded, result⟩ := applied
  cases result
  exact ⟨row, found, matched, room, rfl, revision_of_recorded recorded⟩

theorem signed_column_eq_ok (value stored : Nat) :
    signedColumn value = .ok stored ↔ value < i64Bound ∧ stored = value := by
  unfold signedColumn
  split
  · rename_i fits
    simp [fits, eq_comm]
  · rename_i large
    simp [large]

theorem sqlite_i64_eq_ok (value stored : Nat) (field : String) :
    sqliteI64FromU64 value field = .ok stored ↔ value < i64Bound ∧ stored = value := by
  unfold sqliteI64FromU64
  split
  · rename_i fits
    simp [fits, eq_comm]
  · rename_i large
    simp [large]

theorem deadline_column_eq_ok (deadline : Option Nat) :
    deadlineColumn deadline = .ok () ↔ ∀ value, deadline = some value → value < i64Bound := by
  unfold deadlineColumn
  split
  · simp
  · simp [bind_eq_ok, signed_column_eq_ok]

theorem record_event_accepts_iff [IdCodec] (database : Database) (outboxEnabled : Bool)
    (now : Nat) (summary : TaskSummary) :
    (∃ written, database.recordEvent outboxEnabled now summary = .ok written) ↔
      (outboxEnabled = true →
        (TaskEvent.fromTypedSummary summary).toJson.utf8ByteSize ≤ maxEventSnapshotBytes ∧
          summary.stateVersion < i64Bound ∧ now < i64Bound ∧
          ¬ outboxKeyTaken database.taskEventOutbox summary.id summary.stateVersion) := by
  unfold recordEvent
  cases outboxEnabled with
  | false => simp
  | true =>
    simp [insertEventOutbox, bind_eq_ok, require_eq_ok, sqlite_i64_eq_ok, signed_column_eq_ok]

theorem transition_accepts_iff [IdCodec] (found : database.tasks.lookup command.id = some row) :
    (∃ written summary,
        database.transitionEncoded clock command outboxEnabled = .ok (written, summary)) ↔
      command.state.validateDiagnostics = .ok () ∧
        validateEncodedOutput command.state command.output = .ok () ∧
        (command.retryNotBeforeMs = none ∨ command.state = .queued) ∧
        (∀ deadline, command.retryNotBeforeMs = some deadline → deadline < i64Bound) ∧
        rowMatches row command ∧
        ¬ (command.output.isSome = true ∧ row.lifecycle.state.isTerminal = true) ∧
        row.lifecycle.stateVersion + 1 < i64Bound ∧
        ∃ written, (database.putRow command.id (transitionedRow row command)).recordEvent
          outboxEnabled clock.eventNow ((transitionedRow row command).summary command.id) =
            .ok written := by
  constructor
  · rintro ⟨written, summary, applied⟩
    simp only [transitionEncoded, bind_eq_ok, require_eq_ok, map_error_eq_ok,
      addressed_row_eq_ok, increment_version_eq_ok, sqlite_i64_eq_ok] at applied
    obtain ⟨_, diagnostics, _, output, _, deadline, row', held, _, column, _, matched, _, open_,
      version, ⟨-, rfl⟩, _, ⟨fits, -⟩, after, recorded, -⟩ := applied
    rw [found] at held
    cases held
    exact ⟨diagnostics, output, deadline, (deadline_column_eq_ok _).mp column, matched, open_, fits,
      after, recorded⟩
  · rintro ⟨diagnostics, output, deadline, column, matched, open_, fits, after, recorded⟩
    refine ⟨after, (transitionedRow row command).summary command.id, ?_⟩
    simp only [transitionEncoded, bind_eq_ok, require_eq_ok, map_error_eq_ok,
      addressed_row_eq_ok, increment_version_eq_ok, sqlite_i64_eq_ok]
    exact ⟨(), diagnostics, (), output, (), deadline, row, found, (),
      (deadline_column_eq_ok _).mpr column, (), matched, (), open_, _, ⟨lt_u64_of_lt_i64 fits, rfl⟩,
      _, ⟨fits, rfl⟩, after, recorded, rfl⟩

/-!
Conversions and counters fail as store failures, and with no other error.
-/

section OnlyFailures

variable {error : StoreError} (other : ∀ message, .failure message ≠ error)
include other

theorem signed_column_ne (value : Nat) : signedColumn value ≠ .error error := by
  unfold signedColumn
  split <;> simp [other]

theorem sqlite_i64_ne (value : Nat) (field : String) :
    sqliteI64FromU64 value field ≠ .error error := by
  unfold sqliteI64FromU64
  split <;> simp [other]

theorem increment_version_ne (version : Nat) : incrementVersion version ≠ .error error := by
  unfold incrementVersion
  split <;> simp [other]

theorem increment_attempt_ne (attempt : Nat) : incrementAttempt attempt ≠ .error error := by
  unfold incrementAttempt
  split <;> simp [other]

theorem deadline_column_ne (deadline : Option Nat) : deadlineColumn deadline ≠ .error error := by
  unfold deadlineColumn
  split
  · simp
  · simp [bind_eq_error, signed_column_ne other]

theorem record_event_error_iff [IdCodec] (database : Database) (outboxEnabled : Bool) (now : Nat)
    (summary : TaskSummary) :
    database.recordEvent outboxEnabled now summary = .error error ↔
      outboxEnabled = true ∧
        maxEventSnapshotBytes < (TaskEvent.fromTypedSummary summary).toJson.utf8ByteSize ∧
        .invalidRequest "task event snapshot exceeds 128 KiB" = error := by
  unfold recordEvent
  cases outboxEnabled with
  | false => simp
  | true =>
    simp [insertEventOutbox, bind_eq_error, require_eq_error, sqlite_i64_ne other,
      signed_column_ne other, other]

end OnlyFailures

theorem addressed_row_ne_conflict (database : Database) (id : TaskId) :
    database.addressedRow id ≠ .error .conflict := by
  unfold addressedRow
  split <;> simp

theorem transition_conflict [IdCodec]
    (failed : database.transitionEncoded clock command outboxEnabled = .error .conflict) :
    ∀ row, database.tasks.lookup command.id = some row → ¬ rowMatches row command := by
  intro row found
  have diagnostics : command.state.validateDiagnostics.mapError StoreError.invalidRequest ≠
      .error .conflict := by
    simp [map_error_eq_error]
  have other : ∀ message, StoreError.failure message ≠ .conflict := fun _ => nofun
  unfold transitionEncoded at failed
  simp [bind_eq_error, require_eq_error, diagnostics, validate_encoded_output_ne_conflict,
    addressed_row_ne_conflict, deadline_column_ne other, increment_version_ne other,
    sqlite_i64_ne other, record_event_error_iff other, addressed_row_eq_ok, found] at failed
  exact failed.2.2.2.2

theorem accepted_row_sound (request : StoredTaskRequest) (now : Nat) :
    (acceptedRow request now).Sound :=
  ⟨rfl, rfl, rfl, rfl⟩

theorem started_row_sound (row : TaskRow) (command : StartCommand) :
    (startedRow row command).Sound :=
  ⟨rfl, rfl, rfl, rfl⟩

theorem transitioned_row_sound (sound : row.Sound) (command : TransitionCommand) :
    (transitionedRow row command).Sound :=
  ⟨rfl, rfl, sound.attempt, rfl⟩

theorem prune_row_spec {entry : TaskId × TaskRow} (pruned : before.pruneRow entry = .ok after) :
    entry.2.lifecycle.state.isTerminal = true ∧
      after.tasks = before.tasks.erase entry.1 ∧
      after.taskEventOutbox = before.taskEventOutbox ∧
      after.taskEventOutboxQuarantine = before.taskEventOutboxQuarantine := by
  unfold pruneRow at pruned
  simp only [bind_eq_ok, require_eq_ok] at pruned
  obtain ⟨_, terminal, _, _, result⟩ := pruned
  cases result
  exact ⟨terminal, rfl, rfl, rfl⟩

structure PruneSpec (before after : Database) : Prop where
  sound : after.Sound
  outbox : after.taskEventOutbox = before.taskEventOutbox
  quarantine : after.taskEventOutboxQuarantine = before.taskEventOutboxQuarantine
  rows : ∀ id row, after.tasks.lookup id = some row → before.tasks.lookup id = some row
  kept : ∀ id, Kept (before.getEncodedTask id) (after.getEncodedTask id)

theorem prune_terminal_rows_spec (entries : List (TaskId × TaskRow)) (sound : before.Sound)
    (retained : ∀ entry ∈ entries, ∀ row, before.tasks.lookup entry.1 = some row → row = entry.2)
    (settled : ∀ entry ∈ entries, ∀ event ∈ before.taskEventOutbox, event.taskId ≠ entry.1)
    (pruned : before.pruneTerminalRows entries = .ok after) :
    PruneSpec before after := by
  induction entries generalizing before with
  | nil =>
    cases pruned
    exact ⟨sound, rfl, rfl, fun _ _ found => found, fun _ => Kept.refl _⟩
  | cons entry rest ih =>
    simp only [pruneTerminalRows, bind_eq_ok] at pruned
    obtain ⟨middle, first, remaining⟩ := pruned
    obtain ⟨terminal, tasks, outbox, quarantine⟩ := prune_row_spec first
    have lookup : ∀ id, middle.tasks.lookup id =
        if id = entry.1 then none else before.tasks.lookup id := by
      intro id
      rw [tasks]
      exact Table.lookup_erase_eq _ _ _
    have rows : ∀ id row, middle.tasks.lookup id = some row →
        before.tasks.lookup id = some row := by
      intro id row found
      rw [lookup] at found
      split_ifs at found
      exact found
    have middleSound : middle.Sound := by
      refine ⟨fun id row found => sound.rows id row (rows id row found), ?_⟩
      intro event member
      rw [outbox] at member
      rw [lookup, if_neg (settled entry (by simp) event member)]
      exact sound.events event member
    have firstKept : ∀ id, Kept (before.getEncodedTask id) (middle.getEncodedTask id) := by
      intro id
      unfold getEncodedTask
      rw [lookup]
      split_ifs with same
      · cases found : before.tasks.lookup id with
        | none => exact Kept.refl _
        | some row =>
          refine .inr ⟨rfl, row.storedTask id, rfl, ?_⟩
          have same' : row = entry.2 := retained entry (by simp) row (by rw [← same, found])
          rw [same']
          exact terminal
      · exact Kept.refl _
    have tail := ih middleSound
      (fun other member row found =>
        retained other (mem_cons_of_mem _ member) row (rows _ _ found))
      (fun other member event eventMember =>
        settled other (mem_cons_of_mem _ member) event (outbox ▸ eventMember))
      remaining
    exact ⟨tail.sound, tail.outbox.trans outbox, tail.quarantine.trans quarantine,
      fun id row found => rows id row (tail.rows id row found),
      fun id => (firstKept id).trans (tail.kept id)⟩

theorem mem_task_rows (database : Database) (entry : TaskId × TaskRow) :
    entry ∈ database.taskRows ↔ database.tasks.lookup entry.1 = some entry.2 := by
  unfold taskRows
  rw [mem_map]
  constructor
  · rintro ⟨⟨id, row⟩, member, rfl⟩
    exact AList.mem_lookup_iff.mpr member
  · intro found
    exact ⟨⟨entry.1, entry.2⟩, AList.mem_lookup_iff.mp found, rfl⟩

theorem prune_spec {cutoff maxRows count : Nat} (sound : before.Sound)
    (pruned : before.pruneTerminalBefore cutoff maxRows = .ok (after, count)) :
    PruneSpec before after := by
  unfold pruneTerminalBefore at pruned
  simp only [bind_eq_ok] at pruned
  obtain ⟨middle, removed, result⟩ := pruned
  cases result
  have candidate : ∀ entry ∈ ((before.taskRows.filter (before.expiredRow cutoff)).insertionSort
      fun left right => finishLe left right = true).take maxRows,
      entry ∈ before.taskRows ∧ before.expiredRow cutoff entry = true := by
    intro entry member
    have sorted := (mem_insertionSort _).mp (mem_of_mem_take member)
    exact mem_filter.mp sorted
  refine prune_terminal_rows_spec _ sound ?_ ?_ removed
  · intro entry member row found
    have held := (mem_task_rows before entry).mp (candidate entry member).1
    rw [held] at found
    exact (Option.some.inj found).symm
  · intro entry member event eventMember same
    have expired := (candidate entry member).2
    simp only [expiredRow, Bool.and_eq_true, Bool.not_eq_true', any_eq_false,
      decide_eq_true_eq] at expired
    exact expired.2 event eventMember same

theorem decode_page_sound {rows : List (TaskId × TaskRow)} {limit : Nat}
    (fetched : ∀ entry ∈ rows, entry ∈ database.taskRows)
    (member : summary ∈ (decodePage rows limit).records) :
    ∃ entry ∈ rows, summary = entry.2.summary entry.1 ∧
      database.getEncodedTask summary.id = some (entry.2.storedTask entry.1) := by
  have decoded := mem_of_mem_take (show summary ∈ List.take limit
    ((rows.take (limit + 1)).map fun entry => entry.2.summary entry.1) from member)
  obtain ⟨entry, taken, rfl⟩ := mem_map.mp decoded
  have row := mem_of_mem_take taken
  refine ⟨entry, row, rfl, ?_⟩
  exact get_encoded_task_eq_some.mpr
    ⟨entry.2, (mem_task_rows database entry).mp (fetched entry row), rfl⟩

theorem next_deadline_spec (sound : database.Sound) {answer : Option Nat}
    (asked : database.nextRetryDeadline now = .ok answer) :
    NextDeadline database.getEncodedTask now answer := by
  unfold nextRetryDeadline at asked
  rw [bind_eq_ok] at asked
  obtain ⟨_, _, answered⟩ := asked
  cases answered
  apply next_deadline_of_min
  rintro id deadline ⟨task, found, queued, retry⟩
  obtain ⟨row, held, rfl⟩ := get_encoded_task_eq_some.mp found
  have columns := sound.rows id row held
  refine mem_filterMap.mpr ⟨(id, row), mem_filter.mpr ⟨?_, ?_⟩, ?_⟩
  · exact (mem_task_rows database (id, row)).mpr held
  · apply decide_eq_true
    rw [columns.kind, show row.lifecycle.state = .queued from queued]
    rfl
  · exact columns.retry.trans retry

end Database

namespace SqliteTaskStore

def Valid (store : SqliteTaskStore) : Prop :=
  store.database.Sound

variable {α : Type} {store : SqliteTaskStore}

theorem run_write_cases (store : SqliteTaskStore)
    (operation : Database → Except StoreError (Database × α)) :
    (∃ error, store.runWrite operation = (store, .error error) ∧
        (error = .failure "SQLite task store has no active owner" ∨
          operation store.database = .error error)) ∨
      ∃ database value, operation store.database = .ok (database, value) ∧
        store.runWrite operation = ({ store with database := database }, .ok value) := by
  unfold runWrite
  split
  · cases ran : operation store.database with
    | error error => exact .inl ⟨error, rfl, .inr rfl⟩
    | ok result => exact .inr ⟨result.1, result.2, rfl, rfl⟩
  · exact .inl ⟨_, rfl, .inl rfl⟩

theorem run_write_error_iff (owned : store.lockHeld = true)
    (operation : Database → Except StoreError (Database × α)) {error : StoreError} :
    (store.runWrite operation).2 = .error error ↔ operation store.database = .error error := by
  unfold runWrite
  rw [if_pos owned]
  cases operation store.database with
  | error | ok => simp [commit]

theorem run_write_succeeds_iff (held : store.lockHeld = true)
    (operation : Database → Except StoreError (Database × α)) :
    (∃ value, (store.runWrite operation).2 = .ok value) ↔
      ∃ database value, operation store.database = .ok (database, value) := by
  unfold runWrite
  rw [if_pos held]
  cases operation store.database with
  | error error => simp [commit]
  | ok result => exact ⟨fun _ => ⟨result.1, result.2, rfl⟩, fun _ => ⟨result.2, rfl⟩⟩

theorem run_outbox_cases (store : SqliteTaskStore)
    (operation : Database → Except StoreError (Database × α)) :
    (∃ error, store.runOutbox operation = (store, .error error)) ∨
      ∃ database value, operation store.database = .ok (database, value) ∧
        store.runOutbox operation = ({ store with database := database }, .ok value) := by
  unfold runOutbox
  split
  · cases ran : operation store.database with
    | error error => exact .inl ⟨error, rfl⟩
    | ok result => exact .inr ⟨result.1, result.2, rfl, rfl⟩
  · exact .inl ⟨_, rfl⟩

theorem progress_spec (store : SqliteTaskStore) (command : ProgressCommand) (valid : store.Valid) :
    (store.updateProgress command).1.Valid ∧
      ProgressEffect store.getEncodedTask (store.updateProgress command).1.getEncodedTask
        command.id := by
  unfold updateProgress
  rcases store.run_write_cases fun database => database.updateProgress command with
    ⟨error, failed, _⟩ | ⟨database, summary, updated, committed⟩
  · rw [failed]
    exact ⟨valid, ProgressEffect.rejected fun _ => rfl⟩
  · rw [committed]
    unfold Database.updateProgress at updated
    simp only [bind_eq_ok, require_eq_ok, Database.addressed_row_eq_ok] at updated
    obtain ⟨snapshot, _, row, found, _, _, _, _, _, _, result⟩ := updated
    cases result
    have sound := valid.rows _ _ found
    refine ⟨⟨?_, ?_⟩, ProgressEffect.reported (row.storedTask command.id) snapshot ?_ ?_ ?_⟩
    · intro other stored held
      rw [Database.put_row_lookup] at held
      split_ifs at held
      · cases held
        exact ⟨sound.kind, sound.version, sound.attempt, sound.retry⟩
      · exact valid.rows other stored held
    · intro event member
      obtain ⟨stored, held, bounded⟩ := valid.events event member
      rw [Database.put_row_lookup]
      split_ifs with same
      · rw [same, found] at held
        cases held
        exact ⟨_, rfl, bounded⟩
      · exact ⟨stored, held, bounded⟩
    · exact Database.get_encoded_task_eq_some.mpr ⟨row, found, rfl⟩
    · exact Database.get_encoded_task_eq_some.mpr
        ⟨_, (Database.put_row_lookup _ _ _ _).trans (if_pos rfl), rfl⟩
    · intro other different
      show Database.getEncodedTask _ other = store.database.getEncodedTask other
      unfold Database.getEncodedTask
      rw [Database.put_row_lookup, if_neg different]

theorem prune_store_spec (store : SqliteTaskStore) (cutoff maxRows : Nat) (valid : store.Valid) :
    (store.pruneTerminalBefore cutoff maxRows).1.Valid ∧
      ∀ other, Kept (store.getEncodedTask other)
        ((store.pruneTerminalBefore cutoff maxRows).1.getEncodedTask other) := by
  unfold pruneTerminalBefore
  split
  · exact ⟨valid, fun _ => Kept.refl _⟩
  split
  · exact ⟨valid, fun _ => Kept.refl _⟩
  rcases store.run_write_cases fun database => database.pruneTerminalBefore cutoff maxRows with
    ⟨error, failed, _⟩ | ⟨database, count, pruned, committed⟩
  · rw [failed]
    exact ⟨valid, fun _ => Kept.refl _⟩
  · rw [committed]
    have spec := Database.prune_spec valid pruned
    exact ⟨spec.sound, spec.kept⟩

theorem outbox_delete_spec (store : SqliteTaskStore)
    (operation : Database → Except StoreError (Database × Unit)) (valid : store.Valid)
    (deletes : ∀ database, operation store.database = .ok (database, ()) →
      database.tasks = store.database.tasks ∧
        ∀ event ∈ database.taskEventOutbox, event ∈ store.database.taskEventOutbox) :
    (store.runOutbox operation).1.Valid := by
  rcases store.run_outbox_cases operation with ⟨error, failed⟩ | ⟨database, _, ran, committed⟩
  · rw [failed]
    exact valid
  · rw [committed]
    obtain ⟨tasks, events⟩ := deletes database ran
    refine ⟨?_, ?_⟩
    · intro id row found
      exact valid.rows id row (by rw [← tasks]; exact found)
    · intro event member
      show ∃ row, database.tasks.lookup event.taskId = some row ∧ _
      rw [tasks]
      exact valid.events event (events event member)

theorem outbox_delete_records (store : SqliteTaskStore)
    (operation : Database → Except StoreError (Database × Unit))
    (deletes : ∀ database, operation store.database = .ok (database, ()) →
      database.tasks = store.database.tasks) (other : TaskId) :
    (store.runOutbox operation).1.getEncodedTask other = store.getEncodedTask other := by
  rcases store.run_outbox_cases operation with ⟨error, failed⟩ | ⟨database, _, ran, committed⟩
  · rw [failed]
  · rw [committed]
    show database.getEncodedTask other = store.database.getEncodedTask other
    unfold Database.getEncodedTask
    rw [deletes database ran]

variable [IdCodec]

theorem accept_spec (store : SqliteTaskStore) (clock : Clock) (id : TaskId)
    (request : StoredTaskRequest) (valid : store.Valid) :
    (store.acceptEncoded clock id request).1.Valid ∧
      AcceptEffect store.getEncodedTask (store.acceptEncoded clock id request).1.getEncodedTask id
        request clock.now (store.acceptEncoded clock id request).2 := by
  unfold acceptEncoded
  rcases store.run_write_cases fun database =>
      database.acceptEncoded clock id request store.outboxEnabled with
    ⟨error, failed, _⟩ | ⟨database, outcome, accepted, committed⟩
  · rw [failed]
    exact ⟨valid, AcceptEffect.rejected _ fun _ => Kept.refl _⟩
  · rw [committed]
    rcases Database.accept_revision accepted with ⟨replayed, rfl⟩ | ⟨rfl, absent, revision⟩
    · refine ⟨valid, ?_⟩
      obtain ⟨summary, created⟩ := outcome
      cases replayed
      exact AcceptEffect.replayed _ fun _ => rfl
    · refine ⟨revision.sound valid (Database.accepted_row_sound _ _) ?_,
        AcceptEffect.created ?_ revision.own ?_⟩
      · intro old found
        rw [absent] at found
        cases found
      · show store.database.getEncodedTask id = none
        unfold Database.getEncodedTask
        rw [absent]
        rfl
      · intro other different
        exact .inl (revision.others other different)

theorem start_spec (store : SqliteTaskStore) (clock : Clock) (command : StartCommand)
    (valid : store.Valid) :
    (store.startEncoded clock command).1.Valid ∧
      StartEffect store.getEncodedTask (store.startEncoded clock command).1.getEncodedTask command
        (store.startEncoded clock command).2 := by
  unfold startEncoded
  rcases store.run_write_cases fun database =>
      database.startEncoded clock command store.outboxEnabled with
    ⟨error, failed, _⟩ | ⟨database, summary, started, committed⟩
  · rw [failed]
    exact ⟨valid, StartEffect.rejected _ fun _ => rfl⟩
  · rw [committed]
    obtain ⟨row, found, queued, version, room, rfl, revision⟩ := Database.start_revision started
    have sound := valid.rows _ _ found
    refine ⟨revision.sound valid (Database.started_row_sound _ _) ?_,
      StartEffect.started (row.storedTask command.id) ?_ ?_ ?_ room revision.own revision.others⟩
    · intro old held
      rw [found] at held
      cases held
      rw [sound.version]
      exact Nat.le_succ _
    · exact Database.get_encoded_task_eq_some.mpr ⟨row, found, rfl⟩
    · rw [sound.kind] at queued
      exact (TaskState.kind_queued_iff _).mp queued
    · exact sound.version.symm.trans version

theorem transition_spec (store : SqliteTaskStore) (clock : Clock) (command : TransitionCommand)
    (valid : store.Valid) :
    (store.transitionEncoded clock command).1.Valid ∧
      TransitionEffect store.getEncodedTask
        (store.transitionEncoded clock command).1.getEncodedTask command
        (store.transitionEncoded clock command).2 := by
  unfold transitionEncoded
  rcases store.run_write_cases fun database =>
      database.transitionEncoded clock command store.outboxEnabled with
    ⟨error, failed, reason⟩ | ⟨database, summary, applied, committed⟩
  · rw [failed]
    refine ⟨valid, TransitionEffect.rejected _ (fun _ => rfl) ?_⟩
    rintro rfl task held matched
    rcases reason with impossible | lost
    · cases impossible
    · obtain ⟨row, found, rfl⟩ := Database.get_encoded_task_eq_some.mp held
      refine Database.transition_conflict lost row found ⟨?_, matched.2⟩
      exact (valid.rows _ _ found).version.trans matched.1
  · rw [committed]
    obtain ⟨row, found, matched, room, rfl, revision⟩ := Database.transition_revision applied
    have sound := valid.rows _ _ found
    refine ⟨revision.sound valid (Database.transitioned_row_sound sound _) ?_,
      TransitionEffect.applied (row.storedTask command.id) ?_ ⟨?_, matched.2⟩ room
        (.inl revision.own) ?_⟩
    · intro old held
      rw [found] at held
      cases held
      rw [sound.version]
      exact Nat.le_succ _
    · exact Database.get_encoded_task_eq_some.mpr ⟨row, found, rfl⟩
    · exact sound.version.symm.trans matched.1
    · intro other different
      exact .inl (revision.others other different)

end SqliteTaskStore

namespace Database

variable {after before : Database} {command : QuarantineCommand}

theorem mark_spec {id : TaskId} {version : Nat}
    (marked : before.markOutboxPublished id version = .ok (after, ())) :
    after.tasks = before.tasks ∧
      after.taskEventOutboxQuarantine = before.taskEventOutboxQuarantine ∧
      ∀ event, event ∈ after.taskEventOutbox ↔
        event ∈ before.taskEventOutbox ∧ ¬ (event.taskId = id ∧ event.stateVersion = version) := by
  unfold markOutboxPublished at marked
  simp only [bind_eq_ok] at marked
  obtain ⟨_, _, result⟩ := marked
  cases result
  refine ⟨rfl, rfl, ?_⟩
  intro event
  simp only [mem_filter, decide_eq_true_eq]

theorem expected_head_spec {database : Database} {head : OutboxRow}
    (found : database.expectedHead command = .ok head) :
    database.orderedOutbox.head? = some head ∧ head.taskId = command.taskId ∧
      head.stateVersion = command.stateVersion ∧ head.eventId = command.eventId := by
  unfold expectedHead at found
  split at found
  · cases found
  · rename_i front isHead
    split_ifs at found with named
    cases found
    exact ⟨isHead, named⟩

/-- What a successful quarantine moves from the outbox to the archive. -/
theorem quarantine_spec {clock : Clock}
    (moved : before.quarantineOutboxHead clock command = .ok (after, ())) :
    after.tasks = before.tasks ∧
      ∃ head now, before.orderedOutbox.head? = some head ∧
        (head.taskId = command.taskId ∧ head.stateVersion = command.stateVersion ∧
          head.eventId = command.eventId) ∧
        after.taskEventOutboxQuarantine =
          before.taskEventOutboxQuarantine ++ [quarantinedRow head command now] ∧
        ∀ event, event ∈ after.taskEventOutbox ↔
          event ∈ before.taskEventOutbox ∧
            ¬ (event.taskId = head.taskId ∧ event.stateVersion = head.stateVersion ∧
              event.eventId = head.eventId) := by
  unfold quarantineOutboxHead at moved
  simp only [bind_eq_ok, require_eq_ok] at moved
  obtain ⟨_, _, head, expected, now, _, _, _, result⟩ := moved
  cases result
  obtain ⟨first, named⟩ := expected_head_spec expected
  refine ⟨rfl, head, now, first, named, rfl, ?_⟩
  intro event
  simp only [mem_filter, decide_eq_true_eq]

end Database

instance [IdCodec] : LawfulStore SqliteTaskStore where
  Valid := SqliteTaskStore.Valid
  get_id store id task _ found := by
    obtain ⟨row, _, rfl⟩ := Database.get_encoded_task_eq_some.mp found
    rfl
  accept_valid store clock id request valid := (store.accept_spec clock id request valid).1
  accept_effect store clock id request valid := (store.accept_spec clock id request valid).2
  start_valid store clock command valid := (store.start_spec clock command valid).1
  start_effect store clock command valid := (store.start_spec clock command valid).2
  transition_valid store clock command valid := (store.transition_spec clock command valid).1
  transition_effect store clock command valid := (store.transition_spec clock command valid).2
  progress_valid store command valid := (store.progress_spec command valid).1
  progress_effect store command valid := (store.progress_spec command valid).2
  prune_valid store cutoff maxRows valid := (store.prune_store_spec cutoff maxRows valid).1
  prune_effect store cutoff maxRows valid := (store.prune_store_spec cutoff maxRows valid).2
  mark_valid store id version valid :=
    store.outbox_delete_spec _ valid fun _ marked =>
      ⟨(Database.mark_spec marked).1, fun event member =>
        (((Database.mark_spec marked).2.2 event).mp member).1⟩
  mark_records store id version other :=
    store.outbox_delete_records _ (fun _ marked => (Database.mark_spec marked).1) other
  quarantine_valid store clock command valid :=
    store.outbox_delete_spec _ valid fun _ moved => by
      obtain ⟨tasks, _, _, _, _, _, events⟩ := Database.quarantine_spec moved
      exact ⟨tasks, fun event member => ((events event).mp member).1⟩
  quarantine_records store clock command other :=
    store.outbox_delete_records _ (fun _ moved => (Database.quarantine_spec moved).1) other
  list_ready_sound store after limit now page valid listed := by
    intro summary member
    simp only [TaskStore.listReadyQueued, Database.listReadyQueued, bind_eq_ok] at listed
    obtain ⟨_, _, _, _, _, _, result⟩ := listed
    cases result
    have fetched : ∀ entry ∈ (store.database.taskRows.filter fun entry =>
        Database.readyRow now entry.2 && Database.afterCursor after entry).insertionSort
          fun left right => Database.positionLe left right = true,
        entry ∈ store.database.taskRows ∧ Database.readyRow now entry.2 = true := by
      intro entry sorted
      have kept := mem_filter.mp ((mem_insertionSort _).mp sorted)
      exact ⟨kept.1, ((Bool.and_eq_true _ _).mp kept.2).1⟩
    obtain ⟨entry, row, rfl, held⟩ :=
      Database.decode_page_sound (fun entry sorted => (fetched entry sorted).1) member
    refine ⟨?_, entry.2.storedTask entry.1, held, rfl⟩
    have ready := (fetched entry row).2
    simp only [Database.readyRow, Bool.and_eq_true, decide_eq_true_eq] at ready
    have retained := (Database.mem_task_rows _ entry).mp (fetched entry row).1
    rw [(valid.rows _ _ retained).kind] at ready
    exact (TaskState.kind_queued_iff _).mp ready.1
  list_sound store query page _ listed := by
    intro summary member
    simp only [TaskStore.listEncoded, Database.listEncoded, bind_eq_ok] at listed
    obtain ⟨pageSize, _, _, _, result⟩ := listed
    cases result
    obtain ⟨entry, _, rfl, held⟩ := Database.decode_page_sound (fun entry sorted =>
      (mem_filter.mp ((mem_insertionSort _).mp sorted)).1) member
    exact ⟨entry.2.storedTask entry.1, held, rfl⟩
  next_deadline store now answer valid asked := Database.next_deadline_spec valid asked

end TaskService.Store
