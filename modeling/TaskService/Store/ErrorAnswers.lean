import TaskService.Store.EventSizes

/-!
# The errors a store answers with

A call that is composed within the limits fails because of the state it meets: a lost race,
a missing record, a rejected submission, or a failure of the store itself.  The events of a
record have to fit as well where a store writes them.
-/

namespace TaskService.Store

open Library Model

/-- Answers to an acceptance that concern the submitted request only. -/
def declines : StoreError → Bool
  | .capacityExceeded _ _ | .unfinishedRecordLimitExceeded _ | .idempotencyConflict
  | .duplicateTask | .conflict | .notFound => true
  | .unsupportedCapability | .unsupportedDatabaseIdentity | .ownerConflict | .invalidRequest _
  | .invalidTransition | .failure _ => false

structure Composed (command : TransitionCommand) : Prop where
  diagnostics : command.state.validateDiagnostics = .ok ()
  output : validateEncodedOutput command.state command.output = .ok ()
  deadline : command.retryNotBeforeMs = none ∨ command.state = .queued

section

open TaskStore

/-- A store that says why a call failed.  `EventRoom` is the room that the events of a task
with this identity and request need, whatever becomes of the task. -/
class PreciseStore (σ : Type) [TaskStore σ] [LawfulStore σ] where
  EventRoom : σ → TaskId → StoredTaskRequest → Prop
  accept_error : ∀ (store : σ) (clock : Clock) (id : TaskId) (request : StoredTaskRequest)
    (error : StoreError), request.kindId ≠ "" → request.payload.codecId ≠ "" →
    EventRoom store id request → (acceptEncoded store clock id request).2 = .error error →
    declines error = true ∨ ∃ message, error = .failure message
  start_error : ∀ (store : σ) (clock : Clock) (command : StartCommand) (error : StoreError),
    (∀ task, getEncodedTask store command.id = some task →
      EventRoom store command.id task.request) →
    (startEncoded store clock command).2 = .error error →
    error = .conflict ∨ error = .notFound ∨ ∃ message, error = .failure message
  transition_error : ∀ (store : σ) (clock : Clock) (command : TransitionCommand)
    (error : StoreError), Composed command →
    (∀ task, getEncodedTask store command.id = some task →
      EventRoom store command.id task.request ∧
        ¬ (command.output.isSome = true ∧ task.summary.state.isTerminal = true)) →
    (transitionEncoded store clock command).2 = .error error →
    error = .conflict ∨ (error = .notFound ∧ getEncodedTask store command.id = none) ∨
      ∃ message, error = .failure message
  ready_error : ∀ (store : σ) (after : Option TaskCursor) (limit now : Nat)
    (error : StoreError), limit ≤ maxTaskQueryLimit → now < i64Bound →
    (∀ cursor, after = some cursor → cursor.acceptedAtMs < i64Bound) →
    listReadyQueued store after limit now = .error error → ∃ message, error = .failure message
  deadline_error : ∀ (store : σ) (now : Nat) (error : StoreError), now < i64Bound →
    nextRetryDeadline store now = .error error → ∃ message, error = .failure message

end

section Memory

namespace MemoryTaskStore

variable {error : StoreError} {store : MemoryTaskStore}

theorem accept_error {clock : Clock} {id : TaskId} {request : StoredTaskRequest}
    (failed : (store.acceptEncoded clock id request).2 = .error error) :
    declines error = true ∨
      ((request.kindId = "" ∨ request.payload.codecId = "") ∧ declines error = false) := by
  unfold acceptEncoded acceptEncodedBy at failed
  split at failed
  · rename_i unnamed
    cases failed
    exact .inr ⟨by simpa using unnamed, rfl⟩
  · left
    split at failed
    · split at failed
      · cases failed
        rfl
      · split at failed
        · cases failed
          rfl
        · cases failed
    · split at failed
      · cases failed
        rfl
      · split at failed
        · cases failed
          rfl
        · unfold acceptNew acceptNewBy at failed
          simp only at failed
          split at failed
          · cases failed
            rfl
          · split at failed
            · cases failed
            · cases failed
              rfl

theorem start_error {command : StartCommand}
    (failed : (store.startEncoded command).2 = .error error) :
    error = .conflict ∨ error = .notFound ∨ ∃ message, error = .failure message := by
  unfold startEncoded at failed
  split at failed
  · cases failed
    exact .inr (.inl rfl)
  · split at failed
    · cases failed
      exact .inl rfl
    · split at failed
      · cases failed
        exact .inr (.inr ⟨_, rfl⟩)
      · split at failed
        · cases failed
          exact .inr (.inr ⟨_, rfl⟩)
        · cases failed

theorem transition_error {command : TransitionCommand} (composed : Composed command)
    (open_ : ∀ task, store.getEncodedTask command.id = some task →
      ¬ (command.output.isSome = true ∧ task.summary.state.isTerminal = true))
    (failed : (store.transitionEncoded command).2 = .error error) :
    error = .conflict ∨ (error = .notFound ∧ store.getEncodedTask command.id = none) ∨
      ∃ message, error = .failure message := by
  unfold transitionEncoded transitionEncodedBy at failed
  simp only [composed.diagnostics, composed.output] at failed
  split at failed
  · rename_i absent
    cases failed
    exact .inr (.inl ⟨rfl, absent⟩)
  · rename_i task held
    split at failed
    · rename_i refused checked
      cases failed
      unfold transitionCheck at checked
      split at checked
      · cases checked
        exact .inl rfl
      · split at checked
        · rename_i late
          exact absurd (by simpa using late) (open_ task held)
        · split at checked
          · rename_i early
            rcases composed.deadline with absent | queued
            · simp [absent] at early
            · simp [queued] at early
          · cases checked
    · split at failed
      · cases failed
        exact .inr (.inr ⟨_, rfl⟩)
      · cases failed

end MemoryTaskStore

instance : PreciseStore MemoryTaskStore where
  EventRoom _ _ _ := True
  accept_error store clock id request error kind codec _ failed := by
    rcases store.accept_error failed with declined | ⟨unnamed, _⟩
    · exact .inl declined
    · exact absurd unnamed (not_or.mpr ⟨kind, codec⟩)
  start_error store _ command error _ failed := store.start_error failed
  transition_error store _ command error composed open_ failed :=
    store.transition_error composed (fun task held => (open_ task held).2) failed
  ready_error store after limit now error fits _ _ failed := by
    change store.listReadyQueued after limit now = .error error at failed
    unfold MemoryTaskStore.listReadyQueued at failed
    rw [if_neg (Nat.not_lt.mpr fits)] at failed
    cases failed
  deadline_error store now error _ failed := by cases failed

end Memory

section Sqlite

namespace Database

variable {database : Database} {clock : Clock} {outboxEnabled : Bool} {error : StoreError}

theorem addressed_row_eq_error (id : TaskId) :
    database.addressedRow id = .error error ↔
      database.tasks.lookup id = none ∧ .notFound = error := by
  unfold addressedRow
  split
  · rename_i absent
    simp [absent]
  · rename_i found
    simp [found]

theorem declines_failure_bind {α β : Type} (outcome : Except String α)
    (rest : α → Except StoreError β) :
    FailsOnly declines (outcome.mapError .failure >>= rest) ↔
      ∃ value, outcome = .ok value ∧ FailsOnly declines (rest value) := by
  cases outcome with
  | error | ok => simp [FailsOnly, declines, Except.mapError, bind, Except.bind]

theorem declines_column_bind {α : Type} (moment : Nat) (rest : Nat → Except StoreError α) :
    FailsOnly declines (signedColumn moment >>= rest) ↔
      moment < i64Bound ∧ FailsOnly declines (rest moment) := by
  unfold signedColumn
  split
  · rename_i fits
    simp [fits, bind, Except.bind]
  · rename_i large
    simp [large, FailsOnly, declines, bind, Except.bind]

variable [IdCodec] {id : TaskId} {request : StoredTaskRequest}

/-- An acceptance that is not a failure of the store declines the request or its event. -/
theorem accept_error_iff (other : ∀ message, .failure message ≠ error)
    (declined : declines error = false) :
    database.acceptEncoded clock id request outboxEnabled = .error error ↔
      database.idempotentRow request = none ∧ database.tasks.lookup id = none ∧
        clock.now < i64Bound ∧ outboxEnabled = true ∧
        maxEventSnapshotBytes < eventSize id 0 .queued request.correlationKey ∧
        eventTooLarge = error := by
  have replay : StoreError.idempotencyConflict ≠ error := by
    rintro rfl
    cases declined
  have duplicate : StoreError.duplicateTask ≠ error := by
    rintro rfl
    cases declined
  unfold acceptEncoded
  split
  · split
    · simp [*]
    · simp [*]
  · rename_i unknown
    simp only [unknown, bind_eq_error, require_eq_error, require_eq_ok, duplicate,
      signed_column_eq_ok, signed_column_ne other, record_event_error_iff other, and_false,
      exists_false, or_false, false_or, reduceCtorEq, true_and]
    constructor
    · rintro ⟨_, absent, _, ⟨moment, _⟩, enabled, large, same⟩
      exact ⟨by simpa using absent, moment, enabled, large, same⟩
    · rintro ⟨absent, moment, enabled, large, same⟩
      exact ⟨(), by simpa using absent, _, ⟨moment, rfl⟩, enabled, large, same⟩

section Environment

/-- The first event of an unknown task is refused with an error that declines nothing. -/
theorem declines_first_event {α : Type} (sound : database.Sound)
    (absent : database.tasks.lookup id = none) (row : TaskRow) (info : StoredRequestInfo)
    (rest : Database → α) :
    FailsOnly declines (do
        let written ← (database.putRow id row).recordEvent outboxEnabled clock.eventNow
          (decodeSummary id info (acceptedLifecycle clock.now))
        .ok (rest written)) ↔
      (outboxEnabled = true → eventSize id 0 .queued info.correlationKey ≤ maxEventSnapshotBytes ∧
        clock.eventNow < i64Bound) := by
  have accepts := record_event_accepts_iff (database.putRow id row) outboxEnabled clock.eventNow
    (decodeSummary id info (acceptedLifecycle clock.now))
  cases recorded : (database.putRow id row).recordEvent outboxEnabled clock.eventNow
      (decodeSummary id info (acceptedLifecycle clock.now)) with
  | ok written =>
    refine iff_of_true (fails_only_ok _) fun enabled => ?_
    obtain ⟨size, _, moment, _⟩ := accepts.mp ⟨written, recorded⟩ enabled
    exact ⟨size, moment⟩
  | error error =>
    refine iff_of_false (fun harmless => ?_) fun fits => ?_
    · have declined := harmless error rfl
      have other : ∀ message, StoreError.failure message ≠ error := by
        rintro message rfl
        cases declined
      obtain ⟨_, _, rfl⟩ := (record_event_error_iff other _ _ _ _).mp recorded
      cases declined
    · obtain ⟨written, done⟩ := accepts.mpr fun enabled =>
        ⟨(fits enabled).1, (show 0 < i64Bound by decide), (fits enabled).2,
          sound.key_free absent 0⟩
      cases recorded.symm.trans done

variable [RequestWire]

open RequestWire

/-- An environment that keeps every request document and has room for this request. -/
structure Lossless (request : StoredTaskRequest) (now : Nat) : Prop where
  texts : ∀ info, ∃ text, toText info = .ok text ∧ ofText text = .ok info
  binds : request.idempotencyKey.elim (.ok ()) bindKey = .ok ()
  inserts : insertRow (acceptedRow request now) = .ok ()

theorem accept_encoded_on_eq (lossless : Lossless request clock.now) :
    database.acceptEncodedOn clock id request outboxEnabled =
      database.acceptEncoded clock id request outboxEnabled := by
  obtain ⟨text, written, read⟩ := lossless.texts (.ofRequest request)
  -- Texts are equal exactly when the documents are.
  have same : ∀ info, toText info = .ok text ↔ info = .ofRequest request := by
    intro info
    constructor
    · intro equal
      obtain ⟨other, wrote, reads⟩ := lossless.texts info
      cases wrote.symm.trans equal
      cases reads.symm.trans read
      rfl
    · rintro rfl
      exact written
  unfold acceptEncodedOn acceptEncoded
  rw [written, lossless.binds, lossless.inserts]
  cases database.idempotentRow request with
  | some entry =>
    by_cases both : entry.2.requestInfo = .ofRequest request ∧
        entry.2.payload = request.payload.bytes
    · simp [Except.mapError, bind, Except.bind, same, read, require, both, TaskRow.summary]
    · simp [Except.mapError, bind, Except.bind, same, require, both, not_and_or.mp both]
  | none =>
    simp only [Except.mapError, bind, Except.bind, read]
    rfl

/-- What the database and its environment have to offer so that an acceptance concerns nobody
but its request. -/
def Storable (database : Database) (clock : Clock) (id : TaskId) (request : StoredTaskRequest)
    (outboxEnabled : Bool) : Prop :=
  ∃ text, toText (.ofRequest request) = .ok text ∧
    request.idempotencyKey.elim (.ok ()) bindKey = .ok () ∧
      match database.idempotentRow request with
      | some (_, existing) =>
          toText existing.requestInfo = .ok text ∧ existing.payload = request.payload.bytes →
            ∃ info, ofText text = .ok info
      | none => database.tasks.lookup id = none →
          clock.now < i64Bound ∧ insertRow (acceptedRow request clock.now) = .ok () ∧
            ∃ info, ofText text = .ok info ∧ (outboxEnabled = true →
              eventSize id 0 .queued info.correlationKey ≤ maxEventSnapshotBytes ∧
                clock.eventNow < i64Bound)

theorem accept_declines_iff (sound : database.Sound) :
    FailsOnly declines (database.acceptEncodedOn clock id request outboxEnabled) ↔
      database.Storable clock id request outboxEnabled := by
  simp only [acceptEncodedOn, Storable, declines_failure_bind]
  simp only [Unique.exists_iff, PUnit.default_eq_unit]
  refine exists_congr fun text => and_congr_right fun _ => and_congr_right fun _ => ?_
  cases database.idempotentRow request with
  | some entry =>
    refine (fails_only_require_bind _ _ rfl).trans ?_
    simp only [declines_failure_bind, fails_only_ok, and_true]
  | none =>
    refine (fails_only_require_bind _ _ rfl).trans ?_
    rw [Option.isNone_iff_eq_none]
    refine forall_congr' fun absent => ?_
    simp only [declines_column_bind, declines_failure_bind, declines_first_event sound absent]
    simp only [Unique.exists_iff, PUnit.default_eq_unit]

end Environment

theorem start_error {command : StartCommand} (other : ∀ message, .failure message ≠ error)
    (room : outboxEnabled = true → ∀ row, database.tasks.lookup command.id = some row →
      longestEventSize command.id row.requestInfo.correlationKey ≤ maxEventSnapshotBytes)
    (failed : database.startEncoded clock command outboxEnabled = .error error) :
    error = .conflict ∨ error = .notFound := by
  by_cases large : error = eventTooLarge
  · rw [large] at failed
    obtain ⟨row, found, _, _, _, version, _, enabled, size⟩ := start_too_large_iff.mp failed
    have bound := event_size_le command.id row.requestInfo.correlationKey version
      (show TaskState.running.validateDiagnostics = .ok () from rfl)
    have fits := room enabled row found
    omega
  · have small : StoreError.invalidRequest "task event snapshot exceeds 128 KiB" ≠ error :=
      fun same => large same.symm
    simp only [startEncoded, bind_eq_error, require_eq_error, addressed_row_eq_error,
      increment_version_ne other, increment_attempt_ne other, sqlite_i64_ne other,
      signed_column_ne other, record_event_error_iff other, small, and_false, exists_false,
      or_false, reduceCtorEq] at failed
    rcases failed with ⟨_, same⟩ | ⟨_, _, _, same⟩
    · exact .inr same.symm
    · exact .inl same.symm

theorem transition_error {command : TransitionCommand} (composed : Composed command)
    (other : ∀ message, .failure message ≠ error)
    (room : outboxEnabled = true → ∀ row, database.tasks.lookup command.id = some row →
      longestEventSize command.id row.requestInfo.correlationKey ≤ maxEventSnapshotBytes)
    (open_ : ∀ row, database.tasks.lookup command.id = some row →
      ¬ (command.output.isSome = true ∧ row.lifecycle.state.isTerminal = true))
    (failed : database.transitionEncoded clock command outboxEnabled = .error error) :
    error = .conflict ∨ (error = .notFound ∧ database.tasks.lookup command.id = none) := by
  by_cases large : error = eventTooLarge
  · rw [large] at failed
    obtain ⟨diagnostics, _, _, _, row, found, _, _, version, enabled, size⟩ :=
      transition_too_large_iff.mp failed
    have bound := event_size_le command.id row.requestInfo.correlationKey version diagnostics
    have fits := room enabled row found
    omega
  · have small : StoreError.invalidRequest "task event snapshot exceeds 128 KiB" ≠ error :=
      fun same => large same.symm
    have valid : command.state.validateDiagnostics.mapError StoreError.invalidRequest = .ok () :=
      (map_error_eq_ok _ _ _).mpr composed.diagnostics
    simp only [transitionEncoded, bind_eq_error, require_eq_error, valid, composed.output,
      composed.deadline, addressed_row_eq_error, addressed_row_eq_ok, increment_version_ne other,
      sqlite_i64_ne other, deadline_column_ne other, record_event_error_iff other, small,
      not_true_eq_false, not_not, false_and, and_false, exists_false, or_false, false_or,
      reduceCtorEq] at failed
    obtain ⟨_, _, _, _, _, _, ⟨absent, same⟩ | ⟨row, found, _, _, ⟨_, same⟩ | late⟩⟩ := failed
    · exact .inr ⟨same.symm, absent⟩
    · exact .inl same.symm
    · obtain ⟨_, _, both, _⟩ := late
      exact absurd both (open_ row found)

end Database

theorem SqliteTaskStore.run_write_error {α : Type} {store : SqliteTaskStore}
    {operation : Database → Except StoreError (Database × α)} {error : StoreError}
    (other : ∀ message, .failure message ≠ error)
    (failed : (store.runWrite operation).2 = .error error) :
    operation store.database = .error error := by
  rcases store.run_write_cases operation with ⟨answer, ran, lost | refused⟩ | ⟨_, _, _, ran⟩
  · rw [ran] at failed
    cases failed
    exact absurd lost.symm (other _)
  · rw [ran] at failed
    cases failed
    exact refused
  · rw [ran] at failed
    cases failed

instance [IdCodec] : PreciseStore SqliteTaskStore where
  EventRoom store id request := store.outboxEnabled = true →
    longestEventSize id request.correlationKey ≤ Database.maxEventSnapshotBytes
  accept_error store clock id request error _ _ room failed := by
    by_contra neither
    obtain ⟨harmful, other⟩ := not_or.mp neither
    have unfailing : ∀ message, StoreError.failure message ≠ error :=
      fun message same => other ⟨message, same.symm⟩
    obtain ⟨_, _, _, enabled, size, _⟩ :=
      (Database.accept_error_iff unfailing (Bool.eq_false_of_not_eq_true harmful)).mp
        (SqliteTaskStore.run_write_error unfailing failed)
    have bound := event_size_le id request.correlationKey (show 0 < i64Bound by decide)
      (show TaskState.queued.validateDiagnostics = .ok () from rfl)
    have fits := room enabled
    omega
  start_error store clock command error room failed := by
    by_cases other : ∃ message, error = .failure message
    · exact .inr (.inr other)
    · have unfailing : ∀ message, StoreError.failure message ≠ error :=
        fun message same => other ⟨message, same.symm⟩
      have refused := SqliteTaskStore.run_write_error unfailing failed
      rcases Database.start_error unfailing (fun enabled row found =>
          room (row.storedTask command.id)
            (Database.get_encoded_task_eq_some.mpr ⟨row, found, rfl⟩) enabled) refused with
        lost | missing
      · exact .inl lost
      · exact .inr (.inl missing)
  transition_error store clock command error composed room failed := by
    by_cases other : ∃ message, error = .failure message
    · exact .inr (.inr other)
    · have unfailing : ∀ message, StoreError.failure message ≠ error :=
        fun message same => other ⟨message, same.symm⟩
      have refused := SqliteTaskStore.run_write_error unfailing failed
      have shown : ∀ row, store.database.tasks.lookup command.id = some row →
          TaskStore.getEncodedTask store command.id = some (row.storedTask command.id) :=
        fun row found => Database.get_encoded_task_eq_some.mpr ⟨row, found, rfl⟩
      rcases Database.transition_error composed unfailing
          (fun enabled row found => (room _ (shown row found)).1 enabled)
          (fun row found => (room _ (shown row found)).2) refused with
        lost | ⟨missing, absent⟩
      · exact .inl lost
      · refine .inr (.inl ⟨missing, ?_⟩)
        show (store.database.tasks.lookup command.id).map _ = none
        rw [absent]
        rfl
  ready_error store after limit now error fits moment position failed := by
    change store.database.listReadyQueued after limit now = .error error at failed
    have placed : Database.cursorColumn after "task cursor timestamp is too large" = .ok () := by
      unfold Database.cursorColumn
      split
      · rfl
      · exact (require_eq_ok _ _ _).mpr (position _ rfl)
    simp [Database.listReadyQueued, bind_eq_error, require_eq_error, fits, moment, placed] at failed
  deadline_error store now error moment failed := by
    change store.database.nextRetryDeadline now = .error error at failed
    simp [Database.nextRetryDeadline, bind_eq_error, require_eq_error, moment] at failed

end Sqlite

end TaskService.Store
