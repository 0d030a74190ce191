import TaskService.Store.StoreRuns

/-!
# Progress writes

A progress report is taken only while its attempt runs and only with a version newer than
the recorded one, and it writes nothing but the progress of one record.  A start is the only
other call that touches progress: it clears it together with the change of the attempt.
Both stores follow from one description of what a call does to attempt and progress.
-/

namespace TaskService.Store

open Library Model

structure ProgressWritten (before after : Records) (command : ProgressCommand)
    (task : StoredTask) (snapshot : TaskProgressSnapshot) : Prop where
  held : before command.id = some task
  running : task.summary.state = .running
  attempt : task.summary.attempt = command.expectedAttempt
  newer : ∀ current, task.summary.progress = some current →
    current.progressVersion < command.progressVersion
  ownAttempt : snapshot.attempt = command.expectedAttempt
  ownVersion : snapshot.progressVersion = command.progressVersion
  records : ∀ other, after other =
    if other = command.id then some (reportedTask snapshot task) else before other

/-- A store that checks its progress reports.  `Aligned` says that what the store compares a
report with is what its records show. -/
class ReportingStore (σ : Type) [TaskStore σ] where
  Aligned : σ → Prop
  withoutRecords : σ → σ
  progress_written : ∀ {store : σ} {command : ProgressCommand} {summary : TaskSummary},
    Aligned store → (TaskStore.updateProgress store command).2 = .ok summary →
    (∃ task snapshot, ProgressWritten (TaskStore.getEncodedTask store)
      (TaskStore.getEncodedTask (TaskStore.updateProgress store command).1) command task
        snapshot) ∧
      withoutRecords (TaskStore.updateProgress store command).1 = withoutRecords store
  progress_refused : ∀ (store : σ) (command : ProgressCommand) (error : StoreError),
    (TaskStore.updateProgress store command).2 = .error error →
    (TaskStore.updateProgress store command).1 = store

inductive ProgressStep : Option StoredTask → Option StoredTask → Prop
  | absent : ProgressStep none none
  | removed (task : StoredTask) : ProgressStep (some task) none
  | accepted (task : StoredTask) (silent : task.summary.progress = none) :
      ProgressStep none (some task)
  | carried (old new : StoredTask) (attempt : new.summary.attempt = old.summary.attempt)
      (progress : new.summary.progress = old.summary.progress) :
      ProgressStep (some old) (some new)
  | started (old new : StoredTask) (attempt : new.summary.attempt = old.summary.attempt + 1)
      (silent : new.summary.progress = none) : ProgressStep (some old) (some new)
  | reported (old new : StoredTask) (snapshot : TaskProgressSnapshot)
      (attempt : new.summary.attempt = old.summary.attempt)
      (progress : new.summary.progress = some snapshot)
      (own : snapshot.attempt = old.summary.attempt)
      (newer : ∀ current, old.summary.progress = some current →
        current.progressVersion < snapshot.progressVersion) :
      ProgressStep (some old) (some new)

namespace ProgressStep

theorem refl (record : Option StoredTask) : ProgressStep record record := by
  cases record with
  | none => exact .absent
  | some task => exact .carried task task rfl rfl

variable {after before : Option StoredTask}

theorem of_eq (same : after = before) :
    ProgressStep before after := by
  rw [same]
  exact refl _

theorem of_kept (kept : Kept before after) :
    ProgressStep before after := by
  rcases kept with same | ⟨gone, task, held, _⟩
  · exact of_eq same
  · rw [gone, held]
    exact .removed task

def Own (record : Option StoredTask) : Prop :=
  ∀ task snapshot, record = some task → task.summary.progress = some snapshot →
    snapshot.attempt = task.summary.attempt

theorem own (step : ProgressStep before after) (earlier : Own before) : Own after := by
  intro task snapshot found shown
  cases step with
  | absent | removed old => cases found
  | accepted new silent | started old new attempt silent =>
    cases found
    rw [silent] at shown
    cases shown
  | carried old new attempt progress =>
    cases found
    rw [attempt]
    exact earlier old snapshot rfl (progress.symm.trans shown)
  | reported old new written attempt progress own newer =>
    cases found
    cases progress.symm.trans shown
    exact own.trans attempt.symm

/-- A version has been reported for an attempt, or the attempt is over. -/
def Reported (attempt version : Nat) (task : StoredTask) : Prop :=
  attempt < task.summary.attempt ∨
    (task.summary.attempt = attempt ∧
      ∃ current, task.summary.progress = some current ∧ version ≤ current.progressVersion)

theorem reported_stays {attempt version : Nat} (step : ProgressStep before after)
    {old new : StoredTask} (held : before = some old) (found : after = some new)
    (known : Reported attempt version old) :
    Reported attempt version new := by
  cases step with
  | absent | accepted => cases held
  | removed task => cases found
  | carried first second sameAttempt progress =>
    cases held
    cases found
    unfold Reported
    rw [sameAttempt, progress]
    exact known
  | started =>
    cases held
    cases found
    have reached : attempt ≤ old.summary.attempt := by
      rcases known with passed | ⟨current, _⟩
      · omega
      · omega
    exact .inl (by omega)
  | reported first second snapshot sameAttempt progress own newer =>
    cases held
    cases found
    rcases known with passed | ⟨current, shown, recorded, least⟩
    · exact .inl (by omega)
    · have later := newer shown recorded
      exact .inr ⟨by omega, snapshot, progress, by omega⟩

end ProgressStep

section Calls

variable {σ : Type} [TaskStore σ] [LawfulStore σ]

open TaskStore LawfulStore ReportingStore

theorem start_progress_step {store : σ} (valid : Valid store) (clock : Clock)
    (command : StartCommand) (other : TaskId) :
    ProgressStep (getEncodedTask store other)
      (getEncodedTask (startEncoded store clock command).1 other) := by
  rcases (start_effect store clock command valid).record other with
    same | ⟨-, task, held, -, -, stored | stored⟩
  · exact .of_eq same
  · rw [held, stored]
    exact .started task _ rfl rfl
  · rw [held, stored]
    exact .carried task _ rfl rfl

theorem transition_progress_step {store : σ} (valid : Valid store) (clock : Clock)
    (command : TransitionCommand) (other : TaskId) :
    ProgressStep (getEncodedTask store other)
      (getEncodedTask (transitionEncoded store clock command).1 other) := by
  rcases (transition_effect store clock command valid).record other with
    kept | ⟨-, task, held, -, ⟨-, stored⟩ | ⟨-, -, gone⟩ | ⟨-, stored⟩⟩
  · exact .of_kept kept
  · rw [held, stored]
    exact .carried task _ rfl rfl
  · rw [held, gone]
    exact .removed task
  · rw [held, stored]
    exact .carried task _ rfl rfl

variable [ReportingStore σ]

omit [LawfulStore σ] in
theorem update_progress_step {store : σ} (aligned : Aligned store) (command : ProgressCommand)
    (other : TaskId) :
    ProgressStep (getEncodedTask store other)
      (getEncodedTask (updateProgress store command).1 other) := by
  cases answered : (updateProgress store command).2 with
  | error error =>
    rw [progress_refused store command error answered]
    exact .refl _
  | ok summary =>
    obtain ⟨⟨task, snapshot, written⟩, _⟩ := progress_written aligned answered
    rw [written.records other]
    split_ifs with same
    · subst same
      rw [written.held]
      refine .reported task _ snapshot rfl rfl ?_ ?_
      · exact written.ownAttempt.trans written.attempt.symm
      · intro current shown
        rw [written.ownVersion]
        exact written.newer current shown
    · exact .refl _

theorem call_progress_step {store : σ} (valid : Valid store) (aligned : Aligned store)
    (call : StoreCall) (other : TaskId) :
    ProgressStep (getEncodedTask store other) (getEncodedTask (call.run store).1 other) := by
  cases call with
  | accept clock id request =>
    rcases (accept_effect store clock id request valid).record other with
      kept | ⟨-, absent, stored⟩
    · exact .of_kept kept
    · simp only [StoreCall.run]
      rw [absent, stored]
      exact .accepted _ rfl
  | start clock command => exact start_progress_step valid clock command other
  | transition clock command => exact transition_progress_step valid clock command other
  | progress command => exact update_progress_step aligned command other
  | prune cutoff maxRows => exact .of_kept (prune_effect store cutoff maxRows valid other)

end Calls

/-- The laws of progress in one store: what the next report may do, how its version relates
to every later one of the same attempt, and whose progress a record shows. -/
structure ProgressLaws {σ Call : Type} [TaskStore σ] [ReportingStore σ]
    (step : σ → Call → Option σ) (lifecycle : StoreCall → Call) (store : σ) : Prop where
  isolated : ∀ command next summary,
    step store (lifecycle (.progress command)) = some next →
    (TaskStore.updateProgress store command).2 = .ok summary →
    (∃ task snapshot, TaskStore.getEncodedTask store command.id = some task ∧
      task.summary.state = .running ∧ task.summary.attempt = command.expectedAttempt ∧
      snapshot.attempt = command.expectedAttempt ∧
      snapshot.progressVersion = command.progressVersion ∧
      ∀ other, TaskStore.getEncodedTask next other =
        if other = command.id then
          some { task with summary := { task.summary with progress := some snapshot } }
        else TaskStore.getEncodedTask store other) ∧
      ReportingStore.withoutRecords next = ReportingStore.withoutRecords store
  increasing : ∀ first second next summary later final final' summary',
    second.id = first.id → second.expectedAttempt = first.expectedAttempt →
    step store (lifecycle (.progress first)) = some next →
    (TaskStore.updateProgress store first).2 = .ok summary →
    Guarded step
      (fun current _ => (TaskStore.getEncodedTask current first.id).isSome = true) next later →
    runActions step next later = some final →
    step final (lifecycle (.progress second)) = some final' →
    (TaskStore.updateProgress final second).2 = .ok summary' →
    first.progressVersion < second.progressVersion
  own : ∀ id task snapshot, TaskStore.getEncodedTask store id = some task →
    task.summary.progress = some snapshot → snapshot.attempt = task.summary.attempt

section Runs

variable {σ Call : Type} [TaskStore σ] [LawfulStore σ] [ReportingStore σ]
  {step : σ → Call → Option σ} {lifecycle : StoreCall → Call}

open TaskStore LawfulStore ReportingStore

structure Reporting (store : σ) : Prop where
  valid : Valid store
  aligned : Aligned store

section

variable {store : σ} (system : RecordSystem step lifecycle)
  (alignment : ∀ store call next, Aligned store → step store call = some next → Aligned next)
  (reporting : Reporting store)
include system alignment reporting

theorem RecordSystem.progress_step {next : σ} {call : Call} (taken : step store call = some next) :
    Reporting next ∧ ∀ id, ProgressStep (getEncodedTask store id) (getEncodedTask next id) := by
  have aligned := alignment store call next reporting.aligned taken
  rcases system.others store call next reporting.valid taken with
    ⟨inner, rfl⟩ | ⟨kept, unchanged⟩
  · rw [system.calls] at taken
    cases taken
    exact ⟨⟨call_valid reporting.valid inner, aligned⟩,
      call_progress_step reporting.valid reporting.aligned inner⟩
  · exact ⟨⟨kept, aligned⟩, fun id => .of_eq (unchanged id)⟩

theorem RecordSystem.progress_laws (own : ∀ id, ProgressStep.Own (getEncodedTask store id)) :
    ProgressLaws step lifecycle store := by
  refine ⟨?_, ?_, fun id task snapshot held shown => own id task snapshot held shown⟩
  · intro command next summary taken answered
    rw [system.calls] at taken
    cases taken
    obtain ⟨⟨task, snapshot, written⟩, rest⟩ := progress_written reporting.aligned answered
    exact ⟨⟨task, snapshot, written.held, written.running, written.attempt, written.ownAttempt,
      written.ownVersion, written.records⟩, rest⟩
  · intro first second next summary later final final' summary' sameId sameAttempt taken answered
      present reached _ answered'
    have stepped := (system.progress_step alignment reporting taken).1
    rw [system.calls] at taken
    cases taken
    obtain ⟨⟨task, snapshot, written⟩, _⟩ := progress_written reporting.aligned answered
    have shown : getEncodedTask (updateProgress store first).1 first.id =
        some (reportedTask snapshot task) := by
      rw [written.records, if_pos rfl]
    -- The second report succeeds, so its record is there at the end as well.
    have finalAligned : Aligned final := run_preserves (alignment _ _ _) stepped.aligned reached
    obtain ⟨⟨last, _, finalWritten⟩, _⟩ := progress_written finalAligned answered'
    have found : getEncodedTask final first.id = some last := sameId ▸ finalWritten.held
    have known : ProgressStep.Reported first.expectedAttempt first.progressVersion
        (reportedTask snapshot task) :=
      .inr ⟨written.attempt, snapshot, rfl, Nat.le_of_eq written.ownVersion.symm⟩
    have ended : ProgressStep.Reported first.expectedAttempt first.progressVersion last := by
      apply run_retained (fun store call next holds taken => ?_) present reached stepped shown
        found known
      obtain ⟨nextReporting, changes⟩ := system.progress_step alignment holds taken
      exact ⟨nextReporting, fun _ _ held found known =>
        (changes first.id).reported_stays held found known⟩
    rcases ended with passed | ⟨_, current, recorded, least⟩
    · have same := finalWritten.attempt
      omega
    · exact Nat.lt_of_le_of_lt least (finalWritten.newer current recorded)

end

variable {calls : List Call}

section

variable {initial : σ} (system : RecordSystem step lifecycle)
  (alignment : ∀ store call next, Aligned store → step store call = some next → Aligned next)
  (reporting : Reporting initial)
include system alignment reporting

theorem RecordSystem.run_reporting {final : σ}
    (reached : runActions step initial calls = some final) : Reporting final := by
  refine run_preserves ?_ reporting reached
  intro store call next held taken
  exact (system.progress_step alignment held taken).1

theorem RecordSystem.run_progress_laws {final : σ}
    (own : ∀ id, ProgressStep.Own (getEncodedTask initial id))
    (reached : runActions step initial calls = some final) : ProgressLaws step lifecycle final := by
  obtain ⟨finalReporting, finalOwn⟩ := @run_preserves _ _ step
    (fun store => Reporting store ∧ ∀ id, ProgressStep.Own (getEncodedTask store id))
    (by
      rintro store call next ⟨held, records⟩ taken
      obtain ⟨nextReporting, changes⟩ := system.progress_step alignment held taken
      exact ⟨nextReporting, fun id => (changes id).own (records id)⟩)
    _ _ _ ⟨reporting, own⟩ reached
  exact system.progress_laws alignment finalReporting finalOwn

end

end Runs

def MemoryTaskStore.withoutRecords (store : MemoryTaskStore) : MemoryTaskStore :=
  store.withState { store.state with encodedTasks := ∅ }

theorem MemoryTaskStore.update_progress_cases (store : MemoryTaskStore)
    (command : ProgressCommand) :
    (∃ error, store.updateProgress command = (store, .error error)) ∨
      ∃ task summary, store.updateProgress command =
        (store.withState (store.state.putSummary command.id task summary), .ok summary) := by
  unfold updateProgress
  split
  · exact .inl ⟨_, rfl⟩
  split
  · exact .inl ⟨_, rfl⟩
  split
  · exact .inl ⟨_, rfl⟩
  · exact .inr ⟨_, _, rfl⟩

/-- The memory store compares a report with the recorded snapshot itself. -/
instance : ReportingStore MemoryTaskStore where
  Aligned _ := True
  withoutRecords := MemoryTaskStore.withoutRecords
  progress_written {store command summary} _ answered := by
    obtain ⟨snapshot, taken, task, held, _, records⟩ :=
      MemoryTaskStore.progress_result answered
    obtain ⟨_, other, found, running, attempt, fresh⟩ :=
      (store.progress_succeeds_iff command).mp ⟨summary, answered⟩
    cases held.symm.trans found
    obtain ⟨sameAttempt, sameVersion⟩ := from_command_fields taken
    refine ⟨⟨task, snapshot, held, running, attempt, ?_, sameAttempt, sameVersion, records⟩, ?_⟩
    · intro current shown
      rw [shown] at fresh
      simpa [MemoryTaskStore.progressStale] using fresh
    · change (store.updateProgress command).2 = .ok summary at answered
      show (store.updateProgress command).1.withoutRecords = store.withoutRecords
      rcases store.update_progress_cases command with ⟨error, failed⟩ | ⟨_, _, done⟩
      · rw [failed] at answered
        cases answered
      · rw [done]
        rfl
  progress_refused store command error answered := by
    change (store.updateProgress command).2 = .error error at answered
    show (store.updateProgress command).1 = store
    rcases store.update_progress_cases command with ⟨_, failed⟩ | ⟨_, _, done⟩
    · rw [failed]
    · rw [done] at answered
      cases answered

def SqliteTaskStore.withoutRecords (store : SqliteTaskStore) : SqliteTaskStore :=
  { store with database := { store.database with tasks := ∅ } }

theorem TaskRow.Agrees.newer {row : TaskRow} (agrees : row.Agrees) {attempt version : Nat}
    (current : row.attempt = attempt)
    (later : Database.previousProgressVersion row attempt < version)
    {recorded : TaskProgressSnapshot} (shown : row.lifecycle.progress = some recorded) :
    recorded.progressVersion < version := by
  have own : recorded.attempt = attempt := by
    rw [agrees.progressOwn recorded shown, ← agrees.attempt, current]
  unfold Database.previousProgressVersion at later
  rw [agrees.progressAttempt, agrees.progressVersion, shown] at later
  simpa [own] using later

theorem Database.update_progress_rest {database written : Database} {command : ProgressCommand}
    {summary : TaskSummary} (updated : database.updateProgress command = .ok (written, summary)) :
    { written with tasks := ∅ } = { database with tasks := ∅ } := by
  simp only [updateProgress, bind_eq_ok] at updated
  obtain ⟨_, _, _, _, _, _, _, _, _, _, result⟩ := updated
  cases result
  rfl

/-- The SQLite store compares a report with the progress columns of the row. -/
instance [IdCodec] : ReportingStore SqliteTaskStore where
  Aligned store := store.database.RowsAgree
  withoutRecords := SqliteTaskStore.withoutRecords
  progress_written {store command summary} aligned answered := by
    change (store.updateProgress command).2 = .ok summary at answered
    obtain ⟨snapshot, taken, task, held, _, records⟩ := SqliteTaskStore.progress_result answered
    obtain ⟨row, found, rfl⟩ := Database.get_encoded_task_eq_some.mp held
    have agrees := aligned command.id row found
    obtain ⟨sameAttempt, sameVersion⟩ := from_command_fields taken
    rcases store.run_write_cases fun database => database.updateProgress command with
      ⟨error, failed, _⟩ | ⟨database, value, updated, committed⟩
    · change store.updateProgress command = _ at failed
      rw [failed] at answered
      cases answered
    obtain ⟨_, other, same, kind, current, later, _⟩ :=
      Database.progress_succeeds_iff.mp ⟨database, value, updated⟩
    cases found.symm.trans same
    refine ⟨⟨row.storedTask command.id, snapshot, held,
      (TaskState.kind_running_iff _).mp (agrees.kind.symm.trans kind),
      agrees.attempt.symm.trans current, ?_, sameAttempt, sameVersion, records⟩, ?_⟩
    · intro recorded shown
      exact agrees.newer current later shown
    · change store.updateProgress command = _ at committed
      show (store.updateProgress command).1.withoutRecords = store.withoutRecords
      rw [committed]
      exact congrArg (fun rest => { store with database := rest })
        (Database.update_progress_rest updated)
  progress_refused store command error answered := by
    change (store.updateProgress command).2 = .error error at answered
    show (store.updateProgress command).1 = store
    unfold SqliteTaskStore.updateProgress at answered ⊢
    rcases store.run_write_cases fun database => database.updateProgress command with
      ⟨_, failed, _⟩ | ⟨_, _, _, committed⟩
    · rw [failed]
    · rw [committed] at answered
      cases answered

theorem with_limits_reporting (historyCapacity maxPayloadBytes maxUnfinishedRecords : Nat) :
    Reporting
      (MemoryTaskStore.withLimits historyCapacity maxPayloadBytes maxUnfinishedRecords) :=
  ⟨with_limits_valid _ _ _, trivial⟩

theorem opened_reporting [IdCodec] : Reporting (SqliteTaskStore.opened Database.empty) := by
  refine ⟨⟨(fun id row found => by cases found), (fun event member => by cases member)⟩, ?_⟩
  intro id row found
  cases found

theorem sqlite_alignment [IdCodec] (store : SqliteTaskStore) (call : SqliteCall)
    (next : SqliteTaskStore) (aligned : ReportingStore.Aligned store)
    (taken : sqliteStep store call = some next) : ReportingStore.Aligned next := by
  cases taken
  exact call_rows_agree aligned call

/-- Whatever calls a new store of either kind has seen, a report that succeeds changes the
progress of one record of the running attempt it names and nothing else, its version exceeds
that of every earlier successful report of that attempt, and recorded progress belongs to the
record's attempt. -/
theorem progress_writes_monotone [IdCodec] :
    (∀ historyCapacity maxPayloadBytes maxUnfinishedRecords calls final,
      runActions memoryStep
        (MemoryTaskStore.withLimits historyCapacity maxPayloadBytes maxUnfinishedRecords) calls =
          some final →
      ProgressLaws memoryStep MemoryCall.lifecycle final) ∧
    ∀ calls final,
      runActions sqliteStep (SqliteTaskStore.opened Database.empty) calls = some final →
      ProgressLaws sqliteStep SqliteCall.lifecycle final := by
  refine ⟨?_, ?_⟩
  · intro historyCapacity maxPayloadBytes maxUnfinishedRecords calls final reached
    refine memory_record_system.run_progress_laws (fun _ _ _ _ _ => trivial)
      (with_limits_reporting _ _ _) ?_ reached
    intro id task snapshot found
    cases found
  · intro calls final reached
    refine sqlite_record_system.run_progress_laws sqlite_alignment opened_reporting ?_ reached
    intro id task snapshot found
    cases found

def sampleRunning : List MemoryCall :=
  [.lifecycle (.accept sampleClock { value := 1 } (sampleStored none [])),
    .lifecycle (sampleStarting 1 0)]

/-- A running task whose second report succeeds after a stale one. -/
theorem progress_writes_monotone_sample :
    ∃ final, runActions memoryStep (MemoryTaskStore.withLimits 4 64 4)
        (sampleRunning ++ [.lifecycle (.progress (sampleReport 1 2)),
          .lifecycle (.progress (sampleReport 1 1)),
          .lifecycle (.progress (sampleReport 1 3))]) = some final ∧
      ((final.getEncodedTask { value := 1 }).bind fun task =>
        task.summary.progress.map TaskProgressSnapshot.progressVersion) = some 3 ∧
      ProgressLaws memoryStep MemoryCall.lifecycle final :=
  run_shows (by decide +kernel) fun final reached _ =>
    (@progress_writes_monotone sampleIdCodec).1 4 64 4 _ final reached

/-- Without room for history the record of an ended task is dropped.  The id is accepted again,
and its first attempt reports version 1 after version 5. -/
theorem progress_version_restarts :
    ∃ middle, runActions memoryStep (MemoryTaskStore.withLimits 0 64 4) sampleRunning =
        some middle ∧
      (middle.updateProgress (sampleReport 1 5)).2.isOk = true ∧
      (runActions memoryStep middle
        ([.lifecycle (.progress (sampleReport 1 5)),
          .lifecycle (sampleMove 1 1 1 .succeeded)] ++ sampleRunning)).any
        (fun final => (final.updateProgress (sampleReport 1 1)).2.isOk) = true :=
  run_reaching (by decide +kernel)

end TaskService.Store
