import TaskService.Store.ProgressWrites
import TaskService.Store.Revisions

/-!
# The progress reporter of one attempt

Reports of one attempt share a reporter.  A report takes the version mutex, hands the next
version to the store and advances the reporter once the store has answered.  The store write
runs on a worker of its own, so it may outlive the future that asked for it: a future dropped
at the wrong moment leaves the store one version ahead of the reporter, and from then on every
report of the attempt is refused.  As long as no write commits behind a dropped future the
reporter stays ahead of the store.
-/

namespace TaskService.Service

open Library Model Store

structure ProgressEvent where
  stage : Option ProgressStageSnapshot
  metrics : List ProgressMetricSnapshot
  deriving DecidableEq, Repr

inductive ReporterError where
  | message (text : String)
  | store (error : StoreError)
  deriving DecidableEq, Repr

structure TaskProgressReporter where
  id : TaskId
  attempt : Nat
  progressVersion : Nat
  deriving DecidableEq, Repr

namespace TaskProgressReporter

def new (id : TaskId) (attempt : Nat) : TaskProgressReporter :=
  { id := id, attempt := attempt, progressVersion := 0 }

def command (reporter : TaskProgressReporter) (version : Nat) (event : ProgressEvent)
    (now : Nat) : ProgressCommand :=
  { id := reporter.id
    expectedAttempt := reporter.attempt
    progressVersion := version
    stage := event.stage
    metrics := event.metrics
    updatedAtMs := now }

end TaskProgressReporter

/-- The report whose future holds the mutex guard, with the store's answer once its write has
been executed. -/
structure GuardedReport where
  command : ProgressCommand
  answer : Option (Except StoreError TaskSummary)

/-- A reporter in use: the futures waiting for the mutex, the one that holds it, the writes
whose futures are gone, and what the finished reports have returned. -/
structure ReporterState (σ : Type) where
  store : σ
  reporter : TaskProgressReporter
  waiting : List ProgressEvent
  holder : Option GuardedReport
  detached : List ProgressCommand
  returned : List (Except ReporterError Unit)

inductive ReporterAction (Call : Type) where
  | report (event : ProgressEvent)
  | lock (index now : Nat)
  | write
  | writeFails (error : StoreError)
  | resume
  | dropWaiting (index : Nat)
  | dropHolder (survives : Bool)
  | writeDetached (index : Nat)
  | other (call : Call)

namespace ReporterState

variable {σ Call : Type} [TaskStore σ]

def start (store : σ) (id : TaskId) (attempt : Nat) : ReporterState σ :=
  { store := store
    reporter := .new id attempt
    waiting := []
    holder := none
    detached := []
    returned := [] }

def allocate (state : ReporterState σ) (event : ProgressEvent) (now : Nat) : ReporterState σ :=
  match checkedAdd u64Bound state.reporter.progressVersion 1 with
  | none =>
      { state with
        returned := state.returned ++ [.error (.message "task progress version overflowed")] }
  | some version =>
      { state with
        holder := some { command := state.reporter.command version event now, answer := none } }

def finish (state : ReporterState σ) (command : ProgressCommand) :
    Except StoreError TaskSummary → ReporterState σ
  | .ok _ =>
      { state with
        reporter := { state.reporter with progressVersion := command.progressVersion }
        holder := none
        returned := state.returned ++ [.ok ()] }
  | .error error =>
      { state with
        holder := none
        returned := state.returned ++ [.error (.store error)] }

/-- Dropping the holder releases the mutex.  A write that has not been executed yet goes on
alone if it has already been handed to a worker. -/
def dropHolder (state : ReporterState σ) (held : GuardedReport) (survives : Bool) :
    ReporterState σ :=
  { state with
    holder := none
    detached :=
      if held.answer = none ∧ survives = true then state.detached ++ [held.command]
      else state.detached }

def step (call : σ → Call → Option σ) (state : ReporterState σ) :
    ReporterAction Call → Option (ReporterState σ)
  | .report event => some { state with waiting := state.waiting ++ [event] }
  | .lock index now =>
      match state.holder, state.waiting[index]? with
      | none, some event =>
          some ({ state with waiting := state.waiting.eraseIdx index }.allocate event now)
      | _, _ => none
  | .write =>
      match state.holder with
      | some ⟨command, none⟩ =>
          some { state with
            store := (TaskStore.updateProgress state.store command).1
            holder := some ⟨command, some (TaskStore.updateProgress state.store command).2⟩ }
      | _ => none
  | .writeFails error =>
      match state.holder with
      | some ⟨command, none⟩ =>
          some { state with holder := some ⟨command, some (.error error)⟩ }
      | _ => none
  | .resume =>
      match state.holder with
      | some ⟨command, some answer⟩ => some (state.finish command answer)
      | _ => none
  | .dropWaiting index =>
      if index < state.waiting.length then
        some { state with waiting := state.waiting.eraseIdx index }
      else none
  | .dropHolder survives => state.holder.map fun held => state.dropHolder held survives
  | .writeDetached index =>
      (state.detached[index]?).map fun command =>
        { state with
          store := (TaskStore.updateProgress state.store command).1
          detached := state.detached.eraseIdx index }
  | .other action => (call state.store action).map fun store => { state with store := store }

def Quiet (state : ReporterState σ) : Prop :=
  state.waiting.isEmpty = true ∧ state.holder.isNone = true ∧ state.detached.isEmpty = true

instance (state : ReporterState σ) : Decidable state.Quiet :=
  inferInstanceAs (Decidable (_ = true ∧ _ = true ∧ _ = true))

def record (state : ReporterState σ) : Option StoredTask :=
  TaskStore.getEncodedTask state.store state.reporter.id

end ReporterState

def RunsAttempt (attempt : Nat) (summary : TaskSummary) : Prop :=
  summary.state = .running ∧ summary.attempt = attempt

instance (attempt : Nat) : DecidablePred (RunsAttempt attempt) :=
  fun _ => inferInstanceAs (Decidable (_ ∧ _))

def ReportedUpTo (version : Nat) (summary : TaskSummary) : Prop :=
  ∀ snapshot ∈ summary.progress, snapshot.progressVersion ≤ version

instance (version : Nat) : DecidablePred (ReportedUpTo version) :=
  fun summary => inferInstanceAs (Decidable (∀ snapshot ∈ summary.progress, _ ≤ _))

def AlreadyReported (version : Nat) (summary : TaskSummary) : Prop :=
  ∃ snapshot ∈ summary.progress, version ≤ snapshot.progressVersion

instance (version : Nat) : DecidablePred (AlreadyReported version) :=
  fun summary => inferInstanceAs (Decidable (∃ snapshot ∈ summary.progress, _ ≤ _))

namespace ReporterState

section Reporter

variable {σ Call : Type} [TaskStore σ]

def Alone (lifecycle : StoreCall → Call) (state : ReporterState σ)
    (action : ReporterAction Call) : Prop :=
  Present (RunsAttempt state.reporter.attempt) state.record ∧
    ∀ command, action = .other (lifecycle (.progress command)) →
      command.id = state.reporter.id → command.expectedAttempt ≠ state.reporter.attempt

/-- The version a successful write of the holder has put the store ahead by. -/
def committed (state : ReporterState σ) : Nat :=
  match state.holder with
  | some ⟨_, some (.ok _)⟩ => 1
  | _ => 0

/-- No write commits behind a dropped future: a future whose write has succeeded is not
dropped, and the write of a dropped future comes too late. -/
def DropsUnwritten (state : ReporterState σ) : ReporterAction Call → Prop
  | .dropHolder _ => state.committed = 0
  | .writeDetached index =>
      ∀ command ∈ state.detached[index]?,
        Present (AlreadyReported command.progressVersion) state.record
  | _ => True

instance (state : ReporterState σ) (action : ReporterAction Call) :
    Decidable (state.DropsUnwritten action) :=
  match action with
  | .dropHolder _ => inferInstanceAs (Decidable (_ = 0))
  | .writeDetached _ => inferInstanceAs (Decidable (∀ command ∈ _, Present _ _))
  | .report _ | .lock _ _ | .write | .writeFails _ | .resume | .dropWaiting _ | .other _ =>
      isTrue trivial

def Own (state : ReporterState σ) (command : ProgressCommand) : Prop :=
  command.id = state.reporter.id ∧ command.expectedAttempt = state.reporter.attempt

structure InStep [LawfulStore σ] [ReportingStore σ] (state : ReporterState σ) : Prop where
  reporting : Reporting state.store
  held : ∀ held, state.holder = some held → state.Own held.command ∧
    held.command.progressVersion = state.reporter.progressVersion + 1
  late : ∀ command ∈ state.detached, state.Own command
  recorded : Holds (ReportedUpTo (state.reporter.progressVersion + state.committed)) state.record

end Reporter

section Steps

variable {σ Call : Type} [TaskStore σ] [LawfulStore σ] [ReportingStore σ]

open TaskStore LawfulStore ReportingStore

variable {command : ProgressCommand} {id : TaskId} {version attempt : Nat} {summary : TaskSummary}
  {state : ReporterState σ}

omit [LawfulStore σ] in
/-- A write for another record, or one the store refuses, shows no newer progress. -/
theorem foreign_write_recorded {store : σ} (aligned : Aligned store)
    (foreign : command.id = id → ∀ summary, (updateProgress store command).2 ≠ .ok summary)
    (recorded : Holds (ReportedUpTo version) (getEncodedTask store id)) :
    Holds (ReportedUpTo version) (getEncodedTask (updateProgress store command).1 id) := by
  cases answered : (updateProgress store command).2 with
  | error error =>
    rw [progress_refused store command error answered]
    exact recorded
  | ok summary =>
    obtain ⟨⟨task, snapshot, written⟩, _⟩ := progress_written aligned answered
    have different : id ≠ command.id := by
      intro same
      exact foreign same.symm summary answered
    apply recorded.of_eq
    rw [written.records, if_neg different]

omit [LawfulStore σ] in
theorem own_write_recorded {store : σ} (aligned : Aligned store)
    (answered : (updateProgress store command).2 = .ok summary) :
    Holds (ReportedUpTo command.progressVersion)
      (getEncodedTask (updateProgress store command).1 command.id) := by
  obtain ⟨⟨task, snapshot, written⟩, _⟩ := progress_written aligned answered
  intro later found current shown
  rw [written.records, if_pos rfl] at found
  cases found
  cases shown
  exact Nat.le_of_eq written.ownVersion

theorem call_recorded {store : σ} (reporting : Reporting store) {call : StoreCall}
    (foreign : ∀ command, call = .progress command → command.id = id →
      ∀ summary, (updateProgress store command).2 ≠ .ok summary)
    (recorded : Holds (ReportedUpTo version) (getEncodedTask store id)) :
    Holds (ReportedUpTo version) (getEncodedTask (call.run store).1 id) := by
  have silent : ∀ summary : TaskSummary, summary.progress = none →
      ReportedUpTo version summary := by
    intro summary none snapshot shown
    rw [none] at shown
    cases shown
  cases call with
  | accept clock given request =>
    have effect := accept_effect store clock given request reporting.valid
    by_cases same : id = given
    · subst same
      exact recorded.accept_born (silent _ rfl) effect
    · exact recorded.accept same effect
  | start clock command =>
    apply recorded.start (start_effect store clock command reporting.valid)
    intro _ task held _ _
    exact ⟨silent _ rfl, recorded task held⟩
  | transition clock command =>
    apply recorded.transition (transition_effect store clock command reporting.valid)
    intro _ task held _
    exact ⟨fun _ => recorded task held, fun _ => recorded task held⟩
  | progress command =>
    exact foreign_write_recorded reporting.aligned (foreign command rfl) recorded
  | prune cutoff maxRows =>
    exact recorded.kept (prune_effect store cutoff maxRows reporting.valid id)

omit [LawfulStore σ] in
theorem other_attempt_refused {store : σ} (aligned : Aligned store)
    (running : Present (RunsAttempt attempt) (getEncodedTask store command.id))
    (different : command.expectedAttempt ≠ attempt) (summary : TaskSummary) :
    (updateProgress store command).2 ≠ .ok summary := by
  intro answered
  obtain ⟨⟨task, snapshot, written⟩, _⟩ := progress_written aligned answered
  obtain ⟨found, held, _, current⟩ := running
  cases held.symm.trans written.held
  exact different (written.attempt.symm.trans current)

omit [LawfulStore σ] in
theorem late_write_refused {store : σ} (aligned : Aligned store)
    (reported : Present (AlreadyReported command.progressVersion)
      (getEncodedTask store command.id)) (summary : TaskSummary) :
    (updateProgress store command).2 ≠ .ok summary := by
  intro answered
  obtain ⟨⟨task, snapshot, written⟩, _⟩ := progress_written aligned answered
  obtain ⟨found, held, current, shown, newer⟩ := reported
  cases held.symm.trans written.held
  have older := written.newer current shown
  omega

variable {call : σ → Call → Option σ} {lifecycle : StoreCall → Call}

section

variable {state : ReporterState σ} (inStep : state.InStep)
include inStep

theorem allocate_in_step (free : state.holder = none) (event : ProgressEvent) (now : Nat) :
    (state.allocate event now).InStep := by
  have uncommitted : state.committed = 0 := by
    simp [committed, free]
  have recorded := inStep.recorded
  rw [uncommitted] at recorded
  unfold allocate
  split
  · exact ⟨inStep.reporting, inStep.held, inStep.late, inStep.recorded⟩
  · rename_i version next
    obtain ⟨_, rfl⟩ := checked_add_eq_some.mp next
    refine ⟨inStep.reporting, ?_, inStep.late, recorded⟩
    intro held same
    cases same
    exact ⟨⟨rfl, rfl⟩, rfl⟩

variable {command : ProgressCommand}

/-- The holder's write leaves the store at most the one version ahead that it brings. -/
theorem write_in_step (holding : state.holder = some ⟨command, none⟩)
    (reporting : Reporting (updateProgress state.store command).1) :
    InStep { state with
      store := (updateProgress state.store command).1
      holder := some ⟨command, some (updateProgress state.store command).2⟩ } := by
  obtain ⟨own, version⟩ := inStep.held _ holding
  refine ⟨reporting, ?_, inStep.late, ?_⟩
  · intro held same
    cases same
    exact ⟨own, version⟩
  · have recorded := inStep.recorded
    cases answered : (updateProgress state.store command).2 with
    | ok summary =>
      have shown := own_write_recorded inStep.reporting.aligned answered
      rw [own.1, version] at shown
      exact shown
    | error error =>
      rw [progress_refused state.store command error answered]
      simp only [committed, holding] at recorded
      exact recorded

theorem finish_in_step {answer : Except StoreError TaskSummary}
    (holding : state.holder = some ⟨command, some answer⟩) :
    (state.finish command answer).InStep := by
  obtain ⟨_, version⟩ := inStep.held _ holding
  have recorded := inStep.recorded
  cases answer with
  | ok summary =>
    refine ⟨inStep.reporting, (fun held same => by cases same), inStep.late, ?_⟩
    simp only [committed, holding] at recorded
    rw [← version] at recorded
    exact recorded
  | error error =>
    refine ⟨inStep.reporting, (fun held same => by cases same), inStep.late, ?_⟩
    simp only [committed, holding] at recorded
    exact recorded

theorem drop_in_step {held : GuardedReport} (holding : state.holder = some held)
    (uncommitted : state.committed = 0) (survives : Bool) :
    (state.dropHolder held survives).InStep := by
  refine ⟨inStep.reporting, (fun other same => by cases same), ?_, ?_⟩
  · intro command member
    simp only [dropHolder] at member
    split_ifs at member
    · rcases List.mem_append.mp member with earlier | last
      · exact inStep.late command earlier
      · cases List.mem_singleton.mp last
        exact (inStep.held held holding).1
    · exact inStep.late command member
  · have recorded := inStep.recorded
    rw [uncommitted] at recorded
    exact recorded

theorem store_in_step {store : σ} (reporting : Reporting store) {detached : List ProgressCommand}
    (fewer : ∀ command ∈ detached, command ∈ state.detached)
    (recorded : ∀ version, Holds (ReportedUpTo version) state.record →
      Holds (ReportedUpTo version) (getEncodedTask store state.reporter.id)) :
    InStep { state with store := store, detached := detached } :=
  ⟨reporting, inStep.held, fun command member => inStep.late command (fewer command member),
    recorded _ inStep.recorded⟩

end

theorem step_in_step (system : RecordSystem call lifecycle)
    (alignment : ∀ store action next, Aligned store → call store action = some next →
      Aligned next) {next : ReporterState σ} {action : ReporterAction Call} (inStep : state.InStep)
    (alone : state.Alone lifecycle action) (unwritten : state.DropsUnwritten action)
    (taken : step call state action = some next) : next.InStep := by
  have written : ∀ command, Reporting (updateProgress state.store command).1 := by
    intro command
    have moved := system.calls state.store (.progress command)
    exact ⟨call_valid inStep.reporting.valid (.progress command),
      alignment _ _ _ inStep.reporting.aligned moved⟩
  cases action with
  | report event =>
    cases taken
    exact ⟨inStep.reporting, inStep.held, inStep.late, inStep.recorded⟩
  | lock index now =>
    simp only [step] at taken
    split at taken
    · rename_i event free _
      cases taken
      have idle : InStep { state with waiting := state.waiting.eraseIdx index } :=
        ⟨inStep.reporting, inStep.held, inStep.late, inStep.recorded⟩
      exact allocate_in_step idle free event now
    · cases taken
  | write =>
    simp only [step] at taken
    split at taken
    · rename_i command holding
      cases taken
      exact write_in_step inStep holding (written command)
    · cases taken
  | writeFails error =>
    simp only [step] at taken
    split at taken
    · rename_i command holding
      cases taken
      refine ⟨inStep.reporting, ?_, inStep.late, ?_⟩
      · intro held same
        cases same
        exact inStep.held ⟨command, none⟩ holding
      · have recorded := inStep.recorded
        simp only [committed, holding] at recorded
        exact recorded
    · cases taken
  | resume =>
    simp only [step] at taken
    split at taken
    · rename_i command answer holding
      cases taken
      exact finish_in_step inStep holding
    · cases taken
  | dropWaiting index =>
    simp only [step] at taken
    split at taken
    · cases taken
      exact ⟨inStep.reporting, inStep.held, inStep.late, inStep.recorded⟩
    · cases taken
  | dropHolder survives =>
    obtain ⟨held, holding, rfl⟩ := Option.map_eq_some_iff.mp taken
    exact drop_in_step inStep holding unwritten survives
  | writeDetached index =>
    obtain ⟨command, pending, rfl⟩ := Option.map_eq_some_iff.mp taken
    have own := inStep.late command (List.mem_of_getElem? pending)
    apply store_in_step inStep (written command)
    · intro other member
      exact List.mem_of_mem_eraseIdx member
    · intro version recorded
      apply foreign_write_recorded inStep.reporting.aligned _ recorded
      intro same
      apply late_write_refused inStep.reporting.aligned
      rw [same]
      exact unwritten command pending
  | other action =>
    obtain ⟨store, moved, rfl⟩ := Option.map_eq_some_iff.mp taken
    have reporting := (system.progress_step alignment inStep.reporting moved).1
    refine store_in_step inStep reporting (fun _ member => member) ?_
    intro version recorded
    rcases system.others state.store action store inStep.reporting.valid moved with
      ⟨inner, rfl⟩ | ⟨_, unchanged⟩
    · rw [system.calls] at moved
      cases moved
      apply call_recorded inStep.reporting _ recorded
      rintro command rfl same
      apply other_attempt_refused inStep.reporting.aligned _ (alone.2 command rfl same)
      rw [same]
      exact alone.1
    · exact recorded.of_eq (unchanged _)

/-- The next version is newer than the recorded progress, and a report that is not dropped
and that the store has no other reason to refuse succeeds. -/
structure Unwedged (call : σ → Call → Option σ) (Accepts : σ → ProgressCommand → Prop)
    (state : ReporterState σ) : Prop where
  ahead : ∀ task snapshot, state.record = some task → task.summary.progress = some snapshot →
    snapshot.progressVersion < state.reporter.progressVersion + 1
  succeeds : ∀ event now, state.reporter.progressVersion + 1 < u64Bound →
    Accepts state.store
      (state.reporter.command (state.reporter.progressVersion + 1) event now) →
    ∃ next, runActions (step call) state [.report event, .lock 0 now, .write, .resume] =
      some next ∧ next.returned = state.returned ++ [.ok ()]

omit [LawfulStore σ] [ReportingStore σ] in
/-- A report that nobody disturbs takes the version after the reporter's to the store. -/
theorem undisturbed_report (quiet : state.Quiet) (event : ProgressEvent) (now : Nat)
    (room : state.reporter.progressVersion + 1 < u64Bound)
    (answered : (updateProgress state.store (state.reporter.command
      (state.reporter.progressVersion + 1) event now)).2 = .ok summary) :
    ∃ next, runActions (step call) state [.report event, .lock 0 now, .write, .resume] =
      some next ∧ next.returned = state.returned ++ [.ok ()] := by
  obtain ⟨waiting, holder, _⟩ := quiet
  have idle := List.isEmpty_iff.mp waiting
  have free := Option.isNone_iff_eq_none.mp holder
  have next : checkedAdd u64Bound state.reporter.progressVersion 1 =
      some (state.reporter.progressVersion + 1) := checked_add_eq_some.mpr ⟨room, rfl⟩
  simp only [runActions, step, free, idle, List.nil_append, List.getElem?_cons_zero, allocate,
    next, answered, finish]
  exact ⟨_, rfl, rfl⟩

theorem run_unwedged (system : RecordSystem call lifecycle)
    (alignment : ∀ store action next, Aligned store → call store action = some next →
      Aligned next) {Accepts : σ → ProgressCommand → Prop}
    (accepts : ∀ store command version, Aligned store → Accepts store command →
      Present (RunsAttempt command.expectedAttempt) (getEncodedTask store command.id) →
      Holds (ReportedUpTo version) (getEncodedTask store command.id) →
      version < command.progressVersion →
      ∃ summary, (updateProgress store command).2 = .ok summary) {store : σ}
    (reporting : Reporting store) (silent : Holds (ReportedUpTo 0) (getEncodedTask store id))
    {actions : List (ReporterAction Call)} {final : ReporterState σ} (guarded : Guarded (step call)
      (fun state action => state.Alone lifecycle action ∧ state.DropsUnwritten action)
      (.start store id attempt) actions)
    (reached : runActions (step call) (.start store id attempt) actions = some final)
    (running : Present (RunsAttempt final.reporter.attempt) final.record) (quiet : final.Quiet) :
    Unwedged call Accepts final := by
  have initial : (start store id attempt).InStep :=
    ⟨reporting, (fun held same => by cases same), (fun command member => by cases member), silent⟩
  have inStep : final.InStep := by
    refine run_invariant ?_ initial guarded reached
    intro state action next allowed inStep taken
    exact step_in_step system alignment inStep allowed.1 allowed.2 taken
  have uncommitted : final.committed = 0 := by
    simp [committed, Option.isNone_iff_eq_none.mp quiet.2.1]
  have recorded := inStep.recorded
  rw [uncommitted] at recorded
  refine ⟨?_, ?_⟩
  · intro task snapshot found shown
    exact Nat.lt_succ_of_le (recorded task found snapshot shown)
  · intro event now room acceptable
    obtain ⟨summary, answered⟩ := accepts final.store _ final.reporter.progressVersion
      inStep.reporting.aligned acceptable running recorded (Nat.lt_succ_self _)
    exact undisturbed_report quiet event now room answered

end Steps

end ReporterState

/-- The memory store takes every newer report within the snapshot limits. -/
def MemoryAccepts (_ : MemoryTaskStore) (command : ProgressCommand) : Prop :=
  ∃ snapshot, TaskProgressSnapshot.fromCommand command = .ok snapshot

/-- The SQLite store also needs its lock and a version its column can hold. -/
def SqliteAccepts (store : SqliteTaskStore) (command : ProgressCommand) : Prop :=
  (∃ snapshot, TaskProgressSnapshot.fromCommand command = .ok snapshot) ∧
    store.lockHeld = true ∧ command.progressVersion < i64Bound

theorem ReportedUpTo.not_stale {version later : Nat} {summary : TaskSummary}
    (recorded : ReportedUpTo version summary) (newer : version < later) :
    MemoryTaskStore.progressStale summary.progress later = false := by
  unfold MemoryTaskStore.progressStale
  split
  · rfl
  · rename_i snapshot shown
    have bound := recorded snapshot shown
    simp only [ge_iff_le, decide_eq_false_iff_not]
    omega

theorem memory_accepts_report (store : MemoryTaskStore) (command : ProgressCommand)
    (version : Nat) (acceptable : MemoryAccepts store command)
    (running : Present (RunsAttempt command.expectedAttempt) (store.getEncodedTask command.id))
    (recorded : Holds (ReportedUpTo version) (store.getEncodedTask command.id))
    (newer : version < command.progressVersion) :
    ∃ summary, (store.updateProgress command).2 = .ok summary := by
  obtain ⟨task, held, state, attempt⟩ := running
  refine (store.progress_succeeds_iff command).mpr ⟨acceptable, task, held, state, attempt, ?_⟩
  exact (recorded task held).not_stale newer

theorem sqlite_accepts_report [IdCodec] (store : SqliteTaskStore) (command : ProgressCommand)
    (version : Nat) (aligned : store.database.RowsAgree) (acceptable : SqliteAccepts store command)
    (running : Present (RunsAttempt command.expectedAttempt) (store.getEncodedTask command.id))
    (recorded : Holds (ReportedUpTo version) (store.getEncodedTask command.id))
    (newer : version < command.progressVersion) :
    ∃ summary, (store.updateProgress command).2 = .ok summary := by
  obtain ⟨snapshot, locked, fits⟩ := acceptable
  obtain ⟨task, held, state, attempt⟩ := running
  obtain ⟨row, found, rfl⟩ := Database.get_encoded_task_eq_some.mp held
  have agrees := aligned command.id row found
  have current := agrees.attempt.trans attempt
  apply (SqliteTaskStore.run_write_succeeds_iff locked _).mpr
  refine Database.progress_succeeds_iff.mpr ⟨snapshot, row, found, ?_, current, ?_, fits⟩
  · rw [agrees.kind]
    exact (TaskState.kind_running_iff _).mpr state
  · apply (stale_iff agrees current _).mp ((recorded _ held).not_stale newer)
    intro zero
    omega

def JustStarted (attempt : Nat) (summary : TaskSummary) : Prop :=
  RunsAttempt attempt summary ∧ summary.progress = none

instance (attempt : Nat) : DecidablePred (JustStarted attempt) :=
  fun _ => inferInstanceAs (Decidable (_ ∧ _))

theorem JustStarted.silent {attempt : Nat} {record : Option StoredTask}
    (started : Present (JustStarted attempt) record) : Holds (ReportedUpTo 0) record := by
  obtain ⟨task, held, _, none⟩ := started
  intro other found snapshot shown
  cases held.symm.trans found
  rw [none] at shown
  cases shown

/-- A reporter that alone reports for a running attempt stays ahead of the store as long as
no write commits behind a dropped future; over either store, whatever it has seen before. -/
theorem reporter_stays_unwedged [IdCodec] :
    (∀ historyCapacity maxPayloadBytes maxUnfinishedRecords calls store id attempt actions final,
      runActions memoryStep
        (MemoryTaskStore.withLimits historyCapacity maxPayloadBytes maxUnfinishedRecords) calls =
          some store →
      Present (JustStarted attempt) (store.getEncodedTask id) →
      Guarded (ReporterState.step memoryStep)
        (fun state action => state.Alone MemoryCall.lifecycle action ∧
          state.DropsUnwritten action) (.start store id attempt) actions →
      runActions (ReporterState.step memoryStep) (.start store id attempt) actions = some final →
      Present (RunsAttempt final.reporter.attempt) final.record → final.Quiet →
      final.Unwedged memoryStep MemoryAccepts) ∧
    ∀ calls store id attempt actions final,
      runActions sqliteStep (SqliteTaskStore.opened Database.empty) calls = some store →
      Present (JustStarted attempt) (store.getEncodedTask id) →
      Guarded (ReporterState.step sqliteStep)
        (fun state action => state.Alone SqliteCall.lifecycle action ∧
          state.DropsUnwritten action) (.start store id attempt) actions →
      runActions (ReporterState.step sqliteStep) (.start store id attempt) actions = some final →
      Present (RunsAttempt final.reporter.attempt) final.record → final.Quiet →
      final.Unwedged sqliteStep SqliteAccepts := by
  refine ⟨?_, ?_⟩
  · intro historyCapacity maxPayloadBytes maxUnfinishedRecords calls store id attempt actions final
      stored started guarded reached running quiet
    have reporting := memory_record_system.run_reporting (fun _ _ _ _ _ => trivial)
      (with_limits_reporting _ _ _) stored
    exact ReporterState.run_unwedged memory_record_system (fun _ _ _ _ _ => trivial)
      (fun store command version _ => memory_accepts_report store command version) reporting
      (JustStarted.silent started) guarded reached running quiet
  · intro calls store id attempt actions final stored started guarded reached running quiet
    have reporting := sqlite_record_system.run_reporting sqlite_alignment opened_reporting stored
    exact ReporterState.run_unwedged sqlite_record_system sqlite_alignment
      sqlite_accepts_report reporting (JustStarted.silent started) guarded reached running quiet

/-- A task that has just been started, and a report without stage and metrics. -/
def sampleReportedTask : List SqliteCall :=
  [.lifecycle (.accept sampleClock { value := 1 } (sampleStored none [])),
    .lifecycle (sampleStarting 1 0)]

def sampleReportedStore [IdCodec] : SqliteTaskStore :=
  sampleReportedTask.foldl SqliteCall.run (SqliteTaskStore.opened Database.empty)

def sampleProgressEvent : ProgressEvent := { stage := none, metrics := [] }

/-- The first report is dropped before its write runs, the second one takes its version to the
store, and the late write is refused. -/
def sampleLateWrite : List (ReporterAction SqliteCall) :=
  [.report sampleProgressEvent, .lock 0 7, .dropHolder true, .report sampleProgressEvent,
    .lock 0 8, .write, .resume, .writeDetached 0]

theorem sample_late_write_guarded : letI : IdCodec := sampleIdCodec
    Guarded (ReporterState.step sqliteStep)
      (fun state action => state.Alone SqliteCall.lifecycle action ∧ state.DropsUnwritten action)
      (.start sampleReportedStore { value := 1 } 1) sampleLateWrite := by
  have checked : letI : IdCodec := sampleIdCodec
      Guarded (ReporterState.step sqliteStep)
        (fun state action => Present (RunsAttempt state.reporter.attempt) state.record ∧
          state.DropsUnwritten action)
        (.start sampleReportedStore { value := 1 } 1) sampleLateWrite := by
    decide +kernel
  have own : ∀ action ∈ sampleLateWrite, ∀ call, action ≠ .other call := by
    intro action member call same
    subst same
    simp [sampleLateWrite] at member
  refine guarded_imp ?_ (guarded_and_of_mem checked own)
  rintro state action ⟨⟨running, unwritten⟩, silent⟩
  exact ⟨⟨running, fun command same => (silent _ same).elim⟩, unwritten⟩

theorem reporter_stays_unwedged_late_write :
    ∃ _codec : IdCodec, ∃ final,
      runActions sqliteStep (SqliteTaskStore.opened Database.empty) sampleReportedTask =
        some sampleReportedStore ∧
      runActions (ReporterState.step sqliteStep) (.start sampleReportedStore { value := 1 } 1)
        sampleLateWrite = some final ∧
      final.reporter.progressVersion = 1 ∧ final.Quiet ∧
      final.Unwedged sqliteStep SqliteAccepts := by
  refine ⟨sampleIdCodec, _, rfl, rfl, by decide +kernel, by decide +kernel, ?_⟩
  exact (@reporter_stays_unwedged sampleIdCodec).2 sampleReportedTask _ { value := 1 } 1
    sampleLateWrite _ rfl (by decide +kernel) sample_late_write_guarded rfl (by decide +kernel)
    (by decide +kernel)

/-- A report whose future is dropped while its write is pending, and whose write then commits,
leaves the store ahead of the reporter: the next report is refused as a conflict. -/
theorem dropped_report_wedges :
    ∃ _codec : IdCodec, ∃ final next,
      runActions sqliteStep (SqliteTaskStore.opened Database.empty) sampleReportedTask =
        some sampleReportedStore ∧
      Present (JustStarted 1) (sampleReportedStore.getEncodedTask { value := 1 }) ∧
      runActions (ReporterState.step sqliteStep) (.start sampleReportedStore { value := 1 } 1)
        [.report sampleProgressEvent, .lock 0 7, .dropHolder true, .writeDetached 0] = some final ∧
      final.Quiet ∧ Present (RunsAttempt 1) final.record ∧
      Present (AlreadyReported (final.reporter.progressVersion + 1)) final.record ∧
      runActions (ReporterState.step sqliteStep) final
        [.report sampleProgressEvent, .lock 0 9, .write, .resume] = some next ∧
      next.returned = [.error (.store .conflict)] ∧ next.reporter = final.reporter := by
  refine ⟨sampleIdCodec, _, _, rfl, ?_, rfl, ?_, ?_, ?_, rfl, ?_, ?_⟩
  all_goals decide +kernel

end TaskService.Service
