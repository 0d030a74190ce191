import TaskService.Service.System

/-!
# Footprints and deeds

Between two steps a thread holds summaries it has read, the identifier of a
task it is about to create, or an attempt it has started.  These three are what
its later writes rest on, together with static facts about the program counter
it stands at.

A deed says what one step of a thread does to the store and to what the thread
holds.  Every argument about the records of the store goes through the deeds:
a step reads, creates a fresh identifier, issues the one transition its program
counter stands for, starts a queued record, accepts a request, or touches the
outbox only.
-/

namespace TaskService.Service

open Library Model Store

def SchedulerPc.held : SchedulerPc → List TaskSummary
  | .markBlocked scan summary _ | .competing scan summary | .admission scan summary
  | .admitted scan summary | .start scan summary => summary :: scan.rest
  | .scanShutdown scan | .scanFault scan | .scanSlots scan | .list scan | .entryShutdown scan
  | .entrySlots scan | .dispatch scan | .spawn scan _ | .pageShutdown scan | .pageSlots scan =>
      scan.rest
  | .idle | .top _ | .topFault _ | .topSlots _ | .deadline _ | .arm _ _ | .suspended _ _
  | .stopping | .stopped => []

/-- Summaries whose version a later write of the thread expects. -/
def Thread.held : Thread → List TaskSummary
  | .cancel { id := _, pc := .cancelBeforeStart summary }
  | .cancel { id := _, pc := .requestCancel summary }
  | .resume { id := _, expectedStateVersion := _, pc := .requeue summary }
  | .run { started := _, pc := .finishWrite _ summary }
  | .hook { id := _, attempt := _, kindId := _, flight := _, pc := .persist summary }
  | .hook { id := _, attempt := _, kindId := _, flight := _, pc := .clearError summary }
  | .hook { id := _, attempt := _, kindId := _, flight := _, pc := .failRecord _ summary }
  | .detached (.transition summary _) => [summary]
  | .scheduler pc => pc.held
  | .starter (.recover rest _) => rest
  | .starter (.requeue summary rest _) => summary :: rest
  | _ => []

def Thread.pending : Thread → List TaskId
  | .submit { encoded := _, pc := .accept id _ } => [id]
  | .detached (.accept id _) => [id]
  | _ => []

def RunPc.unwritten : RunPc → Bool
  | .load | .register | .recheck _ | .setFlag _ | .running _ | .unregister _ | .finishRead _
  | .finishWrite _ _ => true
  | .clearEntry _ | .checkCompeting _ _ | .exit _ | .done _ => false

def Thread.owned : Thread → List (TaskId × Nat)
  | .scheduler (.spawn _ running) => [(running.id, running.attempt)]
  | .run task => if task.pc.unwritten then [(task.started.id, task.started.attempt)] else []
  | _ => []

def Thread.claims (thread : Thread) : List TaskId :=
  thread.pending ++ thread.owned.map Prod.fst

def Thread.handlerActive : Thread → Option (TaskId × Nat)
  | .run { started, pc := .running _ } => some (started.id, started.attempt)
  | _ => none

def Thread.nextTransition (config : Config) (input : Input) :
    Thread → Option (TaskSummary × TransitionCommand)
  | .cancel { id, pc := .cancelBeforeStart summary } =>
      some (summary, CancelCall.beforeStartCommand id summary input.now)
  | .cancel { id, pc := .requestCancel summary } =>
      some (summary, CancelCall.requestCommand id summary)
  | .resume { id, expectedStateVersion, pc := .requeue summary } =>
      some (summary, ResumeCall.requeueCommand ⟨id, expectedStateVersion, .requeue summary⟩ summary)
  | .run { started, pc := .finishWrite completion latest } =>
      some (latest, RunTask.finishCommand config started latest completion input.now input.later)
  | .hook task =>
      match task.pc with
      | .persist summary | .clearError summary =>
          some (summary, HookTask.annotateCommand task summary none)
      | .failRecord message summary =>
          some (summary, HookTask.annotateCommand task summary (some message))
      | _ => none
  | .scheduler (.markBlocked _ summary reason) =>
      some (summary, SchedulerPc.blockCommand summary reason)
  | .starter (.requeue summary _ _) => some (summary, StarterPc.recoveryCommand summary)
  | .detached (.transition summary command) => some (summary, command)
  | _ => none

/-- What holds of every transition the service writes over a summary it has
read.  Only a running record is left running, and a cancellation request that
was seen is never lost. -/
structure CommandOn (summary : TaskSummary) (command : TransitionCommand) : Prop where
  id : command.id = summary.id
  version : command.expectedStateVersion = summary.stateVersion
  annotates : command.state = .running →
    summary.state = .running ∧ command.expectedAttempt = summary.attempt
  seals : summary.cancelRequested = true → summary.state ≠ .queued →
    command.state.isTerminal = true ∨ (command.state ≠ .queued ∧ command.cancelRequested = true)

/-- Writers other than the attempt's own only annotate a running record. -/
def KeepsRunning (summary : TaskSummary) (command : TransitionCommand) : Prop :=
  summary.state = .running →
    command.state = .running ∧ command.expectedAttempt = summary.attempt ∧
      command.cancelRequested = true

def Thread.Wf : Thread → Prop
  | .cancel call =>
      match call.pc with
      | .cancelBeforeStart summary =>
          summary.id = call.id ∧
            (summary.state = .queued ∨ ∃ reason, summary.state = .blocked reason)
      | .requestCancel summary | .joinHook summary | .spawnHook summary _ =>
          summary.id = call.id ∧ summary.state = .running
      | _ => True
  | .resume call =>
      match call.pc with
      | .requeue summary =>
          summary.id = call.id ∧ summary.stateVersion = call.expectedStateVersion ∧
            summary.state.kind = .blocked ∧ summary.cancelRequested = false
      | _ => True
  | .run task =>
      match task.pc with
      | .unregister completion | .finishRead completion => completion.state.isTerminal = true
      | .finishWrite completion latest =>
          completion.state.isTerminal = true ∧ latest.id = task.started.id ∧
            latest.state.isTerminal = false
      | _ => True
  | .hook task =>
      match task.pc with
      | .persist summary | .clearError summary | .failRecord _ summary =>
          summary.id = task.id ∧ summary.attempt = task.attempt ∧ summary.state = .running
      | _ => True
  | .scheduler pc => ∀ summary ∈ pc.held, summary.state = .queued
  | .starter (.requeue summary _ _) => summary.state = .running
  | .detached (.transition summary command) =>
      CommandOn summary command ∧ KeepsRunning summary command
  | _ => True

section Commands

variable {summary : TaskSummary}

theorem recovery_command_on : CommandOn summary (StarterPc.recoveryCommand summary) := by
  refine ⟨rfl, rfl, ?_, ?_⟩
  · intro running
    simp only [StarterPc.recoveryCommand] at running
    split at running <;> cases running
  · intro requested _
    right
    simp [StarterPc.recoveryCommand, requested]

/-- A requested cancellation rules out a retry. -/
theorem finish_command_on (config : Config) (started : TaskSummary) (completion : Completion)
    (now finishedAt : Nat) (same : summary.id = started.id)
    (terminal : completion.state.isTerminal = true) :
    CommandOn summary
      (RunTask.finishCommand config started summary completion now finishedAt) := by
  refine ⟨same.symm, rfl, ?_, ?_⟩
  · intro running
    simp only [RunTask.finishCommand] at running
    split at running
    · cases running
    · rw [running] at terminal
      cases terminal
  · intro requested _
    left
    simp [RunTask.finishCommand, RunTask.retries, requested, terminal]

theorem keeps_running_of_waiting (command : TransitionCommand)
    (waiting : summary.state ≠ .running) : KeepsRunning summary command :=
  fun running => (waiting running).elim

end Commands

/-- Who writes a transition: the attempt's own task, recovery, or a writer that
leaves running records running. -/
theorem next_transition_cases {config : Config} {input : Input} {thread : Thread}
    {summary : TaskSummary} {command : TransitionCommand} (wf : thread.Wf)
    (next : thread.nextTransition config input = some (summary, command)) :
    summary ∈ thread.held ∧ CommandOn summary command ∧
      ((KeepsRunning summary command ∧ thread.owned = []) ∨
        (∃ started completion,
          thread = .run { started := started, pc := .finishWrite completion summary } ∧
          command = RunTask.finishCommand config started summary completion input.now input.later) ∨
        ∃ rest after, thread = .starter (.requeue summary rest after)) := by
  unfold Thread.nextTransition at next
  split at next
  case h_1 id read =>
    cases next
    refine ⟨by simp [Thread.held],
      ⟨wf.1.symm, rfl, (fun running => by cases running), fun _ _ => .inl rfl⟩, .inl ⟨?_, rfl⟩⟩
    apply keeps_running_of_waiting
    rcases wf.2 with queued | ⟨reason, blocked⟩
    · simp [queued]
    · simp [blocked]
  case h_2 id read =>
    cases next
    exact ⟨by simp [Thread.held], ⟨wf.1.symm, rfl, fun _ => ⟨wf.2, rfl⟩,
      fun _ _ => .inr ⟨by simp [CancelCall.requestCommand], rfl⟩⟩,
      .inl ⟨fun _ => ⟨rfl, rfl, rfl⟩, rfl⟩⟩
  case h_3 id version read =>
    cases next
    obtain ⟨same, expected, blocked, unrequested⟩ := wf
    refine ⟨by simp [Thread.held], ⟨same.symm, expected.symm, (fun running => by cases running),
      fun requested => by cases unrequested.symm.trans requested⟩, .inl ⟨?_, rfl⟩⟩
    apply keeps_running_of_waiting
    intro running
    rw [running] at blocked
    cases blocked
  case h_4 started completion latest =>
    cases next
    exact ⟨by simp [Thread.held], finish_command_on _ _ _ _ _ wf.2.1 wf.1,
      .inr (.inl ⟨started, completion, rfl, rfl⟩)⟩
  case h_5 task =>
    obtain ⟨id, attempt, kindId, flight, pc⟩ := task
    cases pc with
    | persist | clearError | failRecord =>
      cases next
      exact ⟨by simp [Thread.held], ⟨wf.1.symm, rfl, fun _ => ⟨wf.2.2, wf.2.1.symm⟩,
        fun _ _ => .inr ⟨by simp [HookTask.annotateCommand], rfl⟩⟩,
        .inl ⟨fun _ => ⟨rfl, wf.2.1.symm, rfl⟩, rfl⟩⟩
    | _ => cases next
  case h_6 scan read reason =>
    cases next
    have queued : summary.state = .queued := wf summary (by simp [SchedulerPc.held])
    refine ⟨by simp [Thread.held, SchedulerPc.held],
      ⟨rfl, rfl, (fun running => by cases running), fun _ live => (live queued).elim⟩,
      .inl ⟨?_, rfl⟩⟩
    apply keeps_running_of_waiting
    simp [queued]
  case h_7 read rest after =>
    cases next
    exact ⟨by simp [Thread.held], recovery_command_on, .inr (.inr ⟨rest, after, rfl⟩)⟩
  case h_8 read issued =>
    cases next
    exact ⟨by simp [Thread.held], wf.1, .inl ⟨wf.2, rfl⟩⟩
  case h_9 => cases next

open TaskStore LawfulStore

variable {σ : Type}

namespace Core

@[simp] theorem store_result_store (core : Core σ) (error : StoreError) :
    (core.storeResult error).store = core.store := by
  unfold storeResult
  split <;> rfl

@[simp] theorem store_result_known_ids (core : Core σ) (error : StoreError) :
    (core.storeResult error).knownIds = core.knownIds := by
  unfold storeResult
  split <;> rfl

@[simp] theorem leave_admission_store (core : Core σ) :
    core.leaveAdmission.store = core.store := rfl

@[simp] theorem leave_admission_known_ids (core : Core σ) :
    core.leaveAdmission.knownIds = core.knownIds := rfl

end Core

def Step.threads (result : Step σ) : List Thread :=
  result.thread :: result.spawned

variable [TaskStore σ]

def Core.recordOf (core : Core σ) (id : TaskId) : Option StoredTask :=
  getEncodedTask core.store id

/-- A summary that is the retained one of its task. -/
def Core.Shows (core : Core σ) (summary : TaskSummary) : Prop :=
  ∃ task, core.recordOf summary.id = some task ∧ task.summary = summary

inductive Deed (config : Config) (core : Core σ) (input : Input) (thread : Thread)
    (result : Step σ) : Prop
  | quiet
      (store : result.core.store = core.store) (known : result.core.knownIds = core.knownIds)
      (held : ∀ summary ∈ result.threads.flatMap Thread.held,
        summary ∈ thread.held ∨ core.Shows summary)
      (pending : (result.threads.flatMap Thread.pending).Sublist thread.pending)
      (owned : (result.threads.flatMap Thread.owned).Sublist thread.owned)
  | generated (id : TaskId) (fresh : input.generated = .ok id)
      (store : result.core.store = core.store) (known : result.core.knownIds = id :: core.knownIds)
      (held : result.threads.flatMap Thread.held = [])
      (pending : result.threads.flatMap Thread.pending = [id])
      (owned : result.threads.flatMap Thread.owned = [])
  | transition (summary : TaskSummary) (command : TransitionCommand)
      (next : thread.nextTransition config input = some (summary, command))
      (store : result.core.store =
        (transitionEncoded core.store input.clock command).1)
      (known : result.core.knownIds = core.knownIds)
      (held : ∀ summary ∈ result.threads.flatMap Thread.held, summary ∈ thread.held)
      (pending : result.threads.flatMap Thread.pending = [])
      (owned : result.threads.flatMap Thread.owned = [])
  | started (scan : Scan) (summary : TaskSummary)
      (place : thread = .scheduler (.start scan summary)) (store : result.core.store =
        (startEncoded core.store input.clock
          (SchedulerPc.startCommand summary input.now)).1)
      (known : result.core.knownIds = core.knownIds)
      (held : ∀ summary ∈ result.threads.flatMap Thread.held, summary ∈ thread.held)
      (pending : result.threads.flatMap Thread.pending = [])
      (owned : result.threads.flatMap Thread.owned =
        match (startEncoded core.store input.clock
            (SchedulerPc.startCommand summary input.now)).2 with
        | .ok running => [(running.id, running.attempt)]
        | .error _ => [])
  | accepted (id : TaskId) (request : StoredTaskRequest) (place : thread.pending = [id])
      (store : result.core.store =
        (acceptEncoded core.store input.clock id request).1)
      (known : result.core.knownIds = core.knownIds)
      (held : result.threads.flatMap Thread.held = [])
      (pending : result.threads.flatMap Thread.pending = [])
      (owned : result.threads.flatMap Thread.owned = [])
  | published (id : TaskId) (version : Nat)
      (store : result.core.store = (markEventPublished core.store id version).1)
      (known : result.core.knownIds = core.knownIds)
      (held : result.threads.flatMap Thread.held = [])
      (pending : result.threads.flatMap Thread.pending = [])
      (owned : result.threads.flatMap Thread.owned = [])
  | archived (command : QuarantineCommand) (store : result.core.store =
        (quarantineEventOutboxHead core.store input.clock command).1)
      (known : result.core.knownIds = core.knownIds)
      (held : result.threads.flatMap Thread.held = [])
      (pending : result.threads.flatMap Thread.pending = [])
      (owned : result.threads.flatMap Thread.owned = [])

/-- A deed together with the static facts its threads keep. -/
structure Footprint (config : Config) (core : Core σ) (input : Input) (thread : Thread)
    (result : Step σ) : Prop where
  deed : Deed config core input thread result
  wf : ∀ next ∈ result.threads, next.Wf

section

variable {config : Config} {core : Core σ} {input : Input} {result : Step σ}

structure Thread.Bare (thread : Thread) : Prop where
  held : thread.held = []
  pending : thread.pending = []
  owned : thread.owned = []
  wf : thread.Wf

variable {thread : Thread} {summary : TaskSummary} {after : Core σ}
  {answer : Except StoreError TaskSummary} {command : TransitionCommand} {id : TaskId}
  {task : StoredTask}

theorem footprint_bare (bare : result.thread.Bare) (alone : result.spawned = [])
    (store : result.core.store = core.store) (known : result.core.knownIds = core.knownIds) :
    Footprint config core input thread result := by
  obtain ⟨held, pending, owned, wf⟩ := bare
  refine ⟨Deed.quiet store known ?_ ?_ ?_, ?_⟩
  · simp [Step.threads, alone, held]
  · simp [Step.threads, alone, pending]
  · simp [Step.threads, alone, owned]
  · simpa [Step.threads, alone] using wf

theorem footprint_reads (shown : core.Shows summary) (held : result.thread.held = [summary])
    (pending : result.thread.pending = []) (owned : result.thread.owned = [])
    (wf : result.thread.Wf) (alone : result.spawned = []) (store : result.core.store = core.store)
    (known : result.core.knownIds = core.knownIds) :
    Footprint config core input thread result := by
  refine ⟨Deed.quiet store known ?_ ?_ ?_, ?_⟩
  · intro other member
    simp only [Step.threads, alone, List.flatMap_singleton, held, List.mem_singleton] at member
    subst member
    exact .inr shown
  · simp [Step.threads, alone, pending]
  · simp [Step.threads, alone, owned]
  · simpa [Step.threads, alone] using wf

omit [TaskStore σ] in
theorem call_write_cases {α : Type} {kind : WriteKind} {operation : σ → σ × Except StoreError α}
    {answer : Except StoreError α}
    (called : core.callWrite input kind operation = (after, answer)) :
    after.knownIds = core.knownIds ∧
      ((after.store = core.store ∧
          ∃ message, input.storeFailure = some message ∧ answer = .error (.failure message)) ∨
        (after.store = (operation core.store).1 ∧ input.storeFailure = none ∧
          answer = (operation core.store).2)) := by
  unfold Core.callWrite at called
  split at called
  · rename_i message failed
    cases called
    exact ⟨rfl, .inl ⟨rfl, message, failed, rfl⟩⟩
  · rename_i healthy
    cases called
    exact ⟨rfl, .inr ⟨rfl, healthy, rfl⟩⟩

section

variable (next : thread.nextTransition config input = some (summary, command))
  (called : core.callTransition input command = (after, answer))
include next called

theorem footprint_transition (held : ∀ summary ∈ result.thread.held, summary ∈ thread.held)
    (pending : result.thread.pending = []) (owned : result.thread.owned = [])
    (wf : result.thread.Wf) (alone : result.spawned = []) (store : result.core.store = after.store)
    (known : result.core.knownIds = after.knownIds) :
    Footprint config core input thread result := by
  have passed : ∀ summary ∈ result.threads.flatMap Thread.held, summary ∈ thread.held := by
    simpa [Step.threads, alone] using held
  have kept : ∀ next ∈ result.threads, next.Wf := by simpa [Step.threads, alone] using wf
  have noPending : result.threads.flatMap Thread.pending = [] := by
    simp [Step.threads, alone, pending]
  have noOwned : result.threads.flatMap Thread.owned = [] := by
    simp [Step.threads, alone, owned]
  obtain ⟨sameIds, ⟨same, -⟩ | ⟨written, -⟩⟩ := call_write_cases called
  · refine ⟨Deed.quiet (store.trans same) (known.trans sameIds) ?_ ?_ ?_, kept⟩
    · exact fun other member => .inl (passed other member)
    · rw [noPending]
      exact List.nil_sublist _
    · rw [noOwned]
      exact List.nil_sublist _
  · exact ⟨Deed.transition summary command next (store.trans written) (known.trans sameIds) passed
      noPending noOwned, kept⟩

theorem footprint_transition_bare (bare : result.thread.Bare) (alone : result.spawned = [])
    (store : result.core.store = after.store) (known : result.core.knownIds = after.knownIds) :
    Footprint config core input thread result := by
  apply footprint_transition next called ?_ bare.pending bare.owned bare.wf alone store known
  intro other member
  rw [bare.held] at member
  cases member

end

theorem footprint_keeps (held : result.thread.held = []) (pending : result.thread.pending = [])
    (owned : result.thread.owned.Sublist thread.owned) (wf : result.thread.Wf)
    (alone : result.spawned = []) (store : result.core.store = core.store)
    (known : result.core.knownIds = core.knownIds) :
    Footprint config core input thread result := by
  refine ⟨Deed.quiet store known ?_ ?_ ?_, ?_⟩
  · simp [Step.threads, alone, held]
  · simp [Step.threads, alone, pending]
  · simpa [Step.threads, alone] using owned
  · simpa [Step.threads, alone] using wf

theorem call_get_record {found : Option StoredTask} (called : core.callGet input id = .ok found) :
    core.recordOf id = found := by
  unfold Core.callGet at called
  split at called
  · cases called
  · exact Except.ok.inj called

theorem call_get_shows [LawfulStore σ] (valid : Valid core.store)
    (called : core.callGet input id = .ok (some task)) :
    task.summary.id = id ∧ core.Shows task.summary := by
  have found : core.recordOf id = some task := call_get_record called
  have same : task.summary.id = id := get_id core.store id task valid found
  refine ⟨same, task, ?_, rfl⟩
  rw [same]
  exact found

theorem call_transition_lost [LawfulStore σ] (valid : Valid core.store)
    (called : core.callTransition input command = (after, .error .conflict))
    (present : core.recordOf command.id = some task) :
    after.recordOf command.id = some task ∧ ¬ TransitionMatches task.summary command := by
  obtain ⟨-, ⟨-, message, -, failed⟩ | ⟨store, -, answered⟩⟩ := call_write_cases called
  · cases failed
  · have effect := transition_effect core.store input.clock command valid
    rw [← answered, ← store] at effect
    cases effect with
    | rejected error unchanged unmatched =>
      exact ⟨(unchanged command.id).trans present, unmatched rfl task present⟩

end

end TaskService.Service
