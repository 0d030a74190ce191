import TaskService.Service.GrantedCancellation
import TaskService.Store.SqliteTaskStore

/-!
# Cooperative cancellation signals

A cancellation persists its request and then sets the attempt's flag; the attempt
registers its flag and then re-reads the request.  Between the two, whoever has
persisted a request is on its way to the flag.  A request that outlives its
caller is not: the write of a dropped future persists it, and the next caller
finds it persisted and returns without a signal.
-/

namespace TaskService.Service

open Library Model Store List

def Config.modeOf (config : Config) (summary : TaskSummary) : Option CancellationMode :=
  (config.handlers.descriptor summary.kindId).map TaskHandlerDescriptor.cancellationMode

def Thread.hooked : Thread → List TaskId
  | .cancel { id, pc := .joinHook _ } => [id]
  | .cancel { id, pc := .spawnHook _ _ } => [id]
  | .hook task => [task.id]
  | _ => []

def Thread.flagged : Thread → List ((TaskId × Nat) × Nat)
  | .run { started, pc := .recheck flag } => [((started.id, started.attempt), flag)]
  | .run { started, pc := .setFlag flag } => [((started.id, started.attempt), flag)]
  | .run { started, pc := .running flag } => [((started.id, started.attempt), flag)]
  | _ => []

def Thread.contexts : Thread → List ((TaskId × Nat) × Nat)
  | .run { started, pc := .running flag } => [((started.id, started.attempt), flag)]
  | _ => []

def Thread.signalling : Thread → List (TaskId × Nat)
  | .cancel { id, pc := .signal attempt } => [(id, attempt)]
  | _ => []

theorem contexts_flagged {thread : Thread} {entry : (TaskId × Nat) × Nat}
    (live : entry ∈ thread.contexts) : entry ∈ thread.flagged := by
  unfold Thread.contexts at live
  split at live
  · exact live
  · cases live

theorem flagged_owned {thread : Thread} {entry : TaskId × Nat} {flag : Nat}
    (flagged : (entry, flag) ∈ thread.flagged) : entry ∈ thread.owned := by
  unfold Thread.flagged at flagged
  split at flagged
  · cases mem_singleton.mp flagged
    exact mem_singleton_self _
  · cases mem_singleton.mp flagged
    exact mem_singleton_self _
  · cases mem_singleton.mp flagged
    exact mem_singleton_self _
  · cases flagged

variable {σ : Type} [TaskStore σ]

structure SignalStep (config : Config) (core : Core σ) (thread : Thread) (result : Step σ) :
    Prop where
  hooked : ∀ id ∈ result.threads.flatMap Thread.hooked, id ∈ thread.hooked ∨
    (Present (fun summary => config.modeOf summary = some .externalHook) (core.recordOf id) ∧
      result.core.store = core.store)
  flagged : ∀ entry flag, (entry, flag) ∈ result.threads.flatMap Thread.flagged →
    ((entry, flag) ∈ thread.flagged ∧ result.core.cancellations = core.cancellations) ∨
      (result.core.cancellations.lookup entry = some flag ∧
        result.core.flags[flag]?.isSome = true)
  live : ∀ entry flag, (entry, flag) ∈ result.threads.flatMap Thread.contexts →
    (entry, flag) ∈ thread.flagged ∧
      ((Holds (fun summary => summary.cancelRequested = false) (core.recordOf entry.1) ∧
          result.core.store = core.store) ∨
        (core.flags[flag]?.isSome = true → result.core.flags[flag]? = some true))
  told : ∀ entry ∈ thread.signalling, ∀ flag, core.cancellations.lookup entry = some flag →
    core.flags[flag]?.isSome = true → result.core.flags[flag]? = some true

section Thread

variable {config : Config} {core : Core σ} {input : Input} {result : Step σ}

omit [TaskStore σ] in
theorem set_flag_set {flag : Nat} (present : core.flags[flag]?.isSome = true) :
    (core.setFlag flag).flags[flag]? = some true := by
  obtain ⟨value, found⟩ := Option.isSome_iff_exists.mp present
  have inside := (List.getElem?_eq_some_iff.mp found).1
  simp [Core.setFlag, inside]

theorem signal_step_of_idle {thread : Thread}
    (idle : ∀ next ∈ result.threads, next.hooked = [] ∧ next.flagged = [])
    (told : ∀ entry ∈ thread.signalling, ∀ flag, core.cancellations.lookup entry = some flag →
      core.flags[flag]?.isSome = true → result.core.flags[flag]? = some true) :
    SignalStep config core thread result := by
  refine ⟨?_, ?_, ?_, told⟩
  · intro id member
    obtain ⟨next, among, hooked⟩ := mem_flatMap.mp member
    rw [(idle next among).1] at hooked
    cases hooked
  · intro entry flag member
    obtain ⟨next, among, flagged⟩ := mem_flatMap.mp member
    rw [(idle next among).2] at flagged
    cases flagged
  · intro entry flag member
    obtain ⟨next, among, live⟩ := mem_flatMap.mp member
    have flagged := contexts_flagged live
    rw [(idle next among).2] at flagged
    cases flagged

theorem cancel_idle_signal {after : Core σ} {call next : CancelCall}
    (hooked : (Thread.cancel next).hooked = []) (silent : (Thread.cancel call).signalling = []) :
    SignalStep config core (.cancel call) ⟨after, .cancel next, []⟩ := by
  apply signal_step_of_idle
  · intro other member
    rw [mem_singleton.mp member]
    exact ⟨hooked, rfl⟩
  · rw [silent]
    exact forall_mem_nil _

theorem cancel_hooks_signal {after : Core σ} {call next : CancelCall} {spawned : List Thread}
    (hooks : ∀ other ∈ spawned, ∃ task, other = .hook task ∧ task.id = call.id)
    (same : next.id = call.id) (silent : (Thread.cancel call).signalling = [])
    (source : (Thread.cancel call).hooked = [call.id] ∨
      (Present (fun summary => config.modeOf summary = some .externalHook)
          (core.recordOf call.id) ∧ after.store = core.store)) :
    SignalStep config core (.cancel call)
      { core := after, thread := .cancel next, spawned := spawned } := by
  have flagless : ∀ other ∈ Thread.cancel next :: spawned, other.flagged = [] := by
    intro other member
    rcases mem_cons.mp member with rfl | spawn
    · rfl
    · obtain ⟨task, rfl, -⟩ := hooks other spawn
      rfl
  refine ⟨?_, ?_, ?_, ?_⟩
  · intro id member
    obtain ⟨other, among, hooked⟩ := mem_flatMap.mp member
    have named : id = call.id := by
      rcases mem_cons.mp among with rfl | spawn
      · unfold Thread.hooked at hooked
        split at hooked
        all_goals simp_all
      · obtain ⟨task, rfl, owner⟩ := hooks other spawn
        rw [← owner]
        exact mem_singleton.mp hooked
    subst named
    rcases source with old | read
    · left
      rw [old]
      exact mem_singleton_self _
    · exact .inr read
  · intro entry flag member
    obtain ⟨other, among, flagged⟩ := mem_flatMap.mp member
    rw [flagless other among] at flagged
    cases flagged
  · intro entry flag member
    obtain ⟨other, among, live⟩ := mem_flatMap.mp member
    have flagged := contexts_flagged live
    rw [flagless other among] at flagged
    cases flagged
  · rw [silent]
    exact forall_mem_nil _

theorem cancel_signal_step (call : CancelCall)
    (stepped : call.step config core input = some result) :
    SignalStep config core (.cancel call) result := by
  obtain ⟨id, pc⟩ := call
  cases cancel_step_cases _ stepped with
  | enters | unfaulted | accepting | owning | waiting | requests | persisted | joins | leaves
  | landed =>
    exact cancel_idle_signal rfl rfl
  | hooked task descriptor called running found mode =>
    refine cancel_hooks_signal (forall_mem_nil _) rfl rfl
      (.inr ⟨⟨task, call_get_record called, ?_⟩, rfl⟩)
    simp [Config.modeOf, found, mode]
  | signals attempt flag registered =>
    apply signal_step_of_idle
    · intro other member
      rw [mem_singleton.mp member]
      exact ⟨rfl, rfl⟩
    · intro entry member other looked present
      obtain rfl := mem_singleton.mp member
      rw [registered] at looked
      cases looked
      exact set_flag_set present
  | unregistered attempt absent =>
    apply signal_step_of_idle
    · intro other member
      rw [mem_singleton.mp member]
      exact ⟨rfl, rfl⟩
    · intro entry member flag looked _
      obtain rfl := mem_singleton.mp member
      rw [absent] at looked
      cases looked
  | opens summary => exact cancel_hooks_signal (forall_mem_nil _) rfl rfl (.inl rfl)
  | spawns =>
    refine cancel_hooks_signal ?_ rfl rfl (.inl rfl)
    intro other member
    rw [mem_singleton.mp member]
    exact ⟨_, rfl, rfl⟩
  | _ =>
    exact cancel_idle_signal rfl rfl

theorem run_idle_signal {task : RunTask} {after : Core σ} {pc : RunPc}
    (idle : (Thread.run { task with pc := pc }).flagged = []) :
    SignalStep config core (.run task) ⟨after, .run { task with pc := pc }, []⟩ := by
  apply signal_step_of_idle
  · intro next member
    rw [mem_singleton.mp member]
    exact ⟨rfl, idle⟩
  · exact forall_mem_nil _

theorem run_signal_step (task : RunTask) (stepped : task.step config core input = some result) :
    SignalStep config core (.run task) result := by
  obtain ⟨started, pc⟩ := task
  cases run_step_cases _ stepped with
  | registers =>
    refine ⟨(forall_mem_nil _), ?_, (fun _ _ member => by cases member), forall_mem_nil _⟩
    intro entry flag member
    cases mem_singleton.mp member
    right
    exact ⟨by rw [Table.lookup_insert_eq, if_pos rfl], by simp⟩
  | requested =>
    refine ⟨(forall_mem_nil _), ?_, (fun _ _ member => by cases member), forall_mem_nil _⟩
    intro entry other member
    cases mem_singleton.mp member
    exact .inl ⟨mem_singleton_self _, rfl⟩
  | unrequested flag latest called unasked =>
    refine ⟨(forall_mem_nil _), ?_, ?_, forall_mem_nil _⟩
    · intro entry other member
      cases mem_singleton.mp member
      exact .inl ⟨mem_singleton_self _, rfl⟩
    · intro entry other member
      cases mem_singleton.mp member
      refine ⟨mem_singleton_self _, .inl ⟨?_, rfl⟩⟩
      intro stored present
      rw [call_get_record called] at present
      subst present
      simpa using unasked
  | sets flag =>
    refine ⟨(forall_mem_nil _), ?_, ?_, forall_mem_nil _⟩
    · intro entry other member
      cases mem_singleton.mp member
      exact .inl ⟨mem_singleton_self _, rfl⟩
    · intro entry other member
      cases mem_singleton.mp member
      exact ⟨mem_singleton_self _, .inr set_flag_set⟩
  | _ => exact run_idle_signal rfl

theorem plain_idle {thread : Thread} (plain : thread.plain = true) :
    thread.hooked = [] ∧ thread.flagged = [] := by
  cases thread with
  | cancel | hook | detached => cases plain
  | run task =>
    obtain ⟨started, pc⟩ := task
    cases pc with
    | load => exact ⟨rfl, rfl⟩
    | _ => cases plain
  | _ => exact ⟨rfl, rfl⟩

theorem thread_signal_step {thread : Thread}
    (stepped : thread.step config core input = some result) :
    SignalStep config core thread result := by
  cases thread with
  | cancel call => exact cancel_signal_step call stepped
  | run task => exact run_signal_step task stepped
  | hook task =>
    obtain ⟨pc, form, alone⟩ := hook_step_form task stepped
    have threads : result.threads = [.hook { task with pc := pc }] := by
      rw [Step.threads, form, alone]
    refine ⟨?_, ?_, ?_, forall_mem_nil _⟩
    · rw [threads]
      exact fun id member => .inl member
    · rw [threads]
      exact fun _ _ member => by cases member
    · rw [threads]
      exact fun _ _ member => by cases member
  | _ =>
    have plain := (same_cells_step rfl (fun _ other => by cases other) stepped).2
    apply signal_step_of_idle
    · exact fun next among => plain_idle (all_eq_true.mp plain next among)
    · exact forall_mem_nil _

omit [TaskStore σ] in
theorem dropped_silent {thread : Thread} {after : Core σ}
    (dropped : thread.dropped core = some after) : thread.signalling = [] := by
  unfold Thread.signalling
  split
  · cases dropped
  · rfl

theorem drop_signal_step (config : Config) {thread : Thread}
    (left : Dropped core thread input result) :
    SignalStep config core thread result := by
  obtain ⟨_, dropped⟩ := left.dropped
  have silent := dropped_silent dropped
  apply signal_step_of_idle
  · intro next among
    have bystander := all_eq_true.mp (drop_bystanders left) next among
    cases next with
    | cancel call | hook task => cases bystander
    | run task => exact (drop_no_run left task among).elim
    | _ => exact ⟨rfl, rfl⟩
  · rw [silent]
    exact forall_mem_nil _

theorem running_command_cases {thread : Thread} {summary : TaskSummary}
    {command : TransitionCommand} (wf : thread.Wf)
    (next : thread.nextTransition config input = some (summary, command))
    (running : command.state = .running) :
    (∃ id, thread = .cancel { id := id, pc := .requestCancel summary } ∧
        command = CancelCall.requestCommand id summary) ∨
      (∃ task, thread = .hook task ∧ command.id = task.id) ∨
      thread = .detached (.transition summary command) := by
  unfold Thread.nextTransition at next
  split at next
  · cases next
    cases running
  · cases next
    exact .inl ⟨_, rfl, rfl⟩
  · cases next
    cases running
  · rename_i started completion latest
    cases next
    have terminal := wf.1
    simp only [RunTask.finishCommand] at running
    split at running
    · cases running
    · rw [running] at terminal
      cases terminal
  · rename_i task
    right
    left
    split at next
    · cases next
      exact ⟨task, rfl, rfl⟩
    · cases next
      exact ⟨task, rfl, rfl⟩
    · cases next
      exact ⟨task, rfl, rfl⟩
    · cases next
  · cases next
    cases running
  · cases next
    simp only [StarterPc.recoveryCommand] at running
    split at running
    · cases running
    · cases running
  · cases next
    exact .inr (.inr rfl)
  · cases next

theorem request_step {id : TaskId} {summary : TaskSummary}
    (stepped : CancelCall.step config core input { id := id, pc := .requestCancel summary } =
      some result) :
    (∃ written, core.callTransition input (CancelCall.requestCommand id summary) =
        (result.core, .ok written) ∧ (id, summary.attempt) ∈ result.thread.signalling) ∨
      ∃ after error, core.callTransition input (CancelCall.requestCommand id summary) =
        (after, .error error) ∧ result.core.store = after.store := by
  simp only [CancelCall.step] at stepped
  split at stepped
  · rename_i after error called
    cases stepped
    refine .inr ⟨after, error, called, ?_⟩
    simp only [CancelCall.finish, CancelCall.returnWith, Core.leaveAdmission, Core.storeResult]
    split <;> rfl
  · rename_i after written called
    cases stepped
    exact .inl ⟨written, called, mem_singleton_self _⟩

end Thread

abbrev HookBound (system : System σ) (id : TaskId) : Prop :=
  Lasting (fun summary => system.config.modeOf summary = some .externalHook) system id

def System.signalling (system : System σ) : List (TaskId × Nat) :=
  system.threads.flatMap Thread.signalling

def System.contexts (system : System σ) : List ((TaskId × Nat) × Nat) :=
  system.threads.flatMap Thread.contexts

/-- A persisted request of a cooperative task has reached the flag of its attempt,
or a caller is about to set it. -/
def Told (system : System σ) (entry : TaskId × Nat) (flag : Nat) (summary : TaskSummary) : Prop :=
  system.config.modeOf summary = some .cooperative → summary.cancelRequested = true →
    system.core.flags[flag]? = some true ∨ entry ∈ system.signalling

structure Signalled [LawfulStore σ] (system : System σ) : Prop where
  granted : Granted system
  hooked : ∀ id ∈ system.threads.flatMap Thread.hooked, HookBound system id
  registered : ∀ entry flag, (entry, flag) ∈ system.threads.flatMap Thread.flagged →
    system.core.cancellations.lookup entry = some flag ∧
      system.core.flags[flag]?.isSome = true
  told : ∀ entry flag, (entry, flag) ∈ system.contexts →
    Holds (Told system entry flag) (system.recordOf entry.1)

/-- Whether the write of a dropped future is about to persist a request under a
handler whose flag is not set. -/
def System.orphans (system : System σ) (index : Nat) : Bool :=
  match system.threads[index]? with
  | some (.detached (.transition _ command)) =>
      command.cancelRequested && system.contexts.any fun context =>
        decide (command.id = context.1.1) && decide (system.core.flags[context.2]? ≠ some true) &&
          (system.recordOf command.id).any fun task =>
            decide (TransitionMatches task.summary command)
  | _ => false

/-- No request is persisted after its caller is gone, under a handler whose flag is
not set. -/
def NoOrphanRequest (system : System σ) : Action → Prop :=
  OnSteps fun index _ => system.orphans index = false

instance (system : System σ) (action : Action) : Decidable (NoOrphanRequest system action) :=
  inferInstanceAs (Decidable (OnSteps _ action))

section Run

variable [LawfulStore σ] {system next : System σ} {index : Nat} {input : Input}
  {thread : Thread} {result : Step σ} {entry : TaskId × Nat} {flag : Nat}

section

variable (signalled : Signalled system) (lookup : system.threads[index]? = some thread)
  (cells : Cells system.core thread result)
  (step : SignalStep system.config system.core thread result)
include signalled lookup cells step

/-- What a handler was told it stays told: the flag is not taken back, and the
caller that was about to set it has set it. -/
theorem told_raised (flagged : (entry, flag) ∈ system.threads.flatMap Thread.flagged)
    {summary : TaskSummary} (told : Told system entry flag summary) :
    Told (system.moved index result) entry flag summary := by
  intro cooperative requested
  obtain ⟨found, present⟩ := signalled.registered entry flag flagged
  rcases told cooperative requested with set | signalling
  · left
    obtain ⟨now, kept, raised⟩ := cells.flags flag true set
    rw [raised rfl] at kept
    exact kept
  · obtain ⟨other, among, about⟩ := mem_flatMap.mp signalling
    obtain ⟨position, placed⟩ := mem_iff_getElem?.mp among
    by_cases here : position = index
    · subst here
      rw [lookup] at placed
      cases placed
      exact .inl (step.told entry about flag found present)
    · exact .inr (mem_tokens_of_other Thread.signalling here placed about)

theorem told_before (live : (entry, flag) ∈ system.contexts) :
    Holds (Told (system.moved index result) entry flag) (system.recordOf entry.1) := by
  intro task present
  apply told_raised signalled lookup cells step
  · obtain ⟨other, among, context⟩ := mem_flatMap.mp live
    exact mem_flatMap.mpr ⟨other, among, contexts_flagged context⟩
  · exact signalled.told entry flag live task present

end

theorem told_elsewhere (signalled : Signalled system)
    (lookup : system.threads[index]? = some thread) (deed : system.Deed input thread result)
    (cells : Cells system.core thread result)
    (step : SignalStep system.config system.core thread result) {position : Nat} {other : Thread}
    (elsewhere : position ≠ index) (found : system.threads[position]? = some other)
    (live : (entry, flag) ∈ other.contexts) (written : ∀ summary command task,
      thread.nextTransition system.config input = some (summary, command) →
      system.recordOf entry.1 = some task → command.id = entry.1 →
      TransitionMatches task.summary command → command.state = .running →
      command.cancelRequested = true →
      Told (system.moved index result) entry flag (transitionedSummary task.summary command)) :
    Holds (Told (system.moved index result) entry flag)
      ((system.moved index result).recordOf entry.1) := by
  have ledger := signalled.granted.ledger
  have among := mem_of_getElem? found
  have owns := flagged_owned (contexts_flagged live)
  have own : (entry.1, entry.2) ∈ system.owned := mem_flatMap.mpr ⟨other, among, owns⟩
  have apart : entry.1 ∉ thread.claims := by
    intro also
    apply elsewhere
    refine position_of_token Thread.claims ledger.claims found lookup ?_ also
    exact mem_append_right _ (mem_map_of_mem owns)
  have unborn : entry.1 ∉ system.pending := by
    intro pending
    obtain ⟨task, present, -⟩ := ledger.books.running entry.1 entry.2 own
    rw [ledger.books.absent entry.1 pending] at present
    cases present
  have before := told_before signalled lookup cells step
    (mem_flatMap.mpr ⟨other, among, live⟩)
  apply holds_moved ledger lookup deed unborn before
  · exact fun summary command told _ _ => ⟨told, told⟩
  · intro summary command task following present same matched
    refine ⟨fun _ => ?_, fun _ => before task present⟩
    by_cases requested : command.cancelRequested = true
    · exact written summary command task following present same matched
        (transition_annotates ledger lookup following own apart same present matched) requested
    · exact fun _ raised => (requested raised).elim

theorem told_by_request (signalled : Signalled system) {id : TaskId} {summary : TaskSummary}
    (lookup : system.threads[index]? = some (.cancel { id := id, pc := .requestCancel summary }))
    (stepped : CancelCall.step system.config system.core input
      { id := id, pc := .requestCancel summary } = some result)
    (deed : Deed system.config system.core input
      (.cancel { id := id, pc := .requestCancel summary }) result)
    (cells : Cells system.core (.cancel { id := id, pc := .requestCancel summary }) result)
    (step : SignalStep system.config system.core
      (.cancel { id := id, pc := .requestCancel summary }) result)
    {position : Nat} {other : Thread} (elsewhere : position ≠ index)
    (found : system.threads[position]? = some other) (live : (entry, flag) ∈ other.contexts) :
    Holds (Told (system.moved index result) entry flag)
      ((system.moved index result).recordOf entry.1) := by
  have ledger := signalled.granted.ledger
  have among := mem_of_getElem? found
  have owns := flagged_owned (contexts_flagged live)
  obtain ⟨task, present, -, counted⟩ :=
    ledger.books.running entry.1 entry.2 (mem_flatMap.mpr ⟨other, among, owns⟩)
  rcases request_step stepped with ⟨written, called, token⟩ | ⟨after, error, called, store⟩
  · by_cases same : id = entry.1
    · -- The write has matched the attempt, so the caller signals this attempt.
      have answered : summary.attempt = entry.2 := by
        obtain ⟨-, ⟨-, message, -, failed⟩ | ⟨-, -, answer⟩⟩ := call_write_cases called
        · cases failed
        · have effect := LawfulStore.transition_effect system.core.store input.clock
            (CancelCall.requestCommand id summary) ledger.valid
          rw [← answer] at effect
          cases effect with
          | applied stored held matched =>
            have shown : system.recordOf id = some stored := held
            rw [same, show system.recordOf entry.1 = _ from present] at shown
            cases shown
            exact matched.2.1.symm.trans counted
      have signals : entry ∈ (system.moved index result).signalling := by
        obtain ⟨owner, attempt⟩ := entry
        cases same
        cases answered
        exact mem_tokens (advance_self lookup) token
      exact fun _ _ _ _ => .inr signals
    · apply told_elsewhere signalled lookup deed cells step elsewhere found live
      intro read command stored following shown named
      cases following
      exact (same named).elim
  · have before := told_before signalled lookup cells step
      (mem_flatMap.mpr ⟨other, among, live⟩)
    obtain ⟨-, ⟨same, -⟩ | ⟨ran, -, answer⟩⟩ := call_write_cases called
    · apply before.of_eq
      simp only [System.recordOf, Core.recordOf, System.moved, store, same]
    · have effect := LawfulStore.transition_effect system.core.store input.clock
        (CancelCall.requestCommand id summary) ledger.valid
      rw [← answer, ← ran, ← store] at effect
      exact before.transition_failed effect fun _ _ _ told => told

omit [LawfulStore σ] in
/-- A detached request only meets handlers whose flag is set. -/
theorem flag_of_no_orphan {summary : TaskSummary} {command : TransitionCommand}
    {task : StoredTask} (quiet : NoOrphanRequest system (.thread index input))
    (lookup : system.threads[index]? = some (.detached (.transition summary command)))
    (live : (entry, flag) ∈ system.contexts) (present : system.recordOf entry.1 = some task)
    (same : command.id = entry.1) (matched : TransitionMatches task.summary command)
    (requested : command.cancelRequested = true) : system.core.flags[flag]? = some true := by
  by_contra unset
  have orphans : system.orphans index = false := quiet
  simp only [System.orphans, lookup, requested, Bool.true_and] at orphans
  have none := any_eq_false.mp orphans (entry, flag) live
  simp [same, unset, present, matched] at none

section

variable (signalled : Signalled system) (lookup : system.threads[index]? = some thread)
include signalled lookup

theorem told_moved (stepped : thread.step system.config system.core input = some result)
    (quiet : NoOrphanRequest system (.thread index input))
    (live : (entry, flag) ∈ (system.moved index result).contexts) :
    Holds (Told (system.moved index result) entry flag)
      ((system.moved index result).recordOf entry.1) := by
  have ledger := signalled.granted.ledger
  have deed := (ledger.footprint lookup stepped).deed
  have cells := thread_cells stepped
  have step := thread_signal_step stepped
  rcases mem_tokens_advance Thread.contexts live with
    renewed | ⟨position, other, elsewhere, found, context⟩
  · obtain ⟨flagged, ⟨unrequested, store⟩ | set⟩ := step.live entry flag renewed
    · intro task present cooperative requested
      have shown : system.core.recordOf entry.1 = some task := by
        rw [← present]
        simp only [System.recordOf, Core.recordOf, System.moved, store]
      rw [unrequested task shown] at requested
      cases requested
    · have registered := signalled.registered entry flag
        (mem_tokens lookup flagged)
      exact fun _ _ _ _ => .inl (set registered.2)
  · by_cases request : ∃ id summary, thread = .cancel { id := id, pc := .requestCancel summary }
    · obtain ⟨id, summary, rfl⟩ := request
      exact told_by_request signalled lookup stepped deed cells step elsewhere found context
    · apply told_elsewhere signalled lookup deed cells step elsewhere found context
      intro summary command task following present same matched running requested
      rcases running_command_cases (ledger.wf _ (mem_of_getElem? lookup)) following running with
        ⟨id, caller, -⟩ | ⟨task, rfl, named⟩ | rfl
      · exact (request ⟨id, summary, caller⟩).elim
      · -- A task with a hook is not cooperative.
        have bound := signalled.hooked task.id (mem_flatMap.mpr
          ⟨_, mem_of_getElem? lookup, by simp [Thread.hooked]⟩)
        rw [← named, same] at bound
        intro cooperative
        have clash : some CancellationMode.externalHook = some .cooperative :=
          (bound.holds _ present).symm.trans cooperative
        cases clash
      · have set := flag_of_no_orphan quiet lookup
          (mem_tokens found context) present same matched
          requested
        obtain ⟨now, kept, raised⟩ := cells.flags flag true set
        rw [raised rfl] at kept
        exact fun _ _ => .inl kept

theorem registered_moved (cells : Cells system.core thread result)
    (step : SignalStep system.config system.core thread result)
    (flagged : (entry, flag) ∈ (system.moved index result).threads.flatMap Thread.flagged) :
    result.core.cancellations.lookup entry = some flag ∧
      result.core.flags[flag]?.isSome = true := by
  have kept : system.core.flags[flag]?.isSome = true →
      result.core.flags[flag]?.isSome = true := by
    intro present
    obtain ⟨value, found⟩ := Option.isSome_iff_exists.mp present
    obtain ⟨now, stays, -⟩ := cells.flags flag value found
    rw [stays]
    rfl
  rcases mem_tokens_advance Thread.flagged flagged with
    renewed | ⟨position, other, elsewhere, found, holds⟩
  · rcases step.flagged entry flag renewed with ⟨old, same⟩ | fresh
    · obtain ⟨registered, present⟩ := signalled.registered entry flag (mem_tokens lookup old)
      rw [same]
      exact ⟨registered, kept present⟩
    · exact fresh
  · obtain ⟨registered, present⟩ := signalled.registered entry flag (mem_tokens found holds)
    refine ⟨?_, kept present⟩
    rw [cells.cancellations entry ?_]
    · exact registered
    · -- No two threads own an attempt of one task.
      intro also
      apply elsewhere
      exact position_of_token Thread.claims signalled.granted.ledger.claims found lookup
        (mem_append_right _ (mem_map_of_mem (flagged_owned holds)))
        (mem_append_right _ (mem_map_of_mem also))

theorem hooked_moved (deed : system.Deed input thread result) (fresh : input.Fresh system.core)
    (step : SignalStep system.config system.core thread result) {id : TaskId}
    (hooked : id ∈ (system.moved index result).threads.flatMap Thread.hooked) :
    HookBound (system.moved index result) id := by
  have ledger := signalled.granted.ledger
  have stays : ∀ other ∈ system.threads, id ∈ other.hooked →
      HookBound (system.moved index result) id := by
    intro other among holds
    have bound := signalled.hooked id (mem_flatMap.mpr ⟨other, among, holds⟩)
    apply lasting_moved ledger lookup deed fresh bound
    · exact fun summary command mode _ _ => ⟨mode, mode⟩
    · intro summary command task following present same matched
      have mode := bound.holds task present
      exact ⟨fun _ => mode, fun _ => mode⟩
  rcases mem_tokens_advance Thread.hooked hooked with
    renewed | ⟨position, other, elsewhere, found, holds⟩
  · rcases step.hooked id renewed with old | ⟨⟨task, present, mode⟩, store⟩
    · exact stays thread (mem_of_getElem? lookup) old
    · refine lasting_established ledger lookup deed fresh present ?_
      intro later shown
      have same : (system.moved index result).recordOf id = system.core.recordOf id := by
        simp only [System.recordOf, Core.recordOf, System.moved, store]
      rw [same, present] at shown
      cases shown
      exact mode
  · exact stays other (mem_of_getElem? found) holds

end

theorem signalled_aside (signalled : Signalled system) (granted : Granted next)
    (unmoved : Aside system next) : Signalled next where
  granted := granted
  hooked := by
    rw [unmoved.tokens Thread.hooked fun call => by cases call <;> rfl]
    intro id member
    rw [HookBound, unmoved.config]
    exact (signalled.hooked id member).aside unmoved fun _ _ mode => mode
  registered := by
    rw [unmoved.tokens Thread.flagged fun call => by cases call <;> rfl, unmoved.cancellations,
      unmoved.flags]
    exact signalled.registered
  told := by
    rw [System.contexts, unmoved.tokens Thread.contexts fun call => by cases call <;> rfl]
    intro entry flag member
    have same : Told next entry flag = Told system entry flag := by
      funext summary
      simp only [Told, System.signalling, unmoved.config, unmoved.flags,
        unmoved.tokens Thread.signalling fun call => by cases call <;> rfl]
    rw [same]
    exact unmoved.holds entry.1 (fun _ _ told => told) (signalled.told entry flag member)

theorem signalled_step {action : Action} (fresh : FreshIds system action)
    (quiet : NoOrphanRequest system action) (signalled : Signalled system)
    (taken : system.step action = some next) : Signalled next := by
  have granted := granted_step fresh signalled.granted taken
  have ledger := signalled.granted.ledger
  cases step_change ledger taken with
  | stepped lookup stepped =>
    have deed := (ledger.footprint lookup stepped).deed
    exact ⟨granted,
      fun id => hooked_moved signalled lookup deed fresh (thread_signal_step stepped),
      fun entry flag =>
        registered_moved signalled lookup (thread_cells stepped) (thread_signal_step stepped),
      fun entry flag => told_moved signalled lookup stepped quiet⟩
  | dropped lookup left =>
    have deed := (ledger.left_footprint lookup left).deed
    have cells := drop_cells left
    have step := drop_signal_step system.config left
    refine ⟨granted,
      fun id => hooked_moved signalled lookup deed (fun id minted => by cases minted) step,
      fun entry flag => registered_moved signalled lookup cells step, ?_⟩
    intro entry flag live
    rw [drop_records left]
    apply told_before signalled lookup cells step
    rcases mem_tokens_advance Thread.contexts live with
      renewed | ⟨position, other, elsewhere, found, context⟩
    · -- No attempt comes out of a dropped future.
      obtain ⟨other, among, context⟩ := mem_flatMap.mp renewed
      unfold Thread.contexts at context
      split at context
      · exact (drop_no_run left _ among).elim
      · cases context
    · exact mem_tokens found context
  | aside unmoved => exact signalled_aside signalled granted unmoved
  | restart config =>
    refine ⟨granted, ?_, ?_, ?_⟩
    · intro id member
      rw [tokens_restart Thread.hooked rfl (fun _ => rfl)] at member
      cases member
    · intro entry flag member
      rw [tokens_restart Thread.flagged rfl (fun _ => rfl)] at member
      cases member
    · intro entry flag member
      rw [System.contexts, tokens_restart Thread.contexts rfl (fun _ => rfl)] at member
      cases member

theorem signalled_boot {config : Config} {store : σ} {knownIds : List TaskId}
    (ledger : Ledger (System.boot config store knownIds)) :
    Signalled (System.boot config store knownIds) where
  granted := granted_boot ledger
  hooked := fun id member => by cases member
  registered := fun entry flag member => by cases member
  told := fun entry flag member => by cases member

def Thread.cancelInProgress : Thread → List TaskId
  | .cancel { id := _, pc := .returned _ } => []
  | .cancel { id, pc := _ } => [id]
  | _ => []

def System.cancelsInProgress (system : System σ) : List TaskId :=
  system.threads.flatMap Thread.cancelInProgress

omit [TaskStore σ] [LawfulStore σ] in
theorem in_progress_of_signalling (signalling : entry ∈ system.signalling) :
    entry.1 ∈ system.cancelsInProgress := by
  obtain ⟨thread, member, about⟩ := mem_flatMap.mp signalling
  refine mem_flatMap.mpr ⟨thread, member, ?_⟩
  unfold Thread.signalling at about
  split at about
  · cases mem_singleton.mp about
    exact mem_singleton_self _
  · cases about

/-- In a run in which no request is persisted under an unset flag after its caller
is gone: once a cancellation of a cooperative task was reported as requested and
no call is in progress, the flag of the running handler's context is set. -/
theorem cooperative_flag_set (config : Config) (store : σ) (knownIds : List TaskId)
    (valid : LawfulStore.Valid store)
    (known : ∀ id, TaskStore.getEncodedTask store id ≠ none → id ∈ knownIds)
    (actions : List Action) (final : System σ)
    (guarded : Guarded System.step (fun system action => FreshIds system action ∧
      NoOrphanRequest system action) (System.boot config store knownIds) actions)
    (reached : runActions System.step (System.boot config store knownIds) actions = some final)
    (id : TaskId) (attempt flag : Nat) (context : ((id, attempt), flag) ∈ final.contexts)
    (cooperative : Holds (fun summary => final.config.modeOf summary = some .cooperative)
      (final.recordOf id))
    (returned : Event.cancelReturned id .cancellationRequested ∈ final.core.trace)
    (idle : id ∉ final.cancelsInProgress) : final.core.flags[flag]? = some true := by
  have signalled : Signalled final :=
    run_invariant (fun guard holds taken => signalled_step guard.1 guard.2 holds taken)
      (signalled_boot (ledger_boot valid known)) guarded reached
  obtain ⟨thread, member, live⟩ := mem_flatMap.mp context
  obtain ⟨task, present, running, -⟩ := signalled.granted.ledger.books.running id attempt
    (mem_flatMap.mpr ⟨thread, member, flagged_owned (contexts_flagged live)⟩)
  have settled := signalled.granted.granted id .cancellationRequested rfl returned
  have requested : task.summary.cancelRequested = true := by
    rcases settled.holds task present with terminal | ⟨requested, -⟩
    · rw [running] at terminal
      cases terminal
    · exact requested
  rcases signalled.told (id, attempt) flag context task present (cooperative task present)
      requested with set | signalling
  · exact set
  · exact (idle (in_progress_of_signalling signalling)).elim

end Run

/-- The first caller is dropped at its request, whose write commits; the second
one finds the request persisted. -/
def sampleOrphan : List Action :=
  sampleStart ++ [.call (.cancel sampleId)] ++ threadSteps [6, 6, 6, 6, 6] ++
    [.drop 6 {} true] ++ threadSteps [7] ++ [.call (.cancel sampleId)] ++
    threadSteps [8, 8, 8, 8, 8]

/-- The second caller is told that the cancellation was requested, and nobody sets
the flag of the handler that is running. -/
theorem cooperative_flag_unset :
    letI := sampleIdCodec
    ∃ final : System SqliteTaskStore,
      runActions System.step (System.boot (sampleConfig .cooperative) SqliteTaskStore.sample [])
          sampleOrphan = some final ∧
        ((sampleId, 1), 0) ∈ final.contexts ∧
        Holds (fun summary => final.config.modeOf summary = some .cooperative)
          (final.recordOf sampleId) ∧
        Event.cancelReturned sampleId .cancellationRequested ∈ final.core.trace ∧
        sampleId ∉ final.cancelsInProgress ∧ final.core.flags[0]? = some false := by
  let codec := sampleIdCodec
  exact run_reaching (by decide)

/-- A caller that stays sets the flag before it returns. -/
theorem cooperative_flag_set_sample :
    ∃ final : System MemoryTaskStore,
      runActions System.step (sampleSystem .cooperative)
          (sampleStart ++ [.call (.cancel sampleId)] ++ threadSteps [6, 6, 6, 6, 6, 6, 6]) =
            some final ∧
        ((sampleId, 1), 0) ∈ final.contexts ∧ final.core.flags[0]? = some true := by
  obtain ⟨final, reached, checked⟩ := @run_of_check _ _ System.step (sampleSystem .cooperative)
    (sampleStart ++ [.call (.cancel sampleId)] ++ threadSteps [6, 6, 6, 6, 6, 6, 6])
    (fun final => decide (((sampleId, 1), 0) ∈ final.contexts ∧
      Holds (fun summary => final.config.modeOf summary = some .cooperative)
        (final.recordOf sampleId) ∧
      Event.cancelReturned sampleId .cancellationRequested ∈ final.core.trace ∧
      sampleId ∉ final.cancelsInProgress))
    (by decide)
  obtain ⟨context, cooperative, returned, idle⟩ := of_decide_eq_true checked
  refine ⟨final, reached, context, ?_⟩
  exact cooperative_flag_set _ _ _ (with_limits_valid ..) (with_limits_known _ _ _ _) _ _
    (by decide) reached sampleId 1 0 context cooperative returned idle

end TaskService.Service
