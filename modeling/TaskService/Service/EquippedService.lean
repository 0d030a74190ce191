import TaskService.Engine.ReservationVerdicts
import TaskService.Service.ListedRecords
import TaskService.Service.SharedCells

/-!
# A service and its engine

Before it is ready, a service that starts on an empty store has no record and nothing on its
way to the store, so recovery finds nothing.  From then on records are rewritten in five ways
only: settled, kept running, resumed, requeued by their attempt, or blocked by a scan.

The scheduler asks the local engine for the resources of every record it could start.  The
verdict of a step that asks is the engine's answer here; the engine may be shared, so calls of
others and drops of leases come in between at any moment.

What the engine and the registries refuse for good they refuse at every attempt.  So a task
that has been started before is blocked only by an engine that has no tokens left, and such an
engine grants nothing any more.
-/

namespace TaskService.Service

open Library Model Store List

section FirstLifetime

variable {σ : Type} [TaskStore σ]

section Threads

variable {config : Config} {input : Input} {thread : Thread}

/-- What a dropped call may leave behind: a transition that settles its task, leaves it
running, or resumes it. -/
def Thread.Mild : Thread → Prop
  | .detached (.transition summary command) =>
      command.state.isTerminal = true ∨ command.state = .running ∨
        (command.state = .queued ∧ summary.state.kind = .blocked)
  | _ => True

theorem issued_mild {write : DetachedWrite} (wf : thread.Wf)
    (issued : thread.issuedWrite input = some write) : (Thread.detached write).Mild := by
  unfold Thread.issuedWrite at issued
  split at issued
  · cases issued
    trivial
  · cases issued
    exact .inl rfl
  · cases issued
    exact .inr (.inl rfl)
  · cases issued
    exact .inr (.inr ⟨rfl, wf.2.2.1⟩)
  · cases issued
    trivial
  · cases issued
    trivial
  · cases issued

inductive Rewrites (config : Config) (input : Input) (thread : Thread) (summary : TaskSummary)
    (command : TransitionCommand) : Prop
  | settles (terminal : command.state.isTerminal = true)
  | annotates (running : command.state = .running)
  | resumes (queued : command.state = .queued) (blocked : summary.state.kind = .blocked)
  | retries (started : TaskSummary) (completion : Completion)
      (place : thread = .run { started := started, pc := .finishWrite completion summary })
      (form : command =
        RunTask.finishCommand config started summary completion input.now input.later)
      (again : RunTask.retries config started summary completion = true)
  | blocks (scan : Scan) (reason : String)
      (place : thread = .scheduler (.markBlocked scan summary reason))
      (form : command = SchedulerPc.blockCommand summary reason)
  | recovers (rest : List TaskSummary) (after : Option TaskCursor)
      (place : thread = .starter (.requeue summary rest after))

omit [TaskStore σ] in
theorem next_rewrites {summary : TaskSummary} {command : TransitionCommand} (wf : thread.Wf)
    (mild : thread.Mild) (next : thread.nextTransition config input = some (summary, command)) :
    Rewrites config input thread summary command := by
  unfold Thread.nextTransition at next
  split at next
  · cases next
    exact .settles rfl
  · cases next
    exact .annotates rfl
  · cases next
    exact .resumes rfl wf.2.2.1
  · rename_i started completion latest
    cases next
    cases again : RunTask.retries config started summary completion with
    | true => exact .retries started completion rfl rfl again
    | false =>
      apply Rewrites.settles
      simp only [RunTask.finishCommand, again, Bool.false_eq_true, ↓reduceIte]
      exact wf.1
  · split at next
    · cases next
      exact .annotates rfl
    · cases next
      exact .annotates rfl
    · cases next
      exact .annotates rfl
    · cases next
  · rename_i scan read reason
    cases next
    exact .blocks scan reason rfl rfl
  · rename_i read rest after
    cases next
    exact .recovers rest after rfl
  · cases next
    rcases mild with terminal | running | ⟨queued, blocked⟩
    · exact .settles terminal
    · exact .annotates running
    · exact .resumes queued blocked
  · cases next

end Threads

section Orderly

variable [LawfulStore σ] {system next : System σ} {index : Nat} {input : Input}
  {thread : Thread} {result : Step σ}

/-- A service in its first lifetime: what its scans have listed is timely, dropped calls leave
mild writes only, and before it is ready there are neither records nor such writes. -/
structure Orderly (system : System σ) : Prop where
  ledger : Ledger system
  timely : Timely system
  mild : ∀ thread ∈ system.threads, thread.Mild
  unopened : system.core.ready = false →
    (∀ id, system.recordOf id = none) ∧ ∀ write, Thread.detached write ∉ system.threads

theorem Orderly.nothing_pending (orderly : Orderly system) (closed : system.core.ready = false) :
    system.pending = [] := by
  apply flatMap_eq_nil_iff.mpr
  intro thread member
  have dormant := orderly.ledger.staff.asleep closed thread member
  cases thread with
  | detached write => exact ((orderly.unopened closed).2 write member).elim
  | submit call => cases dormant
  | _ => rfl

omit [TaskStore σ] [LawfulStore σ] in
theorem dropped_awake {core after : Core σ} (dropped : thread.dropped core = some after) :
    thread.dormant = false := by
  cases thread with
  | submit | cancel | resume => rfl
  | publisher pc =>
    cases pc with
    | idle => cases dropped
    | _ => rfl
  | _ => cases dropped

theorem orderly_moved (orderly : Orderly system) (lookup : system.threads[index]? = some thread)
    (deed : system.Deed input thread result) (conduct : Conduct system.core thread result)
    (ledger : Ledger (system.moved index result)) (timely : Timely (system.moved index result))
    (mild : ∀ next ∈ result.threads, next.Mild)
    (attached : system.core.ready = false → ∀ write, Thread.detached write ∉ result.threads) :
    Orderly (system.moved index result) := by
  refine ⟨ledger, timely, ?_, ?_⟩
  · intro other member
    rcases mem_advance_or_mem member with new | old
    · exact mild other new
    · exact orderly.mild other old
  · intro closed
    have before : system.core.ready = false := by
      rcases conduct.ready with same | ⟨_, opened, _⟩
      · exact same.symm.trans closed
      · exact (Bool.false_ne_true (closed.symm.trans opened)).elim
    obtain ⟨empty, undetached⟩ := orderly.unopened before
    refine ⟨?_, ?_⟩
    · intro id
      have unborn : id ∉ system.pending := by
        rw [orderly.nothing_pending before]
        exact not_mem_nil
      cases present : (system.moved index result).recordOf id with
      | none => rfl
      | some task =>
        obtain ⟨earlier, held, -⟩ :=
          deed_evolves_by follows_revision orderly.ledger lookup deed unborn task present
        rw [empty id] at held
        cases held
    · intro write member
      rcases mem_advance_or_mem member with new | old
      · exact attached before write new
      · exact undetached write old

theorem orderly_frame (orderly : Orderly system) (ledger : Ledger next) (timely : Timely next)
    (threads : next.threads = system.threads) (ready : next.core.ready = system.core.ready)
    (evolves : ∀ id, Evolves (system.recordOf id) (next.recordOf id)) : Orderly next := by
  refine ⟨ledger, timely, ?_, ?_⟩
  · rw [threads]
    exact orderly.mild
  · intro closed
    obtain ⟨empty, undetached⟩ := orderly.unopened (ready.symm.trans closed)
    refine ⟨?_, ?_⟩
    · intro id
      cases present : next.recordOf id with
      | none => rfl
      | some task =>
        obtain ⟨earlier, held, -⟩ := evolves id task present
        rw [empty id] at held
        cases held
    · rw [threads]
      exact undetached

theorem orderly_step [PagedStore σ] {action : Action} (guard : WithoutRestart system action)
    (orderly : Orderly system) (taken : system.step action = some next) : Orderly next := by
  have ledger := ledger_step guard.1 orderly.ledger taken
  have timely := timely_step orderly.ledger orderly.timely taken
  cases step_move taken with
  | stepped lookup stepped =>
    have attached := no_detached_step stepped
    apply orderly_moved orderly lookup
      (orderly.ledger.footprint lookup stepped).deed (thread_conduct stepped) ledger
      timely
    · intro other member
      cases other with
      | detached write => exact (attached write member).elim
      | _ => trivial
    · exact fun _ => attached
  | @dropped index input issued thread result lookup left =>
    have member := mem_of_getElem? lookup
    have wf := orderly.ledger.wf thread member
    apply orderly_moved orderly lookup (drop_footprint system.config wf left).deed
      (drop_conduct left) ledger timely
    · intro other among
      have remains : thread.remains.Mild := by
        cases thread <;> trivial
      cases left with
      | idle dropped left =>
        subst left
        rw [mem_singleton.mp among]
        exact remains
      | issued dropped carried left =>
        subst left
        rcases mem_cons.mp among with rfl | spawned
        · exact remains
        · rw [mem_singleton.mp spawned]
          exact issued_mild wf carried
    · -- Futures are dropped only once the service is ready.
      intro closed
      have dormant := orderly.ledger.staff.asleep closed thread member
      obtain ⟨_, dropped⟩ := left.dropped
      rw [dropped_awake dropped] at dormant
      cases dormant
  | call call ready =>
    refine ⟨ledger, timely, ?_, ?_⟩
    · intro other member
      rcases mem_append.mp member with old | new
      · exact orderly.mild other old
      · rw [mem_singleton.mp new]
        cases call <;> trivial
    · exact fun closed => (Bool.false_ne_true (closed.symm.trans ready)).elim
  | flags keeps =>
    exact orderly_frame orderly ledger timely rfl rfl (fun _ => follows_revision.of_eq rfl)
  | progress command =>
    have effect := LawfulStore.progress_effect system.core.store command
      orderly.ledger.valid
    exact orderly_frame orderly ledger timely rfl rfl (follows_revision.progress effect)
  | prune cutoff maxRows =>
    have kept := LawfulStore.prune_effect system.core.store cutoff maxRows
      orderly.ledger.valid
    exact orderly_frame orderly ledger timely rfl rfl (fun id => follows_revision.kept (kept id))
  | restart config => exact (guard.2 config rfl).elim

theorem orderly_boot {config : Config} {store : σ} {knownIds : List TaskId}
    (valid : LawfulStore.Valid store) (empty : ∀ id, TaskStore.getEncodedTask store id = none) :
    Orderly (System.boot config store knownIds) := by
  have ledger := @ledger_boot _ _ _ config _ knownIds valid
    (fun id present => (present (empty id)).elim)
  refine ⟨ledger, (forall_mem_nil _), ?_, fun _ => ⟨empty, ?_⟩⟩
  · intro thread member
    simp only [System.boot, bootThreads, mem_cons, not_mem_nil, or_false] at member
    rcases member with rfl | rfl | rfl | rfl <;> trivial
  · intro write member
    simp [System.boot, bootThreads] at member

end Orderly

end FirstLifetime

def reservationVerdict : Except Engine.EngineError Nat → Except String Bool
  | .ok _ => .ok true
  | .error .temporarilyUnavailable => .ok false
  | .error .unsatisfiable => .error "requested resources exceed configured capacity"
  | .error error => .error error.text

structure Equipped (σ : Type) where
  system : System σ
  engine : Engine.EngineState

inductive EquippedAction where
  | service (action : Action)
  | engine (action : Engine.EngineAction)

def EquippedAction.serviced : EquippedAction → Option Action
  | .service action => some action
  | .engine _ => none

def serviced (actions : List EquippedAction) : List Action :=
  actions.filterMap EquippedAction.serviced

variable {σ : Type}

/-- The request an action puts to the engine, and the verdict it goes on with. -/
def System.asks (system : System σ) : Action → Option (ResourceRequest × Except String Bool)
  | .thread index input =>
      match system.threads[index]? with
      | some (.scheduler (.dispatch scan)) => do
          let summary ← scan.rest.head?
          if (system.config.handlers.dispatchProblem summary).isNone then
            some (summary.resourceLimit, input.reservation)
          else none
      | _ => none
  | _ => none

variable [TaskStore σ]

def Equipped.step (capacity : Engine.ResourceCapacity) (state : Equipped σ) :
    EquippedAction → Option (Equipped σ)
  | .engine action =>
      (Engine.engineStep capacity state.engine action).map fun engine => { state with engine }
  | .service action =>
      match state.system.asks action with
      | none => (state.system.step action).map fun system => { state with system }
      | some (request, verdict) =>
          -- the keys of the source's map are in order
          if ordered : (request.custom.map Prod.fst).Pairwise (· < ·) then do
            let answer ← Engine.tryPrepareTyped capacity state.engine.ledger request
            let engine ← Engine.engineStep capacity state.engine (.tryPrepare ⟨request, ordered⟩)
            let system ← state.system.step action
            if verdict = reservationVerdict answer.2 then some { system, engine } else none
          else none

variable {capacity : Engine.ResourceCapacity} {state next : Equipped σ} {action : Action}

/-- What an action of the service means for the service, and what it tells of the engine. -/
structure Served (capacity : Engine.ResourceCapacity) (state : Equipped σ) (action : Action)
    (next : Equipped σ) : Prop where
  taken : state.system.step action = some next.system
  spent : state.engine.ledger.Spent → next.engine.ledger.Spent
  granted : ∀ request, state.system.asks action = some (request, .ok true) →
    capacity.unsatisfiable request = false ∧ ¬ state.engine.ledger.Spent
  refused : ∀ request reason, state.system.asks action = some (request, .error reason) →
    capacity.unsatisfiable request = true ∨ state.engine.ledger.Spent

theorem served_of_step (stepped : state.step capacity (.service action) = some next) :
    Served capacity state action next := by
  unfold Equipped.step at stepped
  cases asked : state.system.asks action with
  | none =>
    simp only [asked] at stepped
    obtain ⟨system, taken, rfl⟩ := Option.map_eq_some_iff.mp stepped
    refine ⟨taken, id, ?_, ?_⟩
    · intro request asks
      cases asked.symm.trans asks
    · intro request reason asks
      cases asked.symm.trans asks
  | some question =>
    obtain ⟨request, verdict⟩ := question
    simp only [asked] at stepped
    split at stepped
    · obtain ⟨⟨ledger, outcome⟩, answered, stepped⟩ := Option.bind_eq_some_iff.mp stepped
      obtain ⟨engine, prepared, stepped⟩ := Option.bind_eq_some_iff.mp stepped
      obtain ⟨system, taken, stepped⟩ := Option.bind_eq_some_iff.mp stepped
      split at stepped
      · rename_i same
        cases stepped
        refine ⟨taken, fun spent => Engine.spent_step spent prepared, ?_, ?_⟩
        · intro other asks
          cases asked.symm.trans asks
          cases outcome with
          | ok token => exact Engine.granted_of_try_prepare answered
          | error error => cases error <;> cases same
        · intro other reason asks
          cases asked.symm.trans asks
          cases outcome with
          | ok token => cases same
          | error error =>
            rcases (Engine.refused_of_try_prepare answered).2 with rfl | final
            · cases same
            · exact final
      · cases stepped
    · cases stepped

theorem serviced_run {start final : Equipped σ} {actions : List EquippedAction}
    (reached : runActions (Equipped.step capacity) start actions = some final) :
    runActions System.step start.system (serviced actions) = some final.system := by
  induction actions generalizing start with
  | nil =>
    cases reached
    rfl
  | cons action rest ih =>
    obtain ⟨next, taken, remaining⟩ := run_cons_eq_some.mp reached
    cases action with
    | engine action =>
      obtain ⟨engine, -, rfl⟩ := Option.map_eq_some_iff.mp taken
      exact @ih { start with engine } remaining
    | service action =>
      exact run_cons_eq_some.mpr ⟨next.system, (served_of_step taken).taken, ih remaining⟩

section Verdicts

/-- The registries know the task's kind, payload and codec, and the engine has the capacity. -/
def Eligible (config : Config) (capacity : Engine.ResourceCapacity) (summary : TaskSummary) :
    Prop :=
  config.handlers.dispatchProblem summary = none ∧
    capacity.unsatisfiable summary.resourceLimit = false

theorem Eligible.of_same {config : Config} {first second : TaskSummary}
    (eligible : Eligible config capacity first) (same : dispatched first = dispatched second) :
    Eligible config capacity second := by
  simp only [dispatched, Prod.mk.injEq] at same
  obtain ⟨kind, type, schema, codec, limit⟩ := same
  unfold Eligible Handlers.dispatchProblem at eligible ⊢
  rw [← kind, ← type, ← schema, ← codec, ← limit]
  exact eligible

/-- The record a scheduler is about to start, or, with `false`, to block. -/
def SchedulerPc.judged : SchedulerPc → List (TaskSummary × Bool)
  | .admission _ summary | .admitted _ summary | .start _ summary => [(summary, true)]
  | .markBlocked _ summary _ => [(summary, false)]
  | _ => []

def Thread.judged : Thread → List (TaskSummary × Bool)
  | .scheduler pc => pc.judged
  | _ => []

def Judged (config : Config) (capacity : Engine.ResourceCapacity) (engine : Engine.EngineState) :
    TaskSummary × Bool → Prop
  | (summary, true) => Eligible config capacity summary
  | (summary, false) => Eligible config capacity summary → engine.ledger.Spent

theorem scan_end_judged (scan : Scan) (completed : Bool) :
    (SchedulerPc.scanEnd scan completed).judged = [] := by
  unfold SchedulerPc.scanEnd
  split <;> rfl

/-- The verdict a thread holds was held before its step, or is the engine's of that moment. -/
def JudgedStep (capacity : Engine.ResourceCapacity) (state : Equipped σ)
    (before : List (TaskSummary × Bool)) (entry : TaskSummary × Bool) : Prop :=
  entry ∈ before ∨ (Judged state.system.config capacity state.engine entry ∧
    (entry.2 = true → ¬ state.engine.ledger.Spent))

variable {index : Nat} {input : Input} {thread : Thread} {result : Step σ}
  {entry : TaskSummary × Bool}

theorem thread_judged (served : Served capacity state (.thread index input) next)
    (lookup : state.system.threads[index]? = some thread)
    (stepped : thread.step state.system.config state.system.core input = some result)
    (member : entry ∈ result.threads.flatMap Thread.judged) :
    JudgedStep capacity state thread.judged entry := by
  obtain ⟨following, among, judges⟩ := mem_flatMap.mp member
  cases following with
  | scheduler pc =>
    obtain ⟨before, rfl⟩ := scheduler_source (thread_conduct stepped) among
    cases scheduler_step_cases before stepped with
    | ineligible scan summary rest reason left problem =>
      cases mem_singleton.mp among
      cases mem_singleton.mp judges
      refine .inr ⟨fun eligible => ?_, fun granted => by cases granted⟩
      rw [eligible.1] at problem
      cases problem
    | impossible scan summary rest reason left eligible verdict =>
      cases mem_singleton.mp among
      cases mem_singleton.mp judges
      have asks : state.system.asks (.thread index input) =
          some (summary.resourceLimit, .error reason) := by
        simp [System.asks, lookup, left, eligible, verdict]
      refine .inr ⟨fun satisfied => ?_, fun granted => by cases granted⟩
      rcases served.refused _ _ asks with never | spent
      · rw [satisfied.2] at never
        cases never
      · exact spent
    | reserves scan summary rest left eligible verdict =>
      cases mem_singleton.mp among
      cases mem_singleton.mp judges
      have asks : state.system.asks (.thread index input) =
          some (summary.resourceLimit, .ok true) := by
        simp [System.asks, lookup, left, eligible, verdict]
      obtain ⟨satisfied, tokens⟩ := served.granted _ asks
      exact .inr ⟨⟨eligible, satisfied⟩, fun _ => tokens⟩
    | enters | granted =>
      cases mem_singleton.mp among
      exact .inl judges
    | scanShut | scanFaulted | scanFull | pageShut | pageFull | completed =>
      cases mem_singleton.mp among
      rw [show Thread.judged (.scheduler _) = [] from scan_end_judged _ _] at judges
      cases judges
    | _ =>
      simp only [Step.threads, mem_cons, not_mem_nil, or_false, reduceCtorEq] at among
      cases among
      cases judges
  | _ => cases judges

/-- What a thread holds it held before the action, or has it from a step, or from a caller that
was dropped. -/
theorem token_origin [LawfulStore σ] {α : Type} {tokens : Thread → List α} {token : α}
    {system later : System σ} (ledger : Ledger system)
    (stays : ∀ config, action ≠ .restart config) (taken : system.step action = some later)
    (calls : ∀ call : ClientCall, tokens call.thread = [])
    (member : token ∈ later.threads.flatMap tokens) :
    token ∈ system.threads.flatMap tokens ∨
      (∃ index input thread result, action = .thread index input ∧
        system.threads[index]? = some thread ∧
        thread.step system.config system.core input = some result ∧
        token ∈ result.threads.flatMap tokens) ∨
      ∃ input thread result, Dropped system.core thread input result ∧
        token ∈ result.threads.flatMap tokens := by
  cases step_change ledger taken with
  | stepped lookup stepped =>
    rcases mem_tokens_advance_or_mem tokens member with renewed | old
    · exact .inr (.inl ⟨_, _, _, _, rfl, lookup, stepped, renewed⟩)
    · exact .inl old
  | dropped lookup left =>
    rcases mem_tokens_advance_or_mem tokens member with renewed | old
    · exact .inr (.inr ⟨_, _, _, left, renewed⟩)
    · exact .inl old
  | aside unmoved =>
    rw [unmoved.tokens tokens calls] at member
    exact .inl member
  | restart config => exact (stays config rfl).elim

variable [LawfulStore σ] (ledger : Ledger state.system)
  (stays : ∀ config, action ≠ .restart config) (served : Served capacity state action next)

include ledger stays served in
theorem judged_step (member : entry ∈ next.system.threads.flatMap Thread.judged) :
    JudgedStep capacity state (state.system.threads.flatMap Thread.judged) entry := by
  rcases token_origin ledger stays served.taken (fun call => by cases call <;> rfl) member with
    old | ⟨index, input, thread, result, rfl, lookup, stepped, renewed⟩ |
      ⟨input, thread, result, left, renewed⟩
  · exact .inl old
  · exact (thread_judged served lookup stepped renewed).imp_left (mem_tokens lookup)
  · obtain ⟨following, among, judges⟩ := mem_flatMap.mp renewed
    cases following with
    | scheduler pc =>
      obtain ⟨before, rfl⟩ := scheduler_source (drop_conduct left) among
      obtain ⟨_, dropped⟩ := left.dropped
      cases dropped
    | _ => cases judges

/-- The engine has no tokens left, and the scheduler is not about to start a task. -/
def Barred (state : Equipped σ) : Prop :=
  state.engine.ledger.Spent ∧
    ∀ summary, (summary, true) ∉ state.system.threads.flatMap Thread.judged

include ledger stays served in
theorem barred_step (barred : Barred state) : Barred next := by
  refine ⟨served.spent barred.1, ?_⟩
  intro summary member
  rcases judged_step ledger stays served member with old | ⟨_, tokens⟩
  · exact barred.2 summary old
  · exact tokens rfl barred.1

omit [TaskStore σ] [LawfulStore σ] in
theorem barred_of_blocking {scan : Scan} {summary : TaskSummary} {reason : String}
    (staff : Staff state.system) (spent : state.engine.ledger.Spent)
    (lookup : state.system.threads[index]? =
      some (.scheduler (.markBlocked scan summary reason))) : Barred state := by
  refine ⟨spent, ?_⟩
  intro other member
  obtain ⟨thread, among, judges⟩ := mem_flatMap.mp member
  obtain ⟨position, found⟩ := mem_iff_getElem?.mp among
  cases thread with
  | scheduler pc =>
    have same := staff.alone found lookup (mem_singleton_self Role.scheduler)
      (mem_singleton_self Role.scheduler)
    rw [same, lookup] at found
    cases found
    cases mem_singleton.mp judges
  | _ => cases judges

end Verdicts

section Vetting

variable [LawfulStore σ]

/-- Verdicts that wait to be carried out were given for good, and a task that was started
before is eligible. -/
structure Vetted (capacity : Engine.ResourceCapacity) (state : Equipped σ) : Prop where
  judged : ∀ entry ∈ state.system.threads.flatMap Thread.judged,
    Judged state.system.config capacity state.engine entry
  eligible : ∀ id, Holds (fun summary => summary.attempt = 0 ∨
    Eligible state.system.config capacity summary) (state.system.recordOf id)

theorem Judged.later {config : Config} {before after : Engine.EngineState}
    {entry : TaskSummary × Bool} (judged : Judged config capacity before entry)
    (spent : before.ledger.Spent → after.ledger.Spent) : Judged config capacity after entry := by
  obtain ⟨summary, granted⟩ := entry
  cases granted with
  | true => exact judged
  | false => exact fun eligible => spent (judged eligible)

omit [LawfulStore σ] in
theorem Timely.listing {index : Nat} {pc : SchedulerPc} {scan : Scan} {summary : TaskSummary}
    {system : System σ} {task : StoredTask} (timely : Timely system)
    (lookup : system.threads[index]? = some (.scheduler pc)) (at_ : pc.scan = some scan)
    (held : summary ∈ pc.held) (present : system.recordOf summary.id = some task) :
    Due summary scan.now ∧ SameListing summary task.summary := by
  have listed : (summary, scan.now) ∈ pc.listed := (mem_listed at_ _).mpr ⟨held, rfl⟩
  obtain ⟨due, shows⟩ := timely _ (mem_tokens lookup listed)
  exact ⟨due, shows task present⟩

theorem step_config (ledger : Ledger state.system) (stays : ∀ config, action ≠ .restart config)
    {after : System σ} (taken : state.system.step action = some after) :
    after.config = state.system.config := by
  cases step_change ledger taken with
  | stepped | dropped => rfl
  | aside unmoved => exact unmoved.config
  | restart config => exact (stays config rfl).elim

theorem vetted_step (orderly : Orderly state.system) (stays : ∀ config, action ≠ .restart config)
    (served : Served capacity state action next) (vetted : Vetted capacity state) :
    Vetted capacity next := by
  have config : next.system.config = state.system.config :=
    step_config orderly.ledger stays served.taken
  refine ⟨?_, ?_⟩
  · intro entry member
    rw [config]
    rcases judged_step orderly.ledger stays served member with old | ⟨new, _⟩
    · exact (vetted.judged entry old).later served.spent
    · exact new.later served.spent
  · rw [config]
    obtain ⟨system, engine⟩ := next
    intro id
    have holds := vetted.eligible id
    cases step_change orderly.ledger served.taken with
    | stepped lookup stepped =>
      apply holds_moved_by orderly.ledger lookup
        (orderly.ledger.footprint lookup stepped).deed holds
      · exact fun _ _ _ => .inl rfl
      · rintro scan summary task rfl rfl present _ _
        have granted := vetted.judged (summary, true)
          (mem_tokens lookup (mem_singleton_self _))
        have same := (orderly.timely.listing lookup rfl mem_cons_self present).2.1
        exact ⟨.inr (granted.of_same same), .inr (granted.of_same same)⟩
      · intro summary command task later _ present _ _ _ written
        rcases written with ⟨-, shape⟩ | ⟨-, shape⟩
        · rw [shape]
          exact (holds task present).imp_right fun eligible => eligible.of_same rfl
        · rw [shape]
          exact (holds task present).imp_right fun eligible => eligible.of_same rfl
    | dropped lookup left =>
      exact holds.of_eq (drop_records left _)
    | aside unmoved =>
      exact unmoved.holds id
        (fun _ _ known => known.imp_right fun eligible => eligible.of_same rfl) holds
    | restart other => exact (stays other rfl).elim

end Vetting

end TaskService.Service
