import TaskService.Service.Flights
import TaskService.Service.Lasting
import TaskService.Store.MemoryTaskStoreLaws

/-!
# Finished attempts

`finish` reads the record, compare-and-sets the outcome against the version it
has read, and on a conflict gives up as soon as it sees a newer version.  When
nobody rewrites the record between the read and the compare-and-set, a finish
that returns without a fault has recorded its outcome.  A cancellation request
in between makes it return with the attempt still running.
-/

namespace TaskService.Service

open Library Model Store List

def RunPc.landed : RunPc → Option Completion
  | .clearEntry completion => some completion
  | .exit finished | .done finished => finished
  | _ => none

def RunPc.early : RunPc → Bool
  | .load | .register | .recheck _ | .setFlag _ | .running _ | .unregister _ | .finishRead _
  | .exit none | .done none => true
  | .finishWrite _ _ | .clearEntry _ | .checkCompeting _ _ | .exit (some _) | .done (some _) =>
      false

theorem early_not_landed {pc : RunPc} (early : pc.early = true) : pc.landed = none := by
  cases pc with
  | exit finished | done finished =>
    cases finished with
    | none => rfl
    | some completion => cases early
  | finishWrite | clearEntry | checkCompeting =>
    cases early
  | _ => rfl

variable {σ : Type} [TaskStore σ]

inductive FinishStep (config : Config) (core : Core σ) (input : Input) (task : RunTask)
    (result : Step σ) : Prop
  | early (pc : RunPc) (form : result.thread = .run { task with pc := pc })
      (early : pc.early = true)
  | read (completion : Completion) (stored : StoredTask) (at_ : task.pc = .finishRead completion)
      (found : core.recordOf task.started.id = some stored) (store : result.core.store = core.store)
      (form : result.thread = .run { task with pc := .finishWrite completion stored.summary })
  | ended (completion : Completion) (stored : StoredTask) (at_ : task.pc = .finishRead completion)
      (found : core.recordOf task.started.id = some stored)
      (terminal : stored.summary.state.isTerminal = true)
  | wrote (completion : Completion) (latest written : TaskSummary)
      (at_ : task.pc = .finishWrite completion latest) (called : core.callTransition input
        (RunTask.finishCommand config task.started latest completion input.now input.later) =
          (result.core, .ok written))
      (form : result.thread = .run { task with pc := .clearEntry completion })
  | lost (completion : Completion) (latest : TaskSummary) (after : Core σ)
      (at_ : task.pc = .finishWrite completion latest) (called : core.callTransition input
        (RunTask.finishCommand config task.started latest completion input.now input.later) =
          (after, .error .conflict))
  | faulted (pc : RunPc) (form : result.thread = .run { task with pc := pc })
      (exits : pc.landed.isSome = true) (fault : result.core.fault.isSome = true)
  | contested (completion : Completion) (version : Nat)
      (at_ : task.pc = .checkCompeting completion version)
  | leaves (completion : Completion) (pc : RunPc) (at_ : task.pc.landed = some completion)
      (form : result.thread = .run { task with pc := pc }) (landed : pc.landed = some completion)

section Thread

variable {config : Config} {core : Core σ} {input : Input} {result : Step σ}

omit [TaskStore σ] in
theorem latch_fault_is_some (message : String) : (core.latchFault message).fault.isSome = true := by
  unfold Core.latchFault
  simp only
  split
  · rfl
  · rename_i latched
    exact Option.isSome_iff_ne_none.mpr (by simpa using latched)

theorem run_finish_step (task : RunTask) (stepped : task.step config core input = some result) :
    FinishStep config core input task result := by
  obtain ⟨started, pc⟩ := task
  cases run_step_cases _ stepped with
  | unfinished | disappeared | unwritten => exact .faulted _ rfl rfl (latch_fault_is_some _)
  | ended completion latest called terminal =>
    exact .ended completion latest rfl (call_get_record called) terminal
  | reads completion latest called =>
    exact .read completion latest rfl (call_get_record called) rfl rfl
  | @wrote completion latest written after called =>
    exact .wrote completion latest written rfl called rfl
  | @lost completion latest after called => exact .lost completion latest after rfl called
  | clears completion => exact .leaves completion _ rfl rfl rfl
  | contests completion version =>
    exact .contested completion version rfl
  | exits finished =>
    cases finished with
    | none => exact .early _ rfl rfl
    | some completion => exact .leaves completion _ rfl rfl rfl
  | _ =>
    exact .early _ rfl rfl

end Thread

def Beyond (attempt : Nat) (summary : TaskSummary) : Prop :=
  attempt ≤ summary.attempt ∧ (summary.attempt = attempt → summary.state ≠ .running)

/-- A task that has gone past an attempt for good: nobody creates it again, and
whoever still holds a summary of the running attempt holds an old one. -/
structure Outlived (system : System σ) (entry : TaskId × Nat) : Prop
    extends Lasting (Beyond entry.2) system entry.1 where
  stale : ∀ summary ∈ system.held, summary.id = entry.1 → summary.attempt = entry.2 →
    summary.state = .running → ∀ task, system.recordOf entry.1 = some task →
    summary.stateVersion < task.summary.stateVersion

theorem Outlived.not_running {system : System σ} {entry : TaskId × Nat}
    (outlived : Outlived system entry) : ¬ RunningAt (system.recordOf entry.1) entry.2 := by
  rintro ⟨task, present, state, counted⟩
  exact (outlived.holds task present).2 counted state

section Past

variable [LawfulStore σ] {system : System σ} {index : Nat} {input : Input} {thread : Thread}
  {result : Step σ} {entry : TaskId × Nat}

theorem beyond_starts {attempt : Nat} {summary : TaskSummary} (command : StartCommand)
    (beyond : Beyond attempt summary) (queued : summary.state = .queued) :
    Starts (Beyond attempt) summary command := by
  refine ⟨⟨?_, ?_⟩, beyond.1, ?_⟩
  · exact Nat.le_succ_of_le beyond.1
  · intro same
    have counted : summary.attempt + 1 = attempt := same
    have least := beyond.1
    omega
  · intro _
    rw [queued]
    simp

theorem beyond_survives (ledger : Ledger system)
    (lookup : system.threads[index]? = some thread) {summary : TaskSummary}
    {command : TransitionCommand} {task : StoredTask}
    (next : thread.nextTransition system.config input = some (summary, command))
    (present : system.recordOf entry.1 = some task) (same : command.id = entry.1)
    (matched : TransitionMatches task.summary command) (outlived : Outlived system entry) :
    Survives (Beyond entry.2) task.summary command := by
  have member := mem_of_getElem? lookup
  obtain ⟨held, commandOn, -⟩ := next_transition_cases (ledger.wf thread member) next
  have least := (outlived.holds task present).1
  have stopped : task.summary.attempt = entry.2 → command.state ≠ .running := by
    intro counted running
    obtain ⟨state, expected⟩ := commandOn.annotates running
    have older := outlived.stale summary (mem_tokens lookup held)
      (commandOn.id.symm.trans same)
      (expected.symm.trans (matched.2.1.symm.trans counted)) state task present
    rw [← commandOn.version, ← matched.1] at older
    exact Nat.lt_irrefl _ older
  exact ⟨fun _ => ⟨least, stopped⟩, fun _ => ⟨least, stopped⟩⟩

omit [LawfulStore σ] in
theorem deed_held (deed : system.Deed input thread result) :
    ∀ summary ∈ result.threads.flatMap Thread.held,
      summary ∈ thread.held ∨ system.core.Shows summary := by
  intro summary member
  cases deed with
  | quiet _ _ held => exact held summary member
  | transition _ _ _ _ _ held | started _ _ _ _ _ held => exact .inl (held summary member)
  | generated _ _ _ _ held | accepted _ _ _ _ _ held | published _ _ _ _ held
  | archived _ _ _ held =>
    rw [held] at member
    cases member

theorem outlived_moved (ledger : Ledger system) (lookup : system.threads[index]? = some thread)
    (deed : system.Deed input thread result) (fresh : input.Fresh system.core)
    (outlived : Outlived system entry) : Outlived (system.moved index result) entry := by
  refine ⟨?_, ?_⟩
  · apply lasting_moved ledger lookup deed fresh outlived.toLasting
    · exact fun summary command beyond queued _ => beyond_starts command beyond queued
    · exact fun summary command task next present same matched =>
        beyond_survives ledger lookup next present same matched outlived
  · intro summary among named counted running task present
    obtain ⟨earlier, shown, follows⟩ :=
      deed_evolves_by follows_revision ledger lookup deed outlived.unborn task present
    have older : summary.stateVersion < earlier.summary.stateVersion := by
      have old : summary ∈ system.held → summary.stateVersion < earlier.summary.stateVersion :=
        fun held => outlived.stale summary held named counted running earlier shown
      rcases mem_held_moved among with renewed | held
      · rcases deed_held deed summary renewed with held | ⟨read, found, rfl⟩
        · exact old (mem_tokens lookup held)
        · -- The attempt is not running any more, so nobody reads it running.
          rw [named] at found
          exact ((outlived.holds read found).2 counted running).elim
      · exact old held
    exact Nat.lt_of_lt_of_le older follows.version_le

omit [LawfulStore σ] in
theorem Outlived.aside {next : System σ} (outlived : Outlived system entry)
    (unmoved : Aside system next) : Outlived next entry := by
  refine ⟨outlived.toLasting.aside unmoved fun _ _ beyond => beyond, ?_⟩
  rw [System.held, unmoved.tokens Thread.held fun call => by cases call <;> rfl]
  intro summary among named counted running later present
  obtain ⟨earlier, shown, follows⟩ := unmoved.evolves follows_revision entry.1 later present
  exact Nat.lt_of_lt_of_le
    (outlived.stale summary among named counted running earlier shown) follows.version_le

theorem outlived_step {next : System σ} {action : Action} (fresh : FreshIds system action)
    (ledger : Ledger system) (stays : ∀ config, action ≠ .restart config)
    (taken : system.step action = some next) (outlived : Outlived system entry) :
    Outlived next entry := by
  cases step_change ledger taken with
  | stepped lookup stepped =>
    exact outlived_moved ledger lookup (ledger.footprint lookup stepped).deed fresh outlived
  | dropped lookup left =>
    exact outlived_moved ledger lookup (ledger.left_footprint lookup left).deed
      (fun id minted => by cases minted) outlived
  | aside unmoved => exact outlived.aside unmoved
  | restart config => exact (stays config rfl).elim

end Past

def Thread.finishing : Thread → List TaskId
  | .run { started, pc := .finishWrite _ _ } => [started.id]
  | _ => []

def System.finishing (system : System σ) : List TaskId :=
  system.threads.flatMap Thread.finishing

/-- Whether a thread other than the one that finishes the task is about to
rewrite its record. -/
def System.overtakes (system : System σ) (index : Nat) (input : Input) (id : TaskId) : Bool :=
  match system.threads[index]?, system.recordOf id with
  | some thread, some task =>
      !thread.finishing.contains id &&
        match thread.nextTransition system.config input with
        | some (_, command) =>
            decide (command.id = id) && decide (TransitionMatches task.summary command)
        | none => false
  | _, _ => false

/-- Nobody rewrites a record between the read and the compare-and-set of its `finish`. -/
def NoOvertaking (system : System σ) : Action → Prop :=
  OnSteps fun index input => ∀ id ∈ system.finishing, system.overtakes index input id = false

instance (system : System σ) (action : Action) : Decidable (NoOvertaking system action) :=
  inferInstanceAs (Decidable (OnSteps _ action))

/-- The outcome `finish` records for an attempt: its terminal state, or a retry. -/
def Outcome (started : TaskSummary) (completion : Completion) (summary : TaskSummary) : Prop :=
  summary.attempt = started.attempt ∧
    ((summary.state = completion.state ∧ completion.state.isTerminal = true) ∨
      (summary.state = .queued ∧ summary.retryNotBeforeMs.isSome = true))

def Expected (started latest summary : TaskSummary) : Prop :=
  summary.state = .running ∧ summary.attempt = started.attempt ∧
    summary.stateVersion = latest.stateVersion

/-- `recorded` holds of the attempts whose outcome was written. -/
structure Concluded [LawfulStore σ] (recorded : TaskSummary → Completion → Prop)
    (system : System σ) : Prop where
  ledger : Ledger system
  window : ∀ started completion latest,
    .run { started := started, pc := .finishWrite completion latest } ∈ system.threads →
    Present (Expected started latest) (system.recordOf started.id)
  uncontested : ∀ started completion version,
    .run { started := started, pc := .checkCompeting completion version } ∉ system.threads
  landed : ∀ started completion pc, .run { started := started, pc := pc } ∈ system.threads →
    pc.landed = some completion →
    system.core.fault.isSome = true ∨
      (Outlived system (started.id, started.attempt) ∧ recorded started completion)

section Steps

theorem finishing_claims {thread : Thread} {id : TaskId} (finishing : id ∈ thread.finishing) :
    id ∈ thread.claims := by
  unfold Thread.finishing at finishing
  split at finishing
  · rename_i started completion latest
    obtain rfl : id = started.id := by simpa using finishing
    simp [Thread.claims, Thread.pending, Thread.owned, RunPc.unwritten]
  · cases finishing

variable [LawfulStore σ] {system next : System σ} {index : Nat} {input : Input}
  {thread : Thread} {result : Step σ} {recorded recordedAfter : TaskSummary → Completion → Prop}

theorem expected_of_live (started latest : TaskSummary) : OfLive (Expected started latest) := by
  rintro summary ⟨state, -⟩
  rw [state]
  rfl

/-- Nobody else's step moves a record that `finish` is about to write. -/
theorem window_moved (concluded : Concluded recorded system)
    (lookup : system.threads[index]? = some thread) (deed : system.Deed input thread result)
    (quiet : NoOvertaking system (.thread index input)) {position : Nat}
    {started latest : TaskSummary} {completion : Completion} (elsewhere : position ≠ index)
    (found : system.threads[position]? =
      some (.run { started := started, pc := .finishWrite completion latest })) :
    Present (Expected started latest) ((system.moved index result).recordOf started.id) := by
  have here : started.id ∈ (Thread.run
      { started := started, pc := .finishWrite completion latest }).finishing := by
    simp [Thread.finishing]
  have among := mem_of_getElem? found
  have window := concluded.window started completion latest among
  apply present_written concluded.ledger deed (expected_of_live started latest) _ window
  · intro summary command following effect
    refine window.transition (expected_of_live started latest) effect ?_
    intro same task present matched
    have untouched := quiet started.id (mem_flatMap.mpr ⟨_, among, here⟩)
    have other : started.id ∉ thread.finishing := by
      intro also
      apply elsewhere
      exact position_of_token Thread.claims concluded.ledger.claims found lookup
        (finishing_claims here) (finishing_claims also)
    simp [System.overtakes, lookup, present, following, same, matched, other] at untouched
  · rintro summary ⟨state, -⟩ queued
    rw [queued] at state
    cases state

theorem outcome_beyond {started summary : TaskSummary} {completion : Completion}
    (outcome : Outcome started completion summary) : Beyond started.attempt summary := by
  obtain ⟨counted, ⟨state, terminal⟩ | ⟨queued, -⟩⟩ := outcome
  · refine ⟨Nat.le_of_eq counted.symm, fun _ running => ?_⟩
    rw [← state, running] at terminal
    cases terminal
  · refine ⟨Nat.le_of_eq counted.symm, fun _ running => ?_⟩
    rw [queued] at running
    cases running

theorem running_of_unwritten (ledger : Ledger system) {task : RunTask}
    (lookup : system.threads[index]? = some (.run task)) (unwritten : task.pc.unwritten = true) :
    RunningAt (system.recordOf task.started.id) task.started.attempt := by
  apply ledger.books.running
  apply mem_flatMap.mpr
  refine ⟨_, mem_of_getElem? lookup, ?_⟩
  simp [Thread.owned, unwritten]

theorem finish_wrote (ledger : Ledger system) {started latest written : TaskSummary}
    {completion : Completion} (lookup : system.threads[index]? =
      some (.run { started := started, pc := .finishWrite completion latest }))
    (deed : Deed system.config system.core input
      (.run { started := started, pc := .finishWrite completion latest }) result)
    (fresh : input.Fresh system.core) (called : system.core.callTransition input
      (RunTask.finishCommand system.config started latest completion input.now input.later) =
        (result.core, .ok written)) :
    Outlived (system.moved index result) (started.id, started.attempt) ∧
      Holds (Outcome started completion) ((system.moved index result).recordOf started.id) := by
  have member := mem_of_getElem? lookup
  obtain ⟨task, present, -, counted⟩ := running_of_unwritten ledger lookup rfl
  have terminal := (ledger.wf _ member).1
  have outcome : Holds (fun summary => Outcome started completion summary ∧
      summary.stateVersion = task.summary.stateVersion + 1)
      ((system.moved index result).recordOf started.id) := by
    obtain ⟨-, ⟨-, message, -, failed⟩ | ⟨store, -, answer⟩⟩ := call_write_cases called
    · cases failed
    · have effect := LawfulStore.transition_effect system.core.store input.clock
        (RunTask.finishCommand system.config started latest completion input.now input.later)
        ledger.valid
      rw [← answer, ← store] at effect
      cases effect with
      | applied found held matched room stored others =>
        have shownBefore : system.recordOf started.id = some found := held
        obtain rfl : found = task := Option.some.inj (shownBefore.symm.trans present)
        intro later shown
        rcases stored with stored | ⟨-, gone⟩
        · rw [show (system.moved index result).recordOf started.id = _ from stored] at shown
          cases shown
          refine ⟨⟨counted, ?_⟩, rfl⟩
          simp only [transitionedSummary, RunTask.finishCommand]
          split
          · exact .inr ⟨rfl, rfl⟩
          · exact .inl ⟨rfl, terminal⟩
        · rw [show (system.moved index result).recordOf started.id = _ from gone] at shown
          cases shown
  refine ⟨⟨lasting_established ledger lookup deed fresh present ?_, ?_⟩, ?_⟩
  · exact fun later shown => outcome_beyond (outcome later shown).1
  · -- Whoever has read the running attempt has read it before this write.
    intro summary among named _ _ later shown
    have bound : summary.stateVersion ≤ task.summary.stateVersion := by
      have old : summary ∈ system.held → summary.stateVersion ≤ task.summary.stateVersion :=
        fun held =>
          (ledger.books.follows summary held task (by rw [named]; exact present)).version_le
      rcases mem_held_moved among with renewed | held
      · rcases deed_held deed summary renewed with held | ⟨read, found, rfl⟩
        · exact old (mem_tokens lookup held)
        · rw [named, show system.core.recordOf started.id = _ from present] at found
          cases found
          exact Nat.le_refl _
      · exact old held
    rw [(outcome later shown).2]
    exact Nat.lt_succ_of_le bound
  · exact fun later shown => (outcome later shown).1

/-- The part of `FinishStep` that is left while no window is overtaken. -/
inductive FinishProgress (system : System σ) (index : Nat) (input : Input) (task : RunTask)
    (result : Step σ) : Prop
  | early (pc : RunPc) (form : result.thread = .run { task with pc := pc })
      (early : pc.early = true)
  | opens (completion : Completion) (latest : TaskSummary)
      (form : result.thread = .run { task with pc := .finishWrite completion latest })
      (window : Present (Expected task.started latest)
        ((system.moved index result).recordOf task.started.id))
  | wrote (completion : Completion) (latest written : TaskSummary)
      (at_ : task.pc = .finishWrite completion latest) (called : system.core.callTransition input
        (RunTask.finishCommand system.config task.started latest completion input.now
          input.later) = (result.core, .ok written))
      (form : result.thread = .run { task with pc := .clearEntry completion })
  | faulted (pc : RunPc) (form : result.thread = .run { task with pc := pc })
      (exits : pc.landed.isSome = true) (fault : result.core.fault.isSome = true)
  | leaves (completion : Completion) (pc : RunPc) (at_ : task.pc.landed = some completion)
      (form : result.thread = .run { task with pc := pc }) (landed : pc.landed = some completion)

section

variable (concluded : Concluded recorded system)
include concluded

theorem finish_progress {task : RunTask} (lookup : system.threads[index]? = some (.run task))
    (stepped : task.step system.config system.core input = some result) :
    FinishProgress system index input task result := by
  cases run_finish_step task stepped with
  | early pc form early => exact .early pc form early
  | read completion stored at_ found store form =>
    obtain ⟨running, present, state, counted⟩ :=
      running_of_unwritten concluded.ledger lookup (by rw [at_]; rfl)
    have shown : system.recordOf task.started.id = some stored := found
    obtain rfl : running = stored := Option.some.inj (present.symm.trans shown)
    refine .opens completion running.summary form ⟨running, ?_, state, counted, rfl⟩
    simp only [System.recordOf, Core.recordOf, System.moved, store]
    exact shown
  | ended completion stored at_ found terminal =>
    obtain ⟨running, present, state, -⟩ :=
      running_of_unwritten concluded.ledger lookup (by rw [at_]; rfl)
    have shown : system.recordOf task.started.id = some stored := found
    obtain rfl : running = stored := Option.some.inj (present.symm.trans shown)
    rw [state] at terminal
    cases terminal
  | wrote completion latest written at_ called form =>
    exact .wrote completion latest written at_ called form
  | lost completion latest after at_ called =>
    obtain ⟨started, pc⟩ := task
    cases at_
    obtain ⟨task, present, state, counted, version⟩ :=
      concluded.window started completion latest (mem_of_getElem? lookup)
    refine ((call_transition_lost concluded.ledger.valid called present).2
      ⟨version, counted, .inl ?_⟩).elim
    rw [state]
    exact TaskState.running_allows _
  | faulted pc form exits fault => exact .faulted pc form exits fault
  | contested completion version at_ =>
    obtain ⟨started, pc⟩ := task
    cases at_
    exact (concluded.uncontested _ _ _ (mem_of_getElem? lookup)).elim
  | leaves completion pc at_ form landed => exact .leaves completion pc at_ form landed

section

variable (lookup : system.threads[index]? = some thread)
  (stepped : thread.step system.config system.core input = some result)
include lookup stepped

theorem run_among {renewed : RunTask} (member : .run renewed ∈ result.threads) :
    renewed.pc = .load ∨ ∃ task, thread = .run task ∧ result.thread = .run renewed ∧
      FinishProgress system index input task result := by
  by_cases attempt : ∃ task, thread = .run task
  · obtain ⟨task, rfl⟩ := attempt
    obtain ⟨pc, form, alone⟩ := run_step_form task stepped
    right
    have same : Thread.run renewed = result.thread := by
      simpa [Step.threads, alone] using member
    exact ⟨task, rfl, same.symm, finish_progress concluded lookup stepped⟩
  · left
    exact run_source (fun task same => attempt ⟨task, same⟩) stepped member

theorem concluded_moved (ledger : Ledger (system.moved index result))
    (fresh : input.Fresh system.core) (quiet : NoOvertaking system (.thread index input))
    (older : ∀ started completion, recorded started completion → recordedAfter started completion)
    (written : ∀ started completion, RunningAt (system.recordOf started.id) started.attempt →
      Holds (Outcome started completion) ((system.moved index result).recordOf started.id) →
      recordedAfter started completion) : Concluded recordedAfter (system.moved index result) := by
  have deed := (concluded.ledger.footprint lookup stepped).deed
  have cells := thread_cells stepped
  have stays : ∀ started completion pc, .run { started := started, pc := pc } ∈ system.threads →
      pc.landed = some completion → result.core.fault.isSome = true ∨
        (Outlived (system.moved index result) (started.id, started.attempt) ∧
          recordedAfter started completion) := by
    intro started completion pc member landed
    rcases concluded.landed started completion pc member landed with fault | ⟨outlived, done⟩
    · exact .inl (cells.fault fault)
    · exact .inr ⟨outlived_moved concluded.ledger lookup deed fresh outlived,
        older started completion done⟩
  refine ⟨ledger, ?_, ?_, ?_⟩
  · intro started completion latest member
    rcases mem_advance_cases member with renewed | ⟨position, elsewhere, found⟩
    · rcases run_among concluded lookup stepped renewed with loading | ⟨task, rfl, form, progress⟩
      · cases loading
      · cases progress with
        | opens other read same window =>
          cases form.symm.trans same
          exact window
        | early pc same early =>
          cases form.symm.trans same
          cases early
        | wrote other read written at_ called same =>
          cases form.symm.trans same
        | faulted pc same exits fault =>
          cases form.symm.trans same
          cases exits
        | leaves other pc at_ same landed =>
          cases form.symm.trans same
          cases landed
    · exact window_moved concluded lookup deed quiet elsewhere found
  · intro started completion version member
    rcases mem_advance_or_mem member with renewed | found
    · rcases run_among concluded lookup stepped renewed with loading | ⟨task, rfl, form, progress⟩
      · cases loading
      · cases progress with
        | opens other read same window | wrote other read written at_ called same =>
          cases form.symm.trans same
        | early pc same early =>
          cases form.symm.trans same
          cases early
        | faulted pc same exits fault =>
          cases form.symm.trans same
          cases exits
        | leaves other pc at_ same landed =>
          cases form.symm.trans same
          cases landed
    · exact concluded.uncontested started completion version found
  · intro started completion pc member landed
    rcases mem_advance_or_mem member with renewed | found
    · rcases run_among concluded lookup stepped renewed with loading | ⟨task, rfl, form, progress⟩
      · cases loading
        cases landed
      · cases progress with
        | opens other read same window =>
          cases form.symm.trans same
          cases landed
        | early other same early =>
          cases form.symm.trans same
          rw [early_not_landed early] at landed
          cases landed
        | wrote other read answer at_ called same =>
          cases form.symm.trans same
          cases landed
          obtain ⟨taskStarted, taskPc⟩ := task
          cases at_
          obtain ⟨outlived, outcome⟩ := finish_wrote concluded.ledger lookup deed fresh called
          exact .inr ⟨outlived, written _ _
            (running_of_unwritten concluded.ledger lookup rfl) outcome⟩
        | faulted other same exits fault => exact .inl fault
        | leaves other after at_ same still =>
          cases form.symm.trans same
          rw [still] at landed
          cases landed
          obtain ⟨taskStarted, taskPc⟩ := task
          exact stays taskStarted _ taskPc (mem_of_getElem? lookup) at_
    · exact stays started completion pc found landed

end

theorem concluded_frame (ledger : Ledger next)
    (runs : ∀ task, .run task ∈ next.threads → .run task ∈ system.threads)
    (window : ∀ started latest, Present (Expected started latest) (system.recordOf started.id) →
      Present (Expected started latest) (next.recordOf started.id))
    (fault : system.core.fault.isSome = true → next.core.fault.isSome = true)
    (outlived : ∀ entry, Outlived system entry → Outlived next entry)
    (older : ∀ started completion, recorded started completion →
      recordedAfter started completion) : Concluded recordedAfter next where
  ledger
  window := fun started completion latest member =>
    window started latest (concluded.window started completion latest (runs _ member))
  uncontested := fun started completion version member =>
    concluded.uncontested started completion version (runs _ member)
  landed := by
    intro started completion pc member landed
    rcases concluded.landed started completion pc (runs _ member) landed with
      latched | ⟨past, written⟩
    · exact .inl (fault latched)
    · exact .inr ⟨outlived _ past, older started completion written⟩

end

theorem concluded_step {action : Action} (fresh : FreshIds system action)
    (quiet : NoOvertaking system action) (concluded : Concluded recorded system)
    (taken : system.step action = some next)
    (older : ∀ started completion, recorded started completion → recordedAfter started completion)
    (written : ∀ started completion, RunningAt (system.recordOf started.id) started.attempt →
      Holds (Outcome started completion) (next.recordOf started.id) →
      recordedAfter started completion) : Concluded recordedAfter next := by
  have ledger := ledger_step fresh concluded.ledger taken
  have outlived : (∀ config, action ≠ .restart config) →
      ∀ entry, Outlived system entry → Outlived next entry := fun stays entry =>
    outlived_step fresh concluded.ledger stays taken
  cases step_change concluded.ledger taken with
  | stepped lookup stepped =>
    exact concluded_moved concluded lookup stepped ledger fresh quiet older written
  | dropped lookup left =>
    refine concluded_frame concluded ledger ?_ ?_ (drop_cells left).fault
      (outlived fun _ same => by cases same) older
    · intro task member
      rcases mem_advance_or_mem member with renewed | found
      · exact (drop_no_run left task renewed).elim
      · exact found
    · exact fun _ _ present => present.of_eq (drop_records left _)
  | aside unmoved =>
    refine concluded_frame concluded ledger ?_ ?_
      (fun latched => by rw [unmoved.fault]; exact latched)
      (fun _ past => past.aside unmoved) older
    · intro task member
      rcases unmoved.members _ member with old | ⟨call, minted⟩
      · exact old
      · cases call <;> cases minted
    · intro started latest
      exact unmoved.present _ (expected_of_live started latest) fun _ _ expected => expected
  | restart config =>
    -- Nobody runs an attempt right after a restart.
    have nobody : ∀ task : RunTask, Thread.run task ∉
        bootThreads ++ system.threads.filter Thread.isDetached := by
      intro task member
      rcases mem_append.mp member with booted | kept
      · simp [bootThreads] at booted
      · obtain ⟨write, same⟩ := detached_of_kept kept
        cases same
    exact ⟨ledger, fun _ _ _ member => (nobody _ member).elim,
      fun _ _ _ member => nobody _ member, fun _ _ _ member => (nobody _ member).elim⟩

def WasRecorded (start : System σ) (actions : List Action) (started : TaskSummary)
    (completion : Completion) : Prop :=
  ∃ before action after middle next, actions = before ++ action :: after ∧
    runActions System.step start before = some middle ∧ middle.step action = some next ∧
    RunningAt (middle.recordOf started.id) started.attempt ∧
    Holds (Outcome started completion) (next.recordOf started.id)

omit [LawfulStore σ] in
theorem WasRecorded.later {start : System σ} {actions more : List Action} {started : TaskSummary}
    {completion : Completion} (was : WasRecorded start actions started completion) :
    WasRecorded start (actions ++ more) started completion := by
  obtain ⟨before, action, after, middle, next, rfl, reached, taken, running, outcome⟩ := was
  exact ⟨before, action, after ++ more, middle, next, by simp, reached, taken, running, outcome⟩

theorem concluded_boot {config : Config} {store : σ} {knownIds : List TaskId}
    (ledger : Ledger (System.boot config store knownIds)) :
    Concluded (WasRecorded (System.boot config store knownIds) [])
      (System.boot config store knownIds) := by
  have nobody : ∀ task : RunTask, Thread.run task ∉ bootThreads := by
    intro task booted
    simp [bootThreads] at booted
  exact ⟨ledger, fun _ _ _ member => (nobody _ member).elim,
    fun _ _ _ member => nobody _ member, fun _ _ _ member => (nobody _ member).elim⟩

def Thread.finishReturned : Thread → Option (TaskSummary × Completion)
  | .run { started, pc := .exit (some completion) } => some (started, completion)
  | .run { started, pc := .done (some completion) } => some (started, completion)
  | _ => none

def System.finishReturned (system : System σ) : List (TaskSummary × Completion) :=
  system.threads.filterMap Thread.finishReturned

omit [TaskStore σ] [LawfulStore σ] in
theorem landed_of_returned {started : TaskSummary} {completion : Completion}
    (returned : (started, completion) ∈ system.finishReturned) :
    ∃ pc, .run { started := started, pc := pc } ∈ system.threads ∧ pc.landed = some completion := by
  obtain ⟨thread, member, shown⟩ := mem_filterMap.mp returned
  unfold Thread.finishReturned at shown
  split at shown
  · cases shown
    exact ⟨_, member, rfl⟩
  · cases shown
    exact ⟨_, member, rfl⟩
  · cases shown

/-- In a run in which nobody rewrites a record between the read and the
compare-and-set of its `finish`, a finish that has returned without a fault has
recorded the attempt's terminal state or its retry, and the record is not running
at that attempt any more. -/
theorem finished_attempt_recorded (config : Config) (store : σ) (knownIds : List TaskId)
    (valid : LawfulStore.Valid store)
    (known : ∀ id, TaskStore.getEncodedTask store id ≠ none → id ∈ knownIds)
    (actions : List Action) (final : System σ)
    (guarded : Guarded System.step (fun system action => FreshIds system action ∧
      NoOvertaking system action) (System.boot config store knownIds) actions)
    (reached : runActions System.step (System.boot config store knownIds) actions = some final)
    (started : TaskSummary) (completion : Completion)
    (returned : (started, completion) ∈ final.finishReturned) (noFault : final.core.fault = none) :
    ¬ RunningAt (final.recordOf started.id) started.attempt ∧
      WasRecorded (System.boot config store knownIds) actions started completion := by
  have concluded :
      Concluded (WasRecorded (System.boot config store knownIds) actions) final := by
    apply @run_history _ _ System.step _ (System.boot config store knownIds)
      (fun actions system => Concluded (WasRecorded (System.boot config store knownIds) actions)
        system)
      (concluded_boot (ledger_boot valid known)) ?_ _ _ guarded reached
    intro earlier system action next before guard concluded taken
    refine concluded_step guard.1 guard.2 concluded taken (fun _ _ => WasRecorded.later) ?_
    intro started completion running outcome
    exact ⟨earlier, action, [], system, next, rfl, before, taken, running, outcome⟩
  obtain ⟨pc, member, landed⟩ := landed_of_returned returned
  rcases concluded.landed started completion pc member landed with latched | ⟨outlived, written⟩
  · rw [noFault] at latched
    cases latched
  · exact ⟨outlived.not_running, written⟩

end Steps

/-- The attempt succeeds, and a caller of `cancel` takes steps of its own after the
`finish` has read the record. -/
def sampleFinish (caller : List Nat) : List Action :=
  sampleStart ++ [.thread 5 { execution := .returned (.ok (.succeeded { summary := [] })) }] ++
    threadSteps [5, 5] ++ [.call (.cancel sampleId)] ++ threadSteps caller ++
    threadSteps [5, 5, 5]

/-- The caller's request lands between the read and the compare-and-set of `finish`,
which then returns without a word and leaves the attempt running. -/
theorem finished_attempt_lost :
    ∃ (final : System MemoryTaskStore) (returned : TaskSummary × Completion),
      runActions System.step (sampleSystem .cooperative)
          (sampleFinish [6, 6, 6, 6, 6, 6]) = some final ∧
        returned ∈ final.finishReturned ∧ final.core.fault = none ∧
        RunningAt (final.recordOf returned.1.id) returned.1.attempt := by
  obtain ⟨final, reached, checked⟩ := @run_of_check _ _ System.step (sampleSystem .cooperative)
    (sampleFinish [6, 6, 6, 6, 6, 6])
    (fun final => final.core.fault.isNone && final.finishReturned.any fun returned =>
      decide (RunningAt (final.recordOf returned.1.id) returned.1.attempt))
    (by decide)
  obtain ⟨noFault, lost⟩ := Bool.and_eq_true_iff.mp checked
  obtain ⟨returned, member, running⟩ := any_eq_true.mp lost
  exact ⟨final, returned, reached, member, Option.isNone_iff_eq_none.mp noFault,
    of_decide_eq_true running⟩

/-- The caller only gets to read the record, and the outcome is recorded. -/
theorem finished_attempt_recorded_sample :
    ∃ (final : System MemoryTaskStore) (returned : TaskSummary × Completion),
      runActions System.step (sampleSystem .cooperative)
          (sampleFinish [6, 6, 6, 6, 6]) = some final ∧
        returned ∈ final.finishReturned ∧
        ¬ RunningAt (final.recordOf returned.1.id) returned.1.attempt ∧
        WasRecorded (sampleSystem .cooperative)
          (sampleFinish [6, 6, 6, 6, 6]) returned.1 returned.2 := by
  obtain ⟨final, reached, checked⟩ := @run_of_check _ _ System.step (sampleSystem .cooperative)
    (sampleFinish [6, 6, 6, 6, 6])
    (fun final => final.core.fault.isNone && !final.finishReturned.isEmpty) (by decide)
  obtain ⟨noFault, some_⟩ := Bool.and_eq_true_iff.mp checked
  obtain ⟨returned, member⟩ := exists_mem_of_ne_nil final.finishReturned (by simpa using some_)
  refine ⟨final, returned, reached, member, ?_⟩
  exact finished_attempt_recorded _ _ _ (with_limits_valid ..) (with_limits_known _ _ _ _) _ _
    (by decide) reached _ _ member (Option.isNone_iff_eq_none.mp noFault)

end TaskService.Service
