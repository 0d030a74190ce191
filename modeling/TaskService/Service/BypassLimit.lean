import TaskService.Service.ListedRecords

/-!
# The bypass limit

A ready task that waits for resources becomes the anchor of the scheduler's fairness
state, and every successful start behind it in acceptance order is counted against it.
While it is the anchor, each scan either meets it or ends early, so the count is not
given up, and the starts that pass it by are at most the limit.

The anchor is taken once and kept until it starts or a whole scan has not met it.  A task
that begins to wait while another task is still the anchor is passed by on the account of
that other task.
-/

namespace TaskService.Service

open Library Model Store List SchedulerPc
open TaskCursor (ofSummary)
open PagedStore (ready_page call_paged mark_paged)

def SchedulerPc.fairness : SchedulerPc → Option ResourceFairness
  | .top fairness | .topFault fairness | .topSlots fairness | .deadline fairness
  | .arm fairness _ | .suspended fairness _ => some fairness
  | pc => pc.scan.map Scan.fairness

def SchedulerPc.candidate : SchedulerPc → Option TaskSummary
  | .admission _ summary | .admitted _ summary | .start _ summary => some summary
  | _ => none

def SchedulerPc.unread : SchedulerPc → Bool
  | .scanShutdown _ | .scanFault _ | .scanSlots _ | .list _ => true
  | _ => false

def SchedulerPc.spare (limit : Nat) (pc : SchedulerPc) : Nat :=
  match pc.fairness with
  | some fairness => limit - fairness.bypasses
  | none => 0

def Thread.spare (limit : Nat) : Thread → Nat
  | .scheduler pc => pc.spare limit
  | _ => 0

/-- A summary of the record `task` is a summary of, whatever its version. -/
def SameTask (task summary : TaskSummary) : Prop :=
  summary.id = task.id ∧ summary.acceptedAtMs = task.acceptedAtMs

def ResourceFairness.AnchoredTo (fairness : ResourceFairness) (task : TaskSummary) : Prop :=
  fairness.anchor = some (task.id, task.acceptedAtMs)

/-- The page being gone through, or one behind it, still shows the task. -/
def Scan.Ahead (task : TaskSummary) (scan : Scan) : Prop :=
  (∃ summary ∈ scan.rest, SameTask task summary) ∨
    ∃ cursor, scan.next = some cursor ∧ cursor.lt (TaskCursor.ofSummary task) = true

/-- The scheduler while `task` is the anchor: a scan has met the task or will meet it, and
what is about to be started is another task the limit leaves room for. -/
structure SchedulerPc.Awaits (task : TaskSummary) (limit : Nat) (pc : SchedulerPc) : Prop where
  awake : pc ≠ .idle
  anchored : ∀ fairness, pc.fairness = some fairness → fairness.AnchoredTo task
  candidate : ∀ summary, pc.candidate = some summary → summary.id ≠ task.id
  room : ∀ summary fairness, pc.candidate = some summary → pc.fairness = some fairness →
    (TaskCursor.ofSummary task).lt (TaskCursor.ofSummary summary) = true →
    fairness.bypasses < limit
  ahead : ∀ scan, pc.scan = some scan → scan.sawAnchor = true ∨
    if pc.unread then afterPosition scan.after task = true else scan.Ahead task

section Interval

variable {σ : Type} [TaskStore σ]

/-- One for the successful start of a record behind `task` in acceptance order. -/
def Thread.newerStart (task : TaskSummary) (core : Core σ) (input : Input) : Thread → Nat
  | .scheduler (.start _ summary) =>
      match (core.callStart input (SchedulerPc.startCommand summary input.now)).2 with
      | .ok _ => if (TaskCursor.ofSummary task).lt (TaskCursor.ofSummary summary) then 1 else 0
      | .error _ => 0
  | _ => 0

def System.steps (system : System σ) : Action → Option (Thread × Input)
  | .thread index input => system.threads[index]?.map fun thread => (thread, input)
  | _ => none

def newerStart (task : TaskSummary) (system : System σ) (action : Action) : Nat :=
  match system.steps action with
  | some (thread, input) => thread.newerStart task system.core input
  | none => 0

def newerStarts (task : TaskSummary) (system : System σ) (actions : List Action) : Nat :=
  tally System.step (newerStart task) system actions

def Thread.reads : Thread → Option Nat
  | .scheduler (.list scan) => some scan.now
  | _ => none

def Thread.faces : Thread → Option TaskSummary
  | .scheduler (.dispatch scan) => scan.rest.head?
  | _ => none

def Thread.leaves : Thread → Option Scan
  | .scheduler (.pageSlots scan) => some scan
  | _ => none

/-- The scheduler finds the task ready whenever it reads a page, and gets no resources for
it whenever it comes to it. -/
def Thread.Refused (config : Config) (task : TaskSummary) (record : Option StoredTask)
    (thread : Thread) (input : Input) : Prop :=
  (∀ now ∈ thread.reads, Holds (fun summary => MemoryTaskStore.readyAt now summary = true) record) ∧
    ∀ summary ∈ thread.faces, summary.id = task.id →
      config.handlers.dispatchProblem summary = none ∧ input.reservation = .ok false

def Waiting (task : TaskSummary) (record : Option StoredTask) : Prop :=
  Present (fun summary => summary.state = .queued ∧ summary.acceptedAtMs = task.acceptedAtMs)
    record

def KeepsWaiting (task : TaskSummary) (system : System σ) (action : Action) : Prop :=
  Waiting task (system.recordOf task.id) ∧
    ∀ moving ∈ system.steps action,
      moving.1.Refused system.config task (system.recordOf task.id) moving.2

/-- A scan that left its page for want of a slot before it met its anchor finds no slot at the
check behind the page either. -/
def Thread.StaysFull (config : Config) (core : Core σ) (thread : Thread) : Prop :=
  ∀ scan ∈ thread.leaves, scan.sawAnchor = false → scan.rest ≠ [] →
    config.maxRunningTasks ≤ core.inFlight

def PagesFinished (system : System σ) (action : Action) : Prop :=
  ∀ moving ∈ system.steps action, moving.1.StaysFull system.config system.core

end Interval

section Anchor

variable {fairness : ResourceFairness} {task summary : TaskSummary}

theorem beyond_anchored (anchored : fairness.AnchoredTo task) :
    beyondAnchor fairness summary =
      (ofSummary task).lt (ofSummary summary) := by
  unfold ResourceFairness.AnchoredTo at anchored
  unfold beyondAnchor
  rw [anchored]
  rfl

theorem is_anchor_iff (anchored : fairness.AnchoredTo task) :
    isAnchor fairness summary = true ↔ SameTask task summary := by
  unfold ResourceFairness.AnchoredTo at anchored
  unfold isAnchor SameTask
  rw [anchored, decide_eq_true_iff, Option.some.injEq, Prod.mk.injEq]
  constructor
  · rintro ⟨id, accepted⟩
    exact ⟨id.symm, accepted.symm⟩
  · rintro ⟨id, accepted⟩
    exact ⟨id.symm, accepted.symm⟩

theorem after_start_anchored (anchored : fairness.AnchoredTo task) (other : summary.id ≠ task.id) :
    (fairness.afterStart summary).AnchoredTo task ∧
      (fairness.afterStart summary).bypasses = fairness.bypasses +
        if (ofSummary task).lt (ofSummary summary) then 1 else 0 := by
  have different : isAnchor fairness summary = false :=
    Bool.eq_false_iff.mpr fun same => other ((is_anchor_iff anchored).mp same).1
  unfold ResourceFairness.afterStart
  rw [different, beyond_anchored anchored]
  split
  · rename_i impossible
    cases impossible
  · split
    · exact ⟨anchored, rfl⟩
    · exact ⟨anchored, rfl⟩

theorem wait_for_anchored {scan : Scan} (anchored : scan.fairness.AnchoredTo task) :
    (scan.waitFor summary).fairness = scan.fairness := by
  unfold ResourceFairness.AnchoredTo at anchored
  simp [Scan.waitFor, Scan.observe, anchored]

end Anchor

section Awaiting

variable {task : TaskSummary} {limit : Nat} {pc next : SchedulerPc}

theorem awaits_halted (fairness : next.fairness = none) (candidate : next.candidate = none)
    (scan : next.scan = none) (awake : next ≠ .idle) : next.Awaits task limit := by
  refine ⟨awake, ?_, ?_, ?_, ?_⟩
  · intro state found
    cases fairness.symm.trans found
  · intro summary found
    cases candidate.symm.trans found
  · intro summary state found
    cases candidate.symm.trans found
  · intro other found
    cases scan.symm.trans found

theorem awaits_passes (awaits : pc.Awaits task limit) (awake : next ≠ .idle)
    (fairness : next.fairness = pc.fairness)
    (candidate : next.candidate = none ∨ next.candidate = pc.candidate)
    (scan : next.scan = none ∨ next.scan = pc.scan ∧ next.unread = pc.unread) :
    next.Awaits task limit := by
  refine ⟨awake, ?_, ?_, ?_, ?_⟩
  · intro state found
    exact awaits.anchored state (fairness.symm.trans found)
  · intro summary found
    rcases candidate with absent | same
    · cases absent.symm.trans found
    · exact awaits.candidate summary (same.symm.trans found)
  · intro summary state found carried
    rcases candidate with absent | same
    · cases absent.symm.trans found
    · exact awaits.room summary state (same.symm.trans found) (fairness.symm.trans carried)
  · intro other found
    rcases scan with absent | ⟨same, stage⟩
    · cases absent.symm.trans found
    · rw [stage]
      exact awaits.ahead other (same.symm.trans found)

theorem awaits_scan {scan : Scan} (at_ : next.scan = some scan)
    (fairness : next.fairness = some scan.fairness) (candidate : next.candidate = none)
    (awake : next ≠ .idle) (anchored : scan.fairness.AnchoredTo task)
    (ahead : scan.sawAnchor = true ∨
      if next.unread then afterPosition scan.after task = true else scan.Ahead task) :
    next.Awaits task limit := by
  refine ⟨awake, ?_, ?_, ?_, ?_⟩
  · intro state found
    cases fairness.symm.trans found
    exact anchored
  · intro summary found
    cases candidate.symm.trans found
  · intro summary state found
    cases candidate.symm.trans found
  · intro other found
    cases at_.symm.trans found
    exact ahead

theorem spare_of_fairness (fairness : next.fairness = pc.fairness) :
    next.spare limit = pc.spare limit := by
  unfold spare
  rw [fairness]

/-- Whatever entry a scan has gone past, its anchor was it or is still to come. -/
theorem ahead_past {scan later : Scan} {summary : TaskSummary} {rest : List TaskSummary}
    (anchored : scan.fairness.AnchoredTo task) (entry : scan.rest = summary :: rest)
    (ahead : scan.sawAnchor = true ∨ scan.Ahead task)
    (seen : scan.sawAnchor = true ∨ isAnchor scan.fairness summary = true →
      later.sawAnchor = true)
    (left : later.rest = rest) (page : later.next = scan.next) :
    later.sawAnchor = true ∨ later.Ahead task := by
  rcases ahead with met | ⟨found, among, same⟩ | behind
  · exact .inl (seen (.inl met))
  · rw [entry] at among
    rcases mem_cons.mp among with rfl | further
    · exact .inl (seen (.inr ((is_anchor_iff anchored).mpr same)))
    · rw [← left] at further
      exact .inr (.inl ⟨found, further, same⟩)
  · rw [← page] at behind
    exact .inr (.inr behind)

end Awaiting

def Thread.Awaits (task : TaskSummary) (limit : Nat) : Thread → Prop
  | .scheduler pc => pc.Awaits task limit
  | _ => True

section Steps

variable {σ : Type} {config : Config} {core : Core σ} {input : Input} {result : Step σ}
  {task : TaskSummary} {limit : Nat} {pc next : SchedulerPc}

/-- A step of a thread that keeps the anchor and pays for the start it may have made. -/
structure KeepsAnchor (task : TaskSummary) (limit : Nat) (thread : Thread) (weight : Nat)
    (result : Step σ) : Prop where
  awaits : ∀ next ∈ result.threads, next.Awaits task limit
  paid : weight + (result.threads.map (Thread.spare limit)).sum ≤ thread.spare limit

variable {after : Core σ} {spawned : List Thread} {scan : Scan} {summary : TaskSummary}
  {rest : List TaskSummary}

theorem keeps_anchor {weight : Nat} (awaits : next.Awaits task limit)
    (paid : weight + next.spare limit ≤ pc.spare limit)
    (others : ∀ thread ∈ spawned, ∃ running, thread = .run running) :
    KeepsAnchor task limit (.scheduler pc) weight
      { core := after, thread := .scheduler next, spawned := spawned } := by
  constructor
  · intro thread member
    rcases mem_cons.mp member with rfl | new
    · exact awaits
    · obtain ⟨running, rfl⟩ := others thread new
      trivial
  · have nothing : (spawned.map (Thread.spare limit)).sum = 0 := by
      refine sum_eq_zero ?_
      intro spare among
      obtain ⟨thread, new, rfl⟩ := mem_map.mp among
      obtain ⟨running, rfl⟩ := others thread new
      rfl
    simpa [Step.threads, nothing, Thread.spare] using paid

theorem keeps_anchor_halted (fairness : next.fairness = none) (candidate : next.candidate = none)
    (scan : next.scan = none) (awake : next ≠ .idle) :
    KeepsAnchor task limit (.scheduler pc) 0 ⟨after, .scheduler next, []⟩ := by
  apply keeps_anchor (awaits_halted fairness candidate scan awake)
  · have spent : next.spare limit = 0 := by
      unfold spare
      rw [fairness]
    rw [spent]
    exact Nat.zero_le _
  · intro thread member
    cases member

theorem keeps_anchor_passes (awaits : pc.Awaits task limit) (awake : next ≠ .idle)
    (fairness : next.fairness = pc.fairness)
    (candidate : next.candidate = none ∨ next.candidate = pc.candidate)
    (scan : next.scan = none ∨ next.scan = pc.scan ∧ next.unread = pc.unread)
    (others : ∀ thread ∈ spawned, ∃ running, thread = .run running) :
    KeepsAnchor task limit (.scheduler pc) 0
      { core := after, thread := .scheduler next, spawned := spawned } := by
  apply keeps_anchor (awaits_passes awaits awake fairness candidate scan)
  · rw [spare_of_fairness fairness]
    exact (Nat.zero_add _).le
  · exact others

theorem keeps_anchor_scan (at_ : next.scan = some scan)
    (fairness : next.fairness = some scan.fairness) (candidate : next.candidate = none)
    (awake : next ≠ .idle) (same : pc.fairness = some scan.fairness)
    (anchored : scan.fairness.AnchoredTo task) (ahead : scan.sawAnchor = true ∨
      if next.unread then afterPosition scan.after task = true else scan.Ahead task) :
    KeepsAnchor task limit (.scheduler pc) 0 ⟨after, .scheduler next, []⟩ := by
  apply keeps_anchor (awaits_scan at_ fairness candidate awake anchored ahead)
  · rw [spare_of_fairness (fairness.trans same.symm)]
    exact (Nat.zero_add _).le
  · intro thread member
    cases member

theorem consider_seen (rest : List TaskSummary)
    (met : scan.sawAnchor = true ∨ isAnchor scan.fairness summary = true) :
    (scan.consider summary rest).sawAnchor = true :=
  Bool.or_eq_true_iff.mpr met

section

variable (awaits : (SchedulerPc.dispatch scan).Awaits task limit)
  (entry : scan.rest = summary :: rest)
include awaits entry

theorem keeps_anchor_past {later : Scan} (at_ : next.scan = some later)
    (fairness : next.fairness = some later.fairness) (candidate : next.candidate = none)
    (awake : next ≠ .idle) (read : next.unread = false) (same : later.fairness = scan.fairness)
    (seen : scan.sawAnchor = true ∨ isAnchor scan.fairness summary = true →
      later.sawAnchor = true) (left : later.rest = rest) (page : later.next = scan.next) :
    KeepsAnchor task limit (.scheduler (.dispatch scan)) 0
      ⟨after, .scheduler next, []⟩ := by
  have anchored := awaits.anchored scan.fairness rfl
  have passed := ahead_past anchored entry (awaits.ahead scan rfl) seen left page
  refine keeps_anchor_scan at_ fairness candidate awake (congrArg some same.symm) ?_ ?_
  · rw [same]
    exact anchored
  · rw [read]
    exact passed

theorem awaits_reserved (other : summary.id ≠ task.id)
    (allowed : beyondAnchor scan.fairness summary = true → scan.fairness.bypasses < limit) :
    (admission (scan.consider summary rest) summary).Awaits task limit := by
  have anchored := awaits.anchored scan.fairness rfl
  have passed := @ahead_past task scan (scan.consider summary rest) summary rest anchored entry
    (awaits.ahead scan rfl) (consider_seen rest) rfl rfl
  refine ⟨(fun same => by cases same), ?_, ?_, ?_, ?_⟩
  · intro fairness found
    cases found
    exact anchored
  · intro candidate found
    cases found
    exact other
  · intro candidate fairness found carried newer
    cases found
    cases carried
    exact allowed ((beyond_anchored anchored).trans newer)
  · intro later found
    cases found
    exact passed

end

theorem met_or_behind (awaits : (pageSlots scan).Awaits task limit)
    (full : (Thread.scheduler (.pageSlots scan)).StaysFull config core)
    (free : core.inFlight < config.maxRunningTasks) :
    scan.sawAnchor = true ∨
      ∃ cursor, scan.next = some cursor ∧ cursor.lt (ofSummary task) = true := by
  rcases awaits.ahead scan rfl with met | ⟨found, among, -⟩ | behind
  · exact .inl met
  · left
    by_contra unmet
    exact absurd (full scan rfl (Bool.eq_false_iff.mpr unmet) (ne_nil_of_mem among))
      (Nat.not_le.mpr free)
  · exact .inr behind

variable [TaskStore σ]

theorem keeps_anchor_starts {running : TaskSummary}
    (awaits : (start scan summary).Awaits task limit)
    (started : (core.callStart input (startCommand summary input.now)).2 =
      .ok running) :
    KeepsAnchor task limit (.scheduler (.start scan summary))
      ((Thread.scheduler (.start scan summary)).newerStart task core input)
      { core := after
        thread :=
          .scheduler
            (.spawn { scan with fairness := scan.fairness.afterStart summary } running) } := by
  obtain ⟨kept, counted⟩ := after_start_anchored (awaits.anchored scan.fairness rfl)
    (awaits.candidate summary rfl)
  have weight : (Thread.scheduler (.start scan summary)).newerStart task core input =
      if (ofSummary task).lt (ofSummary summary) then 1 else 0 := by
    simp only [Thread.newerStart, started]
  refine keeps_anchor (awaits_scan rfl rfl rfl (fun same => by cases same) kept
    (awaits.ahead scan rfl)) ?_ (fun thread member => by cases member)
  change _ + (limit - (scan.fairness.afterStart summary).bypasses) ≤
    limit - scan.fairness.bypasses
  rw [weight, counted]
  split
  · rename_i newer
    have below := awaits.room summary scan.fairness rfl rfl newer
    omega
  · omega

theorem unstarted {error : StoreError}
    (failed : (core.callStart input (startCommand summary input.now)).2 =
      .error error) :
    (Thread.scheduler (.start scan summary)).newerStart task core input = 0 := by
  simp only [Thread.newerStart, failed]

variable [LawfulStore σ] [PagedStore σ]

section

variable (valid : LawfulStore.Valid core.store) (paged : PagedStore.Paged core.store)
  (positive : 0 < config.scanPageSize) (present : Waiting task (core.recordOf task.id))
include valid paged positive present

theorem page_shows (ready : Holds (fun summary => MemoryTaskStore.readyAt scan.now summary = true)
      (core.recordOf task.id)) {page : TaskPage}
    (read : TaskStore.listReadyQueued core.store scan.after config.scanPageSize scan.now =
      .ok page) (behind : afterPosition scan.after task = true) :
    Scan.Ahead task { scan with rest := page.records, next := page.next } := by
  obtain ⟨stored, found, -, accepted⟩ := present
  have id : stored.summary.id = task.id := LawfulStore.get_id core.store _ _ valid found
  have position : ofSummary stored.summary = ofSummary task := by
    simp only [ofSummary, id, accepted]
  have listed := ready_page core.store scan.after config.scanPageSize scan.now page
    valid paged read
  have shown : TaskStore.getEncodedTask core.store stored.summary.id = some stored := by
    rw [id]
    exact found
  have after : afterPosition scan.after stored.summary = true := by
    unfold afterPosition at behind ⊢
    rw [position]
    exact behind
  rcases listed.complete positive shown (ready stored found) after with on | ⟨cursor, more, before⟩
  · exact .inl ⟨stored.summary, on, id, accepted⟩
  · rw [position] at before
    exact .inr ⟨cursor, more, before⟩

theorem scheduler_keeps_anchor
    (refused : (Thread.scheduler pc).Refused config task (core.recordOf task.id) input)
    (full : (Thread.scheduler pc).StaysFull config core)
    (awaits : pc.Awaits task config.maxResourceBypasses)
    (step : SchedulerStep config core input pc result) :
    KeepsAnchor task config.maxResourceBypasses (.scheduler pc)
      ((Thread.scheduler pc).newerStart task core input) result := by
  have alone : ∀ thread ∈ ([] : List Thread), ∃ running, thread = .run running :=
    forall_mem_nil _
  cases step with
  | wakes => exact (awaits.awake rfl).elim
  | quits | faulted | unlisted | unasked | stops =>
    exact keeps_anchor_halted rfl rfl rfl (fun same => by cases same)
  | goesOn | healthy | full | asked | arms | resumes | scanShut | scanFaulted | scanFull | pageShut
  | pageFull =>
    exact keeps_anchor_passes awaits (fun same => by cases same) rfl (.inl rfl) (.inl rfl) alone
  | enters | granted =>
    exact keeps_anchor_passes awaits (fun same => by cases same) rfl (.inr rfl)
      (.inr ⟨rfl, rfl⟩) alone
  | spawns =>
    refine keeps_anchor_passes awaits (fun same => by cases same) rfl (.inl rfl)
      (.inr ⟨rfl, rfl⟩) ?_
    intro thread member
    exact ⟨_, mem_singleton.mp member⟩
  | begins fairness free =>
    exact keeps_anchor_scan rfl rfl rfl (fun same => by cases same) rfl
      (awaits.anchored fairness rfl) (.inr rfl)
  | listed scan page called =>
    refine keeps_anchor_scan rfl rfl rfl (fun same => by cases same) rfl
      (awaits.anchored scan.fairness rfl) ?_
    rcases awaits.ahead scan rfl with met | behind
    · exact .inl met
    · exact .inr (page_shows valid paged positive present (refused.1 scan.now rfl)
        (read_page called) behind)
  | completed scan free last =>
    have met : scan.sawAnchor = true := by
      rcases met_or_behind awaits full free with met | ⟨cursor, more, -⟩
      · exact met
      · cases last.symm.trans more
    have ended : scanEnd scan true = .deadline scan.fairness := by
      simp [scanEnd, met]
    rw [ended]
    exact keeps_anchor_passes awaits (fun same => by cases same) rfl (.inl rfl) (.inl rfl) alone
  | turnsPage scan cursor free more =>
    refine keeps_anchor_scan rfl rfl rfl (fun same => by cases same) rfl
      (awaits.anchored scan.fairness rfl) ?_
    rcases met_or_behind awaits full free with met | ⟨other, same, before⟩
    · exact .inl met
    · cases more.symm.trans same
      exact .inr before
  | ineligible scan summary rest reason entry problem
  | passesOver scan summary rest entry =>
    exact keeps_anchor_past awaits entry rfl rfl rfl (fun same => by cases same) rfl rfl
      (consider_seen rest) rfl rfl
  | impossible scan summary rest reason entry =>
    exact keeps_anchor_past awaits entry rfl rfl rfl (fun same => by cases same) rfl rfl
      (fun met => Bool.or_eq_true_iff.mpr (.inl (consider_seen rest met))) rfl rfl
  | refuses scan summary rest entry =>
    have kept : ((scan.consider summary rest).waitFor summary).fairness = scan.fairness :=
      wait_for_anchored (awaits.anchored scan.fairness rfl)
    exact keeps_anchor_past awaits entry rfl rfl rfl (fun same => by cases same) rfl kept
      (fun met => Bool.or_eq_true_iff.mpr (.inl (consider_seen rest met))) rfl rfl
  | reserves scan summary rest entry eligible verdict allowed =>
    have other : summary.id ≠ task.id := by
      intro same
      obtain ⟨-, denied⟩ := refused.2 summary (congrArg List.head? entry) same
      cases verdict.symm.trans denied
    exact keeps_anchor (awaits_reserved awaits entry other allowed) (Nat.zero_add _).le alone
  | starts scan summary running after called =>
    exact keeps_anchor_starts awaits (congrArg Prod.snd called)
  | superseded scan summary error after called =>
    rw [unstarted (congrArg Prod.snd called)]
    exact keeps_anchor_passes awaits (fun same => by cases same) rfl (.inl rfl)
      (.inr ⟨rfl, rfl⟩) alone
  | startFailed scan summary error after called =>
    rw [unstarted (congrArg Prod.snd called)]
    exact keeps_anchor_halted rfl rfl rfl (fun same => by cases same)
  | _ =>
    exact keeps_anchor_passes awaits (fun same => by cases same) rfl (.inl rfl)
      (.inr ⟨rfl, rfl⟩) alone

end

end Steps

section System

variable {σ : Type} {system next : System σ} {index : Nat} {input : Input} {thread : Thread}
  {result : Step σ} {task : TaskSummary} {limit : Nat} {action : Action}

theorem keeps_anchor_aside (others : ∀ pc, Thread.scheduler pc ∉ result.threads) :
    KeepsAnchor task limit thread 0 result := by
  constructor
  · intro next member
    cases next with
    | scheduler pc => exact (others pc member).elim
    | _ => trivial
  · refine (Nat.zero_add _).le.trans ((sum_eq_zero ?_).le.trans (Nat.zero_le _))
    intro spare among
    obtain ⟨next, member, rfl⟩ := mem_map.mp among
    cases next with
    | scheduler pc => exact (others pc member).elim
    | _ => rfl

def System.spare (limit : Nat) (system : System σ) : Nat :=
  (system.threads.map (Thread.spare limit)).sum

def System.Awaits (task : TaskSummary) (limit : Nat) (system : System σ) : Prop :=
  ∀ thread ∈ system.threads, thread.Awaits task limit

theorem awaits_moved {weight : Nat} (lookup : system.threads[index]? = some thread)
    (awaits : system.Awaits task limit) (keeps : KeepsAnchor task limit thread weight result) :
    (system.moved index result).Awaits task limit ∧
      weight + (system.moved index result).spare limit ≤ system.spare limit := by
  constructor
  · intro other member
    rcases mem_advance_or_mem member with new | old
    · exact keeps.awaits other new
    · exact awaits other old
  · have total := sum_advance (Thread.spare limit) result.thread result.spawned lookup
    have paid := keeps.paid
    change weight + (List.map _ (result.thread :: result.spawned)).sum ≤ _ at paid
    change weight + (List.map _ (advance _ _ _ _)).sum ≤ (List.map _ system.threads).sum
    omega

theorem spare_sum_le {threads : List Thread} (distinct : (threads.flatMap Thread.roles).Nodup) :
    (threads.map (Thread.spare limit)).sum ≤ limit := by
  induction threads with
  | nil => exact Nat.zero_le _
  | cons thread rest ih =>
    rw [flatMap_cons, nodup_append] at distinct
    obtain ⟨-, others, disjoint⟩ := distinct
    rw [map_cons, sum_cons]
    cases thread with
    | scheduler pc =>
      have nothing : (rest.map (Thread.spare limit)).sum = 0 := by
        refine sum_eq_zero ?_
        intro spare among
        obtain ⟨other, member, rfl⟩ := mem_map.mp among
        cases other with
        | scheduler second =>
          exact absurd rfl (disjoint Role.scheduler (mem_singleton_self _)
            Role.scheduler (mem_flatMap.mpr ⟨_, member, mem_singleton_self _⟩))
        | _ => rfl
      rw [nothing, Nat.add_zero]
      change pc.spare limit ≤ limit
      unfold spare
      split
      · exact Nat.sub_le _ _
      · exact Nat.zero_le _
    | _ => exact (Nat.zero_add _).le.trans (ih others)

theorem awaits_alone {pc : SchedulerPc} (staff : Staff system)
    (lookup : system.threads[index]? = some (.scheduler pc)) (awaits : pc.Awaits task limit) :
    system.Awaits task limit := by
  intro thread member
  cases thread with
  | scheduler other =>
    obtain ⟨position, found⟩ := mem_iff_getElem?.mp member
    have same := staff.alone found lookup (mem_singleton_self Role.scheduler)
      (mem_singleton_self Role.scheduler)
    rw [same, lookup] at found
    cases found
    exact awaits
  | _ => trivial

variable [TaskStore σ]

theorem awaits_aside (aside : ∀ index input, action ≠ .thread index input)
    (stays : ∀ config, action ≠ .restart config) (awaits : system.Awaits task limit)
    (taken : system.step action = some next) :
    next.Awaits task limit ∧ next.config = system.config ∧
      next.spare limit ≤ system.spare limit := by
  cases step_move taken with
  | @stepped index input => exact (aside index input rfl).elim
  | @dropped index input issued thread result lookup left =>
    have others : ∀ pc, Thread.scheduler pc ∉ result.threads := by
      intro pc member
      obtain ⟨before, rfl⟩ := scheduler_source (drop_conduct left) member
      obtain ⟨_, dropped⟩ := left.dropped
      cases dropped
    obtain ⟨kept, paid⟩ := awaits_moved lookup awaits (keeps_anchor_aside others)
    exact ⟨kept, rfl, (Nat.zero_add _).ge.trans paid⟩
  | call call ready =>
    have none : call.thread.spare limit = 0 := by cases call <;> rfl
    refine ⟨?_, rfl, ?_⟩
    · intro thread member
      rcases mem_append.mp member with old | new
      · exact awaits thread old
      · rw [mem_singleton.mp new]
        cases call <;> trivial
    · simp [System.spare, none]
  | flags | progress | prune => exact ⟨awaits, rfl, Nat.le_refl _⟩
  | restart config => exact (stays config rfl).elim

structure System.Refuses (system : System σ) (task : TaskSummary) (index : Nat) (input : Input)
    (scan : Scan) : Prop where
  place : system.threads[index]? = some (.scheduler (.dispatch scan))
  entry : scan.rest.head? = some task
  eligible : system.config.handlers.dispatchProblem task = none
  denied : input.reservation = .ok false

variable {scan : Scan} {config : Config}

theorem refused_scan (refuses : system.Refuses task index input scan)
    (taken : system.step (.thread index input) = some next) :
    next = system.moved index
      { core := system.core
        thread :=
          .scheduler (.entryShutdown ((scan.consider task scan.rest.tail).waitFor task)) } := by
  obtain ⟨thread, result, lookup, stepped, rfl⟩ := thread_move taken
  cases refuses.place.symm.trans lookup
  cases stepped
  have entry : scan.rest = task :: scan.rest.tail :=
    (cons_head?_tail (Option.mem_def.mpr refuses.entry)).symm
  simp only [dispatchEntry]
  rw [entry]
  simp only [refuses.eligible, refuses.denied]
  rfl

variable [LawfulStore σ] [PagedStore σ]

theorem deed_paged (paged : PagedStore.Paged system.core.store)
    (deed : system.Deed input thread result) :
    PagedStore.Paged result.core.store := by
  cases deed with
  | quiet store | generated _ _ store =>
    rw [store]
    exact paged
  | transition _ command _ store =>
    rw [store]
    exact call_paged _ (.transition input.clock command) paged
  | started _ summary _ store =>
    rw [store]
    exact call_paged _ (.start input.clock (startCommand summary input.now)) paged
  | accepted id request _ store =>
    rw [store]
    exact call_paged _ (.accept input.clock id request) paged
  | published _ _ store =>
    rw [store]
    exact mark_paged _ _ _ paged
  | archived _ store =>
    rw [store]
    exact PagedStore.quarantine_paged _ _ _ paged

theorem paged_step (ledger : Ledger system) (paged : PagedStore.Paged system.core.store)
    (taken : system.step action = some next) : PagedStore.Paged next.core.store := by
  cases step_move taken with
  | stepped lookup stepped =>
    exact deed_paged paged (ledger.footprint lookup stepped).deed
  | dropped lookup left =>
    exact deed_paged paged (ledger.left_footprint lookup left).deed
  | call | flags | restart => exact paged
  | progress command => exact call_paged _ (.progress command) paged
  | prune cutoff maxRows => exact call_paged _ (.prune cutoff maxRows) paged

structure Anchored (start : Config) (task : TaskSummary) (system : System σ) : Prop where
  ledger : Ledger system
  paged : PagedStore.Paged system.core.store
  config : system.config = start
  awaits : system.Awaits task start.maxResourceBypasses

theorem thread_keeps_anchor (positive : 0 < system.config.scanPageSize) (ledger : Ledger system)
    (paged : PagedStore.Paged system.core.store) (waiting : Waiting task (system.recordOf task.id))
    (refused : thread.Refused system.config task (system.recordOf task.id) input)
    (full : thread.StaysFull system.config system.core)
    (awaits : thread.Awaits task system.config.maxResourceBypasses)
    (stepped : thread.step system.config system.core input = some result) :
    KeepsAnchor task system.config.maxResourceBypasses thread
      (thread.newerStart task system.core input) result := by
  cases thread with
  | scheduler pc =>
    exact scheduler_keeps_anchor ledger.valid paged positive waiting refused full awaits
      (scheduler_step_cases pc stepped)
  | _ =>
    apply keeps_anchor_aside
    intro pc member
    obtain ⟨before, same⟩ := scheduler_source (thread_conduct stepped) member
    cases same

/-- What the steps of the interval have to meet. -/
abbrev Awaiting (task : TaskSummary) (system : System σ) (action : Action) : Prop :=
  WithoutRestart system action ∧ KeepsWaiting task system action ∧ PagesFinished system action

theorem anchored_step (positive : 0 < config.scanPageSize) (awaiting : Awaiting task system action)
    (anchored : Anchored config task system) (taken : system.step action = some next) :
    Anchored config task next ∧
      newerStart task system action + next.spare config.maxResourceBypasses ≤
        system.spare config.maxResourceBypasses := by
  obtain ⟨ledger, paged, rfl, awaits⟩ := anchored
  obtain ⟨⟨fresh, stays⟩, ⟨waiting, refused⟩, full⟩ := awaiting
  have ledgerAfter := ledger_step fresh ledger taken
  have pagedAfter := paged_step ledger paged taken
  cases action with
  | thread index input =>
    obtain ⟨thread, result, lookup, stepped, rfl⟩ := thread_move taken
    have moving : system.steps (.thread index input) = some (thread, input) := by
      simp only [System.steps, lookup, Option.map_some]
    have weight : newerStart task system (.thread index input) =
        thread.newerStart task system.core input := by
      simp only [newerStart, moving]
    obtain ⟨kept, paid⟩ := awaits_moved lookup awaits
      (thread_keeps_anchor positive ledger paged waiting (refused _ moving) (full _ moving)
        (awaits thread (mem_of_getElem? lookup)) stepped)
    rw [weight]
    exact ⟨⟨ledgerAfter, pagedAfter, rfl, kept⟩, paid⟩
  | _ =>
    obtain ⟨kept, config, spare⟩ := awaits_aside (fun _ _ same => by cases same) stays awaits taken
    exact ⟨⟨ledgerAfter, pagedAfter, config, kept⟩, (Nat.zero_add _).le.trans spare⟩

theorem newer_starts_le_spare {actions : List Action} (positive : 0 < config.scanPageSize)
    (anchored : Anchored config task system)
    (awaiting : Guarded System.step (Awaiting task) system actions) :
    newerStarts task system actions ≤ system.spare config.maxResourceBypasses := by
  have paid : ∀ (state : System σ) (action : Action) (next : System σ),
      Awaiting task state action → Anchored config task state → state.step action = some next →
      Anchored config task next ∧ newerStart task state action +
        next.spare config.maxResourceBypasses ≤ state.spare config.maxResourceBypasses :=
    fun _ _ _ guard holds taken => anchored_step positive guard holds taken
  exact tally_le_budget paid anchored awaiting

/-- A task that is refused while no other task is the anchor becomes the anchor. -/
theorem anchored_refusal (ledger : Ledger system) (paged : PagedStore.Paged system.core.store)
    (fresh : FreshIds system (.thread index input)) (refuses : system.Refuses task index input scan)
    (unanchored : scan.fairness.anchor = none ∨ scan.fairness.AnchoredTo task)
    (taken : system.step (.thread index input) = some next) :
    Anchored system.config task next := by
  have ledgerAfter := ledger_step fresh ledger taken
  have pagedAfter := paged_step ledger paged taken
  have anchored : ((scan.consider task scan.rest.tail).waitFor task).fairness.AnchoredTo task := by
    rcases unanchored with free | same
    · change (if scan.fairness.anchor.isNone then _ else _ : ResourceFairness).AnchoredTo task
      rw [free]
      rfl
    · have kept := @wait_for_anchored task task (scan.consider task scan.rest.tail) same
      rw [kept]
      exact same
  have met : ((scan.consider task scan.rest.tail).waitFor task).sawAnchor = true :=
    Bool.or_eq_true_iff.mpr (.inr ((is_anchor_iff anchored).mpr ⟨rfl, rfl⟩))
  have same := refused_scan refuses taken
  subst same
  refine ⟨ledgerAfter, pagedAfter, rfl,
    awaits_alone ledgerAfter.staff (advance_self refuses.place) ?_⟩
  exact awaits_scan rfl rfl rfl (fun same => by cases same) anchored (.inl met)

/-- From its refusal on, as long as it stays ready and is refused, a task is passed by at most
as often as the limit allows, if no other task was the anchor when it was refused and no scan
goes on behind a page it left for want of a slot. -/
theorem newer_starts_bounded (config : Config) (store : σ) (knownIds : List TaskId)
    (valid : LawfulStore.Valid store) (paged : PagedStore.Paged store)
    (known : ∀ id, TaskStore.getEncodedTask store id ≠ none → id ∈ knownIds)
    (before interval : List Action) (system refused : System σ) (task : TaskSummary) (index : Nat)
    (input : Input) (scan : Scan)
    (fresh : Guarded System.step FreshIds (System.boot config store knownIds)
      (before ++ .thread index input :: interval))
    (reached : runActions System.step (System.boot config store knownIds) before = some system)
    (positive : 0 < system.config.scanPageSize) (refuses : system.Refuses task index input scan)
    (unanchored : scan.fairness.anchor = none ∨ scan.fairness.AnchoredTo task)
    (taken : system.step (.thread index input) = some refused)
    (stays : ∀ config, Action.restart config ∉ interval)
    (waits : Guarded System.step (KeepsWaiting task) refused interval)
    (finished : Guarded System.step PagesFinished refused interval) :
    newerStarts task refused interval ≤ system.config.maxResourceBypasses := by
  obtain ⟨freshBefore, freshStep, freshAfter⟩ := guarded_append fresh reached
  have start : Ledger (System.boot config store knownIds) ∧
      PagedStore.Paged (System.boot config store knownIds).core.store :=
    ⟨ledger_boot valid known, paged⟩
  obtain ⟨ledger, pagedBefore⟩ := run_invariant
    (fun {_ _ next} guard holds taken =>
      (⟨ledger_step guard holds.1 taken, paged_step holds.1 holds.2 taken⟩ :
        Ledger next ∧ PagedStore.Paged next.core.store))
    start freshBefore reached
  have anchored := anchored_refusal ledger pagedBefore freshStep refuses unanchored taken
  have awaiting : Guarded System.step (Awaiting task) refused interval :=
    guarded_and (without_restart (freshAfter refused taken) stays) (guarded_and waits finished)
  exact (newer_starts_le_spare positive anchored awaiting).trans
    (spare_sum_le anchored.ledger.staff.roles)

end System

section Samples

variable {σ : Type} [TaskStore σ]

instance (config : Config) (task : TaskSummary) (record : Option StoredTask) (thread : Thread)
    (input : Input) : Decidable (thread.Refused config task record input) :=
  inferInstanceAs (Decidable (_ ∧ _))

instance (task : TaskSummary) (record : Option StoredTask) : Decidable (Waiting task record) :=
  inferInstanceAs (Decidable (Present _ record))

instance (task : TaskSummary) (system : System σ) (action : Action) :
    Decidable (KeepsWaiting task system action) :=
  inferInstanceAs (Decidable (_ ∧ ∀ moving ∈ system.steps action, _))

instance (config : Config) (core : Core σ) (thread : Thread) :
    Decidable (thread.StaysFull config core) :=
  inferInstanceAs (Decidable (∀ scan ∈ thread.leaves, _))

instance (system : System σ) (action : Action) : Decidable (PagesFinished system action) :=
  inferInstanceAs (Decidable (∀ moving ∈ system.steps action, _))

def Oldest (task : TaskSummary) (system : System σ) (_ : Action) : Prop :=
  ∀ id ∈ system.core.knownIds, Holds (fun summary => summary.state = .queued →
    (TaskCursor.ofSummary summary).lt (TaskCursor.ofSummary task) = false) (system.recordOf id)

instance (task : TaskSummary) (system : System σ) (action : Action) :
    Decidable (Oldest task system action) :=
  inferInstanceAs (Decidable (∀ id ∈ system.core.knownIds, Holds _ (system.recordOf id)))

def sampleTight : Config := { sampleConfig .cooperative with maxResourceBypasses := 1 }

def sampleDenied : Input := { reservation := .ok false }

def sampleSubmits (thread : Nat) (id : TaskId) : List Action :=
  [.call (.submit (.ok sampleRequest))] ++ threadSteps [thread, thread, thread] ++
    [.thread thread { generated := .ok id }] ++ threadSteps [thread]

/-- Three tasks are submitted, and the scheduler comes to the first of them. -/
def samplePassed : List Action :=
  threadSteps [3, 3, 3] ++ sampleSubmits 4 { value := 1 } ++ sampleSubmits 5 { value := 2 } ++
    sampleSubmits 6 { value := 3 } ++ threadSteps (List.replicate 10 0)

/-- The second task starts behind the first, the third waits for it in two scans. -/
def samplePassing : List Action :=
  threadSteps (List.replicate 25 0) ++ [.thread 0 sampleDenied] ++
    threadSteps (List.replicate 3 0)

/-- Two tasks are refused, the first of them is cancelled, two more are submitted, and the
scheduler comes to the second task again. -/
def sampleStale : List Action :=
  threadSteps [3, 3, 3] ++ sampleSubmits 4 { value := 1 } ++ sampleSubmits 5 { value := 2 } ++
    threadSteps (List.replicate 10 0) ++ [.thread 0 sampleDenied] ++ threadSteps [0, 0] ++
    [.thread 0 sampleDenied] ++ threadSteps (List.replicate 5 0) ++
    [.call (.cancel { value := 1 })] ++ threadSteps (List.replicate 6 6) ++
    sampleSubmits 7 { value := 3 } ++ sampleSubmits 8 { value := 4 } ++
    threadSteps (List.replicate 10 0)

/-- One of the new tasks starts in the scan in which the second task is refused, the other one
in the scan after it. -/
def sampleStaleScans : List Action :=
  threadSteps (List.replicate 22 0) ++ [.thread 0 sampleDenied] ++
    threadSteps (List.replicate 6 0)

/-- The scheduler, as the first thread, refuses the entry it faces, and the check succeeds on
the entry, the scan and the state after the refusal. -/
def System.refusalCheck (check : TaskSummary → Scan → System σ → Bool) (system : System σ) :
    Bool :=
  match system.threads.head? with
  | some (.scheduler (.dispatch scan)) =>
      match scan.rest.head? with
      | some task =>
          (system.config.handlers.dispatchProblem task).isNone &&
            (system.step (.thread 0 sampleDenied)).any (check task scan)
      | none => false
  | _ => false

theorem refusal_of_check {check : TaskSummary → Scan → System σ → Bool} {system : System σ}
    (checked : system.refusalCheck check = true) :
    ∃ task scan refused, system.Refuses task 0 sampleDenied scan ∧
      system.step (.thread 0 sampleDenied) = some refused ∧ check task scan refused = true := by
  unfold System.refusalCheck at checked
  split at checked
  · rename_i scan found
    split at checked
    · rename_i task entry
      obtain ⟨eligible, after⟩ := Bool.and_eq_true_iff.mp checked
      obtain ⟨refused, taken, passes⟩ := (Option.any_eq_true _ _).mp after
      rw [List.head?_eq_getElem?] at found
      exact ⟨task, scan, refused, ⟨found, entry, Option.isNone_iff_eq_none.mp eligible, rfl⟩, taken,
        passes⟩
    · cases checked
  · cases checked

/-- The second task starts behind the first, and no other does. -/
theorem newer_starts_bounded_sample :
    let start := System.boot sampleTight (MemoryTaskStore.withLimits 4 1024 4) []
    ∃ (system refused : System MemoryTaskStore) (task : TaskSummary) (scan : Scan),
      runActions System.step start samplePassed = some system ∧
        system.Refuses task 0 sampleDenied scan ∧ scan.fairness.anchor = none ∧
        system.step (.thread 0 sampleDenied) = some refused ∧
        newerStarts task refused samplePassing = 1 ∧
        newerStarts task refused samplePassing ≤ system.config.maxResourceBypasses := by
  intro start
  obtain ⟨system, reached, checked⟩ := @run_of_check _ _ System.step start samplePassed
    (fun system => decide (0 < system.config.scanPageSize) &&
      system.refusalCheck fun task scan refused => decide
        (scan.fairness.anchor = none ∧
          Guarded System.step (KeepsWaiting task) refused samplePassing ∧
          Guarded System.step PagesFinished refused samplePassing ∧
          newerStarts task refused samplePassing = 1)) (by decide +kernel)
  obtain ⟨positive, faced⟩ := Bool.and_eq_true_iff.mp checked
  obtain ⟨task, scan, refused, refuses, taken, passes⟩ := refusal_of_check faced
  obtain ⟨unanchored, waits, finished, counted⟩ := of_decide_eq_true passes
  have bound := newer_starts_bounded sampleTight (MemoryTaskStore.withLimits 4 1024 4) []
    (with_limits_valid ..) trivial (with_limits_known _ _ _ _) samplePassed samplePassing system
    refused task 0 sampleDenied scan (by decide +kernel) reached (of_decide_eq_true positive)
    refuses (.inl unanchored) taken
    (fun other member => by simp [samplePassing, threadSteps] at member) waits finished
  exact ⟨system, refused, task, scan, reached, refuses, unanchored, taken, counted, bound⟩

/-- With a limit of one, two tasks start behind a ready task that is refused in every scan and
that no older task waits before: the first start is counted against a task that was cancelled. -/
theorem waiting_task_passed_twice :
    let start := System.boot sampleTight (MemoryTaskStore.withLimits 4 1024 4) []
    ∃ (system refused final : System MemoryTaskStore) (task : TaskSummary) (scan : Scan),
      Guarded System.step FreshIds start
          (sampleStale ++ .thread 0 sampleDenied :: sampleStaleScans) ∧
        runActions System.step start sampleStale = some system ∧
        system.Refuses task 0 sampleDenied scan ∧
        system.step (.thread 0 sampleDenied) = some refused ∧
        runActions System.step refused sampleStaleScans = some final ∧
        (∀ config, Action.restart config ∉ sampleStaleScans) ∧
        Guarded System.step (KeepsWaiting task) refused sampleStaleScans ∧
        Guarded System.step (Oldest task) refused sampleStaleScans ∧
        system.config.maxResourceBypasses = 1 ∧
        newerStarts task refused sampleStaleScans = 2 := by
  intro start
  obtain ⟨system, reached, checked⟩ := @run_of_check _ _ System.step start sampleStale
    (fun system => decide (system.config.maxResourceBypasses = 1) &&
      system.refusalCheck fun task _ refused =>
        (runActions System.step refused sampleStaleScans).isSome && decide
          (Guarded System.step (KeepsWaiting task) refused sampleStaleScans ∧
            Guarded System.step (Oldest task) refused sampleStaleScans ∧
            newerStarts task refused sampleStaleScans = 2)) (by decide +kernel)
  obtain ⟨limit, faced⟩ := Bool.and_eq_true_iff.mp checked
  obtain ⟨task, scan, refused, refuses, taken, passes⟩ := refusal_of_check faced
  obtain ⟨continues, facts⟩ := Bool.and_eq_true_iff.mp passes
  obtain ⟨final, ends⟩ := Option.isSome_iff_exists.mp continues
  obtain ⟨waits, oldest, counted⟩ := of_decide_eq_true facts
  refine ⟨system, refused, final, task, scan, by decide +kernel, reached, refuses, taken, ends, ?_,
    waits, oldest, of_decide_eq_true limit, counted⟩
  intro config member
  simp [sampleStaleScans, threadSteps] at member

end Samples

end TaskService.Service
