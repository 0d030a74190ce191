import TaskService.Service.Lasting
import TaskService.Service.RetryTimer
import TaskService.Store.Pages

/-!
# What a scan has listed

The scheduler goes through its pages with the summaries it was given and the clock
reading its scan began with.  Every summary it holds was due at that reading, and as
long as the record keeps its version it keeps the deadline the scan has seen.
-/

namespace TaskService.Service

open Library Model Store List

/-- The summaries a scan goes on with, each with the clock reading of the scan. -/
def SchedulerPc.listed (pc : SchedulerPc) : List (TaskSummary × Nat) :=
  match pc.scan with
  | some scan => pc.held.map fun summary => (summary, scan.now)
  | none => []

def Thread.listed : Thread → List (TaskSummary × Nat)
  | .scheduler pc => pc.listed
  | _ => []

def Due (summary : TaskSummary) (now : Nat) : Prop :=
  ∀ deadline, summary.retryNotBeforeMs = some deadline → deadline ≤ now

theorem mem_listed {pc : SchedulerPc} {scan : Scan} (at_ : pc.scan = some scan)
    (entry : TaskSummary × Nat) :
    entry ∈ pc.listed ↔ entry.1 ∈ pc.held ∧ entry.2 = scan.now := by
  obtain ⟨summary, now⟩ := entry
  rw [SchedulerPc.listed, at_]
  simp only [mem_map, Prod.mk.injEq]
  constructor
  · rintro ⟨other, held, rfl, rfl⟩
    exact ⟨held, rfl⟩
  · rintro ⟨held, rfl⟩
    exact ⟨summary, held, rfl, rfl⟩

theorem listed_held {thread : Thread} {entry : TaskSummary × Nat} (member : entry ∈ thread.listed) :
    entry.1 ∈ thread.held := by
  cases thread with
  | scheduler pc =>
    cases at_ : pc.scan with
    | none =>
      simp only [Thread.listed, SchedulerPc.listed, at_] at member
      cases member
    | some scan => exact ((mem_listed at_ entry).mp member).1
  | _ => cases member

section Scheduler

variable {σ : Type} [TaskStore σ] {config : Config} {core : Core σ} {input : Input}
  {result : Step σ} {pc next : SchedulerPc}

/-- What a step's threads have listed was listed before it, or is on a page just read. -/
def ListedStep (core : Core σ) (thread : Thread) (result : Step σ) : Prop :=
  ∀ entry ∈ result.threads.flatMap Thread.listed,
    entry ∈ thread.listed ∨ (core.Shows entry.1 ∧ Due entry.1 entry.2)

variable {after : Core σ} {thread : Thread}

theorem listed_passes {spawned : List Thread} {scan later : Scan} (at_ : pc.scan = some scan)
    (reaches : next.scan = some later) (now : later.now = scan.now) (held : next.held ⊆ pc.held)
    (others : spawned.flatMap Thread.listed = []) :
    ListedStep core (.scheduler pc)
      { core := after, thread := .scheduler next, spawned := spawned } := by
  intro entry member
  left
  have inside : entry ∈ next.listed := by
    simpa [Step.threads, others, Thread.listed] using member
  obtain ⟨among, reading⟩ := (mem_listed reaches entry).mp inside
  exact (mem_listed at_ entry).mpr ⟨held among, reading.trans now⟩

theorem listed_ends (nothing : next.listed = []) :
    ListedStep core thread ⟨after, .scheduler next, []⟩ := by
  intro entry member
  have inside : entry ∈ next.listed := by simpa [Step.threads, Thread.listed] using member
  rw [nothing] at inside
  cases inside

theorem scan_end_listed (scan : Scan) (completed : Bool) :
    (SchedulerPc.scanEnd scan completed).listed = [] := by
  unfold SchedulerPc.scanEnd
  split <;> rfl

variable [LawfulStore σ] [PagedStore σ]

theorem scheduler_listed (valid : LawfulStore.Valid core.store)
    (step : SchedulerStep config core input pc result) :
    ListedStep core (.scheduler pc) result := by
  cases step with
  | wakes | quits | goesOn | faulted | healthy | begins | full | unlisted | startFailed | unasked
  | asked | arms | resumes | stops => exact listed_ends rfl
  | scanShut | scanFaulted | scanFull | pageShut | pageFull | completed =>
    exact listed_ends (scan_end_listed _ _)
  | listed scan page called =>
    have read := read_page called
    intro entry member
    right
    have inside : entry ∈ (SchedulerPc.entryShutdown
        { scan with rest := page.records, next := page.next }).listed := by
      simpa [Step.threads, Thread.listed] using member
    obtain ⟨among, reading⟩ := (mem_listed rfl entry).mp inside
    obtain ⟨-, shown⟩ := LawfulStore.list_ready_sound core.store scan.after
      config.scanPageSize scan.now page valid read entry.1 among
    refine ⟨shown, ?_⟩
    rw [reading]
    intro deadline until_
    exact ready_deadline (PagedStore.ready_due core.store scan.after config.scanPageSize
      scan.now page valid read entry.1 among) until_
  | blocks | blockFailed | competed | turnedAway | starts | superseded =>
    exact listed_passes rfl rfl rfl (subset_cons_self _ _) rfl
  | ineligible scan summary rest reason left problem
  | impossible scan summary rest reason left eligible verdict
  | reserves scan summary rest left =>
    refine listed_passes rfl rfl rfl ?_ rfl
    rw [show (SchedulerPc.dispatch scan).held = summary :: rest from left]
    exact List.Subset.refl _
  | passesOver scan summary rest left eligible verdict spent beyond
  | refuses scan summary rest left =>
    refine listed_passes rfl rfl rfl ?_ rfl
    rw [show (SchedulerPc.dispatch scan).held = summary :: rest from left]
    exact subset_cons_self _ _
  | _ =>
    exact listed_passes rfl rfl rfl (List.Subset.refl _) rfl

theorem thread_listed (valid : LawfulStore.Valid core.store)
    (stepped : thread.step config core input = some result) : ListedStep core thread result := by
  intro entry member
  obtain ⟨following, among, lists⟩ := mem_flatMap.mp member
  cases following with
  | scheduler pc =>
    obtain ⟨before, rfl⟩ := scheduler_source (thread_conduct stepped) among
    exact scheduler_listed valid (scheduler_step_cases before stepped) entry member
  | _ => cases lists

end Scheduler

section Timely

variable {σ : Type} [TaskStore σ] {system next : System σ} {index : Nat} {input : Input}
  {thread : Thread} {result : Step σ}

/-- Every listed summary was due, and shows the task and the deadline of its record. -/
def Timely (system : System σ) : Prop :=
  ∀ entry ∈ system.threads.flatMap Thread.listed, Due entry.1 entry.2 ∧
    ∀ task, system.recordOf entry.1.id = some task → SameListing entry.1 task.summary

theorem timely_aside (timely : Timely system) (unmoved : Aside system next) : Timely next := by
  intro entry member
  rw [unmoved.tokens Thread.listed fun call => by cases call <;> rfl] at member
  obtain ⟨due, shows⟩ := timely entry member
  refine ⟨due, ?_⟩
  intro task present
  obtain ⟨earlier, before, later⟩ := unmoved.evolves same_listing_revision _ task present
  exact (shows earlier before).trans later

variable [LawfulStore σ]

theorem timely_moved (ledger : Ledger system) (lookup : system.threads[index]? = some thread)
    (deed : system.Deed input thread result)
    (listed : ListedStep system.core thread result) (timely : Timely system) :
    Timely (system.moved index result) := by
  intro entry member
  have known : (entry ∈ system.threads.flatMap Thread.listed) ∨
      (system.core.Shows entry.1 ∧ Due entry.1 entry.2) := by
    rcases mem_tokens_advance Thread.listed member with renewed | ⟨_, other, _, found, lists⟩
    · rcases listed entry renewed with passed | read
      · exact .inl (mem_tokens lookup passed)
      · exact .inr read
    · exact .inl (mem_tokens found lists)
  rcases known with old | ⟨⟨read, found, shown⟩, due⟩
  · obtain ⟨due, shows⟩ := timely entry old
    refine ⟨due, ?_⟩
    intro task present
    obtain ⟨lister, among, lists⟩ := mem_flatMap.mp old
    have held : entry.1 ∈ system.held := mem_flatMap.mpr ⟨lister, among, listed_held lists⟩
    have unborn : entry.1.id ∉ system.pending := fun pending =>
      ledger.books.unread _ pending entry.1 held rfl
    obtain ⟨earlier, before, later⟩ :=
      deed_evolves_by same_listing_revision ledger lookup deed unborn task present
    exact (shows earlier before).trans later
  · refine ⟨due, ?_⟩
    intro task present
    have unborn : entry.1.id ∉ system.pending := by
      intro pending
      rw [show system.core.recordOf entry.1.id = none from ledger.books.absent _ pending] at found
      cases found
    obtain ⟨earlier, before, later⟩ :=
      deed_evolves_by same_listing_revision ledger lookup deed unborn task present
    rw [show system.recordOf entry.1.id = some read from found] at before
    cases before
    rw [← shown]
    exact later

omit [TaskStore σ] [LawfulStore σ] in
theorem drop_listed [TaskStore σ] {core : Core σ} (left : Dropped core thread input result) :
    ListedStep core thread result := by
  have remains : thread.remains.listed = [] := by
    cases thread <;> rfl
  intro entry member
  cases left with
  | idle dropped left =>
    subst left
    simp [Step.threads, remains] at member
  | @issued after write dropped carried left =>
    subst left
    simp [Step.threads, remains, show (Thread.detached write).listed = [] from rfl] at member

theorem timely_step [PagedStore σ] {action : Action} (ledger : Ledger system)
    (timely : Timely system) (taken : system.step action = some next) : Timely next := by
  cases step_change ledger taken with
  | stepped lookup stepped =>
    exact timely_moved ledger lookup (ledger.footprint lookup stepped).deed
      (thread_listed ledger.valid stepped) timely
  | dropped lookup left =>
    exact timely_moved ledger lookup (ledger.left_footprint lookup left).deed
      (drop_listed left) timely
  | aside unmoved => exact timely_aside timely unmoved
  | restart config =>
    intro entry member
    rw [tokens_restart Thread.listed rfl (fun _ => rfl)] at member
    cases member

end Timely

end TaskService.Service
