import TaskService.Service.Deeds
import TaskService.Store.Revisions

/-!
# Records and what is held about them

The books relate the records of a store to the summaries, fresh identifiers and
running attempts that somebody holds outside it, whoever that is.  An owned
attempt finds its record running at that attempt; a pending identifier has no
record and no reader; a held summary is one the record has had, and a held
summary of an owned task that does not show it running is of an older version.
-/

namespace TaskService.Service

open Library Model Store

def RunningAt (record : Option StoredTask) (attempt : Nat) : Prop :=
  Present (fun summary => summary.state = .running ∧ summary.attempt = attempt) record

instance (record : Option StoredTask) (attempt : Nat) : Decidable (RunningAt record attempt) :=
  inferInstanceAs (Decidable (Present _ record))

theorem running_of_live (attempt : Nat) :
    OfLive fun summary => summary.state = .running ∧ summary.attempt = attempt := by
  rintro summary ⟨state, -⟩
  rw [state]
  rfl

variable {attempt : Nat} {after before : Records} {answer : Except StoreError TaskSummary}
  {id other : TaskId}

theorem RunningAt.of_eq {before after : Option StoredTask} (running : RunningAt before attempt)
    (same : after = before) : RunningAt after attempt :=
  Present.of_eq running same

theorem RunningAt.kept {before after : Option StoredTask} (running : RunningAt before attempt)
    (kept : Kept before after) : RunningAt after attempt :=
  Present.kept (running_of_live attempt) running kept

theorem RunningAt.transition {command : TransitionCommand} (running : RunningAt (before id) attempt)
    (effect : TransitionEffect before after command answer)
    (annotates : id = command.id → ∀ task, before id = some task →
      TransitionMatches task.summary command → command.state = .running) :
    RunningAt (after id) attempt := by
  apply Present.transition (running_of_live attempt) running effect
  intro same task present matched
  obtain ⟨found, shown, -, counted⟩ := running
  rw [present] at shown
  cases shown
  have keeps := annotates same.symm task present matched
  exact ⟨fun _ => ⟨keeps, counted⟩, fun _ => ⟨keeps, counted⟩⟩

theorem RunningAt.progress (running : RunningAt (before other) attempt)
    (effect : ProgressEffect before after id) :
    RunningAt (after other) attempt :=
  Present.progress running effect (fun _ _ known => known)

theorem RunningAt.start {command : StartCommand} (running : RunningAt (before id) attempt)
    (effect : StartEffect before after command answer) : RunningAt (after id) attempt := by
  apply Present.start running effect
  rintro summary ⟨state, -⟩ queued
  rw [queued] at state
  cases state

theorem RunningAt.accept {now : Nat} {request : StoredTaskRequest}
    {answer : Except StoreError AcceptOutcome} (running : RunningAt (before other) attempt)
    (effect : AcceptEffect before after id request now answer) :
    RunningAt (after other) attempt :=
  Present.accept (running_of_live attempt) running effect

structure Books (records : Records) (known : List TaskId) (held : List TaskSummary)
    (pending : List TaskId) (owned : List (TaskId × Nat)) : Prop where
  knownRecords : ∀ id, records id ≠ none → id ∈ known
  knownHeld : ∀ summary ∈ held, summary.id ∈ known
  knownPending : ∀ id ∈ pending, id ∈ known
  absent : ∀ id ∈ pending, records id = none
  unread : ∀ id ∈ pending, ∀ summary ∈ held, summary.id ≠ id
  running : ∀ id attempt, (id, attempt) ∈ owned → RunningAt (records id) attempt
  follows : ∀ summary ∈ held, ∀ task, records summary.id = some task →
    Follows summary task.summary
  ahead : ∀ summary ∈ held, ∀ attempt, (summary.id, attempt) ∈ owned → summary.state ≠ .running →
    ∀ task, records summary.id = some task → summary.stateVersion < task.summary.stateVersion

namespace Books

variable {records after : Records} {known : List TaskId} {held heldAfter : List TaskSummary}
  {pending pendingAfter : List TaskId} {owned ownedAfter : List (TaskId × Nat)}

section

variable (books : Books records known held pending owned)
include books

/-- Records go on, summaries are read or passed on, and attempts that stay owned
stay running. -/
theorem evolve (evolves : ∀ id, Evolves (records id) (after id))
    (reads : ∀ summary ∈ heldAfter, summary ∈ held ∨
      ∃ task, records summary.id = some task ∧ task.summary = summary)
    (passes : ∀ id ∈ pendingAfter, id ∈ pending) (keeps : ∀ id attempt, (id, attempt) ∈ ownedAfter →
      (id, attempt) ∈ owned ∧ RunningAt (after id) attempt) :
    Books after known heldAfter pendingAfter ownedAfter where
  knownRecords := by
    intro id present
    obtain ⟨later, stored⟩ := Option.ne_none_iff_exists'.mp present
    obtain ⟨earlier, before, -⟩ := evolves id later stored
    exact books.knownRecords id (by simp [before])
  knownHeld := by
    intro summary member
    rcases reads summary member with passed | ⟨task, shown, -⟩
    · exact books.knownHeld summary passed
    · exact books.knownRecords _ (by simp [shown])
  knownPending := fun id member => books.knownPending id (passes id member)
  absent := by
    intro id member
    have gone := books.absent id (passes id member)
    cases later : after id with
    | none => rfl
    | some task =>
      obtain ⟨earlier, before, -⟩ := evolves id task later
      rw [gone] at before
      cases before
  unread := by
    intro id member summary inside same
    rcases reads summary inside with passed | ⟨task, shown, -⟩
    · exact books.unread id (passes id member) summary passed same
    · rw [same, books.absent id (passes id member)] at shown
      cases shown
  running := fun id attempt member => (keeps id attempt member).2
  follows := by
    intro summary member task present
    obtain ⟨earlier, before, later⟩ := evolves summary.id task present
    rcases reads summary member with passed | ⟨read, shown, same⟩
    · exact (books.follows summary passed earlier before).trans later
    · rw [shown] at before
      cases before
      rw [← same]
      exact later
  ahead := by
    intro summary member attempt own notRunning task present
    obtain ⟨earlier, before, later⟩ := evolves summary.id task present
    have ownBefore := (keeps summary.id attempt own).1
    rcases reads summary member with passed | ⟨read, shown, same⟩
    · have older := books.ahead summary passed attempt ownBefore notRunning earlier before
      exact Nat.lt_of_lt_of_le older later.version_le
    · obtain ⟨live, found, state, -⟩ := books.running summary.id attempt ownBefore
      rw [shown] at found
      cases found
      rw [same] at state
      exact (notRunning state).elim

theorem generate (id : TaskId) (fresh : id ∉ known) (reads : ∀ summary ∈ heldAfter, summary ∈ held)
    (passes : ∀ other ∈ pendingAfter, other = id ∨ other ∈ pending)
    (keeps : ∀ entry ∈ ownedAfter, entry ∈ owned) :
    Books records (id :: known) heldAfter pendingAfter ownedAfter where
  knownRecords := fun other present => List.mem_cons_of_mem _ (books.knownRecords other present)
  knownHeld := fun summary member =>
    List.mem_cons_of_mem _ (books.knownHeld summary (reads summary member))
  knownPending := by
    intro other member
    rcases passes other member with rfl | passed
    · exact List.mem_cons_self
    · exact List.mem_cons_of_mem _ (books.knownPending other passed)
  absent := by
    intro other member
    rcases passes other member with rfl | passed
    · by_contra present
      exact fresh (books.knownRecords other present)
    · exact books.absent other passed
  unread := by
    intro other member summary inside same
    rcases passes other member with rfl | passed
    · apply fresh
      rw [← same]
      exact books.knownHeld summary (reads summary inside)
    · exact books.unread other passed summary (reads summary inside) same
  running := fun other attempt member => books.running other attempt (keeps _ member)
  follows := fun summary member => books.follows summary (reads summary member)
  ahead := fun summary member attempt own =>
    books.ahead summary (reads summary member) attempt (keeps _ own)

theorem create (id : TaskId) (waiting : id ∈ pending)
    (others : ∀ other, other ≠ id → Evolves (records other) (after other))
    (reads : ∀ summary ∈ heldAfter, summary ∈ held)
    (passes : ∀ other ∈ pendingAfter, other ∈ pending ∧ other ≠ id)
    (keeps : ∀ other attempt, (other, attempt) ∈ ownedAfter →
      (other, attempt) ∈ owned ∧ RunningAt (after other) attempt) :
    Books after known heldAfter pendingAfter ownedAfter where
  knownRecords := by
    intro other present
    by_cases same : other = id
    · rw [same]
      exact books.knownPending id waiting
    · obtain ⟨later, stored⟩ := Option.ne_none_iff_exists'.mp present
      obtain ⟨earlier, before, -⟩ := others other same later stored
      exact books.knownRecords other (by simp [before])
  knownHeld := fun summary member => books.knownHeld summary (reads summary member)
  knownPending := fun other member => books.knownPending other (passes other member).1
  absent := by
    intro other member
    obtain ⟨passed, different⟩ := passes other member
    have gone := books.absent other passed
    cases later : after other with
    | none => rfl
    | some task =>
      obtain ⟨earlier, before, -⟩ := others other different task later
      rw [gone] at before
      cases before
  unread := fun other member summary inside =>
    books.unread other (passes other member).1 summary (reads summary inside)
  running := fun other attempt member => (keeps other attempt member).2
  follows := by
    intro summary member task present
    have different := books.unread id waiting summary (reads summary member)
    obtain ⟨earlier, before, later⟩ := others summary.id different task present
    exact (books.follows summary (reads summary member) earlier before).trans later
  ahead := by
    intro summary member attempt own notRunning task present
    have different := books.unread id waiting summary (reads summary member)
    obtain ⟨earlier, before, later⟩ := others summary.id different task present
    have older := books.ahead summary (reads summary member) attempt
      (keeps summary.id attempt own).1 notRunning earlier before
    exact Nat.lt_of_lt_of_le older later.version_le

/-- A queued record is started: the new attempt is owned, and every summary
held so far is of an older version. -/
theorem start (id : TaskId) (attempt : Nat) {queued running : StoredTask}
    (before : records id = some queued) (stored : after id = some running)
    (newer : queued.summary.stateVersion < running.summary.stateVersion)
    (state : running.summary.state = .running) (counted : running.summary.attempt = attempt)
    (others : ∀ other, other ≠ id → after other = records other)
    (reads : ∀ summary ∈ heldAfter, summary ∈ held)
    (passes : ∀ other ∈ pendingAfter, other ∈ pending)
    (keeps : ∀ entry ∈ ownedAfter, entry = (id, attempt) ∨ (entry ∈ owned ∧ entry.1 ≠ id)) :
    Books after known heldAfter pendingAfter ownedAfter where
  knownRecords := by
    intro other present
    by_cases same : other = id
    · rw [same]
      exact books.knownRecords id (by simp [before])
    · rw [others other same] at present
      exact books.knownRecords other present
  knownHeld := fun summary member => books.knownHeld summary (reads summary member)
  knownPending := fun other member => books.knownPending other (passes other member)
  absent := by
    intro other member
    have gone := books.absent other (passes other member)
    have different : other ≠ id := by
      rintro rfl
      rw [before] at gone
      cases gone
    rw [others other different]
    exact gone
  unread := fun other member summary inside =>
    books.unread other (passes other member) summary (reads summary inside)
  running := by
    intro other number member
    rcases keeps _ member with same | ⟨own, different⟩
    · cases same
      exact ⟨running, stored, state, counted⟩
    · rw [others other different]
      exact books.running other number own
  follows := by
    intro summary member task present
    by_cases same : summary.id = id
    · rw [same, stored] at present
      cases present
      have older := books.follows summary (reads summary member) queued (by rw [same, before])
      exact .inl (Nat.lt_of_le_of_lt older.version_le newer)
    · rw [others _ same] at present
      exact books.follows summary (reads summary member) task present
  ahead := by
    intro summary member number own notRunning task present
    by_cases same : summary.id = id
    · rw [same, stored] at present
      cases present
      have older := books.follows summary (reads summary member) queued (by rw [same, before])
      exact Nat.lt_of_le_of_lt older.version_le newer
    · rcases keeps _ own with equal | ⟨ownBefore, -⟩
      · exact (same (congrArg Prod.fst equal)).elim
      · rw [others _ same] at present
        exact books.ahead summary (reads summary member) number ownBefore notRunning task present

end

end Books

end TaskService.Service
