import TaskService.Store.TaskStore

/-!
# Revisions of a record

The version of a record never goes back.  Two summaries of one task with the
same version agree on state, attempt and cancellation, unless the version has
reached its bound: there a store may rewrite a record in place and fail.

A fact holds of a record when it holds of its summary, if the record is there;
it is present when the record is there too.  The lemmas say what a fact has to
survive so that a call keeps it: most calls leave the record alone, or evict it
when it is terminal.
-/

namespace TaskService.Store

open Library Model

def Agree (earlier later : TaskSummary) : Prop :=
  earlier.state = later.state ∧ earlier.attempt = later.attempt ∧
    earlier.cancelRequested = later.cancelRequested

/-- A version no further revision can be counted on. -/
def Exhausted (summary : TaskSummary) : Prop :=
  u64Bound ≤ summary.stateVersion + 1

/-- `later` is of a later version, or the two agree at one version that is not exhausted. -/
def RevisedBy (agree : TaskSummary → TaskSummary → Prop) (earlier later : TaskSummary) : Prop :=
  earlier.stateVersion < later.stateVersion ∨
    (earlier.stateVersion = later.stateVersion ∧ (agree earlier later ∨ Exhausted earlier))

theorem RevisedBy.trans {agree : TaskSummary → TaskSummary → Prop}
    (transitive : ∀ first second third, agree first second → agree second third →
      agree first third)
    {first second third : TaskSummary} (left : RevisedBy agree first second)
    (right : RevisedBy agree second third) : RevisedBy agree first third := by
  rcases left with before | ⟨same, agreed⟩
  · left
    rcases right with after | ⟨equal, _⟩
    · exact Nat.lt_trans before after
    · rw [← equal]
      exact before
  · rcases right with after | ⟨equal, agreedLater⟩
    · left
      rw [same]
      exact after
    · refine .inr ⟨same.trans equal, ?_⟩
      rcases agreed with agreed | exhausted
      · rcases agreedLater with agreedLater | exhausted
        · exact .inl (transitive _ _ _ agreed agreedLater)
        · right
          unfold Exhausted at exhausted ⊢
          rw [same]
          exact exhausted
      · exact .inr exhausted

variable {earlier later : TaskSummary}

theorem RevisedBy.agree {agree : TaskSummary → TaskSummary → Prop}
    (revised : RevisedBy agree earlier later) (same : earlier.stateVersion = later.stateVersion) :
    agree earlier later ∨ Exhausted later := by
  rcases revised with before | ⟨_, agreed | exhausted⟩
  · exact (Nat.ne_of_lt before same).elim
  · exact .inl agreed
  · right
    unfold Exhausted at exhausted ⊢
    rw [← same]
    exact exhausted

/-- `later` is the summary of the same task at the same or a later time. -/
def Follows : TaskSummary → TaskSummary → Prop :=
  RevisedBy Agree

theorem Agree.trans {first second third : TaskSummary} (left : Agree first second)
    (right : Agree second third) : Agree first third :=
  ⟨left.1.trans right.1, left.2.1.trans right.2.1, left.2.2.trans right.2.2⟩

theorem Follows.trans {first second third : TaskSummary} (left : Follows first second)
    (right : Follows second third) : Follows first third := by
  unfold Follows at left right ⊢
  exact left.trans (fun _ _ _ same equal => same.trans equal) right

theorem Follows.version_le (follows : Follows earlier later) :
    earlier.stateVersion ≤ later.stateVersion := by
  rcases follows with before | ⟨same, _⟩
  · exact Nat.le_of_lt before
  · exact Nat.le_of_eq same

theorem Follows.agree (follows : Follows earlier later)
    (same : earlier.stateVersion = later.stateVersion) : Agree earlier later ∨ Exhausted later :=
  RevisedBy.agree follows same

/-- What the scheduler judges a queued task by; no call on the store changes it. -/
def dispatched (summary : TaskSummary) : String × String × Nat × String × ResourceRequest :=
  (summary.kindId, summary.payloadTypeId, summary.payloadSchemaVersion, summary.payloadCodecId,
    summary.resourceLimit)

/-- A listed summary and its record: both are judged alike, and at one version they have one
retry deadline. -/
def SameListing (earlier later : TaskSummary) : Prop :=
  dispatched earlier = dispatched later ∧
    RevisedBy (fun earlier later => earlier.retryNotBeforeMs = later.retryNotBeforeMs) earlier later

theorem SameListing.trans {first second third : TaskSummary} (left : SameListing first second)
    (right : SameListing second third) : SameListing first third :=
  ⟨left.1.trans right.1, left.2.trans (fun _ _ _ same equal => same.trans equal) right.2⟩

/-- A relation between two summaries of one task that every store call respects: calls
raise the version, report progress, or rewrite a record whose version is exhausted. -/
structure Revision (rel : TaskSummary → TaskSummary → Prop) : Prop where
  refl : ∀ summary, rel summary summary
  newer : ∀ {earlier later : TaskSummary}, earlier.stateVersion < later.stateVersion →
    dispatched earlier = dispatched later → rel earlier later
  exhausted : ∀ (summary : TaskSummary) (state : TaskState) (retryNotBeforeMs : Option Nat),
    Exhausted summary →
      rel summary { summary with state := state, retryNotBeforeMs := retryNotBeforeMs }
  reported : ∀ (summary : TaskSummary) (snapshot : TaskProgressSnapshot),
    rel summary { summary with progress := some snapshot }

theorem follows_revision : Revision Follows where
  refl := fun _ => .inr ⟨rfl, .inl ⟨rfl, rfl, rfl⟩⟩
  newer := fun less _ => .inl less
  exhausted := fun _ _ _ full => .inr ⟨rfl, .inr full⟩
  reported := fun _ _ => .inr ⟨rfl, .inl ⟨rfl, rfl, rfl⟩⟩

theorem same_listing_revision : Revision SameListing where
  refl := fun _ => ⟨rfl, .inr ⟨rfl, .inl rfl⟩⟩
  newer := fun less same => ⟨same, .inl less⟩
  exhausted := fun _ _ _ full => ⟨rfl, .inr ⟨rfl, .inr full⟩⟩
  reported := fun _ _ => ⟨rfl, .inr ⟨rfl, .inl rfl⟩⟩

/-- What is retained after a call was retained before it, as a summary it is related to. -/
def EvolvesBy (rel : TaskSummary → TaskSummary → Prop) (before after : Option StoredTask) :
    Prop :=
  ∀ later, after = some later → ∃ earlier, before = some earlier ∧ rel earlier.summary later.summary

theorem EvolvesBy.of_stored {rel : TaskSummary → TaskSummary → Prop}
    {before after : Option StoredTask} {task written : StoredTask}
    (held : before = some task) (stored : after = some written)
    (related : rel task.summary written.summary) : EvolvesBy rel before after := by
  intro later present
  rw [stored] at present
  cases present
  exact ⟨task, held, related⟩

namespace Revision

variable {rel : TaskSummary → TaskSummary → Prop}

section

variable (revision : Revision rel)
include revision

theorem of_eq {before after : Option StoredTask} (same : after = before) :
    EvolvesBy rel before after := by
  intro later present
  exact ⟨later, same.symm.trans present, revision.refl _⟩

theorem kept {before after : Option StoredTask} (kept : Kept before after) :
    EvolvesBy rel before after := by
  intro later present
  exact ⟨later, kept.eq_of_some present, revision.refl _⟩

variable {after before : Records} {id : TaskId} {answer : Except StoreError TaskSummary}

theorem start {command : StartCommand} (effect : StartEffect before after command answer)
    (id : TaskId) : EvolvesBy rel (before id) (after id) := by
  rcases effect.record id with same | ⟨-, task, held, -, -, stored | stored⟩
  · exact revision.of_eq same
  · exact .of_stored held stored (revision.newer (Nat.lt_succ_self _) rfl)
  · exact .of_stored held stored (revision.newer (Nat.lt_succ_self _) rfl)

theorem transition {command : TransitionCommand}
    (effect : TransitionEffect before after command answer) (id : TaskId) :
    EvolvesBy rel (before id) (after id) := by
  rcases effect.record id with
    kept | ⟨-, task, held, -, ⟨-, stored⟩ | ⟨-, -, gone⟩ | ⟨full, stored⟩⟩
  · exact revision.kept kept
  · exact .of_stored held stored (revision.newer (Nat.lt_succ_self _) rfl)
  · intro later present
    rw [gone] at present
    cases present
  · exact .of_stored held stored (revision.exhausted _ _ _ full)

theorem progress (effect : ProgressEffect before after id) (other : TaskId) :
    EvolvesBy rel (before other) (after other) := by
  rcases effect.record other with same | ⟨-, task, snapshot, held, stored⟩
  · exact revision.of_eq same
  · exact .of_stored held stored (revision.reported _ _)

theorem accept {request : StoredTaskRequest} {now : Nat} {answer : Except StoreError AcceptOutcome}
    (effect : AcceptEffect before after id request now answer) (other : TaskId)
    (different : other ≠ id ∨ before id ≠ none) : EvolvesBy rel (before other) (after other) := by
  rcases effect.record other with kept | ⟨rfl, absent, -⟩
  · exact revision.kept kept
  · exact (different.resolve_left (fun apart => apart rfl) absent).elim

end

end Revision

/-- What is retained after a call was retained before it, at the same or an
earlier revision. -/
def Evolves : Option StoredTask → Option StoredTask → Prop :=
  EvolvesBy Follows

def Holds (fact : TaskSummary → Prop) (record : Option StoredTask) : Prop :=
  ∀ task, record = some task → fact task.summary

def Present (fact : TaskSummary → Prop) (record : Option StoredTask) : Prop :=
  ∃ task, record = some task ∧ fact task.summary

instance (fact : TaskSummary → Prop) [DecidablePred fact] (record : Option StoredTask) :
    Decidable (Holds fact record) :=
  decidable_of_iff (record.all (fun task => decide (fact task.summary)) = true) (by
    simp [Holds, Option.all_eq_true])

instance (fact : TaskSummary → Prop) [DecidablePred fact] (record : Option StoredTask) :
    Decidable (Present fact record) :=
  decidable_of_iff (record.any (fun task => decide (fact task.summary)) = true) (by
    simp [Present, Option.any_eq_true])

def OfLive (fact : TaskSummary → Prop) : Prop :=
  ∀ summary, fact summary → summary.state.isTerminal = false

def Survives (fact : TaskSummary → Prop) (summary : TaskSummary) (command : TransitionCommand) :
    Prop :=
  (summary.stateVersion + 1 < u64Bound → fact (transitionedSummary summary command)) ∧
    (u64Bound ≤ summary.stateVersion + 1 →
      fact { summary with
        state := command.state
        retryNotBeforeMs := command.retryNotBeforeMs })

def TransitionedTo (earlier later : TaskSummary) (command : TransitionCommand) : Prop :=
  (earlier.stateVersion + 1 < u64Bound ∧ later = transitionedSummary earlier command) ∨
    (u64Bound ≤ earlier.stateVersion + 1 ∧
      later = { earlier with
        state := command.state
        retryNotBeforeMs := command.retryNotBeforeMs })

theorem Survives.transitioned {fact : TaskSummary → Prop} {earlier later : TaskSummary}
    {command : TransitionCommand} (survives : Survives fact earlier command)
    (written : TransitionedTo earlier later command) : fact later := by
  rcases written with ⟨room, rfl⟩ | ⟨full, rfl⟩
  · exact survives.1 room
  · exact survives.2 full

def Starts (fact : TaskSummary → Prop) (summary : TaskSummary) (command : StartCommand) : Prop :=
  fact (startedSummary summary command) ∧
    fact { summary with stateVersion := summary.stateVersion + 1 }

variable {fact : TaskSummary → Prop} {before after : Records} {id other : TaskId}

namespace Holds

variable {new old : Option StoredTask} {now : Nat} {request : StoredTaskRequest}
  {answer : Except StoreError TaskSummary} {command : TransitionCommand}

theorem of_eq (holds : Holds fact old) (same : new = old) :
    Holds fact new := by
  rw [same]
  exact holds

theorem kept (holds : Holds fact old) (kept : Kept old new) :
    Holds fact new := by
  intro task present
  exact holds task (kept.eq_of_some present)

theorem of_stored {record : Option StoredTask} {task : StoredTask} (stored : record = some task)
    (known : fact task.summary) : Holds fact record := by
  intro other present
  rw [stored] at present
  cases present
  exact known

theorem of_absent {record : Option StoredTask} (absent : record = none) : Holds fact record := by
  intro task present
  rw [absent] at present
  cases present

theorem progress (holds : Holds fact (before other)) (effect : ProgressEffect before after id)
    (reported : ∀ summary snapshot, fact summary →
      fact { summary with progress := some snapshot }) : Holds fact (after other) := by
  rcases effect.record other with same | ⟨-, task, snapshot, held, stored⟩
  · exact holds.of_eq same
  · exact of_stored stored (reported _ _ (holds task held))

theorem accept {answer : Except StoreError AcceptOutcome} (holds : Holds fact (before other))
    (different : other ≠ id) (effect : AcceptEffect before after id request now answer) :
    Holds fact (after other) := by
  rcases effect.record other with kept | ⟨same, -⟩
  · exact holds.kept kept
  · exact (different same).elim

section

variable (holds : Holds fact (before id))
include holds

theorem accept_born {answer : Except StoreError AcceptOutcome}
    (born : fact (acceptedSummary id request now))
    (effect : AcceptEffect before after id request now answer) : Holds fact (after id) := by
  rcases effect.record id with kept | ⟨-, -, stored⟩
  · exact holds.kept kept
  · exact of_stored stored born

theorem start {command : StartCommand} (effect : StartEffect before after command answer)
    (starts : command.id = id → ∀ task, before id = some task → task.summary.state = .queued →
      task.summary.stateVersion + 1 < u64Bound → Starts fact task.summary command) :
    Holds fact (after id) := by
  rcases effect.record id with same | ⟨rfl, task, held, queued, room, stored | stored⟩
  · exact holds.of_eq same
  · exact of_stored stored (starts rfl task held queued room).1
  · exact of_stored stored (starts rfl task held queued room).2

theorem transition_written (effect : TransitionEffect before after command answer)
    (written : command.id = id → ∀ task later, before id = some task →
      TransitionMatches task.summary command → after id = some later →
      TransitionedTo task.summary later.summary command → fact later.summary) :
    Holds fact (after id) := by
  rcases effect.record id with
    kept | ⟨rfl, task, held, matched, ⟨room, stored⟩ | ⟨-, -, gone⟩ | ⟨full, stored⟩⟩
  · exact holds.kept kept
  · exact of_stored stored (written rfl task _ held matched stored (.inl ⟨room, rfl⟩))
  · exact of_absent gone
  · exact of_stored stored (written rfl task _ held matched stored (.inr ⟨full, rfl⟩))

theorem transition (effect : TransitionEffect before after command answer)
    (survives : command.id = id → ∀ task, before id = some task →
      TransitionMatches task.summary command → Survives fact task.summary command) :
    Holds fact (after id) := by
  apply holds.transition_written effect
  intro same task later held matched _ written
  exact (survives same task held matched).transitioned written

theorem transition_failed {error : StoreError}
    (effect : TransitionEffect before after command (.error error))
    (keeps : ∀ (summary : TaskSummary) (state : TaskState) (retryNotBeforeMs : Option Nat),
      fact summary →
        fact { summary with state := state, retryNotBeforeMs := retryNotBeforeMs }) :
    Holds fact (after id) := by
  cases effect with
  | rejected error unchanged unmatched => exact holds.of_eq (unchanged id)
  | versionExhausted task held matched full stored others =>
    by_cases same : command.id = id
    · subst same
      intro later present
      rw [stored] at present
      cases present
      exact keeps _ _ _ (holds task held)
    · exact holds.of_eq (others id (Ne.symm same))

end

end Holds

namespace Present

variable {new old : Option StoredTask} {answer : Except StoreError TaskSummary}

theorem of_eq (present : Present fact old) (same : new = old) :
    Present fact new := by
  rw [same]
  exact present

theorem kept (live : OfLive fact) (present : Present fact old) (kept : Kept old new) :
    Present fact new := by
  obtain ⟨task, held, known⟩ := present
  exact ⟨task, kept.some_of_live held (live _ known), known⟩

theorem progress (present : Present fact (before other)) (effect : ProgressEffect before after id)
    (reported : ∀ summary snapshot, fact summary →
      fact { summary with progress := some snapshot }) : Present fact (after other) := by
  rcases effect.record other with same | ⟨-, task, snapshot, held, stored⟩
  · exact present.of_eq same
  · obtain ⟨found, shown, known⟩ := present
    cases held.symm.trans shown
    exact ⟨_, stored, reported _ _ known⟩

theorem accept {request : StoredTaskRequest} {now : Nat} {answer : Except StoreError AcceptOutcome}
    (live : OfLive fact) (present : Present fact (before other))
    (effect : AcceptEffect before after id request now answer) : Present fact (after other) := by
  rcases effect.record other with kept | ⟨-, absent, -⟩
  · exact present.kept live kept
  · obtain ⟨task, held, -⟩ := present
    cases absent.symm.trans held

theorem start {command : StartCommand} (present : Present fact (before id))
    (effect : StartEffect before after command answer)
    (started : ∀ summary, fact summary → summary.state ≠ .queued) : Present fact (after id) := by
  rcases effect.record id with same | ⟨-, task, held, queued, -⟩
  · exact present.of_eq same
  · obtain ⟨found, shown, known⟩ := present
    cases held.symm.trans shown
    exact (started _ known queued).elim

theorem transition {command : TransitionCommand} (live : OfLive fact)
    (present : Present fact (before id)) (effect : TransitionEffect before after command answer)
    (survives : command.id = id → ∀ task, before id = some task →
      TransitionMatches task.summary command → Survives fact task.summary command) :
    Present fact (after id) := by
  rcases effect.record id with
    kept | ⟨rfl, task, held, matched, ⟨room, stored⟩ | ⟨room, terminal, -⟩ | ⟨full, stored⟩⟩
  · exact present.kept live kept
  · exact ⟨_, stored, (survives rfl task held matched).1 room⟩
  · have alive : command.state.isTerminal = false := live _
      ((survives rfl task held matched).1 room)
    rw [terminal] at alive
    cases alive
  · exact ⟨_, stored, (survives rfl task held matched).2 full⟩

end Present

end TaskService.Store
