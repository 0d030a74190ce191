import Mathlib.Data.List.Flatten
import TaskService.Service.Books
import TaskService.Service.ThreadConduct

/-!
# The ledger of a service

The books kept for all threads of a system, the static facts of their program
counters, and that no two threads answer for one identifier.  Every step keeps
the ledger, across restarts too, as long as the identifier generator does not
repeat itself.
-/

namespace TaskService.Service

open Library Model Store List
open TaskStore LawfulStore
open SchedulerPc (startCommand)

variable {σ : Type} [TaskStore σ]

namespace System

def held (system : System σ) : List TaskSummary := system.threads.flatMap Thread.held

def pending (system : System σ) : List TaskId := system.threads.flatMap Thread.pending

def owned (system : System σ) : List (TaskId × Nat) := system.threads.flatMap Thread.owned

def Balanced (system : System σ) : Prop :=
  Books system.recordOf system.core.knownIds system.held system.pending system.owned

abbrev Deed (system : System σ) : Input → Thread → Step σ → Prop :=
  Service.Deed system.config system.core

end System

abbrev Input.Fresh (input : Input) (core : Core σ) : Prop :=
  ∀ id, input.generated = .ok id → id ∉ core.knownIds

/-- A condition on the steps of threads, which leaves the other actions free. -/
def OnSteps (condition : Nat → Input → Prop) : Action → Prop
  | .thread index input => condition index input
  | _ => True

instance {condition : Nat → Input → Prop} [∀ index input, Decidable (condition index input)]
    (action : Action) : Decidable (OnSteps condition action) :=
  match action with
  | .thread index input => inferInstanceAs (Decidable (condition index input))
  | .call _ | .drop _ _ _ | .requestShutdown | .dropHandles | .retryRelease | .quarantine _
  | .progress _ | .prune _ _ | .restart _ => isTrue trivial

/-- Identifiers come from a generator that never repeats one. -/
def FreshIds (system : System σ) : Action → Prop :=
  OnSteps fun _ input => input.Fresh system.core

instance (core : Core σ) (input : Input) : Decidable (input.Fresh core) :=
  decidable_of_iff (∀ id ∈ input.generated.toOption, id ∉ core.knownIds) (by
    unfold Input.Fresh
    cases input.generated <;> simp [Except.toOption])

instance (system : System σ) (action : Action) : Decidable (FreshIds system action) :=
  inferInstanceAs (Decidable (OnSteps _ action))

structure Ledger [LawfulStore σ] (system : System σ) : Prop where
  valid : Valid system.core.store
  wf : ∀ thread ∈ system.threads, thread.Wf
  staff : Staff system
  claims : (system.threads.flatMap Thread.claims).Nodup
  books : Books system.recordOf system.core.knownIds system.held system.pending system.owned

section

variable [LawfulStore σ] {system : System σ} {index : Nat} {input : Input} {thread : Thread}
  {result : Step σ} (ledger : Ledger system) (lookup : system.threads[index]? = some thread)
include ledger lookup

theorem Ledger.footprint (stepped : thread.step system.config system.core input = some result) :
    Footprint system.config system.core input thread result :=
  thread_footprint ledger.valid (ledger.wf thread (mem_of_getElem? lookup)) stepped

theorem Ledger.left_footprint (left : Dropped system.core thread input result) :
    Footprint system.config system.core {} thread result :=
  drop_footprint _ (ledger.wf thread (mem_of_getElem? lookup)) left

end

theorem claims_perm (threads : List Thread) :
    (threads.flatMap Thread.claims).Perm
      (threads.flatMap Thread.pending ++ (threads.flatMap Thread.owned).map Prod.fst) := by
  have split := flatMap_append_perm threads Thread.pending fun thread => thread.owned.map Prod.fst
  rw [map_flatMap]
  exact split.symm

theorem dormant_owned {thread : Thread} (dormant : thread.dormant = true) : thread.owned = [] := by
  cases thread with
  | scheduler pc => cases pc <;> first | rfl | cases dormant
  | run task => cases dormant
  | _ => rfl

section Deeds

variable [LawfulStore σ] {system : System σ} {index : Nat} {input : Input} {thread : Thread}
  {result : Step σ}

variable {id : TaskId} {task : StoredTask} {summary : TaskSummary} {attempt : Nat}
  {command : TransitionCommand} {fact : TaskSummary → Prop}

theorem claims_known (ledger : Ledger system) (member : id ∈ system.threads.flatMap Thread.claims) :
    id ∈ system.core.knownIds := by
  rw [(claims_perm _).mem_iff, mem_append, mem_map] at member
  rcases member with pending | ⟨⟨owner, attempt⟩, owned, rfl⟩
  · exact ledger.books.knownPending id pending
  · obtain ⟨task, present, -⟩ := ledger.books.running owner attempt owned
    exact ledger.books.knownRecords owner (by simp [present])

theorem unclaimed_of_queued (ledger : Ledger system) (present : system.recordOf id = some task)
    (queued : task.summary.state = .queued) :
    id ∉ system.threads.flatMap Thread.claims := by
  intro member
  rw [(claims_perm _).mem_iff, mem_append, mem_map] at member
  rcases member with pending | ⟨⟨owner, attempt⟩, owned, rfl⟩
  · rw [ledger.books.absent id pending] at present
    cases present
  · obtain ⟨found, shown, running, -⟩ := ledger.books.running owner attempt owned
    rw [present] at shown
    cases shown
    rw [queued] at running
    cases running

theorem deed_claims (ledger : Ledger system) (lookup : system.threads[index]? = some thread)
    (deed : system.Deed input thread result) (fresh : input.Fresh system.core) :
    (result.threads.flatMap Thread.claims).Nodup ∧
      ∀ id ∈ result.threads.flatMap Thread.claims,
        id ∈ thread.claims ∨ id ∉ system.threads.flatMap Thread.claims := by
  have split := claims_perm result.threads
  have nothing : result.threads.flatMap Thread.pending = [] →
      result.threads.flatMap Thread.owned = [] →
      (result.threads.flatMap Thread.claims).Nodup ∧
        ∀ id ∈ result.threads.flatMap Thread.claims,
          id ∈ thread.claims ∨ id ∉ system.threads.flatMap Thread.claims := by
    intro pending owned
    rw [pending, owned, map_nil, append_nil, perm_nil] at split
    simp [split]
  cases deed with
  | quiet store known held pending owned =>
    have passed : (result.threads.flatMap Thread.pending ++
        (result.threads.flatMap Thread.owned).map Prod.fst).Sublist thread.claims :=
      pending.append (owned.map Prod.fst)
    have member := mem_of_getElem? lookup
    have distinct : thread.claims.Nodup :=
      (nodup_flatMap.mp ledger.claims).1 thread member
    refine ⟨split.nodup_iff.mpr (distinct.sublist passed), ?_⟩
    intro id inside
    exact .inl (passed.subset (split.mem_iff.mp inside))
  | generated id minted store known held pending owned =>
    rw [pending, owned] at split
    refine ⟨split.nodup_iff.mpr (by simp), ?_⟩
    intro other inside
    rw [split.mem_iff] at inside
    obtain rfl : other = id := by simpa using inside
    exact .inr fun claimed => fresh other minted (claims_known ledger claimed)
  | transition summary command next store known held pending owned
  | accepted id request place store known held pending owned
  | published id version store known held pending owned
  | archived command store known held pending owned =>
    exact nothing pending owned
  | started scan summary place store known held pending owned =>
    have effect := start_effect system.core.store input.clock
      (startCommand summary input.now) ledger.valid
    generalize (startEncoded system.core.store input.clock
      (startCommand summary input.now)).2 = answer at effect owned
    cases answer with
    | error error => exact nothing pending owned
    | ok running =>
      rw [pending, owned] at split
      refine ⟨split.nodup_iff.mpr (by simp), ?_⟩
      intro other inside
      rw [split.mem_iff] at inside
      obtain rfl : other = running.id := by simpa using inside
      cases effect with
      | started task present queued =>
        have same : task.summary.id = summary.id :=
          get_id system.core.store _ task ledger.valid present
        right
        change task.summary.id ∉ _
        rw [same]
        exact unclaimed_of_queued ledger present queued

omit [TaskStore σ] [LawfulStore σ] in
theorem mem_held_moved (member : summary ∈ (system.moved index result).held) :
    summary ∈ result.threads.flatMap Thread.held ∨ summary ∈ system.held :=
  mem_tokens_advance_or_mem Thread.held member

omit [TaskStore σ] [LawfulStore σ] in
theorem held_before (lookup : system.threads[index]? = some thread)
    (held : ∀ summary ∈ result.threads.flatMap Thread.held, summary ∈ thread.held)
    (inside : summary ∈ (system.moved index result).held) : summary ∈ system.held := by
  rcases mem_held_moved inside with renewed | old
  · have member := mem_of_getElem? lookup
    exact mem_tokens lookup (held summary renewed)
  · exact old

section

variable (ledger : Ledger system) (lookup : system.threads[index]? = some thread)
include ledger lookup

theorem mem_pending_moved (member : id ∈ (system.moved index result).pending) :
    id ∈ result.threads.flatMap Thread.pending ∨ (id ∈ system.pending ∧ id ∉ thread.claims) := by
  rcases mem_tokens_advance Thread.pending member with
    renewed | ⟨position, other, different, found, holds⟩
  · exact .inl renewed
  · refine .inr ⟨mem_tokens found holds, ?_⟩
    intro claimed
    apply different
    exact position_of_token Thread.claims ledger.claims found lookup
      (mem_append_left _ holds) claimed

theorem mem_owned_moved {entry : TaskId × Nat}
    (member : entry ∈ (system.moved index result).owned) :
    entry ∈ result.threads.flatMap Thread.owned ∨
      (entry ∈ system.owned ∧ entry.1 ∉ thread.claims) := by
  rcases mem_tokens_advance Thread.owned member with
    renewed | ⟨position, other, different, found, holds⟩
  · exact .inl renewed
  · refine .inr ⟨mem_tokens found holds, ?_⟩
    intro claimed
    apply different
    exact position_of_token Thread.claims ledger.claims found lookup
      (mem_append_right _ (mem_map_of_mem holds)) claimed

theorem pending_before (pending : result.threads.flatMap Thread.pending = [])
    (inside : id ∈ (system.moved index result).pending) :
    id ∈ system.pending ∧ id ∉ thread.claims := by
  rcases mem_pending_moved ledger lookup inside with renewed | old
  · rw [pending] at renewed
    cases renewed
  · exact old

theorem owned_before {entry : TaskId × Nat} (owned : result.threads.flatMap Thread.owned = [])
    (inside : entry ∈ (system.moved index result).owned) :
    entry ∈ system.owned ∧ entry.1 ∉ thread.claims := by
  rcases mem_owned_moved ledger lookup inside with renewed | old
  · rw [owned] at renewed
    cases renewed
  · exact old

/-- The books after a deed that leaves its thread without claims and changes
records only as far as every attempt owned elsewhere keeps running. -/
theorem settled_books (known : result.core.knownIds = system.core.knownIds)
    (held : ∀ summary ∈ result.threads.flatMap Thread.held, summary ∈ thread.held)
    (pending : result.threads.flatMap Thread.pending = [])
    (owned : result.threads.flatMap Thread.owned = [])
    (evolves : ∀ id, Evolves (system.recordOf id) ((system.moved index result).recordOf id))
    (keeps : ∀ id attempt, (id, attempt) ∈ system.owned → id ∉ thread.claims →
      RunningAt ((system.moved index result).recordOf id) attempt) :
    (system.moved index result).Balanced := by
  show Books _ result.core.knownIds _ _ _
  rw [known]
  apply ledger.books.evolve evolves
  · intro summary inside
    exact .inl (held_before lookup held inside)
  · intro id inside
    exact (pending_before ledger lookup pending inside).1
  · intro id attempt inside
    obtain ⟨old, elsewhere⟩ := owned_before ledger lookup owned inside
    exact ⟨old, keeps id attempt old elsewhere⟩

theorem quiet_books (store : result.core.store = system.core.store)
    (known : result.core.knownIds = system.core.knownIds)
    (held : ∀ summary ∈ result.threads.flatMap Thread.held,
      summary ∈ thread.held ∨ system.core.Shows summary)
    (pending : (result.threads.flatMap Thread.pending).Sublist thread.pending)
    (owned : (result.threads.flatMap Thread.owned).Sublist thread.owned) :
    (system.moved index result).Balanced := by
  have same : (system.moved index result).recordOf = system.recordOf := by
    funext id
    simp only [System.recordOf, Core.recordOf, System.moved, store]
  show Books _ result.core.knownIds _ _ _
  rw [known, same]
  apply ledger.books.evolve (fun id => follows_revision.of_eq rfl)
  · intro summary inside
    rcases mem_held_moved inside with renewed | old
    · rcases held summary renewed with passed | shown
      · exact .inl (mem_tokens lookup passed)
      · exact .inr shown
    · exact .inl old
  · intro id inside
    rcases mem_pending_moved ledger lookup inside with renewed | ⟨old, -⟩
    · exact mem_tokens lookup (pending.subset renewed)
    · exact old
  · intro id attempt inside
    have own : (id, attempt) ∈ system.owned := by
      rcases mem_owned_moved ledger lookup inside with renewed | ⟨old, -⟩
      · exact mem_tokens lookup (owned.subset renewed)
      · exact old
    exact ⟨own, ledger.books.running id attempt own⟩

theorem generated_books (id : TaskId) (fresh : id ∉ system.core.knownIds)
    (store : result.core.store = system.core.store)
    (known : result.core.knownIds = id :: system.core.knownIds)
    (held : result.threads.flatMap Thread.held = [])
    (pending : result.threads.flatMap Thread.pending = [id])
    (owned : result.threads.flatMap Thread.owned = []) :
    (system.moved index result).Balanced := by
  have same : (system.moved index result).recordOf = system.recordOf := by
    funext other
    simp only [System.recordOf, Core.recordOf, System.moved, store]
  show Books _ result.core.knownIds _ _ _
  rw [known, same]
  apply ledger.books.generate id fresh
  · intro summary inside
    exact held_before lookup (by simp [held]) inside
  · intro other inside
    rcases mem_pending_moved ledger lookup inside with renewed | ⟨old, -⟩
    · rw [pending] at renewed
      exact .inl (by simpa using renewed)
    · exact .inr old
  · intro entry inside
    exact (owned_before ledger lookup owned inside).1

/-- A transition that matches an attempt owned elsewhere leaves it running: its
author either annotates, or owns the record it rewrites, or recovers before
anything runs. -/
theorem transition_annotates
    (next : thread.nextTransition system.config input = some (summary, command))
    (own : (id, attempt) ∈ system.owned) (elsewhere : id ∉ thread.claims) (same : command.id = id)
    (present : system.recordOf id = some task) (matched : TransitionMatches task.summary command) :
    command.state = .running := by
  have member := mem_of_getElem? lookup
  obtain ⟨held, commandOn, cases_⟩ := next_transition_cases (ledger.wf thread member) next
  have heldHere : summary ∈ system.held := mem_tokens lookup held
  rw [commandOn.id] at same
  rcases cases_ with ⟨keeps, -⟩ | ⟨started, completion, rfl, -⟩ | ⟨rest, following, rfl⟩
  · have running : summary.state = .running := by
      by_contra notRunning
      have older := ledger.books.ahead summary heldHere attempt (by rwa [same]) notRunning task
        (by rwa [same])
      rw [← commandOn.version, ← matched.1] at older
      exact Nat.lt_irrefl _ older
    exact (keeps running).1
  · -- The attempt's own task claims the record it rewrites.
    have wf := ledger.wf _ member
    apply (elsewhere _).elim
    rw [← same, wf.2.1]
    simp [Thread.claims, Thread.pending, Thread.owned, RunPc.unwritten]
  · -- While recovery runs, no thread owns an attempt.
    have closed : system.core.ready = false := by
      by_contra opened
      exact ledger.staff.recovered (by simpa using opened) _ member
    obtain ⟨owner, inside, holds⟩ := mem_flatMap.mp own
    rw [dormant_owned (ledger.staff.asleep closed owner inside)] at holds
    cases holds

theorem transition_keeps {after : Records} {answer : Except StoreError TaskSummary}
    (next : thread.nextTransition system.config input = some (summary, command))
    (effect : TransitionEffect system.recordOf after command answer)
    (own : (id, attempt) ∈ system.owned) (elsewhere : id ∉ thread.claims) :
    RunningAt (after id) attempt := by
  apply (ledger.books.running id attempt own).transition effect
  intro same task present matched
  exact transition_annotates ledger lookup next own elsewhere same.symm present matched

theorem started_books (summary : TaskSummary)
    (store : result.core.store = (startEncoded system.core.store input.clock
      (startCommand summary input.now)).1)
    (known : result.core.knownIds = system.core.knownIds)
    (held : ∀ summary ∈ result.threads.flatMap Thread.held, summary ∈ thread.held)
    (pending : result.threads.flatMap Thread.pending = [])
    (owned : result.threads.flatMap Thread.owned =
      match (startEncoded system.core.store input.clock
          (startCommand summary input.now)).2 with
      | .ok running => [(running.id, running.attempt)]
      | .error _ => []) :
    (system.moved index result).Balanced := by
  have effect : StartEffect system.recordOf (system.moved index result).recordOf
      (startCommand summary input.now)
      (startEncoded system.core.store input.clock
        (startCommand summary input.now)).2 := by
    have effect := start_effect system.core.store input.clock
      (startCommand summary input.now) ledger.valid
    rw [← store] at effect
    exact effect
  have evolves := follows_revision.start effect
  generalize (startEncoded system.core.store input.clock
    (startCommand summary input.now)).2 = answer at effect owned
  cases effect with
  | rejected error unchanged =>
    apply settled_books ledger lookup known held pending owned evolves
    intro id attempt own _
    exact (ledger.books.running id attempt own).of_eq (unchanged id)
  | attemptExhausted task error present queued room stored others =>
    apply settled_books ledger lookup known held pending owned evolves
    intro id attempt own _
    have different : id ≠ summary.id := by
      rintro rfl
      obtain ⟨found, shown, running, -⟩ := ledger.books.running summary.id attempt own
      rw [show system.recordOf summary.id = some task from present] at shown
      cases shown
      rw [queued] at running
      cases running
    exact (ledger.books.running id attempt own).of_eq (others id different)
  | started task present queued version room stored others =>
    have same : task.summary.id = summary.id :=
      get_id system.core.store _ task ledger.valid present
    show Books _ result.core.knownIds _ _ _
    rw [known]
    apply ledger.books.start summary.id (task.summary.attempt + 1) present stored
      (Nat.lt_succ_self _) rfl rfl others
    · intro other inside
      exact held_before lookup held inside
    · intro id inside
      exact (pending_before ledger lookup pending inside).1
    · intro entry inside
      rcases mem_owned_moved ledger lookup inside with renewed | ⟨old, -⟩
      · left
        rw [owned] at renewed
        have single : entry = (task.summary.id, task.summary.attempt + 1) := by
          simpa [startedSummary] using renewed
        rw [single, same]
      · right
        refine ⟨old, ?_⟩
        intro equal
        obtain ⟨found, shown, running, -⟩ := ledger.books.running entry.1 entry.2 old
        rw [equal, show system.recordOf summary.id = some task from present] at shown
        cases shown
        rw [queued] at running
        cases running

theorem accepted_books (id : TaskId) (request : StoredTaskRequest) (place : thread.pending = [id])
    (store : result.core.store =
      (acceptEncoded system.core.store input.clock id request).1)
    (known : result.core.knownIds = system.core.knownIds)
    (held : result.threads.flatMap Thread.held = [])
    (pending : result.threads.flatMap Thread.pending = [])
    (owned : result.threads.flatMap Thread.owned = []) :
    (system.moved index result).Balanced := by
  have claimed : id ∈ thread.claims := mem_append_left _ (by simp [place])
  have waiting : id ∈ system.pending := mem_tokens lookup (by simp [place])
  have effect := accept_effect system.core.store input.clock id request ledger.valid
  rw [← store] at effect
  have keeps : ∀ other attempt, (other, attempt) ∈ system.owned →
      RunningAt ((system.moved index result).recordOf other) attempt := fun other attempt own =>
    (ledger.books.running other attempt own).accept effect
  show Books _ result.core.knownIds _ _ _
  rw [known]
  apply ledger.books.create id waiting
  · intro other different
    exact follows_revision.accept effect other (.inl different)
  · intro summary inside
    exact held_before lookup (by simp [held]) inside
  · intro other inside
    obtain ⟨old, elsewhere⟩ := pending_before ledger lookup pending inside
    refine ⟨old, ?_⟩
    rintro rfl
    exact elsewhere claimed
  · intro other attempt inside
    have old := (owned_before ledger lookup owned inside).1
    exact ⟨old, keeps other attempt old⟩

theorem deed_books (deed : system.Deed input thread result) (fresh : input.Fresh system.core) :
    (system.moved index result).Balanced := by
  cases deed with
  | quiet store known held pending owned =>
    exact quiet_books ledger lookup store known held pending owned
  | generated id minted store known held pending owned =>
    exact generated_books ledger lookup id (fresh id minted) store known held pending owned
  | transition summary command next store known held pending owned =>
    have effect := transition_effect system.core.store input.clock command
      ledger.valid
    rw [← store] at effect
    apply settled_books ledger lookup known held pending owned (follows_revision.transition effect)
    intro id attempt own elsewhere
    exact transition_keeps ledger lookup next effect own elsewhere
  | started scan summary place store known held pending owned =>
    exact started_books ledger lookup summary store known held pending owned
  | accepted id request place store known held pending owned =>
    exact accepted_books ledger lookup id request place store known held pending owned
  | published id version store known held pending owned =>
    have same : ∀ other, (system.moved index result).recordOf other = system.recordOf other := by
      intro other
      have unchanged := mark_records system.core.store id version other
      rw [← store] at unchanged
      exact unchanged
    apply settled_books ledger lookup known (by simp [held]) pending owned
    · exact fun other => follows_revision.of_eq (same other)
    · intro other attempt own _
      exact (ledger.books.running other attempt own).of_eq (same other)
  | archived command store known held pending owned =>
    have same : ∀ other, (system.moved index result).recordOf other = system.recordOf other := by
      intro other
      have unchanged := quarantine_records system.core.store input.clock command
        other
      rw [← store] at unchanged
      exact unchanged
    apply settled_books ledger lookup known (by simp [held]) pending owned
    · exact fun other => follows_revision.of_eq (same other)
    · intro other attempt own _
      exact (ledger.books.running other attempt own).of_eq (same other)

end

section

variable (valid : Valid system.core.store) (deed : system.Deed input thread result)
include valid deed

theorem deed_valid : Valid result.core.store := by
  cases deed with
  | quiet store | generated _ _ store =>
    rw [store]
    exact valid
  | transition _ _ _ store =>
    rw [store]
    exact transition_valid _ _ _ valid
  | started _ _ _ store =>
    rw [store]
    exact start_valid _ _ _ valid
  | accepted _ _ _ store =>
    rw [store]
    exact accept_valid _ _ _ _ valid
  | published _ _ store =>
    rw [store]
    exact mark_valid _ _ _ valid
  | archived _ store =>
    rw [store]
    exact quarantine_valid _ _ _ valid

inductive DeedEffect (config : Config) (core : Core σ) (input : Input) (thread : Thread)
    (after : Records) : Prop
  | same (unchanged : ∀ id, after id = core.recordOf id)
  | transition (summary : TaskSummary) (command : TransitionCommand)
      (next : thread.nextTransition config input = some (summary, command))
      (effect : TransitionEffect core.recordOf after command
        (transitionEncoded core.store input.clock command).2)
  | started (scan : Scan) (summary : TaskSummary) (answer : Except StoreError TaskSummary)
      (place : thread = .scheduler (.start scan summary))
      (effect : StartEffect core.recordOf after (SchedulerPc.startCommand summary input.now) answer)
  | accepted (id : TaskId) (request : StoredTaskRequest) (answer : Except StoreError AcceptOutcome)
      (place : thread.pending = [id])
      (effect : AcceptEffect core.recordOf after id request input.clock.now answer)

theorem deed_effect :
    DeedEffect system.config system.core input thread (system.moved index result).recordOf := by
  show DeedEffect system.config system.core input thread (getEncodedTask result.core.store)
  cases deed with
  | quiet store | generated _ _ store =>
    rw [store]
    exact .same fun _ => rfl
  | transition summary command next store =>
    rw [store]
    exact .transition summary command next (transition_effect _ _ _ valid)
  | started scan summary place store =>
    rw [store]
    exact .started scan summary _ place (start_effect _ _ _ valid)
  | accepted other request place store =>
    rw [store]
    exact .accepted other request _ place (accept_effect _ _ _ _ valid)
  | published other version store =>
    rw [store]
    exact .same (mark_records _ other version)
  | archived command store =>
    rw [store]
    exact .same (quarantine_records _ _ command)

end

theorem deed_evolves_by {rel : TaskSummary → TaskSummary → Prop} (revision : Revision rel)
    (ledger : Ledger system) (lookup : system.threads[index]? = some thread)
    (deed : system.Deed input thread result) (unborn : id ∉ system.pending) :
    EvolvesBy rel (system.recordOf id) ((system.moved index result).recordOf id) := by
  cases @deed_effect _ _ _ system index input thread result ledger.valid deed with
  | same unchanged => exact revision.of_eq (unchanged id)
  | transition summary command next effect => exact revision.transition effect id
  | started scan summary answer place effect => exact revision.start effect id
  | accepted other request answer place effect =>
    apply revision.accept effect id
    left
    rintro rfl
    apply unborn
    exact mem_tokens lookup (by simp [place])

section

variable (ledger : Ledger system) (lookup : system.threads[index]? = some thread)
  (deed : system.Deed input thread result)
include ledger lookup deed

/-- A fact survives a deed when it holds of a record that the deed creates, survives a start,
and holds of what the thread's transition leaves. -/
theorem holds_moved_by (holds : Holds fact (system.recordOf id))
    (born : ∀ request now, id ∈ system.pending → fact (acceptedSummary id request now))
    (starts : ∀ (scan : Scan) (summary : TaskSummary) (task : StoredTask),
      thread = .scheduler (.start scan summary) → summary.id = id →
      system.recordOf id = some task → task.summary.state = .queued →
      task.summary.stateVersion + 1 < u64Bound →
      Starts fact task.summary (startCommand summary input.now))
    (written : ∀ (summary : TaskSummary) (command : TransitionCommand) (task later : StoredTask),
      thread.nextTransition system.config input = some (summary, command) →
      system.recordOf id = some task → command.id = id →
      TransitionMatches task.summary command →
      (system.moved index result).recordOf id = some later →
      TransitionedTo task.summary later.summary command → fact later.summary) :
    Holds fact ((system.moved index result).recordOf id) := by
  cases @deed_effect _ _ _ system index input thread result ledger.valid deed with
  | same unchanged => exact holds.of_eq (unchanged id)
  | transition summary command next effect =>
    apply holds.transition_written effect
    intro same task later present matched
    exact written summary command task later next present same matched
  | started scan summary answer place effect =>
    apply holds.start effect
    intro same task present queued room
    exact starts scan summary task place same present queued room
  | accepted other request answer place effect =>
    by_cases same : id = other
    · subst same
      have pending : id ∈ system.pending :=
        mem_tokens lookup (by simp [place])
      exact holds.accept_born (born request input.clock.now pending) effect
    · exact holds.accept same effect

theorem holds_moved (unborn : id ∉ system.pending) (holds : Holds fact (system.recordOf id))
    (starts : ∀ (summary : TaskSummary) (command : StartCommand), fact summary →
      summary.state = .queued → summary.stateVersion + 1 < u64Bound → Starts fact summary command)
    (survives : ∀ (summary : TaskSummary) (command : TransitionCommand) (task : StoredTask),
      thread.nextTransition system.config input = some (summary, command) →
      system.recordOf id = some task → command.id = id →
      TransitionMatches task.summary command → Survives fact task.summary command) :
    Holds fact ((system.moved index result).recordOf id) := by
  apply holds_moved_by ledger lookup deed holds
  · exact fun _ _ pending => (unborn pending).elim
  · intro _ _ task _ _ present queued room
    exact starts task.summary _ (holds task present) queued room
  · intro summary command task later next present same matched _ written
    exact (survives summary command task next present same matched).transitioned written

end

section

variable (ledger : Ledger system) (deed : system.Deed input thread result)
  (live : OfLive fact) (started : ∀ summary, fact summary → summary.state ≠ .queued)
  (present : Present fact (system.recordOf id))
include ledger deed live started present

theorem present_written (written : ∀ (summary : TaskSummary) (command : TransitionCommand),
      thread.nextTransition system.config input = some (summary, command) →
      TransitionEffect system.recordOf (system.moved index result).recordOf command
        (transitionEncoded system.core.store input.clock command).2 →
      Present fact ((system.moved index result).recordOf id)) :
    Present fact ((system.moved index result).recordOf id) := by
  cases @deed_effect _ _ _ system index input thread result ledger.valid deed with
  | same unchanged => exact present.of_eq (unchanged id)
  | transition summary command next effect => exact written summary command next effect
  | started scan summary answer place effect => exact present.start effect started
  | accepted other request answer place effect => exact present.accept live effect

end

theorem ledger_moved (ledger : Ledger system) (lookup : system.threads[index]? = some thread)
    (footprint : Footprint system.config system.core input thread result)
    (conduct : Conduct system.core thread result) (fresh : input.Fresh system.core) :
    Ledger (system.moved index result) := by
  obtain ⟨renewed, source⟩ := deed_claims ledger lookup footprint.deed fresh
  refine ⟨deed_valid ledger.valid footprint.deed, ?_, staff_moved ledger.staff lookup conduct, ?_,
    deed_books ledger lookup footprint.deed fresh⟩
  · intro other present
    rcases mem_advance_or_mem present with new | old
    · exact footprint.wf other new
    · exact ledger.wf other old
  · exact nodup_tokens_advance Thread.claims lookup ledger.claims renewed source

end Deeds

section Run

variable [LawfulStore σ] {system next : System σ}

theorem ledger_store (ledger : Ledger system) {store : σ} (valid : Valid store)
    (evolves : ∀ id, Evolves (system.recordOf id) (getEncodedTask store id))
    (keeps : ∀ id attempt, RunningAt (system.recordOf id) attempt →
      RunningAt (getEncodedTask store id) attempt) :
    Ledger (system.withCore { system.core with store := store }) := by
  refine ⟨valid, ledger.wf, ⟨ledger.staff.roles, ledger.staff.asleep, ledger.staff.recovered⟩,
    ledger.claims, ?_⟩
  apply ledger.books.evolve evolves
  · exact fun summary inside => .inl inside
  · exact fun id inside => inside
  · exact fun id attempt inside =>
      ⟨inside, keeps id attempt (ledger.books.running id attempt inside)⟩

theorem ledger_call (ledger : Ledger system) (call : ClientCall)
    (ready : system.core.ready = true) :
    Ledger { system with threads := system.threads ++ [call.thread] } := by
  have bare : call.thread.Bare ∧ call.thread.claims = [] := by
    cases call <;> exact ⟨⟨rfl, rfl, rfl, trivial⟩, rfl⟩
  obtain ⟨⟨held, pending, owned, wf⟩, claims⟩ := bare
  refine ⟨ledger.valid, ?_, staff_call ledger.staff call ready, ?_, ?_⟩
  · intro thread member
    rcases mem_append.mp member with old | new
    · exact ledger.wf thread old
    · rw [mem_singleton.mp new]
      exact wf
  · simpa [flatMap_append, claims] using ledger.claims
  · have same : ∀ {α : Type} (tokens : Thread → List α), tokens call.thread = [] →
        (system.threads ++ [call.thread]).flatMap tokens = system.threads.flatMap tokens := by
      intro α tokens none_
      simp [flatMap_append, none_]
    change Books system.recordOf system.core.knownIds
      ((system.threads ++ [call.thread]).flatMap Thread.held)
      ((system.threads ++ [call.thread]).flatMap Thread.pending)
      ((system.threads ++ [call.thread]).flatMap Thread.owned)
    rw [same Thread.held held, same Thread.pending pending, same Thread.owned owned]
    exact ledger.books

theorem ledger_restart (ledger : Ledger system) (config : Config) (trace : List Event) :
    Ledger
      { config := config
        core := Core.boot system.core.store system.core.knownIds trace
        threads := bootThreads ++ system.threads.filter Thread.isDetached } := by
  have kept : (system.threads.filter Thread.isDetached).Sublist system.threads :=
    filter_sublist
  have noOwned : (system.threads.filter Thread.isDetached).flatMap Thread.owned = [] := by
    apply flatMap_eq_nil_iff.mpr
    intro thread member
    obtain ⟨write, rfl⟩ := detached_of_kept member
    rfl
  refine ⟨ledger.valid, ?_, staff_restart system _ rfl rfl, ?_, ?_⟩
  · intro thread member
    rcases mem_append.mp member with booted | old
    · simp only [bootThreads, mem_cons, not_mem_nil, or_false] at booted
      rcases booted with rfl | rfl | rfl | rfl
      · exact fun summary inside => by cases inside
      all_goals trivial
    · exact ledger.wf thread (kept.subset old)
  · rw [flatMap_append]
    exact ledger.claims.sublist (kept.flatMap Thread.claims)
  · have same : ∀ {α : Type} (tokens : Thread → List α), (bootThreads.flatMap tokens = []) →
        ∀ token ∈ (bootThreads ++ system.threads.filter Thread.isDetached).flatMap tokens,
          token ∈ system.threads.flatMap tokens := by
      intro α tokens none_ token member
      rw [flatMap_append, none_, nil_append] at member
      exact (kept.flatMap tokens).subset member
    apply ledger.books.evolve (fun id => follows_revision.of_eq rfl)
    · exact fun summary inside => .inl (same Thread.held rfl summary inside)
    · exact fun id inside => same Thread.pending rfl id inside
    · intro id attempt inside
      have none_ : (bootThreads ++ system.threads.filter Thread.isDetached).flatMap Thread.owned =
          [] := by
        rw [flatMap_append, noOwned]
        rfl
      change (id, attempt) ∈ (bootThreads ++ _).flatMap Thread.owned at inside
      rw [none_] at inside
      cases inside

theorem ledger_step {action : Action} (fresh : FreshIds system action) (ledger : Ledger system)
    (taken : system.step action = some next) : Ledger next := by
  have move := step_move taken
  cases move with
  | stepped lookup stepped =>
    exact ledger_moved ledger lookup (ledger.footprint lookup stepped)
      (thread_conduct stepped) fresh
  | dropped lookup left =>
    apply ledger_moved ledger lookup (ledger.left_footprint lookup left) (drop_conduct left)
    intro id minted
    cases minted
  | call call ready => exact ledger_call ledger call ready
  | flags keeps =>
    exact ⟨ledger.valid, ledger.wf, staff_core ledger.staff rfl, ledger.claims, ledger.books⟩
  | progress command =>
    have effect := progress_effect system.core.store command ledger.valid
    exact ledger_store ledger (progress_valid _ _ ledger.valid)
      (follows_revision.progress effect) (fun id attempt running => running.progress effect)
  | prune cutoff maxRows =>
    have kept := prune_effect system.core.store cutoff maxRows ledger.valid
    exact ledger_store ledger (prune_valid _ _ _ ledger.valid)
      (fun id => follows_revision.kept (kept id))
      (fun id attempt running => running.kept (kept id))
  | restart config => exact ledger_restart ledger config _

theorem ledger_run {actions : List Action} (ledger : Ledger system)
    (fresh : Guarded System.step FreshIds system actions)
    (reached : runActions System.step system actions = some next) : Ledger next :=
  run_invariant ledger_step ledger fresh reached

theorem ledger_boot {config : Config} {store : σ} {knownIds : List TaskId} (valid : Valid store)
    (known : ∀ id, getEncodedTask store id ≠ none → id ∈ knownIds) :
    Ledger (System.boot config store knownIds) := by
  refine ⟨valid, ?_, staff_boot, nodup_nil, ?_⟩
  · intro thread member
    simp only [System.boot, bootThreads, mem_cons, not_mem_nil, or_false] at member
    rcases member with rfl | rfl | rfl | rfl
    · exact fun summary inside => by cases inside
    all_goals trivial
  · exact
      { knownRecords := known
        knownHeld := forall_mem_nil _
        knownPending := forall_mem_nil _
        absent := forall_mem_nil _
        unread := forall_mem_nil _
        running := fun _ _ inside => by cases inside
        follows := forall_mem_nil _
        ahead := fun _ inside => by cases inside }

end Run

end TaskService.Service
