import TaskService.Service.FinishedAttempt
import TaskService.Service.FlightSteps

/-!
# One hook at a time

The entry of an attempt keeps a second flight from opening while the first is
open.  `finish` removes the entry of a flight that is still open, and then a
second one opens; but by then the attempt is over, and the second flight's first
read of the record ends it before it calls the hook.
-/

namespace TaskService.Service

open Library Model Store List
open TaskStore LawfulStore

def Thread.invoking : Thread → List (TaskId × Nat)
  | .hook { id, attempt, kindId := _, flight := _, pc := .invoke }
  | .hook { id, attempt, kindId := _, flight := _, pc := .awaitHook } => [(id, attempt)]
  | _ => []

def Thread.clears : Thread → List (TaskId × Nat)
  | .run { started, pc := .clearEntry _ } => [(started.id, started.attempt)]
  | _ => []

variable {thread : Thread}

theorem engaged_of_invoking {key : TaskId × Nat} (invoking : key ∈ thread.invoking) :
    key ∈ thread.engaged := by
  unfold Thread.invoking at invoking
  split at invoking
  · exact invoking
  · exact invoking
  · cases invoking

theorem bystander_invoking (bystander : thread.bystander = true) :
    thread.invoking = [] := by
  cases thread with
  | cancel call | hook task => cases bystander
  | _ => rfl

def RequestedAt (record : Option StoredTask) (attempt : Nat) : Prop :=
  Present (fun summary => summary.state = .running ∧ summary.attempt = attempt ∧
    summary.cancelRequested = true) record

instance (record : Option StoredTask) (attempt : Nat) : Decidable (RequestedAt record attempt) :=
  inferInstanceAs (Decidable (Present _ record))

variable {σ : Type} [TaskStore σ] [LawfulStore σ]

section Requests

variable {config : Config} {core : Core σ} {input : Input} {thread : Thread} {result : Step σ}

variable {key : TaskId × Nat} {task : HookTask}

omit [LawfulStore σ] in
theorem hook_load_requested (disappeared : String)
    (member : key ∈ (task.reading core input disappeared fun summary =>
      if !summary.cancelRequested || summary.cancelError.isSome then .persist summary
      else .invoke).threads.flatMap Thread.invoking) :
    RequestedAt (core.recordOf key.1) key.2 := by
  unfold HookTask.reading at member
  simp only at member
  split at member
  · cases member
  · cases member
  · rename_i stored called
    split at member
    · rename_i still
      split at member
      · cases member
      · rename_i asked
        obtain ⟨counted, state⟩ := (still_running_iff task stored.summary).mp still
        obtain rfl : key = (task.id, task.attempt) := by
          simpa [Step.threads, Thread.invoking] using member
        refine ⟨stored, call_get_record called, state, counted, ?_⟩
        simp only [Bool.or_eq_true, Bool.not_eq_true', not_or, Bool.not_eq_false] at asked
        exact asked.1
    · cases member

theorem hook_persist_requested (valid : Valid core.store) {summary : TaskSummary}
    (member : key ∈ (task.writing core input (task.annotateCommand summary none) .invoke
      .load).threads.flatMap Thread.invoking) :
    RequestedAt
      ((task.writing core input (task.annotateCommand summary none) .invoke
        .load).core.recordOf key.1) key.2 := by
  unfold HookTask.writing at member ⊢
  split at member
  · rename_i after written called
    obtain rfl : key = (task.id, task.attempt) := by
      simpa [Step.threads, Thread.invoking] using member
    obtain ⟨-, ⟨-, message, -, failed⟩ | ⟨store, -, answered⟩⟩ := call_write_cases called
    · cases failed
    · have effect := transition_effect core.store input.clock
        (task.annotateCommand summary none) valid
      rw [← answered, ← store] at effect
      cases effect with
      | applied stored held matched room kept others =>
        rcases kept with kept | ⟨terminal, -⟩
        · exact ⟨_, kept, rfl, matched.2.1, rfl⟩
        · cases terminal
  · split at member
    · cases member
    · cases member

theorem invoking_requested (valid : Valid core.store)
    (stepped : thread.step config core input = some result)
    (member : key ∈ result.threads.flatMap Thread.invoking) :
    key ∈ thread.invoking ∨ RequestedAt (core.recordOf key.1) key.2 ∨
      RequestedAt (result.core.recordOf key.1) key.2 := by
  cases thread with
  | hook task =>
    have silent : ∀ (disappeared : String) (running : TaskSummary → HookPc),
        (∀ summary, Thread.invoking (.hook { task with pc := running summary }) = []) →
        (task.reading core input disappeared running).threads.flatMap Thread.invoking = [] := by
      intro disappeared running quiet
      unfold HookTask.reading
      simp only
      split
      · rfl
      · rfl
      · split
        · simp [Step.threads, quiet]
        · rfl
    have still : ∀ (command : TransitionCommand) (written again : HookPc),
        Thread.invoking (.hook { task with pc := written }) = [] →
        Thread.invoking (.hook { task with pc := again }) = [] →
        (task.writing core input command written again).threads.flatMap Thread.invoking = [] := by
      intro command written again quiet quietAgain
      unfold HookTask.writing
      split
      · simp [Step.threads, quiet]
      · split
        · simp [Step.threads, quietAgain]
        · rfl
    obtain ⟨id, attempt, kindId, flight, pc⟩ := task
    cases hook_step_cases _ stepped with
    | loads => exact .inr (.inl (hook_load_requested _ member))
    | persists summary => exact .inr (.inr (hook_persist_requested valid member))
    | invokes => exact .inl member
    | reloads =>
      rw [silent _ _ (fun summary => by dsimp only; split <;> rfl)] at member
      cases member
    | failureLoads message =>
      rw [silent _ _ (fun _ => rfl)] at member
      cases member
    | clears | failureRecords =>
      rw [still _ _ _ rfl rfl] at member
      cases member
    | _ => cases member
  | cancel call =>
    obtain ⟨id, pc⟩ := call
    cases cancel_step_cases _ stepped with
    | _ =>
      cases member
  | _ =>
    have quiet : result.threads.flatMap Thread.invoking = [] :=
      flatMap_eq_nil_iff.mpr fun next among =>
        bystander_invoking (all_eq_true.mp (bystanders_step rfl stepped) next among)
    rw [quiet] at member
    cases member

end Requests

/-- Success of an attempt's hook is on record: callers are told so by the entry, by a flight
that is about to publish it, or by a flight that has. -/
def Reported (system : System σ) (key : TaskId × Nat) : Prop :=
  system.core.externalCancellations.lookup key = some .succeeded ∨
    key ∈ system.threads.flatMap Thread.announces ∨
    ∃ (flight : Nat) (cell : Flight), system.core.flights[flight]? = some cell ∧
      cell.owner = key ∧ cell.result = some .success

/-- No hook of the attempt is under way, and none will be: the entry or the attempt's end keeps
it from being called. -/
def Silenced (system : System σ) (key : TaskId × Nat) : Prop :=
  key ∉ system.threads.flatMap Thread.engaged ∧
    (system.core.externalCancellations.lookup key = some .succeeded ∨ Outlived system key)

/-- An open flight is the one of its attempt's entry unless the attempt is over, and at most one
flight of an attempt has its hook under way. -/
structure Solo (system : System σ) : Prop where
  ledger : Ledger system
  book : FlightBook system
  distinct : (system.threads.flatMap Thread.unpublished).Nodup
  pending : ∀ flight ∈ system.threads.flatMap Thread.unpublished,
    ∃ cell, system.core.flights[flight]? = some cell ∧ cell.result = none
  entered : ∀ token ∈ system.threads.flatMap Thread.carries,
    system.core.externalCancellations.lookup token.2 = some (.inFlight token.1) ∨
      Outlived system token.2
  engaged : (system.threads.flatMap Thread.engaged).Nodup
  cleared : ∀ key ∈ system.threads.flatMap Thread.clears, Outlived system key
  reported : ∀ key, Reported system key → Silenced system key

section Steps

variable {system next : System σ} {index : Nat} {input : Input} {thread : Thread}
  {result : Step σ} {key : TaskId × Nat}

theorem Solo.same_position (solo : Solo system) {first second : Nat} {left right : Thread}
    {leftFlight rightFlight : Nat} (leftAt : system.threads[first]? = some left)
    (rightAt : system.threads[second]? = some right) (leftOpen : (leftFlight, key) ∈ left.carries)
    (rightOpen : (rightFlight, key) ∈ right.carries) (live : ¬ Outlived system key) :
    first = second := by
  have entry : ∀ {position : Nat} {other : Thread} {flight : Nat},
      system.threads[position]? = some other → (flight, key) ∈ other.carries →
      system.core.externalCancellations.lookup key = some (.inFlight flight) := by
    intro position other flight found carried
    rcases solo.entered (flight, key) (mem_tokens found carried) with entered | past
    · exact entered
    · exact (live past).elim
  cases (entry leftAt leftOpen).symm.trans (entry rightAt rightOpen)
  exact position_of_token Thread.unpublished solo.distinct leftAt rightAt
    (unpublished_of_carries leftOpen) (unpublished_of_carries rightOpen)

theorem Solo.settles_own (solo : Solo system) (lookup : system.threads[index]? = some thread)
    (settles : key ∈ thread.settles) :
    Outlived system key ∨ ∃ flight, (flight, key) ∈ thread.carries ∧
      system.core.externalCancellations.lookup key = some (.inFlight flight) := by
  unfold Thread.settles at settles
  split at settles
  · rename_i id attempt kindId flight answer
    obtain rfl := mem_singleton.mp settles
    have carried : (flight, (id, attempt)) ∈
        (Thread.hook ⟨id, attempt, kindId, flight, .conclude answer⟩).carries :=
      mem_singleton_self _
    rcases solo.entered _ (mem_tokens lookup carried) with entered | past
    · exact .inr ⟨flight, carried, entered⟩
    · exact .inl past
  · left
    exact solo.cleared key (mem_tokens lookup settles)
  · cases settles

variable {number flight : Nat} {task : HookTask} {action : Action}

section

variable (solo : Solo system)
include solo

theorem Solo.entered_moved (lookup : system.threads[index]? = some thread)
    (flight : FlightStep system.core thread result)
    (past : ∀ entry, Outlived system entry → Outlived (system.moved index result) entry)
    (before : system.core.externalCancellations.lookup key = some (.inFlight number) ∨
      Outlived system key) (other : key ∈ thread.settles → (number, key) ∉ thread.carries) :
    result.core.externalCancellations.lookup key = some (.inFlight number) ∨
      Outlived (system.moved index result) key := by
  rcases before with entered | ended
  · rcases flight.entries key with same | settles | ⟨absent, -⟩
    · left
      rw [same]
      exact entered
    · rcases solo.settles_own lookup settles with ended | ⟨own, carried, entry⟩
      · exact .inr (past key ended)
      · cases entered.symm.trans entry
        exact (other settles carried).elim
    · rw [entered] at absent
      cases absent
  · exact .inr (past key ended)

/-- A flight that passes its first read is the only one with its hook under way. -/
theorem Solo.unengaged (lookup : system.threads[index]? = some (.hook task))
    (loading : task.pc = .load) (running : RunningAt (system.recordOf task.id) task.attempt) :
    (task.id, task.attempt) ∉ system.threads.flatMap Thread.engaged := by
  intro member
  obtain ⟨other, among, engaged⟩ := mem_flatMap.mp member
  obtain ⟨position, found⟩ := mem_iff_getElem?.mp among
  obtain ⟨rival, rfl, same, carried⟩ := carries_of_engaged engaged
  have own : (task.flight, (task.id, task.attempt)) ∈ (Thread.hook task).carries := by
    simp [Thread.carries, HookPc.unsettled, loading]
  have here := solo.same_position found lookup carried own fun past => past.not_running running
  rw [here, lookup] at found
  cases found
  simp [Thread.engaged, HookPc.engaged, loading] at engaged

theorem Solo.pending_moved (lookup : system.threads[index]? = some thread)
    (flight : FlightStep system.core thread result)
    (member : number ∈ (system.moved index result).threads.flatMap Thread.unpublished) :
    ∃ cell, result.core.flights[number]? = some cell ∧ cell.result = none := by
  have stays : number ∈ system.threads.flatMap Thread.unpublished →
      (∀ task answer, thread = .hook task → task.pc = .publish answer → task.flight = number →
        result.threads.flatMap Thread.unpublished ≠ []) →
      ∃ cell, result.core.flights[number]? = some cell ∧ cell.result = none := by
    intro among published
    obtain ⟨cell, found, empty⟩ := solo.pending number among
    rcases flight.flights number cell found with kept | ⟨task, answer, at_, publishing, own, rest⟩
    · exact ⟨cell, kept, empty⟩
    · exact (published task answer at_ publishing own rest).elim
  rcases mem_tokens_advance Thread.unpublished member with
    renewed | ⟨position, other, elsewhere, found, flies⟩
  · rcases flight.unpublished with passed | ⟨opened, owner, flights⟩
    · apply stays (mem_flatMap.mpr ⟨thread, mem_of_getElem? lookup, passed.subset renewed⟩)
      intro task answer at_ publishing own rest
      rw [show (result.thread :: result.spawned).flatMap Thread.unpublished = [] from rest]
        at renewed
      cases renewed
    · rw [show (result.thread :: result.spawned).flatMap Thread.unpublished = _ from opened]
        at renewed
      obtain rfl := mem_singleton.mp renewed
      exact ⟨_, by rw [flights]; exact List.getElem?_concat_length, rfl⟩
  · apply stays (mem_tokens found flies)
    rintro task answer rfl publishing own
    have here : number ∈ (Thread.hook task).unpublished := by
      simp [Thread.unpublished, HookPc.unpublished, publishing, own]
    exact (elsewhere (position_of_token Thread.unpublished solo.distinct found lookup flies
      here)).elim

theorem Solo.silenced_moved (lookup : system.threads[index]? = some thread)
    (flight : FlightStep system.core thread result)
    (past : ∀ entry, Outlived system entry → Outlived (system.moved index result) entry)
    (silenced : Silenced system key) : Silenced (system.moved index result) key := by
  obtain ⟨unengaged, told⟩ := silenced
  refine ⟨?_, ?_⟩
  · intro among
    rcases mem_tokens_advance_or_mem Thread.engaged among with renewed | old
    · rcases flight.engaged with passed | ⟨task, rfl, loading, running, only⟩
      · exact unengaged (mem_tokens lookup (passed.subset renewed))
      · -- A flight that still finds the attempt running is entered, so nothing was reported.
        rw [show (result.thread :: result.spawned).flatMap Thread.engaged = _ from only] at renewed
        obtain rfl := mem_singleton.mp renewed
        have carried : (task.flight, (task.id, task.attempt)) ∈ (Thread.hook task).carries := by
          simp [Thread.carries, HookPc.unsettled, loading]
        rcases told with succeeded | ended
        · rcases solo.entered _ (mem_tokens lookup carried) with entered | ended
          · cases succeeded.symm.trans entered
          · exact ended.not_running running
        · exact ended.not_running running
    · exact unengaged old
  · rcases told with succeeded | ended
    · rcases flight.entries key with same | settles | ⟨absent, -⟩
      · exact .inl (same.trans succeeded)
      · rcases solo.settles_own lookup settles with ended | ⟨own, -, entered⟩
        · exact .inr (past key ended)
        · cases succeeded.symm.trans entered
      · rw [succeeded] at absent
        cases absent
    · exact .inr (past key ended)

theorem Solo.reports (lookup : system.threads[index]? = some (.hook task))
    (concluding : task.pc = .conclude .success)
    (flight : FlightStep system.core (.hook task) result) :
    (task.id, task.attempt) ∉ (system.moved index result).threads.flatMap Thread.engaged ∧
      result.core.externalCancellations.lookup (task.id, task.attempt) = some .succeeded := by
  obtain ⟨rest, succeeded⟩ := flight.reports task rfl concluding
  refine ⟨?_, succeeded⟩
  intro among
  rcases mem_tokens_advance Thread.engaged among with
    renewed | ⟨position, other, elsewhere, found, engaged⟩
  · rw [show (result.thread :: result.spawned).flatMap Thread.engaged = [] from rest] at renewed
    cases renewed
  · have own : (task.id, task.attempt) ∈ (Thread.hook task).engaged := by
      simp [Thread.engaged, HookPc.engaged, concluding]
    exact elsewhere (position_of_token Thread.engaged solo.engaged found lookup engaged own)

theorem Solo.reported_source (lookup : system.threads[index]? = some thread)
    (flight : FlightStep system.core thread result) (cells : Cells system.core thread result)
    (reported : Reported (system.moved index result) key) :
    Reported system key ∨ ∃ task, thread = .hook task ∧ task.pc = .conclude .success ∧
      key = (task.id, task.attempt) := by
  rcases reported with succeeded | announces | ⟨number, cell, found, named, landed⟩
  · rcases cells.succeeded key succeeded with old | reports
    · exact .inl (.inl old)
    · exact .inr reports
  · rcases mem_tokens_advance Thread.announces announces with
      renewed | ⟨position, other, elsewhere, found, announced⟩
    · exact .inr (flight.announces key renewed)
    · exact .inl (.inr (.inl (mem_tokens found announced)))
  · left
    right
    rcases cells.results number cell .success found landed with
      old | ⟨task, rfl, publishing, rfl⟩
    · exact .inr ⟨number, cell, old, named, landed⟩
    · left
      obtain ⟨owned, present, owner⟩ := cells.owned _ _ (solo.book.watched
        (task.flight, (task.id, task.attempt))
        (mem_tokens lookup (by simp [Thread.watches])))
      cases present.symm.trans found
      rw [← named, owner]
      refine mem_tokens lookup ?_
      obtain ⟨id, attempt, kindId, flight, pc⟩ := task
      cases publishing
      exact mem_singleton_self _

theorem solo_moved (lookup : system.threads[index]? = some thread)
    (ledger : Ledger (system.moved index result)) (flight : FlightStep system.core thread result)
    (cells : Cells system.core thread result)
    (past : ∀ entry, Outlived system entry → Outlived (system.moved index result) entry)
    (cleared : ∀ key ∈ result.threads.flatMap Thread.clears,
      Outlived (system.moved index result) key) :
    Solo (system.moved index result) := by
  have member := mem_of_getElem? lookup
  refine
    { ledger := ledger
      book := flight_book_moved solo.book lookup cells
      distinct := ?_
      pending := fun number among => solo.pending_moved lookup flight among
      entered := ?_
      engaged := ?_
      cleared := ?_
      reported := ?_ }
  · apply nodup_tokens_advance Thread.unpublished lookup solo.distinct
    · rcases flight.unpublished with passed | ⟨opened, -⟩
      · exact ((nodup_flatMap.mp solo.distinct).1 thread member).sublist passed
      · rw [show (result.thread :: result.spawned).flatMap Thread.unpublished = _ from opened]
        exact nodup_singleton _
    · intro number minted
      rcases flight.unpublished with passed | ⟨opened, -⟩
      · exact .inl (passed.subset minted)
      · right
        rw [show (result.thread :: result.spawned).flatMap Thread.unpublished = _ from opened]
          at minted
        obtain rfl := mem_singleton.mp minted
        intro among
        obtain ⟨cell, found, -⟩ := solo.pending _ among
        exact Nat.lt_irrefl _ (List.getElem?_eq_some_iff.mp found).1
  · rintro ⟨number, key⟩ among
    rcases mem_tokens_advance Thread.carries among with
      renewed | ⟨position, other, elsewhere, found, carried⟩
    · rcases flight.carries (number, key) renewed with passed | entered
      · apply solo.entered_moved lookup flight past (solo.entered _ (mem_tokens lookup passed))
        intro settles
        rw [show (result.thread :: result.spawned).flatMap Thread.carries = [] from
          flight.closes (ne_nil_of_mem settles)] at renewed
        cases renewed
      · exact .inl entered
    · apply solo.entered_moved lookup flight past (solo.entered _ (mem_tokens found carried))
      intro settles own
      exact elsewhere (position_of_token Thread.unpublished solo.distinct found lookup
        (unpublished_of_carries carried) (unpublished_of_carries own))
  · apply nodup_tokens_advance Thread.engaged lookup solo.engaged
    · rcases flight.engaged with passed | ⟨task, -, -, -, only⟩
      · exact ((nodup_flatMap.mp solo.engaged).1 thread member).sublist passed
      · rw [show (result.thread :: result.spawned).flatMap Thread.engaged = _ from only]
        exact nodup_singleton _
    · intro key minted
      rcases flight.engaged with passed | ⟨task, rfl, loading, running, only⟩
      · exact .inl (passed.subset minted)
      · right
        rw [show (result.thread :: result.spawned).flatMap Thread.engaged = _ from only] at minted
        obtain rfl := mem_singleton.mp minted
        exact solo.unengaged lookup loading running
  · intro key among
    rcases mem_tokens_advance Thread.clears among with
      renewed | ⟨position, other, elsewhere, found, clears⟩
    · exact cleared key renewed
    · exact past key (solo.cleared key (mem_tokens found clears))
  · intro key reported
    rcases solo.reported_source lookup flight cells reported with old | ⟨task, rfl, concluding, rfl⟩
    · exact solo.silenced_moved lookup flight past (solo.reported key old)
    · obtain ⟨unengaged, succeeded⟩ := solo.reports lookup concluding flight
      exact ⟨unengaged, .inl succeeded⟩

end

theorem cleared_moved (ledger : Ledger system) (lookup : system.threads[index]? = some thread)
    (stepped : thread.step system.config system.core input = some result)
    (fresh : input.Fresh system.core) (member : key ∈ result.threads.flatMap Thread.clears) :
    Outlived (system.moved index result) key := by
  obtain ⟨cleared, among, clears⟩ := mem_flatMap.mp member
  unfold Thread.clears at clears
  split at clears
  · rename_i started completion
    obtain rfl := mem_singleton.mp clears
    cases thread with
    | run task =>
      have deed := (ledger.footprint lookup stepped).deed
      obtain ⟨own, pc⟩ := task
      cases run_step_cases _ stepped with
      | ended finished latest called terminal =>
        -- The attempt has not written its outcome, so its record is running.
        obtain ⟨stored, shown, running, -⟩ := running_of_unwritten ledger lookup rfl
        cases (call_get_record called).symm.trans shown
        rw [running] at terminal
        cases terminal
      | wrote called =>
        cases mem_singleton.mp among
        exact (finish_wrote ledger lookup deed fresh called).1
      | _ => cases mem_singleton.mp among
    | _ => cases run_source (fun _ other => by cases other) stepped among
  · cases clears

theorem solo_aside (solo : Solo system) (ledger : Ledger next) (book : FlightBook next)
    (unmoved : Aside system next) : Solo next := by
  have past : ∀ entry, Outlived system entry → Outlived next entry := fun _ outlived =>
    outlived.aside unmoved
  have unpublished := unmoved.tokens Thread.unpublished fun call => by cases call <;> rfl
  have carries := unmoved.tokens Thread.carries fun call => by cases call <;> rfl
  have engaged := unmoved.tokens Thread.engaged fun call => by cases call <;> rfl
  have clears := unmoved.tokens Thread.clears fun call => by cases call <;> rfl
  have announces := unmoved.tokens Thread.announces fun call => by cases call <;> rfl
  refine ⟨ledger, book, ?_, ?_, ?_, ?_, ?_, ?_⟩
  · rw [unpublished]
    exact solo.distinct
  · rw [unpublished, unmoved.flights]
    exact solo.pending
  · intro token member
    rw [carries] at member
    rw [unmoved.entries]
    exact (solo.entered token member).imp_right (past _)
  · rw [engaged]
    exact solo.engaged
  · intro key member
    rw [clears] at member
    exact past key (solo.cleared key member)
  · intro key reported
    rw [Reported, unmoved.entries, announces, unmoved.flights] at reported
    obtain ⟨unengaged, told⟩ := solo.reported key reported
    rw [Silenced, engaged, unmoved.entries]
    exact ⟨unengaged, told.imp_right (past _)⟩

theorem solo_step (fresh : FreshIds system action) (solo : Solo system)
    (taken : system.step action = some next) : Solo next := by
  have ledger := ledger_step fresh solo.ledger taken
  have book := flight_book_step solo.book taken
  have past : (∀ config, action ≠ .restart config) →
      ∀ entry, Outlived system entry → Outlived next entry := fun stays entry =>
    outlived_step fresh solo.ledger stays taken
  cases step_change solo.ledger taken with
  | stepped lookup stepped =>
    exact solo_moved solo lookup ledger (thread_flight_step stepped) (thread_cells stepped)
      (past fun _ same => by cases same)
      fun key member => cleared_moved solo.ledger lookup stepped fresh member
  | dropped lookup left =>
    refine solo_moved solo lookup ledger (drop_flight_step left) (drop_cells left)
      (past fun _ same => by cases same) ?_
    intro key member
    obtain ⟨cleared, among, clears⟩ := mem_flatMap.mp member
    cases cleared with
    | run task => exact (drop_no_run left task among).elim
    | _ => cases clears
  | aside unmoved => exact solo_aside solo ledger book unmoved
  | restart config =>
    have nobody : ∀ {α : Type} (tokens : Thread → List α), bootThreads.flatMap tokens = [] →
        (∀ write, tokens (.detached write) = []) →
        (bootThreads ++ system.threads.filter Thread.isDetached).flatMap tokens = [] :=
      fun tokens booted detached => tokens_restart tokens booted detached
    have unpublished := nobody Thread.unpublished rfl fun _ => rfl
    have carries := nobody Thread.carries rfl fun _ => rfl
    have engaged := nobody Thread.engaged rfl fun _ => rfl
    have clears := nobody Thread.clears rfl fun _ => rfl
    have announces := nobody Thread.announces rfl fun _ => rfl
    refine ⟨ledger, book, ?_, ?_, ?_, ?_, ?_, ?_⟩
    · rw [unpublished]
      exact nodup_nil
    · rw [unpublished]
      exact forall_mem_nil _
    · rw [carries]
      exact forall_mem_nil _
    · rw [engaged]
      exact nodup_nil
    · rw [clears]
      exact forall_mem_nil _
    · intro key reported
      rw [Reported, announces] at reported
      rcases reported with succeeded | announced | ⟨flight, cell, found, -⟩
      · cases succeeded
      · cases announced
      · cases found

theorem solo_boot {config : Config} {store : σ} {knownIds : List TaskId}
    (ledger : Ledger (System.boot config store knownIds)) :
    Solo (System.boot config store knownIds) where
  ledger
  book := flight_book_boot
  distinct := nodup_nil
  pending := forall_mem_nil _
  entered := forall_mem_nil _
  engaged := nodup_nil
  cleared := forall_mem_nil _
  reported := by
    rintro key (succeeded | announced | ⟨flight, cell, found, -⟩)
    · cases succeeded
    · cases announced
    · cases found

theorem silenced_step (fresh : FreshIds system action) (solo : Solo system)
    (stays : ∀ config, action ≠ .restart config) (taken : system.step action = some next)
    (silenced : Silenced system key) : Silenced next key := by
  have past := fun entry => @outlived_step σ _ _ system entry next action fresh solo.ledger stays
    taken
  cases step_change solo.ledger taken with
  | stepped lookup stepped =>
    exact solo.silenced_moved lookup (thread_flight_step stepped) past silenced
  | dropped lookup left =>
    exact solo.silenced_moved lookup (drop_flight_step left) past silenced
  | aside unmoved =>
    rw [Silenced, unmoved.tokens Thread.engaged fun call => by cases call <;> rfl, unmoved.entries]
    exact ⟨silenced.1, silenced.2.imp_right (past key)⟩
  | restart config => exact (stays config rfl).elim

theorem published_step (solo : Solo system) (stays : ∀ config, action ≠ .restart config)
    (taken : system.step action = some next) {cell : Flight}
    (found : system.core.flights[flight]? = some cell) (landed : cell.result.isSome = true) :
    next.core.flights[flight]? = some cell := by
  have kept : ∀ {index : Nat} {thread : Thread} {result : Step σ},
      system.threads[index]? = some thread → FlightStep system.core thread result →
      result.core.flights[flight]? = some cell := by
    intro index thread result lookup step
    rcases step.flights flight cell found with same | ⟨task, answer, rfl, publishing, rfl, -⟩
    · exact same
    · have own : task.flight ∈ (Thread.hook task).unpublished := by
        simp [Thread.unpublished, HookPc.unpublished, publishing]
      obtain ⟨other, present, empty⟩ := solo.pending task.flight (mem_tokens lookup own)
      cases found.symm.trans present
      rw [empty] at landed
      cases landed
  cases step_move taken with
  | stepped lookup stepped =>
    exact kept lookup (thread_flight_step stepped)
  | dropped lookup left =>
    exact kept lookup (drop_flight_step left)
  | call | flags | progress | prune => exact found
  | restart config => exact (stays config rfl).elim

def Receives (system next : System σ) (flight : Nat)
    (outcome : Except TaskServiceError CancelOutcome) : Prop :=
  ∃ (index : Nat) (id : TaskId) (attempt : Nat),
    system.threads[index]? = some (.cancel { id := id, pc := .waitHook attempt flight }) ∧
      next.threads[index]? = some (.cancel { id := id, pc := .returned outcome })

omit [LawfulStore σ] in
theorem receives_published (book : FlightBook system) (taken : system.step action = some next)
    {outcome : Except TaskServiceError CancelOutcome}
    (receives : Receives system next flight outcome) :
    ∃ cell answer, system.core.flights[flight]? = some cell ∧ cell.result = some answer ∧
      outcome = CancelCall.flightOutcome cell.owner.1 cell.owner.2 answer := by
  obtain ⟨position, id, attempt, waiting, returned⟩ := receives
  have inside : position < system.threads.length := (List.getElem?_eq_some_iff.mp waiting).1
  have unmoved : next.threads[position]? ≠ system.threads[position]? := by
    rw [waiting, returned]
    intro same
    cases same
  cases step_move taken with
  | @stepped index input thread result lookup stepped =>
    obtain rfl : position = index := by
      by_contra different
      exact unmoved ((advance_other different waiting).trans waiting.symm)
    cases waiting.symm.trans lookup
    have moved : result.thread = .cancel { id := id, pc := .returned outcome } :=
      Option.some.inj ((advance_self waiting).symm.trans returned)
    have waited : CancelStep system.config system.core input id (.waitHook attempt flight) result :=
      cancel_step_cases ⟨id, .waitHook attempt flight⟩ stepped
    cases waited with
    | landed attempt flight answer arrived =>
      obtain ⟨cell, found, landed⟩ := Option.bind_eq_some_iff.mp arrived
      obtain ⟨owned, present, owner⟩ := book.watched (flight, (id, attempt))
        (mem_tokens waiting (mem_singleton_self _))
      cases found.symm.trans present
      refine ⟨cell, answer, found, landed, ?_⟩
      rw [owner]
      unfold CancelCall.returnWith at moved
      split at moved
      all_goals
        cases moved
        rfl
  | @dropped index input issued thread result lookup left =>
    obtain rfl : position = index := by
      by_contra different
      exact unmoved ((advance_other different waiting).trans waiting.symm)
    have moved : result.thread = .cancel { id := id, pc := .returned outcome } :=
      Option.some.inj ((advance_self waiting).symm.trans returned)
    have bystanders := all_eq_true.mp (drop_bystanders left) _ mem_cons_self
    rw [moved] at bystanders
    cases bystanders
  | call call ready => exact (unmoved (List.getElem?_append_left inside)).elim
  | flags | progress | prune => exact (unmoved rfl).elim
  | restart config =>
    rcases mem_append.mp (mem_of_getElem? returned) with booted | kept
    · simp [bootThreads] at booted
    · obtain ⟨write, same⟩ := detached_of_kept kept
      cases same

end Steps

structure SingleFlight (start : System σ) (actions : List Action) (final : System σ) : Prop where
  exclusive : ∀ (first second : Nat) (left right : Thread) (key : TaskId × Nat),
    final.threads[first]? = some left → final.threads[second]? = some right →
    key ∈ left.invoking → key ∈ right.invoking → first = second
  conclusive : ∀ before after middle key, actions = before ++ after →
    (∀ config, Action.restart config ∉ after) →
    runActions System.step start before = some middle → Reported middle key →
    key ∉ final.threads.flatMap Thread.invoking
  requested : ∀ key ∈ final.threads.flatMap Thread.invoking,
    PassedThrough System.step
      (fun system => RequestedAt (system.recordOf key.1) key.2) start actions
  shared : ∀ before first between last after left leftNext right rightNext flight earlier later,
    actions = before ++ first :: (between ++ last :: after) →
    (∀ config, Action.restart config ∉ first :: between) →
    runActions System.step start before = some left → left.step first = some leftNext →
    runActions System.step leftNext between = some right → right.step last = some rightNext →
    Receives left leftNext flight earlier → Receives right rightNext flight later →
    later = earlier

section Runs

variable {system final : System σ} {actions : List Action}

theorem solo_run (solo : Solo system) (fresh : Guarded System.step FreshIds system actions)
    (reached : runActions System.step system actions = some final) : Solo final :=
  run_invariant solo_step solo fresh reached

theorem silenced_run {key : TaskId × Nat} (solo : Solo system)
    (guarded : Guarded System.step WithoutRestart system actions)
    (reached : runActions System.step system actions = some final)
    (silenced : Silenced system key) : Silenced final key := by
  have both : Solo final ∧ Silenced final key :=
    @run_invariant _ _ System.step WithoutRestart (fun system => Solo system ∧ Silenced system key)
      (fun guard holds taken =>
        ⟨solo_step guard.1 holds.1 taken, silenced_step guard.1 holds.1 guard.2 taken holds.2⟩)
      _ _ _ ⟨solo, silenced⟩ guarded reached
  exact both.2

variable {flight : Nat}

theorem published_run {cell : Flight} (solo : Solo system)
    (guarded : Guarded System.step WithoutRestart system actions)
    (reached : runActions System.step system actions = some final)
    (found : system.core.flights[flight]? = some cell) (landed : cell.result.isSome = true) :
    final.core.flights[flight]? = some cell := by
  have both : Solo final ∧ final.core.flights[flight]? = some cell :=
    @run_invariant _ _ System.step WithoutRestart
      (fun system => Solo system ∧ system.core.flights[flight]? = some cell)
      (fun guard holds taken =>
        ⟨solo_step guard.1 holds.1 taken, published_step holds.1 guard.2 taken holds.2 landed⟩)
      _ _ _ ⟨solo, found⟩ guarded reached
  exact both.2

theorem received_same (solo : Solo system) {first last : Action} {between : List Action}
    {leftNext right rightNext : System σ} {earlier later : Except TaskServiceError CancelOutcome}
    (guarded : Guarded System.step WithoutRestart system (first :: between))
    (leftTaken : system.step first = some leftNext)
    (reached : runActions System.step leftNext between = some right)
    (rightTaken : right.step last = some rightNext)
    (leftReceives : Receives system leftNext flight earlier)
    (rightReceives : Receives right rightNext flight later) : later = earlier := by
  have soloRight : Solo right :=
    run_invariant (fun (guard : WithoutRestart _ _) holds taken => solo_step guard.1 holds taken)
      solo guarded (run_cons_eq_some.mpr ⟨leftNext, leftTaken, reached⟩)
  obtain ⟨cell, answer, found, landed, rfl⟩ := receives_published solo.book leftTaken leftReceives
  obtain ⟨other, reply, present, replied, rfl⟩ :=
    receives_published soloRight.book rightTaken rightReceives
  have kept := published_run solo guarded
    (run_cons_eq_some.mpr ⟨leftNext, leftTaken, reached⟩) found (by rw [landed]; rfl)
  cases kept.symm.trans present
  cases landed.symm.trans replied
  rfl

/-- The request of every hook that is called is a state of the run. -/
theorem requested_run {start : System σ} (solo : Solo start)
    (idle : start.threads.flatMap Thread.invoking = [])
    (fresh : Guarded System.step FreshIds start actions)
    (reached : runActions System.step start actions = some final) :
    ∀ key ∈ final.threads.flatMap Thread.invoking,
      PassedThrough System.step (fun system => RequestedAt (system.recordOf key.1) key.2) start
        actions := by
  have both : Solo final ∧ ∀ key ∈ final.threads.flatMap Thread.invoking,
      PassedThrough System.step (fun system => RequestedAt (system.recordOf key.1) key.2) start
        actions := by
    apply @run_history _ _ System.step FreshIds start
      (fun actions system => Solo system ∧ ∀ key ∈ system.threads.flatMap Thread.invoking,
        PassedThrough System.step (fun system => RequestedAt (system.recordOf key.1) key.2) start
          actions) ?_ ?_ _ _ fresh reached
    · exact ⟨solo, by rw [idle]; exact forall_mem_nil _⟩
    · intro earlier system action next before guard holds taken
      have after : runActions System.step start (earlier ++ [action]) = some next :=
        run_snoc_eq_some.mpr ⟨system, before, taken⟩
      refine ⟨solo_step guard holds.1 taken, ?_⟩
      intro key member
      have old : key ∈ system.threads.flatMap Thread.invoking →
          PassedThrough System.step (fun system => RequestedAt (system.recordOf key.1) key.2) start
            (earlier ++ [action]) := fun among => (holds.2 key among).later [action]
      have found : RequestedAt (system.recordOf key.1) key.2 ∨
        RequestedAt (next.recordOf key.1) key.2 →
          PassedThrough System.step (fun system => RequestedAt (system.recordOf key.1) key.2) start
            (earlier ++ [action]) := by
        rintro (requested | requested)
        · exact PassedThrough.later ⟨earlier, [], system, (append_nil _).symm, before, requested⟩
            [action]
        · exact ⟨earlier ++ [action], [], next, (append_nil _).symm, after, requested⟩
      cases step_move taken with
      | stepped lookup stepped =>
        rcases mem_tokens_advance Thread.invoking member with
          renewed | ⟨position, other, elsewhere, there, invoking⟩
        · rcases invoking_requested holds.1.ledger.valid stepped renewed with invoking | requested
          · exact old (mem_tokens lookup invoking)
          · exact found requested
        · exact old (mem_tokens there invoking)
      | dropped lookup left =>
        rcases mem_tokens_advance Thread.invoking member with
          renewed | ⟨position, other, elsewhere, found, invoking⟩
        · obtain ⟨rest, among, invoking⟩ := mem_flatMap.mp renewed
          rw [bystander_invoking (all_eq_true.mp (drop_bystanders left) rest among)] at invoking
          cases invoking
        · exact old (mem_tokens found invoking)
      | call call ready =>
        rw [tokens_call Thread.invoking (by cases call <;> rfl)] at member
        exact old member
      | flags | progress | prune => exact old member
      | restart config =>
        rw [tokens_restart Thread.invoking rfl fun _ => rfl] at member
        cases member
  exact both.2

/-- Hook invocations of one attempt never overlap; none follows one whose success was reported;
each follows the persisted request; and callers that share a flight share its result. -/
theorem single_flight_hook (config : Config) (store : σ) (knownIds : List TaskId)
    (valid : LawfulStore.Valid store)
    (known : ∀ id, TaskStore.getEncodedTask store id ≠ none → id ∈ knownIds)
    (actions : List Action) (final : System σ)
    (fresh : Guarded System.step FreshIds (System.boot config store knownIds) actions)
    (reached : runActions System.step (System.boot config store knownIds) actions = some final) :
    SingleFlight (System.boot config store knownIds) actions final := by
  have boot := solo_boot (@ledger_boot _ _ _ config _ _ valid known)
  have solo := solo_run boot fresh reached
  refine ⟨?_, ?_, requested_run boot rfl fresh reached, ?_⟩
  · intro first second left right key leftAt rightAt leftInvokes rightInvokes
    exact position_of_token Thread.engaged solo.engaged leftAt rightAt
      (engaged_of_invoking leftInvokes) (engaged_of_invoking rightInvokes)
  · rintro before after middle key rfl stays passed reported member
    obtain ⟨earlier, remaining⟩ := guarded_append fresh passed
    rw [run_append, passed] at reached
    have soloMiddle := solo_run boot earlier passed
    obtain ⟨unengaged, -⟩ := silenced_run soloMiddle (without_restart remaining stays) reached
      (soloMiddle.reported key reported)
    obtain ⟨thread, among, invoking⟩ := mem_flatMap.mp member
    exact unengaged (mem_flatMap.mpr ⟨thread, among, engaged_of_invoking invoking⟩)
  · rintro before first between last after left leftNext right rightNext flight earlier later rfl
      stays passed leftTaken continued rightTaken leftReceives rightReceives
    obtain ⟨guardedBefore, guardedRest⟩ := guarded_append fresh passed
    have guardedBetween : Guarded System.step FreshIds left (first :: between) := by
      rw [← cons_append] at guardedRest
      exact (guarded_append guardedRest (run_cons_eq_some.mpr ⟨leftNext, leftTaken, continued⟩)).1
    exact received_same (solo_run boot guardedBefore passed)
      (without_restart guardedBetween stays) leftTaken continued rightTaken leftReceives
      rightReceives

end Runs

def sampleJoined : List Action :=
  sampleStart ++ [.call (.cancel sampleId)] ++ threadSteps (List.replicate 8 6) ++
    threadSteps [7, 7, 7] ++ [.call (.cancel sampleId)] ++ threadSteps (List.replicate 7 8)

theorem single_flight_hook_sample :
    ∃ final : System MemoryTaskStore,
      runActions System.step (sampleSystem .externalHook) sampleJoined = some final ∧
        (sampleId, 1) ∈ final.threads.flatMap Thread.invoking ∧
        SingleFlight (sampleSystem .externalHook) sampleJoined final := by
  refine run_shows (by decide) fun final reached _ => ?_
  exact single_flight_hook _ _ _ (with_limits_valid ..) (with_limits_known _ _ _ _) _ _ (by decide)
    reached

end TaskService.Service
