import TaskService.Service.Flights
import TaskService.Service.Lasting
import TaskService.Store.MemoryTaskStoreLaws

/-!
# Granted cancellations are final

Whoever grants a cancellation has seen or written a closed record, directly or
through the flight it has waited for, and a closed record stays closed across
restarts.
-/

namespace TaskService.Service

open Library Model Store List
open TaskStore LawfulStore

variable {σ : Type} [TaskStore σ]

def CancelOutcome.grants : CancelOutcome → Bool
  | .cancelledBeforeStart | .cancellationRequested => true
  | .alreadyTerminal | .cancellationUnsupported => false

/-- Counters of a flight that has seen or written the cancellation request. -/
def HookPc.sealed : HookPc → Bool
  | .invoke | .awaitHook | .reload | .clearError _ | .failLoad _ | .failRecord _ _
  | .conclude .success | .publish .success => true
  | .load | .persist _ | .conclude _ | .publish _ | .exit | .done => false

def Thread.sealed : Thread → List TaskId
  | .cancel { id, pc := .signal _ } => [id]
  | .hook task => if task.pc.sealed then [task.id] else []
  | _ => []

def Core.Seals (core after : Core σ) (id : TaskId) : Prop :=
  (∃ task, core.recordOf id = some task) ∧ Sealed (after.recordOf id)

inductive Backed (core : Core σ) (thread : Thread) (result : Step σ) (id : TaskId) : Prop
  | sealed (member : id ∈ thread.sealed)
  | seals (seals : core.Seals result.core id)
  | succeeded (attempt : Nat)
      (found : core.externalCancellations.lookup (id, attempt) = some .succeeded)
  | landed (flight attempt : Nat) (watching : (flight, (id, attempt)) ∈ thread.watches)
      (found : core.flights[flight]?.bind Flight.result = some .success)

structure Grants (core : Core σ) (thread : Thread) (result : Step σ) : Prop where
  sealed : ∀ id ∈ result.threads.flatMap Thread.sealed,
    id ∈ thread.sealed ∨ core.Seals result.core id
  granted : ∀ id outcome, outcome.grants = true →
    Event.cancelReturned id outcome ∈ result.core.trace →
    Event.cancelReturned id outcome ∈ core.trace ∨ Backed core thread result id

section Granting

variable {config : Config} {core : Core σ} {input : Input} {thread : Thread} {result : Step σ}

theorem bystander_sealed {thread : Thread} (bystander : thread.bystander = true) :
    thread.sealed = [] := by
  cases thread <;> first | rfl | cases bystander

theorem call_transition_seals [LawfulStore σ] (valid : Valid core.store)
    {command : TransitionCommand} {after : Core σ} {written : TaskSummary}
    (called : core.callTransition input command = (after, .ok written))
    (closes : command.state.isTerminal = true ∨
      (command.state ≠ .queued ∧ command.cancelRequested = true)) :
    core.Seals after command.id := by
  obtain ⟨-, ⟨-, message, -, failed⟩ | ⟨store, -, answer⟩⟩ := call_write_cases called
  · cases failed
  · have effect := transition_effect core.store input.clock command valid
    rw [← answer, ← store] at effect
    cases effect with
    | applied task held matched room stored others =>
      refine ⟨⟨task, held⟩, ?_⟩
      intro later present
      rcases stored with stored | ⟨-, gone⟩
      · rw [show after.recordOf command.id = _ from stored] at present
        cases present
        rcases closes with terminal | ⟨open_, kept⟩
        · exact .inl terminal
        · exact .inr ⟨kept, .inl open_⟩
      · rw [show after.recordOf command.id = _ from gone] at present
        cases present

theorem call_get_seals {id : TaskId} {task : StoredTask} {after : Core σ}
    (called : core.callGet input id = .ok (some task)) (closed : Closed task.summary)
    (same : after.store = core.store) : core.Seals after id := by
  have found : core.recordOf id = some task := call_get_record called
  refine ⟨⟨task, found⟩, ?_⟩
  intro later present
  rw [Core.recordOf, same, ← Core.recordOf, found] at present
  cases present
  exact closed

variable [LawfulStore σ]

section

variable (valid : Valid core.store)
include valid

theorem cancel_sealed (call : CancelCall) (stepped : call.step config core input = some result)
    {id : TaskId} (member : id ∈ result.threads.flatMap Thread.sealed) :
    core.Seals result.core id := by
  obtain ⟨callId, pc⟩ := call
  cases cancel_step_cases _ stepped with
  | persisted called =>
    obtain rfl : id = callId := by simpa [Step.threads, Thread.sealed] using member
    apply call_transition_seals valid called
    exact .inr ⟨by simp [CancelCall.requestCommand], rfl⟩
  | _ => cases member

theorem returned_backed {call : CancelCall} {outcome : CancelOutcome}
    (returned : Returned core input call result outcome) (grants : outcome.grants = true) :
    Backed core (.cancel call) result call.id := by
  cases returned with
  | read task outcome called judged store =>
    cases judged with
    | terminal | unsupported => cases grants
    | requested running requested =>
      apply Backed.seals
      apply call_get_seals called ?_ store
      exact .inr ⟨requested, .inl (by simp [running])⟩
  | cancelled summary written after called store =>
    apply Backed.seals
    obtain ⟨found, sealed⟩ := call_transition_seals valid called (.inl rfl)
    refine ⟨found, sealed.of_eq ?_⟩
    simp only [Core.recordOf, store]
    rfl
  | signalled attempt at_ =>
    obtain ⟨callId, pc⟩ := call
    cases at_
    exact Backed.sealed (mem_singleton_self _)
  | joined attempt found => exact Backed.succeeded attempt found
  | landed flight attempt answer outcome watching found told =>
    cases answer with
    | success => exact Backed.landed flight attempt watching found
    | alreadyTerminal =>
      cases told
      cases grants
    | hookFailed | serviceFailed => cases told

theorem cancel_grants (call : CancelCall) (stepped : call.step config core input = some result) :
    Grants core (.cancel call) result := by
  refine ⟨fun id member => .inr (cancel_sealed valid call stepped member), ?_⟩
  intro id outcome grants member
  rcases cancel_returned call stepped member with old | ⟨rfl, returned⟩
  · exact .inl old
  · exact .inr (returned_backed valid returned grants)

end

omit [TaskStore σ] [LawfulStore σ] in
theorem hook_passes_sealed {task : HookTask} {after : Core σ} {pc : HookPc} {id : TaskId}
    (passes : pc.sealed = true → task.pc.sealed = true)
    (member : id ∈ (⟨after, .hook { task with pc := pc }, []⟩ : Step σ).threads.flatMap
      Thread.sealed) : id ∈ (Thread.hook task).sealed := by
  simp only [Step.threads, Thread.sealed, flatMap_cons, flatMap_nil, append_nil] at member ⊢
  split at member
  · rename_i now
    rw [if_pos (passes now)]
    exact member
  · cases member

omit [LawfulStore σ] in
/-- Reading never unseals, and a flight becomes sealed by reading a request that
is already persisted. -/
theorem hook_reading_sealed (task : HookTask) (disappeared : String)
    (running : TaskSummary → HookPc) (reads : ∀ summary, (running summary).sealed = true →
      task.pc.sealed = true ∨ summary.cancelRequested = true) {id : TaskId}
    (member : id ∈ (task.reading core input disappeared running).threads.flatMap Thread.sealed) :
    id ∈ (Thread.hook task).sealed ∨
      core.Seals (task.reading core input disappeared running).core id := by
  unfold HookTask.reading at member ⊢
  simp only at member ⊢
  split at member
  · exact .inl (hook_passes_sealed (fun now => by cases now) member)
  · exact .inl (hook_passes_sealed (fun now => by cases now) member)
  · rename_i stored called
    split at member
    · rename_i still
      by_cases now : (running stored.summary).sealed = true
      · rcases reads stored.summary now with before | requested
        · exact .inl (hook_passes_sealed (fun _ => before) member)
        · right
          obtain rfl : id = task.id := by
            simpa [Step.threads, Thread.sealed, now] using member
          rw [if_pos still]
          apply call_get_seals called ?_ rfl
          have running := ((still_running_iff task stored.summary).mp still).2
          exact .inr ⟨requested, .inl (by simp [running])⟩
      · exact .inl (hook_passes_sealed (fun sealed => (now sealed).elim) member)
    · exact .inl (hook_passes_sealed (fun now => by cases now) member)

section

variable (valid : Valid core.store)
include valid

theorem hook_writing_sealed (task : HookTask) (command : TransitionCommand) (written again : HookPc)
    (named : command.id = task.id)
    (closes : command.state ≠ .queued ∧ command.cancelRequested = true)
    (againSealed : again.sealed = true → task.pc.sealed = true) {id : TaskId}
    (member : id ∈ (task.writing core input command written again).threads.flatMap Thread.sealed) :
    id ∈ (Thread.hook task).sealed ∨
      core.Seals (task.writing core input command written again).core id := by
  unfold HookTask.writing at member ⊢
  split at member
  · rename_i after summary called
    right
    simp only [Step.threads, Thread.sealed, flatMap_cons, flatMap_nil, append_nil] at member
    split at member
    · obtain rfl : id = task.id := by simpa using member
      rw [← named]
      exact call_transition_seals valid called (.inr closes)
    · cases member
  · split at member
    · exact .inl (hook_passes_sealed againSealed member)
    · exact .inl (hook_passes_sealed (fun now => by cases now) member)

theorem hook_grants (task : HookTask) (stepped : task.step config core input = some result) :
    Grants core (.hook task) result := by
  refine ⟨?_, fun _ _ _ member =>
    .inl (returned_source (hook_conduct task stepped) (fun _ other => by cases other) member)⟩
  intro sealedId member
  obtain ⟨id, attempt, kindId, flight, pc⟩ := task
  cases hook_step_cases _ stepped with
  | loads =>
    apply hook_reading_sealed _ _ _ ?_ member
    intro summary now
    right
    split at now
    · cases now
    · rename_i persisted
      simp only [Bool.or_eq_true, Bool.not_eq_true', not_or] at persisted
      simpa using persisted.1
  | persists summary =>
    exact hook_writing_sealed valid _ _ _ _ rfl
      ⟨by simp [HookTask.annotateCommand], rfl⟩ (fun now => by cases now) member
  | reloads | failureLoads message =>
    exact hook_reading_sealed _ _ _ (fun _ _ => .inl rfl) member
  | clears | failureRecords =>
    exact hook_writing_sealed valid _ _ _ _ rfl
      ⟨by simp [HookTask.annotateCommand], rfl⟩ (fun _ => rfl) member
  | unavailable | interrupted | invokes | returns | fails =>
    exact .inl (hook_passes_sealed (fun _ => rfl) member)
  | concludes answer =>
    refine .inl (hook_passes_sealed ?_ member)
    cases answer <;> exact fun now => now
  | publishes | exits => exact .inl (hook_passes_sealed (fun now => by cases now) member)

theorem thread_grants (stepped : thread.step config core input = some result) :
    Grants core thread result := by
  cases thread with
  | cancel call => exact cancel_grants valid call stepped
  | hook task => exact hook_grants valid task stepped
  | _ =>
    refine ⟨?_, fun _ _ _ member =>
      .inl (returned_source (thread_conduct stepped) (fun _ other => by cases other) member)⟩
    intro id member
    have bystanders := bystanders_step rfl stepped
    obtain ⟨next, among, sealed⟩ := mem_flatMap.mp member
    rw [bystander_sealed (all_eq_true.mp bystanders next among)] at sealed
    cases sealed

end

end Granting

def FinalGrants (trace : List Event) : Prop :=
  ∀ later earlier id outcome attempt, trace = later ++ .cancelReturned id outcome :: earlier →
    outcome.grants = true → Event.started id attempt ∉ later

theorem final_cons {event : Event} {trace : List Event} (final : FinalGrants trace)
    (permitted : ∀ id attempt, event = .started id attempt →
      ∀ outcome, outcome.grants = true → Event.cancelReturned id outcome ∉ trace) :
    FinalGrants (event :: trace) := by
  intro later earlier id outcome attempt split grants member
  cases later with
  | nil => cases member
  | cons head later =>
    obtain ⟨rfl, rest⟩ := List.cons.inj split
    rcases mem_cons.mp member with same | inside
    · apply permitted id attempt same.symm outcome grants
      rw [rest]
      simp
    · exact final later earlier id outcome attempt rest grants inside

theorem final_cons_of_other {event : Event} {trace : List Event} (final : FinalGrants trace)
    (other : ∀ id attempt, event ≠ .started id attempt) : FinalGrants (event :: trace) :=
  final_cons final fun id attempt same => (other id attempt same).elim

theorem start_emits {config : Config} {core : Core σ} {input : Input} {result : Step σ}
    {scan : Scan} {summary : TaskSummary}
    (stepped : (Thread.scheduler (.start scan summary)).step config core input = some result) :
    result.core.trace = .issued .start :: core.trace ∨
      ∃ running, (startEncoded core.store input.clock
          (SchedulerPc.startCommand summary input.now)).2 = .ok running ∧
        result.core.trace =
          .started running.id running.attempt :: .issued .start :: core.trace := by
  simp only [Thread.step, SchedulerPc.step, Option.some.injEq] at stepped
  subst stepped
  unfold SchedulerPc.starting
  split
  · rename_i after running called
    right
    obtain ⟨-, -, trace⟩ := call_write_framed called
    obtain ⟨-, ⟨-, message, -, failed⟩ | ⟨-, -, answer⟩⟩ := call_write_cases called
    · cases failed
    · refine ⟨running, answer.symm, ?_⟩
      exact congrArg (Event.started running.id running.attempt :: ·) trace
  · rename_i after error called
    left
    obtain ⟨-, -, trace⟩ := call_write_framed called
    split
    · exact trace
    · exact trace

structure Granted [LawfulStore σ] (system : System σ) : Prop where
  ledger : Ledger system
  book : FlightBook system
  sealed : ∀ id ∈ system.threads.flatMap Thread.sealed, Settled system id
  succeeded : ∀ id attempt,
    system.core.externalCancellations.lookup (id, attempt) = some .succeeded → Settled system id
  landed : ∀ (flight : Nat) (cell : Flight), system.core.flights[flight]? = some cell →
    cell.result = some .success → Settled system cell.owner.1
  granted : ∀ id outcome, outcome.grants = true →
    Event.cancelReturned id outcome ∈ system.core.trace → Settled system id
  final : FinalGrants system.core.trace

section Run

variable [LawfulStore σ] {system next : System σ} {index : Nat} {input : Input}
  {thread : Thread} {result : Step σ} {id : TaskId}

theorem settled_of_seals (ledger : Ledger system) (lookup : system.threads[index]? = some thread)
    (deed : system.Deed input thread result) (fresh : input.Fresh system.core)
    (seals : system.core.Seals result.core id) : Settled (system.moved index result) id := by
  obtain ⟨⟨task, present⟩, sealed⟩ := seals
  exact lasting_established ledger lookup deed fresh present sealed

theorem final_moved (input : Input) (granted : Granted system)
    (conduct : Conduct system.core thread result)
    (starts : ∀ scan summary, thread = .scheduler (.start scan summary) →
      result.core.trace = .issued .start :: system.core.trace ∨
        ∃ running, (startEncoded system.core.store input.clock
            (SchedulerPc.startCommand summary input.now)).2 = .ok running ∧
          result.core.trace =
            .started running.id running.attempt :: .issued .start :: system.core.trace) :
    FinalGrants result.core.trace := by
  have issues : ∀ kind, FinalGrants (.issued kind :: system.core.trace) := fun kind =>
    final_cons_of_other granted.final (fun _ _ same => by cases same)
  cases conduct.emission with
  | silent trace =>
    rw [trace]
    exact granted.final
  | issued kind writes trace =>
    rw [trace]
    exact issues kind
  | started scan summary running place trace =>
    rcases starts scan summary place with quiet | ⟨answered, ok, traced⟩
    · rw [quiet]
      exact issues .start
    · rw [traced]
      apply final_cons (issues .start)
      intro id attempt same outcome grants member
      cases same
      have settled := granted.granted answered.id outcome grants (by simpa using member)
      have effect := start_effect system.core.store input.clock
        (SchedulerPc.startCommand summary input.now) granted.ledger.valid
      rw [ok] at effect
      cases effect with
      | started task held queued =>
        have named : task.summary.id = (SchedulerPc.startCommand summary input.now).id :=
          get_id system.core.store _ task granted.ledger.valid held
        have sealed : Sealed (system.recordOf task.summary.id) := settled.holds
        rw [named] at sealed
        have full := (sealed task held).not_startable queued
        omega
  | cancelled call summary place at_ trace =>
    rw [trace]
    exact final_cons_of_other (issues .transition) (fun _ _ same => by cases same)
  | returned call outcome place trace | released pc place releasing trace =>
    rw [trace]
    exact final_cons_of_other granted.final (fun _ _ same => by cases same)

theorem settled_of_backed (granted : Granted system) (lookup : system.threads[index]? = some thread)
    (deed : system.Deed input thread result) (fresh : input.Fresh system.core)
    (backed : Backed system.core thread result id) : Settled (system.moved index result) id := by
  have stays : ∀ other, Settled system other → Settled (system.moved index result) other :=
    fun other settled => settled_moved granted.ledger lookup deed fresh settled
  cases backed with
  | sealed inside =>
    exact stays id (granted.sealed id (mem_tokens lookup inside))
  | seals seals => exact settled_of_seals granted.ledger lookup deed fresh seals
  | succeeded attempt found => exact stays id (granted.succeeded id attempt found)
  | landed flight attempt watching found =>
    obtain ⟨cell, present, named⟩ := granted.book.watched (flight, (id, attempt))
      (mem_tokens lookup watching)
    rw [present] at found
    have settled := granted.landed flight cell present found
    rw [named] at settled
    exact stays id settled

theorem granted_moved (granted : Granted system) (lookup : system.threads[index]? = some thread)
    (footprint : Footprint system.config system.core input thread result)
    (conduct : Conduct system.core thread result) (cells : Cells system.core thread result)
    (grants : Grants system.core thread result) (final : FinalGrants result.core.trace)
    (fresh : input.Fresh system.core) :
    Granted (system.moved index result) := by
  have stays : ∀ id, Settled system id → Settled (system.moved index result) id := fun id settled =>
    settled_moved granted.ledger lookup footprint.deed fresh settled
  have own : ∀ id, id ∈ thread.sealed → Settled (system.moved index result) id := fun id sealed =>
    stays id (granted.sealed id (mem_tokens lookup sealed))
  refine ⟨ledger_moved granted.ledger lookup footprint conduct fresh,
    flight_book_moved granted.book lookup cells, ?_, ?_, ?_, ?_, final⟩
  · intro id among
    rcases mem_tokens_advance Thread.sealed among with
      renewed | ⟨_, other, _, found, sealed⟩
    · rcases grants.sealed id renewed with sealed | seals
      · exact own id sealed
      · exact settled_of_seals granted.ledger lookup footprint.deed fresh seals
    · exact stays id (granted.sealed id (mem_tokens found sealed))
  · intro id attempt found
    rcases cells.succeeded (id, attempt) found with old | ⟨task, rfl, concluding, same⟩
    · exact stays id (granted.succeeded id attempt old)
    · cases same
      exact own task.id (by simp [Thread.sealed, concluding, HookPc.sealed])
  · intro flight cell found landed
    rcases cells.results flight cell .success found landed with
      old | ⟨task, rfl, publishing, rfl⟩
    · exact stays _ (granted.landed flight cell old landed)
    · -- The published cell still belongs to the attempt the flight was created for.
      obtain ⟨owned, present, named⟩ := cells.owned _ _ (granted.book.watched
        (task.flight, (task.id, task.attempt))
        (mem_tokens lookup (by simp [Thread.watches])))
      rw [show result.core.flights[task.flight]? = some cell from found] at present
      cases present
      rw [named]
      exact own task.id (by simp [Thread.sealed, publishing, HookPc.sealed])
  · intro id outcome granting returned
    rcases grants.granted id outcome granting returned with old | backed
    · exact stays id (granted.granted id outcome granting old)
    · exact settled_of_backed granted lookup footprint.deed fresh backed

theorem granted_aside (granted : Granted system) (ledger : Ledger next) (book : FlightBook next)
    (unmoved : Aside system next) : Granted next := by
  have stays : ∀ id, Settled system id → Settled next id := fun id settled =>
    settled.aside unmoved fun _ _ closed => closed
  refine ⟨ledger, book, ?_, ?_, ?_, ?_, ?_⟩
  · rw [unmoved.tokens Thread.sealed fun call => by cases call <;> rfl]
    exact fun id member => stays id (granted.sealed id member)
  · rw [unmoved.entries]
    exact fun id attempt found => stays id (granted.succeeded id attempt found)
  · rw [unmoved.flights]
    exact fun flight cell found landed => stays _ (granted.landed flight cell found landed)
  · rw [unmoved.trace]
    exact fun id outcome grants member => stays id (granted.granted id outcome grants member)
  · rw [unmoved.trace]
    exact granted.final

omit [LawfulStore σ] in
theorem drop_grants {core : Core σ} (left : Dropped core thread input result) :
    Grants core thread result := by
  refine ⟨?_, ?_⟩
  · intro id member
    obtain ⟨next, among, sealed⟩ := mem_flatMap.mp member
    rw [bystander_sealed (all_eq_true.mp (drop_bystanders left) next among)] at sealed
    cases sealed
  · intro id outcome _ member
    exact .inl (drop_returned left member)

theorem granted_step {action : Action} (fresh : FreshIds system action) (granted : Granted system)
    (taken : system.step action = some next) : Granted next := by
  have ledger := ledger_step fresh granted.ledger taken
  have book := flight_book_step granted.book taken
  cases step_change granted.ledger taken with
  | @stepped index input thread result lookup stepped =>
    have conduct := thread_conduct stepped
    apply granted_moved granted lookup (granted.ledger.footprint lookup stepped) conduct
      (thread_cells stepped) (thread_grants granted.ledger.valid stepped) ?_ fresh
    apply final_moved input granted conduct
    rintro scan summary rfl
    exact start_emits stepped
  | @dropped index input issued thread result lookup left =>
    have conduct := drop_conduct left
    apply granted_moved granted lookup (granted.ledger.left_footprint lookup left) conduct
      (drop_cells left) (drop_grants left) ?_ (fun id minted => by cases minted)
    apply final_moved input granted conduct
    rintro scan summary rfl
    -- The scheduler is not a future that a caller can drop.
    obtain ⟨_, dropped⟩ := left.dropped
    cases dropped
  | aside unmoved => exact granted_aside granted ledger book unmoved
  | restart config =>
    refine ⟨ledger, book, ?_, (fun id attempt found => by cases found),
      (fun flight cell found => by cases found), ?_,
      final_cons_of_other granted.final (fun _ _ same => by cases same)⟩
    · intro id member
      rw [flatMap_append] at member
      rcases mem_append.mp member with booted | old
      · cases booted
      · obtain ⟨thread, kept, sealed⟩ := mem_flatMap.mp old
        obtain ⟨write, rfl⟩ := detached_of_kept kept
        cases sealed
    · intro id outcome grants member
      have settled := granted.granted id outcome grants (by simpa [Core.boot] using member)
      refine settled.frame rfl ?_ settled.holds
      rw [System.pending, flatMap_append]
      exact (filter_sublist.flatMap Thread.pending).subset

theorem granted_boot {config : Config} {store : σ} {knownIds : List TaskId}
    (ledger : Ledger (System.boot config store knownIds)) :
    Granted (System.boot config store knownIds) where
  ledger
  book := flight_book_boot
  sealed := fun id member => by cases member
  succeeded := fun id attempt found => by cases found
  landed := fun flight cell found => by cases found
  granted := fun id outcome grants member => by cases member
  final := by
    intro later earlier id outcome attempt split
    cases later <;> cases split

/-- Once a cancellation has returned that it was granted, the task is never
started again, by this service or by one that runs after it. -/
theorem granted_cancellation_final (config : Config) (store : σ) (knownIds : List TaskId)
    (valid : LawfulStore.Valid store)
    (known : ∀ id, TaskStore.getEncodedTask store id ≠ none → id ∈ knownIds)
    (actions : List Action) (final : System σ)
    (fresh : Guarded System.step FreshIds (System.boot config store knownIds) actions)
    (reached : runActions System.step (System.boot config store knownIds) actions = some final)
    (later earlier : List Event) (id : TaskId) (outcome : CancelOutcome)
    (split : final.core.trace = later ++ .cancelReturned id outcome :: earlier)
    (granted : outcome = .cancelledBeforeStart ∨ outcome = .cancellationRequested)
    (attempt : Nat) : Event.started id attempt ∉ later := by
  have holds : Granted final :=
    run_invariant granted_step (granted_boot (ledger_boot valid known)) fresh reached
  apply holds.final later earlier id outcome attempt split
  rcases granted with rfl | rfl <;> rfl

end Run

/-- A running attempt is cancelled, the service is killed before the handler
has seen it and starts again; recovery blocks the task and the next scheduler
scan leaves it alone. -/
def sampleCancelAndRestart : List Action :=
  sampleStart ++ [.call (.cancel sampleId)] ++ threadSteps [6, 6, 6, 6, 6, 6, 6] ++
    [.restart (sampleConfig .cooperative)] ++ threadSteps [3, 3, 3, 3, 3] ++
    threadSteps (List.replicate 8 0)

theorem granted_cancellation_final_sample :
    ∃ final : System MemoryTaskStore,
      runActions System.step (sampleSystem .cooperative) sampleCancelAndRestart = some final ∧
        final.core.trace =
          [.issued .transition, .restarted] ++
            .cancelReturned sampleId .cancellationRequested ::
              [.issued .transition, .started sampleId 1, .issued .start, .issued .accept] ∧
        Event.started sampleId 2 ∉ [Event.issued .transition, .restarted] := by
  refine run_shows (by decide) fun final reached split => ?_
  exact granted_cancellation_final _ _ _ (with_limits_valid ..) (with_limits_known _ _ _ _) _ _
    (by decide) reached _ _ sampleId .cancellationRequested split (.inr rfl) _

end TaskService.Service
