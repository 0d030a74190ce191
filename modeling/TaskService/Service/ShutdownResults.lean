import TaskService.Service.ShutdownProgress
import TaskService.Service.StaffCases

/-!
# How shutdown results are shared

While a release is on, the results are as many as the number of its round, and this is also
the attempt every caller joins.  After a failed release one more result is there; the first
later call raises the attempt to the next round and only then the supervisor goes on.
-/

namespace TaskService.Service

open Library List ShutdownState
open ShutdownProgress (publish panicOutcome publishPanic join)

def Unreleased (trace : List ShutdownEvent) : Prop :=
  ∀ round, ShutdownEvent.ended round .released ∉ trace

def ReleasedOnlyIn (round : Nat) (trace : List ShutdownEvent) : Prop :=
  ∀ other, ShutdownEvent.ended other .released ∈ trace → other = round

def FailedRound (round : Nat) (trace : List ShutdownEvent) : Prop :=
  (∃ error, ShutdownEvent.ended round (.failed error) ∈ trace) ∧
    ∃ outcome, ShutdownEvent.published round round outcome ∈ trace

def AskedAfter (round : Nat) (trace : List ShutdownEvent) : Prop :=
  ∃ later earlier, trace = later ++ .asked (round + 1) :: earlier ∧ FailedRound round earlier

def publications (trace : List ShutdownEvent) : List (Nat × Nat × ShutdownOutcome) :=
  (trace.filterMap fun event =>
    match event with
    | .published round index outcome => some (round, index, outcome)
    | _ => none).reverse

/-- The number of the attempt that is going on or has just been published. -/
def CurrentAttempt (attempt : Nat) (trace : List ShutdownEvent) : Prop :=
  attempt ≤ (publications trace).length ∧ (publications trace).length ≤ attempt + 1

def Justified : ShutdownEvent → List ShutdownEvent → Prop
  | .attempted 0, earlier => Unreleased earlier
  | .attempted (round + 1), earlier => Unreleased earlier ∧ AskedAfter round earlier
  | .ended _ _, earlier => Unreleased earlier
  | .published round index _, earlier => index = round ∧ ReleasedOnlyIn round earlier
  | .asked _, earlier => Unreleased earlier
  | .joined caller attempt, earlier => CurrentAttempt attempt earlier ∧
      ∀ other, ShutdownEvent.joined caller other ∉ earlier
  | .received caller attempt _, earlier => ShutdownEvent.joined caller attempt ∈ earlier

/-- Events of one call: what it joins and what it gets. -/
def ShutdownEvent.told : ShutdownEvent → Bool
  | .joined _ _ | .received _ _ _ => true
  | _ => false

/-- Results as the writes that put them there, one for each round at its own index. -/
def ownWrites (results : List ShutdownOutcome) : List (Nat × Nat × ShutdownOutcome) :=
  results.zipIdx.map fun entry => (entry.2, entry.2, entry.1)

def ReleasePc.unpublished : ReleasePc → Option Nat
  | .judging round _ | .publishing round _ _ | .panicked round => some round
  | _ => none

def Placed (state : ShutdownState) : Prop :=
  match state.supervisor with
  | .draining => state.progress = ShutdownProgress.fresh ∧ Unreleased state.trace
  | .releasing round | .panicked round =>
      state.progress.attempt = round ∧ state.progress.results.length = round ∧
        Unreleased state.trace
  | .judging round none | .publishing round _ false =>
      state.progress.attempt = round ∧ state.progress.results.length = round ∧
        ReleasedOnlyIn round state.trace
  | .judging round (some _) | .publishing round _ true =>
      state.progress.attempt = round ∧ state.progress.results.length = round ∧
        Unreleased state.trace ∧ ∃ error, .ended round (.failed error) ∈ state.trace
  | .checkGone round | .checkRetry round =>
      state.progress.results.length = round + 1 ∧ Unreleased state.trace ∧
        FailedRound round state.trace ∧
        ((state.progress.attempt = round ∧ state.progress.retryRequested = false) ∨
          (state.progress.attempt = round + 1 ∧ AskedAfter round state.trace))
  | .stopped =>
      (state.progress.results.length = state.progress.attempt + 1 ∧
          state.progress.retryableRelease = false) ∨
        (state.publicGone = true ∧ state.progress.attempt ≤ state.progress.results.length ∧
          state.progress.results.length ≤ state.progress.attempt + 1)

/-- A call has joined the attempt it waits for, and none before it came to its lock. -/
def Attends (trace : List ShutdownEvent) (caller : Nat) : Option ShutdownPc → Prop
  | some (.wait attempt) => ShutdownEvent.joined caller attempt ∈ trace
  | some (.returned _ _) | some .dropped => True
  | some .request | some .join | none => ∀ attempt, ShutdownEvent.joined caller attempt ∉ trace

structure Coordinated (state : ShutdownState) : Prop where
  placed : Placed state
  attends : ∀ caller, Attends state.trace caller state.callers[caller]?
  gone : state.publicGone = true → ∀ caller ∈ state.callers, caller.alive = false
  chronicle : Chronicle Justified state.trace
  written : publications state.trace = ownWrites state.progress.results
  settled : ∀ round result, ShutdownEvent.ended round result ∈ state.trace →
    (∃ outcome, ShutdownEvent.published round round outcome ∈ state.trace) ∨
      state.supervisor.unpublished = some round
  received : ∀ caller attempt outcome,
    ShutdownEvent.received caller attempt outcome ∈ state.trace →
    state.progress.results[attempt]? = some outcome

section Trace

variable {trace : List ShutdownEvent} {event : ShutdownEvent} {round : Nat}

theorem unreleased_cons (unreleased : Unreleased trace)
    (other : ∀ round, event ≠ .ended round .released) : Unreleased (event :: trace) := by
  intro round member
  rcases mem_cons.mp member with same | before
  · exact other round same.symm
  · exact unreleased round before

theorem failed_round_cons (failed : FailedRound round trace) :
    FailedRound round (event :: trace) := by
  obtain ⟨⟨error, ended⟩, outcome, published⟩ := failed
  exact ⟨⟨error, mem_cons_of_mem _ ended⟩, outcome, mem_cons_of_mem _ published⟩

theorem asked_after_cons (asked : AskedAfter round trace) :
    AskedAfter round (event :: trace) := by
  obtain ⟨later, earlier, split, failed⟩ := asked
  exact ⟨event :: later, earlier, by rw [split, cons_append], failed⟩

theorem publications_cons_other (other : ∀ round index outcome,
    event ≠ .published round index outcome) :
    publications (event :: trace) = publications trace := by
  cases event with
  | published round index outcome => exact (other round index outcome rfl).elim
  | _ => rfl

/-- What others do, or a call does after it has joined, leaves a call where it is. -/
theorem attends_cons {caller : Nat} {pc : Option ShutdownPc} (attends : Attends trace caller pc)
    (other : ∀ attempt, event ≠ .joined caller attempt) : Attends (event :: trace) caller pc := by
  have absent : (∀ attempt, ShutdownEvent.joined caller attempt ∉ trace) →
      ∀ attempt, ShutdownEvent.joined caller attempt ∉ event :: trace := by
    intro unjoined attempt member
    rcases mem_cons.mp member with same | before
    · exact other attempt same.symm
    · exact unjoined attempt before
  unfold Attends at attends ⊢
  split at attends
  · exact mem_cons_of_mem _ attends
  · trivial
  · trivial
  · exact absent attends
  · exact absent attends
  · exact absent attends

theorem attends_set {callers : List ShutdownPc} {position caller : Nat} {old pc : ShutdownPc}
    (found : callers[position]? = some old) (own : Attends trace position (some pc))
    (others : caller ≠ position → Attends trace caller callers[caller]?) :
    Attends trace caller (callers.set position pc)[caller]? := by
  by_cases same : caller = position
  · subst same
    rw [List.getElem?_set_self (List.getElem?_eq_some_iff.mp found).1]
    exact own
  · rw [List.getElem?_set_ne (Ne.symm same)]
    exact others same

end Trace

theorem coordinated_new : Coordinated new := by
  refine ⟨⟨rfl, ?_⟩, ?_, ?_, trivial, rfl, ?_, ?_⟩
  · intro round member
    cases member
  · intro caller attempt member
    cases member
  · intro gone
    cases gone
  · intro round result member
    cases member
  · intro caller attempt outcome member
    cases member

section Steps

variable {state : ShutdownState}

theorem Coordinated.bounds (coordinated : Coordinated state) :
    state.progress.attempt ≤ state.progress.results.length ∧
      state.progress.results.length ≤ state.progress.attempt + 1 := by
  have placed := coordinated.placed
  unfold Placed at placed
  split at placed
  · rw [placed.1]
    exact ⟨Nat.le_refl _, Nat.zero_le _⟩
  · omega
  · omega
  · omega
  · omega
  · omega
  · omega
  · omega
  · omega
  · omega

variable {next : ShutdownState} {outcome : ShutdownOutcome} {position : Nat}

section

variable (coordinated : Coordinated state) (placed : Placed next)
include coordinated placed

theorem coordinated_event {event : ShutdownEvent}
    (progress : next.progress.results = state.progress.results)
    (callers : next.callers = state.callers) (publicGone : next.publicGone = state.publicGone)
    (trace : next.trace = event :: state.trace) (justified : Justified event state.trace)
    (silent : ∀ round index outcome, event ≠ .published round index outcome)
    (untold : event.told = false) (settled : ∀ round result, event = .ended round result →
      next.supervisor.unpublished = some round)
    (kept : ∀ round, state.supervisor.unpublished = some round →
      next.supervisor.unpublished = some round) : Coordinated next := by
  refine ⟨placed, ?_, ?_, ?_, ?_, ?_, ?_⟩
  · intro caller
    rw [trace, callers]
    refine attends_cons (coordinated.attends caller) ?_
    rintro attempt rfl
    cases untold
  · rw [callers, publicGone]
    exact coordinated.gone
  · rw [trace]
    exact ⟨justified, coordinated.chronicle⟩
  · rw [trace, progress, publications_cons_other silent]
    exact coordinated.written
  · intro round result member
    rw [trace] at member ⊢
    rcases mem_cons.mp member with same | before
    · exact .inr (settled round result same.symm)
    · rcases coordinated.settled round result before with ⟨outcome, published⟩ | working
      · exact .inl ⟨outcome, mem_cons_of_mem _ published⟩
      · exact .inr (kept round working)
  · intro caller attempt outcome member
    rw [trace] at member
    rw [progress]
    rcases mem_cons.mp member with same | before
    · rw [← same] at untold
      cases untold
    · exact coordinated.received caller attempt outcome before

theorem coordinated_quiet (progress : next.progress.results = state.progress.results)
    (attends : ∀ caller, Attends state.trace caller next.callers[caller]?)
    (gone : next.publicGone = true → ∀ caller ∈ next.callers, caller.alive = false)
    (trace : next.trace = state.trace) (kept : ∀ round, state.supervisor.unpublished = some round →
      next.supervisor.unpublished = some round) : Coordinated next := by
  refine ⟨placed, trace ▸ attends, gone, trace ▸ coordinated.chronicle, ?_, ?_, ?_⟩
  · rw [trace, progress]
    exact coordinated.written
  · intro round result member
    rw [trace] at member ⊢
    exact (coordinated.settled round result member).imp id (kept round)
  · intro caller attempt outcome member
    rw [trace] at member
    rw [progress]
    exact coordinated.received caller attempt outcome member

theorem coordinated_published {round : Nat} (length : state.progress.results.length = round)
    (released : ReleasedOnlyIn round state.trace)
    (working : state.supervisor.unpublished = some round)
    (results : next.progress.results = state.progress.results ++ [outcome])
    (callers : next.callers = state.callers) (publicGone : next.publicGone = state.publicGone)
    (trace : next.trace = .published round round outcome :: state.trace) : Coordinated next := by
  refine ⟨placed, ?_, ?_, ?_, ?_, ?_, ?_⟩
  · intro caller
    rw [trace, callers]
    exact attends_cons (coordinated.attends caller) (by simp)
  · rw [callers, publicGone]
    exact coordinated.gone
  · rw [trace]
    exact ⟨⟨rfl, released⟩, coordinated.chronicle⟩
  · simpa [trace, results, publications, ownWrites, zipIdx_append, length] using coordinated.written
  · intro other result member
    rw [trace] at member ⊢
    left
    rcases mem_cons.mp member with same | before
    · cases same
    · rcases coordinated.settled other result before with ⟨published, inside⟩ | same
      · exact ⟨published, mem_cons_of_mem _ inside⟩
      · cases working.symm.trans same
        exact ⟨outcome, mem_cons_self ..⟩
  · intro caller attempt received member
    rw [trace] at member
    rcases mem_cons.mp member with same | before
    · cases same
    · have found := coordinated.received caller attempt received before
      rw [results, List.getElem?_append_left (List.getElem?_eq_some_iff.mp found).1]
      exact found

end

section Supervisor

variable {next : ShutdownState} {input : ReleaseInput}

section

variable (coordinated : Coordinated state) (taken : state.stepSupervisor input = some next)
include coordinated taken

theorem draining_coordinated (place : state.supervisor = .draining) : Coordinated next := by
  have placed := coordinated.placed
  simp only [Placed, place] at placed
  obtain ⟨fresh, unreleased⟩ := placed
  have started : state.progress.attempt = 0 ∧ state.progress.results.length = 0 := by
    rw [fresh]
    exact ⟨rfl, rfl⟩
  simp only [stepSupervisor, place] at taken
  split at taken
  · split at taken
    · cases taken
      exact coordinated_quiet coordinated ⟨started.1, started.2, unreleased⟩ rfl
        coordinated.attends coordinated.gone rfl (by simp [place, ReleasePc.unpublished])
    · cases taken
      refine coordinated_event coordinated ⟨started.1, started.2, ?_⟩ rfl rfl rfl rfl unreleased
        (by simp) rfl (by simp) (by simp [place, ReleasePc.unpublished])
      exact unreleased_cons unreleased (by simp)
  · cases taken

variable {round : Nat}

theorem releasing_coordinated (place : state.supervisor = .releasing round) : Coordinated next := by
  have placed := coordinated.placed
  simp only [Placed, place] at placed
  obtain ⟨attempt, length, unreleased⟩ := placed
  have ends : ∀ (result : ReleaseEnd) (pc : ReleasePc), pc.unpublished = some round →
      Placed ((state.superviseAt pc).record (.ended round result)) →
      Coordinated ((state.superviseAt pc).record (.ended round result)) := by
    intro result pc working after
    refine coordinated_event coordinated after rfl rfl rfl rfl unreleased (by simp) rfl ?_
      (by simp [place, ReleasePc.unpublished])
    intro other same equal
    cases equal
    exact working
  simp only [stepSupervisor, place] at taken
  split at taken
  · cases taken
    refine ends _ _ rfl ⟨attempt, length, ?_⟩
    intro other member
    rcases mem_cons.mp member with same | before
    · cases same
      rfl
    · exact (unreleased other before).elim
  · cases taken
    exact ends _ _ rfl ⟨attempt, length, unreleased_cons unreleased (by simp), _, mem_cons_self ..⟩
  · cases taken
    exact ends _ _ rfl ⟨attempt, length, unreleased_cons unreleased (by simp)⟩

theorem judging_coordinated {releaseError : Option String}
    (place : state.supervisor = .judging round releaseError) : Coordinated next := by
  have placed := coordinated.placed
  simp only [stepSupervisor, place] at taken
  cases taken
  refine coordinated_quiet coordinated ?_ rfl coordinated.attends coordinated.gone rfl (by
    simp [place, ReleasePc.unpublished, superviseAt])
  cases releaseError with
  | none =>
    simp only [Placed, place] at placed
    exact placed
  | some error =>
    simp only [Placed, place] at placed
    obtain ⟨attempt, length, unreleased, ended⟩ := placed
    exact ⟨attempt, length, unreleased, ended⟩

theorem publishing_coordinated {outcome : ShutdownOutcome} {retryable : Bool}
    (place : state.supervisor = .publishing round outcome retryable) : Coordinated next := by
  have placed := coordinated.placed
  simp only [stepSupervisor, place] at taken
  cases taken
  cases retryable with
  | false =>
    simp only [Placed, place] at placed
    obtain ⟨attempt, length, released⟩ := placed
    refine coordinated_published coordinated ?_ length released (by rw [place]; rfl) rfl rfl
      rfl (by rw [← length]; rfl)
    refine .inl ⟨?_, rfl⟩
    simp [record, publish, length, attempt]
  | true =>
    simp only [Placed, place] at placed
    obtain ⟨attempt, length, unreleased, error, ended⟩ := placed
    refine coordinated_published coordinated ?_ length
      (fun other member => (unreleased other member).elim) (by rw [place]; rfl) rfl rfl
      rfl (by rw [← length]; rfl)
    refine ⟨?_, unreleased_cons unreleased (by simp),
      ⟨⟨error, mem_cons_of_mem _ ended⟩, outcome, ?_⟩, .inl ⟨attempt, rfl⟩⟩
    · simp [record, publish, length]
    · rw [length]
      exact mem_cons_self ..

theorem check_gone_coordinated (place : state.supervisor = .checkGone round) :
    Coordinated next := by
  have placed := coordinated.placed
  have bounds := coordinated.bounds
  simp only [Placed, place] at placed
  simp only [stepSupervisor, place] at taken
  cases taken
  refine coordinated_quiet coordinated ?_ rfl coordinated.attends coordinated.gone rfl (by
    simp [place, ReleasePc.unpublished])
  cases gone : state.publicGone with
  | true => exact .inr ⟨gone, bounds⟩
  | false => exact placed

theorem check_retry_coordinated (place : state.supervisor = .checkRetry round) :
    Coordinated next := by
  have placed := coordinated.placed
  simp only [Placed, place] at placed
  obtain ⟨length, unreleased, failed, joined⟩ := placed
  simp only [stepSupervisor, place] at taken
  split at taken
  · rename_i requested
    cases taken
    rcases joined with ⟨_, unrequested⟩ | ⟨attempt, asked⟩
    · rw [requested] at unrequested
      cases unrequested
    · refine coordinated_event coordinated ⟨attempt, length, ?_⟩ rfl rfl rfl rfl
        ⟨unreleased, asked⟩ (by simp) rfl (by simp)
        (by simp [place, ReleasePc.unpublished])
      exact unreleased_cons unreleased (by simp)
  · cases taken
    exact coordinated_quiet coordinated ⟨length, unreleased, failed, joined⟩ rfl
      coordinated.attends coordinated.gone rfl (by simp [place, ReleasePc.unpublished])

/-- The supervisor panics before the outcome of its round is written, so it appends one. -/
theorem panicked_coordinated (place : state.supervisor = .panicked round) : Coordinated next := by
  have placed := coordinated.placed
  simp only [Placed, place] at placed
  obtain ⟨attempt, length, unreleased⟩ := placed
  have appended : state.progress.publishPanic =
      some (state.progress.publish panicOutcome false) := by
    unfold publishPanic
    rw [if_pos (length.trans attempt.symm)]
  simp only [stepSupervisor, place, appended, Option.map_some] at taken
  cases taken
  refine coordinated_published coordinated ?_ length
    (fun other member => (unreleased other member).elim) (by rw [place]; rfl) rfl rfl
    rfl (by rw [← attempt]; rfl)
  refine .inl ⟨?_, rfl⟩
  simp [record, publish, length, attempt]

theorem supervisor_coordinated : Coordinated next := by
  cases place : state.supervisor with
  | draining => exact draining_coordinated coordinated taken place
  | releasing round => exact releasing_coordinated coordinated taken place
  | judging => exact judging_coordinated coordinated taken place
  | publishing => exact publishing_coordinated coordinated taken place
  | checkGone round => exact check_gone_coordinated coordinated taken place
  | checkRetry round => exact check_retry_coordinated coordinated taken place
  | panicked round => exact panicked_coordinated coordinated taken place
  | stopped => simp [stepSupervisor, place] at taken

end

end Supervisor

/-- Only after a failed release a joining call asks for another one. -/
theorem asking_place (coordinated : Coordinated state) (asks : state.progress.asks = true)
    (present : state.publicGone = false) :
    ∃ round, (state.supervisor = .checkGone round ∨ state.supervisor = .checkRetry round) ∧
      state.progress.attempt = round := by
  have placed := coordinated.placed
  simp only [ShutdownProgress.asks, Bool.and_eq_true, decide_eq_true_eq] at asks
  obtain ⟨retryable, more⟩ := asks
  unfold Placed at placed
  split at placed
  · rw [placed.1] at retryable
    cases retryable
  · omega
  · omega
  · omega
  · omega
  · omega
  · omega
  · rename_i round place
    rcases placed.2.2.2 with ⟨attempt, _⟩ | ⟨attempt, _⟩
    · exact ⟨round, .inl place, attempt⟩
    · omega
  · rename_i round place
    rcases placed.2.2.2 with ⟨attempt, _⟩ | ⟨attempt, _⟩
    · exact ⟨round, .inr place, attempt⟩
    · omega
  · rcases placed with ⟨_, final⟩ | ⟨gone, _⟩
    · rw [retryable] at final
      cases final
    · rw [present] at gone
      cases gone

theorem placed_of_callers (placed : Placed state) (progress : next.progress = state.progress)
    (supervisor : next.supervisor = state.supervisor)
    (publicGone : state.publicGone = true → next.publicGone = true)
    (trace : next.trace = state.trace) : Placed next := by
  unfold Placed at placed ⊢
  rw [progress, supervisor, trace]
  split at placed
  all_goals first | exact placed | exact placed.imp id fun last => ⟨publicGone last.1, last.2⟩

theorem placed_told {event : ShutdownEvent} (placed : Placed state) (told : event.told = true) :
    Placed (state.record event) := by
  have stays : ∀ {trace : List ShutdownEvent} {round : Nat}, ReleasedOnlyIn round trace →
      ReleasedOnlyIn round (event :: trace) := by
    intro trace round released other member
    rcases mem_cons.mp member with rfl | before
    · cases told
    · exact released other before
  have none : ∀ {trace : List ShutdownEvent}, Unreleased trace → Unreleased (event :: trace) := by
    intro trace unreleased
    apply unreleased_cons unreleased
    rintro round rfl
    cases told
  unfold Placed at placed ⊢
  simp only [record] at placed ⊢
  split at placed
  · exact ⟨placed.1, none placed.2⟩
  · exact ⟨placed.1, placed.2.1, none placed.2.2⟩
  · exact ⟨placed.1, placed.2.1, none placed.2.2⟩
  · exact ⟨placed.1, placed.2.1, stays placed.2.2⟩
  · exact ⟨placed.1, placed.2.1, stays placed.2.2⟩
  · obtain ⟨at_, length, unreleased, error, ended⟩ := placed
    exact ⟨at_, length, none unreleased, error, mem_cons_of_mem _ ended⟩
  · obtain ⟨at_, length, unreleased, error, ended⟩ := placed
    exact ⟨at_, length, none unreleased, error, mem_cons_of_mem _ ended⟩
  · obtain ⟨length, unreleased, failed, joined⟩ := placed
    exact ⟨length, none unreleased, failed_round_cons failed,
      joined.imp id fun asked => ⟨asked.1, asked_after_cons asked.2⟩⟩
  · obtain ⟨length, unreleased, failed, joined⟩ := placed
    exact ⟨length, none unreleased, failed_round_cons failed,
      joined.imp id fun asked => ⟨asked.1, asked_after_cons asked.2⟩⟩
  · exact placed

section

variable (coordinated : Coordinated state)
include coordinated

theorem present_of_alive {caller : ShutdownPc} (found : state.callers[position]? = some caller)
    (alive : caller.alive = true) : state.publicGone = false := by
  cases gone : state.publicGone with
  | false => rfl
  | true =>
    have dead := coordinated.gone gone caller (mem_of_getElem? found)
    rw [alive] at dead
    cases dead

theorem coordinated_told {event : ShutdownEvent} {old pc : ShutdownPc}
    (told : event.told = true) (found : state.callers[position]? = some old)
    (alive : old.alive = true) (justified : Justified event state.trace)
    (own : Attends (event :: state.trace) position (some pc))
    (others : ∀ caller attempt, caller ≠ position → event ≠ .joined caller attempt)
    (ready : ∀ caller attempt outcome, event = .received caller attempt outcome →
      state.progress.results[attempt]? = some outcome) :
    Coordinated ((state.setCaller position pc).record event) := by
  have present := present_of_alive coordinated found alive
  refine ⟨placed_told (placed_of_callers coordinated.placed rfl rfl id rfl) told, ?_, ?_,
    ⟨justified, coordinated.chronicle⟩, ?_, ?_, ?_⟩
  · intro caller
    apply attends_set found own
    intro other
    exact attends_cons (coordinated.attends caller) fun attempt => others caller attempt other
  · intro gone
    rw [show state.publicGone = true from gone] at present
    cases present
  · refine (publications_cons_other ?_).trans coordinated.written
    rintro round index outcome rfl
    cases told
  · intro round result member
    rcases mem_cons.mp member with rfl | before
    · cases told
    · exact (coordinated.settled round result before).imp
        (fun found => found.imp fun _ inside => mem_cons_of_mem _ inside) id
  · intro caller attempt outcome member
    rcases mem_cons.mp member with same | before
    · exact ready caller attempt outcome same.symm
    · exact coordinated.received caller attempt outcome before

theorem Coordinated.current : CurrentAttempt state.progress.attempt state.trace := by
  rw [CurrentAttempt, coordinated.written]
  simpa [ownWrites] using coordinated.bounds

theorem join_coordinated (present : state.publicGone = false) :
    Coordinated
      (if state.progress.asks then
        { state with progress := state.progress.join }.record (.asked state.progress.join.attempt)
      else { state with progress := state.progress.join }) := by
  cases asks : state.progress.asks with
  | false =>
    have same : state.progress.join = state.progress := by
      unfold join
      rw [asks]
      rfl
    rw [same]
    exact coordinated
  | true =>
    obtain ⟨round, place, attempt⟩ := asking_place coordinated asks present
    have joined : state.progress.join =
        { state.progress with attempt := round + 1, retryRequested := true } := by
      unfold join
      rw [asks, attempt]
      rfl
    have waiting : Placed state → state.progress.results.length = round + 1 ∧
        Unreleased state.trace ∧ FailedRound round state.trace := by
      intro placed
      unfold Placed at placed
      rcases place with place | place
      all_goals
        rw [place] at placed
        exact ⟨placed.1, placed.2.1, placed.2.2.1⟩
    obtain ⟨length, unreleased, failed⟩ := waiting coordinated.placed
    rw [joined]
    refine coordinated_event coordinated ?_ rfl rfl rfl rfl unreleased (by simp) rfl (by simp)
      (fun _ working => working)
    have after : AskedAfter round (.asked (round + 1) :: state.trace) :=
      ⟨[], state.trace, rfl, failed⟩
    have stays : Unreleased (.asked (round + 1) :: state.trace) :=
      unreleased_cons unreleased (by simp)
    rcases place with place | place
    all_goals
      simp only [Placed, if_true, record, place]
      exact ⟨length, stays, failed_round_cons failed, .inr ⟨trivial, after⟩⟩

theorem caller_coordinated (taken : state.stepCaller position = some next) : Coordinated next := by
  unfold stepCaller at taken
  split at taken
  · rename_i found
    cases taken
    have present := present_of_alive coordinated found rfl
    have attends := coordinated.attends position
    rw [found] at attends
    refine coordinated_quiet coordinated (placed_of_callers coordinated.placed rfl rfl id rfl) rfl
      (fun caller => attends_set found attends fun _ => coordinated.attends caller) ?_ rfl
      (fun _ working => working)
    intro gone
    rw [show state.publicGone = true from gone] at present
    cases present
  · rename_i found
    cases taken
    have unjoined := coordinated.attends position
    rw [found] at unjoined
    have locked := join_coordinated coordinated (present_of_alive coordinated found rfl)
    have current := locked.current
    refine coordinated_told locked rfl (by split <;> exact found) rfl ⟨?_, ?_⟩ (mem_cons_self ..)
      ?_ ?_
    · revert current
      split <;> exact id
    · intro attempt member
      split at member
      · rcases mem_cons.mp member with same | before
        · cases same
        · exact unjoined attempt before
      · exact unjoined attempt member
    · rintro caller attempt other same
      cases same
      exact other rfl
    · intro caller attempt outcome same
      cases same
  · rename_i attempt found
    obtain ⟨outcome, ready, same⟩ := Option.map_eq_some_iff.mp taken
    cases same
    have joined := coordinated.attends position
    rw [found] at joined
    refine coordinated_told coordinated rfl found rfl joined trivial (by simp) ?_
    intro caller other received same
    cases same
    exact ready
  · cases taken

theorem step_coordinated {action : ShutdownAction} (taken : state.step action = some next) :
    Coordinated next := by
  have quiet : ∀ after : ShutdownState, after.progress = state.progress →
      after.supervisor = state.supervisor → after.trace = state.trace →
      (state.publicGone = true → after.publicGone = true) →
      (∀ caller, Attends state.trace caller after.callers[caller]?) →
      (after.publicGone = true → ∀ caller ∈ after.callers, caller.alive = false) →
      Coordinated after := by
    intro after progress supervisor trace stays attends gone
    refine coordinated_quiet coordinated
      (placed_of_callers coordinated.placed progress supervisor stays trace)
      (by rw [progress]) attends gone trace ?_
    rw [supervisor]
    exact fun _ working => working
  cases action with
  | call =>
    simp only [step] at taken
    split at taken
    · cases taken
    · rename_i present
      cases taken
      refine quiet _ rfl rfl rfl id ?_ fun gone => (present gone).elim
      intro caller
      have attends := coordinated.attends caller
      rw [List.getElem?_append]
      split
      · exact attends
      · rename_i beyond
        rw [getElem?_eq_none (Nat.not_lt.mp beyond)] at attends
        cases caller - state.callers.length <;> exact attends
  | caller position => exact caller_coordinated coordinated taken
  | dropCaller position =>
    simp only [step, dropCaller] at taken
    have drops : ∀ pc, state.callers[position]? = some pc →
        Coordinated (state.setCaller position .dropped) := by
      intro pc found
      refine quiet _ rfl rfl rfl id
        (fun caller => attends_set found trivial fun _ => coordinated.attends caller) ?_
      intro gone caller member
      rcases mem_or_eq_of_mem_set member with old | rfl
      · exact coordinated.gone gone caller old
      · rfl
    split at taken
    · rename_i found
      cases taken
      exact drops _ found
    · rename_i found
      cases taken
      exact drops _ found
    · cases taken
  | requestShutdown =>
    cases taken
    exact quiet _ rfl rfl rfl id coordinated.attends coordinated.gone
  | dropHandles =>
    simp only [step] at taken
    split at taken
    · cases taken
    · rename_i idle
      cases taken
      refine quiet _ rfl rfl rfl (fun _ => rfl) coordinated.attends ?_
      intro _ caller member
      cases alive : caller.alive with
      | false => rfl
      | true => exact (idle (any_eq_true.mpr ⟨caller, member, alive⟩)).elim
  | supervisor input => exact supervisor_coordinated coordinated taken

end

end Steps

/-- How the calls and the supervisor share the results. -/
structure ShutdownLaws (state : ShutdownState) : Prop where
  bounds : state.progress.attempt ≤ state.progress.results.length ∧
    state.progress.results.length ≤ state.progress.attempt + 1
  /-- The write of a supervisor that panicked at this moment is in bounds. -/
  inBounds : ∃ after, state.progress.publishPanic = some after
  /-- The results are the outcomes of the rounds, each written once and at its own index. -/
  written : publications state.trace = ownWrites state.progress.results
  /-- A release that has ended is published, or the supervisor is about to do it. -/
  settled : ∀ round result, ShutdownEvent.ended round result ∈ state.trace →
    (∃ outcome, ShutdownEvent.published round round outcome ∈ state.trace) ∨
      state.supervisor.unpublished = some round
  /-- A caller gets what was written for the attempt it joined. -/
  received : ∀ later earlier caller attempt outcome,
    state.trace = later ++ .received caller attempt outcome :: earlier →
    ShutdownEvent.joined caller attempt ∈ earlier ∧
      state.progress.results[attempt]? = some outcome
  /-- A caller joins one attempt only, the current one. -/
  joined : ∀ later earlier caller attempt,
    state.trace = later ++ .joined caller attempt :: earlier →
    CurrentAttempt attempt earlier ∧ ∀ other, ShutdownEvent.joined caller other ∉ earlier
  /-- The release of a later round is called only after a call asked for it, which it did
  after the release of the round before had failed and been published. -/
  retried : ∀ later earlier round,
    state.trace = later ++ .attempted (round + 1) :: earlier → AskedAfter round earlier
  /-- After a release has succeeded no release is called and no other round is published. -/
  final : ∀ later earlier round, state.trace = later ++ .ended round .released :: earlier →
    (∀ other, ShutdownEvent.attempted other ∉ later) ∧
      ∀ other index outcome, ShutdownEvent.published other index outcome ∈ later →
        other = round

variable {state : ShutdownState}

theorem Coordinated.in_bounds (coordinated : Coordinated state) :
    ∃ after, state.progress.publishPanic = some after := by
  have bounds := coordinated.bounds
  unfold publishPanic
  split
  · exact ⟨_, rfl⟩
  · rw [if_pos (by omega)]
    exact ⟨_, rfl⟩

theorem Coordinated.final (coordinated : Coordinated state) {later earlier : List ShutdownEvent}
    {round : Nat} (split : state.trace = later ++ .ended round .released :: earlier) :
    (∀ other, ShutdownEvent.attempted other ∉ later) ∧
      ∀ other index outcome, ShutdownEvent.published other index outcome ∈ later →
        other = round := by
  -- an event of `later` is justified by a history that holds the successful release
  have before : ∀ event ∈ later, ∃ rest, Justified event rest ∧
      ShutdownEvent.ended round .released ∈ rest := by
    intro event member
    obtain ⟨newer, older, rfl⟩ := append_of_mem member
    have position : state.trace =
        newer ++ event :: (older ++ .ended round .released :: earlier) := by
      rw [split, append_assoc, cons_append]
    exact ⟨_, coordinated.chronicle.justified_at position, mem_append_right _ (mem_cons_self ..)⟩
  refine ⟨?_, ?_⟩
  · intro other member
    obtain ⟨rest, justified, released⟩ := before _ member
    cases other with
    | zero => exact justified round released
    | succ previous => exact justified.1 round released
  · intro other index outcome member
    obtain ⟨rest, justified, released⟩ := before _ member
    exact (justified.2 round released).symm

theorem Coordinated.laws (coordinated : Coordinated state) :
    ShutdownLaws state where
  bounds := coordinated.bounds
  inBounds := coordinated.in_bounds
  written := coordinated.written
  settled := coordinated.settled
  received := fun _ _ caller attempt outcome split =>
    ⟨coordinated.chronicle.justified_at split,
      coordinated.received caller attempt outcome (by rw [split]; simp)⟩
  joined := fun _ _ _ _ split => coordinated.chronicle.justified_at split
  retried := fun _ _ _ split => (coordinated.chronicle.justified_at split).2
  final := fun _ _ _ split => coordinated.final split

theorem Coordinated.run (coordinated : Coordinated state) {actions : List ShutdownAction}
    {final : ShutdownState} (reached : runActions step state actions = some final) :
    Coordinated final :=
  run_preserves (fun holds => step_coordinated holds) coordinated reached

section Service

variable {σ : Type}

def Stands : SupervisorPc → ReleasePc → Prop
  | .release, pc => ∃ round, pc = .releasing round
  | .waitRetry, pc => ∃ round, pc = .checkGone round
  | .stopped, pc => pc = .stopped
  | _, pc => pc = .draining

/-- The shutdown protocol at a moment of the service, as the supervisor sees both. -/
structure Supervises (core : Core σ) (pc : SupervisorPc) (state : ShutdownState) : Prop where
  stands : Stands pc state.supervisor
  shuttingDown : state.shuttingDown = core.shuttingDown
  publicGone : state.publicGone = core.publicGone
  retryRequested : pc = .waitRetry → state.progress.retryRequested = core.retryRequested
  requested : pc ≠ .waitRequest → core.shuttingDown = true

/-- The supervisor of the service takes the steps of the protocol: each of its own is a run of
the other's, after which the two agree again. -/
theorem supervisor_simulated {config : Config} {core after : Core σ} {input : Input}
    {pc next : SupervisorPc} (coordinated : Coordinated state) (agrees : Supervises core pc state)
    (moved : SupervisorStep config core input pc after next) :
    ∃ (inputs : List ReleaseInput) (reached : ShutdownState),
      runActions step state (inputs.map .supervisor) = some reached ∧
        Supervises after next reached := by
  obtain ⟨stands, shutting, gone, retry, requested⟩ := agrees
  have bounds := coordinated.in_bounds
  obtain ⟨progress, shuttingDown, publicGone, closeError, supervisor, callers, trace⟩ := state
  cases moved with
  | asked ready down => exact ⟨[], _, rfl, stands, shutting, gone, (by simp), fun _ => down⟩
  | locks | unlocks | schedulerGone | landed | closes | aborts =>
    exact ⟨[], _, rfl, stands, shutting, gone, (by simp), fun _ => requested (by simp)⟩
  | unpublished | joins | aborted =>
    cases stands
    cases shutting.trans (requested (by simp))
    exact ⟨[{}], _, rfl, ⟨0, rfl⟩, shutting, gone, (by simp), fun _ => requested (by simp)⟩
  | releases =>
    obtain ⟨round, rfl⟩ := stands
    exact ⟨[{}, {}, {}], _, rfl, rfl, shutting, gone, (by simp), fun _ => requested (by simp)⟩
  | releaseFails =>
    obtain ⟨round, rfl⟩ := stands
    exact ⟨[{ release := .failed "" }, {}, {}], _, rfl, ⟨round, rfl⟩, shutting, gone,
      fun _ => rfl, fun _ => requested (by simp)⟩
  | panics =>
    obtain ⟨round, rfl⟩ := stands
    obtain ⟨written, appended⟩ := bounds
    refine ⟨[{ release := .panicked }, {}], ShutdownState.record ⟨written, shuttingDown,
      publicGone, closeError, .stopped, callers, .ended round .panicked :: trace⟩ (.published
        round progress.attempt panicOutcome), ?_, rfl, shutting, gone, (by simp),
      fun _ => requested (by simp)⟩
    simp only [List.map, runActions, step, stepSupervisor, superviseAt, record, appended,
      Option.map]
  | abandoned left =>
    obtain ⟨round, rfl⟩ := stands
    cases gone.trans left
    exact ⟨[{}], _, rfl, rfl, shutting, gone, (by simp), fun _ => requested (by simp)⟩
  | retries present asked =>
    obtain ⟨round, rfl⟩ := stands
    obtain ⟨attempt, results, retryable, again⟩ := progress
    cases gone.trans present
    cases (retry rfl).trans asked
    exact ⟨[{}, {}], _, rfl, ⟨round + 1, rfl⟩, shutting, gone, (by simp),
      fun _ => requested (by simp)⟩

end Service

theorem shutdown_results_shared (actions : List ShutdownAction) (state : ShutdownState)
    (reached : runActions ShutdownState.step ShutdownState.new actions = some state) :
    ShutdownLaws state :=
  (coordinated_new.run reached).laws

/-- Two calls share a release that fails; one of them is dropped.  A third asks for another
release, which succeeds, and a fourth finds it done. -/
def sampleShutdownCalls : List ShutdownAction :=
  [.call, .call, .caller 0, .caller 0, .caller 1, .caller 1, .supervisor {},
    .supervisor { release := .failed "locked" }, .supervisor {}, .supervisor {}, .caller 0,
    .dropCaller 1, .call, .caller 2, .caller 2, .supervisor {}, .supervisor {}, .supervisor {},
    .supervisor {}, .supervisor {}, .caller 2, .call, .caller 3, .caller 3, .caller 3]

theorem shutdown_results_shared_sample :
    ∃ state, runActions ShutdownState.step ShutdownState.new sampleShutdownCalls = some state ∧
      state.callers = [.returned 0 (.storeUnavailable "locked"), .dropped, .returned 1 .complete,
        .returned 1 .complete] ∧ ShutdownLaws state :=
  run_shows (by decide) fun state reached _ =>
    shutdown_results_shared sampleShutdownCalls state reached

end TaskService.Service
