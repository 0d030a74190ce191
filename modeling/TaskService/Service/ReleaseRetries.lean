import TaskService.Service.ShutdownProgress
import TaskService.Store.SqliteTaskStore

/-!
# Retries of an owner release

`release_owner` gives up epoch, lock and outbox flag before it unlocks the file, so an error
of the unlock is reported for an owner that is already gone.  The guard stays armed and the
shutdown supervisor tries again, as it does after an error that left the owner in place, but
every further attempt ends with an owner conflict.
-/

namespace TaskService.Service

open Library Model Store

/-- How a call of `release_owner` runs: the operation slot or the blocking worker fails and
the operation is not executed, or it is executed and the unlock has an outcome. -/
inductive ReleaseRun where
  | unavailable (message : String)
  | executed (unlock : Except StoreError Unit)
  deriving DecidableEq

def ReleaseRun.works : ReleaseRun → Bool
  | .executed (.ok ()) => true
  | .executed (.error _) | .unavailable _ => false

def ReleaseRun.unlockFails : ReleaseRun → Bool
  | .executed (.error _) => true
  | .executed (.ok ()) | .unavailable _ => false

def releaseOwnerRun (store : SqliteTaskStore) (epoch : Nat) :
    ReleaseRun → SqliteTaskStore × Except StoreError Unit
  | .unavailable message => (store, .error (.failure message))
  | .executed unlock => store.releaseOwner epoch unlock

def Owns (store : SqliteTaskStore) (epoch : Nat) : Prop :=
  store.epoch = some epoch ∧ store.lockHeld = true

structure SameOwner (before after : SqliteTaskStore) : Prop where
  epoch : after.epoch = before.epoch
  lockHeld : after.lockHeld = before.lockHeld
  outboxEnabled : after.outboxEnabled = before.outboxEnabled

theorem SameOwner.refl (store : SqliteTaskStore) : SameOwner store store :=
  ⟨rfl, rfl, rfl⟩

theorem SameOwner.trans {first second third : SqliteTaskStore} (left : SameOwner first second)
    (right : SameOwner second third) : SameOwner first third :=
  ⟨right.epoch.trans left.epoch, right.lockHeld.trans left.lockHeld,
    right.outboxEnabled.trans left.outboxEnabled⟩

variable {epoch : Nat}

theorem SameOwner.owns {before after : SqliteTaskStore} (same : SameOwner before after)
    (owns : Owns before epoch) : Owns after epoch :=
  ⟨same.epoch.trans owns.1, same.lockHeld.trans owns.2⟩

/-- The outcomes of a release: the owner has given everything up, whatever the unlock says,
or nothing has changed and an error is returned. -/
theorem release_owner_run_cases (store : SqliteTaskStore) (epoch : Nat) (run : ReleaseRun) :
    (∃ unlock, run = .executed unlock ∧ Owns store epoch ∧ releaseOwnerRun store epoch run =
      ({ store with lockHeld := false, epoch := none, outboxEnabled := false }, unlock)) ∨
    ((∀ unlock, run = .executed unlock → ¬ Owns store epoch) ∧
      ∃ error, releaseOwnerRun store epoch run = (store, .error error)) := by
  cases run with
  | unavailable message => exact .inr ⟨(fun unlock same => by cases same), _, rfl⟩
  | executed unlock =>
    simp only [releaseOwnerRun, SqliteTaskStore.releaseOwner]
    by_cases current : store.epoch = some epoch
    · by_cases held : store.lockHeld = true
      · left
        refine ⟨unlock, rfl, ⟨current, held⟩, ?_⟩
        simp [current, held]
      · right
        refine ⟨fun _ _ owns => held owns.2, .ownerConflict, ?_⟩
        simp [current, held]
    · right
      refine ⟨fun _ _ owns => current owns.1, .ownerConflict, ?_⟩
      simp [current]

theorem release_error_same_iff (store : SqliteTaskStore) (epoch : Nat) (run : ReleaseRun) :
    ((∃ error, (releaseOwnerRun store epoch run).2 = .error error) →
      SameOwner store (releaseOwnerRun store epoch run).1) ↔
      ¬ (Owns store epoch ∧ run.unlockFails = true) := by
  rcases release_owner_run_cases store epoch run with
    ⟨unlock, rfl, owns, released⟩ | ⟨idle, error, refused⟩
  · rw [released]
    cases unlock with
    | ok value => simp [ReleaseRun.unlockFails]
    | error error =>
      refine iff_of_false ?_ (fun free => free ⟨owns, rfl⟩)
      intro same
      have lost := (same ⟨error, rfl⟩).epoch
      rw [owns.1] at lost
      cases lost
  · rw [refused]
    refine iff_of_true (fun _ => SameOwner.refl store) ?_
    rintro ⟨owns, fails⟩
    cases run with
    | unavailable message => cases fails
    | executed unlock => exact idle unlock rfl owns

structure OwnerReleaseGuard where
  owner : Option Nat
  deriving DecidableEq

structure GuardRelease where
  guard : OwnerReleaseGuard
  store : SqliteTaskStore
  result : Except StoreError Unit

def OwnerReleaseGuard.release (guard : OwnerReleaseGuard) (store : SqliteTaskStore)
    (run : ReleaseRun) : GuardRelease :=
  match guard.owner with
  | none => { guard, store, result := .ok () }
  | some epoch =>
      { guard := if (releaseOwnerRun store epoch run).2.isOk then { owner := none } else guard
        store := (releaseOwnerRun store epoch run).1
        result := (releaseOwnerRun store epoch run).2 }

section

variable {guard : OwnerReleaseGuard} {epoch : Nat} (armed : guard.owner = some epoch)
include armed

theorem guard_release_armed (store : SqliteTaskStore) (run : ReleaseRun) :
    guard.release store run =
      { guard := if (releaseOwnerRun store epoch run).2.isOk then { owner := none } else guard
        store := (releaseOwnerRun store epoch run).1
        result := (releaseOwnerRun store epoch run).2 } := by
  unfold OwnerReleaseGuard.release
  rw [armed]

variable {run : ReleaseRun} {store : SqliteTaskStore} {attempts : List ReleaseRun}
  {final : OwnerReleaseGuard × SqliteTaskStore}

theorem guard_release_succeeds (owns : Owns store epoch) (works : run.works = true) :
    (guard.release store run).result = .ok () ∧ (guard.release store run).guard.owner = none := by
  have executed : run = .executed (.ok ()) := by
    cases run with
    | unavailable message => cases works
    | executed unlock =>
      cases unlock with
      | ok value => rfl
      | error error => cases works
  rcases release_owner_run_cases store epoch run with
    ⟨unlock, same, _, released⟩ | ⟨idle, _⟩
  · cases executed.symm.trans same
    rw [guard_release_armed armed, released]
    exact ⟨rfl, rfl⟩
  · exact (idle _ executed owns).elim

theorem guard_release_failed (owns : Owns store epoch)
    (failed : ∃ error, (guard.release store run).result = .error error) :
    (guard.release store run).guard = guard ∧
      ((run.unlockFails = false ∧ SameOwner store (guard.release store run).store) ∨
        (run.unlockFails = true ∧ ¬ Owns (guard.release store run).store epoch)) := by
  obtain ⟨error, failed⟩ := failed
  rw [guard_release_armed armed] at failed ⊢
  simp only at failed ⊢
  rcases release_owner_run_cases store epoch run with
    ⟨unlock, rfl, _, released⟩ | ⟨idle, other, refused⟩
  · rw [released] at failed ⊢
    simp only at failed ⊢
    subst failed
    refine ⟨rfl, .inr ⟨rfl, ?_⟩⟩
    rintro ⟨current, _⟩
    cases current
  · rw [refused]
    refine ⟨rfl, .inl ⟨?_, SameOwner.refl store⟩⟩
    cases run with
    | unavailable message => rfl
    | executed unlock => exact (idle unlock rfl owns).elim

theorem guard_release_disowned (disowned : ¬ Owns store epoch) (run : ReleaseRun) :
    ∃ error, guard.release store run = { guard, store, result := .error error } := by
  rcases release_owner_run_cases store epoch run with ⟨_, _, owns, _⟩ | ⟨_, error, refused⟩
  · exact (disowned owns).elim
  · refine ⟨error, ?_⟩
    rw [guard_release_armed armed, refused]
    rfl

def attemptStep (state : OwnerReleaseGuard × SqliteTaskStore) (run : ReleaseRun) :
    Option (OwnerReleaseGuard × SqliteTaskStore) :=
  some ((state.1.release state.2 run).guard, (state.1.release state.2 run).store)

def AttemptFails (state : OwnerReleaseGuard × SqliteTaskStore) (run : ReleaseRun) : Prop :=
  ∃ error, (state.1.release state.2 run).result = .error error

theorem disowned_attempts (disowned : ¬ Owns store epoch)
    (reached : runActions attemptStep (guard, store) attempts = some final) :
    final = (guard, store) := by
  induction attempts with
  | nil =>
    cases reached
    rfl
  | cons run rest ih =>
    obtain ⟨next, taken, remaining⟩ := run_cons_eq_some.mp reached
    obtain ⟨error, refused⟩ := guard_release_disowned armed disowned run
    simp only [attemptStep, refused] at taken
    cases taken
    exact ih remaining

theorem retry_succeeds_iff (owns : Owns store epoch)
    (failed : Guarded attemptStep AttemptFails (guard, store) attempts)
    (reached : runActions attemptStep (guard, store) attempts = some final)
    (works : run.works = true) :
    ((final.1.release final.2 run).result = .ok () ∧
      (final.1.release final.2 run).guard.owner = none) ↔
      ∀ attempt ∈ attempts, attempt.unlockFails = false := by
  induction attempts generalizing store with
  | nil =>
    cases reached
    exact iff_of_true (guard_release_succeeds armed owns works) fun attempt member => by
      cases member
  | cons attempt rest ih =>
    obtain ⟨next, taken, remaining⟩ := run_cons_eq_some.mp reached
    cases taken
    have later := failed.2 _ rfl
    obtain ⟨sameGuard, ⟨calm, kept⟩ | ⟨unlock, disowned⟩⟩ :=
      guard_release_failed armed owns failed.1
    · simp only [sameGuard] at remaining later
      have ended := ih (kept.owns owns) later remaining
      rw [ended, List.forall_mem_cons]
      exact ⟨fun all => ⟨calm, all⟩, And.right⟩
    · simp only [sameGuard] at remaining
      have stays := disowned_attempts armed disowned remaining
      refine iff_of_false ?_ ?_
      · rintro ⟨succeeded, _⟩
        obtain ⟨error, refused⟩ := guard_release_disowned armed disowned run
        rw [stays, refused] at succeeded
        cases succeeded
      · intro all
        rw [all attempt (List.mem_cons_self ..)] at unlock
        cases unlock

end

/-- Store, guard and shutdown of a started service, with the releases that dropped guards
have queued on the cleanup worker. -/
structure OwnedShutdown where
  shutdown : ShutdownState
  store : SqliteTaskStore
  ownerGuard : Option OwnerReleaseGuard
  cleanup : List Nat

inductive OwnedAction where
  | shutdown (action : ShutdownAction)
  | supervise (input : ReleaseInput) (run : ReleaseRun)
  | cleanUp (run : ReleaseRun)

namespace OwnedShutdown

def started (store : SqliteTaskStore) (epoch : Nat) : OwnedShutdown :=
  { shutdown := ShutdownState.new
    store := store
    ownerGuard := some { owner := some epoch }
    cleanup := [] }

variable (state : OwnedShutdown)

def dropGuard : OwnedShutdown :=
  { state with
    ownerGuard := none
    cleanup := state.cleanup ++ (state.ownerGuard.bind OwnerReleaseGuard.owner).toList }

def releaseEnd : Except StoreError Unit → ReleaseEnd
  | .ok () => .released
  | .error error => .failed error.text

def noGuard : StoreError := .failure "started service has no owner release guard"

def releaseRound (run : ReleaseRun) : OwnedShutdown × Except StoreError Unit :=
  match state.ownerGuard with
  | none => (state, .error noGuard)
  | some guard =>
      ({ state with
          store := (guard.release state.store run).store
          ownerGuard := some (guard.release state.store run).guard },
        (guard.release state.store run).result)

def supervise (input : ReleaseInput) (run : ReleaseRun) : Option OwnedShutdown :=
  match state.shutdown.supervisor with
  | .releasing _ =>
      (state.shutdown.step (.supervisor
        { input with release := releaseEnd (state.releaseRound run).2 })).map fun shutdown =>
          { (state.releaseRound run).1 with shutdown := shutdown }
  | .checkGone _ =>
      (state.shutdown.step (.supervisor input)).map fun shutdown =>
        if state.shutdown.publicGone then { state.dropGuard with shutdown := shutdown }
        else { state with shutdown := shutdown }
  | .panicked _ =>
      (state.shutdown.step (.supervisor input)).map fun shutdown =>
        { state.dropGuard with shutdown := shutdown }
  | _ =>
      (state.shutdown.step (.supervisor input)).map fun shutdown =>
        { state with shutdown := shutdown }

def step : OwnedAction → Option OwnedShutdown
  | .shutdown (.supervisor _) => none
  | .shutdown action =>
      (state.shutdown.step action).map fun shutdown => { state with shutdown := shutdown }
  | .supervise input run => state.supervise input run
  | .cleanUp run =>
      match state.cleanup with
      | [] => none
      | epoch :: rest =>
          -- The worker logs an error and does not try again.
          some { state with
            store := (releaseOwnerRun state.store epoch run).1
            cleanup := rest }

end OwnedShutdown

def OwnedAction.Unlocks : OwnedAction → Prop
  | .shutdown _ => True
  | .supervise _ run | .cleanUp run => run.unlockFails = false

instance : DecidablePred OwnedAction.Unlocks
  | .shutdown _ => isTrue trivial
  | .supervise _ run | .cleanUp run => inferInstanceAs (Decidable (run.unlockFails = false))

/-- As long as the guard is armed, it is armed for the epoch the service was started with, no
release has been queued, and the store is owned as it was then. -/
structure StillOwned (epoch : Nat) (original : SqliteTaskStore) (state : OwnedShutdown) :
    Prop where
  armed : ∀ guard current, state.ownerGuard = some guard → guard.owner = some current →
    current = epoch ∧ state.cleanup = [] ∧ SameOwner original state.store
  dropped : state.ownerGuard = none ∨ state.cleanup = []

namespace StillOwned

variable {epoch : Nat} {original : SqliteTaskStore} {state : OwnedShutdown}

theorem of_shutdown (owned : StillOwned epoch original state) (shutdown : ShutdownState) :
    StillOwned epoch original { state with shutdown := shutdown } :=
  ⟨owned.armed, owned.dropped⟩

theorem of_drop (shutdown : ShutdownState) :
    StillOwned epoch original { state.dropGuard with shutdown := shutdown } :=
  ⟨(fun _ _ absent => by cases absent), .inl rfl⟩

theorem of_release (owned : StillOwned epoch original state) (owns : Owns original epoch)
    {run : ReleaseRun} (unlocks : run.unlockFails = false) :
    StillOwned epoch original (state.releaseRound run).1 := by
  unfold OwnedShutdown.releaseRound
  cases held : state.ownerGuard with
  | none => exact owned
  | some guard =>
    have settled : state.cleanup = [] := by
      rcases owned.dropped with absent | empty
      · cases absent.symm.trans held
      · exact empty
    refine ⟨?_, .inr settled⟩
    intro after current same armedAfter
    cases same
    cases armed : guard.owner with
    | none =>
      simp only [OwnerReleaseGuard.release, armed] at armedAfter
      cases armedAfter
    | some before =>
      obtain ⟨rfl, _, same⟩ := owned.armed guard before held armed
      have here : Owns state.store before := same.owns owns
      cases answered : (guard.release state.store run).result with
      | ok value =>
        rw [guard_release_armed armed] at answered armedAfter
        simp only at answered
        simp only [answered, Except.isOk, Except.toBool, if_true] at armedAfter
        cases armedAfter
      | error error =>
        obtain ⟨sameGuard, ⟨_, kept⟩ | ⟨fails, _⟩⟩ :=
          guard_release_failed armed here ⟨error, answered⟩
        · rw [sameGuard, armed] at armedAfter
          cases armedAfter
          exact ⟨rfl, settled, same.trans kept⟩
        · rw [unlocks] at fails
          cases fails

theorem of_step (owned : StillOwned epoch original state) (owns : Owns original epoch)
    {action : OwnedAction} {next : OwnedShutdown} (unlocks : action.Unlocks)
    (taken : state.step action = some next) : StillOwned epoch original next := by
  cases action with
  | shutdown inner =>
    cases inner with
    | supervisor input => cases taken
    | requestShutdown =>
      cases taken
      exact owned.of_shutdown _
    | call | caller | dropCaller | dropHandles =>
      obtain ⟨shutdown, _, rfl⟩ := Option.map_eq_some_iff.mp taken
      exact owned.of_shutdown shutdown
  | supervise input run =>
    simp only [OwnedShutdown.step, OwnedShutdown.supervise] at taken
    split at taken
    · obtain ⟨shutdown, _, rfl⟩ := Option.map_eq_some_iff.mp taken
      exact (owned.of_release owns unlocks).of_shutdown shutdown
    · obtain ⟨shutdown, _, rfl⟩ := Option.map_eq_some_iff.mp taken
      split
      · exact of_drop shutdown
      · exact owned.of_shutdown shutdown
    · obtain ⟨shutdown, _, rfl⟩ := Option.map_eq_some_iff.mp taken
      exact of_drop shutdown
    · obtain ⟨shutdown, _, rfl⟩ := Option.map_eq_some_iff.mp taken
      exact owned.of_shutdown shutdown
  | cleanUp run =>
    simp only [OwnedShutdown.step] at taken
    split at taken
    · cases taken
    · rename_i queued rest listed
      cases taken
      have absent : state.ownerGuard = none := by
        rcases owned.dropped with absent | empty
        · exact absent
        · rw [empty] at listed
          cases listed
      refine ⟨?_, .inl absent⟩
      intro guard current present
      cases absent.symm.trans present

end StillOwned

theorem round_succeeds {state next : OwnedShutdown} {guard : OwnerReleaseGuard} {round : Nat}
    {input : ReleaseInput} {run : ReleaseRun}
    (releasing : state.shutdown.supervisor = .releasing round)
    (held : state.ownerGuard = some guard) (armed : guard.owner = some epoch)
    (owns : Owns state.store epoch) (works : run.works = true)
    (taken : state.step (.supervise input run) = some next) :
    ShutdownEvent.ended round .released ∈ next.shutdown.trace ∧
      next.ownerGuard = some { owner := none } := by
  obtain ⟨succeeded, disarmed⟩ := guard_release_succeeds armed owns works
  have answer : (state.releaseRound run).2 = .ok () := by
    simp only [OwnedShutdown.releaseRound, held]
    exact succeeded
  have after : (state.releaseRound run).1.ownerGuard = some { owner := none } := by
    simp only [OwnedShutdown.releaseRound, held]
    exact congrArg some (congrArg OwnerReleaseGuard.mk disarmed)
  simp only [OwnedShutdown.step, OwnedShutdown.supervise, releasing, answer] at taken
  obtain ⟨shutdown, moved, rfl⟩ := Option.map_eq_some_iff.mp taken
  refine ⟨?_, after⟩
  simp only [ShutdownState.step, ShutdownState.stepSupervisor, releasing,
    OwnedShutdown.releaseEnd] at moved
  cases moved
  exact List.mem_cons_self ..

/-- What a retry can rely on, where no unlock fails: an error means that the store is still
owned, and as long as the guard is armed the next attempt of the guard and of the supervisor
in which the operating system does not fail succeeds. -/
structure Retriable (original : SqliteTaskStore) (state : OwnedShutdown) : Prop where
  owner : ∀ guard current, state.ownerGuard = some guard → guard.owner = some current →
    SameOwner original state.store
  guard : ∀ guard current run, state.ownerGuard = some guard → guard.owner = some current →
    run.works = true → (guard.release state.store run).result = .ok () ∧
      (guard.release state.store run).guard.owner = none
  round : ∀ guard current number input run next,
    state.shutdown.supervisor = .releasing number → state.ownerGuard = some guard →
    guard.owner = some current → run.works = true →
    state.step (.supervise input run) = some next →
    ShutdownEvent.ended number .released ∈ next.shutdown.trace ∧
      next.ownerGuard = some { owner := none }

/-- For every owner state and every outcome of the call, an error leaves the ownership as it
was exactly when it is not the unlock of an owner that failed.  After any failed attempts of a
guard a further one succeeds exactly when none of them failed to unlock.  And in every run of
a started service in which no unlock fails, releases can be retried. -/
theorem failed_release_retriable (store : SqliteTaskStore) (epoch : Nat) :
    (∀ run,
      ((∃ error, (releaseOwnerRun store epoch run).2 = .error error) →
        SameOwner store (releaseOwnerRun store epoch run).1) ↔
        ¬ (Owns store epoch ∧ run.unlockFails = true)) ∧
    (∀ attempts final run, Owns store epoch →
      Guarded attemptStep AttemptFails ({ owner := some epoch }, store) attempts →
      runActions attemptStep ({ owner := some epoch }, store) attempts = some final →
      run.works = true →
      (((final.1.release final.2 run).result = .ok () ∧
        (final.1.release final.2 run).guard.owner = none) ↔
        ∀ attempt ∈ attempts, attempt.unlockFails = false)) ∧
    ∀ actions final, Owns store epoch →
      (∀ action ∈ actions, OwnedAction.Unlocks action) →
      runActions OwnedShutdown.step (.started store epoch) actions = some final →
      Retriable store final := by
  refine ⟨release_error_same_iff store epoch, ?_, ?_⟩
  · intro attempts final run owns failed reached works
    exact retry_succeeds_iff rfl owns failed reached works
  · intro actions final owns unlocks reached
    have owned : StillOwned epoch store final := @run_invariant _ _ OwnedShutdown.step
      (fun _ action => True ∧ action.Unlocks) (StillOwned epoch store)
      (fun met held taken => held.of_step owns met.2 taken) _ _ _
      ⟨by
        intro guard current held armed
        cases held
        cases armed
        exact ⟨rfl, rfl, SameOwner.refl store⟩, .inr rfl⟩
      (guarded_and_of_mem (guarded_of_always _ (fun _ _ => trivial) _ _) unlocks) reached
    refine ⟨?_, ?_, ?_⟩
    · intro guard current held armed
      exact (owned.armed guard current held armed).2.2
    · intro guard current run held armed works
      obtain ⟨rfl, _, same⟩ := owned.armed guard current held armed
      exact guard_release_succeeds armed (same.owns owns) works
    · intro guard current number input run next releasing held armed works taken
      obtain ⟨rfl, _, same⟩ := owned.armed guard current held armed
      exact round_succeeds releasing held armed (same.owns owns) works taken

section Samples

/-- A `shutdown` call whose release ends in one way, and a second call that asks for another
release. -/
def sampleShutdownTwice (first second : ReleaseRun) : List OwnedAction :=
  [.shutdown .call, .shutdown (.caller 0), .shutdown (.caller 0), .supervise {} first,
    .supervise {} first, .supervise {} first, .supervise {} first, .shutdown .call,
    .shutdown (.caller 1), .shutdown (.caller 1), .supervise {} first, .supervise {} first,
    .supervise {} second]

/-- The store could not be reached at first; the second release ends as released. -/
theorem failed_release_retriable_sample :
    ∃ final, runActions OwnedShutdown.step (.started SqliteTaskStore.sample 1)
        (sampleShutdownTwice (.unavailable "SQLite operation queue is closed")
          (.executed (.ok ()))) = some final ∧
      ShutdownEvent.ended 1 .released ∈ final.shutdown.trace ∧ final.store.epoch = none ∧
      Retriable SqliteTaskStore.sample final := by
  refine ⟨_, rfl, by decide, rfl, ?_⟩
  refine (failed_release_retriable SqliteTaskStore.sample 1).2.2 (sampleShutdownTwice
    (.unavailable "SQLite operation queue is closed") (.executed (.ok ()))) _ ⟨rfl, rfl⟩ ?_ rfl
  decide

/-- The unlock fails once; the second release, in which nothing fails, ends with an owner
conflict, the owner is gone and the guard is still armed. -/
theorem unlock_failure_blocks_retry :
    ∃ final, runActions OwnedShutdown.step (.started SqliteTaskStore.sample 1)
        (sampleShutdownTwice (.executed (.error (.failure "unlock"))) (.executed (.ok ()))) =
          some final ∧
      ShutdownEvent.ended 0 (.failed (StoreError.failure "unlock").text) ∈ final.shutdown.trace ∧
      ShutdownEvent.ended 1 (.failed StoreError.ownerConflict.text) ∈ final.shutdown.trace ∧
      final.store.epoch = none ∧ final.store.lockHeld = false ∧
      final.ownerGuard = some { owner := some 1 } := by
  refine ⟨_, rfl, ?_, ?_, rfl, rfl, rfl⟩
  · decide
  · decide

end Samples

end TaskService.Service
