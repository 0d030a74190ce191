import TaskService.Store.Ownership

/-!
# Owner release guards

A service keeps the epoch it has acquired in a guard.  `release` disarms the guard only when
the store confirms it; a dropped guard that is still armed queues a release on the cleanup
worker, and a `release` whose future is dropped may still reach the store.  So releases for
one epoch can arrive late, more than once and in any order, also after a later owner has
acquired the store.
-/

namespace TaskService.Service

open Library Model Store

/-- The owner calls of a kind of store.  `Place` names the store object a call goes through. -/
structure OwnerApi (State Action Place AcquireInput ReleaseInput : Type) where
  step : State → Action → Option State
  view : EpochView State Action
  acquire : Place → AcquireInput → Action
  release : Place → Nat → ReleaseInput → Action
  confirms : State → Place → Nat → ReleaseInput → Bool

structure ReleaseGuard (Place : Type) where
  place : Place
  epoch : Nat
  armed : Bool

structure ReleaseJob (Place : Type) where
  place : Place
  epoch : Nat

structure GuardState (State Place : Type) where
  stores : State
  guards : List (ReleaseGuard Place)
  jobs : List (ReleaseJob Place)

inductive GuardAction (Action Place AcquireInput ReleaseInput : Type) where
  | acquire (place : Place) (input : AcquireInput)
  | release (guard : Nat) (input : ReleaseInput)
  | abandonRelease (guard : Nat)
  | dropGuard (guard : Nat)
  | runJob (job : Nat) (input : ReleaseInput)
  | direct (action : Action)

section Guards

variable {State Action Place AcquireInput ReleaseInput : Type}
  (api : OwnerApi State Action Place AcquireInput ReleaseInput)

def ReleaseGuard.job (guard : ReleaseGuard Place) : ReleaseJob Place :=
  { place := guard.place, epoch := guard.epoch }

def ReleaseGuard.disarmed (guard : ReleaseGuard Place) : ReleaseGuard Place :=
  { guard with armed := false }

def newGuards (stores : State) (place : Place) (input : AcquireInput) :
    List (ReleaseGuard Place) :=
  match api.view.taken stores (api.acquire place input) with
  | some epoch => [{ place := place, epoch := epoch, armed := true }]
  | none => []

def guardRelease (state : GuardState State Place) (index : Nat) (guard : ReleaseGuard Place)
    (input : ReleaseInput) : Option (GuardState State Place) :=
  if guard.armed then
    (api.step state.stores (api.release guard.place guard.epoch input)).map fun stores =>
      { state with
        stores := stores
        guards :=
          if api.confirms state.stores guard.place guard.epoch input then
            state.guards.set index guard.disarmed
          else state.guards }
  else some state

def guardStep (state : GuardState State Place) :
    GuardAction Action Place AcquireInput ReleaseInput → Option (GuardState State Place)
  | .acquire place input =>
      (api.step state.stores (api.acquire place input)).map fun stores =>
        { state with
          stores := stores
          guards := state.guards ++ newGuards api state.stores place input }
  | .release index input =>
      state.guards[index]?.bind fun guard => guardRelease api state index guard input
  | .abandonRelease index =>
      -- The future is gone, its store call is not; the guard stays armed.
      state.guards[index]?.bind fun guard =>
        if guard.armed then some { state with jobs := state.jobs ++ [guard.job] } else none
  | .dropGuard index =>
      state.guards[index]?.map fun guard =>
        if guard.armed then
          { state with
            guards := state.guards.set index guard.disarmed
            jobs := state.jobs ++ [guard.job] }
        else state
  | .runJob index input =>
      state.jobs[index]?.bind fun job =>
        (api.step state.stores (api.release job.place job.epoch input)).map fun stores =>
          { state with stores := stores, jobs := state.jobs.eraseIdx index }
  | .direct action =>
      (api.step state.stores action).map fun stores => { state with stores := stores }

def GuardState.storeCall (state : GuardState State Place) :
    GuardAction Action Place AcquireInput ReleaseInput → Option Action
  | .acquire place input => some (api.acquire place input)
  | .release index input =>
      state.guards[index]?.bind fun guard =>
        if guard.armed then some (api.release guard.place guard.epoch input) else none
  | .runJob index input =>
      state.jobs[index]?.map fun job => api.release job.place job.epoch input
  | .direct action => some action
  | .abandonRelease _ | .dropGuard _ => none

def guardView : EpochView (GuardState State Place)
    (GuardAction Action Place AcquireInput ReleaseInput) :=
  api.view.pull GuardState.stores (GuardState.storeCall api)

def GuardState.initial (stores : State) : GuardState State Place :=
  { stores := stores, guards := [], jobs := [] }

theorem guard_projects :
    Projects (guardStep api) api.step GuardState.stores (GuardState.storeCall api) := by
  refine ⟨?_, ?_⟩
  · intro state action next call stepped chosen
    cases action with
    | acquire | direct =>
      cases chosen
      obtain ⟨stores, moved, rfl⟩ := Option.map_eq_some_iff.mp stepped
      exact moved
    | release =>
      obtain ⟨guard, found, released⟩ := Option.bind_eq_some_iff.mp stepped
      simp only [GuardState.storeCall, found, Option.bind_some] at chosen
      unfold guardRelease at released
      split at chosen
      · rename_i armed
        cases chosen
        rw [if_pos armed] at released
        obtain ⟨stores, moved, rfl⟩ := Option.map_eq_some_iff.mp released
        exact moved
      · cases chosen
    | abandonRelease | dropGuard => cases chosen
    | runJob =>
      obtain ⟨job, found, ran⟩ := Option.bind_eq_some_iff.mp stepped
      simp only [GuardState.storeCall, found, Option.map_some] at chosen
      cases chosen
      obtain ⟨stores, moved, rfl⟩ := Option.map_eq_some_iff.mp ran
      exact moved
  · intro state action next stepped chosen
    cases action with
    | acquire | direct => cases chosen
    | release =>
      obtain ⟨guard, found, released⟩ := Option.bind_eq_some_iff.mp stepped
      simp only [GuardState.storeCall, found, Option.bind_some] at chosen
      unfold guardRelease at released
      split at chosen
      · cases chosen
      · rename_i disarmed
        rw [if_neg disarmed] at released
        cases released
        rfl
    | abandonRelease index =>
      obtain ⟨guard, found, queued⟩ := Option.bind_eq_some_iff.mp stepped
      split at queued
      · cases queued
        rfl
      · cases queued
    | dropGuard index =>
      obtain ⟨guard, found, rfl⟩ := Option.map_eq_some_iff.mp stepped
      split
      · rfl
      · rfl
    | runJob =>
      obtain ⟨job, found, ran⟩ := Option.bind_eq_some_iff.mp stepped
      simp only [GuardState.storeCall, found, Option.map_some] at chosen
      cases chosen

end Guards

def memoryOwnerApi : OwnerApi MemoryTaskStore OwnerCall Unit Unit Unit :=
  { step := MemoryTaskStore.ownerStep
    view := memoryOwners
    acquire := fun _ _ => .acquire
    release := fun _ epoch _ => .release epoch
    confirms := fun store _ epoch _ => (store.releaseOwner epoch).2.isOk }

def sqliteOwnerApi :
    OwnerApi SqliteFile SqliteOwnerCall Nat (LockAttempt × Option EpochFault)
      (Except StoreError Unit) :=
  { step := SqliteFile.ownerStep
    view := sqliteOwners
    acquire := fun index input => .acquire index input.1 input.2
    release := .release
    confirms := fun file index epoch unlock =>
      (file.handleAt index).any fun handle =>
        ((file.storeOf handle).releaseOwner epoch unlock).2.isOk }

/-- Whatever guards, dropped releases and cleanup jobs do to a memory store or to the objects
opened on a SQLite file: at most one epoch is held, an epoch is granted only while none is
held and exceeds all earlier ones, and a release of one epoch leaves every other one held. -/
theorem ownership_fenced :
    (∀ historyCapacity maxPayloadBytes maxUnfinishedRecords actions final,
      runActions (guardStep memoryOwnerApi)
        (.initial (MemoryTaskStore.withLimits historyCapacity maxPayloadBytes
          maxUnfinishedRecords)) actions = some final →
      FencingLaws (guardStep memoryOwnerApi) (guardView memoryOwnerApi) final) ∧
    ∀ database actions final,
      runActions (guardStep sqliteOwnerApi)
        (.initial { database := database, handles := [] }) actions = some final →
      FencingLaws (guardStep sqliteOwnerApi) (guardView sqliteOwnerApi) final := by
  refine ⟨?_, ?_⟩
  · intro historyCapacity maxPayloadBytes maxUnfinishedRecords actions final reached
    refine (MemoryTaskStore.owners_fenced.pull (guard_projects memoryOwnerApi)).run_laws ?_ reached
    intro epoch current
    cases current
  · intro database actions final reached
    refine (SqliteFile.owners_fenced.pull (guard_projects sqliteOwnerApi)).run_laws ?_ reached
    refine ⟨Nat.zero_le _, ?_⟩
    intro handle member
    cases member

section Samples

/-- A release future is dropped, then its guard: two releases of epoch 1 are on their way.
The first one arrives, epoch 2 is acquired, and the second one arrives late. -/
def lateRelease :
    List (GuardAction SqliteOwnerCall Nat (LockAttempt × Option EpochFault)
      (Except StoreError Unit)) :=
  [.direct .openFile, .acquire 0 (.granted, none), .abandonRelease 0, .dropGuard 0,
    .runJob 0 (.ok ()), .acquire 0 (.granted, none), .runJob 0 (.ok ())]

end Samples

theorem ownership_fenced_sample :
    ∃ final, runActions (guardStep sqliteOwnerApi)
        (.initial { database := Database.empty, handles := [] }) lateRelease = some final ∧
      (guardView sqliteOwnerApi).held final = [2] ∧
      FencingLaws (guardStep sqliteOwnerApi) (guardView sqliteOwnerApi) final :=
  ⟨_, rfl, rfl, ownership_fenced.2 Database.empty lateRelease _ rfl⟩

end TaskService.Service
