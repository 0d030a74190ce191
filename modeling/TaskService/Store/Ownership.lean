import TaskService.Library.Fencing
import TaskService.Library.ThreadPool
import TaskService.Store.MemoryTaskStore
import TaskService.Store.SqliteTaskStore

/-!
# Store ownership

Acquiring and releasing the ownership of a store, for the memory store and for all the
store objects that are ever opened on one SQLite file.  The objects of a file share its
metadata and compete for the lock file; an object that is closed, or whose process crashes,
gives up its lock.  Both are fenced by their epoch counters.
-/

namespace TaskService.Store

open Library Model List

inductive OwnerCall where
  | acquire
  | release (epoch : Nat)

def MemoryTaskStore.ownerStep (store : MemoryTaskStore) : OwnerCall → Option MemoryTaskStore
  | .acquire => some store.acquireOwner.1
  | .release epoch => some (store.releaseOwner epoch).1

def memoryOwners : EpochView MemoryTaskStore OwnerCall :=
  { held := fun store => store.state.ownerEpoch.toList
    taken := fun store call =>
      match call with
      | .acquire => store.acquireOwner.2.toOption
      | .release _ => none
    returned := fun _ call =>
      match call with
      | .acquire => none
      | .release epoch => some epoch }

namespace MemoryTaskStore

def OwnerCounted (store : MemoryTaskStore) : Prop :=
  ∀ epoch, store.state.ownerEpoch = some epoch → epoch ≤ store.state.lastOwnerEpoch

theorem acquire_owner_cases (store : MemoryTaskStore) :
    (∃ error, store.acquireOwner = (store, .error error)) ∨
      (store.state.ownerEpoch = none ∧ store.acquireOwner =
        (store.withState
          { store.state with
            lastOwnerEpoch := store.state.lastOwnerEpoch + 1
            ownerEpoch := some (store.state.lastOwnerEpoch + 1) },
          .ok (store.state.lastOwnerEpoch + 1))) := by
  unfold acquireOwner
  split
  · exact .inl ⟨_, rfl⟩
  · rename_i free
    split
    · exact .inl ⟨_, rfl⟩
    · rename_i epoch counted
      obtain ⟨_, rfl⟩ := checked_add_eq_some.mp counted
      exact .inr ⟨Option.not_isSome_iff_eq_none.mp free, rfl⟩

theorem release_owner_cases (store : MemoryTaskStore) (epoch : Nat) :
    (store.releaseOwner epoch).1 = store ∨
      (store.state.ownerEpoch = some epoch ∧ (store.releaseOwner epoch).1 =
        store.withState { store.state with ownerEpoch := none }) := by
  unfold releaseOwner
  split
  · exact .inl rfl
  · rename_i current
    exact .inr ⟨not_not.mp current, rfl⟩

theorem owners_fenced :
    Fenced ownerStep memoryOwners OwnerCounted fun store => store.state.lastOwnerEpoch := by
  refine ⟨?_, ?_, ?_, ?_, ?_, ?_⟩
  · intro store call next counted taken
    cases call with
    | acquire =>
      cases taken
      rcases store.acquire_owner_cases with ⟨error, failed⟩ | ⟨_, done⟩
      · rw [failed]
        exact counted
      · rw [done]
        intro epoch current
        cases current
        exact Nat.le_refl _
    | release epoch =>
      cases taken
      rcases store.release_owner_cases epoch with same | ⟨_, done⟩
      · rw [same]
        exact counted
      · rw [done]
        intro other current
        cases current
  · intro store _
    exact Option.length_toList_le
  · intro store call next counted taken
    cases call with
    | acquire =>
      cases taken
      rcases store.acquire_owner_cases with ⟨error, failed⟩ | ⟨_, done⟩
      · rw [failed]
      · rw [done]
        exact Nat.le_succ _
    | release epoch =>
      cases taken
      rcases store.release_owner_cases epoch with same | ⟨_, done⟩
      · rw [same]
      · rw [done]
        exact Nat.le_refl _
  · intro store call epoch _ took
    cases call with
    | acquire =>
      change store.acquireOwner.2.toOption = some epoch at took
      rcases store.acquire_owner_cases with ⟨error, failed⟩ | ⟨_, done⟩
      · rw [failed] at took
        cases took
      · rw [done] at took
        cases took
        exact Nat.lt_succ_self _
    | release _ => cases took
  · intro store call epoch next _ took taken
    cases call with
    | acquire =>
      change store.acquireOwner.2.toOption = some epoch at took
      cases taken
      rcases store.acquire_owner_cases with ⟨error, failed⟩ | ⟨free, done⟩
      · rw [failed] at took
        cases took
      · rw [done] at took ⊢
        cases took
        refine ⟨?_, rfl, Nat.le_refl _⟩
        show store.state.ownerEpoch.toList = []
        rw [free]
        rfl
    | release _ => cases took
  · intro store call epoch next _ gave taken other member different
    cases call with
    | acquire => cases gave
    | release given =>
      cases gave
      cases taken
      rcases store.release_owner_cases epoch with same | ⟨current, _⟩
      · rw [same]
        exact member
      · change other ∈ store.state.ownerEpoch.toList at member
        rw [current] at member
        exact absurd (mem_singleton.mp member) different

end MemoryTaskStore

/-- Where the metadata statements of an acquisition may fail: the increment of the counter,
or reading it back. -/
inductive EpochFault where
  | increment (message : String)
  | read (message : String)

/-- `acquire_owner` with the failures of its two statements; the lock stays with the store. -/
def SqliteTaskStore.acquireOwnerFallible (store : SqliteTaskStore)
    (lock : Except StoreError Unit) (fault : Option EpochFault) :
    SqliteTaskStore × Except StoreError Nat :=
  if store.epoch.isSome then (store, .error .ownerConflict)
  else
    match (if store.lockHeld then .ok () else lock) with
    | .error error => (store, .error error)
    | .ok () =>
        let epoch := store.database.ownerEpoch.getD 0 + 1
        let counted := { store.database with ownerEpoch := some epoch }
        match fault with
        | some (.increment message) => ({ store with lockHeld := true }, .error (.failure message))
        | some (.read message) =>
            ({ store with database := counted, lockHeld := true }, .error (.failure message))
        | none =>
            ({ store with database := counted, lockHeld := true, epoch := some epoch }, .ok epoch)

structure OwnerHandle where
  attached : Bool
  lockHeld : Bool
  epoch : Option Nat
  outboxEnabled : Bool

/-- A database file with every store object that was ever opened on it. -/
structure SqliteFile where
  database : Database
  handles : List OwnerHandle

inductive LockAttempt where
  | granted
  | failed (message : String)

inductive SqliteOwnerCall where
  | openFile
  | close (index : Nat)
  | acquire (index : Nat) (lock : LockAttempt) (fault : Option EpochFault)
  | release (index epoch : Nat) (unlock : Except StoreError Unit)

namespace SqliteFile

def storeOf (file : SqliteFile) (handle : OwnerHandle) : SqliteTaskStore :=
  { database := file.database
    lockHeld := handle.lockHeld
    epoch := handle.epoch
    outboxEnabled := handle.outboxEnabled }

def put (file : SqliteFile) (index : Nat) (store : SqliteTaskStore) : SqliteFile :=
  { database := store.database
    handles :=
      advance file.handles index
        { attached := true
          lockHeld := store.lockHeld
          epoch := store.epoch
          outboxEnabled := store.outboxEnabled } [] }

def locked (file : SqliteFile) : Bool :=
  file.handles.any OwnerHandle.lockHeld

/-- The lock file is exclusive: while another object holds it, locking is contended. -/
def tryLock (file : SqliteFile) : LockAttempt → Except StoreError Unit
  | .granted => if file.locked then .error .ownerConflict else .ok ()
  | .failed message => if file.locked then .error .ownerConflict else .error (.failure message)

def handleAt (file : SqliteFile) (index : Nat) : Option OwnerHandle :=
  file.handles[index]?.filter OwnerHandle.attached

def acquiring (file : SqliteFile) (handle : OwnerHandle) (lock : LockAttempt)
    (fault : Option EpochFault) : SqliteTaskStore × Except StoreError Nat :=
  (file.storeOf handle).acquireOwnerFallible (file.tryLock lock) fault

def ownerStep (file : SqliteFile) : SqliteOwnerCall → Option SqliteFile
  | .openFile =>
      if file.locked then none
      else
        some
          { file with
            handles :=
              file.handles ++
                [{ attached := true, lockHeld := true, epoch := none, outboxEnabled := false }] }
  | .close index =>
      (file.handleAt index).map fun handle =>
        { file with
          handles :=
            advance file.handles index
              { handle with attached := false, lockHeld := false, epoch := none } [] }
  | .acquire index lock fault =>
      (file.handleAt index).map fun handle => file.put index (file.acquiring handle lock fault).1
  | .release index epoch unlock =>
      (file.handleAt index).map fun handle =>
        file.put index ((file.storeOf handle).releaseOwner epoch unlock).1

def lockWeight (handle : OwnerHandle) : Nat := if handle.lockHeld then 1 else 0

/-- One object at most holds the lock, an object with an epoch holds it, and its epoch has
been counted. -/
structure Fencing (file : SqliteFile) : Prop where
  lock : (file.handles.map lockWeight).sum ≤ 1
  owner : ∀ handle ∈ file.handles, ∀ epoch, handle.epoch = some epoch →
    handle.lockHeld = true ∧ epoch ≤ file.database.ownerEpoch.getD 0

end SqliteFile

def sqliteOwners : EpochView SqliteFile SqliteOwnerCall :=
  { held := fun file => file.handles.filterMap OwnerHandle.epoch
    taken := fun file call =>
      match call with
      | .acquire index lock fault =>
          (file.handleAt index).bind fun handle => (file.acquiring handle lock fault).2.toOption
      | .openFile | .close _ | .release _ _ _ => none
    returned := fun _ call =>
      match call with
      | .release _ epoch _ => some epoch
      | .openFile | .close _ | .acquire _ _ _ => none }

namespace SqliteFile

variable {file : SqliteFile} {index : Nat} {handle : OwnerHandle}

def lastEpoch (file : SqliteFile) : Nat := file.database.ownerEpoch.getD 0

/-- What an acquisition has met and what it leaves: a refusal leaves the object alone, a
failed statement leaves it with the lock, and success gives it the next epoch. -/
inductive Acquiring (file : SqliteFile) (handle : OwnerHandle) :
    SqliteTaskStore × Except StoreError Nat → Prop
  | refused (error : StoreError) : Acquiring file handle (file.storeOf handle, .error error)
  | failed (error : StoreError) (counted : Option Nat) (free : handle.epoch = none)
      (lock : handle.lockHeld = true ∨ file.locked = false)
      (least : file.lastEpoch ≤ counted.getD 0) :
      Acquiring file handle
        ({ file.storeOf handle with
            database := { file.database with ownerEpoch := counted }
            lockHeld := true },
          .error error)
  | acquired (free : handle.epoch = none) (lock : handle.lockHeld = true ∨ file.locked = false) :
      Acquiring file handle
        ({ file.storeOf handle with
            database := { file.database with ownerEpoch := some (file.lastEpoch + 1) }
            lockHeld := true
            epoch := some (file.lastEpoch + 1) },
          .ok (file.lastEpoch + 1))

theorem lock_available {lock : LockAttempt}
    (got : (if handle.lockHeld then .ok () else file.tryLock lock) = .ok ()) :
    handle.lockHeld = true ∨ file.locked = false := by
  split at got
  · rename_i held
    exact .inl held
  · right
    cases lock with
    | granted =>
      simp only [tryLock] at got
      split at got
      · cases got
      · rename_i free
        exact Bool.eq_false_of_not_eq_true free
    | failed message =>
      simp only [tryLock] at got
      split at got
      · cases got
      · cases got

theorem acquiring_cases (file : SqliteFile) (handle : OwnerHandle) (lock : LockAttempt)
    (fault : Option EpochFault) : Acquiring file handle (file.acquiring handle lock fault) := by
  unfold acquiring SqliteTaskStore.acquireOwnerFallible
  split
  · exact .refused _
  · rename_i unowned
    have free : handle.epoch = none := Option.not_isSome_iff_eq_none.mp unowned
    split
    · exact .refused _
    · rename_i got
      have available : handle.lockHeld = true ∨ file.locked = false := lock_available got
      cases fault with
      | none => exact .acquired free available
      | some fault =>
        cases fault with
        | increment message =>
          exact .failed _ file.database.ownerEpoch free available (Nat.le_refl _)
        | read message => exact .failed _ (some _) free available (Nat.le_succ _)

theorem held_le_locks {handles : List OwnerHandle}
    (owner : ∀ handle ∈ handles, ∀ epoch, handle.epoch = some epoch → handle.lockHeld = true) :
    (handles.filterMap OwnerHandle.epoch).length ≤ (handles.map lockWeight).sum := by
  induction handles with
  | nil => exact Nat.le_refl _
  | cons head tail ih =>
    have rest := ih fun handle member => owner handle (mem_cons_of_mem _ member)
    rw [map_cons, sum_cons]
    cases shown : head.epoch with
    | none =>
      rw [filterMap_cons_none shown]
      omega
    | some epoch =>
      have weight : lockWeight head = 1 :=
        if_pos (owner head (mem_cons_self ..) epoch shown)
      rw [filterMap_cons_some shown, length_cons]
      omega

theorem mem_held {other : Nat} :
    other ∈ sqliteOwners.held file ↔
      ∃ (position : Nat) (handle : OwnerHandle), file.handles[position]? = some handle ∧
        handle.epoch = some other := by
  show other ∈ file.handles.filterMap OwnerHandle.epoch ↔ _
  rw [mem_filterMap]
  constructor
  · rintro ⟨handle, member, shown⟩
    obtain ⟨position, found⟩ := mem_iff_getElem?.mp member
    exact ⟨position, handle, found, shown⟩
  · rintro ⟨position, handle, found, shown⟩
    exact ⟨handle, mem_of_getElem? found, shown⟩

theorem others_unlocked (fencing : file.Fencing) (found : file.handles[index]? = some handle)
    (lock : handle.lockHeld = true ∨ file.locked = false) {position : Nat} {other : OwnerHandle}
    (different : position ≠ index) (present : file.handles[position]? = some other) :
    other.lockHeld = false := by
  rw [← Bool.not_eq_true]
  intro held
  rcases lock with own | free
  · have moved := sum_advance lockWeight { handle with lockHeld := false } [] found
    have kept := weight_le_sum lockWeight
      (advance_other different present :
        (advance file.handles index { handle with lockHeld := false } [])[position]? = some other)
    have weight : lockWeight other = 1 := if_pos held
    have ownWeight : lockWeight handle = 1 := if_pos own
    have lost : lockWeight { handle with lockHeld := false } = 0 := rfl
    have single := fencing.lock
    simp only [map_cons, map_nil, sum_cons, sum_nil] at moved
    omega
  · have unheld := any_eq_false.mp free other (mem_of_getElem? present)
    exact unheld held

theorem locks_of_unlocked (free : file.locked = false) : (file.handles.map lockWeight).sum = 0 := by
  rw [sum_eq_zero]
  intro weight member
  obtain ⟨handle, present, rfl⟩ := mem_map.mp member
  exact if_neg (any_eq_false.mp free handle present)

variable {next : OwnerHandle} {call : SqliteOwnerCall}

theorem locks_after_advance (fencing : file.Fencing) (found : file.handles[index]? = some handle)
    (lock : next.lockHeld = true → handle.lockHeld = true ∨ file.locked = false) :
    ((advance file.handles index next []).map lockWeight).sum ≤ 1 := by
  have moved := sum_advance lockWeight next [] found
  have single := fencing.lock
  simp only [map_cons, map_nil, sum_cons, sum_nil] at moved
  have small : lockWeight next ≤ 1 := by
    unfold lockWeight
    split
    · exact Nat.le_refl _
    · exact Nat.zero_le _
  by_cases taken : next.lockHeld = true
  · rcases lock taken with own | free
    · have ownWeight : lockWeight handle = 1 := if_pos own
      omega
    · have zero := locks_of_unlocked free
      omega
  · have weight : lockWeight next = 0 := if_neg taken
    omega

theorem Fencing.advanced (fencing : file.Fencing) (found : file.handles[index]? = some handle)
    {database : Database}
    (lock : next.lockHeld = true → handle.lockHeld = true ∨ file.locked = false)
    (counted : file.lastEpoch ≤ database.ownerEpoch.getD 0)
    (owner : ∀ epoch, next.epoch = some epoch →
      next.lockHeld = true ∧ epoch ≤ database.ownerEpoch.getD 0) :
    Fencing { database := database, handles := advance file.handles index next [] } := by
  refine ⟨locks_after_advance fencing found lock, ?_⟩
  intro other member epoch shown
  rcases mem_advance_or_mem member with renewed | present
  · cases mem_singleton.mp renewed
    exact owner epoch shown
  · obtain ⟨held, least⟩ := fencing.owner other present epoch shown
    exact ⟨held, Nat.le_trans least counted⟩

theorem released_store (store : SqliteTaskStore) (epoch : Nat) (unlock : Except StoreError Unit) :
    (store.releaseOwner epoch unlock).1 = store ∨
      (store.epoch = some epoch ∧ (store.releaseOwner epoch unlock).1 =
        { store with lockHeld := false, epoch := none, outboxEnabled := false }) := by
  unfold SqliteTaskStore.releaseOwner
  split
  · exact .inl rfl
  · rename_i current
    split
    · exact .inl rfl
    · exact .inr ⟨not_not.mp current, rfl⟩

theorem step_handle {file next : SqliteFile} {index : Nat} {change : OwnerHandle → SqliteFile}
    (taken : (file.handleAt index).map change = some next) :
    ∃ handle, file.handleAt index = some handle ∧ file.handles[index]? = some handle ∧
      next = change handle := by
  obtain ⟨handle, found, same⟩ := Option.map_eq_some_iff.mp taken
  exact ⟨handle, found, (Option.filter_eq_some_iff.mp found).1, same.symm⟩

theorem open_fencing (fencing : file.Fencing) (free : file.locked = false) :
    Fencing
      { file with
        handles :=
          file.handles ++
            [{ attached := true, lockHeld := true, epoch := none, outboxEnabled := false }] } := by
  refine ⟨?_, ?_⟩
  · show ((file.handles ++ [_]).map lockWeight).sum ≤ 1
    rw [map_append, sum_append, locks_of_unlocked free]
    exact Nat.le_refl _
  · intro handle member epoch shown
    rcases mem_append.mp member with old | new
    · exact fencing.owner handle old epoch shown
    · cases mem_singleton.mp new
      cases shown

theorem acquire_fencing (fencing : file.Fencing) (found : file.handles[index]? = some handle)
    (lock : LockAttempt) (fault : Option EpochFault) :
    (file.put index (file.acquiring handle lock fault).1).Fencing ∧
      file.lastEpoch ≤ (file.put index (file.acquiring handle lock fault).1).lastEpoch := by
  have member := mem_of_getElem? found
  have outcome := acquiring_cases file handle lock fault
  generalize file.acquiring handle lock fault = result at outcome ⊢
  cases outcome with
  | refused error =>
    exact ⟨fencing.advanced found .inl (Nat.le_refl _) (fencing.owner handle member), Nat.le_refl _⟩
  | failed error counted free available least =>
    refine ⟨fencing.advanced found (fun _ => available) least ?_, least⟩
    intro epoch shown
    cases free.symm.trans shown
  | acquired free available =>
    refine ⟨fencing.advanced found (fun _ => available) (Nat.le_succ _) ?_, Nat.le_succ _⟩
    intro epoch shown
    cases shown
    exact ⟨rfl, Nat.le_refl _⟩

theorem release_fencing (fencing : file.Fencing) (found : file.handles[index]? = some handle)
    (epoch : Nat) (unlock : Except StoreError Unit) :
    (file.put index ((file.storeOf handle).releaseOwner epoch unlock).1).Fencing ∧
      file.lastEpoch ≤
        (file.put index ((file.storeOf handle).releaseOwner epoch unlock).1).lastEpoch := by
  have member := mem_of_getElem? found
  rcases released_store (file.storeOf handle) epoch unlock with same | ⟨_, released⟩
  · rw [same]
    exact ⟨fencing.advanced found .inl (Nat.le_refl _) (fencing.owner handle member), Nat.le_refl _⟩
  · rw [released]
    refine ⟨fencing.advanced found ?_ (Nat.le_refl _) ?_, Nat.le_refl _⟩
    · intro held
      cases held
    · intro other shown
      cases shown

theorem step_fencing {next : SqliteFile} (fencing : file.Fencing)
    (taken : file.ownerStep call = some next) : next.Fencing ∧ file.lastEpoch ≤ next.lastEpoch := by
  cases call with
  | openFile =>
    simp only [ownerStep] at taken
    split at taken
    · cases taken
    · rename_i free
      cases taken
      exact ⟨open_fencing fencing (Bool.eq_false_of_not_eq_true free), Nat.le_refl _⟩
  | close index =>
    obtain ⟨handle, _, found, rfl⟩ := step_handle taken
    refine ⟨fencing.advanced found ?_ (Nat.le_refl _) ?_, Nat.le_refl _⟩
    · intro held
      cases held
    · intro epoch shown
      cases shown
  | acquire index lock fault =>
    obtain ⟨handle, _, found, rfl⟩ := step_handle taken
    exact acquire_fencing fencing found lock fault
  | release index epoch unlock =>
    obtain ⟨handle, _, found, rfl⟩ := step_handle taken
    exact release_fencing fencing found epoch unlock

theorem taken_cases {epoch : Nat} (took : sqliteOwners.taken file call = some epoch) :
    ∃ index lock fault handle, call = .acquire index lock fault ∧
      file.handleAt index = some handle ∧ handle.epoch = none ∧
      (handle.lockHeld = true ∨ file.locked = false) ∧ epoch = file.lastEpoch + 1 ∧
      (file.acquiring handle lock fault).1 =
        { file.storeOf handle with
          database := { file.database with ownerEpoch := some epoch }
          lockHeld := true
          epoch := some epoch } := by
  cases call with
  | openFile | close | release => cases took
  | acquire index lock fault =>
    obtain ⟨handle, found, answered⟩ := Option.bind_eq_some_iff.mp took
    have outcome := acquiring_cases file handle lock fault
    refine ⟨index, lock, fault, handle, rfl, found, ?_⟩
    generalize file.acquiring handle lock fault = result at outcome answered ⊢
    cases outcome with
    | refused | failed => cases answered
    | acquired free available =>
      cases answered
      exact ⟨free, available, rfl, rfl⟩

theorem owners_fenced : Fenced ownerStep sqliteOwners Fencing lastEpoch := by
  refine ⟨?_, ?_, ?_, ?_, ?_, ?_⟩
  · intro file call next fencing taken
    exact (step_fencing fencing taken).1
  · intro file fencing
    exact Nat.le_trans
      (held_le_locks fun handle member epoch shown => (fencing.owner handle member epoch shown).1)
      fencing.lock
  · intro file call next fencing taken
    exact (step_fencing fencing taken).2
  · intro file call epoch _ took
    obtain ⟨_, _, _, _, _, _, _, _, rfl, _⟩ := taken_cases took
    exact Nat.lt_succ_self _
  · intro file call epoch next fencing took taken
    have nextFencing := (step_fencing fencing taken).1
    obtain ⟨index, lock, fault, handle, rfl, addressed, free, available, rfl, stored⟩ :=
      taken_cases took
    obtain ⟨other, same, found, rfl⟩ := step_handle taken
    cases addressed.symm.trans same
    rw [stored] at nextFencing ⊢
    have idle : sqliteOwners.held file = [] := by
      rw [eq_nil_iff_forall_not_mem]
      intro epoch member
      obtain ⟨position, owner, present, shown⟩ := mem_held.mp member
      have elsewhere : position ≠ index := by
        rintro rfl
        cases found.symm.trans present
        cases free.symm.trans shown
      have unlocked := others_unlocked fencing found available elsewhere present
      have locked := (fencing.owner owner (mem_of_getElem? present) epoch shown).1
      cases unlocked.symm.trans locked
    have own : file.lastEpoch + 1 ∈ sqliteOwners.held (file.put index
        { file.storeOf handle with
          database := { file.database with ownerEpoch := some (file.lastEpoch + 1) }
          lockHeld := true
          epoch := some (file.lastEpoch + 1) }) :=
      mem_held.mpr ⟨index, _, advance_self found, rfl⟩
    refine ⟨idle, ?_, Nat.le_refl _⟩
    have single := Nat.le_trans
      (held_le_locks fun handle member epoch shown =>
        (nextFencing.owner handle member epoch shown).1) nextFencing.lock
    obtain ⟨only, listed⟩ := length_eq_one_iff.mp (Nat.le_antisymm single (length_pos_of_mem own))
    change sqliteOwners.held _ = [only] at listed
    rw [listed] at own ⊢
    rw [mem_singleton.mp own]
  · intro file call epoch next fencing gave taken other member different
    cases call with
    | openFile | close | acquire => cases gave
    | release index given unlock =>
      cases gave
      obtain ⟨handle, _, found, rfl⟩ := step_handle taken
      obtain ⟨position, owner, present, shown⟩ := mem_held.mp member
      by_cases same : position = index
      · subst same
        cases found.symm.trans present
        rcases released_store (file.storeOf handle) epoch unlock with kept | ⟨current, _⟩
        · rw [kept]
          exact mem_held.mpr ⟨position, _, advance_self found, shown⟩
        · cases shown.symm.trans current
          exact absurd rfl different
      · exact mem_held.mpr ⟨position, owner, advance_other same present, shown⟩

end SqliteFile

end TaskService.Store
