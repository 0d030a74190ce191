import TaskService.Store.ColumnAgreement

/-!
# The authoritative checkpoint

The checkpoint of a task comes from its row and, once the row is pruned, from the table
of terminal checkpoints.  Accepting a pruned identity again creates the row anew at
version 0, which is then what the checkpoint says.
-/

namespace TaskService.Store

open Library Model

structure TaskStateCheckpoint where
  id : TaskId
  stateVersion : Nat
  state : TaskState
  deriving DecidableEq, Repr

def Database.getStateCheckpoint (database : Database) (id : TaskId) :
    Except StoreError (Option TaskStateCheckpoint) :=
  match database.tasks.lookup id with
  | some row => do
      require (row.lifecycle.stateVersion < i64Bound)
        (.failure "task lifecycle has an invalid state version")
      .ok (some
        { id := id
          stateVersion := row.lifecycle.stateVersion
          state := row.lifecycle.state })
  | none =>
      .ok ((database.taskTerminalCheckpoints.lookup id).map fun stored =>
        { id := id, stateVersion := stored.stateVersion, state := stored.state })

def Slot.version (slot : Slot) : Option Nat :=
  match slot.row with
  | some row => some row.lifecycle.stateVersion
  | none => slot.checkpoint.map TerminalCheckpoint.stateVersion

theorem get_state_checkpoint_version {database : Database} (agree : database.RowsAgree)
    (id : TaskId) :
    ∃ answer, database.getStateCheckpoint id = .ok answer ∧
      answer.map TaskStateCheckpoint.stateVersion = (database.slot id).version := by
  unfold Database.getStateCheckpoint Slot.version Database.slot
  cases found : database.tasks.lookup id with
  | none =>
    refine ⟨_, rfl, ?_⟩
    rw [Option.map_map]
    rfl
  | some row =>
    simp only [bind_eq_ok, require_eq_ok]
    exact ⟨_, ⟨(), (agree id row found).versionFits, rfl⟩, rfl⟩

/-- The call asks for a task under an identity whose row was pruned. -/
def Reaccepts (id : TaskId) (store : SqliteTaskStore) (call : SqliteCall) : Prop :=
  match call with
  | .lifecycle (.accept _ other request) =>
      other = id ∧ store.database.idempotentRow request = none ∧
        store.database.tasks.lookup id = none ∧
        (store.database.taskTerminalCheckpoints.lookup id).isSome = true
  | _ => False

variable {call : SqliteCall} {id : TaskId} {version : Nat} {store : SqliteTaskStore}

theorem SlotChange.version_le {before after : Slot} (change : SlotChange call id before after)
    (fresh : ∀ clock request, call = .lifecycle (.accept clock id request) →
      before.row = none → after.row ≠ none → before.checkpoint = none)
    (shown : before.version = some version) :
    ∃ later, after.version = some later ∧ version ≤ later := by
  cases change with
  | kept => exact ⟨version, shown, Nat.le_refl _⟩
  | accepted clock request checkpoint given fits =>
    have absent := fresh clock request given rfl (Option.some_ne_none _)
    simp only [Slot.version] at shown
    rw [show checkpoint = none from absent] at shown
    cases shown
  | started clock command row checkpoint given own queued expected room counted
  | transitioned =>
    cases shown
    exact ⟨_, rfl, Nat.le_succ _⟩
  | progressed command snapshot row checkpoint given own taken running attempt newer
  | pruned =>
    cases shown
    exact ⟨_, rfl, Nat.le_refl _⟩

theorem replayed_accept_unchanged [IdCodec] {clock : Clock} {request : StoredTaskRequest}
    (known : store.database.idempotentRow request ≠ none) :
    ((SqliteCall.lifecycle (.accept clock id request)).run store).database = store.database := by
  show (store.acceptEncoded clock id request).1.database = store.database
  unfold SqliteTaskStore.acceptEncoded
  rcases store.run_write_cases fun database =>
      database.acceptEncoded clock id request store.outboxEnabled with
    ⟨error, failed, _⟩ | ⟨database, outcome, accepted, committed⟩
  · rw [failed]
  · rw [committed]
    unfold Database.acceptEncoded at accepted
    split at accepted
    · split at accepted
      · cases accepted
      · cases accepted
        rfl
    · rename_i unknown
      exact (known unknown).elim

theorem call_version_le [IdCodec] (fresh : ¬ Reaccepts id store call)
    (shown : (store.database.slot id).version = some version) :
    ∃ later, ((call.run store).database.slot id).version = some later ∧ version ≤ later := by
  refine (SqliteTaskStore.call_slots store call id).version_le ?_ shown
  rintro clock request rfl absent created
  by_contra archived
  refine fresh ⟨rfl, ?_, absent, Option.isSome_iff_ne_none.mpr archived⟩
  by_contra known
  rw [replayed_accept_unchanged known] at created
  exact created absent

/-- From a state in which a task has a checkpoint on, as long as no call accepts that
identity again after its row was pruned, there is always a checkpoint and its version
never decreases. -/
theorem checkpoint_never_goes_back [IdCodec] (file : SchemaFile) (database : Database)
    (initialized : initializeNextSchema file = .ok database) (agree : file.RowsAgree)
    (earlier later : List SqliteCall) (middle final : SqliteTaskStore) (id : TaskId)
    (reached : runActions sqliteStep (SqliteTaskStore.opened database) earlier = some middle)
    (fresh : Guarded sqliteStep (fun store call => ¬ Reaccepts id store call) middle later)
    (continued : runActions sqliteStep middle later = some final) (checkpoint : TaskStateCheckpoint)
    (seen : middle.database.getStateCheckpoint id = .ok (some checkpoint)) :
    ∃ latest, final.database.getStateCheckpoint id = .ok (some latest) ∧
      checkpoint.stateVersion ≤ latest.stateVersion := by
  have rows : middle.database.RowsAgree :=
    run_rows_agree (initialized_rows_agree initialized agree) reached
  obtain ⟨answer, answered, version⟩ := get_state_checkpoint_version rows id
  cases seen.symm.trans answered
  obtain ⟨latest, shown, above⟩ := @run_invariant _ _ sqliteStep
    (fun store call => ¬ Reaccepts id store call)
    (fun store => ∃ latest, (store.database.slot id).version = some latest ∧
      checkpoint.stateVersion ≤ latest)
    (by
      rintro store call next unpruned ⟨latest, shown, above⟩ taken
      cases taken
      obtain ⟨newer, after, grown⟩ := call_version_le unpruned shown
      exact ⟨newer, after, above.trans grown⟩)
    _ _ _ ⟨_, version.symm, Nat.le_refl _⟩ fresh continued
  obtain ⟨last, lastAnswer, lastVersion⟩ := get_state_checkpoint_version
    (run_rows_agree rows continued) id
  rw [shown] at lastVersion
  obtain ⟨found, rfl, rfl⟩ := Option.map_eq_some_iff.mp lastVersion
  exact ⟨found, lastAnswer, above⟩

section Samples

def sampleAccepting (key : Option String) (bytes : List UInt8) : SqliteCall :=
  .lifecycle (.accept sampleClock { value := 1 } (sampleStored key bytes))

def sampleFinished : List SqliteCall :=
  [sampleAccepting none [1], .lifecycle (sampleStarting 1 0),
    .lifecycle (sampleMove 1 1 1 .succeeded), .lifecycle (.prune 9 4)]

def checkpointIs (version : Nat) (state : TaskState) (store : SqliteTaskStore) : Bool :=
  match store.database.getStateCheckpoint { value := 1 } with
  | .ok (some checkpoint) =>
      decide (checkpoint = { id := { value := 1 }, stateVersion := version, state := state })
  | _ => false

theorem checkpoint_of_check {version : Nat} {state : TaskState} {store : SqliteTaskStore}
    (checked : checkpointIs version state store = true) :
    store.database.getStateCheckpoint { value := 1 } =
      .ok (some { id := { value := 1 }, stateVersion := version, state := state }) := by
  unfold checkpointIs at checked
  split at checked
  · rename_i checkpoint found
    rw [found, of_decide_eq_true checked]
  · cases checked

/-- The checkpoint of the pruned task is at version 2; once its identity is accepted again
it is at version 0. -/
theorem checkpoint_goes_back :
    ∃ middle final, @runActions _ _ (@sqliteStep sampleIdCodec)
        (SqliteTaskStore.opened Database.empty) sampleFinished = some middle ∧
      middle.database.getStateCheckpoint { value := 1 } =
        .ok (some { id := { value := 1 }, stateVersion := 2, state := .succeeded }) ∧
      @runActions _ _ (@sqliteStep sampleIdCodec) middle [sampleAccepting none [1]] =
        some final ∧
      final.database.getStateCheckpoint { value := 1 } =
        .ok (some { id := { value := 1 }, stateVersion := 0, state := .queued }) := by
  let codec := sampleIdCodec
  obtain ⟨middle, reached, checked⟩ := @run_of_check _ _ sqliteStep
    (SqliteTaskStore.opened Database.empty) sampleFinished
    (fun (middle : SqliteTaskStore) => checkpointIs 2 .succeeded middle &&
      (runActions sqliteStep middle [sampleAccepting none [1]]).any (checkpointIs 0 .queued))
    (by decide +kernel)
  obtain ⟨before, after⟩ := Bool.and_eq_true_iff.mp checked
  obtain ⟨final, continued, lower⟩ := run_of_check after
  exact ⟨middle, final, reached, checkpoint_of_check before, continued, checkpoint_of_check lower⟩

/-- Over the end of the task and its pruning the checkpoint moves from version 1 to 2. -/
theorem checkpoint_never_goes_back_sample :
    ∃ middle final latest, @runActions _ _ (@sqliteStep sampleIdCodec)
        (SqliteTaskStore.opened Database.empty) (sampleFinished.take 2) = some middle ∧
      @runActions _ _ (@sqliteStep sampleIdCodec) middle (sampleFinished.drop 2) = some final ∧
      final.database.getStateCheckpoint { value := 1 } = .ok (some latest) ∧
      1 ≤ latest.stateVersion := by
  let codec := sampleIdCodec
  obtain ⟨middle, reached, checked⟩ := @run_of_check _ _ sqliteStep
    (SqliteTaskStore.opened Database.empty) (sampleFinished.take 2)
    (fun (middle : SqliteTaskStore) => checkpointIs 1 .running middle &&
      (runActions sqliteStep middle (sampleFinished.drop 2)).isSome)
    (by decide +kernel)
  obtain ⟨before, after⟩ := Bool.and_eq_true_iff.mp checked
  obtain ⟨final, continued⟩ := Option.isSome_iff_exists.mp after
  have fresh : Guarded sqliteStep (fun store call => ¬ Reaccepts { value := 1 } store call)
      middle (sampleFinished.drop 2) :=
    ⟨id, fun _ _ => ⟨id, fun _ _ => trivial⟩⟩
  obtain ⟨latest, shown, above⟩ := checkpoint_never_goes_back .empty Database.empty rfl trivial
    (sampleFinished.take 2) (sampleFinished.drop 2) middle final { value := 1 } reached fresh
    continued _ (checkpoint_of_check before)
  exact ⟨middle, final, latest, reached, continued, shown, above⟩

end Samples

end TaskService.Store
