import TaskService.Library.SerialSlot
import TaskService.Store.SqliteCalls

/-!
# The operation slot of the SQLite store

`SqliteTaskStore::run` waits for the permit of the store's semaphore and moves it into the
blocking closure that carries out the operation; `run_write` and `run_outbox` check the
ownership inside that closure.  The lock around the connection is left out: the permit alone
keeps the operations apart.  Reopening makes a new store and goes through no slot.
-/

namespace TaskService.Store

open Library Model List

variable [IdCodec]

/-- One move of the callers of `SqliteTaskStore::run`. -/
def operationStep (slot : SerialSlot SqliteTaskStore SqliteCall) :
    SlotAction SqliteCall → Option (SerialSlot SqliteTaskStore SqliteCall) :=
  slot.step SqliteCall.run

theorem calls_of_atomic {slot final : AtomicSlot SqliteTaskStore SqliteCall}
    {actions : List (AtomicAction SqliteCall)}
    (reached : runActions (AtomicSlot.step SqliteCall.run) slot actions = some final) :
    ∃ calls, runActions sqliteStep slot.state calls = some final.state := by
  induction actions generalizing slot with
  | nil =>
    cases reached
    exact ⟨[], rfl⟩
  | cons action rest ih =>
    obtain ⟨next, taken, remaining⟩ := run_cons_eq_some.mp reached
    obtain ⟨calls, later⟩ := ih remaining
    cases action with
    | call op =>
      cases taken
      exact ⟨calls, later⟩
    | serve caller =>
      simp only [AtomicSlot.step] at taken
      split at taken
      · rename_i op _
        cases taken
        exact ⟨op :: calls, later⟩
      · cases taken

/-- However callers of one store come, wait, are dropped or see their operations stopped,
what they see happens one operation at a time and in the order of the answers, so the
database is one that a sequence of calls leaves.  The permit is never lost, and as long as
an operation is under way nothing else takes effect: the ownership a write has found holds
until it is done, even if its caller is gone. -/
theorem operations_take_turns (store : SqliteTaskStore) (actions : List (SlotAction SqliteCall))
    (final : SerialSlot SqliteTaskStore SqliteCall)
    (reached : runActions operationStep (.idle store) actions = some final) :
    runActions (AtomicSlot.step SqliteCall.run) ⟨store, []⟩
        (actions.filterMap SlotAction.visible) = some final.seen ∧
      (∃ calls, runActions sqliteStep store calls = some final.state) ∧
      final.permits + final.held = 1 ∧
      ∀ call met, (call, .working met) ∈ final.callers → met = final.state := by
  obtain ⟨serial, served⟩ := SerialSlot.serial_run SqliteCall.run store reached
  exact ⟨served, calls_of_atomic served, serial.permit, serial.current⟩

omit [IdCodec] in
/-- The caller of the first operation is dropped while it is under way. -/
theorem operations_take_turns_sample :
    ∃ final, runActions (@operationStep sampleIdCodec)
        (.idle (SqliteTaskStore.opened Database.empty))
        [.call (.acquireOwner (.ok ())), .move 0 .grant, .move 0 .spawn, .move 0 .start,
          .call .enableOutbox, .move 0 .drop, .move 0 .finish, .move 1 .grant] = some final ∧
      final.permits = 0 ∧ final.permits + final.held = 1 :=
  let codec := sampleIdCodec
  run_shows (by decide) fun final reached _ =>
    (operations_take_turns _ _ final reached).2.2.1

end TaskService.Store
