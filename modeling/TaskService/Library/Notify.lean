import Mathlib.Data.Option.Basic

/-!
# Notification cells

A notification cell with one task that waits on it.  The task creates a future, which takes
a stored permit at once, and awaits it later.  Notifying all waiters wakes the future if it
exists and stores nothing; notifying one wakes a future that still waits, or stores a single
permit.  A future that was woken by a notification for one and is dropped without being
awaited passes the notification on.
-/

namespace TaskService.Library

inductive Wake where
  | waiting
  | one
  | ready
  deriving DecidableEq, Repr

structure Notify where
  permit : Bool
  future : Option Wake
  deriving DecidableEq, Repr

namespace Notify

def new : Notify :=
  { permit := false, future := none }

def create (cell : Notify) : Notify :=
  if cell.permit then { permit := false, future := some .ready }
  else { cell with future := some .waiting }

def notifyWaiters (cell : Notify) : Notify :=
  if cell.future = some .waiting then { cell with future := some .ready } else cell

def notifyOne (cell : Notify) : Notify :=
  if cell.future = some .waiting then { cell with future := some .one }
  else { cell with permit := true }

def woken (cell : Notify) : Bool :=
  decide (cell.future = some .one) || decide (cell.future = some .ready)

def awaited (cell : Notify) : Notify :=
  { cell with future := none }

def dropped (cell : Notify) : Notify :=
  { permit := cell.permit || decide (cell.future = some .one), future := none }

variable {cell : Notify}

theorem notify_waiters_wakes (exists_ : cell.future.isSome = true) :
    cell.notifyWaiters.woken = true := by
  obtain ⟨permit, future⟩ := cell
  cases future with
  | none => cases exists_
  | some wake => cases wake <;> rfl

theorem woken_notify_waiters (woken : cell.woken = true) :
    cell.notifyWaiters.woken = true := by
  obtain ⟨permit, future⟩ := cell
  cases future with
  | none => cases woken
  | some wake => cases wake <;> rfl

theorem woken_notify_one (woken : cell.woken = true) :
    cell.notifyOne.woken = true := by
  obtain ⟨permit, future⟩ := cell
  cases future with
  | none => cases woken
  | some wake => cases wake <;> rfl

theorem exists_of_woken (woken : cell.woken = true) :
    cell.future.isSome = true := by
  obtain ⟨permit, future⟩ := cell
  cases future with
  | none => cases woken
  | some wake => rfl

@[simp] theorem exists_notify_waiters (cell : Notify) :
    cell.notifyWaiters.future.isSome = cell.future.isSome := by
  obtain ⟨permit, future⟩ := cell
  cases future with
  | none => rfl
  | some wake => cases wake <;> rfl

@[simp] theorem exists_notify_one (cell : Notify) :
    cell.notifyOne.future.isSome = cell.future.isSome := by
  obtain ⟨permit, future⟩ := cell
  cases future with
  | none => rfl
  | some wake => cases wake <;> rfl

theorem exists_create (cell : Notify) : cell.create.future.isSome = true := by
  unfold create
  split <;> rfl

end Notify

end TaskService.Library
