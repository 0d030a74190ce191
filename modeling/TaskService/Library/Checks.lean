import Mathlib.Algebra.Order.Ring.Nat
import Mathlib.Logic.Basic
import Mathlib.Tactic.SplitIfs

/-!
# Checked computations

Fixed-width unsigned arithmetic over natural numbers: addition either reports an
overflow or saturates, and conversion to a signed column is the check that the
value lies below the signed bound.  A fallible operation is a sequence of such
checks, each of which may stop it with an error; the lemmas take it apart.
-/

namespace TaskService.Library

def u32Bound : Nat := 2 ^ 32
def u64Bound : Nat := 2 ^ 64

/-- First value that a signed 64-bit column cannot hold. -/
def i64Bound : Nat := 2 ^ 63

def checkedAdd (bound left right : Nat) : Option Nat :=
  if left + right < bound then some (left + right) else none

def checkedSub (left right : Nat) : Option Nat :=
  if right ≤ left then some (left - right) else none

def saturatingAdd (bound left right : Nat) : Nat :=
  min (left + right) (bound - 1)

theorem checked_add_eq_some {bound left right sum : Nat} :
    checkedAdd bound left right = some sum ↔ left + right < bound ∧ sum = left + right := by
  unfold checkedAdd
  split_ifs with fits
  · simp [fits, eq_comm]
  · simp [fits]

theorem checked_add_eq_none {bound left right : Nat} :
    checkedAdd bound left right = none ↔ bound ≤ left + right := by
  unfold checkedAdd
  split <;> simp_all

theorem checked_sub_of_le {left right : Nat} (fits : right ≤ left) :
    checkedSub left right = some (left - right) :=
  if_pos fits

theorem lt_u64_of_lt_i64 {value : Nat} (fits : value < i64Bound) : value < u64Bound := by
  unfold i64Bound at fits
  unfold u64Bound
  omega

variable {ε α β : Type}

def require (condition : Prop) [Decidable condition] (error : ε) : Except ε Unit :=
  if condition then .ok () else .error error

theorem require_eq_ok (condition : Prop) [Decidable condition] (error : ε) (value : Unit) :
    require condition error = .ok value ↔ condition := by
  unfold require
  split
  · simpa
  · simpa

theorem require_eq_error (condition : Prop) [Decidable condition] (error other : ε) :
    require condition error = .error other ↔ ¬ condition ∧ error = other := by
  unfold require
  split
  · rename_i holds
    simp [holds]
  · rename_i fails
    simp [fails]

theorem bind_eq_ok (first : Except ε α) (rest : α → Except ε β) (value : β) :
    (first >>= rest) = .ok value ↔ ∃ middle, first = .ok middle ∧ rest middle = .ok value := by
  cases first with
  | error | ok => simp [bind, Except.bind]

theorem bind_eq_error (first : Except ε α) (rest : α → Except ε β) (error : ε) :
    (first >>= rest) = .error error ↔
      first = .error error ∨ ∃ middle, first = .ok middle ∧ rest middle = .error error := by
  cases first with
  | error | ok => simp [bind, Except.bind]

variable {ε' : Type}

theorem map_error_eq_ok (first : Except ε α) (convert : ε → ε') (value : α) :
    first.mapError convert = .ok value ↔ first = .ok value := by
  cases first with
  | error | ok => simp [Except.mapError]

theorem map_error_eq_error (first : Except ε α) (convert : ε → ε') (error : ε') :
    first.mapError convert = .error error ↔
      ∃ cause, first = .error cause ∧ convert cause = error := by
  cases first with
  | error | ok => simp [Except.mapError]

/-- Every error of an outcome is an allowed one. -/
def FailsOnly (allowed : ε → Bool) (outcome : Except ε α) : Prop :=
  ∀ error, outcome = .error error → allowed error = true

theorem fails_only_ok {allowed : ε → Bool} (value : α) : FailsOnly allowed (.ok value) := by
  intro error same
  cases same

theorem fails_only_require_bind {allowed : ε → Bool} (condition : Prop) [Decidable condition]
    {error : ε} (rest : Unit → Except ε β) (harmless : allowed error = true) :
    FailsOnly allowed (require condition error >>= rest) ↔
      (condition → FailsOnly allowed (rest ())) := by
  unfold require
  split
  · rename_i holds
    simp [holds, bind, Except.bind]
  · rename_i fails
    simp [fails, FailsOnly, harmless, bind, Except.bind]

end TaskService.Library
