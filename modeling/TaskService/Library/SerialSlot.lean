import TaskService.Library.StepSystem
import TaskService.Library.ThreadPool

/-!
# Serial slots

Callers hand their operations to a slot with one permit.  The permit goes with the operation
to a worker, which keeps it until the operation is over, whether or not its caller still
waits.  A worker writes what it computes from the state it met, so only the permit keeps two
of them from overwriting each other.  To its callers the slot serves each operation in a
single step.
-/

namespace TaskService.Library

open List

variable {σ Op : Type}

/-- The slot as its callers see it: operations and, once they took effect, the state they met. -/
structure AtomicSlot (σ Op : Type) where
  state : σ
  requests : List (Op × Option σ)

inductive AtomicAction (Op : Type) where
  | call (op : Op)
  | serve (caller : Nat)

def AtomicSlot.step (apply : σ → Op → σ) (slot : AtomicSlot σ Op) :
    AtomicAction Op → Option (AtomicSlot σ Op)
  | .call op => some { slot with requests := slot.requests ++ [(op, none)] }
  | .serve caller =>
      match slot.requests[caller]? with
      | some (op, none) =>
          some ⟨apply slot.state op, slot.requests.set caller (op, some slot.state)⟩
      | _ => none

inductive SlotPhase (σ : Type) where
  | waiting
  /-- The permit is set aside for a caller that has not taken it up yet. -/
  | granted
  | spawned
  | working (met : σ)
  | served (met : σ)
  | withdrawn
  | stopped

def SlotPhase.permits : SlotPhase σ → Nat
  | .granted | .spawned | .working _ => 1
  | _ => 0

def SlotPhase.answered : SlotPhase σ → Option σ
  | .served met => some met
  | _ => none

structure SerialSlot (σ Op : Type) where
  state : σ
  permits : Nat
  callers : List (Op × SlotPhase σ)

inductive SlotMove where
  | grant
  | spawn
  | start
  | finish
  | stop
  | drop

inductive SlotAction (Op : Type) where
  | call (op : Op)
  | move (caller : Nat) (kind : SlotMove)

/-- What of an action the callers see. -/
def SlotAction.visible : SlotAction Op → Option (AtomicAction Op)
  | .call op => some (.call op)
  | .move caller .finish => some (.serve caller)
  | _ => none

namespace SerialSlot

def idle (state : σ) : SerialSlot σ Op := ⟨state, 1, []⟩

variable (apply : σ → Op → σ) (slot : SerialSlot σ Op)

/-- State, permits and phase after a move of a caller.  A dropped caller takes back what it
has not handed over; an operation that is stopped leaves no trace in the state. -/
def move (op : Op) : SlotMove → SlotPhase σ → Option (σ × Nat × SlotPhase σ)
  | .grant, .waiting =>
      if slot.permits = 0 then none else some (slot.state, slot.permits - 1, .granted)
  | .spawn, .granted => some (slot.state, slot.permits, .spawned)
  | .start, .spawned => some (slot.state, slot.permits, .working slot.state)
  | .finish, .working met => some (apply met op, slot.permits + 1, .served met)
  | .stop, .spawned | .stop, .working _ => some (slot.state, slot.permits + 1, .stopped)
  | .drop, .waiting => some (slot.state, slot.permits, .withdrawn)
  | .drop, .granted => some (slot.state, slot.permits + 1, .withdrawn)
  | .drop, phase => some (slot.state, slot.permits, phase)
  | _, _ => none

def placed (caller : Nat) (op : Op) : σ × Nat × SlotPhase σ → SerialSlot σ Op
  | (state, permits, phase) => ⟨state, permits, advance slot.callers caller (op, phase) []⟩

def step : SlotAction Op → Option (SerialSlot σ Op)
  | .call op => some { slot with callers := slot.callers ++ [(op, .waiting)] }
  | .move caller kind =>
      match slot.callers[caller]? with
      | some (op, phase) => (slot.move apply op kind phase).map (slot.placed caller op)
      | none => none

def seen : AtomicSlot σ Op :=
  ⟨slot.state, slot.callers.map fun caller => (caller.1, caller.2.answered)⟩

def held : Nat := (slot.callers.map fun caller => caller.2.permits).sum

/-- There is one permit, and whoever works has met the present state. -/
structure Serial : Prop where
  permit : slot.permits + slot.held = 1
  current : ∀ op met, (op, .working met) ∈ slot.callers → met = slot.state

variable {apply slot} {next : SerialSlot σ Op} {caller permits : Nat} {op : Op}
  {kind : SlotMove} {old phase : SlotPhase σ} {state : σ}

theorem move_cases (moved : slot.move apply op kind old = some (state, permits, phase)) :
    permits + phase.permits = slot.permits + old.permits ∧
      ((∃ met, kind = .finish ∧ old = .working met ∧ state = apply met op ∧
          phase = .served met) ∨
        (kind ≠ .finish ∧ state = slot.state ∧ phase.answered = old.answered ∧
          ∀ met, phase = .working met → met = slot.state ∨ old = phase)) := by
  unfold move at moved
  split at moved
  case h_1 =>
    split_ifs at moved with empty
    cases moved
    exact ⟨Nat.sub_add_cancel (Nat.pos_of_ne_zero empty),
      .inr ⟨(fun same => by cases same), rfl, rfl, fun _ same => by cases same⟩⟩
  case h_4 met =>
    cases moved
    exact ⟨rfl, .inl ⟨met, rfl, rfl, rfl, rfl⟩⟩
  case h_9 =>
    cases moved
    exact ⟨rfl, .inr ⟨(fun same => by cases same), rfl, rfl, fun _ _ => .inr rfl⟩⟩
  case h_10 => cases moved
  all_goals
    cases moved
    refine ⟨rfl, .inr ⟨(fun same => by cases same), rfl, rfl, fun _ same => ?_⟩⟩
    cases same <;> exact .inl rfl

section Moved

variable (serial : Serial slot) (there : slot.callers[caller]? = some (op, old))
  (moved : slot.move apply op kind old = some (state, permits, phase))
include serial there moved

theorem serial_placed : Serial (slot.placed caller op (state, permits, phase)) := by
  obtain ⟨balance, shift⟩ := move_cases moved
  have total : (slot.placed caller op (state, permits, phase)).held + old.permits =
      slot.held + phase.permits :=
    sum_advance (fun caller => caller.2.permits) (op, phase) [] there
  have one := serial.permit
  refine ⟨show permits + _ = 1 by omega, ?_⟩
  intro other met member
  obtain ⟨position, found⟩ := mem_iff_getElem?.mp member
  have weight : 1 ≤ held _ := weight_le_sum (fun caller => caller.2.permits) found
  rcases advance_cases found with ⟨-, same⟩ | ⟨-, elsewhere⟩ | ⟨-, minted⟩
  · cases same
    rcases shift with ⟨_, -, -, -, same⟩ | ⟨-, rfl, -, meets⟩
    · cases same
    · rcases meets met rfl with now | rfl
      · exact now
      · exact serial.current op met (mem_of_getElem? there)
  · rcases shift with ⟨_, -, rfl, -, rfl⟩ | ⟨-, rfl, -, -⟩
    · -- The worker that finished had the only permit.
      change _ + 1 = _ + 0 at total
      omega
    · exact serial.current other met (mem_of_getElem? elsewhere)
  · cases minted

theorem seen_placed :
    runActions (AtomicSlot.step apply) slot.seen
        ([.move caller kind].filterMap SlotAction.visible) =
      some (slot.placed caller op (state, permits, phase)).seen := by
  have asked : slot.seen.requests[caller]? = some (op, old.answered) := by simp [seen, there]
  have shown : (slot.placed caller op (state, permits, phase)).seen =
      ⟨state, slot.seen.requests.set caller (op, phase.answered)⟩ := by
    simp [seen, placed, advance, map_set]
  rw [shown]
  rcases (move_cases moved).2 with ⟨met, rfl, rfl, rfl, rfl⟩ | ⟨silent, rfl, same, -⟩
  · obtain rfl := serial.current op met (mem_of_getElem? there)
    simp only [filterMap, SlotAction.visible, runActions, AtomicSlot.step, asked]
    rfl
  · have hidden : (SlotAction.move caller kind : SlotAction Op).visible = none := by
      cases kind <;> first | rfl | exact absurd rfl silent
    obtain ⟨_, value⟩ := List.getElem?_eq_some_iff.mp asked
    rw [filterMap_cons_none hidden, same, ← value, set_getElem_self]
    rfl

end Moved

theorem serial_step {action : SlotAction Op} (serial : Serial slot)
    (taken : slot.step apply action = some next) :
    Serial next ∧
      runActions (AtomicSlot.step apply) slot.seen ([action].filterMap SlotAction.visible) =
        some next.seen := by
  cases action with
  | call op =>
    cases taken
    refine ⟨⟨by simpa [held, SlotPhase.permits] using serial.permit, ?_⟩, ?_⟩
    · intro other met member
      rcases mem_append.mp member with old | new
      · exact serial.current other met old
      · cases mem_singleton.mp new
    · simp [SlotAction.visible, runActions, AtomicSlot.step, seen, SlotPhase.answered]
  | move =>
    simp only [step] at taken
    split at taken
    · rename_i there
      obtain ⟨⟨state, permits, phase⟩, moved, rfl⟩ := Option.map_eq_some_iff.mp taken
      exact ⟨serial_placed serial there moved, seen_placed serial there moved⟩
    · cases taken

theorem serial_run (apply : σ → Op → σ) (state : σ) {actions : List (SlotAction Op)}
    {final : SerialSlot σ Op}
    (reached : runActions (step apply) (idle state) actions = some final) :
    Serial final ∧ runActions (AtomicSlot.step apply) ⟨state, []⟩
      (actions.filterMap SlotAction.visible) = some final.seen := by
  induction actions using List.reverseRecOn generalizing final with
  | nil =>
    cases reached
    exact ⟨⟨rfl, fun _ _ member => by cases member⟩, rfl⟩
  | append_singleton earlier last ih =>
    obtain ⟨middle, before, taken⟩ := run_snoc_eq_some.mp reached
    obtain ⟨serial, served⟩ := ih before
    obtain ⟨kept, seen⟩ := serial_step serial taken
    refine ⟨kept, ?_⟩
    rw [filterMap_append, run_append, served]
    exact seen

end SerialSlot

end TaskService.Library
