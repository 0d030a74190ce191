import Mathlib.Data.List.Induction

/-!
# Step systems

An executable system is a partial step function on states and actions.  A run
is a list of actions the system accepts one after the other.  The rules below
turn what one step preserves into what every run preserves, also when the steps
of the run have to meet a guard or when the property speaks about the run's
history.
-/

namespace TaskService.Library

variable {State Action : Type}

/-- The state a list of actions leads to, if every action is enabled in turn. -/
def runActions (step : State → Action → Option State) : State → List Action → Option State
  | state, [] => some state
  | state, action :: rest =>
      match step state action with
      | none => none
      | some next => runActions step next rest

/-- Every action of the run meets the guard in the state it is taken in. -/
def Guarded (step : State → Action → Option State) (guard : State → Action → Prop) :
    State → List Action → Prop
  | _, [] => True
  | state, action :: rest =>
      guard state action ∧ ∀ next, step state action = some next → Guarded step guard next rest

instance decidableGuarded (step : State → Action → Option State) (guard : State → Action → Prop)
    [∀ state action, Decidable (guard state action)] :
    (state : State) → (actions : List Action) → Decidable (Guarded step guard state actions)
  | _, [] => isTrue trivial
  | state, action :: rest =>
      let later : Decidable (∀ next, step state action = some next →
          Guarded step guard next rest) :=
        match taken : step state action with
        | none => isTrue fun next other => by cases other
        | some reached =>
            match decidableGuarded step guard reached rest with
            | isTrue holds => isTrue fun next other => by cases other; exact holds
            | isFalse fails => isFalse fun all => fails (all reached rfl)
      @instDecidableAnd _ _ _ later

theorem run_of_check {step : State → Action → Option State} {state : State}
    {actions : List Action} {check : State → Bool}
    (checked : (runActions step state actions).any check = true) :
    ∃ final, runActions step state actions = some final ∧ check final = true := by
  cases reached : runActions step state actions with
  | none =>
    rw [reached] at checked
    cases checked
  | some final =>
    rw [reached] at checked
    exact ⟨final, rfl, checked⟩

section Reaching

variable {step : State → Action → Option State} {state : State} {actions : List Action}
  {shown further : State → Prop} [DecidablePred shown]

section

variable (checked : (runActions step state actions).any (fun final => decide (shown final)) = true)
include checked

theorem run_reaching : ∃ final, runActions step state actions = some final ∧ shown final := by
  obtain ⟨final, reached, holds⟩ := run_of_check checked
  exact ⟨final, reached, of_decide_eq_true holds⟩

theorem run_shows
    (shows : ∀ final, runActions step state actions = some final → shown final → further final) :
    ∃ final, runActions step state actions = some final ∧ shown final ∧ further final := by
  obtain ⟨final, reached, holds⟩ := run_reaching checked
  exact ⟨final, reached, holds, shows final reached holds⟩

end

end Reaching

section

variable {step : State → Action → Option State}

theorem run_cons_eq_some {state final : State} {action : Action} {rest : List Action} :
    runActions step state (action :: rest) = some final ↔
      ∃ next, step state action = some next ∧ runActions step next rest = some final := by
  simp only [runActions]
  cases step state action with
  | none | some next => simp

theorem run_append (state : State) (first second : List Action) :
    runActions step state (first ++ second) =
      (runActions step state first).bind fun middle => runActions step middle second := by
  induction first generalizing state with
  | nil => rfl
  | cons action rest ih =>
    simp only [List.cons_append, runActions]
    cases step state action with
    | none => rfl
    | some next => exact ih next

theorem run_snoc_eq_some {state final : State} {actions : List Action} {action : Action} :
    runActions step state (actions ++ [action]) = some final ↔
      ∃ middle, runActions step state actions = some middle ∧ step middle action = some final := by
  rw [run_append, Option.bind_eq_some_iff]
  constructor
  · rintro ⟨middle, reached, last⟩
    refine ⟨middle, reached, ?_⟩
    obtain ⟨next, taken, ended⟩ := run_cons_eq_some.mp last
    rw [taken]
    exact ended
  · rintro ⟨middle, reached, taken⟩
    exact ⟨middle, reached, run_cons_eq_some.mpr ⟨final, taken, rfl⟩⟩

end

theorem guarded_append {step : State → Action → Option State} {guard : State → Action → Prop}
    {state middle : State} {before after : List Action}
    (guarded : Guarded step guard state (before ++ after))
    (reached : runActions step state before = some middle) :
    Guarded step guard state before ∧ Guarded step guard middle after := by
  induction before generalizing state with
  | nil =>
    cases reached
    exact ⟨trivial, guarded⟩
  | cons first rest ih =>
    obtain ⟨next, taken, remaining⟩ := run_cons_eq_some.mp reached
    obtain ⟨earlier, later⟩ := ih (guarded.2 next taken) remaining
    refine ⟨⟨guarded.1, ?_⟩, later⟩
    intro other same
    rw [taken] at same
    cases same
    exact earlier

variable {action : Action} {guard : State → Action → Prop} {middle state : State}
  {step : State → Action → Option State} {actions : List Action} {property : State → Prop}
  {event : List Action → State → Action → State → Prop}

theorem guarded_extend (guarded : Guarded step guard state actions)
    (reached : runActions step state actions = some middle) (allowed : guard middle action) :
    Guarded step guard state (actions ++ [action]) := by
  induction actions generalizing state with
  | nil =>
    cases reached
    exact ⟨allowed, fun _ _ => trivial⟩
  | cons first rest ih =>
    refine ⟨guarded.1, ?_⟩
    intro next taken
    obtain ⟨other, sameTaken, remaining⟩ := run_cons_eq_some.mp reached
    cases taken.symm.trans sameTaken
    exact ih (guarded.2 next taken) remaining

theorem guarded_of_always (step : State → Action → Option State)
    (always : ∀ state action, guard state action) (state : State) (actions : List Action) :
    Guarded step guard state actions := by
  induction actions generalizing state with
  | nil => trivial
  | cons action rest ih => exact ⟨always state action, fun next _ => ih next⟩

theorem guarded_imp {strong weak : State → Action → Prop}
    (weaker : ∀ state action, strong state action → weak state action)
    (guarded : Guarded step strong state actions) :
    Guarded step weak state actions := by
  induction actions generalizing state with
  | nil => trivial
  | cons action rest ih =>
    exact ⟨weaker state action guarded.1, fun next taken => ih (guarded.2 next taken)⟩

theorem guarded_and {left right : State → Action → Prop} (first : Guarded step left state actions)
    (second : Guarded step right state actions) :
    Guarded step (fun state action => left state action ∧ right state action) state actions := by
  induction actions generalizing state with
  | nil => trivial
  | cons action rest ih =>
    exact ⟨⟨first.1, second.1⟩, fun next taken => ih (first.2 next taken) (second.2 next taken)⟩

theorem guarded_and_of_mem {allowed : Action → Prop} (guarded : Guarded step guard state actions)
    (all : ∀ action ∈ actions, allowed action) :
    Guarded step (fun state action => guard state action ∧ allowed action) state actions := by
  induction actions generalizing state with
  | nil => trivial
  | cons action rest ih =>
    refine ⟨⟨guarded.1, all action List.mem_cons_self⟩, ?_⟩
    intro next taken
    exact ih (guarded.2 next taken) fun later member => all later (List.mem_cons_of_mem _ member)

def PassedThrough (step : State → Action → Option State) (property : State → Prop) (state : State)
    (actions : List Action) : Prop :=
  ∃ before after middle, actions = before ++ after ∧
    runActions step state before = some middle ∧ property middle

theorem PassedThrough.later (passed : PassedThrough step property state actions)
    (more : List Action) : PassedThrough step property state (actions ++ more) := by
  obtain ⟨before, after, middle, rfl, reached, holds⟩ := passed
  exact ⟨before, after ++ more, middle, List.append_assoc _ _ _, reached, holds⟩

/-- The run has taken a step at which the event happens, told the actions before it. -/
def Took (step : State → Action → Option State)
    (event : List Action → State → Action → State → Prop) (state : State)
    (actions : List Action) : Prop :=
  ∃ before action after middle next, actions = before ++ action :: after ∧
    runActions step state before = some middle ∧ step middle action = some next ∧
    event before middle action next

theorem Took.later (took : Took step event state actions) (more : List Action) :
    Took step event state (actions ++ more) := by
  obtain ⟨before, action, after, middle, next, rfl, reached, taken, happens⟩ := took
  exact ⟨before, action, after ++ more, middle, next, by simp, reached, taken, happens⟩

theorem took_now {next : State} (reached : runActions step state actions = some middle)
    (taken : step middle action = some next) (happens : event actions middle action next) :
    Took step event state (actions ++ [action]) :=
  ⟨actions, action, [], middle, next, rfl, reached, taken, happens⟩

theorem run_invariant {step : State → Action → Option State} {guard : State → Action → Prop}
    {invariant : State → Prop}
    (preserved : ∀ {state action next}, guard state action → invariant state →
      step state action = some next → invariant next)
    {state final : State} {actions : List Action}
    (holds : invariant state) (guarded : Guarded step guard state actions)
    (reached : runActions step state actions = some final) : invariant final := by
  induction actions generalizing state with
  | nil =>
    cases reached
    exact holds
  | cons action rest ih =>
    obtain ⟨next, taken, remaining⟩ := run_cons_eq_some.mp reached
    exact ih (preserved guarded.1 holds taken) (guarded.2 next taken) remaining

theorem run_preserves {step : State → Action → Option State} {invariant : State → Prop}
    (preserved : ∀ {state action next}, invariant state → step state action = some next →
      invariant next)
    {state final : State} {actions : List Action} (holds : invariant state)
    (reached : runActions step state actions = some final) : invariant final :=
  run_invariant (fun _ => preserved) holds
    (guarded_of_always step (fun _ _ => trivial) _ _) reached

/-- What a run makes of a value that can be read off every state it goes through. -/
theorem run_retained {Value : Type} {read : State → Option Value} {invariant : State → Prop}
    {known : Value → Prop}
    (preserved : ∀ state action next, invariant state → step state action = some next →
      invariant next ∧ ∀ old new, read state = some old → read next = some new → known old →
        known new)
    {final : State} {old new : Value}
    (present : Guarded step (fun state _ => (read state).isSome = true) state actions)
    (reached : runActions step state actions = some final) (holds : invariant state)
    (held : read state = some old) (found : read final = some new) (shown : known old) :
    known new := by
  induction actions generalizing state old with
  | nil =>
    cases reached
    cases held.symm.trans found
    exact shown
  | cons action rest ih =>
    obtain ⟨next, taken, remaining⟩ := run_cons_eq_some.mp reached
    obtain ⟨kept, carries⟩ := preserved state action next holds taken
    have later := present.2 next taken
    have middle : ∃ value, read next = some value := by
      cases rest with
      | nil =>
        cases remaining
        exact ⟨new, found⟩
      | cons => exact Option.isSome_iff_exists.mp later.1
    obtain ⟨value, there⟩ := middle
    exact ih later remaining kept there (carries old value held there shown)

/-- The same rule for properties of a state together with the run that led to it. -/
theorem run_history {step : State → Action → Option State} {guard : State → Action → Prop}
    {initial : State} {invariant : List Action → State → Prop} (start : invariant [] initial)
    (preserved : ∀ actions state action next, runActions step initial actions = some state →
      guard state action → invariant actions state → step state action = some next →
      invariant (actions ++ [action]) next)
    {final : State} {actions : List Action} (guarded : Guarded step guard initial actions)
    (reached : runActions step initial actions = some final) : invariant actions final := by
  induction actions using List.reverseRecOn generalizing final with
  | nil =>
    cases reached
    exact start
  | append_singleton earlier action ih =>
    obtain ⟨middle, before, taken⟩ := run_snoc_eq_some.mp reached
    obtain ⟨guardedBefore, last⟩ := guarded_append guarded before
    exact preserved earlier middle action final before last.1 (ih guardedBefore before) taken

def tally (step : State → Action → Option State) (weight : State → Action → Nat) :
    State → List Action → Nat
  | _, [] => 0
  | state, action :: rest =>
      match step state action with
      | none => 0
      | some next => weight state action + tally step weight next rest

/-- A run weighs at most the budget it starts with, when every guarded step is paid from it. -/
theorem tally_le_budget {invariant : State → Prop} {weight : State → Action → Nat}
    {budget : State → Nat} (paid : ∀ state action next, guard state action → invariant state →
      step state action = some next →
      invariant next ∧ weight state action + budget next ≤ budget state) (holds : invariant state)
    (guarded : Guarded step guard state actions) :
    tally step weight state actions ≤ budget state := by
  induction actions generalizing state with
  | nil => exact Nat.zero_le _
  | cons action rest ih =>
    unfold tally
    cases taken : step state action with
    | none => exact Nat.zero_le _
    | some next =>
      obtain ⟨kept, pays⟩ := paid state action next guarded.1 holds taken
      have later := ih kept (guarded.2 next taken)
      exact Nat.le_trans (Nat.add_le_add_left later _) pays

section Chronicles

variable {Event : Type}

/-- A list of events, newest first, each of them justified by the events before it. -/
def Chronicle (justified : Event → List Event → Prop) : List Event → Prop
  | [] => True
  | event :: earlier => justified event earlier ∧ Chronicle justified earlier

theorem Chronicle.justified_at {justified : Event → List Event → Prop} {trace : List Event}
    (chronicle : Chronicle justified trace) {later earlier : List Event} {event : Event}
    (split : trace = later ++ event :: earlier) : justified event earlier := by
  subst split
  induction later with
  | nil => exact chronicle.1
  | cons head later ih => exact ih chronicle.2

end Chronicles

end TaskService.Library
