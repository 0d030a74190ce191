import TaskService.Library.StepSystem

/-!
# Fencing epochs

An exclusive right is handed out in numbered epochs.  A system shows which epochs are held,
which epoch an action takes, and which epoch an action tries to give back.  The laws are
that at most one epoch is held, that later epochs are larger, and that giving back one
epoch never ends another.  They follow from an invariant and a counter, and they carry over
to every system whose steps project onto steps of a fenced one.
-/

namespace TaskService.Library

variable {State Action : Type}

structure EpochView (State Action : Type) where
  held : State → List Nat
  taken : State → Action → Option Nat
  returned : State → Action → Option Nat

structure FencingLaws (step : State → Action → Option State) (view : EpochView State Action)
    (state : State) : Prop where
  exclusive : (view.held state).length ≤ 1
  granted : ∀ action epoch next, view.taken state action = some epoch →
    step state action = some next → view.held state = [] ∧ view.held next = [epoch]
  increasing : ∀ action epoch next later final action' epoch',
    view.taken state action = some epoch → step state action = some next →
    runActions step next later = some final → view.taken final action' = some epoch' →
    epoch < epoch'
  fenced : ∀ action epoch next, view.returned state action = some epoch →
    step state action = some next →
    ∀ other ∈ view.held state, other ≠ epoch → other ∈ view.held next

/-- The counter bounds every epoch taken so far, and each new one exceeds it. -/
structure Fenced (step : State → Action → Option State) (view : EpochView State Action)
    (invariant : State → Prop) (counter : State → Nat) : Prop where
  kept : ∀ state action next, invariant state → step state action = some next → invariant next
  exclusive : ∀ state, invariant state → (view.held state).length ≤ 1
  counted : ∀ state action next, invariant state → step state action = some next →
    counter state ≤ counter next
  fresh : ∀ state action epoch, invariant state → view.taken state action = some epoch →
    counter state < epoch
  granted : ∀ state action epoch next, invariant state → view.taken state action = some epoch →
    step state action = some next →
    view.held state = [] ∧ view.held next = [epoch] ∧ epoch ≤ counter next
  fenced : ∀ state action epoch next, invariant state → view.returned state action = some epoch →
    step state action = some next →
    ∀ other ∈ view.held state, other ≠ epoch → other ∈ view.held next

namespace Fenced

variable {step : State → Action → Option State} {view : EpochView State Action}
  {invariant : State → Prop} {counter : State → Nat}

variable {actions : List Action} {final state : State}

section

variable (fence : Fenced step view invariant counter) (holds : invariant state)
include fence holds

theorem run_counted (reached : runActions step state actions = some final) :
    invariant final ∧ counter state ≤ counter final := by
  refine @run_preserves _ _ step
    (fun current => invariant current ∧ counter state ≤ counter current) ?_ _ _ _
    ⟨holds, Nat.le_refl _⟩ reached
  rintro before action next ⟨good, least⟩ taken
  exact ⟨fence.kept before action next good taken,
    Nat.le_trans least (fence.counted before action next good taken)⟩

theorem laws : FencingLaws step view state := by
  refine ⟨fence.exclusive state holds, ?_, ?_, ?_⟩
  · intro action epoch next took stepped
    obtain ⟨free, own, _⟩ := fence.granted state action epoch next holds took stepped
    exact ⟨free, own⟩
  · intro action epoch next later final action' epoch' took stepped reached took'
    have bounded := (fence.granted state action epoch next holds took stepped).2.2
    obtain ⟨good, least⟩ :=
      fence.run_counted (fence.kept state action next holds stepped) reached
    have larger := fence.fresh final action' epoch' good took'
    omega
  · intro action epoch next
    exact fence.fenced state action epoch next holds

theorem run_laws (reached : runActions step state actions = some final) :
    FencingLaws step view final :=
  fence.laws (fence.run_counted holds reached).1

end

end Fenced

section Projection

variable {Outer OuterAction : Type}

/-- Every outer step is one inner step, or leaves the inner state alone. -/
structure Projects (outerStep : Outer → OuterAction → Option Outer)
    (step : State → Action → Option State) (project : Outer → State)
    (inner : Outer → OuterAction → Option Action) : Prop where
  moved : ∀ outer action next innerAction, outerStep outer action = some next →
    inner outer action = some innerAction → step (project outer) innerAction = some (project next)
  still : ∀ outer action next, outerStep outer action = some next → inner outer action = none →
    project next = project outer

def EpochView.pull (view : EpochView State Action) (project : Outer → State)
    (inner : Outer → OuterAction → Option Action) : EpochView Outer OuterAction :=
  { held := fun outer => view.held (project outer)
    taken := fun outer action => (inner outer action).bind (view.taken (project outer))
    returned := fun outer action => (inner outer action).bind (view.returned (project outer)) }

theorem Fenced.pull {outerStep : Outer → OuterAction → Option Outer}
    {step : State → Action → Option State} {view : EpochView State Action}
    {invariant : State → Prop} {counter : State → Nat} {project : Outer → State}
    {inner : Outer → OuterAction → Option Action} (projects : Projects outerStep step project inner)
    (fence : Fenced step view invariant counter) :
    Fenced outerStep (view.pull project inner) (fun outer => invariant (project outer))
      (fun outer => counter (project outer)) := by
  refine ⟨?_, ?_, ?_, ?_, ?_, ?_⟩
  · intro outer action next holds stepped
    cases chosen : inner outer action with
    | none =>
      rw [projects.still outer action next stepped chosen]
      exact holds
    | some =>
      exact fence.kept _ _ _ holds (projects.moved outer action next _ stepped chosen)
  · intro outer holds
    exact fence.exclusive _ holds
  · intro outer action next holds stepped
    cases chosen : inner outer action with
    | none =>
      exact Nat.le_of_eq (congrArg counter (projects.still outer action next stepped chosen)).symm
    | some =>
      exact fence.counted _ _ _ holds (projects.moved outer action next _ stepped chosen)
  · intro outer action epoch holds took
    obtain ⟨innerAction, chosen, innerTook⟩ := Option.bind_eq_some_iff.mp took
    exact fence.fresh _ _ _ holds innerTook
  · intro outer action epoch next holds took stepped
    obtain ⟨innerAction, chosen, innerTook⟩ := Option.bind_eq_some_iff.mp took
    exact fence.granted _ _ _ _ holds innerTook (projects.moved outer action next _ stepped chosen)
  · intro outer action epoch next holds gave stepped
    obtain ⟨innerAction, chosen, innerGave⟩ := Option.bind_eq_some_iff.mp gave
    exact fence.fenced _ _ _ _ holds innerGave (projects.moved outer action next _ stepped chosen)

end Projection

end TaskService.Library
