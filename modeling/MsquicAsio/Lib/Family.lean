/-
Machines that run side by side.

A system is put together from components, each a machine of its own.  An action
of the system is a step of at most one component and leaves the others alone, so
what a component has gone through is read off the actions, and every result
about runs of the component holds of it inside the system.
-/
import Mathlib.Algebra.Order.BigOperators.Group.List
import Mathlib.Algebra.Order.Group.Nat
import Mathlib.Algebra.Ring.Nat
import MsquicAsio.Lib.Progress

set_option autoImplicit false

universe u v w x

namespace Machine

variable {State : Type u} {Action : Type v} {View : Type w} {Step : Type x}

theorem filterMap_concat {Item : Type x} (reads : Action → Option Item)
    (actions : List Action) (action : Action) :
    (actions ++ [action]).filterMap reads =
      actions.filterMap reads ++ (reads action).toList := by
  simp only [List.filterMap_append, List.filterMap_cons, List.filterMap_nil]
  cases reads action <;> rfl

/-- One component of a system: which of its steps an action is, and where its
state is found. -/
structure Component (system : Machine State Action)
    (part : Machine View Step) where
  route : Action → Option Step
  view : State → View
  start : view system.initial = part.initial
  own : ∀ state action step, route action = some step →
    view (system.step state action) = part.step (view state) step
  other : ∀ state action, route action = none →
    view (system.step state action) = view state

namespace Component

variable {system : Machine State Action} {part : Machine View Step}
  (component : Component system part)

def history (actions : List Action) : List Step :=
  actions.filterMap component.route

theorem history_own {action : Action} {step : Step}
    (routed : component.route action = some step) (actions : List Action) :
    component.history (actions ++ [action]) =
      component.history actions ++ [step] := by
  rw [history, filterMap_concat, routed]
  rfl

theorem history_other {action : Action}
    (routed : component.route action = none) (actions : List Action) :
    component.history (actions ++ [action]) = component.history actions := by
  rw [history, filterMap_concat, routed]
  exact List.append_nil _

theorem measure_other (measure : List Step → View → Nat)
    {action : Action} (routed : component.route action = none)
    (actions : List Action) (state : State) :
    measure (component.history (actions ++ [action]))
        (component.view (system.step state action)) =
      measure (component.history actions) (component.view state) := by
  rw [component.history_other routed, component.other state action routed]

theorem measure_own (measure : List Step → View → Nat)
    {action : Action} {step : Step}
    (routed : component.route action = some step) (actions : List Action)
    (state : State) :
    measure (component.history (actions ++ [action]))
        (component.view (system.step state action)) =
      measure (component.history actions ++ [step])
        (part.step (component.view state) step) := by
  rw [component.history_own routed, component.own state action step routed]

variable {environment : Environment State Action}
  {partEnvironment : Environment View Step}

/-- A run of the system is a run of each component. -/
theorem run
    (keeps : ∀ actions state action step,
      environment actions state action → component.route action = some step →
        partEnvironment (component.history actions) (component.view state) step)
    {actions : List Action} {state : State}
    (run : system.Run environment actions state) :
    part.Run partEnvironment (component.history actions)
      (component.view state) := by
  induction run with
  | initial =>
      rw [component.start]
      exact .initial
  | @step actions state action before allowed ih =>
      cases routed : component.route action with
      | none =>
          rw [component.history_other routed, component.other state action routed]
          exact ih
      | some step =>
          rw [component.history_own routed,
            component.own state action step routed]
          exact .step ih (keeps actions state action step allowed routed)

theorem quiet {own : Action → Bool} {partOwn : Step → Bool}
    {actions : List Action} {state : State}
    (quiet : Quiet environment own actions state) (embed : Step → Action)
    (isOwn : ∀ step, partOwn step = true → own (embed step) = true)
    (letsThrough : ∀ step, partOwn step = true →
      partEnvironment (component.history actions) (component.view state) step →
        environment actions state (embed step)) :
    Quiet partEnvironment partOwn (component.history actions)
      (component.view state) := by
  intro step stepOwn allowed
  exact quiet (embed step) (isOwn step stepOwn)
    (letsThrough step stepOwn allowed)

end Component

theorem sum_map_lt {Key : Type u} {keys : List Key} (before after : Key → Nat)
    {moved : Key} (member : moved ∈ keys) (lower : after moved < before moved)
    (others : ∀ key, key ≠ moved → after key = before key) :
    (keys.map after).sum < (keys.map before).sum := by
  apply List.sum_lt_sum
  · intro key _
    by_cases same : key = moved
    · rw [same]
      exact Nat.le_of_lt lower
    · exact Nat.le_of_eq (others key same)
  · exact ⟨moved, member, lower⟩

end Machine
