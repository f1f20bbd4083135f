/-
Labelled deterministic machines and their runs.

A machine fixes an initial state and a total step function.  What the outside
world may do next is a separate predicate, the environment, which sees the
actions taken so far, the present state and the proposed action.  A run is a
list of actions each of which its environment allowed.

The module gives the rules every safety argument uses: an invariant over the
history, restriction of a run to a prefix, projection of a run onto a smaller
machine, and the exact form of "the property holds in every state of the run"
as a condition on the individual steps.
-/
import Mathlib.Data.List.Basic
import Mathlib.Data.List.Infix

set_option autoImplicit false

universe u v w

/-- The actions already taken, the present state, the proposed action. -/
abbrev Environment (State : Type u) (Action : Type v) :=
  List Action → State → Action → Prop

structure Machine (State : Type u) (Action : Type v) where
  initial : State
  step : State → Action → State

namespace Machine

variable {State : Type u} {Action : Type v} {View : Type w}

def exec (machine : Machine State Action) (actions : List Action) : State :=
  actions.foldl machine.step machine.initial

theorem exec_append (machine : Machine State Action)
    (actions : List Action) (action : Action) :
    machine.exec (actions ++ [action]) =
      machine.step (machine.exec actions) action := by
  simp only [exec, List.foldl_append, List.foldl_cons, List.foldl_nil]

/-- The runs of a machine under an environment, built at the end. -/
inductive Run (machine : Machine State Action)
    (environment : Environment State Action) : List Action → State → Prop
  | initial : Run machine environment [] machine.initial
  | step {actions : List Action} {state : State} {action : Action}
      (before : Run machine environment actions state)
      (allowed : environment actions state action) :
      Run machine environment (actions ++ [action]) (machine.step state action)

variable {machine : Machine State Action}
  {environment : Environment State Action}

theorem Run.state_eq {actions : List Action} {state : State}
    (run : Run machine environment actions state) :
    state = machine.exec actions := by
  induction run with
  | initial =>
      rfl
  | step before allowed ih =>
      rw [exec_append, ih]

theorem Run.last {actions : List Action} {action : Action} {state : State}
    (run : Run machine environment (actions ++ [action]) state) :
    ∃ previous, Run machine environment actions previous ∧
      environment actions previous action ∧
      state = machine.step previous action := by
  generalize whole : actions ++ [action] = all at run
  cases run with
  | initial =>
      exact absurd whole (by simp)
  | @step earlier previous last before allowed =>
      obtain ⟨rfl, same⟩ := List.append_inj' whole rfl
      obtain rfl := List.singleton_inj.mp same
      exact ⟨previous, before, allowed, rfl⟩

theorem Run.of_prefix {early actions : List Action} {state : State}
    (run : Run machine environment actions state)
    (isPrefix : early <+: actions) :
    Run machine environment early (machine.exec early) := by
  induction run with
  | initial =>
      obtain rfl := List.prefix_nil.mp isPrefix
      exact .initial
  | step before allowed ih =>
      rcases List.prefix_concat_iff.mp isPrefix with same | shorter
      · have whole := Run.step before allowed
        subst same
        rwa [← whole.state_eq]
      · exact ih shorter

theorem Run.allowed_at {early actions : List Action} {action : Action}
    {state : State} (run : Run machine environment actions state)
    (isPrefix : early ++ [action] <+: actions) :
    environment early (machine.exec early) action := by
  obtain ⟨previous, before, allowed, _⟩ := (run.of_prefix isPrefix).last
  rwa [← before.state_eq]

theorem Run.mono {weaker : Environment State Action}
    (weaken : ∀ actions state action,
      environment actions state action → weaker actions state action)
    {actions : List Action} {state : State}
    (run : Run machine environment actions state) :
    Run machine weaker actions state := by
  induction run with
  | initial =>
      exact .initial
  | step before allowed ih =>
      exact .step ih (weaken _ _ _ allowed)

/-- The induction rule for a history invariant. -/
theorem Run.invariant (Invariant : List Action → State → Prop)
    (start : Invariant [] machine.initial)
    (preserved : ∀ actions state action,
      Run machine environment actions state → Invariant actions state →
        environment actions state action →
        Invariant (actions ++ [action]) (machine.step state action))
    {actions : List Action} {state : State}
    (run : Run machine environment actions state) :
    Invariant actions state := by
  induction run with
  | initial =>
      exact start
  | step before allowed ih =>
      exact preserved _ _ _ before ih allowed

/-- An invariant that is reached at some point of a run and kept from there. -/
theorem Run.invariant_from (Invariant : List Action → State → Prop)
    {early : List Action} (reached : Invariant early (machine.exec early))
    (preserved : ∀ actions state action,
      Run machine environment actions state → early <+: actions →
        Invariant actions state → environment actions state action →
        Invariant (actions ++ [action]) (machine.step state action))
    {actions : List Action} {state : State}
    (run : Run machine environment actions state)
    (isPrefix : early <+: actions) : Invariant actions state := by
  induction run with
  | initial =>
      obtain rfl := List.prefix_nil.mp isPrefix
      exact reached
  | @step actions state action before allowed ih =>
      rcases List.prefix_concat_iff.mp isPrefix with same | inside
      · rw [same, exec_append, ← before.state_eq] at reached
        exact reached
      · exact preserved _ _ _ before inside (ih inside) allowed

/-- A view that commutes with every allowed step carries runs to runs of the
machine it projects onto. -/
theorem Run.project {target : Machine View Action}
    {targetEnvironment : Environment View Action} (view : State → View)
    (start : view machine.initial = target.initial)
    (simulates : ∀ actions state action,
      Run machine environment actions state →
      Run target targetEnvironment actions (view state) →
      environment actions state action →
        targetEnvironment actions (view state) action ∧
          view (machine.step state action) = target.step (view state) action)
    {actions : List Action} {state : State}
    (run : Run machine environment actions state) :
    Run target targetEnvironment actions (view state) := by
  induction run with
  | initial =>
      rw [start]
      exact .initial
  | step before allowed ih =>
      obtain ⟨targetAllowed, commutes⟩ := simulates _ _ _ before ih allowed
      rw [commutes]
      exact .step ih targetAllowed

/-! ### Properties of every state, as conditions on the steps -/

/-- The property holds in the state after every prefix of the actions. -/
def Throughout (machine : Machine State Action)
    (property : List Action → State → Prop) (actions : List Action) : Prop :=
  ∀ early, early <+: actions → property early (machine.exec early)

/-- Every action meets the condition in the state where it is taken. -/
def EachStep (machine : Machine State Action)
    (condition : List Action → State → Action → Prop)
    (actions : List Action) : Prop :=
  ∀ early action, early ++ [action] <+: actions →
    condition early (machine.exec early) action

theorem throughout_append_iff (property : List Action → State → Prop)
    (actions : List Action) (action : Action) :
    machine.Throughout property (actions ++ [action]) ↔
      machine.Throughout property actions ∧
        property (actions ++ [action])
          (machine.step (machine.exec actions) action) := by
  constructor
  · intro every
    refine ⟨fun early isPrefix =>
      every early (isPrefix.trans (List.prefix_append _ _)), ?_⟩
    have whole := every _ List.prefix_rfl
    rwa [exec_append] at whole
  · rintro ⟨shorter, last⟩ early isPrefix
    rcases List.prefix_concat_iff.mp isPrefix with same | inside
    · rw [same, exec_append]
      exact last
    · exact shorter early inside

theorem eachStep_append_iff
    (condition : List Action → State → Action → Prop)
    (actions : List Action) (action : Action) :
    machine.EachStep condition (actions ++ [action]) ↔
      machine.EachStep condition actions ∧
        condition actions (machine.exec actions) action := by
  constructor
  · intro every
    exact ⟨fun early last isPrefix =>
      every early last (isPrefix.trans (List.prefix_append _ _)),
      every actions action List.prefix_rfl⟩
  · rintro ⟨shorter, last⟩ early other isPrefix
    rcases List.prefix_concat_iff.mp isPrefix with same | inside
    · obtain ⟨rfl, sameAction⟩ := List.append_inj' same rfl
      obtain rfl := List.singleton_inj.mp sameAction
      exact last
    · exact shorter early other inside

/-- When one step keeps the property and ends as it should exactly under the
condition, so does a run exactly when all of its steps meet the condition. -/
theorem Run.throughout_eachStep_iff {property : List Action → State → Prop}
    {ends condition : List Action → State → Action → Prop}
    (start : property [] machine.initial)
    (exact_step : ∀ actions state action,
      Run machine environment actions state →
      machine.EachStep condition actions →
      environment actions state action → property actions state →
        (property (actions ++ [action]) (machine.step state action) ∧
            ends actions state action ↔
          condition actions state action))
    {actions : List Action} {state : State}
    (run : Run machine environment actions state) :
    machine.Throughout property actions ∧ machine.EachStep ends actions ↔
      machine.EachStep condition actions := by
  induction run with
  | initial =>
      constructor
      · intro _ early action isPrefix
        exact absurd (List.prefix_nil.mp isPrefix) (by simp)
      · intro _
        constructor
        · intro early isPrefix
          obtain rfl := List.prefix_nil.mp isPrefix
          exact start
        · intro early action isPrefix
          exact absurd (List.prefix_nil.mp isPrefix) (by simp)
  | @step actions state action before allowed ih =>
      rw [throughout_append_iff, eachStep_append_iff, eachStep_append_iff,
        ← before.state_eq, and_and_and_comm, ih]
      refine and_congr_right (fun steps => ?_)
      have holds := (ih.mpr steps).1 actions List.prefix_rfl
      rw [← before.state_eq] at holds
      exact exact_step _ _ _ before steps allowed holds

/-- When one step keeps the property exactly under the condition, a run keeps
it exactly when all of its steps meet the condition. -/
theorem Run.throughout_iff {property : List Action → State → Prop}
    {condition : List Action → State → Action → Prop}
    (start : property [] machine.initial)
    (exact_step : ∀ actions state action,
      Run machine environment actions state →
      machine.EachStep condition actions →
      environment actions state action → property actions state →
        (property (actions ++ [action]) (machine.step state action) ↔
          condition actions state action))
    {actions : List Action} {state : State}
    (run : Run machine environment actions state) :
    machine.Throughout property actions ↔
      machine.EachStep condition actions := by
  have exactBoth : ∀ actions state action,
      Run machine environment actions state →
      machine.EachStep condition actions →
      environment actions state action → property actions state →
        (property (actions ++ [action]) (machine.step state action) ∧ True ↔
          condition actions state action) := by
    intro actions state action before steps allowed holds
    rw [and_true]
    exact exact_step actions state action before steps allowed holds
  rw [← run.throughout_eachStep_iff start exactBoth]
  exact (and_iff_left fun _ _ _ => trivial).symm

theorem Run.conditioned {condition : List Action → State → Action → Prop}
    {actions : List Action} {state : State}
    (run : Run machine environment actions state)
    (steps : machine.EachStep condition actions) :
    Run machine (fun actions state action =>
      environment actions state action ∧ condition actions state action)
      actions state := by
  induction run with
  | initial =>
      exact .initial
  | step before allowed ih =>
      obtain ⟨earlier, last⟩ := (eachStep_append_iff _ _ _).mp steps
      rw [← before.state_eq] at last
      exact .step (ih earlier) ⟨allowed, last⟩

/-! ### Deciding that a list of actions is a run -/

def checks (machine : Machine State Action)
    (environment : Environment State Action)
    [∀ actions state action, Decidable (environment actions state action)]
    (done : List Action) (state : State) : List Action → Bool
  | [] => true
  | action :: rest =>
      decide (environment done state action) &&
        checks machine environment (done ++ [action])
          (machine.step state action) rest

theorem Run.extend
    [∀ actions state action, Decidable (environment actions state action)]
    {done rest : List Action} {state : State}
    (run : Run machine environment done state)
    (checked : machine.checks environment done state rest = true) :
    Run machine environment (done ++ rest) (rest.foldl machine.step state) := by
  induction rest generalizing done state with
  | nil =>
      simpa only [List.append_nil, List.foldl_nil] using run
  | cons action rest ih =>
      simp only [checks, Bool.and_eq_true, decide_eq_true_eq] at checked
      have whole := ih (.step run checked.1) checked.2
      rwa [List.append_assoc] at whole

theorem run_of_checks
    [∀ actions state action, Decidable (environment actions state action)]
    (actions : List Action)
    (checked : machine.checks environment [] machine.initial actions = true) :
    Run machine environment actions (machine.exec actions) :=
  Run.extend .initial checked

end Machine
