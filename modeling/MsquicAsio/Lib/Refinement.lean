/-
Refinement between two machines.

A step of the lower machine stands for a list of actions of the upper one, for
none where it is internal.  When the upper machine can follow each allowed step
through a view of the state, the image of every run is a run of the upper
machine, and what holds of its runs holds of the view.
-/
import MsquicAsio.Lib.Family

set_option autoImplicit false

universe u v w x y

namespace Machine

variable {State : Type u} {Action : Type v} {View : Type w} {Target : Type x}

/-- The upper actions that a list of actions stands for, from a given state. -/
def imageFrom (machine : Machine State Action)
    (stands : State → Action → List Target) (state : State) :
    List Action → List Target
  | [] => []
  | action :: rest =>
      stands state action ++
        imageFrom machine stands (machine.step state action) rest

def image (machine : Machine State Action)
    (stands : State → Action → List Target) (actions : List Action) :
    List Target :=
  machine.imageFrom stands machine.initial actions

variable {machine : Machine State Action} {target : Machine View Target}
  {environment : Environment State Action}
  {targetEnvironment : Environment View Target}
  {stands : State → Action → List Target}

private theorem imageFrom_append (state : State) (actions : List Action)
    (action : Action) :
    machine.imageFrom stands state (actions ++ [action]) =
      machine.imageFrom stands state actions ++
        stands (actions.foldl machine.step state) action := by
  induction actions generalizing state with
  | nil =>
      simp only [List.nil_append, imageFrom, List.append_nil, List.foldl_nil]
  | cons first rest ih =>
      simp only [List.cons_append, imageFrom, ih, List.append_assoc,
        List.foldl_cons]

theorem image_append (actions : List Action) (action : Action) :
    machine.image stands (actions ++ [action]) =
      machine.image stands actions ++ stands (machine.exec actions) action :=
  imageFrom_append _ _ _

theorem image_filterMap {Item : Type y} (reads : Target → Option Item)
    (shows : Action → Option Item)
    (agree : ∀ state action,
      (stands state action).filterMap reads = (shows action).toList)
    (actions : List Action) :
    (machine.image stands actions).filterMap reads =
      actions.filterMap shows := by
  induction actions using List.reverseRecOn with
  | nil =>
      rfl
  | append_singleton actions action ih =>
      rw [image_append, List.filterMap_append, ih, agree, filterMap_concat]

structure Refines (machine : Machine State Action)
    (environment : Environment State Action) (target : Machine View Target)
    (targetEnvironment : Environment View Target) (view : State → View)
    (stands : State → Action → List Target) : Prop where
  start : view machine.initial = target.initial
  step : ∀ actions state action, machine.Run environment actions state →
    environment actions state action →
      ∀ done, target.Run targetEnvironment done (view state) →
        target.Run targetEnvironment (done ++ stands state action)
          (view (machine.step state action))

theorem Refines.run {view : State → View}
    (refines : machine.Refines environment target targetEnvironment view stands)
    {actions : List Action} {state : State}
    (run : machine.Run environment actions state) :
    target.Run targetEnvironment (machine.image stands actions)
      (view state) := by
  induction run with
  | initial =>
      rw [refines.start]
      exact .initial
  | step before allowed ih =>
      rw [image_append, ← before.state_eq]
      exact refines.step _ _ _ before allowed _ ih

/-! ### How the upper machine follows a step -/

variable {done : List Target} {state after : View}

theorem Run.stays (run : target.Run targetEnvironment done state)
    (same : after = state) :
    target.Run targetEnvironment (done ++ []) after := by
  rwa [List.append_nil, same]

theorem Run.follows (run : target.Run targetEnvironment done state)
    {action : Target} (allowed : targetEnvironment done state action)
    (same : after = target.step state action) :
    target.Run targetEnvironment (done ++ [action]) after := by
  rw [same]
  exact .step run allowed

/-- It follows by one action exactly where that is allowed. -/
theorem Run.follows_iff (run : target.Run targetEnvironment done state)
    {action : Target} :
    target.Run targetEnvironment (done ++ [action]) after ↔
      targetEnvironment done state action ∧
        after = target.step state action := by
  constructor
  · intro whole
    obtain ⟨previous, before, allowed, same⟩ := whole.last
    obtain rfl : previous = state :=
      before.state_eq.trans run.state_eq.symm
    exact ⟨allowed, same⟩
  · intro ⟨allowed, same⟩
    exact run.follows allowed same

end Machine
