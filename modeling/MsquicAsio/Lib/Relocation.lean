/-
An object that is moved while operations on it are under way.

The operations of an object are numbered, and share a world; each has positions
of its own that say how far it has come.  When the object is moved, the world
goes to the new object.  An operation that began before goes on with the old
one, and may find there that what it looks up is gone.

The main result compares the run that goes on without the move with the run
over the same actions after it.
-/
import Mathlib.Logic.Function.Basic
import MsquicAsio.Lib.Machine

set_option autoImplicit false

universe u v w x

/-- How the operations of an object take their steps: on the object, and on
the one that was moved from. -/
structure ObjectOperations (World : Type u) (Positions : Type v)
    (Action : Type w) (Told : Type x) where
  step : World → Action → World
  enabled : World → Action → Bool
  positions : World → Positions
  withPositions : World → Positions → World
  /-- What an operation that makes this step is told by it. -/
  told : World → Action → Option Told
  outside : Action → Bool
  begins : Action → Bool
  /-- No call is in progress: what is left of the operation waits. -/
  returned : Positions → Bool
  /-- The step on an object that was moved from, if it can be made. -/
  displaced : World → Action → Option (World × Option Told)
  looksUp : Action → Bool
  positions_with : ∀ world place,
    positions (withPositions world place) = place
  returned_step : ∀ world action, enabled world action = true →
    outside action = false → begins action = false →
      returned (positions world) = true →
        returned (positions (step world action)) = true
  displaced_of_looksUp : ∀ world action, enabled world action = true →
    outside action = false → begins action = false →
      returned (positions world) = true → looksUp action = true →
        displaced world action = none
  displaced_of_local : ∀ world action, enabled world action = true →
    outside action = false → begins action = false → looksUp action = false →
      displaced world action = some (step world action, told world action)

inductive ObjectAction (Action : Type w)
  | outside (action : Action)
  | operation (number : Nat) (action : Action)
  deriving DecidableEq

namespace ObjectAction

variable {Action : Type w}

def number? : ObjectAction Action → Option Nat
  | .outside _ => none
  | .operation number _ => some number

def numbers (actions : List (ObjectAction Action)) : List Nat :=
  actions.filterMap number?

private theorem mem_numbers_append {actions more : List (ObjectAction Action)}
    {number : Nat} (member : number ∈ numbers actions) :
    number ∈ numbers (actions ++ more) := by
  unfold numbers
  rw [List.filterMap_append]
  exact List.mem_append_left _ member

end ObjectAction

structure ObjectState (World : Type u) (Positions : Type v)
    (Told : Type x) where
  world : World
  positions : Nat → Positions
  told : List (Nat × Told)

namespace ObjectOperations

variable {World : Type u} {Positions : Type v} {Action : Type w}
  {Told : Type x} (ops : ObjectOperations World Positions Action Told)

def seen (state : ObjectState World Positions Told) (number : Nat) : World :=
  ops.withPositions state.world (state.positions number)

def after (state : ObjectState World Positions Told) (number : Nat)
    (stepped : World) (told : Option Told) :
    ObjectState World Positions Told where
  world := stepped
  positions :=
    Function.update state.positions number (ops.positions stepped)
  told := state.told ++ (told.map fun outcome => (number, outcome)).toList

def run (state : ObjectState World Positions Told) :
    ObjectAction Action → ObjectState World Positions Told
  | .outside action => { state with world := ops.step state.world action }
  | .operation number action =>
      ops.after state number (ops.step (ops.seen state number) action)
        (ops.told (ops.seen state number) action)

def machine (initial : World) :
    Machine (ObjectState World Positions Told) (ObjectAction Action) where
  initial := ⟨initial, fun _ => ops.positions initial, []⟩
  step := ops.run

def inOrder : Environment (ObjectState World Positions Told)
    (ObjectAction Action) :=
  fun actions state action =>
    match action with
    | .outside action =>
        ops.outside action = true ∧ ops.enabled state.world action = true
    | .operation number action =>
        ops.outside action = false ∧
          ops.enabled (ops.seen state number) action = true ∧
          (ops.begins action = true → number ∉ ObjectAction.numbers actions)

instance (actions : List (ObjectAction Action))
    (state : ObjectState World Positions Told)
    (action : ObjectAction Action) :
    Decidable (ops.inOrder actions state action) := by
  unfold inOrder
  split <;> infer_instance

/-! ### The run after a move -/

structure MovedState (World : Type u) (Positions : Type v)
    (Told : Type x) where
  state : ObjectState World Positions Told
  crashed : Bool

/-- An operation that made a step before the move goes on with the old
object. -/
def movedStep (before : List (ObjectAction Action))
    (moved : MovedState World Positions Told) :
    ObjectAction Action → MovedState World Positions Told
  | .outside action =>
      if moved.crashed = true then moved
      else { moved with state := ops.run moved.state (.outside action) }
  | .operation number action =>
      if moved.crashed = true then moved
      else if number ∈ ObjectAction.numbers before then
        match ops.displaced (ops.seen moved.state number) action with
        | none => { moved with crashed := true }
        | some (stepped, told) =>
            { moved with state := ops.after moved.state number stepped told }
      else { moved with state := ops.run moved.state (.operation number action) }

def movedMachine (initial : World) (before : List (ObjectAction Action)) :
    Machine (MovedState World Positions Told) (ObjectAction Action) where
  initial := ⟨(ops.machine initial).exec before, false⟩
  step := ops.movedStep before

/-- What the operations were told in the run without the move, they are told in
the run with it. -/
def Undisturbed (initial : World) (before after : List (ObjectAction Action))
    (moved : MovedState World Positions Told) : Prop :=
  moved.crashed = false ∧
    moved.state.told = ((ops.machine initial).exec (before ++ after)).told

/-- No operation that made a step before the move looks up anything after
it. -/
def StaysLocal (before : List (ObjectAction Action))
    (_ : List (ObjectAction Action)) (_ : MovedState World Positions Told)
    (action : ObjectAction Action) : Prop :=
  ∀ number step, action = .operation number step →
    number ∈ ObjectAction.numbers before → ops.looksUp step = false

/-! ### The two runs side by side -/

variable {ops} {initial : World} {before after actions : List (ObjectAction Action)}
  {state : ObjectState World Positions Told}
  {moved : MovedState World Positions Told} {action : ObjectAction Action}

private theorem begins_false {number : Nat} {step : Action}
    (allowed : ops.inOrder actions state (.operation number step))
    (used : number ∈ ObjectAction.numbers actions) :
    ops.begins step = false := by
  by_contra begins
  rw [Bool.not_eq_false] at begins
  exact allowed.2.2 begins used

def AllReturned (ops : ObjectOperations World Positions Action Told)
    (numbers : List Nat) (state : ObjectState World Positions Told) : Prop :=
  ∀ number ∈ numbers, ops.returned (state.positions number) = true

instance (numbers : List Nat) (state : ObjectState World Positions Told) :
    Decidable (ops.AllReturned numbers state) :=
  inferInstanceAs (Decidable (∀ number ∈ numbers, _ = true))

private theorem AllReturned.run {numbers : List Nat}
    (returned : ops.AllReturned numbers state)
    (used : ∀ number ∈ numbers, number ∈ ObjectAction.numbers actions)
    (allowed : ops.inOrder actions state action) :
    ops.AllReturned numbers (ops.run state action) := by
  intro number member
  cases action with
  | outside action => exact returned number member
  | operation other step =>
      by_cases same : number = other
      · subst same
        have seen : ops.returned (ops.positions (ops.seen state number)) =
            true := by
          rw [seen, ops.positions_with]
          exact returned number member
        simp only [ObjectOperations.run, ObjectOperations.after,
          Function.update_self]
        exact ops.returned_step _ _ allowed.2.1 allowed.1
          (begins_false allowed (used number member)) seen
      · simp only [ObjectOperations.run, ObjectOperations.after,
          Function.update_of_ne same]
        exact returned number member

private theorem allReturned_of_run
    (run : (ops.machine initial).Run ops.inOrder actions state)
    (isPrefix : before <+: actions)
    (returned : ops.AllReturned (ObjectAction.numbers before)
      ((ops.machine initial).exec before)) :
    ops.AllReturned (ObjectAction.numbers before) state := by
  refine run.invariant_from
    (fun _ state => ops.AllReturned (ObjectAction.numbers before) state)
    returned ?_ isPrefix
  intro actions state action _ inside returned allowed
  obtain ⟨more, rfl⟩ := inside
  exact returned.run (fun number => ObjectAction.mem_numbers_append) allowed

/-- A step that looks nothing up is the same on both objects. -/
private theorem movedStep_local (same : moved.state = state)
    (runs : moved.crashed = false)
    (allowed : ops.inOrder (before ++ actions) state action)
    (stays : ops.StaysLocal before actions moved action) :
    ops.movedStep before moved action = ⟨ops.run state action, false⟩ := by
  subst same
  cases action with
  | outside action =>
      simp only [movedStep, runs, Bool.false_eq_true, if_false]
  | operation number step =>
      by_cases old : number ∈ ObjectAction.numbers before
      · have began := begins_false allowed (ObjectAction.mem_numbers_append old)
        have displaced := ops.displaced_of_local
          (ops.seen moved.state number) step allowed.2.1 allowed.1 began
          (stays number step rfl old)
        simp only [movedStep, runs, Bool.false_eq_true, if_false, old, if_true,
          displaced, run]
      · simp only [movedStep, runs, Bool.false_eq_true, if_false, old]

/-- A step that looks up what has gone does not come to its end. -/
private theorem movedStep_looksUp {number : Nat} {step : Action}
    (same : moved.state = state)
    (allowed : ops.inOrder (before ++ actions) state (.operation number step))
    (old : number ∈ ObjectAction.numbers before)
    (returned : ops.AllReturned (ObjectAction.numbers before) state)
    (looksUp : ops.looksUp step = true) :
    (ops.movedStep before moved (.operation number step)).crashed = true := by
  subst same
  have began := begins_false allowed (ObjectAction.mem_numbers_append old)
  have seen : ops.returned (ops.positions (ops.seen moved.state number)) =
      true := by
    rw [seen, ops.positions_with]
    exact returned number old
  have displaced := ops.displaced_of_looksUp _ _ allowed.2.1 allowed.1 began
    seen looksUp
  simp only [movedStep, old, if_true, displaced]
  split
  · assumption
  · rfl

/-- The actions after the move, allowed as in the run without it. -/
def follows (ops : ObjectOperations World Positions Action Told)
    (initial : World) (before : List (ObjectAction Action)) :
    Environment (MovedState World Positions Told) (ObjectAction Action) :=
  fun actions _ action => ops.inOrder (before ++ actions)
    ((ops.machine initial).exec (before ++ actions)) action

private theorem follows_of_run
    (run : (ops.machine initial).Run ops.inOrder (before ++ after) state) :
    (ops.movedMachine initial before).Run (ops.follows initial before) after
      ((ops.movedMachine initial before).exec after) := by
  induction after using List.reverseRecOn generalizing state with
  | nil =>
      exact .initial
  | append_singleton actions action ih =>
      rw [← List.append_assoc] at run
      obtain ⟨previous, earlier, allowed, _⟩ := run.last
      rw [Machine.exec_append]
      refine .step (ih earlier) ?_
      rw [follows, ← earlier.state_eq]
      exact allowed

private theorem exec_concat (initial : World)
    (before actions : List (ObjectAction Action))
    (action : ObjectAction Action) :
    (ops.machine initial).exec (before ++ (actions ++ [action])) =
      ops.run ((ops.machine initial).exec (before ++ actions)) action := by
  rw [← List.append_assoc, Machine.exec_append]
  rfl

private theorem run_of_follows
    (run : (ops.machine initial).Run ops.inOrder before state)
    (moving : (ops.movedMachine initial before).Run (ops.follows initial before)
      actions moved) :
    (ops.machine initial).Run ops.inOrder (before ++ actions)
      ((ops.machine initial).exec (before ++ actions)) := by
  refine moving.invariant (fun actions _ =>
    (ops.machine initial).Run ops.inOrder (before ++ actions)
      ((ops.machine initial).exec (before ++ actions))) ?_ ?_
  · rw [List.append_nil, ← run.state_eq]
    exact run
  · intro actions moved action _ earlier allowed
    rw [exec_concat, ← List.append_assoc]
    exact .step earlier allowed

private theorem same_state
    (moving : (ops.movedMachine initial before).Run (ops.follows initial before)
      actions moved)
    (stays : (ops.movedMachine initial before).EachStep (ops.StaysLocal before)
      actions) :
    moved = ⟨(ops.machine initial).exec (before ++ actions), false⟩ := by
  refine (moving.conditioned stays).invariant (fun actions moved =>
    moved = ⟨(ops.machine initial).exec (before ++ actions), false⟩) ?_ ?_
  · rw [List.append_nil]
    rfl
  · intro actions moved action _ same allowed
    subst same
    rw [exec_concat]
    exact movedStep_local rfl rfl allowed.1 allowed.2

/-- The operations are undisturbed at every point after the move, exactly when
none from before it looks anything up after it. -/
theorem undisturbed_iff
    (run : (ops.machine initial).Run ops.inOrder (before ++ after) state)
    (returned : ops.AllReturned (ObjectAction.numbers before)
      ((ops.machine initial).exec before)) :
    (ops.movedMachine initial before).Throughout
        (ops.Undisturbed initial before) after ↔
      (ops.movedMachine initial before).EachStep (ops.StaysLocal before)
        after := by
  have atMove := run.of_prefix (List.prefix_append before after)
  apply (follows_of_run run).throughout_iff
  · refine ⟨rfl, ?_⟩
    rw [List.append_nil]
    rfl
  · intro actions moved action moving stays allowed _
    have same := same_state moving stays
    have plain := run_of_follows atMove moving
    have waiting := allReturned_of_run plain (List.prefix_append _ _) returned
    have sameState := congrArg MovedState.state same
    have runs := congrArg MovedState.crashed same
    have inOrder : ops.inOrder (before ++ actions)
        ((ops.machine initial).exec (before ++ actions)) action := allowed
    constructor
    · intro undisturbed number step isStep old
      by_contra looksUp
      rw [Bool.not_eq_false] at looksUp
      subst isStep
      have crashed := movedStep_looksUp sameState inOrder old waiting looksUp
      exact Bool.false_ne_true (undisturbed.1.symm.trans crashed)
    · intro staysLocal
      have stepped := movedStep_local sameState runs inOrder staysLocal
      refine ⟨congrArg MovedState.crashed stepped, ?_⟩
      rw [exec_concat]
      exact congrArg (fun moved => moved.state.told) stepped

end ObjectOperations
