/-
Running code in the state and exception monad, one statement at a time.

The core library defines `EStateM` by its functions.  These equations run a
`do` block by rewriting: each statement is applied to the present state, and
an exception stops the block and keeps the state it was thrown in.
-/
import Mathlib.Data.List.Basic

set_option autoImplicit false

namespace Exec

universe u

variable {Error State Value Next : Type u}

theorem bind_apply (first : EStateM Error State Value)
    (rest : Value → EStateM Error State Next) (state : State) :
    (first >>= rest) state =
      match first state with
      | .ok value after => rest value after
      | .error error after => .error error after :=
  rfl

theorem pure_apply (value : Value) (state : State) :
    (pure value : EStateM Error State Value) state = .ok value state :=
  rfl

theorem ite_apply (condition : Prop) [Decidable condition]
    (yes no : EStateM Error State Value) (state : State) :
    (if condition then yes else no) state =
      if condition then yes state else no state := by
  split <;> rfl

/-- The state in which code ends, whether it returns or throws. -/
def finalState (result : EStateM.Result Error State Value) : State :=
  match result with
  | .ok _ state => state
  | .error _ state => state

def thrown (result : EStateM.Result Error State Value) : Bool :=
  match result with
  | .ok _ _ => false
  | .error _ _ => true

end Exec
