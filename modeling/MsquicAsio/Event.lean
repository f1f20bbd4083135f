/-
`event` on its two platforms.

On POSIX the event is an eventfd counter, to which `set` adds and which `reset`
reads; on Windows it is a manual-reset event.  Both are run over the same calls.
-/
import MsquicAsio.Lib.Machine

set_option autoImplicit false

namespace MsquicAsio

inductive EventCall
  | set
  | reset
  deriving DecidableEq

/-! ### The eventfd counter -/

/-- How `read` and `write` end.  A call that cannot go on blocks, or fails if
the descriptor is a non-blocking one. -/
inductive IoResult
  | done (value counter : Nat)
  | blocks
  | fails
  deriving DecidableEq

namespace Eventfd

def max : Nat := UInt64.size - 2

def wouldBlock (nonBlocking : Bool) : IoResult :=
  if nonBlocking = true then .fails else .blocks

def write (nonBlocking : Bool) (counter value : Nat) : IoResult :=
  if counter + value ≤ max then .done value (counter + value)
  else wouldBlock nonBlocking

def read (nonBlocking : Bool) (counter : Nat) : IoResult :=
  if counter = 0 then wouldBlock nonBlocking else .done counter 0

end Eventfd

/-! ### `event` -/

inductive EventAssert
  | setWrote
  | resetRead
  | resetValue
  deriving DecidableEq

structure PosixEvent where
  counter : Nat
  blocked : Bool
  failed : List EventAssert
  deriving DecidableEq

namespace PosixEvent

def dataNum : Nat := 0xf

/-- `eventfd(0, 0)`. -/
def initial : PosixEvent where
  counter := 0
  blocked := false
  failed := []

def set (nonBlocking : Bool) (event : PosixEvent) : PosixEvent :=
  match Eventfd.write nonBlocking event.counter dataNum with
  | .done _ counter => { event with counter := counter }
  | .blocks => { event with blocked := true }
  | .fails => { event with failed := event.failed ++ [.setWrote] }

/-- After a failed `read` the variable `u` is still zero. -/
def reset (nonBlocking : Bool) (event : PosixEvent) : PosixEvent :=
  match Eventfd.read nonBlocking event.counter with
  | .done value counter =>
      { event with
        counter := counter
        failed := event.failed ++
          if value = dataNum then [] else [.resetValue] }
  | .blocks => { event with blocked := true }
  | .fails =>
      { event with failed := event.failed ++ [.resetRead, .resetValue] }

/-- `posix_descriptor::async_wait` waits until the descriptor is readable. -/
def waitSatisfied (event : PosixEvent) : Bool := decide (event.counter ≠ 0)

end PosixEvent

structure WindowsEvent where
  signaled : Bool
  deriving DecidableEq

namespace WindowsEvent

/-- `CreateEvent` with a non-signaled initial state. -/
def initial : WindowsEvent := ⟨false⟩

/-- `SetEvent`. -/
def set (_ : WindowsEvent) : WindowsEvent := ⟨true⟩

/-- `ResetEvent`. -/
def reset (_ : WindowsEvent) : WindowsEvent := ⟨false⟩

def waitSatisfied (event : WindowsEvent) : Bool := event.signaled

end WindowsEvent

/-! ### Both over the same calls -/

structure EventWorld where
  posix : PosixEvent
  windows : WindowsEvent
  deriving DecidableEq

namespace EventWorld

/-- A blocked POSIX call lets no further one begin. -/
def step (nonBlocking : Bool) (world : EventWorld) : EventCall → EventWorld
  | .set =>
      { posix :=
          if world.posix.blocked = true then world.posix
          else world.posix.set nonBlocking
        windows := world.windows.set }
  | .reset =>
      { posix :=
          if world.posix.blocked = true then world.posix
          else world.posix.reset nonBlocking
        windows := world.windows.reset }

end EventWorld

def eventMachine (nonBlocking : Bool) : Machine EventWorld EventCall where
  initial := ⟨.initial, .initial⟩
  step := EventWorld.step nonBlocking

def anyCalls : Environment EventWorld EventCall :=
  fun _ _ _ => True

private theorem run_anyCalls (nonBlocking : Bool) (calls : List EventCall) :
    (eventMachine nonBlocking).Run anyCalls calls
      ((eventMachine nonBlocking).exec calls) := by
  induction calls using List.reverseRecOn with
  | nil =>
      exact .initial
  | append_singleton calls call ih =>
      rw [Machine.exec_append]
      exact .step ih trivial

/-! ### Counting the sets -/

def setsSinceReset (calls : List EventCall) : Nat :=
  calls.foldl (fun sets call =>
    match call with
    | .set => sets + 1
    | .reset => 0) 0

private theorem setsSinceReset_set (calls : List EventCall) :
    setsSinceReset (calls ++ [.set]) = setsSinceReset calls + 1 := by
  simp only [setsSinceReset, List.foldl_append, List.foldl_cons,
    List.foldl_nil]

private theorem setsSinceReset_reset (calls : List EventCall) :
    setsSinceReset (calls ++ [.reset]) = 0 := by
  simp only [setsSinceReset, List.foldl_append, List.foldl_cons,
    List.foldl_nil]

def lastIsSet (calls : List EventCall) : Bool :=
  decide (calls.getLast? = some .set)

private theorem lastIsSet_eq (calls : List EventCall) :
    lastIsSet calls = decide (setsSinceReset calls ≠ 0) := by
  induction calls using List.reverseRecOn with
  | nil =>
      rfl
  | append_singleton calls call ih =>
      unfold lastIsSet
      rw [List.getLast?_concat]
      cases call with
      | set =>
          rw [setsSinceReset_set]
          exact (decide_eq_true rfl).trans
            (decide_eq_true (Nat.succ_ne_zero _)).symm
      | reset =>
          rw [setsSinceReset_reset]
          rfl

namespace EventWorld

variable {nonBlocking : Bool} {calls : List EventCall} {world : EventWorld}
  {call : EventCall}

/-- No assertion has failed, no call blocks, and both waits are satisfied
exactly if the last call was `set`. -/
structure Agrees (calls : List EventCall) (world : EventWorld) : Prop where
  noAssert : world.posix.failed = []
  returns : world.posix.blocked = false
  sameWait : world.posix.waitSatisfied = world.windows.waitSatisfied
  lastCall : world.windows.waitSatisfied = lastIsSet calls

/-- `reset` comes after exactly one `set`, and `set` while the counter has
room. -/
def SetOnce (calls : List EventCall) (_ : EventWorld) : EventCall → Prop
  | .set => (setsSinceReset calls + 1) * PosixEvent.dataNum ≤ Eventfd.max
  | .reset => setsSinceReset calls = 1

structure Counted (calls : List EventCall) (world : EventWorld) : Prop where
  counter : world.posix.counter = setsSinceReset calls * PosixEvent.dataNum
  noAssert : world.posix.failed = []
  returns : world.posix.blocked = false
  signaled : world.windows.signaled = lastIsSet calls

private theorem counted_initial :
    Counted [] (eventMachine nonBlocking).initial where
  counter := rfl
  noAssert := rfl
  returns := rfl
  signaled := rfl

private theorem Counted.agrees (counted : Counted calls world) :
    Agrees calls world where
  noAssert := counted.noAssert
  returns := counted.returns
  sameWait := by
    unfold PosixEvent.waitSatisfied WindowsEvent.waitSatisfied
    rw [counted.signaled, lastIsSet_eq, counted.counter]
    apply decide_eq_decide.mpr
    unfold PosixEvent.dataNum
    omega
  lastCall := counted.signaled

private theorem Counted.set (counted : Counted calls world)
    (room : SetOnce calls world .set) :
    Counted (calls ++ [.set]) (world.step nonBlocking .set) := by
  have writes : Eventfd.write nonBlocking world.posix.counter
      PosixEvent.dataNum =
        .done PosixEvent.dataNum
          (setsSinceReset (calls ++ [.set]) * PosixEvent.dataNum) := by
    unfold Eventfd.write
    unfold SetOnce at room
    rw [counted.counter, setsSinceReset_set, ← Nat.succ_mul, if_pos room]
  simp only [step, counted.returns, PosixEvent.set, writes, Bool.false_eq_true,
    if_false]
  exact
    { counter := rfl
      noAssert := counted.noAssert
      returns := rfl
      signaled := by
        rw [lastIsSet_eq, setsSinceReset_set]
        exact (decide_eq_true (Nat.succ_ne_zero _)).symm }

private theorem Counted.reset (counted : Counted calls world)
    (once : SetOnce calls world .reset) :
    Counted (calls ++ [.reset]) (world.step nonBlocking .reset) := by
  have reads : Eventfd.read nonBlocking world.posix.counter =
      .done PosixEvent.dataNum 0 := by
    unfold Eventfd.read
    unfold SetOnce at once
    rw [counted.counter, once, Nat.one_mul]
    rfl
  simp only [step, counted.returns, PosixEvent.reset, reads,
    Bool.false_eq_true, if_false, if_true, List.append_nil]
  exact
    { counter := by rw [setsSinceReset_reset, Nat.zero_mul]
      noAssert := counted.noAssert
      returns := rfl
      signaled := by
        rw [lastIsSet_eq, setsSinceReset_reset]
        rfl }

private theorem Counted.step (counted : Counted calls world)
    (once : SetOnce calls world call) :
    Counted (calls ++ [call]) (world.step nonBlocking call) := by
  cases call with
  | set => exact counted.set once
  | reset => exact counted.reset once

private theorem Counted.set_of_agrees (counted : Counted calls world)
    (agrees : Agrees (calls ++ [.set]) (world.step nonBlocking .set)) :
    SetOnce calls world .set := by
  by_contra full
  have stuck : Eventfd.write nonBlocking world.posix.counter
      PosixEvent.dataNum = Eventfd.wouldBlock nonBlocking := by
    unfold Eventfd.write
    unfold SetOnce at full
    rw [counted.counter, ← Nat.succ_mul, if_neg full]
  have noAssert := agrees.noAssert
  have returns := agrees.returns
  simp only [EventWorld.step, counted.returns, PosixEvent.set, stuck,
    Eventfd.wouldBlock, Bool.false_eq_true, if_false] at noAssert returns
  cases nonBlocking with
  | true =>
      simp only [if_true] at noAssert
      exact List.concat_ne_nil _ _ noAssert
  | false =>
      simp only [Bool.false_eq_true, if_false] at returns
      cases returns

/-- An empty counter makes `reset` block or fail, and more than one `set` makes
it read another value than the one it asserts. -/
private theorem Counted.reset_of_agrees (counted : Counted calls world)
    (agrees : Agrees (calls ++ [.reset]) (world.step nonBlocking .reset)) :
    SetOnce calls world .reset := by
  have noAssert := agrees.noAssert
  have returns := agrees.returns
  simp only [EventWorld.step, counted.returns, PosixEvent.reset, Eventfd.read,
    counted.counter, Bool.false_eq_true, if_false] at noAssert returns
  by_cases empty : setsSinceReset calls * PosixEvent.dataNum = 0
  · simp only [empty, if_true, Eventfd.wouldBlock] at noAssert returns
    cases nonBlocking with
    | true =>
        simp only [if_true] at noAssert
        exact absurd noAssert
          (List.append_ne_nil_of_right_ne_nil _ (List.cons_ne_nil _ _))
    | false =>
        simp only [Bool.false_eq_true, if_false] at returns
        cases returns
  · simp only [if_neg empty] at noAssert
    by_cases one : setsSinceReset calls * PosixEvent.dataNum =
        PosixEvent.dataNum
    · unfold SetOnce
      unfold PosixEvent.dataNum at one
      omega
    · rw [if_neg one] at noAssert
      exact absurd noAssert
        (List.append_ne_nil_of_right_ne_nil _ (List.cons_ne_nil _ _))

/-- The two implementations agree after each of the calls, exactly when every
`reset` comes after one `set` and no `set` finds the counter full. -/
theorem agrees_iff (nonBlocking : Bool) (calls : List EventCall) :
    (eventMachine nonBlocking).Throughout Agrees calls ↔
      (eventMachine nonBlocking).EachStep SetOnce calls := by
  apply (run_anyCalls nonBlocking calls).throughout_iff
  · exact counted_initial.agrees
  · intro calls world call before steps _ _
    have counted : Counted calls world := by
      apply (before.conditioned steps).invariant Counted counted_initial
      intro calls world call _ counted allowed
      exact counted.step allowed.2
    constructor
    · intro agrees
      cases call with
      | set => exact counted.set_of_agrees agrees
      | reset => exact counted.reset_of_agrees agrees
    · intro once
      exact (counted.step once).agrees

/-- `reset` before any `set`, and `reset` after two of them. -/
theorem resets_disagree :
    ¬Agrees [.reset] ((eventMachine false).exec [.reset]) ∧
      ¬Agrees [.set, .set, .reset]
        ((eventMachine false).exec [.set, .set, .reset]) := by
  constructor
  · intro agrees
    exact absurd agrees.returns (by decide)
  · intro agrees
    exact absurd agrees.noAssert (by decide)

end EventWorld

end MsquicAsio
