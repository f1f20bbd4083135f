/-
A stream that is moved while operations on it are under way.

The context goes to the new object, and with it the callback.  The lambdas of
an operation that was called before hold the old one, whose `ctx_` is null from
then on.
-/
import MsquicAsio.Lib.Relocation
import MsquicAsio.Stream.Machine

set_option autoImplicit false

namespace MsquicAsio

variable {O : Oneshot}

structure StreamPositions where
  start : UnlockedOp
  send : UnlockedOp
  receive : ReceiveOp
  shutdown : LockedOp
  deriving DecidableEq

inductive StreamOutcome
  | start (ec : ErrorCode)
  | send (ec : ErrorCode) (bytes : UInt64)
  | receive (result : ReceiveResult)
  | shutdown (ec : ErrorCode)
  deriving DecidableEq

namespace StreamAction

def begins : StreamAction → Bool
  | .start (.create _) | .send (.create _) => true
  | .receive _ _ | .shutdown _ => true
  | _ => false

/-- The statement reads `ctx_`.  A completion lambda does not if its wait has
failed, and that of `async_receive` has done so before it invokes the
handler. -/
def readsCtx : StreamAction → Bool
  | .start (.invoke ec) | .send (.invoke ec) => !ec.failed
  | .receiveHandler ec | .shutdownHandler ec => !ec.failed
  | .receiveInvoke => false
  | _ => true

end StreamAction

namespace StreamWorld

def positions (world : StreamWorld O) : StreamPositions where
  start := world.start
  send := world.send
  receive := world.receive
  shutdown := world.shutdown

def withPositions (world : StreamWorld O) (place : StreamPositions) :
    StreamWorld O :=
  { world with
    start := place.start
    send := place.send
    receive := place.receive
    shutdown := place.shutdown }

def told (world : StreamWorld O) : StreamAction → Option StreamOutcome
  | .start step =>
      (world.startSlot.report step).map fun report => .start report.1
  | .send step =>
      (world.sendSlot.report step).map fun report => .send report.1 report.2
  | .receiveInvoke =>
      match world.receive with
      | .completing channel ec bytes lpBuffer bufferLen =>
          some (.receive ⟨channel, ec, bytes, bufferLen, lpBuffer⟩)
      | _ => none
  | .shutdownHandler ec =>
      (world.shutdownSlot.handler ec).map fun handled =>
        .shutdown (handled.2.getD ec)
  | _ => none

/-- A statement on the object that was moved from: `ctx_` is null. -/
def displaced (world : StreamWorld O) (action : StreamAction) :
    Option (StreamWorld O × Option StreamOutcome) :=
  if action.readsCtx = true then none
  else some (world.step action, world.told action)

private theorem returned_step (world : StreamWorld O) (action : StreamAction)
    (enabled : world.enabled action = true)
    (notBegins : action.begins = false)
    (start : world.start.calling = none) (send : world.send.calling = none) :
    (world.step action).start.calling = none ∧
      (world.step action).send.calling = none := by
  have runs := (Bool.and_eq_true_iff.mp enabled).2
  cases action with
  | start step =>
      have notCreate : ∀ buffers, step ≠ .create buffers := by
        intro buffers same
        rw [same] at notBegins
        cases notBegins
      simp only [StreamWorld.step, asyncStart]
      split
      · exact ⟨start, send⟩
      · rename_i slot stepped
        exact ⟨UnlockedSlot.calling_step stepped runs start notCreate, send⟩
  | send step =>
      have notCreate : ∀ buffers, step ≠ .create buffers := by
        intro buffers same
        rw [same] at notBegins
        cases notBegins
      simp only [StreamWorld.step, asyncSend]
      split
      · exact ⟨start, send⟩
      · rename_i slot stepped
        exact ⟨start, UnlockedSlot.calling_step stepped runs send notCreate⟩
  | receiveInitiate | receiveHandler | shutdownInitiate | shutdownHandler =>
      simp only [StreamWorld.step]
      split <;> exact ⟨start, send⟩
  | event | receive | receiveInvoke | shutdown => exact ⟨start, send⟩

end StreamWorld

def streamOperations (O : Oneshot) :
    ObjectOperations (StreamWorld O) StreamPositions StreamAction
      StreamOutcome where
  step := StreamWorld.step
  enabled := StreamWorld.enabled
  positions := StreamWorld.positions
  withPositions := StreamWorld.withPositions
  told := StreamWorld.told
  outside := StreamAction.isEvent
  begins := StreamAction.begins
  returned place :=
    decide (place.start.calling = none ∧ place.send.calling = none)
  displaced := StreamWorld.displaced
  looksUp := StreamAction.readsCtx
  positions_with _ _ := rfl
  returned_step := by
    intro world action enabled _ notBegins returned
    obtain ⟨start, send⟩ := of_decide_eq_true returned
    exact decide_eq_true
      (world.returned_step action enabled notBegins start send)
  displaced_of_looksUp := by
    intro world action _ _ _ _ looksUp
    exact if_pos looksUp
  displaced_of_local := by
    intro world action _ _ _ isLocal
    exact if_neg (Bool.eq_false_iff.mp isLocal)

end MsquicAsio
