/-
A connection that is moved while operations on it are under way.

The context goes to the new object, and the old one gets a new context, in
which no channel was ever put.
-/
import MsquicAsio.Connection.Machine
import MsquicAsio.Lib.Relocation

set_option autoImplicit false

namespace MsquicAsio

variable {O : Oneshot}

structure ConnectionPositions where
  start : UnlockedOp
  connect : LockedOp
  accept : LockedOp
  shutdown : LockedOp
  deriving DecidableEq

inductive ConnectionOutcome
  | start (ec : ErrorCode)
  | connect (ec : ErrorCode)
  | accept (message : AcceptMessage)
  | shutdown (ec : ErrorCode)
  deriving DecidableEq

namespace ConnectionAction

def ofCallback : ConnectionAction → Bool
  | .event _ | .streamStarted _ => true
  | _ => false

def begins : ConnectionAction → Bool
  | .start (.create _) => true
  | .connect | .accept | .shutdown => true
  | _ => false

/-- The statement reads `ctx_`.  A completion lambda does not if its wait has
failed. -/
def readsCtx : ConnectionAction → Bool
  | .start (.invoke ec) => !ec.failed
  | .connectHandler ec | .acceptHandler ec | .shutdownHandler ec => !ec.failed
  | _ => true

end ConnectionAction

namespace ConnectionWorld

def positions (world : ConnectionWorld O) : ConnectionPositions where
  start := world.start
  connect := world.connect
  accept := world.accept
  shutdown := world.shutdown

def withPositions (world : ConnectionWorld O) (place : ConnectionPositions) :
    ConnectionWorld O :=
  { world with
    start := place.start
    connect := place.connect
    accept := place.accept
    shutdown := place.shutdown }

def told (world : ConnectionWorld O) :
    ConnectionAction → Option ConnectionOutcome
  | .start step =>
      (world.startSlot.report step).map fun report => .start report.1
  | .connectHandler ec =>
      (world.connectSlot.handler ec).map fun handled =>
        .connect (handled.2.getD ec)
  | .acceptHandler ec =>
      (world.acceptSlot.handler ec).map fun handled =>
        .accept (handled.2.getD (ec, .dummy))
  | .shutdownHandler ec =>
      (world.shutdownSlot.handler ec).map fun handled =>
        .shutdown (handled.2.getD ec)
  | _ => none

def movedFrom (world : ConnectionWorld O) : ConnectionWorld O :=
  { world with ctx := .initial }

/-- A statement on the object that was moved from.  One that does not throw
there changes nothing of its context. -/
def displaced (world : ConnectionWorld O) (action : ConnectionAction) :
    Option (ConnectionWorld O × Option ConnectionOutcome) :=
  if (world.movedFrom.step action).threw = true then none
  else
    some ({ world.movedFrom.step action with ctx := world.ctx },
      world.movedFrom.told action)

private theorem returned_step (world : ConnectionWorld O)
    (action : ConnectionAction)
    (enabled : world.enabled action = true)
    (notBegins : action.begins = false)
    (start : world.start.calling = none) :
    (world.step action).start.calling = none := by
  have runs := (Bool.and_eq_true_iff.mp enabled).2
  cases action with
  | start step =>
      have notCreate : ∀ buffers, step ≠ .create buffers := by
        intro buffers same
        rw [same] at notBegins
        cases notBegins
      simp only [ConnectionWorld.step, asyncStart]
      split
      · exact start
      · rename_i slot stepped
        exact UnlockedSlot.calling_step stepped runs start notCreate
  | streamStarted step =>
      simp only [ConnectionWorld.step, streamStarted]
      split
      case h_5 => split <;> exact start
      all_goals exact start
  | connectInitiate | connectHandler | acceptInitiate | acceptHandler
  | shutdownInitiate | shutdownHandler =>
      simp only [ConnectionWorld.step]
      split <;> exact start
  | event | connect | accept | shutdown => exact start

private theorem initiate_empty {Message : Type} {slot : LockedSlot O Message}
    (ready : (slot.op matches .ready _) = true)
    (empty : slot.port.rx = none) : slot.initiate = none := by
  cases at_ : slot.op with
  | ready own => simp only [LockedSlot.initiate, at_, empty, Option.map_none]
  | idle | waiting =>
      rw [at_] at ready
      cases ready

private theorem handler_empty {Message : Type} {slot : LockedSlot O Message}
    {ec : ErrorCode} (succeeds : ec.failed = false)
    (empty : slot.port.rx = none) : slot.handler ec = none := by
  have got : slot.port.get = none := by
    simp only [Port.get, empty]
  simp only [LockedSlot.handler, succeeds, Bool.false_eq_true, if_false, got,
    Option.map_none]

private theorem handler_failed {Message : Type} {slot : LockedSlot O Message}
    {ec : ErrorCode} (failed : ec.failed = true) :
    slot.handler ec = some ({ slot with op := .idle }, none) := by
  simp only [LockedSlot.handler, failed, if_true]

private theorem start_empty {slot other : UnlockedSlot O} {step : UnlockedStep}
    (enabled : slot.enabled step = true) (returned : slot.op.calling = none)
    (notBegins : (ConnectionAction.start step).begins = false)
    (reads : (ConnectionAction.start step).readsCtx = true)
    (sameOp : other.op = slot.op) (empty : other.port.rx = none) :
    other.step step = none := by
  have makes := UnlockedSlot.makes_of_enabled enabled
  generalize slot.step step = result at makes
  cases makes with
  | create => cases notBegins
  | initiate => simp only [UnlockedSlot.step, sameOp, empty, Option.map_none]
  | invoke =>
      have succeeds := (Bool.not_eq_true' _).mp reads
      have got : other.port.get = none := by
        simp only [Port.get, empty]
      simp only [UnlockedSlot.step, sameOp, succeeds, Bool.false_eq_true,
        if_false, got, Option.map_none]
  | assignTx | assignRx | raise | fails | accepts | lower | sendFailure =>
      cases returned

private theorem threw_of_readsCtx (world : ConnectionWorld O)
    (action : ConnectionAction) (enabled : world.enabled action = true)
    (notCallback : action.ofCallback = false)
    (notBegins : action.begins = false)
    (start : world.start.calling = none)
    (reads : action.readsCtx = true) :
    (world.movedFrom.step action).threw = true := by
  have runs := (Bool.and_eq_true_iff.mp enabled).2
  cases action with
  | event | streamStarted => cases notCallback
  | connect | accept | shutdown => cases notBegins
  | start step =>
      have throws : world.movedFrom.startSlot.step step = none :=
        start_empty runs start notBegins reads rfl rfl
      simp only [ConnectionWorld.step, asyncStart, throws]
  | connectInitiate =>
      have throws : world.movedFrom.connectSlot.initiate = none :=
        initiate_empty runs rfl
      simp only [ConnectionWorld.step, throws]
  | acceptInitiate =>
      have throws : world.movedFrom.acceptSlot.initiate = none :=
        initiate_empty runs rfl
      simp only [ConnectionWorld.step, throws]
  | shutdownInitiate =>
      have throws : world.movedFrom.shutdownSlot.initiate = none :=
        initiate_empty runs rfl
      simp only [ConnectionWorld.step, throws]
  | connectHandler ec =>
      have throws : world.movedFrom.connectSlot.handler ec = none :=
        handler_empty ((Bool.not_eq_true' _).mp reads) rfl
      simp only [ConnectionWorld.step, throws]
  | acceptHandler ec =>
      have throws : world.movedFrom.acceptSlot.handler ec = none :=
        handler_empty ((Bool.not_eq_true' _).mp reads) rfl
      simp only [ConnectionWorld.step, throws]
  | shutdownHandler ec =>
      have throws : world.movedFrom.shutdownSlot.handler ec = none :=
        handler_empty ((Bool.not_eq_true' _).mp reads) rfl
      simp only [ConnectionWorld.step, throws]

private theorem displaced_of_failed (world : ConnectionWorld O)
    (action : ConnectionAction) (enabled : world.enabled action = true)
    (stays : action.readsCtx = false) :
    world.displaced action = some (world.step action, world.told action) := by
  obtain ⟨running, runs⟩ := Bool.and_eq_true_iff.mp enabled
  have calm : world.threw = false := (Bool.not_eq_true' _).mp running
  cases action with
  | event | streamStarted | connect | accept | shutdown | connectInitiate
  | acceptInitiate | shutdownInitiate => cases stays
  | start step =>
      cases step with
      | create | assignTx | assignRx | raise | call | lower | sendFailure
      | initiate => cases stays
      | invoke ec =>
          have failed : ec.failed = true := (Bool.not_eq_false' _).mp stays
          cases at_ : world.start with
          | waiting id wait len =>
              simp only [displaced, movedFrom, ConnectionWorld.step, asyncStart,
                startSlot, UnlockedSlot.step, at_, failed, if_true, calm, told,
                UnlockedSlot.report, UnlockedSlot.assertion, violated,
                List.append_nil, Bool.false_eq_true, if_false]
          | idle | created | txAssigned | rxAssigned | raised | callFailed
          | lowered | ready =>
              simp only [startSlot, UnlockedSlot.enabled, at_,
                Bool.false_eq_true] at runs
  | connectHandler ec =>
      have failed : ec.failed = true := (Bool.not_eq_false' _).mp stays
      simp only [displaced, movedFrom, ConnectionWorld.step, told,
        handler_failed failed, calm, connectSlot, Bool.false_eq_true, if_false,
        Option.map_some]
  | acceptHandler ec =>
      have failed : ec.failed = true := (Bool.not_eq_false' _).mp stays
      simp only [displaced, movedFrom, ConnectionWorld.step, told,
        handler_failed failed, calm, acceptSlot, Bool.false_eq_true, if_false,
        Option.map_some]
  | shutdownHandler ec =>
      have failed : ec.failed = true := (Bool.not_eq_false' _).mp stays
      simp only [displaced, movedFrom, ConnectionWorld.step, told,
        handler_failed failed, calm, shutdownSlot, Bool.false_eq_true, if_false,
        Option.map_some]

end ConnectionWorld

def connectionOperations (O : Oneshot) :
    ObjectOperations (ConnectionWorld O) ConnectionPositions ConnectionAction
      ConnectionOutcome where
  step := ConnectionWorld.step
  enabled := ConnectionWorld.enabled
  positions := ConnectionWorld.positions
  withPositions := ConnectionWorld.withPositions
  told := ConnectionWorld.told
  outside := ConnectionAction.ofCallback
  begins := ConnectionAction.begins
  returned place := decide (place.start.calling = none)
  displaced := ConnectionWorld.displaced
  looksUp := ConnectionAction.readsCtx
  positions_with _ _ := rfl
  returned_step := by
    intro world action enabled _ notBegins returned
    exact decide_eq_true (world.returned_step action enabled notBegins
      (of_decide_eq_true returned))
  displaced_of_looksUp := by
    intro world action enabled notCallback notBegins returned looksUp
    exact if_pos (world.threw_of_readsCtx action enabled notCallback notBegins
      (of_decide_eq_true returned) looksUp)
  displaced_of_local := by
    intro world action enabled _ _ isLocal
    exact world.displaced_of_failed action enabled isLocal

end MsquicAsio
