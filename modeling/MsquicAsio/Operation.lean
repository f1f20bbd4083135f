/-
The two shapes an asynchronous operation of a handle has.

`async_start` and `async_send` take no lock: their statements are separate
steps, and callbacks may run between any two of them.  The other operations
do their work under the context's mutex, so that part is one step of the
handle that owns them; what they share is the part after it, where
`async_initiate` registers a wait on the receiver and the completion handler
later reads that receiver.
-/
import MsquicAsio.Lib.Oneshot
import MsquicAsio.Msquic

set_option autoImplicit false

namespace MsquicAsio

variable {O : Oneshot} {Message : Type}

/-- Whether a wait registered on channel `wait` may complete with `ec`: with
success once a message is there, with the package's error once the sender was
replaced without sending. -/
def waitCompletes (port : Port O Message) (wait : Nat) (ec : ErrorCode) : Bool :=
  match port.value? wait with
  | some _ => decide (ec = .success)
  | none => decide (ec = .oneshot ∧ port.tx ≠ some wait)

/-! ### Operations that take no lock -/

inductive UnlockedStep
  -- `auto [tx, rx] = oneshot::create()`, called with these buffer lengths
  | create (buffers : List UInt32)
  | assignTx
  | assignRx
  -- `assert(!pending); pending = true`
  | raise
  | call (status : QuicStatus)
  -- on failure: `pending = false`
  | lower
  -- on failure: `tx_.send(ec)`
  | sendFailure
  -- `async_initiate`: `rx_.async_wait(...)`
  | initiate
  | invoke (ec : ErrorCode)
  deriving DecidableEq

/-- How far a call that takes no lock has come.  `id` is the channel it made. -/
inductive UnlockedOp
  | idle
  | created (id : Nat) (buffers : List UInt32)
  | txAssigned (id : Nat) (buffers : List UInt32)
  | rxAssigned (id : Nat) (buffers : List UInt32)
  | raised (id : Nat) (buffers : List UInt32)
  | callFailed (id : Nat) (ec : ErrorCode)
  | lowered (id : Nat) (ec : ErrorCode)
  | ready (id : Nat) (len : UInt64)
  | waiting (id wait : Nat) (len : UInt64)
  deriving DecidableEq

def UnlockedOp.own : UnlockedOp → Option Nat
  | .ready id _ => some id
  | .waiting id _ _ => some id
  | _ => none

def UnlockedOp.calling : UnlockedOp → Option Nat
  | .created id _ => some id
  | .txAssigned id _ => some id
  | .rxAssigned id _ => some id
  | .raised id _ => some id
  | .callFailed id _ => some id
  | .lowered id _ => some id
  | _ => none

/-- The flag was raised, and msquic has not accepted the call nor has the flag
been lowered again after a failure. -/
def UnlockedOp.raising : UnlockedOp → Bool
  | .raised _ _ => true
  | .callFailed _ _ => true
  | _ => false

private theorem UnlockedOp.raising_of_returned {op : UnlockedOp}
    (returned : op.calling = none) : op.raising = false := by
  cases op with
  | idle | ready | waiting => rfl
  | created | txAssigned | rxAssigned | raised | callFailed | lowered =>
      cases returned

structure UnlockedSlot (O : Oneshot) where
  pending : Bool
  port : Port O ErrorCode
  op : UnlockedOp

/-- `len += b->Length` over the buffers, on a 64-bit `std::size_t`. -/
def countBytes (buffers : List UInt32) : UInt64 :=
  buffers.foldl (fun len length => len + length.toUInt64) 0

namespace UnlockedSlot

/-- The steps in program order.  A new call starts only after the handler of
the previous one was invoked; a handler runs when its wait has completed. -/
def enabled (slot : UnlockedSlot O) : UnlockedStep → Bool
  | .create _ => (slot.op matches .idle)
  | .assignTx => (slot.op matches .created _ _)
  | .assignRx => (slot.op matches .txAssigned _ _)
  | .raise => (slot.op matches .rxAssigned _ _)
  | .call _ => (slot.op matches .raised _ _)
  | .lower => (slot.op matches .callFailed _ _)
  | .sendFailure => (slot.op matches .lowered _ _)
  | .initiate => (slot.op matches .ready _ _)
  | .invoke ec =>
      match slot.op with
      | .waiting _ wait _ => waitCompletes slot.port wait ec
      | _ => false

/-- One statement.  `none` is an exception thrown by the oneshot package. -/
def step (slot : UnlockedSlot O) (action : UnlockedStep) :
    Option (UnlockedSlot O) :=
  match action, slot.op with
  | .create buffers, .idle =>
      some { slot with
        port := { slot.port with channels := slot.port.channels.create }
        op := .created slot.port.channels.next buffers }
  | .assignTx, .created id buffers =>
      some { slot with
        port := { slot.port with tx := some id }
        op := .txAssigned id buffers }
  | .assignRx, .txAssigned id buffers =>
      some { slot with
        port := { slot.port with rx := some id }
        op := .rxAssigned id buffers }
  | .raise, .rxAssigned id buffers =>
      some { slot with pending := true, op := .raised id buffers }
  | .call status, .raised id buffers =>
      if status.quicFailed = true then
        some { slot with op := .callFailed id (.ofStatus status) }
      else some { slot with op := .ready id (countBytes buffers) }
  | .lower, .callFailed id ec =>
      some { slot with pending := false, op := .lowered id ec }
  | .sendFailure, .lowered id ec =>
      (slot.port.send ec).map
        (fun port => { slot with port := port, op := .ready id 0 })
  | .initiate, .ready id len =>
      slot.port.rx.map (fun wait => { slot with op := .waiting id wait len })
  | .invoke ec, .waiting _ _ _ =>
      if ec.failed = true then some { slot with op := .idle }
      else slot.port.get.map (fun _ => { slot with op := .idle })
  | _, _ => some slot

/-- `assert(!pending)`, which stands before the flag is raised. -/
def assertion (slot : UnlockedSlot O) : UnlockedStep → Bool
  | .raise => !slot.pending
  | _ => true

/-- What the completion handler is given: the oneshot error and no bytes, or
the message together with the byte count fixed when the call was made. -/
def report (slot : UnlockedSlot O) :
    UnlockedStep → Option (ErrorCode × UInt64)
  | .invoke ec =>
      match slot.op with
      | .waiting _ _ len =>
          if ec.failed = true then some (ec, 0)
          else slot.port.get.map (fun outcome => (outcome, len))
      | _ => none
  | _ => none

inductive Makes :
    UnlockedSlot O → UnlockedStep → Option (UnlockedSlot O) → Prop
  | create (pending : Bool) (port : Port O ErrorCode) (buffers : List UInt32) :
      Makes ⟨pending, port, .idle⟩ (.create buffers)
        (some ⟨pending, { port with channels := port.channels.create },
          .created port.channels.next buffers⟩)
  | assignTx (pending : Bool) (port : Port O ErrorCode) (id : Nat)
      (buffers : List UInt32) :
      Makes ⟨pending, port, .created id buffers⟩ .assignTx
        (some ⟨pending, { port with tx := some id }, .txAssigned id buffers⟩)
  | assignRx (pending : Bool) (port : Port O ErrorCode) (id : Nat)
      (buffers : List UInt32) :
      Makes ⟨pending, port, .txAssigned id buffers⟩ .assignRx
        (some ⟨pending, { port with rx := some id }, .rxAssigned id buffers⟩)
  | raise (pending : Bool) (port : Port O ErrorCode) (id : Nat)
      (buffers : List UInt32) :
      Makes ⟨pending, port, .rxAssigned id buffers⟩ .raise
        (some ⟨true, port, .raised id buffers⟩)
  | fails (pending : Bool) (port : Port O ErrorCode) (id : Nat)
      (buffers : List UInt32) (status : QuicStatus)
      (failed : status.quicFailed = true) :
      Makes ⟨pending, port, .raised id buffers⟩ (.call status)
        (some ⟨pending, port, .callFailed id (.ofStatus status)⟩)
  | accepts (pending : Bool) (port : Port O ErrorCode) (id : Nat)
      (buffers : List UInt32) (status : QuicStatus)
      (accepted : status.quicFailed = false) :
      Makes ⟨pending, port, .raised id buffers⟩ (.call status)
        (some ⟨pending, port, .ready id (countBytes buffers)⟩)
  | lower (pending : Bool) (port : Port O ErrorCode) (id : Nat)
      (ec : ErrorCode) :
      Makes ⟨pending, port, .callFailed id ec⟩ .lower
        (some ⟨false, port, .lowered id ec⟩)
  | sendFailure (pending : Bool) (port : Port O ErrorCode) (id : Nat)
      (ec : ErrorCode) :
      Makes ⟨pending, port, .lowered id ec⟩ .sendFailure
        ((port.send ec).map fun port => ⟨pending, port, .ready id 0⟩)
  | initiate (pending : Bool) (port : Port O ErrorCode) (id : Nat)
      (len : UInt64) :
      Makes ⟨pending, port, .ready id len⟩ .initiate
        (port.rx.map fun wait => ⟨pending, port, .waiting id wait len⟩)
  | invoke (pending : Bool) (port : Port O ErrorCode) (id wait : Nat)
      (len : UInt64) (ec : ErrorCode)
      (completes : waitCompletes port wait ec = true) :
      Makes ⟨pending, port, .waiting id wait len⟩ (.invoke ec)
        (if ec.failed = true then some ⟨pending, port, .idle⟩
        else port.get.map fun _ => ⟨pending, port, .idle⟩)

theorem makes_of_enabled {slot : UnlockedSlot O} {action : UnlockedStep}
    (enabled : slot.enabled action = true) :
    slot.Makes action (slot.step action) := by
  obtain ⟨pending, port, op⟩ := slot
  cases op <;> cases action <;>
    simp only [UnlockedSlot.enabled, Bool.false_eq_true] at enabled
  case idle.create buffers => exact .create pending port buffers
  case created.assignTx id buffers => exact .assignTx pending port id buffers
  case txAssigned.assignRx id buffers => exact .assignRx pending port id buffers
  case rxAssigned.raise id buffers => exact .raise pending port id buffers
  case raised.call id buffers status =>
      simp only [UnlockedSlot.step]
      split
      · exact .fails pending port id buffers status (by assumption)
      · exact .accepts pending port id buffers status
          (Bool.eq_false_iff.mpr (by assumption))
  case callFailed.lower id ec => exact .lower pending port id ec
  case lowered.sendFailure id ec => exact .sendFailure pending port id ec
  case ready.initiate id len => exact .initiate pending port id len
  case waiting.invoke id wait len ec =>
      exact .invoke pending port id wait len ec enabled

theorem makes_of_step {slot after : UnlockedSlot O} {action : UnlockedStep}
    (enabled : slot.enabled action = true)
    (stepped : slot.step action = some after) :
    slot.Makes action (some after) := by
  rw [← stepped]
  exact makes_of_enabled enabled

end UnlockedSlot

/-! ### The contract of an unlocked operation -/

/-- msquic accepted the call, so it owes the event that completes it. -/
def UnlockedStep.accepted : UnlockedStep → Bool
  | .call status => !status.quicFailed
  | _ => false

namespace UnlockedSlot

def Attached (slot : UnlockedSlot O) (id : Nat) : Prop :=
  slot.port.channels.Live id ∧ slot.port.tx = some id ∧ slot.port.rx = some id

def Returned (slot : UnlockedSlot O) (owed : Bool) (id wait : Nat) : Prop :=
  wait = id ∧ slot.port.rx = some id ∧ slot.pending = owed ∧
    slot.port.Settles owed (some id)

/-- What holds of the flag, the port and the call at every statement, when
`owed` says that msquic accepted the call and its event has not come yet. -/
def Sound (slot : UnlockedSlot O) (owed : Bool) : Prop :=
  match slot.op with
  | .idle => slot.pending = false ∧ owed = false
  | .created id _ =>
      slot.pending = false ∧ owed = false ∧ slot.port.channels.Live id
  | .txAssigned id _ =>
      slot.pending = false ∧ owed = false ∧ slot.port.channels.Live id ∧
        slot.port.tx = some id
  | .rxAssigned id _ => slot.pending = false ∧ owed = false ∧ slot.Attached id
  | .raised id _ => slot.pending = true ∧ owed = false ∧ slot.Attached id
  | .callFailed id _ => slot.pending = true ∧ owed = false ∧ slot.Attached id
  | .lowered id _ => slot.pending = false ∧ owed = false ∧ slot.Attached id
  | .ready id _ => slot.Returned owed id id
  | .waiting id wait _ => slot.Returned owed id wait

theorem Attached.send {slot : UnlockedSlot O} {id : Nat}
    (attached : slot.Attached id) (ec : ErrorCode) :
    slot.port.send ec = some (slot.port.afterSend ec) ∧
      (slot.port.afterSend ec).Settles false (some id) := by
  obtain ⟨live, txAt, _⟩ := attached
  have armed : slot.port.Settles true (some id) :=
    { armed := fun _ => ⟨id, rfl, txAt, live⟩
      answered := fun _ _ => Or.inl rfl }
  refine ⟨slot.port.send_of_live ec (armed.live rfl), ?_⟩
  have settled := armed.settle ec
  simpa only [Port.settle, if_true] using settled

theorem Returned.completes {slot : UnlockedSlot O} {owed : Bool}
    {id wait : Nat} (returned : slot.Returned owed id wait) {ec : ErrorCode}
    (completes : waitCompletes slot.port wait ec = true) :
    ec = .success ∧ owed = false ∧
      ∃ outcome, slot.port.get = some outcome := by
  obtain ⟨rfl, rxAt, _, settles⟩ := returned
  unfold waitCompletes at completes
  cases held : slot.port.value? wait with
  | some outcome =>
      rw [held] at completes
      refine ⟨of_decide_eq_true completes, settles.lowered rfl held, outcome, ?_⟩
      simp only [Port.get, rxAt, held]
  | none =>
      rw [held] at completes
      have dropped := (of_decide_eq_true completes).2
      rcases settles.answered wait rfl with raised | ⟨message, answered⟩
      · obtain ⟨other, ownAt, txAt, _⟩ := settles.armed raised
        obtain rfl := Option.some.inj ownAt
        exact absurd txAt dropped
      · rw [held] at answered
        cases answered

/-- One statement of a call keeps the contract and never throws. -/
theorem Sound.step {slot : UnlockedSlot O} {owed : Bool}
    (sound : slot.Sound owed) {action : UnlockedStep}
    (enabled : slot.enabled action = true) :
    ∃ after, slot.step action = some after ∧
      after.Sound (owed || action.accepted) := by
  have makes := makes_of_enabled enabled
  generalize slot.step action = result at makes ⊢
  cases makes with
  | create pending port buffers =>
      obtain ⟨lowered, rfl⟩ := sound
      exact ⟨_, rfl, lowered, rfl, port.channels.live_create⟩
  | assignTx pending port id buffers =>
      obtain ⟨lowered, rfl, live⟩ := sound
      exact ⟨_, rfl, lowered, rfl, live, rfl⟩
  | assignRx pending port id buffers =>
      obtain ⟨lowered, rfl, live, txAt⟩ := sound
      exact ⟨_, rfl, lowered, rfl, live, txAt, rfl⟩
  | raise pending port id buffers =>
      obtain ⟨_, rfl, attached⟩ := sound
      exact ⟨_, rfl, rfl, rfl, attached⟩
  | fails pending port id buffers status failed =>
      obtain ⟨raised, rfl, attached⟩ := sound
      refine ⟨_, rfl, ?_⟩
      simp only [UnlockedStep.accepted, failed, Bool.not_true, Bool.or_false]
      exact ⟨raised, rfl, attached⟩
  -- from here on the flag, the sender and the event belong together
  | accepts pending port id buffers status accepted =>
      obtain ⟨raised, rfl, live, txAt, rxAt⟩ := sound
      refine ⟨_, rfl, ?_⟩
      simp only [UnlockedStep.accepted, accepted, Bool.not_false, Bool.or_true]
      exact ⟨rfl, rxAt, raised,
        { armed := fun _ => ⟨id, rfl, txAt, live⟩
          answered := fun _ _ => Or.inl rfl }⟩
  | lower pending port id ec =>
      obtain ⟨_, rfl, attached⟩ := sound
      exact ⟨_, rfl, rfl, rfl, attached⟩
  | sendFailure pending port id ec =>
      obtain ⟨lowered, rfl, attached⟩ := sound
      obtain ⟨sent, settles⟩ := attached.send ec
      refine ⟨⟨pending, port.afterSend ec, .ready id 0⟩, ?_, rfl, ?_, lowered,
        settles⟩
      · exact congrArg (Option.map _) sent
      · rw [Port.rx_afterSend]
        exact attached.2.2
  | initiate pending port id len =>
      obtain ⟨_, rxAt, flag, settles⟩ := sound
      refine ⟨⟨pending, port, .waiting id id len⟩, ?_, ?_⟩
      · exact congrArg (Option.map _) rxAt
      · simp only [UnlockedStep.accepted, Bool.or_false]
        exact ⟨rfl, rxAt, flag, settles⟩
  -- the wait ended with the message, so nothing is owed
  | invoke pending port id wait len ec completes =>
      obtain ⟨rfl, rfl, outcome, got⟩ := Returned.completes sound completes
      refine ⟨⟨pending, port, .idle⟩, ?_, sound.2.2.1, rfl⟩
      simp only [ErrorCode.failed_success, Bool.false_eq_true, if_false]
      exact congrArg (Option.map _) got

/-- While the event is owed the sender is live; the event's message settles
the call. -/
theorem Sound.settle {slot : UnlockedSlot O} (sound : slot.Sound true)
    (ec : ErrorCode) :
    slot.port.Live ∧
      ({ slot with pending := false, port := slot.port.afterSend ec } :
        UnlockedSlot O).Sound false := by
  obtain ⟨pending, port, op⟩ := slot
  have returned : ∀ id wait,
      ({ pending := pending, port := port, op := op } :
        UnlockedSlot O).Returned true id wait →
      port.Live ∧ ({ pending := false, port := port.afterSend ec, op := op } :
        UnlockedSlot O).Returned false id wait := by
    rintro id wait ⟨sameWait, rxAt, _, settles⟩
    have settled := settles.settle ec
    simp only [Port.settle, if_true] at settled
    refine ⟨settles.live rfl, sameWait, ?_, rfl, settled⟩
    simp only [Port.rx_afterSend]
    exact rxAt
  cases op with
  | ready id len => exact returned id id sound
  | waiting id wait len => exact returned id wait sound
  | idle => exact absurd sound.2 (by simp)
  | created | txAssigned | rxAssigned | raised | callFailed | lowered =>
      exact absurd sound.2.1 (by simp)

theorem Sound.answered {slot : UnlockedSlot O} (sound : slot.Sound false)
    {id : Nat} (own : slot.op.own = some id) :
    ∃ outcome, slot.port.value? id = some outcome := by
  have settles : slot.port.Settles false (some id) := by
    obtain ⟨pending, port, op⟩ := slot
    cases op with
    | ready other len =>
        obtain rfl := Option.some.inj own
        exact sound.2.2.2
    | waiting other wait len =>
        obtain rfl := Option.some.inj own
        exact sound.2.2.2
    | idle | created | txAssigned | rxAssigned | raised | callFailed | lowered =>
        cases own
  rcases settles.answered id rfl with impossible | answered
  · cases impossible
  · exact answered

theorem Sound.pending_eq {slot : UnlockedSlot O} {owed : Bool}
    (sound : slot.Sound owed) : slot.pending = (slot.op.raising || owed) := by
  obtain ⟨pending, port, op⟩ := slot
  cases op with
  | idle =>
      obtain ⟨lowered, rfl⟩ := sound
      exact lowered
  | created | txAssigned | rxAssigned | lowered =>
      obtain ⟨lowered, rfl, _⟩ := sound
      exact lowered
  | raised | callFailed =>
      obtain ⟨raised, _⟩ := sound
      exact raised
  | ready | waiting =>
      obtain ⟨_, _, flag, _⟩ := sound
      exact flag

theorem Sound.flag {slot : UnlockedSlot O} {owed : Bool}
    (sound : slot.Sound owed) (returned : slot.op.calling = none) :
    slot.pending = owed := by
  rw [sound.pending_eq, UnlockedOp.raising_of_returned returned, Bool.false_or]

theorem Sound.live {slot : UnlockedSlot O} {owed : Bool}
    (sound : slot.Sound owed) (raised : slot.pending = true) :
    slot.port.Live := by
  obtain ⟨pending, port, op⟩ := slot
  subst raised
  cases op with
  | idle => cases sound.1
  | created id buffers => cases sound.1
  | txAssigned id buffers => cases sound.1
  | rxAssigned id buffers => cases sound.1
  | lowered id ec => cases sound.1
  | raised id buffers => exact ⟨id, sound.2.2.2.1, sound.2.2.1⟩
  | callFailed id ec => exact ⟨id, sound.2.2.2.1, sound.2.2.1⟩
  | ready id len => exact sound.2.2.2.live sound.2.2.1.symm
  | waiting id wait len => exact sound.2.2.2.live sound.2.2.1.symm

theorem Sound.calling_of_owed {slot : UnlockedSlot O}
    (sound : slot.Sound true) : slot.op.calling = none := by
  obtain ⟨pending, port, op⟩ := slot
  cases op with
  | idle | ready | waiting => rfl
  | created | txAssigned | rxAssigned | raised | callFailed | lowered =>
      exact absurd sound.2.1 (by simp)

theorem calling_step {slot after : UnlockedSlot O} {action : UnlockedStep}
    (stepped : slot.step action = some after)
    (enabled : slot.enabled action = true)
    (returned : slot.op.calling = none)
    (notCreate : ∀ buffers, action ≠ .create buffers) :
    after.op.calling = none := by
  have makes := makes_of_step enabled stepped
  generalize result : some after = result at makes
  cases makes with
  | create pending port buffers => exact absurd rfl (notCreate buffers)
  | initiate =>
      obtain ⟨wait, _, rfl⟩ := Option.map_eq_some_iff.mp result.symm
      rfl
  | invoke =>
      split at result
      · obtain rfl := Option.some.inj result
        rfl
      · obtain ⟨outcome, _, rfl⟩ := Option.map_eq_some_iff.mp result.symm
        rfl
  | assignTx | assignRx | raise | fails | accepts | lower | sendFailure =>
      cases returned

theorem next_step {slot after : UnlockedSlot O} {action : UnlockedStep}
    (enabled : slot.enabled action = true)
    (stepped : slot.step action = some after)
    (notCreate : ∀ buffers, action ≠ .create buffers) :
    after.port.channels.next = slot.port.channels.next := by
  have makes := makes_of_step enabled stepped
  generalize result : some after = result at makes
  cases makes with
  | create pending port buffers => exact absurd rfl (notCreate buffers)
  | assignTx | assignRx | raise | fails | accepts | lower =>
      obtain rfl := Option.some.inj result
      rfl
  | sendFailure pending port id ec =>
      obtain ⟨used, sent, rfl⟩ := Option.map_eq_some_iff.mp result.symm
      have same : used = port.afterSend ec := by
        simp only [Port.afterSend, sent, Option.getD_some]
      rw [same]
      exact port.next_afterSend ec
  | initiate =>
      obtain ⟨wait, _, rfl⟩ := Option.map_eq_some_iff.mp result.symm
      rfl
  | invoke =>
      split at result
      · obtain rfl := Option.some.inj result
        rfl
      · obtain ⟨outcome, _, rfl⟩ := Option.map_eq_some_iff.mp result.symm
        rfl

def Answered (slot : UnlockedSlot O) : Prop :=
  slot.port.channels.AnsweredBut (slot.op.calling.or slot.op.own)

theorem Answered.step {slot after : UnlockedSlot O} {owed : Bool}
    (answered : slot.Answered) (sound : slot.Sound owed)
    {action : UnlockedStep} (enabled : slot.enabled action = true)
    (stepped : slot.step action = some after) : after.Answered := by
  have makes := makes_of_step enabled stepped
  generalize result : some after = result at makes
  cases makes with
  | create =>
      obtain rfl := Option.some.inj result
      exact Channels.AnsweredBut.create answered
  | assignTx | assignRx | raise | fails | accepts | lower =>
      obtain rfl := Option.some.inj result
      exact answered
  | sendFailure pending port id ec =>
      obtain ⟨_, _, attached⟩ := sound
      rw [show port.send ec = _ from (attached.send ec).1] at result
      obtain rfl := Option.some.inj result
      exact Port.answeredBut_afterSend answered ec
  | initiate =>
      obtain ⟨wait, _, rfl⟩ := Option.map_eq_some_iff.mp result.symm
      exact answered
  | invoke pending port id wait len ec completes =>
      obtain ⟨rfl, _, outcome, got⟩ := Returned.completes sound completes
      have gotThere : port.get = some outcome := got
      simp only [ErrorCode.failed_success, Bool.false_eq_true, if_false,
        gotThere, Option.map_some] at result
      obtain rfl := Option.some.inj result
      have rxAt : port.rx = some id := sound.2.1
      have held : port.value? id = some outcome := by
        simpa only [Port.get, rxAt] using got
      exact Channels.AnsweredBut.of_held answered held

theorem Answered.returned {slot : UnlockedSlot O} (answered : slot.Answered)
    (sound : slot.Sound false) : slot.port.channels.AnsweredBut slot.op.calling := by
  intro id inside other
  by_cases own : slot.op.own = some id
  · exact sound.answered own
  · apply answered id inside
    cases at_ : slot.op.calling with
    | none => exact own
    | some calling =>
        rw [at_] at other
        exact other

theorem value?_step {slot after : UnlockedSlot O} {action : UnlockedStep}
    (enabled : slot.enabled action = true)
    (stepped : slot.step action = some after) {id : Nat} {held : ErrorCode}
    (before : slot.port.value? id = some held) :
    after.port.value? id = some held := by
  have makes := makes_of_step enabled stepped
  generalize result : some after = result at makes
  cases makes with
  | create pending port buffers =>
      obtain rfl := Option.some.inj result
      exact (port.channels.value?_create id).trans before
  | assignTx | assignRx | raise | fails | accepts | lower =>
      obtain rfl := Option.some.inj result
      exact before
  | sendFailure pending port other ec =>
      obtain ⟨used, sent, rfl⟩ := Option.map_eq_some_iff.mp result.symm
      have same : used = port.afterSend ec := by
        simp only [Port.afterSend, sent, Option.getD_some]
      rw [same]
      exact port.value?_afterSend_of_held ec before
  | initiate =>
      obtain ⟨wait, _, rfl⟩ := Option.map_eq_some_iff.mp result.symm
      exact before
  | invoke =>
      split at result
      · obtain rfl := Option.some.inj result
        exact before
      · obtain ⟨outcome, _, rfl⟩ := Option.map_eq_some_iff.mp result.symm
        exact before

end UnlockedSlot

/-! ### Operations whose work is done under the lock -/

/-- How far a locked operation has come: no call, its locked part has run, or
its wait is registered.  `own` is the channel that was in the receiver when
the locked part ended. -/
inductive LockedOp
  | idle
  | ready (own : Option Nat)
  | waiting (own : Option Nat) (wait : Nat)
  deriving DecidableEq

def LockedOp.own : LockedOp → Option Nat
  | .idle => none
  | .ready own => own
  | .waiting own _ => own

structure LockedSlot (O : Oneshot) (Message : Type) where
  pending : Bool
  port : Port O Message
  op : LockedOp

namespace LockedSlot

/-- `async_initiate`: the wait goes to the receiver that is there now. -/
def initiate (slot : LockedSlot O Message) : Option (LockedSlot O Message) :=
  match slot.op with
  | .ready own =>
      slot.port.rx.map (fun wait => { slot with op := .waiting own wait })
  | _ => some slot

def completes (slot : LockedSlot O Message) (ec : ErrorCode) : Bool :=
  match slot.op with
  | .waiting _ wait => waitCompletes slot.port wait ec
  | _ => false

/-- The completion lambda: it keeps an error of the wait (`none`), else it
reads the receiver that is there now. -/
def handler (slot : LockedSlot O Message) (ec : ErrorCode) :
    Option (LockedSlot O Message × Option Message) :=
  if ec.failed = true then some ({ slot with op := .idle }, none)
  else slot.port.get.map
    (fun message => ({ slot with op := .idle }, some message))

/-- The locked part of a call.  It makes a channel and answers on it at once,
or raises the flag so that a callback will. -/
def called (slot : LockedSlot O Message) (answer : Option Message) :
    LockedSlot O Message :=
  match answer with
  | some message =>
      { slot with
        port := slot.port.renew.afterSend message
        op := .ready (some slot.port.channels.next) }
  | none =>
      { pending := true
        port := slot.port.renew
        op := .ready (some slot.port.channels.next) }

/-- A callback that answers the operation if its flag is raised, or that has no
answer for it. -/
def settled (slot : LockedSlot O Message) (answer : Option Message) :
    LockedSlot O Message :=
  match answer with
  | some message =>
      { slot with
        pending := false
        port := slot.port.settle slot.pending message }
  | none => slot

private theorem value?_settled_cases (slot : LockedSlot O Message)
    (answer : Option Message) {id : Nat} {message : Message}
    (after : (slot.settled answer).port.value? id = some message) :
    slot.port.value? id = some message ∨ answer = some message := by
  cases answer with
  | none => exact Or.inl after
  | some sent =>
      simp only [settled, Port.settle] at after
      split at after
      · rcases slot.port.value?_afterSend_cases _ after with old | ⟨_, rfl⟩
        · exact Or.inl old
        · exact Or.inr rfl
      · exact Or.inl after

private theorem value?_called_cases (slot : LockedSlot O Message)
    (answer : Option Message) {id : Nat} {message : Message}
    (after : (slot.called answer).port.value? id = some message) :
    slot.port.value? id = some message ∨ answer = some message := by
  cases answer with
  | none => exact Or.inl ((slot.port.value?_renew id).symm.trans after)
  | some sent =>
      simp only [called] at after
      rcases slot.port.renew.value?_afterSend_cases _ after with old | ⟨_, rfl⟩
      · exact Or.inl ((slot.port.value?_renew id).symm.trans old)
      · exact Or.inr rfl

structure Sound (slot : LockedSlot O Message) : Prop where
  settles : slot.port.Settles slot.pending slot.op.own
  ready : ∀ own, slot.op = .ready own →
    own = slot.port.rx ∧ ∃ id, own = some id
  waiting : ∀ own wait, slot.op = .waiting own wait →
    own = slot.port.rx ∧ own = some wait
  answered : slot.port.channels.AnsweredBut
    (slot.port.armedChannel slot.pending)

namespace Sound

theorem initial :
    Sound ({ pending := false, port := .empty, op := .idle } :
      LockedSlot O Message) where
  settles := Port.Settles.idle _
  ready := by intro own impossible; cases impossible
  waiting := by intro own wait impossible; cases impossible
  answered := .empty _

theorem lowered_of_idle {slot : LockedSlot O Message} (sound : slot.Sound)
    (idle : slot.op = .idle) : slot.pending = false := by
  have settles := sound.settles
  rw [idle] at settles
  exact settles.lowered_of_none

theorem all_answered {slot : LockedSlot O Message} (sound : slot.Sound)
    (lowered : slot.pending = false) : slot.port.channels.AnsweredBut none := by
  have answered := sound.answered
  rw [lowered] at answered
  exact answered

theorem called {slot : LockedSlot O Message} (sound : slot.Sound)
    (lowered : slot.pending = false) (answer : Option Message) :
    (slot.called answer).Sound := by
  have earlier := sound.all_answered lowered
  cases answer with
  | none =>
      exact
        { settles := Port.Settles.arm slot.port
          ready := by
            intro own same
            obtain rfl := LockedOp.ready.inj same
            exact ⟨rfl, _, rfl⟩
          waiting := by intro own wait impossible; cases impossible
          answered := earlier.create }
  | some message =>
      have answers := Port.Settles.answer slot.port message
      rw [← lowered] at answers
      exact
        { settles := answers
          ready := by
            intro own same
            obtain rfl := LockedOp.ready.inj same
            refine ⟨?_, _, rfl⟩
            simp only [LockedSlot.called, Port.rx_afterSend, Port.rx_renew]
          waiting := by intro own wait impossible; cases impossible
          answered :=
            (Port.answered_afterSend earlier.create message).weaken _ }

/-- A callback that looks at the flag before it sends keeps the contract. -/
theorem settled {slot : LockedSlot O Message} (sound : slot.Sound)
    (answer : Option Message) : (slot.settled answer).Sound := by
  cases answer with
  | none =>
      exact sound
  | some message =>
      exact
        { settles := sound.settles.settle message
          ready := by
            intro own same
            simp only [LockedSlot.settled, Port.rx_settle]
            exact sound.ready own same
          waiting := by
            intro own wait same
            simp only [LockedSlot.settled, Port.rx_settle]
            exact sound.waiting own wait same
          answered := Port.answered_settle sound.answered message }

theorem initiate {slot : LockedSlot O Message} (sound : slot.Sound)
    (ready : (slot.op matches .ready _) = true) :
    ∃ op, slot.initiate = some { slot with op := op } ∧
      Sound { slot with op := op } ∧ op.own = slot.op.own := by
  cases at_ : slot.op with
  | ready own =>
      obtain ⟨ownAt, id, same⟩ := sound.ready own at_
      have rxAt : slot.port.rx = some id := by rw [← ownAt, same]
      have settles := sound.settles
      rw [at_] at settles
      refine ⟨.waiting own id, ?_, ?_, rfl⟩
      · simp only [LockedSlot.initiate, at_, rxAt, Option.map_some]
      · exact
          { settles := settles
            ready := by intro other impossible; cases impossible
            waiting := by
              intro other wait waitAt
              obtain ⟨rfl, rfl⟩ := LockedOp.waiting.inj waitAt
              exact ⟨ownAt, same⟩
            answered := sound.answered }
  | idle | waiting =>
      rw [at_] at ready
      exact absurd ready (by simp)

private theorem completes {slot : LockedSlot O Message} (sound : slot.Sound)
    {ec : ErrorCode} (ends : slot.completes ec = true) :
    ec = .success ∧ ∃ id message, slot.op.own = some id ∧
      slot.port.value? id = some message ∧ slot.port.get = some message := by
  unfold LockedSlot.completes at ends
  cases at_ : slot.op with
  | idle =>
      rw [at_] at ends
      cases ends
  | ready own =>
      rw [at_] at ends
      cases ends
  | waiting own wait =>
      rw [at_] at ends
      obtain ⟨ownAt, same⟩ := sound.waiting own wait at_
      have rxAt : slot.port.rx = some wait := by rw [← ownAt, same]
      have settles := sound.settles
      rw [at_] at settles
      change slot.port.Settles slot.pending own at settles
      change waitCompletes slot.port wait ec = true at ends
      unfold waitCompletes at ends
      cases held : slot.port.value? wait with
      | some message =>
          rw [held] at ends
          refine ⟨of_decide_eq_true ends, wait, message, same, held, ?_⟩
          simp only [Port.get, rxAt, held]
      | none =>
          rw [held] at ends
          rcases settles.answered wait same with raised | ⟨message, answered⟩
          · obtain ⟨id, idAt, txAt, _⟩ := settles.armed raised
            rw [same] at idAt
            obtain rfl := Option.some.inj idAt
            exact absurd txAt (of_decide_eq_true ends).2
          · rw [held] at answered
            cases answered

/-- The completion lambda of a sound operation reports the message and leaves
the operation idle. -/
theorem handler {slot : LockedSlot O Message} (sound : slot.Sound)
    {ec : ErrorCode} (ends : slot.completes ec = true) :
    ∃ id message, slot.op.own = some id ∧
      slot.port.value? id = some message ∧
      slot.handler ec = some ({ slot with op := .idle }, some message) ∧
      Sound { slot with op := .idle } := by
  obtain ⟨rfl, id, message, ownAt, held, got⟩ := sound.completes ends
  refine ⟨id, message, ownAt, held, ?_, ?_⟩
  · simp only [LockedSlot.handler, ErrorCode.failed_success,
      Bool.false_eq_true, if_false, got, Option.map_some]
  · have settles := sound.settles.finish ownAt held
    exact
      { settles := settles
        ready := by intro own impossible; cases impossible
        waiting := by intro own wait impossible; cases impossible
        answered := sound.answered }

end Sound

/-- All that a step of a program does to a locked operation: it answers it if
its flag is raised, calls it while the flag is down, or leaves its channels
alone. -/
inductive Moves (slot : LockedSlot O Message) :
    Option Message → LockedSlot O Message → Prop
  | settled (answer : Option Message) : Moves slot answer (slot.settled answer)
  | called (answer : Option Message) (lowered : slot.pending = false) :
      Moves slot answer (slot.called answer)
  | waits (after : LockedSlot O Message) (sound : after.Sound)
      (samePort : after.port = slot.port) : Moves slot none after

namespace Moves

variable {slot after : LockedSlot O Message} {answer : Option Message}

theorem sound (moves : slot.Moves answer after) (before : slot.Sound) :
    after.Sound := by
  cases moves with
  | settled answer => exact before.settled answer
  | called answer lowered => exact before.called lowered answer
  | waits after sound samePort => exact sound

theorem value?_cases (moves : slot.Moves answer after) {id : Nat}
    {message : Message} (held : after.port.value? id = some message) :
    slot.port.value? id = some message ∨ answer = some message := by
  cases moves with
  | settled answer => exact slot.value?_settled_cases answer held
  | called answer lowered => exact slot.value?_called_cases answer held
  | waits after sound samePort =>
      rw [samePort] at held
      exact Or.inl held

end Moves

end LockedSlot

end MsquicAsio
