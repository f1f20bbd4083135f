/-
What holds of a stream in every run, whatever events msquic delivers.

Program order alone keeps the receive flag and the receive sender together,
and the shutdown flag and the shutdown sender.  So the locked operations never
throw, and a completion lambda always finds a message in the receiver it reads.
-/
import MsquicAsio.Stream.Machine

set_option autoImplicit false

namespace MsquicAsio

variable {O : Oneshot}

namespace ReceivePart

def enabled (part : ReceivePart O) (action : StreamAction) : Bool :=
  match action with
  | .receive _ _ => (part.op matches .idle)
  | .receiveInitiate => (part.op matches .ready _ _ _)
  | .receiveHandler ec => part.completes ec
  | .receiveInvoke => (part.op matches .completing _ _ _ _ _)
  | _ => true

structure Sound (part : ReceivePart O) : Prop where
  settles : part.port.Settles part.frontend part.op.own
  paired : part.port.tx = part.port.rx
  filled : part.frontend = false → ∀ id, part.port.rx = some id →
    ∃ message, part.port.value? id = some message
  backed : part.backend = true → ∃ id, part.port.rx = some id
  present : ∀ own lpBuffer bufferLen,
    part.op = .ready own lpBuffer bufferLen → ∃ id, part.port.rx = some id
  waits : ∀ own wait lpBuffer bufferLen,
    part.op = .waiting own wait lpBuffer bufferLen →
      (∃ id, part.port.rx = some id) ∧
        (part.frontend = true → own = some wait) ∧
        (part.frontend = false → ∃ message, part.port.value? wait = some message)

namespace Sound

variable {part : ReceivePart O}

private theorem settle (sound : part.Sound) (message : ReceiveMessage)
    (state : StreamState) :
    Sound { part with
      state := state
      frontend := false
      port := part.port.settle part.frontend message } where
  settles := sound.settles.settle message
  paired := by
    rw [Port.tx_settle, Port.rx_settle]
    exact sound.paired
  filled := by
    intro _ id rxAt
    rw [Port.rx_settle] at rxAt
    cases raised : part.frontend with
    | true =>
        obtain ⟨own, _, txAt, live⟩ := sound.settles.armed raised
        rw [sound.paired, rxAt] at txAt
        obtain rfl := Option.some.inj txAt
        have sent := (part.port.afterSend_of_live message
          (sound.paired.trans rxAt) live).2.2.2.2 id
        rw [if_pos rfl] at sent
        exact ⟨message, sent⟩
    | false =>
        exact sound.filled raised id rxAt
  backed := by
    intro raised
    rw [Port.rx_settle]
    exact sound.backed raised
  present := by
    intro own lpBuffer bufferLen at_
    rw [Port.rx_settle]
    exact sound.present own lpBuffer bufferLen at_
  waits := by
    intro own wait lpBuffer bufferLen at_
    obtain ⟨present, mine, answered⟩ :=
      sound.waits own wait lpBuffer bufferLen at_
    rw [Port.rx_settle]
    refine ⟨present, (by intro impossible; cases impossible), fun _ => ?_⟩
    cases raised : part.frontend with
    | true =>
        have ownNow : part.op.own = some wait := by
          rw [at_]
          exact mine raised
        rcases (sound.settles.settle message).answered wait ownNow with
          impossible | sent
        · cases impossible
        · rw [raised] at sent
          exact sent
    | false =>
        obtain ⟨held, before⟩ := answered raised
        exact ⟨held, Port.value?_settle_of_held _ part.port message before⟩

private theorem filledFirst (sound : part.Sound)
    (lowered : part.frontend = false)
    (message : ReceiveMessage) :
    Sound { part with
      backend := true
      port := part.port.renew.afterSend message } := by
  have kept : ∀ id held, part.port.value? id = some held →
      (part.port.renew.afterSend message).value? id = some held := by
    intro id held before
    apply Port.value?_afterSend_of_held
    rw [Port.value?_renew]
    exact before
  have current := (part.port.renew.afterSend_of_live message rfl
    part.port.channels.live_create).2.2.2.2 part.port.channels.next
  rw [if_pos rfl] at current
  exact
    { settles :=
        { armed := by
            intro raised
            rw [lowered] at raised
            cases raised
          answered := by
            intro id ownAt
            rcases sound.settles.answered id ownAt with raised | ⟨held, before⟩
            · rw [lowered] at raised
              cases raised
            · exact Or.inr ⟨held, kept id held before⟩ }
      paired := by
        rw [Port.tx_afterSend, Port.rx_afterSend]
        rfl
      filled := by
        intro _ id rxAt
        rw [Port.rx_afterSend, Port.rx_renew] at rxAt
        obtain rfl := Option.some.inj rxAt
        exact ⟨message, current⟩
      backed := fun _ => ⟨_, Port.rx_afterSend _ _⟩
      present := fun _ _ _ _ => ⟨_, Port.rx_afterSend _ _⟩
      waits := by
        intro own wait lpBuffer bufferLen at_
        obtain ⟨_, mine, answered⟩ :=
          sound.waits own wait lpBuffer bufferLen at_
        refine ⟨⟨_, Port.rx_afterSend _ _⟩, mine, fun _ => ?_⟩
        obtain ⟨held, before⟩ := answered lowered
        exact ⟨held, kept wait held before⟩ }

private theorem called (sound : part.Sound) (idle : part.op = .idle)
    (lpBuffer : List UInt8) (bufferLen : Nat) :
    (part.called lpBuffer bufferLen).Sound := by
  have settles := sound.settles
  rw [idle] at settles
  have lowered : part.frontend = false := settles.lowered_of_none
  unfold ReceivePart.called
  split
  · rename_i raised
    obtain ⟨id, rxAt⟩ := sound.backed raised
    exact
      { settles :=
          { armed := by
              intro impossible
              rw [lowered] at impossible
              cases impossible
            answered := by
              intro other ownAt
              exact Or.inr (sound.filled lowered other ownAt) }
        paired := sound.paired
        filled := sound.filled
        backed := by intro impossible; cases impossible
        present := fun _ _ _ _ => ⟨id, rxAt⟩
        waits := by
          intro own wait lpBuffer bufferLen impossible
          cases impossible }
  · rename_i notRaised
    have unbacked : part.backend = false := by
      cases at_ : part.backend with
      | false => rfl
      | true => exact absurd at_ notRaised
    split
    · exact
        { settles := Port.Settles.arm part.port
          paired := rfl
          filled := by intro impossible; cases impossible
          backed := fun _ => ⟨_, rfl⟩
          present := fun _ _ _ _ => ⟨_, rfl⟩
          waits := by
            intro own wait lpBuffer bufferLen impossible
            cases impossible }
    · have answer := Port.Settles.answer part.port (endOfReceive part.state, [])
      exact
        { settles := by
            rw [lowered]
            exact answer
          paired := by
            rw [Port.tx_afterSend, Port.rx_afterSend]
            rfl
          filled := by
            intro _ id rxAt
            rw [Port.rx_afterSend, Port.rx_renew] at rxAt
            rcases answer.answered id rxAt with impossible | sent
            · cases impossible
            · exact sent
          backed := fun _ => ⟨_, Port.rx_afterSend _ _⟩
          present := fun _ _ _ _ => ⟨_, Port.rx_afterSend _ _⟩
          waits := by
            intro own wait lpBuffer bufferLen impossible
            cases impossible }

theorem initiate (sound : part.Sound) {own : Option Nat}
    {lpBuffer : List UInt8} {bufferLen : Nat}
    (at_ : part.op = .ready own lpBuffer bufferLen) :
    ∃ wait, part.port.rx = some wait ∧
      part.initiate =
        some { part with op := .waiting own wait lpBuffer bufferLen } ∧
      Sound { part with op := .waiting own wait lpBuffer bufferLen } := by
  obtain ⟨wait, rxAt⟩ := sound.present own lpBuffer bufferLen at_
  have settles := sound.settles
  rw [at_] at settles
  change part.port.Settles part.frontend own at settles
  refine ⟨wait, rxAt, ?_, ?_⟩
  · simp only [ReceivePart.initiate, at_, rxAt, Option.map_some]
  · exact
      { settles := settles
        paired := sound.paired
        filled := sound.filled
        backed := sound.backed
        present := fun _ _ _ _ => ⟨wait, rxAt⟩
        waits := by
          intro other otherWait otherBuffer otherLen same
          obtain ⟨rfl, rfl, _, _⟩ := ReceiveOp.waiting.inj same
          refine ⟨⟨wait, rxAt⟩, fun raised => ?_,
            fun lowered => sound.filled lowered wait rxAt⟩
          obtain ⟨id, ownAt, txAt, _⟩ := settles.armed raised
          rw [sound.paired, rxAt] at txAt
          obtain rfl := Option.some.inj txAt
          exact ownAt }

/-- When the wait ends it ends with success, no reader waits any more, and the
receiver that is there now holds a message. -/
theorem completes (sound : part.Sound) {ec : ErrorCode}
    (ends : part.completes ec = true) :
    ec = .success ∧ part.frontend = false ∧
      ∃ id message, part.port.rx = some id ∧
        part.port.value? id = some message ∧ part.port.get = some message := by
  unfold ReceivePart.completes at ends
  split at ends
  · rename_i own wait lpBuffer bufferLen at_
    obtain ⟨⟨id, rxAt⟩, mine, answered⟩ :=
      sound.waits own wait lpBuffer bufferLen at_
    have settles := sound.settles
    rw [at_] at settles
    change part.port.Settles part.frontend own at settles
    unfold waitCompletes at ends
    cases raised : part.frontend with
    | true =>
        obtain ⟨other, same, txAt, live⟩ := settles.armed raised
        rw [mine raised] at same
        obtain rfl := Option.some.inj same
        have unsent : part.port.value? wait = none := live.2
        rw [unsent] at ends
        exact absurd txAt (of_decide_eq_true ends).2
    | false =>
        obtain ⟨held, before⟩ := answered raised
        rw [before] at ends
        obtain ⟨message, found⟩ := sound.filled raised id rxAt
        refine ⟨of_decide_eq_true ends, rfl, id, message, rxAt, found, ?_⟩
        simp only [Port.get, rxAt, found]
  · cases ends

def reading (part : ReceivePart O) (channel : Nat) (message : ReceiveMessage)
    (lpBuffer : List UInt8) (bufferLen : Nat) : ReceivePart O :=
  let copy := copyBuffers lpBuffer bufferLen message.2
  { part with
    op := .completing (some channel) message.1 copy.copied copy.lpBuffer bufferLen
    delivery := part.delivery.complete copy.copied
    reads := part.reads ++
      [⟨some channel, message.1, message.2, bufferLen, copy.copied⟩] }

/-- The completion lambda reads the message that is there and ends the call. -/
theorem handler (sound : part.Sound) {ec : ErrorCode}
    (ends : part.completes ec = true) :
    ∃ own wait lpBuffer bufferLen id message,
      part.op = .waiting own wait lpBuffer bufferLen ∧
      part.port.rx = some id ∧ part.port.value? id = some message ∧
      part.handler ec = some (reading part id message lpBuffer bufferLen) ∧
      (reading part id message lpBuffer bufferLen).Sound := by
  obtain ⟨rfl, lowered, id, message, rxAt, found, got⟩ := sound.completes ends
  unfold ReceivePart.completes at ends
  split at ends
  · rename_i own wait lpBuffer bufferLen at_
    refine ⟨own, wait, lpBuffer, bufferLen, id, message, at_, rxAt, found, ?_, ?_⟩
    · simp only [ReceivePart.handler, at_, ErrorCode.failed_success,
        Bool.false_eq_true, if_false, got, Option.map_some, reading, rxAt]
    · exact
        { settles := by
            change part.port.Settles part.frontend none
            rw [lowered]
            exact Port.Settles.idle part.port
          paired := sound.paired
          filled := sound.filled
          backed := sound.backed
          present := by intro own lpBuffer bufferLen impossible; cases impossible
          waits := by
            intro own wait lpBuffer bufferLen impossible
            cases impossible }
  · cases ends

private theorem invoke (sound : part.Sound) : part.invoke.Sound := by
  unfold ReceivePart.invoke
  split
  · rename_i channel ec bytes lpBuffer bufferLen at_
    have settles := sound.settles
    rw [at_] at settles
    exact
      { settles := settles
        paired := sound.paired
        filled := sound.filled
        backed := sound.backed
        present := by intro own lpBuffer bufferLen impossible; cases impossible
        waits := by
          intro own wait lpBuffer bufferLen impossible
          cases impossible }
  · exact sound

private theorem indicated (sound : part.Sound) (buffers : List Buffer) :
    (part.indicated buffers).Sound := by
  cases raised : part.frontend with
  | true =>
      have settled := sound.settle (.success, buffers) part.state
      simp only [raised, Port.settle, if_true] at settled
      simp only [ReceivePart.indicated, ReceivePart.target, raised, if_true,
        Bool.not_true, Bool.or_false]
      exact ⟨settled.settles, settled.paired, settled.filled, settled.backed,
        settled.present, settled.waits⟩
  | false =>
      have filled := sound.filledFirst raised (.success, buffers)
      simp only [ReceivePart.indicated, ReceivePart.target, raised,
        Bool.false_eq_true, if_false, Bool.not_false, Bool.or_true]
      have settles := filled.settles
      rw [raised] at settles
      exact ⟨settles, filled.paired, fun _ => filled.filled raised,
        filled.backed, filled.present, by
          intro own wait lpBuffer bufferLen at_
          obtain ⟨present, _, answered⟩ :=
            filled.waits own wait lpBuffer bufferLen at_
          exact ⟨present, (by intro impossible; cases impossible),
            fun _ => answered raised⟩⟩

end Sound

theorem sound_initial :
    (StreamWorld.initial : StreamWorld O).receivePart.Sound where
  settles := Port.Settles.idle _
  paired := rfl
  filled := by intro _ id impossible; cases impossible
  backed := by intro impossible; cases impossible
  present := by intro own lpBuffer bufferLen impossible; cases impossible
  waits := by intro own wait lpBuffer bufferLen impossible; cases impossible

theorem Sound.next {part : ReceivePart O} (sound : part.Sound)
    {action : StreamAction} (enabled : part.enabled action = true) :
    (part.next action).Sound := by
  cases action with
  | event event =>
      cases event with
      | receive buffers => exact sound.indicated buffers
      | peerSendShutdown => exact sound.settle _ _
      | peerSendAborted => exact sound.settle _ _
      | shutdownComplete => exact sound.settle _ _
      | startComplete | sendComplete | other => exact sound
  | receive lpBuffer bufferLen =>
      have idle : part.op = .idle := by
        cases at_ : part.op <;>
          simp only [ReceivePart.enabled, at_, Bool.false_eq_true] at enabled ⊢
      exact sound.called idle lpBuffer bufferLen
  | receiveInitiate =>
      cases at_ : part.op with
      | ready own lpBuffer bufferLen =>
          obtain ⟨wait, _, initiated, after⟩ := sound.initiate at_
          simp only [ReceivePart.next, initiated, Option.getD_some]
          exact after
      | idle | waiting | completing =>
          simp only [ReceivePart.enabled, at_, Bool.false_eq_true] at enabled
  | receiveHandler ec =>
      obtain ⟨_, _, _, _, _, _, _, _, _, handled, after⟩ := sound.handler enabled
      simp only [ReceivePart.next, handled, Option.getD_some]
      exact after
  | receiveInvoke => exact sound.invoke
  | start | send | shutdown | shutdownInitiate | shutdownHandler => exact sound

end ReceivePart

/-! ### The shutdown operation -/

def StreamAction.ofShutdown : StreamAction → Bool
  | .shutdown _ | .shutdownInitiate | .shutdownHandler _ => true
  | _ => false

namespace StreamWorld

private theorem shutdownSlot_deliver (world : StreamWorld O)
    (event : StreamEvent)
    (guarded : world.ctx.Guarded) :
    (world.deliver event).shutdownSlot =
      world.shutdownSlot.settled
        (if event = .shutdownComplete then some .success else none) := by
  simp only [deliver, world.ctx.finalState_callback event guarded]
  cases event <;> rfl

theorem shutdownSlot_asyncShutdown (world : StreamWorld O)
    (status : QuicStatus) :
    (world.step (.shutdown status)).shutdownSlot =
      world.shutdownSlot.called
        (if world.ctx.state = .shutdownComplete then some .success
        else if status.quicFailed = true then some (.ofStatus status)
        else none) := by
  simp only [step, world.ctx.asyncShutdown_eq, Exec.finalState]
  by_cases complete : world.ctx.state = .shutdownComplete
  · simp only [complete, if_true, shutdownSlot, Port.rx_afterSend,
      Port.rx_renew, LockedSlot.called]
  · by_cases failure : status.quicFailed = true
    · simp only [complete, failure, if_false, if_true, shutdownSlot,
        Port.rx_afterSend, Port.rx_renew, LockedSlot.called]
    · simp only [complete, failure, if_false, Bool.false_eq_true, shutdownSlot,
        Port.rx_renew, LockedSlot.called]

theorem shutdownSlot_aside (world : StreamWorld O) {action : StreamAction}
    (notEvent : action.isEvent = false) (other : action.ofShutdown = false) :
    (world.step action).shutdownSlot = world.shutdownSlot := by
  cases action with
  | event => cases notEvent
  | shutdown | shutdownInitiate | shutdownHandler => cases other
  | start step =>
      simp only [StreamWorld.step, asyncStart]
      split <;> rfl
  | send step =>
      simp only [StreamWorld.step, asyncSend]
      split <;> rfl
  | receive lpBuffer bufferLen =>
      simp only [StreamWorld.step, world.ctx.asyncReceive_eq, Exec.finalState,
        AsioServerStreamCtx.afterFirstReader]
      split
      · rfl
      · split <;> rfl
  | receiveInitiate | receiveHandler =>
      simp only [StreamWorld.step]
      split <;> rfl
  | receiveInvoke => rfl

/-! ### The locked operations in every run -/

structure Locked (world : StreamWorld O) : Prop where
  receive : world.receivePart.Sound
  shutdown : world.shutdownSlot.Sound

namespace Locked

variable {world : StreamWorld O}

theorem guarded (locked : world.Locked) : world.ctx.Guarded :=
  ⟨fun raised => locked.receive.settles.live raised,
    fun raised => locked.shutdown.settles.live raised⟩

theorem part_enabled {action : StreamAction}
    (enabled : world.enabled action = true) :
    world.receivePart.enabled action = true := by
  unfold StreamWorld.enabled at enabled
  rw [Bool.and_eq_true] at enabled
  cases action with
  | receive | receiveInitiate | receiveHandler | receiveInvoke =>
      exact enabled.2
  | event | start | send | shutdown | shutdownInitiate | shutdownHandler =>
      rfl

private theorem shutdown_lowered (locked : world.Locked) {status : QuicStatus}
    (enabled : world.enabled (.shutdown status) = true) :
    world.shutdownSlot.pending = false := by
  simp only [StreamWorld.enabled, Bool.and_eq_true] at enabled
  apply locked.shutdown.lowered_of_idle
  cases at_ : world.shutdown with
  | idle => exact at_
  | ready | waiting =>
      rw [at_] at enabled
      exact absurd enabled.2 (by simp)

private theorem shutdown_step (locked : world.Locked) {action : StreamAction}
    (enabled : world.enabled action = true) :
    (world.step action).shutdownSlot.Sound := by
  have sound := locked.shutdown
  have inOrder := enabled
  unfold StreamWorld.enabled at enabled
  rw [Bool.and_eq_true] at enabled
  cases action with
  | event event =>
      change (world.deliver event).shutdownSlot.Sound
      rw [world.shutdownSlot_deliver event locked.guarded]
      exact sound.settled _
  | start | send | receive | receiveInitiate | receiveHandler
  | receiveInvoke =>
      rw [world.shutdownSlot_aside rfl rfl]
      exact sound
  | shutdown status =>
      rw [world.shutdownSlot_asyncShutdown]
      exact sound.called (locked.shutdown_lowered inOrder) _
  | shutdownInitiate =>
      obtain ⟨op, initiated, after, _⟩ := sound.initiate enabled.2
      simp only [StreamWorld.step, initiated]
      exact after
  | shutdownHandler ec =>
      obtain ⟨id, message, _, _, handled, after⟩ := sound.handler enabled.2
      simp only [StreamWorld.step, handled]
      exact after

theorem step (locked : world.Locked) {action : StreamAction}
    (enabled : world.enabled action = true) : (world.step action).Locked where
  receive := by
    rw [world.receivePart_step action locked.guarded]
    exact locked.receive.next (part_enabled enabled)
  shutdown := locked.shutdown_step enabled

end Locked

theorem locked_initial : (initial : StreamWorld O).Locked where
  receive := ReceivePart.sound_initial
  shutdown := LockedSlot.Sound.initial

theorem locked_of_run {actions : List StreamAction} {world : StreamWorld O}
    (run : (streamMachine O).Run anyEvents actions world) : world.Locked :=
  run.invariant (fun _ world => world.Locked) locked_initial
    (fun _ _ _ _ locked enabled => locked.step enabled)

end StreamWorld

end MsquicAsio
