/-
The stream as a machine: its context, the front-end calls in progress and
msquic's side of the bargain, driven by events and by single steps of the
front end.

`ReceivePart` cuts out what receiving uses.  Its steps are written without the
rest of the stream, and `receivePart_step` shows that the stream moves it in
exactly that way.
-/
import MsquicAsio.Lib.Machine
import MsquicAsio.Stream.Handle

set_option autoImplicit false

namespace MsquicAsio

variable {O : Oneshot}

/-! ### What msquic keeps about the receive direction -/

/-- The RECEIVE event that was answered PENDING and not completed, whether
further events are paused, and the indicated bytes that were not read. -/
structure Delivery where
  uncompleted : Option Nat
  paused : Bool
  unread : Nat
  deriving DecidableEq

namespace Delivery

def initial : Delivery := ⟨none, false, 0⟩

def indicate (delivery : Delivery) (total : Nat) : Delivery :=
  { delivery with uncompleted := some total, unread := total }

/-- `StreamReceiveComplete(len)`.  Acknowledging less than was indicated
pauses the stream; the library never calls `StreamReceiveSetEnabled`. -/
def complete (delivery : Delivery) (len : Nat) : Delivery :=
  match delivery.uncompleted with
  | none => delivery
  | some total =>
      { uncompleted := none
        paused := delivery.paused || decide (len < total)
        unread := total - len }

end Delivery

/-! ### The receiving part -/

inductive ReceiveOp
  | idle
  | ready (own : Option Nat) (lpBuffer : List UInt8) (bufferLen : Nat)
  | waiting (own : Option Nat) (wait : Nat) (lpBuffer : List UInt8)
      (bufferLen : Nat)
  /-- The lambda has called `receive_complete` and not yet the handler. -/
  | completing (channel : Option Nat) (ec : ErrorCode) (bytes : Nat)
      (lpBuffer : List UInt8) (bufferLen : Nat)
  deriving DecidableEq

def ReceiveOp.own : ReceiveOp → Option Nat
  | .ready own _ _ => own
  | .waiting own _ _ _ => own
  | _ => none

/-- What a completion lambda read from which channel, and how much it copied
and acknowledged. -/
structure ReceiveRead where
  channel : Option Nat
  ec : ErrorCode
  buffs : List Buffer
  bufferLen : Nat
  copied : Nat
  deriving DecidableEq

structure ReceiveResult where
  channel : Option Nat
  ec : ErrorCode
  bytes : Nat
  bufferLen : Nat
  lpBuffer : List UInt8
  deriving DecidableEq

structure ReceivePart (O : Oneshot) where
  state : StreamState
  frontend : Bool
  backend : Bool
  port : Port O ReceiveMessage
  op : ReceiveOp
  delivery : Delivery
  /-- Each RECEIVE event so far, with the channel it was sent into. -/
  received : List (Option Nat × List Buffer)
  reads : List ReceiveRead
  results : List ReceiveResult

namespace ReceivePart

variable (part : ReceivePart O)

def initiate : Option (ReceivePart O) :=
  match part.op with
  | .ready own lpBuffer bufferLen =>
      part.port.rx.map (fun wait =>
        { part with op := .waiting own wait lpBuffer bufferLen })
  | _ => some part

def completes (ec : ErrorCode) : Bool :=
  match part.op with
  | .waiting _ wait _ _ => waitCompletes part.port wait ec
  | _ => false

/-- The completion lambda up to `receive_complete(copied)`. -/
def handler (ec : ErrorCode) : Option (ReceivePart O) :=
  match part.op with
  | .waiting _ _ lpBuffer bufferLen =>
      if ec.failed = true then
        some { part with op := .completing none ec 0 lpBuffer bufferLen }
      else
        part.port.get.map (fun message =>
          let copy := copyBuffers lpBuffer bufferLen message.2
          { part with
            op := .completing part.port.rx message.1 copy.copied
              copy.lpBuffer bufferLen
            delivery := part.delivery.complete copy.copied
            reads := part.reads ++
              [⟨part.port.rx, message.1, message.2, bufferLen, copy.copied⟩] })
  | _ => some part

def handlerFailures (ec : ErrorCode) : List StreamAssert :=
  match part.op, part.port.get with
  | .waiting _ _ lpBuffer bufferLen, some message =>
      if ec.failed = true then []
      else
        let copy := copyBuffers lpBuffer bufferLen message.2
        violated .memcpyResult (copy.calls.all MemcpyCall.succeeds) ++
          violated .copiedInBounds (decide (copy.copied ≤ bufferLen))
  | _, _ => []

/-- `std::move(h)(ec2, copied)`. -/
def invoke : ReceivePart O :=
  match part.op with
  | .completing channel ec bytes lpBuffer bufferLen =>
      { part with
        op := .idle
        results := part.results ++ [⟨channel, ec, bytes, bufferLen, lpBuffer⟩] }
  | _ => part

end ReceivePart

/-! ### The machine -/

inductive StreamAction
  | event (event : StreamEvent)
  | start (step : UnlockedStep)
  | send (step : UnlockedStep)
  | receive (lpBuffer : List UInt8) (bufferLen : Nat)
  | receiveInitiate
  | receiveHandler (ec : ErrorCode)
  | receiveInvoke
  | shutdown (status : QuicStatus)
  | shutdownInitiate
  | shutdownHandler (ec : ErrorCode)
  deriving DecidableEq

def StreamAction.isEvent : StreamAction → Bool
  | .event _ => true
  | _ => false

structure StreamWorld (O : Oneshot) where
  ctx : AsioServerStreamCtx O
  start : UnlockedOp
  send : UnlockedOp
  receive : ReceiveOp
  shutdown : LockedOp
  /-- msquic accepted a `StreamStart` whose START_COMPLETE is still to come. -/
  startOwed : Bool
  /-- msquic accepted a `StreamSend` whose SEND_COMPLETE is still to come. -/
  sendOwed : Bool
  delivery : Delivery
  received : List (Option Nat × List Buffer)
  reads : List ReceiveRead
  results : List ReceiveResult
  sendResults : List (ErrorCode × UInt64)
  threw : Bool

namespace StreamWorld

variable (world : StreamWorld O)

def initial : StreamWorld O where
  ctx := .initial
  start := .idle
  send := .idle
  receive := .idle
  shutdown := .idle
  startOwed := false
  sendOwed := false
  delivery := .initial
  received := []
  reads := []
  results := []
  sendResults := []
  threw := false

def deliver (event : StreamEvent) : StreamWorld O :=
  let result := asioServerStreamCallback event world.ctx
  let ctx := Exec.finalState result
  { world with
    ctx := ctx
    startOwed := world.startOwed && !(event matches .startComplete _)
    sendOwed := world.sendOwed && !(event matches .sendComplete _)
    delivery :=
      match event with
      | .receive buffers => world.delivery.indicate (totalLength buffers)
      | _ => world.delivery
    received :=
      match event with
      | .receive buffers => world.received ++ [(ctx.receive.tx, buffers)]
      | _ => world.received
    threw := world.threw || Exec.thrown result }

def startSlot : UnlockedSlot O :=
  ⟨world.ctx.pending.start, world.ctx.startComplete, world.start⟩

def sendSlot : UnlockedSlot O :=
  ⟨world.ctx.pending.send, world.ctx.send, world.send⟩

def shutdownSlot : LockedSlot O ErrorCode :=
  ⟨world.ctx.pending.shutdown, world.ctx.shutdown, world.shutdown⟩

def receivePart : ReceivePart O where
  state := world.ctx.state
  frontend := world.ctx.pending.receiveFrontend
  backend := world.ctx.pending.receiveBackend
  port := world.ctx.receive
  op := world.receive
  delivery := world.delivery
  received := world.received
  reads := world.reads
  results := world.results

def asyncStart (step : UnlockedStep) : StreamWorld O :=
  match world.startSlot.step step with
  | none => { world with threw := true }
  | some slot =>
      { world with
        ctx := { world.ctx with
          pending := { world.ctx.pending with start := slot.pending }
          startComplete := slot.port
          failed := world.ctx.failed ++
            violated .asyncStartUnset (world.startSlot.assertion step) }
        start := slot.op
        startOwed := world.startOwed || step.accepted }

def asyncSend (step : UnlockedStep) : StreamWorld O :=
  match world.sendSlot.step step with
  | none => { world with threw := true }
  | some slot =>
      { world with
        ctx := { world.ctx with
          pending := { world.ctx.pending with send := slot.pending }
          send := slot.port
          failed := world.ctx.failed ++
            violated .asyncSendUnset (world.sendSlot.assertion step) }
        send := slot.op
        sendOwed := world.sendOwed || step.accepted
        sendResults := world.sendResults ++ (world.sendSlot.report step).toList }

def withReceive (part : ReceivePart O) : StreamWorld O :=
  { world with
    receive := part.op
    delivery := part.delivery
    reads := part.reads
    results := part.results }

def step (action : StreamAction) : StreamWorld O :=
  match action with
  | .event event => world.deliver event
  | .start step => world.asyncStart step
  | .send step => world.asyncSend step
  | .receive lpBuffer bufferLen =>
      let result := asyncReceive world.ctx
      let ctx := Exec.finalState result
      { world with
        ctx := ctx
        receive := .ready ctx.receive.rx lpBuffer bufferLen
        threw := world.threw || Exec.thrown result }
  | .receiveInitiate =>
      match world.receivePart.initiate with
      | none => { world with threw := true }
      | some part => world.withReceive part
  | .receiveHandler ec =>
      match world.receivePart.handler ec with
      | none => { world with threw := true }
      | some part =>
          { world.withReceive part with
            ctx := { world.ctx with
              failed := world.ctx.failed ++ world.receivePart.handlerFailures ec } }
  | .receiveInvoke => world.withReceive world.receivePart.invoke
  | .shutdown status =>
      let result := asyncShutdown status world.ctx
      let ctx := Exec.finalState result
      { world with
        ctx := ctx
        shutdown := .ready ctx.shutdown.rx
        threw := world.threw || Exec.thrown result }
  | .shutdownInitiate =>
      match world.shutdownSlot.initiate with
      | none => { world with threw := true }
      | some slot => { world with shutdown := slot.op }
  | .shutdownHandler ec =>
      match world.shutdownSlot.handler ec with
      | none => { world with threw := true }
      | some (slot, _) => { world with shutdown := slot.op }

/-- Program order.  The front end starts an operation of a kind only after the
handler of the previous one of that kind was invoked, a handler runs when its
wait has completed, and nothing runs after an exception. -/
def enabled (action : StreamAction) : Bool :=
  !world.threw &&
    match action with
    | .event _ => true
    | .start step => world.startSlot.enabled step
    | .send step => world.sendSlot.enabled step
    | .receive _ _ => (world.receive matches .idle)
    | .receiveInitiate => (world.receive matches .ready _ _ _)
    | .receiveHandler ec => world.receivePart.completes ec
    | .receiveInvoke => (world.receive matches .completing _ _ _ _ _)
    | .shutdown _ => (world.shutdown matches .idle)
    | .shutdownInitiate => (world.shutdown matches .ready _)
    | .shutdownHandler ec => world.shutdownSlot.completes ec

end StreamWorld

/-! ### The receiving part moves on its own -/

namespace ReceivePart

variable (part : ReceivePart O)

def target : Port O ReceiveMessage :=
  if part.frontend = true then part.port else part.port.renew

def indicated (buffers : List Buffer) : ReceivePart O :=
  { part with
    frontend := false
    backend := part.backend || !part.frontend
    port := part.target.afterSend (.success, buffers)
    delivery := part.delivery.indicate (totalLength buffers)
    received := part.received ++ [(part.target.tx, buffers)] }

def terminal (state : StreamState) (ec : ErrorCode) : ReceivePart O :=
  { part with
    state := state
    frontend := false
    port := part.port.settle part.frontend (ec, []) }

def called (lpBuffer : List UInt8) (bufferLen : Nat) : ReceivePart O :=
  if part.backend = true then
    { part with
      backend := false
      op := .ready part.port.rx lpBuffer bufferLen }
  else if part.state = .ok then
    { part with
      frontend := true
      port := part.port.renew
      op := .ready (some part.port.channels.next) lpBuffer bufferLen }
  else
    { part with
      port := part.port.renew.afterSend (endOfReceive part.state, [])
      op := .ready (some part.port.channels.next) lpBuffer bufferLen }

theorem initiate_keeps {part after : ReceivePart O}
    (initiated : part.initiate = some after) :
    after = { part with op := after.op } := by
  unfold initiate at initiated
  split at initiated
  · obtain ⟨wait, _, rfl⟩ := Option.map_eq_some_iff.mp initiated
    rfl
  · obtain rfl := Option.some.inj initiated
    rfl

theorem handler_keeps {part after : ReceivePart O} {ec : ErrorCode}
    (handled : part.handler ec = some after) :
    after = { part with
      op := after.op, delivery := after.delivery, reads := after.reads } := by
  unfold handler at handled
  split at handled
  · split at handled
    · obtain rfl := Option.some.inj handled
      rfl
    · obtain ⟨message, _, rfl⟩ := Option.map_eq_some_iff.mp handled
      rfl
  · obtain rfl := Option.some.inj handled
    rfl

def next (action : StreamAction) : ReceivePart O :=
  match action with
  | .event (.receive buffers) => part.indicated buffers
  | .event .peerSendShutdown => part.terminal .peerShutdown .success
  | .event .peerSendAborted =>
      part.terminal .peerAbort (.basic .connectionAborted)
  | .event .shutdownComplete =>
      part.terminal .shutdownComplete (.basic .brokenPipe)
  | .receive lpBuffer bufferLen => part.called lpBuffer bufferLen
  | .receiveInitiate => part.initiate.getD part
  | .receiveHandler ec => (part.handler ec).getD part
  | .receiveInvoke => part.invoke
  | _ => part

end ReceivePart

namespace StreamWorld

private theorem receivePart_deliver (world : StreamWorld O)
    (event : StreamEvent)
    (guarded : world.ctx.Guarded) :
    (world.deliver event).receivePart = world.receivePart.next (.event event) := by
  simp only [deliver, world.ctx.finalState_callback event guarded]
  cases event with
  | receive buffers =>
      simp only [AsioServerStreamCtx.after, receivePart, ReceivePart.next,
        ReceivePart.indicated, ReceivePart.target,
        AsioServerStreamCtx.receivePort, Port.tx_afterSend]
      rfl
  | startComplete | sendComplete | peerSendShutdown | peerSendAborted
  | shutdownComplete | other => rfl

private theorem receivePart_asyncReceive (world : StreamWorld O)
    (lpBuffer : List UInt8) (bufferLen : Nat) :
    (world.step (.receive lpBuffer bufferLen)).receivePart =
      world.receivePart.called lpBuffer bufferLen := by
  simp only [step, world.ctx.asyncReceive_eq, Exec.finalState, receivePart,
    ReceivePart.called, AsioServerStreamCtx.afterFirstReader]
  by_cases raised : world.ctx.pending.receiveBackend = true
  · simp only [raised, if_true]
  · by_cases open_ : world.ctx.state = .ok
    · simp only [raised, open_, if_true, Bool.false_eq_true, if_false,
        Port.rx_renew]
    · simp only [raised, open_, Bool.false_eq_true, if_false,
        Port.rx_afterSend, Port.rx_renew]

private theorem receivePart_asyncShutdown (world : StreamWorld O)
    (status : QuicStatus) :
    (world.step (.shutdown status)).receivePart = world.receivePart := by
  simp only [step, world.ctx.asyncShutdown_eq, Exec.finalState]
  by_cases complete : world.ctx.state = .shutdownComplete
  · simp only [complete, if_true, receivePart]
  · by_cases failure : status.quicFailed = true
    · simp only [complete, failure, if_false, if_true, receivePart]
    · simp only [complete, failure, if_false, receivePart, Bool.false_eq_true]

/-- The stream moves its receiving part as `ReceivePart.next` says. -/
theorem receivePart_step (world : StreamWorld O) (action : StreamAction)
    (guarded : world.ctx.Guarded) :
    (world.step action).receivePart = world.receivePart.next action := by
  cases action with
  | event event =>
      exact world.receivePart_deliver event guarded
  | start step =>
      simp only [StreamWorld.step, asyncStart]
      split <;> rfl
  | send step =>
      simp only [StreamWorld.step, asyncSend]
      split <;> rfl
  | receive lpBuffer bufferLen =>
      exact world.receivePart_asyncReceive lpBuffer bufferLen
  | receiveInitiate =>
      simp only [StreamWorld.step, ReceivePart.next]
      cases initiated : world.receivePart.initiate with
      | none => rfl
      | some part =>
          have keeps := ReceivePart.initiate_keeps initiated
          rw [keeps]
          rfl
  | receiveHandler ec =>
      simp only [StreamWorld.step, ReceivePart.next]
      cases handled : world.receivePart.handler ec with
      | none => rfl
      | some part =>
          have keeps := ReceivePart.handler_keeps handled
          rw [keeps]
          rfl
  | receiveInvoke =>
      simp only [StreamWorld.step, ReceivePart.next]
      unfold ReceivePart.invoke
      split <;> rfl
  | shutdown status =>
      exact world.receivePart_asyncShutdown status
  | shutdownInitiate =>
      simp only [StreamWorld.step, ReceivePart.next]
      split <;> rfl
  | shutdownHandler ec =>
      simp only [StreamWorld.step, ReceivePart.next]
      split <;> rfl

end StreamWorld

def streamMachine (O : Oneshot) : Machine (StreamWorld O) StreamAction where
  initial := .initial
  step := StreamWorld.step

/-- Program order alone, with every event possible at every time. -/
def StreamWorld.anyEvents : Environment (StreamWorld O) StreamAction :=
  fun _ world action => world.enabled action = true

instance (actions : List StreamAction) (world : StreamWorld O)
    (action : StreamAction) :
    Decidable (StreamWorld.anyEvents actions world action) :=
  inferInstanceAs (Decidable (_ = true))

end MsquicAsio
