/-
The connection as a machine: its context, the calls of the front end, and the
PEER_STREAM_STARTED callback, which runs without the mutex, statement by
statement.

msquic runs one callback of a connection at a time, so the program counter of
that callback is one field, and an event comes only when it has returned.
-/
import MsquicAsio.Lib.Machine
import MsquicAsio.Connection.Handle

set_option autoImplicit false

namespace MsquicAsio

variable {O : Oneshot}

inductive StreamStarted
  | returned
  | acquiring (stream : Hquic)
  | acquired (stream : Hquic)
  | asserted (stream : Hquic)
  | cleared (stream : Hquic)
  | registered (stream : Hquic)
  deriving DecidableEq

namespace StreamStarted

def passed : StreamStarted → Bool
  | .acquired _ => true
  | .asserted _ => true
  | _ => false

def sending : StreamStarted → Bool
  | .cleared _ => true
  | .registered _ => true
  | _ => false

end StreamStarted

inductive StreamStartedStep
  -- `accept_bs_.acquire()`
  | acquire
  -- `assert(pending_.accept)`
  | assertAccept
  -- `pending_.accept = false`
  | clearAccept
  -- `stream.assign(...); stream.set_callback()`
  | setCallback
  -- `accept_tx_.send(ec, std::move(stream))`
  | send
  deriving DecidableEq

inductive ConnectionAction
  | event (event : ConnectionEvent)
  | streamStarted (step : StreamStartedStep)
  | start (step : UnlockedStep)
  | connect
  | connectInitiate
  | connectHandler (ec : ErrorCode)
  | accept
  | acceptInitiate
  | acceptHandler (ec : ErrorCode)
  | shutdown
  | shutdownInitiate
  | shutdownHandler (ec : ErrorCode)
  deriving DecidableEq

namespace ConnectionAction

def isStart : ConnectionAction → Bool
  | .start _ => true
  | _ => false

def isEvent : ConnectionAction → Bool
  | .event _ => true
  | _ => false

def isShutdown : ConnectionAction → Bool
  | .event occurred => occurred.isShutdown
  | _ => false

end ConnectionAction

structure ConnectionWorld (O : Oneshot) where
  ctx : AsioServerConnectionCtx O
  callback : StreamStarted
  start : UnlockedOp
  connect : LockedOp
  accept : LockedOp
  shutdown : LockedOp
  /-- msquic accepted a `ConnectionStart` whose CONNECTED is still to come. -/
  startOwed : Bool
  /-- The streams on which `SetCallbackHandler` was called. -/
  callbacks : List Hquic
  /-- For each PEER_STREAM_STARTED callback that returned, the channel it sent
  its stream into. -/
  handed : List (Option Nat × Hquic)
  accepted : List AcceptMessage
  threw : Bool

namespace ConnectionWorld

variable (world : ConnectionWorld O)

def initial : ConnectionWorld O where
  ctx := .initial
  callback := .returned
  start := .idle
  connect := .idle
  accept := .idle
  shutdown := .idle
  startOwed := false
  callbacks := []
  handed := []
  accepted := []
  threw := false

/-- The part of a callback that holds the mutex. -/
def deliver (event : ConnectionEvent) : ConnectionWorld O :=
  let result := asioMsQuicConnectionCallback event world.ctx
  { world with
    ctx := Exec.finalState result
    callback :=
      match event with
      | .peerStreamStarted stream => .acquiring stream
      | _ => world.callback
    startOwed := world.startOwed && !(event matches .connected)
    threw := world.threw || Exec.thrown result }

def streamStarted (step : StreamStartedStep) : ConnectionWorld O :=
  match step, world.callback with
  | .acquire, .acquiring stream =>
      { world with
        ctx := { world.ctx with acceptBs := world.ctx.acceptBs - 1 }
        callback := .acquired stream }
  | .assertAccept, .acquired stream =>
      { world with
        ctx := { world.ctx with
          failed := world.ctx.failed ++
            violated .streamStartedAccept world.ctx.pending.accept }
        callback := .asserted stream }
  | .clearAccept, .asserted stream =>
      { world with
        ctx := { world.ctx with
          pending := { world.ctx.pending with accept := false } }
        callback := .cleared stream }
  | .setCallback, .cleared stream =>
      { world with
        callback := .registered stream
        callbacks := world.callbacks ++ [stream] }
  | .send, .registered stream =>
      match world.ctx.accept.send (.success, .assign stream) with
      | none => { world with threw := true }
      | some port =>
          { world with
            ctx := { world.ctx with accept := port }
            callback := .returned
            handed := world.handed ++ [(world.ctx.accept.tx, stream)] }
  | _, _ => world

def startSlot : UnlockedSlot O :=
  ⟨world.ctx.pending.clientStart, world.ctx.conn, world.start⟩

def connectSlot : LockedSlot O ErrorCode :=
  ⟨world.ctx.pending.serverConnect, world.ctx.conn, world.connect⟩

/-- Between clearing the flag and sending the stream the callback stands in
for the flag. -/
def acceptSlot : LockedSlot O AcceptMessage :=
  ⟨world.ctx.pending.accept || world.callback.sending, world.ctx.accept,
    world.accept⟩

def shutdownSlot : LockedSlot O ErrorCode :=
  ⟨world.ctx.pending.shutdown, world.ctx.shutdown, world.shutdown⟩

def asyncStart (step : UnlockedStep) : ConnectionWorld O :=
  match world.startSlot.step step with
  | none => { world with threw := true }
  | some slot =>
      { world with
        ctx := { world.ctx with
          pending := { world.ctx.pending with clientStart := slot.pending }
          conn := slot.port
          failed := world.ctx.failed ++
            violated .asyncStartUnset (world.startSlot.assertion step) }
        start := slot.op
        startOwed := world.startOwed || step.accepted }

def step (action : ConnectionAction) : ConnectionWorld O :=
  match action with
  | .event event => world.deliver event
  | .streamStarted step => world.streamStarted step
  | .start step => world.asyncStart step
  | .connect =>
      let result := asyncConnect world.ctx
      let ctx := Exec.finalState result
      { world with
        ctx := ctx
        connect := .ready ctx.conn.rx
        threw := world.threw || Exec.thrown result }
  | .connectInitiate =>
      match world.connectSlot.initiate with
      | none => { world with threw := true }
      | some slot => { world with connect := slot.op }
  | .connectHandler ec =>
      match world.connectSlot.handler ec with
      | none => { world with threw := true }
      | some (slot, _) => { world with connect := slot.op }
  | .accept =>
      let result := asyncAccept world.ctx
      let ctx := Exec.finalState result
      { world with
        ctx := ctx
        accept := .ready ctx.accept.rx
        threw := world.threw || Exec.thrown result }
  | .acceptInitiate =>
      match world.acceptSlot.initiate with
      | none => { world with threw := true }
      | some slot => { world with accept := slot.op }
  | .acceptHandler ec =>
      match world.acceptSlot.handler ec with
      | none => { world with threw := true }
      | some (slot, message) =>
          { world with
            accept := slot.op
            accepted := world.accepted ++ [message.getD (ec, .dummy)] }
  | .shutdown =>
      let result := asyncConnectionShutdown world.ctx
      let ctx := Exec.finalState result
      { world with
        ctx := ctx
        shutdown := .ready ctx.shutdown.rx
        threw := world.threw || Exec.thrown result }
  | .shutdownInitiate =>
      match world.shutdownSlot.initiate with
      | none => { world with threw := true }
      | some slot => { world with shutdown := slot.op }
  | .shutdownHandler ec =>
      match world.shutdownSlot.handler ec with
      | none => { world with threw := true }
      | some (slot, _) => { world with shutdown := slot.op }

@[simp] theorem step_connect :
    world.step .connect =
      { world with
        ctx := world.ctx.afterConnect
        connect := .ready world.ctx.afterConnect.conn.rx } := by
  simp only [step, world.ctx.asyncConnect_eq, Exec.finalState, Exec.thrown,
    Bool.or_false]

@[simp] theorem step_accept :
    world.step .accept =
      { world with
        ctx := world.ctx.afterAccept
        accept := .ready world.ctx.afterAccept.accept.rx } := by
  simp only [step, world.ctx.asyncAccept_eq, Exec.finalState, Exec.thrown,
    Bool.or_false]

@[simp] theorem step_shutdown :
    world.step .shutdown =
      { world with
        ctx := world.ctx.afterShutdown
        shutdown := .ready world.ctx.afterShutdown.shutdown.rx } := by
  simp only [step, world.ctx.asyncConnectionShutdown_eq, Exec.finalState,
    Exec.thrown, Bool.or_false]

theorem step_event (event : ConnectionEvent) (guarded : world.ctx.Guarded) :
    world.step (.event event) =
      { world with
        ctx := world.ctx.after event
        callback :=
          match event with
          | .peerStreamStarted stream => .acquiring stream
          | _ => world.callback
        startOwed := world.startOwed && !(event matches .connected) } := by
  simp only [step, deliver, world.ctx.callback_eq event guarded,
    Exec.finalState, Exec.thrown, Bool.or_false]

/-- The next statement of the PEER_STREAM_STARTED callback; it blocks on the
semaphore while the counter is zero. -/
def streamStartedEnabled (step : StreamStartedStep) : Bool :=
  match step, world.callback with
  | .acquire, .acquiring _ => decide (0 < world.ctx.acceptBs)
  | .assertAccept, .acquired _ => true
  | .clearAccept, .asserted _ => true
  | .setCallback, .cleared _ => true
  | .send, .registered _ => true
  | _, _ => false

inductive Running : StreamStartedStep → Prop
  | acquire (stream : Hquic) (place : world.callback = .acquiring stream)
      (permit : 0 < world.ctx.acceptBs) : Running .acquire
  | assertAccept (stream : Hquic) (place : world.callback = .acquired stream) :
      Running .assertAccept
  | clearAccept (stream : Hquic) (place : world.callback = .asserted stream) :
      Running .clearAccept
  | setCallback (stream : Hquic) (place : world.callback = .cleared stream) :
      Running .setCallback
  | send (stream : Hquic) (place : world.callback = .registered stream) :
      Running .send

theorem running_of_enabled {statement : StreamStartedStep}
    (enabled : world.streamStartedEnabled statement = true) :
    world.Running statement := by
  unfold streamStartedEnabled at enabled
  split at enabled
  · rename_i stream place
    exact .acquire stream place (of_decide_eq_true enabled)
  · rename_i stream place
    exact .assertAccept stream place
  · rename_i stream place
    exact .clearAccept stream place
  · rename_i stream place
    exact .setCallback stream place
  · rename_i stream place
    exact .send stream place
  · cases enabled

/-- Program order and one callback at a time.  A locked call may start at any
time. -/
def enabled (action : ConnectionAction) : Bool :=
  !world.threw &&
    match action with
    | .event _ => (world.callback matches .returned)
    | .streamStarted step => world.streamStartedEnabled step
    | .start step => world.startSlot.enabled step
    | .connect => true
    | .connectInitiate => (world.connect matches .ready _)
    | .connectHandler ec => world.connectSlot.completes ec
    | .accept => true
    | .acceptInitiate => (world.accept matches .ready _)
    | .acceptHandler ec => world.acceptSlot.completes ec
    | .shutdown => true
    | .shutdownInitiate => (world.shutdown matches .ready _)
    | .shutdownHandler ec => world.shutdownSlot.completes ec

theorem returned_of_event {event : ConnectionEvent}
    (enabled : world.enabled (.event event) = true) :
    world.callback = .returned := by
  simp only [ConnectionWorld.enabled, Bool.and_eq_true] at enabled
  cases at_ : world.callback with
  | returned => rfl
  | acquiring | acquired | asserted | cleared | registered =>
      rw [at_] at enabled
      exact absurd enabled.2 (by simp)

end ConnectionWorld

def connectionMachine (O : Oneshot) :
    Machine (ConnectionWorld O) ConnectionAction where
  initial := .initial
  step := ConnectionWorld.step

/-! ### What each operation sees of an event and of a call -/

namespace ConnectionEvent

/-- What the event answers `async_connect` with, if it does. -/
def connectAnswer : ConnectionEvent → Option ErrorCode
  | .connected => some .success
  | .shutdownInitiatedByTransport => some connectionAborted
  | .shutdownInitiatedByPeer => some connectionAborted
  | .shutdownComplete => some connectionAborted
  | _ => none

def acceptAnswer : ConnectionEvent → Option AcceptMessage
  | .shutdownInitiatedByTransport => some (connectionAborted, .dummy)
  | .shutdownInitiatedByPeer => some (connectionAborted, .dummy)
  | .shutdownComplete => some (connectionAborted, .dummy)
  | _ => none

def shutdownAnswer : ConnectionEvent → Option ErrorCode
  | .shutdownComplete => some .success
  | _ => none

end ConnectionEvent

namespace ConnectionWorld

variable (world : ConnectionWorld O)

/-- What a locked call is answered with at once: nothing while the connection
is not down. -/
def calledAnswer {Message : Type} (message : Message) : Option Message :=
  if world.ctx.state = .shutdownComplete then some message else none

theorem connectSlot_event (event : ConnectionEvent)
    (guarded : world.ctx.Guarded)
    (server : world.ctx.pending.clientStart = false) :
    (world.step (.event event)).connectSlot =
      world.connectSlot.settled event.connectAnswer := by
  rw [world.step_event event guarded]
  cases event with
  | connected =>
      simp only [AsioServerConnectionCtx.after,
        AsioServerConnectionCtx.afterConnected, server, Bool.false_or]
      rfl
  | shutdownInitiatedByTransport | shutdownInitiatedByPeer | shutdownComplete
  | peerStreamStarted | resumed | resumptionTicketReceived | other => rfl

theorem acceptSlot_event (event : ConnectionEvent)
    (guarded : world.ctx.Guarded) (returned : world.callback = .returned) :
    (world.step (.event event)).acceptSlot =
      world.acceptSlot.settled event.acceptAnswer := by
  rw [world.step_event event guarded]
  cases event <;>
    simp only [acceptSlot, returned, StreamStarted.sending,
      AsioServerConnectionCtx.after, AsioServerConnectionCtx.afterConnected,
      AsioServerConnectionCtx.afterCancel,
      AsioServerConnectionCtx.afterShutdownComplete, LockedSlot.settled,
      ConnectionEvent.acceptAnswer, Bool.or_false]

theorem shutdownSlot_event (event : ConnectionEvent)
    (guarded : world.ctx.Guarded) :
    (world.step (.event event)).shutdownSlot =
      world.shutdownSlot.settled event.shutdownAnswer := by
  rw [world.step_event event guarded]
  cases event <;> rfl

theorem connectSlot_connect (lowered : world.connectSlot.pending = false) :
    (world.step .connect).connectSlot =
      world.connectSlot.called (world.calledAnswer connectionAborted) := by
  have low : world.ctx.pending.serverConnect = false := lowered
  simp only [step_connect, AsioServerConnectionCtx.afterConnect, connectSlot,
    calledAnswer]
  by_cases complete : world.ctx.state = .shutdownComplete <;>
    simp only [complete, low, if_true, if_false, ne_eq, not_true_eq_false,
      not_false_eq_true, decide_false, decide_true, Bool.or_false,
      Bool.or_true, LockedSlot.called, Port.rx_afterSend, Port.rx_renew]

theorem acceptSlot_accept (lowered : world.acceptSlot.pending = false) :
    (world.step .accept).acceptSlot =
      world.acceptSlot.called
        (world.calledAnswer (connectionAborted, .dummy)) := by
  obtain ⟨low, notSending⟩ : world.ctx.pending.accept = false ∧
      world.callback.sending = false := Bool.or_eq_false_iff.mp lowered
  simp only [step_accept, AsioServerConnectionCtx.afterAccept, acceptSlot,
    calledAnswer]
  by_cases complete : world.ctx.state = .shutdownComplete <;>
    simp only [complete, low, notSending, if_true, if_false, ne_eq,
      not_true_eq_false, not_false_eq_true, decide_false, decide_true,
      Bool.or_false, Bool.or_true, LockedSlot.called, Port.rx_afterSend,
      Port.rx_renew]

theorem shutdownSlot_shutdown (lowered : world.shutdownSlot.pending = false) :
    (world.step .shutdown).shutdownSlot =
      world.shutdownSlot.called (world.calledAnswer .success) := by
  have low : world.ctx.pending.shutdown = false := lowered
  simp only [step_shutdown, AsioServerConnectionCtx.afterShutdown, shutdownSlot,
    calledAnswer]
  by_cases complete : world.ctx.state = .shutdownComplete <;>
    simp only [complete, low, if_true, if_false, ne_eq, not_true_eq_false,
      not_false_eq_true, decide_false, decide_true, Bool.or_false,
      Bool.or_true, LockedSlot.called, Port.rx_afterSend, Port.rx_renew]

end ConnectionWorld

end MsquicAsio
