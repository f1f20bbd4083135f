/-
The connection context and the callback that msquic runs on it.

The three shutdown events cancel what the front end waits for, all in the same
way.  PEER_STREAM_STARTED releases the mutex at once, so its work is not in the
callback function here but in the statements of `StreamStarted`, between which
the front end may run.
-/
import MsquicAsio.Stream.Callback

set_option autoImplicit false

namespace MsquicAsio

variable {O : Oneshot}

inductive ConnectionState
  | ok
  | peerShutdown
  | transportShutdown
  | shutdownComplete
  deriving DecidableEq

structure ConnectionPending where
  clientStart : Bool
  serverConnect : Bool
  accept : Bool
  shutdown : Bool
  deriving DecidableEq

/-- The assertions of the connection code, by the place where they stand. -/
inductive ConnectionAssert
  | connectedExpected
  | connectedOneMode
  | transportClientStartUnset
  | peerClientStartUnset
  | completeClientStartUnset
  | streamStartedAccept
  | resumedUnsupported
  | asyncStartUnset
  | asyncConnectUnset
  | asyncAcceptUnset
  deriving DecidableEq

def ConnectionAssert.inCallback : ConnectionAssert → Bool
  | .asyncStartUnset => false
  | .asyncConnectUnset => false
  | .asyncAcceptUnset => false
  | _ => true

/-- `basic_stream_handle`, as far as `async_accept` hands it on. -/
structure StreamHandle where
  h : Option Hquic
  deriving DecidableEq

namespace StreamHandle

def dummy : StreamHandle := ⟨none⟩

def assign (stream : Hquic) : StreamHandle := ⟨some stream⟩

def isOpen (handle : StreamHandle) : Bool := handle.h.isSome

end StreamHandle

abbrev AcceptMessage := ErrorCode × StreamHandle

/-- What the shutdown events and a finished connection answer with. -/
def connectionAborted : ErrorCode := .basic .connectionAborted

structure AsioServerConnectionCtx (O : Oneshot) where
  state : ConnectionState
  pending : ConnectionPending
  conn : Port O ErrorCode
  /-- `accept_bs_`, as a plain counter. -/
  acceptBs : Nat
  accept : Port O AcceptMessage
  shutdown : Port O ErrorCode
  failed : List ConnectionAssert

def AsioServerConnectionCtx.initial : AsioServerConnectionCtx O where
  state := .ok
  pending := ⟨false, false, false, false⟩
  conn := .empty
  acceptBs := 0
  accept := .empty
  shutdown := .empty
  failed := []

abbrev ConnectionM (O : Oneshot) :=
  EStateM OneshotException (AsioServerConnectionCtx O)

namespace ConnectionM

def assertThat (name : ConnectionAssert) (condition : Bool) :
    ConnectionM O Unit :=
  modify fun ctx => { ctx with failed := ctx.failed ++ violated name condition }

def setState (state : ConnectionState) : ConnectionM O Unit :=
  modify fun ctx => { ctx with state := state }

def setPending (update : ConnectionPending → ConnectionPending) :
    ConnectionM O Unit :=
  modify fun ctx => { ctx with pending := update ctx.pending }

def pending : ConnectionM O ConnectionPending := do
  return (← get).pending

def state : ConnectionM O ConnectionState := do
  return (← get).state

def sendConn (ec : ErrorCode) : ConnectionM O Unit := fun ctx =>
  match ctx.conn.send ec with
  | some port => .ok () { ctx with conn := port }
  | none => .error .thrown ctx

def sendAccept (message : AcceptMessage) : ConnectionM O Unit := fun ctx =>
  match ctx.accept.send message with
  | some port => .ok () { ctx with accept := port }
  | none => .error .thrown ctx

def sendShutdown (ec : ErrorCode) : ConnectionM O Unit := fun ctx =>
  match ctx.shutdown.send ec with
  | some port => .ok () { ctx with shutdown := port }
  | none => .error .thrown ctx

def renewConn : ConnectionM O Unit :=
  modify fun ctx => { ctx with conn := ctx.conn.renew }

def renewAccept : ConnectionM O Unit :=
  modify fun ctx => { ctx with accept := ctx.accept.renew }

def renewShutdown : ConnectionM O Unit :=
  modify fun ctx => { ctx with shutdown := ctx.shutdown.renew }

/-- `accept_bs_.release()`. -/
def release : ConnectionM O Unit :=
  modify fun ctx => { ctx with acceptBs := ctx.acceptBs + 1 }

@[simp] theorem assertThat_apply (name : ConnectionAssert) (condition : Bool)
    (ctx : AsioServerConnectionCtx O) :
    assertThat name condition ctx =
      .ok () { ctx with failed := ctx.failed ++ violated name condition } :=
  rfl

@[simp] theorem setState_apply (state : ConnectionState)
    (ctx : AsioServerConnectionCtx O) :
    setState state ctx = .ok () { ctx with state := state } :=
  rfl

@[simp] theorem setPending_apply
    (update : ConnectionPending → ConnectionPending)
    (ctx : AsioServerConnectionCtx O) :
    setPending update ctx =
      .ok () { ctx with pending := update ctx.pending } :=
  rfl

@[simp] theorem pending_apply (ctx : AsioServerConnectionCtx O) :
    pending ctx = .ok ctx.pending ctx :=
  rfl

@[simp] theorem state_apply (ctx : AsioServerConnectionCtx O) :
    state ctx = .ok ctx.state ctx :=
  rfl

@[simp] theorem renewConn_apply (ctx : AsioServerConnectionCtx O) :
    renewConn ctx = .ok () { ctx with conn := ctx.conn.renew } :=
  rfl

@[simp] theorem renewAccept_apply (ctx : AsioServerConnectionCtx O) :
    renewAccept ctx = .ok () { ctx with accept := ctx.accept.renew } :=
  rfl

@[simp] theorem renewShutdown_apply (ctx : AsioServerConnectionCtx O) :
    renewShutdown ctx = .ok () { ctx with shutdown := ctx.shutdown.renew } :=
  rfl

@[simp] theorem release_apply (ctx : AsioServerConnectionCtx O) :
    release ctx = .ok () { ctx with acceptBs := ctx.acceptBs + 1 } :=
  rfl

end ConnectionM

/-- The connection events.  The status and error codes of the shutdown events
are only logged. -/
inductive ConnectionEvent
  | connected
  | shutdownInitiatedByTransport
  | shutdownInitiatedByPeer
  | shutdownComplete
  | peerStreamStarted (stream : Hquic)
  | resumed
  | resumptionTicketReceived
  | other
  deriving DecidableEq

namespace ConnectionEvent

def isShutdown : ConnectionEvent → Bool
  | .shutdownInitiatedByTransport => true
  | .shutdownInitiatedByPeer => true
  | .shutdownComplete => true
  | _ => false

end ConnectionEvent

open ConnectionM in
/-- What the three shutdown events have in common. -/
def cancelPending (entered : ConnectionState) (place : ConnectionAssert) :
    ConnectionM O Unit := do
  setState entered
  assertThat place (!(← pending).clientStart)
  if (← pending).serverConnect = true then
    setPending fun p => { p with serverConnect := false }
    sendConn connectionAborted
  if (← pending).accept = true then
    setPending fun p => { p with accept := false }
    sendAccept (connectionAborted, .dummy)

open ConnectionM in
def asioMsQuicConnectionCallback : ConnectionEvent → ConnectionM O Unit
  | .connected => do
      assertThat .connectedExpected
        ((← pending).clientStart || (← pending).serverConnect)
      assertThat .connectedOneMode
        (!((← pending).clientStart && (← pending).serverConnect))
      if (← pending).clientStart = true then
        setPending fun p => { p with clientStart := false }
        sendConn .success
      if (← pending).serverConnect = true then
        setPending fun p => { p with serverConnect := false }
        sendConn .success
  | .shutdownInitiatedByTransport =>
      cancelPending .transportShutdown .transportClientStartUnset
  | .shutdownInitiatedByPeer =>
      cancelPending .peerShutdown .peerClientStartUnset
  | .shutdownComplete => do
      cancelPending .shutdownComplete .completeClientStartUnset
      if (← pending).shutdown = true then
        setPending fun p => { p with shutdown := false }
        sendShutdown .success
  -- the mutex is released before anything is done
  | .peerStreamStarted _ => return
  | .resumed => assertThat .resumedUnsupported false
  | .resumptionTicketReceived => return
  | .other => return

/-! ### What each event does -/

namespace AsioServerConnectionCtx

variable (ctx : AsioServerConnectionCtx O)

/-- The senders that the flags guard are live, and the connection is a client
or a server. -/
structure Guarded : Prop where
  start : ctx.pending.clientStart = true → ctx.conn.Live
  connect : ctx.pending.serverConnect = true → ctx.conn.Live
  oneMode : ctx.pending.clientStart = true → ctx.pending.serverConnect = false
  accept : ctx.pending.accept = true → ctx.accept.Live
  shutdown : ctx.pending.shutdown = true → ctx.shutdown.Live

def afterConnected : AsioServerConnectionCtx O :=
  { ctx with
    pending := { ctx.pending with clientStart := false, serverConnect := false }
    conn := ctx.conn.settle
      (ctx.pending.clientStart || ctx.pending.serverConnect) .success
    failed := ctx.failed ++
      violated .connectedExpected
        (ctx.pending.clientStart || ctx.pending.serverConnect) }

def afterCancel (entered : ConnectionState) (place : ConnectionAssert) :
    AsioServerConnectionCtx O :=
  { ctx with
    state := entered
    pending := { ctx.pending with serverConnect := false, accept := false }
    conn := ctx.conn.settle ctx.pending.serverConnect connectionAborted
    accept := ctx.accept.settle ctx.pending.accept (connectionAborted, .dummy)
    failed := ctx.failed ++ violated place (!ctx.pending.clientStart) }

def afterShutdownComplete : AsioServerConnectionCtx O :=
  { ctx.afterCancel .shutdownComplete .completeClientStartUnset with
    pending := { ctx.pending with
      serverConnect := false, accept := false, shutdown := false }
    shutdown := ctx.shutdown.settle ctx.pending.shutdown .success }

/-- The context in which the callback leaves the connection; for
PEER_STREAM_STARTED, in which it releases the mutex. -/
def after : ConnectionEvent → AsioServerConnectionCtx O
  | .connected => ctx.afterConnected
  | .shutdownInitiatedByTransport =>
      ctx.afterCancel .transportShutdown .transportClientStartUnset
  | .shutdownInitiatedByPeer =>
      ctx.afterCancel .peerShutdown .peerClientStartUnset
  | .shutdownComplete => ctx.afterShutdownComplete
  | .resumed => { ctx with failed := ctx.failed ++ [.resumedUnsupported] }
  | .peerStreamStarted _ => ctx
  | .resumptionTicketReceived => ctx
  | .other => ctx

private theorem cancelPending_eq (entered : ConnectionState)
    (place : ConnectionAssert)
    (guarded : ctx.Guarded) :
    cancelPending entered place ctx = .ok () (ctx.afterCancel entered place) := by
  have sendConn : ctx.pending.serverConnect = true → ∀ ec,
      ctx.conn.send ec = some (ctx.conn.afterSend ec) :=
    fun raised ec => ctx.conn.send_of_live ec (guarded.connect raised)
  have sendAccept : ctx.pending.accept = true → ∀ message,
      ctx.accept.send message = some (ctx.accept.afterSend message) :=
    fun raised message => ctx.accept.send_of_live message (guarded.accept raised)
  obtain ⟨state, ⟨clientStart, serverConnect, accept, shutdown⟩, conn,
    acceptBs, acceptPort, shutdownPort, failed⟩ := ctx
  cases serverConnect <;> cases accept <;>
    simp_all only [cancelPending, afterCancel, Exec.bind_apply,
      Exec.pure_apply, Exec.ite_apply, ConnectionM.pending_apply,
      ConnectionM.setState_apply, ConnectionM.setPending_apply,
      ConnectionM.assertThat_apply, ConnectionM.sendConn,
      ConnectionM.sendAccept, Port.settle, Bool.false_eq_true, if_false,
      if_true, forall_const]

theorem callback_eq (event : ConnectionEvent) (guarded : ctx.Guarded) :
    asioMsQuicConnectionCallback event ctx = .ok () (ctx.after event) := by
  cases event with
  | connected =>
      have sendConn : (ctx.pending.clientStart || ctx.pending.serverConnect) =
          true → ∀ ec, ctx.conn.send ec = some (ctx.conn.afterSend ec) := by
        intro raised ec
        apply ctx.conn.send_of_live
        rcases Bool.or_eq_true_iff.mp raised with start | connect
        · exact guarded.start start
        · exact guarded.connect connect
      have oneMode := guarded.oneMode
      obtain ⟨state, ⟨clientStart, serverConnect, accept, shutdown⟩, conn,
        acceptBs, acceptPort, shutdownPort, failed⟩ := ctx
      cases clientStart <;> cases serverConnect <;>
        simp_all only [asioMsQuicConnectionCallback, after, afterConnected,
          Exec.bind_apply, Exec.pure_apply, Exec.ite_apply,
          ConnectionM.pending_apply, ConnectionM.setPending_apply,
          ConnectionM.assertThat_apply, ConnectionM.sendConn, Port.settle,
          violated, Bool.false_eq_true, if_false, if_true, forall_const,
          Bool.or_false, Bool.or_true, Bool.and_false, Bool.and_true,
          Bool.not_false, List.append_nil, Bool.true_eq_false]
  | shutdownInitiatedByTransport =>
      exact ctx.cancelPending_eq _ _ guarded
  | shutdownInitiatedByPeer =>
      exact ctx.cancelPending_eq _ _ guarded
  | shutdownComplete =>
      have sendShutdown : ctx.pending.shutdown = true → ∀ ec,
          ctx.shutdown.send ec = some (ctx.shutdown.afterSend ec) :=
        fun raised ec => ctx.shutdown.send_of_live ec (guarded.shutdown raised)
      have cancelled := ctx.cancelPending_eq .shutdownComplete
        .completeClientStartUnset guarded
      cases raised : ctx.pending.shutdown <;>
        simp_all only [asioMsQuicConnectionCallback, after,
          afterShutdownComplete, afterCancel, Exec.bind_apply,
          Exec.pure_apply, Exec.ite_apply, ConnectionM.pending_apply,
          ConnectionM.setPending_apply, ConnectionM.sendShutdown, Port.settle,
          Bool.false_eq_true, if_false, if_true, forall_const]
  | peerStreamStarted | resumed | resumptionTicketReceived | other =>
      rfl

end AsioServerConnectionCtx

end MsquicAsio
