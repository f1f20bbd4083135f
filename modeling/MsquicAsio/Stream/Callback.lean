/-
The stream context and the callback that msquic runs on it.

A failing assertion is recorded and execution goes on, as in a build with
assertions disabled; a build with assertions stops at the first entry of that
record.  An exception of the oneshot package leaves the callback, which is
declared `noexcept`.
-/
import MsquicAsio.Lib.Exec
import MsquicAsio.Operation

set_option autoImplicit false

namespace MsquicAsio

variable {O : Oneshot}

inductive StreamState
  | ok
  | peerShutdown
  | peerAbort
  | shutdownComplete
  deriving DecidableEq

structure StreamPending where
  start : Bool
  send : Bool
  receiveFrontend : Bool
  receiveBackend : Bool
  shutdown : Bool
  deriving DecidableEq

/-- The assertions of the stream code, by the place where they stand. -/
inductive StreamAssert
  | startCompletePending
  | sendCompletePending
  | receiveBackendUnset
  | peerSendAbortedSendUnset
  | shutdownCompleteSendUnset
  | shutdownCompleteFrontendUnset
  | shutdownCompleteBackendUnset
  | asyncStartUnset
  | asyncSendUnset
  | asyncReceiveFrontendUnset
  | memcpyResult
  | copiedInBounds
  deriving DecidableEq

abbrev ReceiveMessage := ErrorCode × List Buffer

structure AsioServerStreamCtx (O : Oneshot) where
  state : StreamState
  pending : StreamPending
  startComplete : Port O ErrorCode
  send : Port O ErrorCode
  receive : Port O ReceiveMessage
  shutdown : Port O ErrorCode
  failed : List StreamAssert

def AsioServerStreamCtx.initial : AsioServerStreamCtx O where
  state := .ok
  pending := ⟨false, false, false, false, false⟩
  startComplete := .empty
  send := .empty
  receive := .empty
  shutdown := .empty
  failed := []

inductive OneshotException
  | thrown
  deriving DecidableEq

abbrev StreamM (O : Oneshot) := EStateM OneshotException (AsioServerStreamCtx O)

def violated {Name : Type} (name : Name) (condition : Bool) : List Name :=
  if condition = true then [] else [name]

theorem mem_violated {Name : Type} {other name : Name} {condition : Bool} :
    other ∈ violated name condition ↔ condition = false ∧ other = name := by
  cases condition with
  | true =>
      simp only [violated, if_true, List.not_mem_nil, Bool.true_eq_false,
        false_and]
  | false =>
      simp only [violated, Bool.false_eq_true, if_false, List.mem_singleton,
        true_and]

namespace StreamM

def assertThat (name : StreamAssert) (condition : Bool) : StreamM O Unit :=
  modify fun ctx => { ctx with failed := ctx.failed ++ violated name condition }

def setState (state : StreamState) : StreamM O Unit :=
  modify fun ctx => { ctx with state := state }

def setPending (update : StreamPending → StreamPending) : StreamM O Unit :=
  modify fun ctx => { ctx with pending := update ctx.pending }

def pending : StreamM O StreamPending := do
  return (← get).pending

def state : StreamM O StreamState := do
  return (← get).state

def sendStartComplete (ec : ErrorCode) : StreamM O Unit := fun ctx =>
  match ctx.startComplete.send ec with
  | some port => .ok () { ctx with startComplete := port }
  | none => .error .thrown ctx

def sendSend (ec : ErrorCode) : StreamM O Unit := fun ctx =>
  match ctx.send.send ec with
  | some port => .ok () { ctx with send := port }
  | none => .error .thrown ctx

def sendReceive (message : ReceiveMessage) : StreamM O Unit := fun ctx =>
  match ctx.receive.send message with
  | some port => .ok () { ctx with receive := port }
  | none => .error .thrown ctx

def sendShutdown (ec : ErrorCode) : StreamM O Unit := fun ctx =>
  match ctx.shutdown.send ec with
  | some port => .ok () { ctx with shutdown := port }
  | none => .error .thrown ctx

def renewReceive : StreamM O Unit :=
  modify fun ctx => { ctx with receive := ctx.receive.renew }

def renewShutdown : StreamM O Unit :=
  modify fun ctx => { ctx with shutdown := ctx.shutdown.renew }

/-! Each primitive, applied to a context. -/

@[simp] theorem assertThat_apply (name : StreamAssert) (condition : Bool)
    (ctx : AsioServerStreamCtx O) :
    assertThat name condition ctx =
      .ok () { ctx with failed := ctx.failed ++ violated name condition } :=
  rfl

@[simp] theorem setState_apply (state : StreamState)
    (ctx : AsioServerStreamCtx O) :
    setState state ctx = .ok () { ctx with state := state } :=
  rfl

@[simp] theorem setPending_apply (update : StreamPending → StreamPending)
    (ctx : AsioServerStreamCtx O) :
    setPending update ctx =
      .ok () { ctx with pending := update ctx.pending } :=
  rfl

@[simp] theorem pending_apply (ctx : AsioServerStreamCtx O) :
    pending ctx = .ok ctx.pending ctx :=
  rfl

@[simp] theorem state_apply (ctx : AsioServerStreamCtx O) :
    state ctx = .ok ctx.state ctx :=
  rfl

@[simp] theorem renewReceive_apply (ctx : AsioServerStreamCtx O) :
    renewReceive ctx = .ok () { ctx with receive := ctx.receive.renew } :=
  rfl

@[simp] theorem renewShutdown_apply (ctx : AsioServerStreamCtx O) :
    renewShutdown ctx = .ok () { ctx with shutdown := ctx.shutdown.renew } :=
  rfl

end StreamM

/-- The stream events, with the fields the callback or its callers look at. -/
inductive StreamEvent
  | startComplete (status : QuicStatus)
  | sendComplete (canceled : Bool)
  | receive (buffers : List Buffer)
  | peerSendShutdown
  | peerSendAborted
  | shutdownComplete
  | other
  deriving DecidableEq

inductive CallbackStatus
  | success
  | pending
  deriving DecidableEq

open StreamM in
def asioServerStreamCallback : StreamEvent → StreamM O CallbackStatus
  | .startComplete status => do
      assertThat .startCompletePending (← pending).start
      let ec := ErrorCode.ofStatus status
      setPending fun p => { p with start := false }
      sendStartComplete ec
      return .success
  | .sendComplete _ => do
      assertThat .sendCompletePending (← pending).send
      setPending fun p => { p with send := false }
      -- the canceled field of the event is not looked at
      sendSend .success
      return .success
  | .receive buffers => do
      assertThat .receiveBackendUnset (!(← pending).receiveBackend)
      if (← pending).receiveFrontend = true then
        setPending fun p => { p with receiveFrontend := false }
      else
        setPending fun p => { p with receiveBackend := true }
        renewReceive
      sendReceive (.success, buffers)
      return .pending
  | .peerSendShutdown => do
      setState .peerShutdown
      if (← pending).receiveFrontend = true then
        setPending fun p => { p with receiveFrontend := false }
        sendReceive (.success, [])
      return .success
  | .peerSendAborted => do
      setState .peerAbort
      if (← pending).receiveFrontend = true then
        setPending fun p => { p with receiveFrontend := false }
        sendReceive (.basic .connectionAborted, [])
      assertThat .peerSendAbortedSendUnset (!(← pending).send)
      return .success
  | .shutdownComplete => do
      setState .shutdownComplete
      if (← pending).receiveFrontend = true then
        setPending fun p => { p with receiveFrontend := false }
        sendReceive (.basic .brokenPipe, [])
      if (← pending).shutdown = true then
        setPending fun p => { p with shutdown := false }
        sendShutdown .success
      assertThat .shutdownCompleteSendUnset (!(← pending).send)
      assertThat .shutdownCompleteFrontendUnset (!(← pending).receiveFrontend)
      assertThat .shutdownCompleteBackendUnset (!(← pending).receiveBackend)
      return .success
  | .other => return .success

/-! ### What each event does -/

namespace AsioServerStreamCtx

variable (ctx : AsioServerStreamCtx O)

def afterTerminal (state : StreamState) (ec : ErrorCode)
    (failures : List StreamAssert) : AsioServerStreamCtx O :=
  { ctx with
    state := state
    pending := { ctx.pending with receiveFrontend := false }
    receive := ctx.receive.settle ctx.pending.receiveFrontend (ec, [])
    failed := ctx.failed ++ failures }

/-- The port into which a RECEIVE event sends: that of the waiting reader, or
a new one that the backend makes because it came first. -/
def receivePort : Port O ReceiveMessage :=
  if ctx.pending.receiveFrontend = true then ctx.receive else ctx.receive.renew

private theorem receivePort_live
    (live : ctx.pending.receiveFrontend = true → ctx.receive.Live) :
    ctx.receivePort.Live := by
  unfold receivePort
  split
  · rename_i raised
    exact live raised
  · exact ctx.receive.live_renew

/-- A send after which nothing else is done leaves the same context whether it
is accepted or throws. -/
private theorem finalState_sendStartComplete (ec : ErrorCode)
    (status : CallbackStatus) :
    Exec.finalState ((do
      StreamM.sendStartComplete ec
      return status : StreamM O CallbackStatus) ctx) =
        { ctx with startComplete := ctx.startComplete.afterSend ec } := by
  simp only [Exec.bind_apply, Exec.pure_apply, StreamM.sendStartComplete,
    Port.afterSend]
  cases ctx.startComplete.send ec with
  | none => rfl
  | some port => rfl

private theorem finalState_sendSend (ec : ErrorCode)
    (status : CallbackStatus) :
    Exec.finalState ((do
      StreamM.sendSend ec
      return status : StreamM O CallbackStatus) ctx) =
        { ctx with send := ctx.send.afterSend ec } := by
  simp only [Exec.bind_apply, Exec.pure_apply, StreamM.sendSend,
    Port.afterSend]
  cases ctx.send.send ec with
  | none => rfl
  | some port => rfl

private theorem callback_receive (buffers : List Buffer)
    (live : ctx.pending.receiveFrontend = true → ctx.receive.Live) :
    asioServerStreamCallback (.receive buffers) ctx =
      .ok .pending { ctx with
        pending := { ctx.pending with
          receiveFrontend := false
          receiveBackend :=
            ctx.pending.receiveBackend || !ctx.pending.receiveFrontend }
        receive := ctx.receivePort.afterSend (.success, buffers)
        failed := ctx.failed ++
          violated .receiveBackendUnset (!ctx.pending.receiveBackend) } := by
  have target := ctx.receivePort_live live
  unfold receivePort at target
  cases raised : ctx.pending.receiveFrontend with
  | true =>
      rw [if_pos raised] at target
      simp only [asioServerStreamCallback, Exec.bind_apply, Exec.pure_apply,
        Exec.ite_apply, StreamM.pending_apply, StreamM.assertThat_apply,
        StreamM.setPending_apply, raised, if_true,
        StreamM.sendReceive, Port.send_of_live _ _ target, receivePort, Bool.not_true,
        Bool.or_false]
  | false =>
      rw [if_neg (by rw [raised]; exact Bool.false_ne_true)] at target
      simp only [asioServerStreamCallback, Exec.bind_apply, Exec.pure_apply,
        Exec.ite_apply, StreamM.pending_apply, StreamM.assertThat_apply,
        StreamM.setPending_apply, StreamM.renewReceive_apply, raised,
        Bool.false_eq_true, if_false, StreamM.sendReceive, receivePort,
        Port.send_of_live _ _ target, Bool.not_false, Bool.or_true]

private theorem callback_peerSendShutdown
    (live : ctx.pending.receiveFrontend = true → ctx.receive.Live) :
    asioServerStreamCallback .peerSendShutdown ctx =
      .ok .success (ctx.afterTerminal .peerShutdown .success []) := by
  cases raised : ctx.pending.receiveFrontend with
  | true =>
      simp only [asioServerStreamCallback, Exec.bind_apply, Exec.pure_apply,
        Exec.ite_apply, StreamM.pending_apply, StreamM.setState_apply,
        StreamM.setPending_apply, StreamM.sendReceive, raised, if_true,
        Port.send_of_live _ _ (live raised), afterTerminal, Port.settle,
        List.append_nil]
  | false =>
      have keep : ({ ctx.pending with receiveFrontend := false } :
          StreamPending) = ctx.pending := by
        rw [← raised]
      simp only [asioServerStreamCallback, Exec.bind_apply, Exec.pure_apply,
        Exec.ite_apply, StreamM.pending_apply, StreamM.setState_apply, raised,
        Bool.false_eq_true, if_false, afterTerminal, Port.settle, keep,
        List.append_nil]

private theorem callback_peerSendAborted
    (live : ctx.pending.receiveFrontend = true → ctx.receive.Live) :
    asioServerStreamCallback .peerSendAborted ctx =
      .ok .success (ctx.afterTerminal .peerAbort (.basic .connectionAborted)
        (violated .peerSendAbortedSendUnset (!ctx.pending.send))) := by
  cases raised : ctx.pending.receiveFrontend with
  | true =>
      simp only [asioServerStreamCallback, Exec.bind_apply, Exec.pure_apply,
        Exec.ite_apply, StreamM.pending_apply, StreamM.setState_apply,
        StreamM.setPending_apply, StreamM.assertThat_apply,
        StreamM.sendReceive, raised, if_true,
        Port.send_of_live _ _ (live raised), afterTerminal, Port.settle]
  | false =>
      have keep : ({ ctx.pending with receiveFrontend := false } :
          StreamPending) = ctx.pending := by
        rw [← raised]
      simp only [asioServerStreamCallback, Exec.bind_apply, Exec.pure_apply,
        Exec.ite_apply, StreamM.pending_apply, StreamM.setState_apply, raised,
        StreamM.assertThat_apply, Bool.false_eq_true, if_false, afterTerminal,
        Port.settle, keep]

/-- The assertions of SHUTDOWN_COMPLETE that fail: those about a send and
about a buffered RECEIVE can, the one about a waiting reader cannot. -/
def shutdownCompleteFailures (pending : StreamPending) : List StreamAssert :=
  violated .shutdownCompleteSendUnset (!pending.send) ++
    violated .shutdownCompleteBackendUnset (!pending.receiveBackend)

theorem callback_shutdownComplete
    (liveReceive : ctx.pending.receiveFrontend = true → ctx.receive.Live)
    (liveShutdown : ctx.pending.shutdown = true → ctx.shutdown.Live) :
    asioServerStreamCallback .shutdownComplete ctx =
      .ok .success { ctx.afterTerminal .shutdownComplete (.basic .brokenPipe)
          (shutdownCompleteFailures ctx.pending) with
        pending := { ctx.pending with receiveFrontend := false, shutdown := false }
        shutdown := ctx.shutdown.settle ctx.pending.shutdown .success } := by
  have sendReceive : ctx.pending.receiveFrontend = true → ∀ message,
      ctx.receive.send message = some (ctx.receive.afterSend message) :=
    fun raised message => ctx.receive.send_of_live message (liveReceive raised)
  have sendShutdown : ctx.pending.shutdown = true → ∀ ec,
      ctx.shutdown.send ec = some (ctx.shutdown.afterSend ec) :=
    fun raised ec => ctx.shutdown.send_of_live ec (liveShutdown raised)
  obtain ⟨state, ⟨start, send, frontend, backend, shut⟩, startPort, sendPort,
    receivePort, shutdownPort, failed⟩ := ctx
  cases frontend <;> cases shut <;>
    simp_all only [asioServerStreamCallback, Exec.bind_apply, Exec.pure_apply,
      Exec.ite_apply, StreamM.pending_apply, StreamM.setState_apply,
      StreamM.setPending_apply, StreamM.assertThat_apply, StreamM.sendReceive,
      StreamM.sendShutdown, afterTerminal, Port.settle, violated,
      shutdownCompleteFailures, Bool.false_eq_true, if_false, if_true,
      Bool.not_false, List.append_assoc, List.nil_append, forall_const]

/-- SHUTDOWN_COMPLETE answers a pending `async_shutdown` before it comes to its
assertions: on a used sender it throws and never reaches them. -/
def Answerable : Prop := ctx.pending.shutdown = true → ctx.shutdown.Live

def afterThrow : AsioServerStreamCtx O :=
  { ctx.afterTerminal .shutdownComplete (.basic .brokenPipe) [] with
    pending := { ctx.pending with receiveFrontend := false, shutdown := false } }

theorem callback_shutdownComplete_throws
    (liveReceive : ctx.pending.receiveFrontend = true → ctx.receive.Live)
    (dead : ¬ctx.Answerable) :
    asioServerStreamCallback .shutdownComplete ctx =
      .error .thrown ctx.afterThrow := by
  obtain ⟨raised, used⟩ := Classical.not_imp.mp dead
  have thrown : ∀ ec, ctx.shutdown.send ec = none :=
    fun ec => ctx.shutdown.send_of_not_live ec used
  have sendReceive : ctx.pending.receiveFrontend = true → ∀ message,
      ctx.receive.send message = some (ctx.receive.afterSend message) :=
    fun raised message => ctx.receive.send_of_live message (liveReceive raised)
  obtain ⟨state, ⟨start, send, frontend, backend, shut⟩, startPort, sendPort,
    receivePort, shutdownPort, failed⟩ := ctx
  cases frontend <;>
    simp_all only [asioServerStreamCallback, Exec.bind_apply,
      Exec.ite_apply, StreamM.pending_apply, StreamM.setState_apply,
      StreamM.setPending_apply, StreamM.sendReceive, StreamM.sendShutdown,
      Exec.pure_apply, afterThrow, afterTerminal, Port.settle,
      Bool.false_eq_true, if_false, if_true, List.append_nil, forall_const]

def after : StreamEvent → AsioServerStreamCtx O
  | .startComplete status =>
      { ctx with
        pending := { ctx.pending with start := false }
        startComplete := ctx.startComplete.afterSend (.ofStatus status)
        failed := ctx.failed ++
          violated .startCompletePending ctx.pending.start }
  | .sendComplete _ =>
      { ctx with
        pending := { ctx.pending with send := false }
        send := ctx.send.afterSend .success
        failed := ctx.failed ++ violated .sendCompletePending ctx.pending.send }
  | .receive buffers =>
      { ctx with
        pending := { ctx.pending with
          receiveFrontend := false
          receiveBackend :=
            ctx.pending.receiveBackend || !ctx.pending.receiveFrontend }
        receive := ctx.receivePort.afterSend (.success, buffers)
        failed := ctx.failed ++
          violated .receiveBackendUnset (!ctx.pending.receiveBackend) }
  | .peerSendShutdown => ctx.afterTerminal .peerShutdown .success []
  | .peerSendAborted =>
      ctx.afterTerminal .peerAbort (.basic .connectionAborted)
        (violated .peerSendAbortedSendUnset (!ctx.pending.send))
  | .shutdownComplete =>
      { ctx.afterTerminal .shutdownComplete (.basic .brokenPipe)
          (shutdownCompleteFailures ctx.pending) with
        pending := { ctx.pending with receiveFrontend := false, shutdown := false }
        shutdown := ctx.shutdown.settle ctx.pending.shutdown .success }
  | .other => ctx

def Guarded : Prop :=
  (ctx.pending.receiveFrontend = true → ctx.receive.Live) ∧
    (ctx.pending.shutdown = true → ctx.shutdown.Live)

theorem finalState_event (event : StreamEvent)
    (liveReceive : ctx.pending.receiveFrontend = true → ctx.receive.Live)
    (other : event ≠ .shutdownComplete) :
    Exec.finalState (asioServerStreamCallback event ctx) = ctx.after event := by
  cases event with
  | startComplete status =>
      exact finalState_sendStartComplete { ctx with
        pending := { ctx.pending with start := false }
        failed := ctx.failed ++
          violated .startCompletePending ctx.pending.start }
        (.ofStatus status) .success
  | sendComplete canceled =>
      exact finalState_sendSend { ctx with
        pending := { ctx.pending with send := false }
        failed := ctx.failed ++ violated .sendCompletePending ctx.pending.send }
        .success .success
  | receive buffers =>
      rw [ctx.callback_receive buffers liveReceive]
      rfl
  | peerSendShutdown =>
      rw [ctx.callback_peerSendShutdown liveReceive]
      rfl
  | peerSendAborted =>
      rw [ctx.callback_peerSendAborted liveReceive]
      rfl
  | shutdownComplete =>
      exact absurd rfl other
  | other =>
      rfl

theorem finalState_callback (event : StreamEvent) (guarded : ctx.Guarded) :
    Exec.finalState (asioServerStreamCallback event ctx) = ctx.after event := by
  obtain ⟨liveReceive, liveShutdown⟩ := guarded
  by_cases last : event = .shutdownComplete
  · subst last
    rw [ctx.callback_shutdownComplete liveReceive liveShutdown]
    rfl
  · exact ctx.finalState_event event liveReceive last

/-- Only START_COMPLETE and SEND_COMPLETE send without looking at a flag. -/
theorem thrown_callback (event : StreamEvent) (guarded : ctx.Guarded)
    (start : ∀ status, event = .startComplete status → ctx.startComplete.Live)
    (send : ∀ canceled, event = .sendComplete canceled → ctx.send.Live) :
    Exec.thrown (asioServerStreamCallback event ctx) = false := by
  obtain ⟨liveReceive, liveShutdown⟩ := guarded
  cases event with
  | startComplete status =>
      have live := start status rfl
      simp only [asioServerStreamCallback, Exec.bind_apply, Exec.pure_apply,
        StreamM.pending_apply, StreamM.assertThat_apply,
        StreamM.setPending_apply, StreamM.sendStartComplete,
        Port.send_of_live _ _ live, Exec.thrown]
  | sendComplete canceled =>
      have live := send canceled rfl
      simp only [asioServerStreamCallback, Exec.bind_apply, Exec.pure_apply,
        StreamM.pending_apply, StreamM.assertThat_apply,
        StreamM.setPending_apply, StreamM.sendSend,
        Port.send_of_live _ _ live, Exec.thrown]
  | receive buffers =>
      rw [ctx.callback_receive buffers liveReceive]
      rfl
  | peerSendShutdown =>
      rw [ctx.callback_peerSendShutdown liveReceive]
      rfl
  | peerSendAborted =>
      rw [ctx.callback_peerSendAborted liveReceive]
      rfl
  | shutdownComplete =>
      rw [ctx.callback_shutdownComplete liveReceive liveShutdown]
      rfl
  | other =>
      rfl

end AsioServerStreamCtx

end MsquicAsio
