/-
The listener context, the callback that msquic runs on it, and the locked
parts of `async_accept` and `async_stop`.

NEW_CONNECTION releases the mutex at once, so its work is not in the callback
function here but in the statements of `NewConnection`, which the machine of
the listener runs one by one.
-/
import MsquicAsio.Stream.Callback

set_option autoImplicit false

namespace MsquicAsio

variable {O : Oneshot}

inductive ListenerState
  | ok
  | stopped
  deriving DecidableEq

structure ListenerPending where
  accept : Bool
  stop : Bool
  deriving DecidableEq

/-- The assertions of the listener code, by the place where they stand. -/
inductive ListenerAssert
  | newConnectionAccept
  | setCallbackOpen
  | setConfigOpen
  | eventExpected
  | asyncAcceptUnset
  | asyncStopUnset
  deriving DecidableEq

/-- `basic_connection_handle`, as far as `async_accept` hands it on. -/
structure ConnectionHandle where
  h : Option Hquic
  deriving DecidableEq

namespace ConnectionHandle

def dummy : ConnectionHandle := ⟨none⟩

def assign (connection : Hquic) : ConnectionHandle := ⟨some connection⟩

def isOpen (handle : ConnectionHandle) : Bool := handle.h.isSome

end ConnectionHandle

abbrev MoveAcceptMessage := ErrorCode × ConnectionHandle

structure AsioServerListenerCtx (O : Oneshot) where
  state : ListenerState
  pending : ListenerPending
  acceptBs : Nat
  accept : Port O MoveAcceptMessage
  stop : Port O ErrorCode
  failed : List ListenerAssert

def AsioServerListenerCtx.initial : AsioServerListenerCtx O where
  state := .ok
  pending := ⟨false, false⟩
  acceptBs := 0
  accept := .empty
  stop := .empty
  failed := []

abbrev ListenerM (O : Oneshot) :=
  EStateM OneshotException (AsioServerListenerCtx O)

namespace ListenerM

def assertThat (name : ListenerAssert) (condition : Bool) : ListenerM O Unit :=
  modify fun ctx => { ctx with failed := ctx.failed ++ violated name condition }

def setState (state : ListenerState) : ListenerM O Unit :=
  modify fun ctx => { ctx with state := state }

def setPending (update : ListenerPending → ListenerPending) :
    ListenerM O Unit :=
  modify fun ctx => { ctx with pending := update ctx.pending }

def pending : ListenerM O ListenerPending := do
  return (← get).pending

def state : ListenerM O ListenerState := do
  return (← get).state

def sendAccept (message : MoveAcceptMessage) : ListenerM O Unit := fun ctx =>
  match ctx.accept.send message with
  | some port => .ok () { ctx with accept := port }
  | none => .error .thrown ctx

def sendStop (ec : ErrorCode) : ListenerM O Unit := fun ctx =>
  match ctx.stop.send ec with
  | some port => .ok () { ctx with stop := port }
  | none => .error .thrown ctx

def renewAccept : ListenerM O Unit :=
  modify fun ctx => { ctx with accept := ctx.accept.renew }

def renewStop : ListenerM O Unit :=
  modify fun ctx => { ctx with stop := ctx.stop.renew }

/-- `accept_bs_.release()`. -/
def release : ListenerM O Unit :=
  modify fun ctx => { ctx with acceptBs := ctx.acceptBs + 1 }

@[simp] theorem assertThat_apply (name : ListenerAssert) (condition : Bool)
    (ctx : AsioServerListenerCtx O) :
    assertThat name condition ctx =
      .ok () { ctx with failed := ctx.failed ++ violated name condition } :=
  rfl

@[simp] theorem setState_apply (state : ListenerState)
    (ctx : AsioServerListenerCtx O) :
    setState state ctx = .ok () { ctx with state := state } :=
  rfl

@[simp] theorem setPending_apply (update : ListenerPending → ListenerPending)
    (ctx : AsioServerListenerCtx O) :
    setPending update ctx =
      .ok () { ctx with pending := update ctx.pending } :=
  rfl

@[simp] theorem pending_apply (ctx : AsioServerListenerCtx O) :
    pending ctx = .ok ctx.pending ctx :=
  rfl

@[simp] theorem state_apply (ctx : AsioServerListenerCtx O) :
    state ctx = .ok ctx.state ctx :=
  rfl

@[simp] theorem renewAccept_apply (ctx : AsioServerListenerCtx O) :
    renewAccept ctx = .ok () { ctx with accept := ctx.accept.renew } :=
  rfl

@[simp] theorem renewStop_apply (ctx : AsioServerListenerCtx O) :
    renewStop ctx = .ok () { ctx with stop := ctx.stop.renew } :=
  rfl

@[simp] theorem release_apply (ctx : AsioServerListenerCtx O) :
    release ctx = .ok () { ctx with acceptBs := ctx.acceptBs + 1 } :=
  rfl

end ListenerM

/-- The listener events.  `other` is any that the switch does not name. -/
inductive ListenerEvent
  | newConnection (connection : Hquic)
  | stopComplete
  | other
  deriving DecidableEq

/-- What a stopped listener answers a waiting accept with. -/
def listenerShutDown : MoveAcceptMessage := (.basic .shutDown, .dummy)

/-- What a stopped listener answers a new accept with. -/
def listenerAborted : MoveAcceptMessage := (.basic .connectionAborted, .dummy)

open ListenerM in
def asioServerListenerCallback : ListenerEvent → ListenerM O Unit
  -- the mutex is released before anything is done
  | .newConnection _ => return
  | .stopComplete => do
      setState .stopped
      if (← pending).accept = true then
        setPending fun p => { p with accept := false }
        sendAccept listenerShutDown
      if (← pending).stop = true then
        setPending fun p => { p with stop := false }
        sendStop .success
  | .other => assertThat .eventExpected false

open ListenerM in
def asyncListenerAccept : ListenerM O Unit := do
  assertThat .asyncAcceptUnset (!(← pending).accept)
  renewAccept
  if (← state) = .stopped then
    sendAccept listenerAborted
  else
    setPending fun p => { p with accept := true }
    release

open ListenerM in
/-- The part of `async_stop` that holds the mutex; whether it goes on to call
`ListenerStop`. -/
def asyncStop : ListenerM O Bool := do
  assertThat .asyncStopUnset (!(← pending).stop)
  renewStop
  if (← state) = .stopped then
    sendStop .success
    return false
  else
    setPending fun p => { p with stop := true }
    return true

namespace AsioServerListenerCtx

variable (ctx : AsioServerListenerCtx O)

structure Guarded : Prop where
  accept : ctx.pending.accept = true → ctx.accept.Live
  stop : ctx.pending.stop = true → ctx.stop.Live

def afterStopComplete : AsioServerListenerCtx O :=
  { ctx with
    state := .stopped
    pending := ⟨false, false⟩
    accept := ctx.accept.settle ctx.pending.accept listenerShutDown
    stop := ctx.stop.settle ctx.pending.stop .success }

/-- The context in which the callback leaves the listener; for NEW_CONNECTION,
in which it releases the mutex. -/
def after : ListenerEvent → AsioServerListenerCtx O
  | .newConnection _ => ctx
  | .stopComplete => ctx.afterStopComplete
  | .other => { ctx with failed := ctx.failed ++ [.eventExpected] }

def afterAccept : AsioServerListenerCtx O :=
  { ctx with
    pending := { ctx.pending with
      accept := ctx.pending.accept || decide (ctx.state ≠ .stopped) }
    acceptBs := if ctx.state = .stopped then ctx.acceptBs else ctx.acceptBs + 1
    accept :=
      if ctx.state = .stopped then ctx.accept.renew.afterSend listenerAborted
      else ctx.accept.renew
    failed := ctx.failed ++ violated .asyncAcceptUnset (!ctx.pending.accept) }

def afterStop : AsioServerListenerCtx O :=
  { ctx with
    pending := { ctx.pending with
      stop := ctx.pending.stop || decide (ctx.state ≠ .stopped) }
    stop :=
      if ctx.state = .stopped then ctx.stop.renew.afterSend .success
      else ctx.stop.renew
    failed := ctx.failed ++ violated .asyncStopUnset (!ctx.pending.stop) }

theorem callback_eq (event : ListenerEvent) (guarded : ctx.Guarded) :
    asioServerListenerCallback event ctx = .ok () (ctx.after event) := by
  cases event with
  | newConnection | other => rfl
  | stopComplete =>
      have sendAccept : ctx.pending.accept = true → ∀ message,
          ctx.accept.send message = some (ctx.accept.afterSend message) :=
        fun raised message =>
          ctx.accept.send_of_live message (guarded.accept raised)
      have sendStop : ctx.pending.stop = true → ∀ ec,
          ctx.stop.send ec = some (ctx.stop.afterSend ec) :=
        fun raised ec => ctx.stop.send_of_live ec (guarded.stop raised)
      obtain ⟨state, ⟨accept, stop⟩, acceptBs, acceptPort, stopPort, failed⟩ :=
        ctx
      cases accept <;> cases stop <;>
        simp_all only [asioServerListenerCallback, after, afterStopComplete,
          Exec.bind_apply, Exec.pure_apply, Exec.ite_apply,
          ListenerM.pending_apply, ListenerM.setState_apply,
          ListenerM.setPending_apply, ListenerM.sendAccept,
          ListenerM.sendStop, Port.settle, Bool.false_eq_true, if_false,
          if_true, forall_const]

theorem asyncListenerAccept_eq :
    asyncListenerAccept ctx = .ok () ctx.afterAccept := by
  have fresh := ctx.accept.renew.send_of_live listenerAborted
    ctx.accept.live_renew
  by_cases stopped : ctx.state = .stopped
  · simp only [asyncListenerAccept, afterAccept, Exec.bind_apply,
      Exec.ite_apply, ListenerM.pending_apply, ListenerM.state_apply,
      ListenerM.renewAccept_apply, ListenerM.assertThat_apply,
      ListenerM.sendAccept, stopped, if_true, fresh, ne_eq, not_true_eq_false,
      decide_false, Bool.or_false]
  · simp only [asyncListenerAccept, afterAccept, Exec.bind_apply,
      Exec.ite_apply, ListenerM.pending_apply, ListenerM.state_apply,
      ListenerM.renewAccept_apply, ListenerM.assertThat_apply,
      ListenerM.setPending_apply, ListenerM.release_apply, stopped, if_false,
      ne_eq, not_false_eq_true, decide_true, Bool.or_true]

theorem asyncStop_eq :
    asyncStop ctx = .ok (decide (ctx.state ≠ .stopped)) ctx.afterStop := by
  have fresh := ctx.stop.renew.send_of_live .success ctx.stop.live_renew
  by_cases stopped : ctx.state = .stopped
  · simp only [asyncStop, afterStop, Exec.bind_apply, Exec.ite_apply,
      Exec.pure_apply, ListenerM.pending_apply, ListenerM.state_apply,
      ListenerM.renewStop_apply, ListenerM.assertThat_apply,
      ListenerM.sendStop, stopped, if_true, fresh, ne_eq, not_true_eq_false,
      decide_false, Bool.or_false]
  · simp only [asyncStop, afterStop, Exec.bind_apply, Exec.ite_apply,
      Exec.pure_apply, ListenerM.pending_apply, ListenerM.state_apply,
      ListenerM.renewStop_apply, ListenerM.assertThat_apply,
      ListenerM.setPending_apply, stopped, if_false, ne_eq, not_false_eq_true,
      decide_true, Bool.or_true]

end AsioServerListenerCtx

end MsquicAsio
