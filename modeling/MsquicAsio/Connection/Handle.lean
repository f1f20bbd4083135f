/-
The front end of a connection: the locked parts of `async_connect`,
`async_accept` and `async_shutdown`.  `async_start` takes no lock; it is the
unlocked operation on the `conn` channel.
-/
import MsquicAsio.Connection.Callback

set_option autoImplicit false

namespace MsquicAsio

variable {O : Oneshot}

open ConnectionM in
def asyncConnect : ConnectionM O Unit := do
  renewConn
  assertThat .asyncConnectUnset (!(← pending).serverConnect)
  if (← state) = .shutdownComplete then
    sendConn connectionAborted
  else
    setPending fun p => { p with serverConnect := true }

open ConnectionM in
def asyncAccept : ConnectionM O Unit := do
  assertThat .asyncAcceptUnset (!(← pending).accept)
  renewAccept
  if (← state) = .shutdownComplete then
    sendAccept (connectionAborted, .dummy)
  else
    setPending fun p => { p with accept := true }
    release

open ConnectionM in
/-- `ConnectionShutdown` returns nothing. -/
def asyncConnectionShutdown : ConnectionM O Unit := do
  renewShutdown
  if (← state) = .shutdownComplete then
    sendShutdown .success
  else
    setPending fun p => { p with shutdown := true }

namespace AsioServerConnectionCtx

variable (ctx : AsioServerConnectionCtx O)

def afterConnect : AsioServerConnectionCtx O :=
  { ctx with
    pending := { ctx.pending with
      serverConnect :=
        ctx.pending.serverConnect || decide (ctx.state ≠ .shutdownComplete) }
    conn :=
      if ctx.state = .shutdownComplete then
        ctx.conn.renew.afterSend connectionAborted
      else ctx.conn.renew
    failed := ctx.failed ++
      violated .asyncConnectUnset (!ctx.pending.serverConnect) }

def afterAccept : AsioServerConnectionCtx O :=
  { ctx with
    pending := { ctx.pending with
      accept := ctx.pending.accept || decide (ctx.state ≠ .shutdownComplete) }
    acceptBs :=
      if ctx.state = .shutdownComplete then ctx.acceptBs else ctx.acceptBs + 1
    accept :=
      if ctx.state = .shutdownComplete then
        ctx.accept.renew.afterSend (connectionAborted, .dummy)
      else ctx.accept.renew
    failed := ctx.failed ++ violated .asyncAcceptUnset (!ctx.pending.accept) }

def afterShutdown : AsioServerConnectionCtx O :=
  { ctx with
    pending := { ctx.pending with
      shutdown :=
        ctx.pending.shutdown || decide (ctx.state ≠ .shutdownComplete) }
    shutdown :=
      if ctx.state = .shutdownComplete then
        ctx.shutdown.renew.afterSend .success
      else ctx.shutdown.renew }

theorem asyncConnect_eq : asyncConnect ctx = .ok () ctx.afterConnect := by
  have fresh := ctx.conn.renew.send_of_live connectionAborted ctx.conn.live_renew
  by_cases complete : ctx.state = .shutdownComplete
  · simp only [asyncConnect, afterConnect, Exec.bind_apply, Exec.ite_apply,
      ConnectionM.pending_apply, ConnectionM.state_apply,
      ConnectionM.renewConn_apply, ConnectionM.assertThat_apply,
      ConnectionM.sendConn, complete, if_true, fresh, ne_eq, not_true_eq_false,
      decide_false, Bool.or_false]
  · simp only [asyncConnect, afterConnect, Exec.bind_apply, Exec.ite_apply,
      ConnectionM.pending_apply, ConnectionM.state_apply,
      ConnectionM.renewConn_apply, ConnectionM.assertThat_apply,
      ConnectionM.setPending_apply, complete, if_false, ne_eq,
      not_false_eq_true, decide_true, Bool.or_true]

theorem asyncAccept_eq : asyncAccept ctx = .ok () ctx.afterAccept := by
  have fresh := ctx.accept.renew.send_of_live (connectionAborted, .dummy)
    ctx.accept.live_renew
  by_cases complete : ctx.state = .shutdownComplete
  · simp only [asyncAccept, afterAccept, Exec.bind_apply, Exec.ite_apply,
      ConnectionM.pending_apply, ConnectionM.state_apply,
      ConnectionM.renewAccept_apply, ConnectionM.assertThat_apply,
      ConnectionM.sendAccept, complete, if_true, fresh, ne_eq,
      not_true_eq_false, decide_false, Bool.or_false]
  · simp only [asyncAccept, afterAccept, Exec.bind_apply, Exec.ite_apply,
      ConnectionM.pending_apply, ConnectionM.state_apply,
      ConnectionM.renewAccept_apply, ConnectionM.assertThat_apply,
      ConnectionM.setPending_apply, ConnectionM.release_apply, complete,
      if_false, ne_eq, not_false_eq_true, decide_true, Bool.or_true]

theorem asyncConnectionShutdown_eq :
    asyncConnectionShutdown ctx = .ok () ctx.afterShutdown := by
  have fresh := ctx.shutdown.renew.send_of_live .success ctx.shutdown.live_renew
  by_cases complete : ctx.state = .shutdownComplete
  · simp only [asyncConnectionShutdown, afterShutdown, Exec.bind_apply,
      Exec.ite_apply, ConnectionM.state_apply,
      ConnectionM.renewShutdown_apply, ConnectionM.sendShutdown, complete,
      if_true, fresh, ne_eq, not_true_eq_false, decide_false, Bool.or_false]
  · simp only [asyncConnectionShutdown, afterShutdown, Exec.bind_apply,
      Exec.ite_apply, ConnectionM.state_apply,
      ConnectionM.renewShutdown_apply, ConnectionM.setPending_apply, complete,
      if_false, ne_eq, not_false_eq_true, decide_true, Bool.or_true]

end AsioServerConnectionCtx

end MsquicAsio
