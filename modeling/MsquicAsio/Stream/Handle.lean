/-
The front end of a stream: the locked parts of `async_receive` and
`async_shutdown`, and the completion lambda of `async_receive` with its copy
loop.  `async_start` and `async_send` take no lock; they are the unlocked
operation with the fields each of them uses.
-/
import MsquicAsio.Stream.Callback

set_option autoImplicit false

namespace MsquicAsio

variable {O : Oneshot}

/-! ### Locked parts -/

/-- The error with which a stream that is no longer `ok` answers a reader. -/
def endOfReceive : StreamState → ErrorCode
  | .ok => .success
  | .peerShutdown => .success
  | .peerAbort => .basic .connectionAborted
  | .shutdownComplete => .basic .brokenPipe

open StreamM in
def asyncReceive : StreamM O Unit := do
  assertThat .asyncReceiveFrontendUnset (!(← pending).receiveFrontend)
  if (← pending).receiveBackend = true then
    -- the backend made the channel and has sent into it already
    setPending fun p => { p with receiveBackend := false }
  else
    renewReceive
    if (← state) ≠ .ok then
      sendReceive (endOfReceive (← state), [])
    else
      setPending fun p => { p with receiveFrontend := true }

/-- `status` is what `StreamShutdown` returns where it is called. -/
def asyncShutdown (status : QuicStatus) : StreamM O Unit := do
  StreamM.renewShutdown
  if (← StreamM.state) = .shutdownComplete then
    StreamM.sendShutdown .success
  else if status.quicFailed = true then
    StreamM.sendShutdown (.ofStatus status)
  else
    StreamM.setPending fun p => { p with shutdown := true }

namespace AsioServerStreamCtx

variable (ctx : AsioServerStreamCtx O)

def afterFirstReader : AsioServerStreamCtx O :=
  if ctx.state = .ok then
    { ctx with
      pending := { ctx.pending with receiveFrontend := true }
      receive := ctx.receive.renew }
  else
    { ctx with receive := ctx.receive.renew.afterSend (endOfReceive ctx.state, []) }

/-- `async_receive` never throws: it takes over the backend's channel, or it
makes a new one and at most answers itself on it. -/
theorem asyncReceive_eq :
    asyncReceive ctx =
      .ok () { (if ctx.pending.receiveBackend = true then
          { ctx with pending := { ctx.pending with receiveBackend := false } }
        else ctx.afterFirstReader) with
        failed := ctx.failed ++
          violated .asyncReceiveFrontendUnset (!ctx.pending.receiveFrontend) } := by
  have fresh : ∀ message, ctx.receive.renew.send message =
      some (ctx.receive.renew.afterSend message) :=
    fun message => ctx.receive.renew.send_of_live message ctx.receive.live_renew
  by_cases raised : ctx.pending.receiveBackend = true
  · simp only [asyncReceive, Exec.bind_apply, Exec.ite_apply,
      StreamM.pending_apply, StreamM.assertThat_apply,
      StreamM.setPending_apply, raised, if_true]
  · by_cases open_ : ctx.state = .ok
    · simp only [asyncReceive, Exec.bind_apply, Exec.ite_apply,
        StreamM.pending_apply, StreamM.state_apply, StreamM.assertThat_apply,
        StreamM.setPending_apply, StreamM.renewReceive_apply, raised, open_,
        ne_eq, not_true_eq_false, if_false, if_true, afterFirstReader,
        Bool.false_eq_true]
    · simp only [asyncReceive, Exec.bind_apply, Exec.ite_apply,
        StreamM.pending_apply, StreamM.state_apply, StreamM.assertThat_apply,
        StreamM.sendReceive, StreamM.renewReceive_apply, raised, open_, fresh,
        ne_eq, not_false_eq_true, if_false, if_true, afterFirstReader,
        Bool.false_eq_true]

theorem asyncShutdown_eq (status : QuicStatus) :
    asyncShutdown status ctx =
      .ok () (if ctx.state = .shutdownComplete then
          { ctx with shutdown := ctx.shutdown.renew.afterSend .success }
        else if status.quicFailed = true then
          { ctx with shutdown := ctx.shutdown.renew.afterSend (.ofStatus status) }
        else
          { ctx with
            pending := { ctx.pending with shutdown := true }
            shutdown := ctx.shutdown.renew }) := by
  have fresh : ∀ ec, ctx.shutdown.renew.send ec =
      some (ctx.shutdown.renew.afterSend ec) :=
    fun ec => ctx.shutdown.renew.send_of_live ec ctx.shutdown.live_renew
  by_cases complete : ctx.state = .shutdownComplete
  · simp only [asyncShutdown, Exec.bind_apply, Exec.ite_apply,
      StreamM.state_apply, StreamM.renewShutdown_apply, StreamM.sendShutdown,
      complete, if_true, fresh]
  · by_cases failure : status.quicFailed = true
    · simp only [asyncShutdown, Exec.bind_apply, Exec.ite_apply,
        StreamM.state_apply, StreamM.renewShutdown_apply, StreamM.sendShutdown,
        complete, failure, if_false, if_true, fresh]
    · simp only [asyncShutdown, Exec.bind_apply, Exec.ite_apply,
        StreamM.state_apply, StreamM.renewShutdown_apply,
        StreamM.setPending_apply, complete, failure, if_false,
        Bool.false_eq_true]

end AsioServerStreamCtx

/-! ### The copy loop of the completion lambda -/

structure MemcpyCall where
  destsz : Nat
  count : Nat
  deriving DecidableEq

/-- `memcpy_s` returns 0 when the count fits into the destination. -/
def MemcpyCall.succeeds (call : MemcpyCall) : Bool :=
  decide (call.count ≤ call.destsz)

structure CopyState where
  lpBuffer : List UInt8
  remaining : Nat
  copied : Nat
  calls : List MemcpyCall
  deriving DecidableEq

/-- One round of the loop.  The destination of every round is `lpBuffer`
itself: the pointer is not advanced. -/
def copyBuffer (round : CopyState) (buff : Buffer) : CopyState :=
  let toCopy := min round.remaining buff.length
  if toCopy = 0 then round
  else
    { lpBuffer := buff.take toCopy ++ round.lpBuffer.drop toCopy
      remaining := round.remaining - toCopy
      copied := round.copied + toCopy
      calls := round.calls ++ [⟨round.remaining, toCopy⟩] }

def copyBuffers (lpBuffer : List UInt8) (bufferLen : Nat)
    (buffs : List Buffer) : CopyState :=
  buffs.foldl copyBuffer ⟨lpBuffer, bufferLen, 0, []⟩

private theorem copyBuffer_copied (round : CopyState) (buff : Buffer) :
    (copyBuffer round buff).copied =
      round.copied + min round.remaining buff.length := by
  by_cases nothing : min round.remaining buff.length = 0
  · simp only [copyBuffer, nothing, if_true, Nat.add_zero]
  · simp only [copyBuffer, nothing, if_false]

private theorem copyBuffer_remaining (round : CopyState) (buff : Buffer) :
    (copyBuffer round buff).remaining =
      round.remaining - min round.remaining buff.length := by
  by_cases nothing : min round.remaining buff.length = 0
  · simp only [copyBuffer, nothing, if_true, Nat.sub_zero]
  · simp only [copyBuffer, nothing, if_false]

private theorem copied_foldl (round : CopyState) (buffs : List Buffer) :
    (buffs.foldl copyBuffer round).copied =
      round.copied + min round.remaining (totalLength buffs) := by
  induction buffs generalizing round with
  | nil =>
      simp only [List.foldl_nil, totalLength, List.flatten_nil,
        List.length_nil, Nat.min_zero, Nat.add_zero]
  | cons buff rest ih =>
      have sum : totalLength (buff :: rest) = buff.length + totalLength rest := by
        simp only [totalLength, List.flatten_cons, List.length_append]
      rw [List.foldl_cons, ih, sum, copyBuffer_copied, copyBuffer_remaining]
      omega

theorem copyBuffers_copied (lpBuffer : List UInt8) (bufferLen : Nat)
    (buffs : List Buffer) :
    (copyBuffers lpBuffer bufferLen buffs).copied =
      min bufferLen (totalLength buffs) := by
  rw [copyBuffers, copied_foldl, Nat.zero_add]

end MsquicAsio
