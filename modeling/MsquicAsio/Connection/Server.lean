/-
A server connection: CONNECTED and the first `async_connect`.

CONNECTED comes without any action of the front end, so it may come before
`async_connect`.  The receive path of a stream has a flag for data that arrived
first; here there is none.  A CONNECTED that finds no `async_connect` waiting
fails its assertion and is forgotten.
-/
import MsquicAsio.Connection.History

set_option autoImplicit false

namespace MsquicAsio

variable {O : Oneshot}

/-! ### What an event does to `async_connect` -/

/-- What the two modes of a connection share: flags, channel, state and failed
assertions of `async_start` and `async_connect`. -/
structure ConnectPart (O : Oneshot) where
  clientStart : Bool
  serverConnect : Bool
  conn : Port O ErrorCode
  state : ConnectionState
  failed : List ConnectionAssert

def AsioServerConnectionCtx.connectPart (ctx : AsioServerConnectionCtx O) :
    ConnectPart O where
  clientStart := ctx.pending.clientStart
  serverConnect := ctx.pending.serverConnect
  conn := ctx.conn
  state := ctx.state
  failed := ctx.failed

namespace AsioServerConnectionCtx

variable (ctx : AsioServerConnectionCtx O)

/-- The shutdown events answer `async_connect` before anything that could
throw. -/
private theorem cancelPending_connect (entered : ConnectionState)
    (place : ConnectionAssert)
    (live : ctx.pending.serverConnect = true → ctx.conn.Live) :
    ∃ final, (cancelPending entered place ctx = .ok () final ∨
        cancelPending entered place ctx = .error .thrown final) ∧
      final.connectPart = (ctx.afterCancel entered place).connectPart := by
  have sendConn : ctx.pending.serverConnect = true →
      ctx.conn.send connectionAborted =
        some (ctx.conn.afterSend connectionAborted) :=
    fun raised => ctx.conn.send_of_live _ (live raised)
  obtain ⟨state, ⟨clientStart, serverConnect, accept, shutdown⟩, conn,
    acceptBs, acceptPort, shutdownPort, failed⟩ := ctx
  cases serverConnect with
  | false =>
      cases accept <;>
        cases sent : acceptPort.send (connectionAborted, .dummy) <;>
        simp only [cancelPending, Exec.bind_apply, Exec.pure_apply,
          Exec.ite_apply, ConnectionM.pending_apply,
          ConnectionM.setState_apply, ConnectionM.setPending_apply,
          ConnectionM.assertThat_apply, ConnectionM.sendAccept,
          Bool.false_eq_true, if_false, if_true, sent] <;>
        first
        | exact ⟨_, Or.inl rfl, rfl⟩
        | exact ⟨_, Or.inr rfl, rfl⟩
  | true =>
      have sentConn := sendConn rfl
      cases accept <;>
        cases sent : acceptPort.send (connectionAborted, .dummy) <;>
        simp only [cancelPending, Exec.bind_apply, Exec.pure_apply,
          Exec.ite_apply, ConnectionM.pending_apply,
          ConnectionM.setState_apply, ConnectionM.setPending_apply,
          ConnectionM.assertThat_apply, ConnectionM.sendConn, sentConn,
          ConnectionM.sendAccept, Bool.false_eq_true, if_false, if_true,
          sent] <;>
        first
        | exact ⟨_, Or.inl rfl, rfl⟩
        | exact ⟨_, Or.inr rfl, rfl⟩

private theorem callback_connect (event : ConnectionEvent)
    (server : ctx.pending.clientStart = false)
    (live : ctx.pending.serverConnect = true → ctx.conn.Live) :
    (Exec.finalState (asioMsQuicConnectionCallback event ctx)).connectPart =
      (ctx.after event).connectPart := by
  cases event with
  | connected =>
      have sendConn : ctx.pending.serverConnect = true →
          ctx.conn.send .success = some (ctx.conn.afterSend .success) :=
        fun raised => ctx.conn.send_of_live _ (live raised)
      cases raised : ctx.pending.serverConnect with
      | false =>
          simp only [asioMsQuicConnectionCallback, after, afterConnected,
            Exec.bind_apply, Exec.pure_apply, Exec.ite_apply,
            ConnectionM.pending_apply, ConnectionM.assertThat_apply, server,
            raised, Port.settle, violated, Exec.finalState,
            Bool.false_eq_true, if_false, if_true, Bool.or_false,
            Bool.and_false, Bool.not_false, List.append_nil, connectPart]
      | true =>
          simp only [asioMsQuicConnectionCallback, after, afterConnected,
            Exec.bind_apply, Exec.pure_apply, Exec.ite_apply,
            ConnectionM.pending_apply, ConnectionM.assertThat_apply,
            ConnectionM.setPending_apply, ConnectionM.sendConn, server,
            raised, sendConn raised, Port.settle, violated, Exec.finalState,
            Bool.false_eq_true, if_false, if_true, Bool.or_true,
            Bool.false_and, Bool.not_false, List.append_nil, connectPart]
  | shutdownInitiatedByTransport =>
      obtain ⟨final, ran | ran, same⟩ := ctx.cancelPending_connect
        .transportShutdown .transportClientStartUnset live <;>
        (simp only [asioMsQuicConnectionCallback, ran, Exec.finalState]
         exact same)
  | shutdownInitiatedByPeer =>
      obtain ⟨final, ran | ran, same⟩ := ctx.cancelPending_connect
        .peerShutdown .peerClientStartUnset live <;>
        (simp only [asioMsQuicConnectionCallback, ran, Exec.finalState]
         exact same)
  | shutdownComplete =>
      obtain ⟨final, ran | ran, same⟩ := ctx.cancelPending_connect
        .shutdownComplete .completeClientStartUnset live
      · simp only [asioMsQuicConnectionCallback, Exec.bind_apply,
          Exec.pure_apply, Exec.ite_apply, ran, ConnectionM.pending_apply,
          ConnectionM.setPending_apply, ConnectionM.sendShutdown]
        split
        · split <;> exact same
        · exact same
      · simp only [asioMsQuicConnectionCallback, Exec.bind_apply, ran]
        exact same
  | peerStreamStarted | resumed | resumptionTicketReceived | other => rfl

end AsioServerConnectionCtx

namespace ConnectionWorld

/-- `async_start` is not called, CONNECTED comes at most once and not after
SHUTDOWN_COMPLETE, and `async_connect` is called only while no other waits. -/
def connectOrder : Environment (ConnectionWorld O) ConnectionAction :=
  fun actions world action =>
    world.enabled action = true ∧ action.isStart = false ∧
      (action = .connect → world.ctx.pending.serverConnect = false) ∧
      (action = .event .connected → .event .connected ∉ actions ∧
        .event .shutdownComplete ∉ actions)

instance (actions : List ConnectionAction) (world : ConnectionWorld O)
    (action : ConnectionAction) :
    Decidable (connectOrder actions world action) :=
  inferInstanceAs (Decidable (_ ∧ _ ∧ (_ → _) ∧ (_ → _ ∧ _)))

/-- CONNECTED has failed no assertion, and when it and the first
`async_connect` were processed before any shutdown event, that `async_connect`
got success. -/
def ConnectNotified (actions : List ConnectionAction)
    (world : ConnectionWorld O) : Prop :=
  .connectedExpected ∉ world.ctx.failed ∧
    .connectedOneMode ∉ world.ctx.failed ∧
    (BothProcessed actions →
      world.ctx.conn.channels.outcomes 0 = [.success])

def ConnectFirst (actions : List ConnectionAction)
    (_ : ConnectionWorld O) (action : ConnectionAction) : Prop :=
  action = .event .connected → Awaited actions

private theorem connectPart_other (world : ConnectionWorld O)
    {action : ConnectionAction} (notEvent : action.isEvent = false)
    (notStart : action.isStart = false) (notConnect : action ≠ .connect) :
    ∃ more, (world.step action).ctx.connectPart =
        { world.ctx.connectPart with failed := world.ctx.failed ++ more } ∧
      .connectedExpected ∉ more ∧ .connectedOneMode ∉ more := by
  have unchanged : ∀ after : ConnectionWorld O,
      after.ctx.connectPart = world.ctx.connectPart →
      ∃ more, after.ctx.connectPart =
          { world.ctx.connectPart with failed := world.ctx.failed ++ more } ∧
        .connectedExpected ∉ more ∧ .connectedOneMode ∉ more := by
    intro after same
    refine ⟨[], ?_, List.not_mem_nil, List.not_mem_nil⟩
    rw [same, List.append_nil]
    rfl
  have other : ∀ (place : ConnectionAssert) (condition : Bool),
      place ≠ .connectedExpected → place ≠ .connectedOneMode →
      .connectedExpected ∉ violated place condition ∧
        .connectedOneMode ∉ violated place condition := by
    intro place condition notExpected notOneMode
    exact ⟨fun member => notExpected (mem_violated.mp member).2.symm,
      fun member => notOneMode (mem_violated.mp member).2.symm⟩
  cases action with
  | event event => cases notEvent
  | start statement => cases notStart
  | connect => exact absurd rfl notConnect
  | accept =>
      rw [step_accept]
      exact ⟨_, rfl, other _ _ (by simp) (by simp)⟩
  | shutdown =>
      rw [step_shutdown]
      exact unchanged _ rfl
  | streamStarted statement =>
      simp only [step, streamStarted]
      split
      case h_2 => exact ⟨_, rfl, other _ _ (by simp) (by simp)⟩
      case h_5 => split <;> exact unchanged _ rfl
      all_goals exact unchanged _ rfl
  | connectInitiate | connectHandler | acceptInitiate | acceptHandler
  | shutdownInitiate | shutdownHandler =>
      simp only [step]
      split <;> exact unchanged _ rfl

end ConnectionWorld

namespace ConnectPart

structure Awaiting (part : ConnectPart O) (actions : List ConnectionAction) :
    Prop where
  server : part.clientStart = false
  live : part.serverConnect = true → part.conn.Live
  complete : part.state = .shutdownComplete →
    .event .shutdownComplete ∈ actions
  flag : .event .shutdownComplete ∉ actions → .event .connected ∉ actions →
    (part.serverConnect = true ↔ Awaited actions)
  uncalled : .connect ∉ actions → part.conn.channels.next = 0
  first : .connect ∈ actions → shutDown actions = false →
    .event .connected ∉ actions →
      part.conn.tx = some 0 ∧ part.conn.channels.next = 1

namespace Awaiting

variable {part : ConnectPart O} {actions : List ConnectionAction}

private theorem quiet (awaiting : part.Awaiting actions)
    {action : ConnectionAction}
    (notConnect : action ≠ .connect) (notConnected : action ≠ .event .connected)
    (notShutdown : action.isShutdown = false)
    (failed : List ConnectionAssert) :
    Awaiting { part with failed := failed } (actions ++ [action]) := by
  have notComplete : action ≠ .event .shutdownComplete := by
    rintro rfl
    cases notShutdown
  have awaited : Awaited (actions ++ [action]) ↔ Awaited actions := by
    rw [awaited_append_iff]
    simp only [notConnect, notShutdown, false_or, and_true]
  have down : shutDown (actions ++ [action]) = shutDown actions := by
    rw [shutDown_append, notShutdown, Bool.or_false]
  exact
    { server := awaiting.server
      live := awaiting.live
      complete := by
        rw [mem_append_other notComplete]
        exact awaiting.complete
      flag := by
        rw [mem_append_other notComplete, mem_append_other notConnected, awaited]
        exact awaiting.flag
      uncalled := by
        rw [mem_append_other notConnect]
        exact awaiting.uncalled
      first := by
        rw [mem_append_other notConnect, mem_append_other notConnected, down]
        exact awaiting.first }

private theorem connected (awaiting : part.Awaiting actions)
    (failed : List ConnectionAssert) :
    Awaiting { part with
      serverConnect := false
      conn := part.conn.settle part.serverConnect .success
      failed := failed } (actions ++ [.event .connected]) where
  server := awaiting.server
  live := by intro impossible; cases impossible
  complete := by
    rw [mem_append_other (by simp)]
    exact awaiting.complete
  flag := by
    intro _ notConnected
    exact absurd (List.mem_append_right _ (List.mem_singleton_self _))
      notConnected
  uncalled := by
    rw [mem_append_other (by simp), Port.next_settle]
    exact awaiting.uncalled
  first := by
    intro _ _ notConnected
    exact absurd (List.mem_append_right _ (List.mem_singleton_self _))
      notConnected

private theorem cancelled (awaiting : part.Awaiting actions)
    (event : ConnectionEvent)
    (shuts : event.isShutdown = true) (entered : ConnectionState)
    (sameState : entered = .shutdownComplete → event = .shutdownComplete)
    (failed : List ConnectionAssert) :
    Awaiting { part with
      serverConnect := false
      conn := part.conn.settle part.serverConnect connectionAborted
      state := entered
      failed := failed } (actions ++ [.event event]) where
  server := awaiting.server
  live := by intro impossible; cases impossible
  complete := by
    intro complete
    rw [sameState complete]
    exact List.mem_append_right _ (List.mem_singleton_self _)
  flag := by
    intro _ _
    rw [awaited_append_iff]
    simp only [ConnectionAction.isShutdown, shuts, reduceCtorEq,
      Bool.true_eq_false, and_false, or_false, Bool.false_eq_true]
  uncalled := by
    rw [mem_append_other (by simp), Port.next_settle]
    exact awaiting.uncalled
  first := by
    intro _ quiet
    rw [shutDown_append] at quiet
    simp only [ConnectionAction.isShutdown, shuts, Bool.or_true,
      Bool.true_eq_false] at quiet

private theorem called (awaiting : part.Awaiting actions)
    (lowered : part.serverConnect = false) (failed : List ConnectionAssert) :
    Awaiting { part with
      serverConnect := decide (part.state ≠ .shutdownComplete)
      conn :=
        if part.state = .shutdownComplete then
          part.conn.renew.afterSend connectionAborted
        else part.conn.renew
      failed := failed } (actions ++ [.connect]) where
  server := awaiting.server
  live := by
    intro raised
    rw [if_neg (of_decide_eq_true raised)]
    exact part.conn.live_renew
  complete := by
    rw [mem_append_other (by simp)]
    exact awaiting.complete
  flag := by
    intro notComplete notConnected
    rw [mem_append_other (by simp)] at notComplete
    rw [awaited_append_iff]
    have running : part.state ≠ .shutdownComplete :=
      fun state => notComplete (awaiting.complete state)
    simp only [running, ne_eq, not_false_eq_true, decide_true, true_or]
  uncalled := by
    intro notConnect
    exact absurd (List.mem_append_right _ (List.mem_singleton_self _))
      notConnect
  first := by
    intro _ quiet notConnected
    have notShutdown : ConnectionAction.connect.isShutdown = false := rfl
    rw [shutDown_append, notShutdown, Bool.or_false] at quiet
    rw [mem_append_other (by simp)] at notConnected
    have notComplete := not_complete_of_up quiet
    have running : part.state ≠ .shutdownComplete :=
      fun state => notComplete (awaiting.complete state)
    have notCalled : .connect ∉ actions := by
      intro called
      have raised := (awaiting.flag notComplete notConnected).mpr
        (awaited_of_quiet called quiet)
      rw [lowered] at raised
      cases raised
    rw [if_neg running, Port.tx_renew, Port.next_renew,
      awaiting.uncalled notCalled]
    exact ⟨rfl, rfl⟩

end Awaiting

end ConnectPart

namespace ConnectionWorld

variable {actions : List ConnectionAction} {world : ConnectionWorld O}

private theorem awaiting_event
    (awaiting : world.ctx.connectPart.Awaiting actions)
    (event : ConnectionEvent) :
    (world.deliver event).ctx.connectPart.Awaiting
      (actions ++ [.event event]) := by
  have server : world.ctx.pending.clientStart = false := awaiting.server
  have after := world.ctx.callback_connect event server awaiting.live
  have ran : (world.deliver event).ctx =
      Exec.finalState (asioMsQuicConnectionCallback event world.ctx) := rfl
  rw [ran, after]
  cases event with
  | connected =>
      have kept := awaiting.connected
        (world.ctx.failed ++ violated .connectedExpected
          world.ctx.pending.serverConnect)
      simp only [AsioServerConnectionCtx.connectPart,
        AsioServerConnectionCtx.after, AsioServerConnectionCtx.afterConnected,
        server, Bool.false_or] at kept ⊢
      exact kept
  | shutdownInitiatedByTransport =>
      exact awaiting.cancelled .shutdownInitiatedByTransport rfl
        .transportShutdown (by simp) _
  | shutdownInitiatedByPeer =>
      exact awaiting.cancelled .shutdownInitiatedByPeer rfl
        .peerShutdown (by simp) _
  | shutdownComplete =>
      exact awaiting.cancelled .shutdownComplete rfl
        .shutdownComplete (fun _ => rfl) _
  | peerStreamStarted | resumed | resumptionTicketReceived | other =>
      exact awaiting.quiet (by simp) (by simp) rfl _

private theorem awaiting_step
    (awaiting : world.ctx.connectPart.Awaiting actions)
    {action : ConnectionAction} (allowed : connectOrder actions world action) :
    (world.step action).ctx.connectPart.Awaiting (actions ++ [action]) := by
  obtain ⟨_, notStart, lowered, _⟩ := allowed
  cases kind : action.isEvent with
  | true =>
      cases action with
      | event event => exact awaiting_event awaiting event
      | streamStarted | start | connect | accept | shutdown | connectInitiate
      | connectHandler | acceptInitiate | acceptHandler | shutdownInitiate
      | shutdownHandler => cases kind
  | false =>
      by_cases call : action = .connect
      · subst call
        have low := lowered rfl
        have kept := awaiting.called low
          (world.ctx.failed ++ violated .asyncConnectUnset
            (!world.ctx.pending.serverConnect))
        simp only [step_connect, AsioServerConnectionCtx.connectPart,
          AsioServerConnectionCtx.afterConnect, low, Bool.false_or] at kept ⊢
        exact kept
      · obtain ⟨more, same, _⟩ :=
          world.connectPart_other kind notStart call
        rw [same]
        apply awaiting.quiet call
        · rintro rfl
          cases kind
        · cases action <;> first | rfl | cases kind

private theorem awaiting_of_run
    (run : (connectionMachine O).Run connectOrder actions world) :
    world.ctx.connectPart.Awaiting actions := by
  apply run.invariant (fun actions world =>
    world.ctx.connectPart.Awaiting actions)
  · exact
      { server := rfl
        live := by intro impossible; cases impossible
        complete := by intro impossible; cases impossible
        flag := by
          intro _ _
          constructor
          · intro impossible
            cases impossible
          · intro awaited
            cases awaited.called
        uncalled := fun _ => rfl
        first := by intro impossible; cases impossible }
  · intro actions world action _ awaiting allowed
    exact awaiting_step awaiting allowed

private theorem outcome_kept (awaiting : world.ctx.connectPart.Awaiting actions)
    {action : ConnectionAction} (notStart : action.isStart = false) {id : Nat}
    {ec : ErrorCode} (held : world.ctx.conn.value? id = some ec) :
    (world.step action).ctx.conn.value? id = some ec := by
  cases kind : action.isEvent with
  | true =>
      cases action with
      | event event =>
          have after : (world.deliver event).ctx.conn =
              (world.ctx.after event).conn :=
            congrArg ConnectPart.conn
              (world.ctx.callback_connect event awaiting.server awaiting.live)
          change (world.deliver event).ctx.conn.value? id = some ec
          rw [after]
          cases event with
          | connected | shutdownInitiatedByTransport | shutdownInitiatedByPeer
          | shutdownComplete =>
              exact Port.value?_settle_of_held _ _ _ held
          | peerStreamStarted | resumed | resumptionTicketReceived | other =>
              exact held
      | streamStarted | start | connect | accept | shutdown | connectInitiate
      | connectHandler | acceptInitiate | acceptHandler | shutdownInitiate
      | shutdownHandler => cases kind
  | false =>
      by_cases call : action = .connect
      · subst call
        simp only [step_connect, AsioServerConnectionCtx.afterConnect]
        have renewed := (world.ctx.conn.value?_renew id).trans held
        split
        · exact Port.value?_afterSend_of_held _ _ renewed
        · exact renewed
      · obtain ⟨more, same, _⟩ := world.connectPart_other kind notStart call
        have sameConn : (world.step action).ctx.conn = world.ctx.conn :=
          congrArg ConnectPart.conn same
        rw [sameConn]
        exact held

private theorem failed_other (awaiting : world.ctx.connectPart.Awaiting actions)
    {action : ConnectionAction} (notStart : action.isStart = false)
    (other : action ≠ .event .connected) :
    ∃ more, (world.step action).ctx.failed = world.ctx.failed ++ more ∧
      .connectedExpected ∉ more ∧ .connectedOneMode ∉ more := by
  have quiet : ∀ (place : ConnectionAssert) (condition : Bool)
      (name : ConnectionAssert), name ≠ place →
        name ∉ violated place condition := by
    intro place condition name different member
    exact different (mem_violated.mp member).2
  cases kind : action.isEvent with
  | true =>
      cases action with
      | event event =>
          have after : (world.step (.event event)).ctx.failed =
              (world.ctx.after event).failed :=
            congrArg ConnectPart.failed
              (world.ctx.callback_connect event awaiting.server awaiting.live)
          cases event with
          | connected => exact absurd rfl other
          | shutdownInitiatedByTransport | shutdownInitiatedByPeer
          | shutdownComplete =>
              exact ⟨_, after, quiet _ _ _ (by simp), quiet _ _ _ (by simp)⟩
          | resumed =>
              exact ⟨[.resumedUnsupported], after, by simp, by simp⟩
          | peerStreamStarted | resumptionTicketReceived | other =>
              exact ⟨[], after.trans (List.append_nil _).symm,
                List.not_mem_nil, List.not_mem_nil⟩
      | streamStarted | start | connect | accept | shutdown | connectInitiate
      | connectHandler | acceptInitiate | acceptHandler | shutdownInitiate
      | shutdownHandler => cases kind
  | false =>
      by_cases call : action = .connect
      · subst call
        refine ⟨violated .asyncConnectUnset (!world.ctx.pending.serverConnect),
          ?_, quiet _ _ _ (by simp), quiet _ _ _ (by simp)⟩
        rw [step_connect]
        rfl
      · obtain ⟨more, same, notExpected, notOneMode⟩ :=
          world.connectPart_other kind notStart call
        exact ⟨more, congrArg ConnectPart.failed same, notExpected, notOneMode⟩

private theorem failed_connected
    (awaiting : world.ctx.connectPart.Awaiting actions)
    (notConnected : .event .connected ∉ actions)
    (notComplete : .event .shutdownComplete ∉ actions)
    (expected : .connectedExpected ∉ world.ctx.failed)
    (oneMode : .connectedOneMode ∉ world.ctx.failed) :
    .connectedOneMode ∉ (world.step (.event .connected)).ctx.failed ∧
      (.connectedExpected ∉ (world.step (.event .connected)).ctx.failed ↔
        Awaited actions) := by
  have after : (world.step (.event .connected)).ctx.failed =
      (world.ctx.after .connected).failed :=
    congrArg ConnectPart.failed
      (world.ctx.callback_connect .connected awaiting.server awaiting.live)
  have server : world.ctx.pending.clientStart = false := awaiting.server
  have flag : world.ctx.pending.serverConnect = true ↔ Awaited actions :=
    awaiting.flag notComplete notConnected
  rw [after, ← flag]
  simp only [AsioServerConnectionCtx.after,
    AsioServerConnectionCtx.afterConnected, server, Bool.false_or,
    List.mem_append, mem_violated, not_or]
  refine ⟨⟨oneMode, by simp⟩, ?_⟩
  constructor
  · rintro ⟨_, raised⟩
    simpa only [and_true, Bool.not_eq_false] using raised
  · intro raised
    refine ⟨expected, ?_⟩
    rw [raised]
    simp

/-- CONNECTED fails an assertion exactly when no `async_connect` waits. -/
private theorem expected_step
    (awaiting : world.ctx.connectPart.Awaiting actions)
    {action : ConnectionAction} (allowed : connectOrder actions world action)
    (expected : .connectedExpected ∉ world.ctx.failed)
    (oneMode : .connectedOneMode ∉ world.ctx.failed) :
    .connectedOneMode ∉ (world.step action).ctx.failed ∧
      (.connectedExpected ∉ (world.step action).ctx.failed ↔
        ConnectFirst actions world action) := by
  obtain ⟨_, notStart, _, once⟩ := allowed
  by_cases connected : action = .event .connected
  · subst connected
    obtain ⟨notConnected, notComplete⟩ := once rfl
    obtain ⟨single, waits⟩ :=
      failed_connected awaiting notConnected notComplete expected oneMode
    refine ⟨single, waits.trans ?_⟩
    exact ⟨fun awaited _ => awaited, fun first => first rfl⟩
  · obtain ⟨more, same, notExpected, notOneMode⟩ :=
      failed_other awaiting notStart connected
    rw [same, List.mem_append, List.mem_append]
    refine ⟨not_or.mpr ⟨oneMode, notOneMode⟩, ?_⟩
    exact ⟨fun _ event => absurd event connected,
      fun _ => not_or.mpr ⟨expected, notExpected⟩⟩

/-- A CONNECTED that an `async_connect` waits for, with no shutdown event
before it, answers the first `async_connect`. -/
private theorem connected_answers
    (awaiting : world.ctx.connectPart.Awaiting actions)
    (called : .connect ∈ actions) (up : shutDown actions = false)
    (notConnected : .event .connected ∉ actions) :
    (world.step (.event .connected)).ctx.conn.value? 0 = some .success := by
  have notComplete := not_complete_of_up up
  have raised : world.ctx.pending.serverConnect = true :=
    (awaiting.flag notComplete notConnected).mpr (awaited_of_quiet called up)
  obtain ⟨txAt, _⟩ := awaiting.first called up notConnected
  change world.ctx.conn.tx = some 0 at txAt
  obtain ⟨id, sameTx, live⟩ := awaiting.live raised
  change world.ctx.conn.tx = some id at sameTx
  rw [txAt] at sameTx
  obtain rfl := Option.some.inj sameTx
  have after : (world.step (.event .connected)).ctx.conn =
      (world.ctx.after .connected).conn :=
    congrArg ConnectPart.conn
      (world.ctx.callback_connect .connected awaiting.server awaiting.live)
  rw [after]
  simp only [AsioServerConnectionCtx.after,
    AsioServerConnectionCtx.afterConnected, raised, Bool.or_true, Port.settle,
    if_true, (world.ctx.conn.afterSend_of_live .success txAt live).2.2.2.2 0]

/-- The first `async_connect` and CONNECTED meet in every state of a run
exactly when every CONNECTED of the run comes after an `async_connect`, with no
shutdown event between. -/
theorem connect_notified_iff
    (run : (connectionMachine O).Run connectOrder actions world) :
    (connectionMachine O).Throughout ConnectNotified actions ↔
      (connectionMachine O).EachStep ConnectFirst actions := by
  apply run.throughout_iff
  · refine ⟨List.not_mem_nil, List.not_mem_nil, ?_⟩
    rintro ⟨early, isPrefix, called, _⟩
    obtain rfl := List.prefix_nil.mp isPrefix
    cases called
  intro actions world action before steps allowed ⟨expected, oneMode, notified⟩
  have awaiting := awaiting_of_run before
  obtain ⟨oneModeKept, expected_iff⟩ :=
    expected_step awaiting allowed expected oneMode
  constructor
  · intro holds
    exact expected_iff.mp holds.1
  · intro first
    refine ⟨expected_iff.mpr first, oneModeKept, ?_⟩
    rintro ⟨early, isPrefix, called, connected, up⟩
    have held : (world.step action).ctx.conn.value? 0 = some .success := by
      rcases List.prefix_concat_iff.mp isPrefix with rfl | inside
      · rw [shutDown_append, Bool.or_eq_false_iff] at up
        rcases List.mem_append.mp connected with earlier | now
        · -- the `async_connect` came before the CONNECTED it answers
          have calledBefore : .connect ∈ actions := by
            obtain ⟨soon, rest, rfl⟩ := List.append_of_mem earlier
            have awaited := steps soon (.event .connected) ⟨rest, by simp⟩ rfl
            exact List.mem_append_left _ awaited.called
          have answered := notified
            ⟨actions, List.prefix_rfl, calledBefore, earlier, up.1⟩
          apply outcome_kept awaiting allowed.2.1
          rw [Channels.outcomes_eq, Option.toList_eq_singleton_iff] at answered
          exact answered
        · obtain rfl := List.mem_singleton.mp now
          have calledBefore : .connect ∈ actions := (first rfl).called
          exact connected_answers awaiting calledBefore up.1
            (allowed.2.2.2 rfl).1
      · have answered := notified ⟨early, inside, called, connected, up⟩
        apply outcome_kept awaiting allowed.2.1
        rw [Channels.outcomes_eq, Option.toList_eq_singleton_iff] at answered
        exact answered
    rw [Channels.outcomes_eq]
    change Option.toList ((world.step action).ctx.conn.value? 0) = _
    rw [held, Option.toList_some]

/-- The peer's handshake completes before the front end calls
`async_connect`. -/
def connectedEarly : List ConnectionAction :=
  [.event .connected, .connect, .connectInitiate]

theorem connectedEarly_not_notified :
    (connectionMachine .reference).Run connectOrder connectedEarly
        ((connectionMachine .reference).exec connectedEarly) ∧
      ¬ConnectNotified connectedEarly
        ((connectionMachine .reference).exec connectedEarly) ∧
      BothProcessed connectedEarly ∧
      ((connectionMachine .reference).exec
        connectedEarly).ctx.conn.channels.outcomes 0 = [] := by
  refine ⟨Machine.run_of_checks connectedEarly (by decide), ?_, ?_, by decide⟩
  · intro notified
    exact notified.1 (by decide)
  · exact ⟨connectedEarly, List.prefix_rfl, by decide, by decide, by decide⟩

def connectEarly : List ConnectionAction :=
  [.connect, .connectInitiate, .event .connected, .connectHandler .success]

theorem connect_notified_iff_connectEarly :
    (connectionMachine .reference).Throughout ConnectNotified connectEarly ↔
      (connectionMachine .reference).EachStep ConnectFirst connectEarly :=
  connect_notified_iff (Machine.run_of_checks connectEarly (by decide))

end ConnectionWorld

end MsquicAsio
