/-
The hand-off of accepted streams.

A connection moves its accepting part by the statements that keep `Accepting`,
and nothing is assumed about the other operations of the connection.  So the
streams reach the handlers of `async_accept` in the order in which the peer
started them.
-/
import MsquicAsio.Connection.AcceptPart

set_option autoImplicit false

namespace MsquicAsio

variable {O : Oneshot}

def AsioServerConnectionCtx.Answerable (ctx : AsioServerConnectionCtx O) :
    Prop :=
  ctx.pending.serverConnect = true → ctx.conn.Live

/-- A shutdown event cancels the accept, unless the answer to `async_connect`
throws before it comes there. -/
private theorem cancelPending_accept (ctx : AsioServerConnectionCtx O)
    (entered : ConnectionState) (place : ConnectionAssert)
    (live : ctx.pending.accept = true → ctx.accept.Live) :
    (ctx.Answerable ∧ ∃ after, cancelPending entered place ctx = .ok () after ∧
        after.acceptBs = ctx.acceptBs ∧ after.pending.accept = false ∧
        after.accept =
          ctx.accept.settle ctx.pending.accept (connectionAborted, .dummy)) ∨
      ¬ctx.Answerable ∧
        ∃ after, cancelPending entered place ctx = .error .thrown after ∧
          after.acceptBs = ctx.acceptBs ∧
          after.pending.accept = ctx.pending.accept ∧
          after.accept = ctx.accept := by
  have sendAccept : ctx.pending.accept = true → ∀ message,
      ctx.accept.send message = some (ctx.accept.afterSend message) :=
    fun raised message => ctx.accept.send_of_live message (live raised)
  obtain ⟨state, ⟨clientStart, serverConnect, accept, shutdown⟩, conn,
    acceptBs, acceptPort, shutdownPort, failed⟩ := ctx
  cases serverConnect with
  | false =>
      left
      refine ⟨(fun impossible => by cases impossible), ?_⟩
      cases accept <;>
        simp_all only [cancelPending, Exec.bind_apply, Exec.pure_apply,
          Exec.ite_apply, ConnectionM.pending_apply,
          ConnectionM.setState_apply, ConnectionM.setPending_apply,
          ConnectionM.assertThat_apply, ConnectionM.sendAccept, Port.settle,
          Bool.false_eq_true, if_false, if_true, forall_const,
          EStateM.Result.ok.injEq, true_and, exists_eq_left', and_self]
  | true =>
      cases sent : conn.send connectionAborted with
      | none =>
          right
          refine ⟨?_, ?_⟩
          · intro answerable
            rw [conn.send_of_live _ (answerable rfl)] at sent
            cases sent
          simp only [cancelPending, Exec.bind_apply, Exec.pure_apply,
            Exec.ite_apply, ConnectionM.pending_apply,
            ConnectionM.setState_apply, ConnectionM.setPending_apply,
            ConnectionM.assertThat_apply, ConnectionM.sendConn, sent, if_true,
            EStateM.Result.error.injEq, true_and, exists_eq_left', and_self]
      | some port =>
          left
          refine ⟨?_, ?_⟩
          · intro _
            by_contra dead
            rw [conn.send_of_not_live _ dead] at sent
            cases sent
          cases accept <;>
            simp_all only [cancelPending, Exec.bind_apply, Exec.pure_apply,
              Exec.ite_apply, ConnectionM.pending_apply,
              ConnectionM.setState_apply, ConnectionM.setPending_apply,
              ConnectionM.assertThat_apply, ConnectionM.sendConn,
              ConnectionM.sendAccept, Port.settle, Bool.false_eq_true,
              if_false, if_true, forall_const, EStateM.Result.ok.injEq,
              true_and, exists_eq_left', and_self]

private theorem callback_shutdown_accept (ctx : AsioServerConnectionCtx O)
    {event : ConnectionEvent} (shuts : event.isShutdown = true)
    (live : ctx.pending.accept = true → ctx.accept.Live) :
    ∃ final, Exec.finalState (asioMsQuicConnectionCallback event ctx) = final ∧
      final.acceptBs = ctx.acceptBs ∧
      (ctx.Answerable ∧ final.pending.accept = false ∧ final.accept =
          ctx.accept.settle ctx.pending.accept (connectionAborted, .dummy) ∨
        ¬ctx.Answerable ∧ final.pending.accept = ctx.pending.accept ∧
          final.accept = ctx.accept) := by
  cases event with
  | shutdownInitiatedByTransport =>
      rcases cancelPending_accept ctx .transportShutdown
        .transportClientStartUnset live with
          ⟨answers, after, same, permits, cancelled⟩ |
          ⟨stuck, after, same, permits, kept⟩
      · exact ⟨after, congrArg Exec.finalState same, permits, Or.inl ⟨answers, cancelled⟩⟩
      · exact ⟨after, congrArg Exec.finalState same, permits, Or.inr ⟨stuck, kept⟩⟩
  | shutdownInitiatedByPeer =>
      rcases cancelPending_accept ctx .peerShutdown .peerClientStartUnset
        live with
          ⟨answers, after, same, permits, cancelled⟩ |
          ⟨stuck, after, same, permits, kept⟩
      · exact ⟨after, congrArg Exec.finalState same, permits, Or.inl ⟨answers, cancelled⟩⟩
      · exact ⟨after, congrArg Exec.finalState same, permits, Or.inr ⟨stuck, kept⟩⟩
  | shutdownComplete =>
      rcases cancelPending_accept ctx .shutdownComplete
        .completeClientStartUnset live with
          ⟨answers, after, same, permits, cancelled⟩ |
          ⟨stuck, after, same, permits, kept⟩
      · simp only [asioMsQuicConnectionCallback, Exec.bind_apply,
          Exec.pure_apply, Exec.ite_apply, same, ConnectionM.pending_apply,
          ConnectionM.setPending_apply, ConnectionM.sendShutdown]
        split
        · split
          · exact ⟨_, rfl, permits, Or.inl ⟨answers, cancelled⟩⟩
          · exact ⟨_, rfl, permits, Or.inl ⟨answers, cancelled⟩⟩
        · exact ⟨after, rfl, permits, Or.inl ⟨answers, cancelled⟩⟩
      · simp only [asioMsQuicConnectionCallback, Exec.bind_apply, same]
        exact ⟨after, rfl, permits, Or.inr ⟨stuck, kept⟩⟩
  | connected | peerStreamStarted | resumed | resumptionTicketReceived
  | other => cases shuts

theorem callback_other_accept (ctx : AsioServerConnectionCtx O)
    {event : ConnectionEvent} (other : event.isShutdown = false) :
    ∃ final, Exec.finalState (asioMsQuicConnectionCallback event ctx) = final ∧
      final.acceptBs = ctx.acceptBs ∧
      final.pending.accept = ctx.pending.accept ∧
      final.accept = ctx.accept := by
  cases event with
  | connected =>
      simp only [asioMsQuicConnectionCallback, Exec.bind_apply,
        Exec.pure_apply, Exec.ite_apply, ConnectionM.pending_apply,
        ConnectionM.assertThat_apply, ConnectionM.setPending_apply,
        ConnectionM.sendConn]
      split
      · cases ctx.conn.send .success with
        | none => exact ⟨_, rfl, rfl, rfl, rfl⟩
        | some port =>
            simp only
            split
            · cases port.send .success <;> exact ⟨_, rfl, rfl, rfl, rfl⟩
            · exact ⟨_, rfl, rfl, rfl, rfl⟩
      · split
        · cases ctx.conn.send .success <;> exact ⟨_, rfl, rfl, rfl, rfl⟩
        · exact ⟨_, rfl, rfl, rfl, rfl⟩
  | peerStreamStarted | resumed | resumptionTicketReceived | other =>
      exact ⟨_, rfl, rfl, rfl, rfl⟩
  | shutdownInitiatedByTransport | shutdownInitiatedByPeer
  | shutdownComplete => cases other

namespace ConnectionWorld

/-- Callbacks of a connection are serialised, `async_accept` is called again
only after its handler was invoked, and no stream is started after a shutdown
event. -/
def acceptOrder : Environment (ConnectionWorld O) ConnectionAction :=
  fun actions world action =>
    world.enabled action = true ∧
      (action = .accept → world.accept = .idle) ∧
      (action.startedStream ≠ none → shutDown actions = false)

instance (actions : List ConnectionAction) (world : ConnectionWorld O)
    (action : ConnectionAction) :
    Decidable (acceptOrder actions world action) :=
  inferInstanceAs (Decidable (_ ∧ (_ → _) ∧ (_ → _)))

variable {world : ConnectionWorld O} {streams : List Hquic} {down : Bool}

theorem acceptPart_shutdown (world : ConnectionWorld O)
    {event : ConnectionEvent} (shuts : event.isShutdown = true)
    (live : world.ctx.pending.accept = true → world.ctx.accept.Live) :
    world.ctx.Answerable ∧ (world.deliver event).acceptPart =
        { world.acceptPart with
          pending := false
          port := world.acceptPart.port.settle world.acceptPart.pending
            (connectionAborted, .dummy) } ∨
      ¬world.ctx.Answerable ∧
        (world.deliver event).acceptPart = world.acceptPart := by
  obtain ⟨final, same, permits, ⟨answers, cancelled⟩ | ⟨stuck, kept⟩⟩ :=
    callback_shutdown_accept world.ctx shuts live
  · refine Or.inl ⟨answers, ?_⟩
    cases event <;>
      first
      | (cases shuts; done)
      | simp only [deliver, acceptPart, same, permits, cancelled]
  · refine Or.inr ⟨stuck, ?_⟩
    cases event <;>
      first
      | (cases shuts; done)
      | simp only [deliver, acceptPart, same, permits, kept]

theorem accept_live (accepting : world.acceptPart.Accepting streams down)
    (raised : world.ctx.pending.accept = true) : world.ctx.accept.Live := by
  apply accepting.sound.settles.live
  simp only [AcceptPart.slot, acceptPart, raised, Bool.true_or]

private theorem accepting_deliver
    (accepting : world.acceptPart.Accepting streams down)
    (event : ConnectionEvent) (returned : world.callback = .returned)
    (allowed : (ConnectionAction.event event).startedStream ≠ none →
      down = false) :
    (world.deliver event).acceptPart.Accepting
      (streams ++ (ConnectionAction.event event).startedStream.toList)
      (down || event.isShutdown) := by
  cases shuts : event.isShutdown with
  | true =>
      have noStream : (ConnectionAction.event event).startedStream = none := by
        cases event <;> first | rfl | cases shuts
      rw [noStream, Option.toList_none, List.append_nil, Bool.or_true]
      rcases world.acceptPart_shutdown shuts (accept_live accepting) with
        ⟨_, cancelled⟩ | ⟨_, kept⟩
      · rw [cancelled]
        exact accepting.cancelled returned
      · rw [kept]
        exact accepting.down_only returned
  | false =>
      obtain ⟨final, same, permits, pendingAt, portAt⟩ :=
        callback_other_accept world.ctx shuts
      rw [Bool.or_false]
      cases event with
      | peerStreamStarted stream =>
          have open_ := allowed (by simp [ConnectionAction.startedStream])
          subst open_
          have after := accepting.started returned stream
          simp only [deliver, acceptPart, same, permits, pendingAt, portAt] at after ⊢
          exact after
      | connected | resumed | resumptionTicketReceived | other =>
          simp only [deliver, acceptPart, same, permits, pendingAt, portAt,
            ConnectionAction.startedStream, Option.toList_none,
            List.append_nil]
          exact accepting
      | shutdownInitiatedByTransport | shutdownInitiatedByPeer
      | shutdownComplete => cases shuts

private theorem accepting_streamStarted
    (accepting : world.acceptPart.Accepting streams down)
    {step : StreamStartedStep}
    (enabled : world.streamStartedEnabled step = true) :
    (world.streamStarted step).acceptPart.Accepting streams down := by
  cases world.running_of_enabled enabled with
  | acquire stream place permit =>
      have after := accepting.acquire place permit
      simp only [streamStarted, place]
      exact after
  | assertAccept stream place =>
      have after := accepting.asserted place
      simp only [streamStarted, place]
      exact after
  | clearAccept stream place =>
      have after := accepting.cleared place
      simp only [streamStarted, place]
      exact after
  | setCallback stream place =>
      have after := accepting.setCallback place
      simp only [streamStarted, place]
      exact after
  | send stream place =>
      have after := accepting.send place
      obtain ⟨id, _, txAt, live⟩ := accepting.send_live place
      have sent := world.ctx.accept.send_of_live (.success, .assign stream)
        ⟨id, txAt, live⟩
      simp only [streamStarted, place, sent]
      exact after

private theorem acceptPart_other {action : ConnectionAction}
    (notEvent : ∀ event, action ≠ .event event)
    (notStreamStarted : ∀ step, action ≠ .streamStarted step)
    (notAccept : action ≠ .accept) (notInitiate : action ≠ .acceptInitiate)
    (notHandler : ∀ ec, action ≠ .acceptHandler ec) :
    (world.step action).acceptPart = world.acceptPart := by
  cases action with
  | event event => exact absurd rfl (notEvent event)
  | streamStarted step => exact absurd rfl (notStreamStarted step)
  | accept => exact absurd rfl notAccept
  | acceptInitiate => exact absurd rfl notInitiate
  | acceptHandler ec => exact absurd rfl (notHandler ec)
  | start statement =>
      simp only [step, asyncStart]
      split <;> rfl
  | connect =>
      rw [step_connect]
      rfl
  | shutdown =>
      rw [step_shutdown]
      rfl
  | connectInitiate | connectHandler | shutdownInitiate | shutdownHandler =>
      simp only [step]
      split <;> rfl

theorem accepting_oneStep (accepting : world.acceptPart.Accepting streams down)
    {action : ConnectionAction} (allowed : world.enabled action = true)
    (oneAtATime : action = .accept → world.accept = .idle)
    (noStream : action.startedStream ≠ none → down = false) :
    (world.step action).acceptPart.Accepting
      (streams ++ action.startedStream.toList) (down || action.isShutdown) := by
  have enabled := allowed
  simp only [ConnectionWorld.enabled, Bool.and_eq_true] at enabled
  have quiet : ∀ part : AcceptPart O, part.Accepting streams down →
      action.startedStream = none → action.isShutdown = false →
        part.Accepting (streams ++ action.startedStream.toList)
          (down || action.isShutdown) := by
    intro part kept noStream noShutdown
    rw [noStream, noShutdown, Option.toList_none, List.append_nil, Bool.or_false]
    exact kept
  cases action with
  | event event =>
      exact accepting_deliver accepting event
        (world.returned_of_event allowed) noStream
  | streamStarted step =>
      apply quiet _ _ rfl rfl
      exact accepting_streamStarted accepting enabled.2
  | accept =>
      apply quiet _ _ rfl rfl
      have idle := oneAtATime rfl
      have low : world.ctx.pending.accept = false :=
        (Bool.or_eq_false_iff.mp (accepting.sound.lowered_of_idle idle)).1
      rw [step_accept]
      by_cases complete : world.ctx.state = .shutdownComplete
      · have after := accepting.refused idle
        simp only [acceptPart, AsioServerConnectionCtx.afterAccept, complete,
          if_true, ne_eq, not_true_eq_false, decide_false, Bool.or_false,
          Port.rx_afterSend, Port.rx_renew] at after ⊢
        exact after
      · have after := accepting.armed idle
        simp only [acceptPart, AsioServerConnectionCtx.afterAccept, complete,
          if_false, ne_eq, not_false_eq_true, decide_true, Bool.or_true,
          Port.rx_renew] at after ⊢
        exact after
  | acceptInitiate =>
      apply quiet _ _ rfl rfl
      obtain ⟨op, initiated, kept⟩ := accepting.initiated enabled.2
      have ran : world.acceptSlot.initiate =
          some { world.acceptSlot with op := op } := initiated
      simp only [step, ran]
      exact kept
  | acceptHandler ec =>
      apply quiet _ _ rfl rfl
      obtain ⟨message, handled, kept⟩ := accepting.handled enabled.2
      have ran : world.acceptSlot.handler ec =
          some ({ world.acceptSlot with op := .idle }, some message) := handled
      simp only [step, ran, Option.getD_some]
      exact kept
  | start | connect | connectInitiate | connectHandler | shutdown
  | shutdownInitiate | shutdownHandler =>
      apply quiet _ _ rfl rfl
      rw [acceptPart_other] <;> first | exact accepting | simp

theorem accepting_step {actions : List ConnectionAction}
    (accepting : world.acceptPart.Accepting (startedStreams actions)
      (shutDown actions))
    {action : ConnectionAction} (allowed : acceptOrder actions world action) :
    (world.step action).acceptPart.Accepting
      (startedStreams (actions ++ [action])) (shutDown (actions ++ [action])) := by
  obtain ⟨enabled, oneAtATime, noStream⟩ := allowed
  rw [startedStreams_append, shutDown_append]
  exact accepting_oneStep accepting enabled oneAtATime noStream

theorem accepting_initial :
    (initial : ConnectionWorld O).acceptPart.Accepting [] false where
  sound := LockedSlot.Sound.initial
  permits := fun _ => rfl
  passed := by intro impossible; cases impossible
  sending := by intro impossible; cases impossible
  running := fun busy => absurd rfl busy
  registered := by intro stream impossible; cases impossible
  order := rfl
  handed := by intro entry impossible; cases impossible
  once := List.nodup_nil
  onlyHanded := by
    intro id message held
    have unsent : (Port.empty : Port O AcceptMessage).value? id = none :=
      Channels.value?_empty id
    exact absurd (unsent.symm.trans held) (by simp)
  delivered := ⟨[], rfl, Or.inl ⟨rfl, by intro id impossible; cases impossible⟩⟩

theorem accepting_of_run {actions : List ConnectionAction}
    (run : (connectionMachine O).Run acceptOrder actions world) :
    world.acceptPart.Accepting (startedStreams actions) (shutDown actions) := by
  apply run.invariant (fun actions world => world.acceptPart.Accepting
    (startedStreams actions) (shutDown actions)) accepting_initial
  intro actions world action _ accepting allowed
  exact accepting_step accepting allowed

/-- Streams are accepted in the order in which they were started.  Every
callback that has returned gave its stream, with its callback set, to one
`async_accept`, and no other `async_accept` got one; the semaphore is passed
only while the flag is set. -/
theorem accepted_in_order {actions : List ConnectionAction}
    (run : (connectionMachine O).Run acceptOrder actions world) :
    world.accepted.filter (fun message => message.1 = .success) <+:
        (startedStreams actions).map AcceptPart.streamMessage ∧
      startedStreams actions =
        world.handed.map Prod.snd ++ world.callback.stream.toList ∧
      (∀ entry ∈ world.handed, ∃ id, entry.1 = some id ∧
        world.ctx.accept.channels.outcomes id =
          [AcceptPart.streamMessage entry.2] ∧
        entry.2 ∈ world.callbacks) ∧
      (world.handed.map Prod.fst).Nodup ∧
      (∀ id message, world.ctx.accept.value? id = some message →
        message.1 = .success → ∃ stream,
          message = AcceptPart.streamMessage stream ∧
            (some id, stream) ∈ world.handed) ∧
      (world.streamStartedEnabled .acquire = true →
        world.ctx.pending.accept = true) ∧
      (world.callback.passed = true → world.ctx.pending.accept = true) := by
  have accepting := accepting_of_run run
  have order : startedStreams actions =
      world.handed.map Prod.snd ++ world.callback.stream.toList :=
    accepting.order
  refine ⟨?_, order, ?_, accepting.once, accepting.onlyHanded, ?_,
    accepting.passed⟩
  · obtain ⟨rest, same, _⟩ := accepting.delivered
    refine ⟨rest ++ world.callback.stream.toList.map AcceptPart.streamMessage, ?_⟩
    rw [order, List.map_append, List.map_map, ← List.append_assoc]
    exact congrArg (· ++ _) same.symm
  · intro entry member
    obtain ⟨id, entryAt, held, inCallbacks⟩ := accepting.handed entry member
    refine ⟨id, entryAt, ?_, inCallbacks⟩
    have value : world.ctx.accept.channels.value? id =
        some (AcceptPart.streamMessage entry.2) := held
    rw [Channels.outcomes_eq, value, Option.toList_some]
  · intro enabled
    cases at_ : world.callback with
    | acquiring stream =>
        simp only [streamStartedEnabled, at_, decide_eq_true_eq] at enabled
        exact accepting.pending_of_acquire at_ enabled
    | returned | acquired | asserted | cleared | registered =>
        simp only [streamStartedEnabled, at_, Bool.false_eq_true] at enabled

def twoStreams : List ConnectionAction :=
  [.accept, .acceptInitiate, .event (.peerStreamStarted 7),
    .streamStarted .acquire, .streamStarted .assertAccept,
    .streamStarted .clearAccept, .streamStarted .setCallback,
    .streamStarted .send, .acceptHandler .success,
    .event (.peerStreamStarted 8), .accept, .streamStarted .acquire,
    .acceptInitiate, .streamStarted .assertAccept,
    .streamStarted .clearAccept, .streamStarted .setCallback,
    .streamStarted .send, .acceptHandler .success]

theorem accepted_in_order_twoStreams :
    ((connectionMachine .reference).exec twoStreams).accepted.length = 2 ∧
      ((connectionMachine .reference).exec twoStreams).accepted.filter
          (fun message => message.1 = .success) <+:
        (startedStreams twoStreams).map AcceptPart.streamMessage :=
  ⟨by decide,
    (accepted_in_order (O := .reference)
      (Machine.run_of_checks twoStreams (by decide))).1⟩

end ConnectionWorld

end MsquicAsio
