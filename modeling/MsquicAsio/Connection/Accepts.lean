/-
`async_accept` of a connection refines a serial hand-off.

The peer's streams arrive one at a time, each waiting in the PEER_STREAM_STARTED
callback until a call takes it.  A shutdown event closes the hand-off; it may
refuse the call that asks then, and only SHUTDOWN_COMPLETE makes later calls
answer themselves.
-/
import MsquicAsio.Lib.Call
import MsquicAsio.Connection.Accept

set_option autoImplicit false

namespace MsquicAsio

variable {O : Oneshot}

/-- A success gives a stream.  Callbacks of a connection are serialised. -/
def streamHandoff : HandoffKind Hquic AcceptMessage where
  given := AcceptPart.streamMessage
  gives message := decide (message.1 = .success)
  gives_given _ := rfl
  serial := true

/-! ### The state that a shutdown event enters -/

private theorem cancelPending_state (ctx : AsioServerConnectionCtx O)
    (entered : ConnectionState) (place : ConnectionAssert) :
    (Exec.finalState (cancelPending entered place ctx)).state = entered := by
  obtain ⟨state, ⟨clientStart, serverConnect, accept, shutdown⟩, conn,
    acceptBs, acceptPort, shutdownPort, failed⟩ := ctx
  simp only [cancelPending, Exec.bind_apply, Exec.pure_apply, Exec.ite_apply,
    ConnectionM.pending_apply, ConnectionM.setState_apply,
    ConnectionM.setPending_apply, ConnectionM.assertThat_apply,
    ConnectionM.sendConn, ConnectionM.sendAccept]
  cases serverConnect with
  | false =>
      cases accept with
      | false => rfl
      | true => cases acceptPort.send (connectionAborted, .dummy) <;> rfl
  | true =>
      cases conn.send connectionAborted with
      | none => rfl
      | some port =>
          cases accept with
          | false => rfl
          | true =>
              simp only [if_true]
              cases acceptPort.send (connectionAborted, .dummy) <;> rfl

def ConnectionEvent.enters : ConnectionEvent → Option ConnectionState
  | .shutdownInitiatedByTransport => some .transportShutdown
  | .shutdownInitiatedByPeer => some .peerShutdown
  | .shutdownComplete => some .shutdownComplete
  | _ => none

private theorem callback_state (ctx : AsioServerConnectionCtx O)
    (event : ConnectionEvent) :
    (Exec.finalState (asioMsQuicConnectionCallback event ctx)).state =
      event.enters.getD ctx.state := by
  cases event with
  | shutdownInitiatedByTransport | shutdownInitiatedByPeer =>
      exact cancelPending_state ctx _ _
  | shutdownComplete =>
      have entered := cancelPending_state ctx .shutdownComplete
        .completeClientStartUnset
      simp only [asioMsQuicConnectionCallback, Exec.bind_apply]
      cases cancelled : cancelPending .shutdownComplete
        .completeClientStartUnset ctx with
      | error error after =>
          rw [cancelled] at entered
          exact entered
      | ok done after =>
          rw [cancelled] at entered
          simp only [Exec.finalState] at entered
          simp only [Exec.ite_apply, Exec.bind_apply, Exec.pure_apply,
            ConnectionM.pending_apply, ConnectionM.setPending_apply,
            ConnectionM.sendShutdown]
          split
          · split <;> exact entered
          · exact entered
  | connected =>
      simp only [asioMsQuicConnectionCallback, Exec.bind_apply,
        Exec.pure_apply, Exec.ite_apply, ConnectionM.pending_apply,
        ConnectionM.assertThat_apply, ConnectionM.setPending_apply,
        ConnectionM.sendConn]
      split
      · cases ctx.conn.send .success with
        | none => rfl
        | some port =>
            simp only
            split
            · cases port.send .success <;> rfl
            · rfl
      · split
        · cases ctx.conn.send .success <;> rfl
        · rfl
  | peerStreamStarted | resumed | resumptionTicketReceived | other => rfl

def ConnectionAction.request :
    ConnectionAction → Option (HandoffAction Hquic AcceptMessage)
  | .event (.peerStreamStarted stream) => some (.offer stream)
  | .accept => some .ask
  | _ => none

namespace ConnectionWorld

def handoff (world : ConnectionWorld O) : Handoff Hquic AcceptMessage where
  offered := world.callback.stream.toList
  call := world.ctx.accept.call world.accept.own
  told := world.accepted
  closed := decide (world.ctx.state ≠ .ok)

/-- What a step of the connection is to the hand-off. -/
def accepting (world : ConnectionWorld O) (action : ConnectionAction) :
    List (HandoffAction Hquic AcceptMessage) :=
  match action with
  | .event (.peerStreamStarted stream) => [.offer stream]
  | .event event =>
      if event.isShutdown = true then
        .close ::
          HandoffAction.refusal world.handoff.call
            (world.step (.event event)).handoff.call
      else []
  | .streamStarted .send => world.callback.stream.toList.map .give
  | .accept =>
      .ask :: HandoffAction.refusal .asking (world.step .accept).handoff.call
  | .acceptHandler _ => world.handoff.call.answer.map .tell
  | _ => []

private theorem accepting_requests (world : ConnectionWorld O)
    (action : ConnectionAction) :
    (world.accepting action).filterMap HandoffAction.request =
      action.request.toList := by
  cases action with
  | event event =>
      cases event with
      | shutdownInitiatedByTransport | shutdownInitiatedByPeer
      | shutdownComplete => exact HandoffAction.request_refusal _ _
      | connected | peerStreamStarted | resumed | resumptionTicketReceived
      | other => rfl
  | streamStarted statement =>
      cases statement with
      | send =>
          simp only [accepting]
          cases world.callback.stream <;> rfl
      | acquire | assertAccept | clearAccept | setCallback => rfl
  | accept =>
      exact congrArg (List.cons _) (HandoffAction.request_refusal _ _)
  | acceptHandler ec =>
      simp only [accepting]
      cases world.handoff.call <;> rfl
  | start | connect | connectInitiate | connectHandler | acceptInitiate
  | shutdown | shutdownInitiate | shutdownHandler => rfl

variable {world : ConnectionWorld O} {actions : List ConnectionAction}
  {action : ConnectionAction}

/-! ### Open until a shutdown event -/

private theorem state_step (notShutdown : action.isShutdown = false) :
    (world.step action).ctx.state = world.ctx.state := by
  cases action with
  | event event =>
      have same := callback_state world.ctx event
      cases event with
      | shutdownInitiatedByTransport | shutdownInitiatedByPeer
      | shutdownComplete => cases notShutdown
      | connected | peerStreamStarted | resumed | resumptionTicketReceived
      | other => exact same
  | streamStarted statement =>
      simp only [step, streamStarted]
      split
      all_goals try rfl
      split <;> rfl
  | start statement =>
      simp only [step, asyncStart]
      split <;> rfl
  | connect =>
      rw [step_connect]
      rfl
  | accept =>
      rw [step_accept]
      rfl
  | shutdown =>
      rw [step_shutdown]
      rfl
  | connectInitiate | connectHandler | acceptInitiate | acceptHandler
  | shutdownInitiate | shutdownHandler =>
      simp only [step]
      split <;> rfl

private theorem open_of_run
    (run : (connectionMachine O).Run acceptOrder actions world) :
    shutDown actions = false → world.ctx.state = .ok := by
  apply run.invariant (fun actions world =>
    shutDown actions = false → world.ctx.state = .ok)
  · intro _
    rfl
  · intro actions world action _ isOpen _ up
    rw [shutDown_append, Bool.or_eq_false_iff] at up
    exact (state_step up.2).trans (isOpen up.1)

/-! ### Every step is one of the hand-off -/

private theorem handoff_accept (world : ConnectionWorld O) :
    (world.step .accept).handoff =
      { world.handoff with
        call :=
          if world.ctx.state = .shutdownComplete then
            .answered (connectionAborted, .dummy)
          else .asking } := by
  by_cases complete : world.ctx.state = .shutdownComplete
  · rw [if_pos complete,
      ← world.ctx.accept.call_answered (connectionAborted, .dummy)]
    simp only [step_accept, handoff, AsioServerConnectionCtx.afterAccept,
      complete, if_true, Port.rx_afterSend, Port.rx_renew, LockedOp.own]
  · rw [if_neg complete, ← world.ctx.accept.call_renew]
    simp only [step_accept, handoff, AsioServerConnectionCtx.afterAccept,
      complete, if_false, Port.rx_renew, LockedOp.own]

variable {streams : List Hquic} {down : Bool}
  {done : List (HandoffAction Hquic AcceptMessage)}

private theorem handoff_call (world : ConnectionWorld O) :
    world.handoff.call =
      world.acceptPart.port.call world.acceptPart.op.own :=
  rfl

/-- A shutdown event refuses the call that asks, unless an exception stops the
callback before it comes there. -/
private theorem refused_shutdown
    (accepts : world.acceptPart.Accepting streams down)
    {event : ConnectionEvent} (shuts : event.isShutdown = true)
    (returned : world.callback = .returned) :
    world.handoff.call.Refused streamHandoff
      (world.step (.event event)).handoff.call := by
  have settles := accepts.sound.settles
  simp only [AcceptPart.slot, acceptPart, returned, StreamStarted.sending,
    Bool.or_false] at settles
  rw [handoff_call, handoff_call]
  change HandoffCall.Refused _ _ ((world.deliver event).acceptPart.port.call
    (world.deliver event).acceptPart.op.own)
  rcases world.acceptPart_shutdown shuts (accept_live accepts) with
    ⟨_, cancelled⟩ | ⟨_, kept⟩
  · rw [cancelled]
    exact settles.refused rfl
  · rw [kept]
    exact Or.inl rfl

private theorem refines_shutdown
    (accepts : world.acceptPart.Accepting streams down)
    (run : (handoffMachine streamHandoff).Run (Handoff.rules streamHandoff)
      done world.handoff)
    {event : ConnectionEvent} (shuts : event.isShutdown = true)
    (returned : world.callback = .returned) :
    (handoffMachine streamHandoff).Run (Handoff.rules streamHandoff)
      (done ++ world.accepting (.event event))
      (world.step (.event event)).handoff := by
  have nothing : Handoff.rules streamHandoff done world.handoff .close := by
    change (world.callback.stream.toList : Multiset Hquic) = 0
    rw [returned]
    rfl
  have follows := Handoff.follows_refused run nothing rfl
    (refused_shutdown accepts shuts returned)
  have closes : (world.step (.event event)).handoff =
      { world.handoff with
        call := (world.step (.event event)).handoff.call, closed := true } := by
    have entered := callback_state world.ctx event
    cases event with
    | shutdownInitiatedByTransport | shutdownInitiatedByPeer
    | shutdownComplete =>
        simp only [step, deliver, handoff, entered, ConnectionEvent.enters,
          Option.getD_some]
        rfl
    | connected | peerStreamStarted | resumed | resumptionTicketReceived
    | other => cases shuts
  rw [closes]
  cases event with
  | shutdownInitiatedByTransport | shutdownInitiatedByPeer
  | shutdownComplete => exact follows
  | connected | peerStreamStarted | resumed | resumptionTicketReceived
  | other => cases shuts

private theorem refines_event (run : (handoffMachine streamHandoff).Run
      (Handoff.rules streamHandoff) done world.handoff)
    {event : ConnectionEvent} (notShutdown : event.isShutdown = false)
    (returned : world.callback = .returned)
    (isOpen : (ConnectionAction.event event).startedStream ≠ none →
      world.ctx.state = .ok) :
    (handoffMachine streamHandoff).Run (Handoff.rules streamHandoff)
      (done ++ world.accepting (.event event))
      (world.step (.event event)).handoff := by
  obtain ⟨final, same, _, _, portAt⟩ :=
    callback_other_accept world.ctx notShutdown
  have entered := callback_state world.ctx event
  rw [same] at entered
  cases event with
  | peerStreamStarted stream =>
      have up := isOpen (by simp [ConnectionAction.startedStream])
      have nothing : world.handoff.offered = 0 := by
        simp only [handoff, returned]
        rfl
      apply run.follows
      · exact ⟨decide_eq_false (by simp [up]), fun _ => nothing⟩
      · simp only [step, deliver, handoff, same, portAt, entered,
          ConnectionEvent.enters, Option.getD_none, handoffMachine,
          Handoff.step, returned]
        rfl
  | connected | resumed | resumptionTicketReceived | other =>
      apply run.stays
      simp only [step, deliver, handoff, same, portAt, entered,
        ConnectionEvent.enters, Option.getD_none]
  | shutdownInitiatedByTransport | shutdownInitiatedByPeer
  | shutdownComplete => cases notShutdown

private theorem refines_streamStarted
    (accepts : world.acceptPart.Accepting streams down)
    (run : (handoffMachine streamHandoff).Run (Handoff.rules streamHandoff)
      done world.handoff)
    {statement : StreamStartedStep}
    (enabled : world.streamStartedEnabled statement = true) :
    (handoffMachine streamHandoff).Run (Handoff.rules streamHandoff)
      (done ++ world.accepting (.streamStarted statement))
      (world.streamStarted statement).handoff := by
  cases world.running_of_enabled enabled with
  | acquire stream place | assertAccept stream place
  | clearAccept stream place | setCallback stream place =>
      apply run.stays
      simp only [streamStarted, place, handoff]
      rfl
  | send stream place =>
      obtain ⟨id, own, txAt, live⟩ := accepts.send_live place
      change world.accept.own = some id at own
      change world.ctx.accept.tx = some id at txAt
      have sent := world.ctx.accept.send_of_live (.success, .assign stream)
        ⟨id, txAt, live⟩
      have asking : world.handoff.call = .asking := by
        simp only [handoff, own]
        exact Port.call_of_unsent live.2
      simp only [accepting, place, StreamStarted.stream, Option.toList_some,
        List.map_singleton]
      apply run.follows
      · refine ⟨asking, ?_⟩
        simp only [handoff, place, StreamStarted.stream, Option.toList_some]
        exact Multiset.mem_singleton_self stream
      · simp only [streamStarted, place, sent, handoff, handoffMachine,
          Handoff.step, own]
        rw [Port.call_afterSend txAt live]
        simp [StreamStarted.stream, streamHandoff, AcceptPart.streamMessage]

private theorem refines_step (accepts : world.acceptPart.Accepting streams down)
    (isOpen : action.startedStream ≠ none → world.ctx.state = .ok)
    (enabled : world.enabled action = true)
    (oneAtATime : action = .accept → world.accept = .idle)
    (run : (handoffMachine streamHandoff).Run (Handoff.rules streamHandoff)
      done world.handoff) :
    (handoffMachine streamHandoff).Run (Handoff.rules streamHandoff)
      (done ++ world.accepting action) (world.step action).handoff := by
  have allowed := enabled
  simp only [ConnectionWorld.enabled, Bool.and_eq_true] at enabled
  cases action with
  | event event =>
      have returned := world.returned_of_event allowed
      cases shuts : event.isShutdown with
      | true => exact refines_shutdown accepts run shuts returned
      | false => exact refines_event run shuts returned isOpen
  | streamStarted statement =>
      exact refines_streamStarted accepts run enabled.2
  | accept =>
      have idle := oneAtATime rfl
      have asks : Handoff.rules streamHandoff done world.handoff .ask := by
        change world.ctx.accept.call world.accept.own = .idle
        rw [idle]
        rfl
      rw [accepting, handoff_accept]
      by_cases complete : world.ctx.state = .shutdownComplete
      · have closed : world.handoff.closed = true :=
          decide_eq_true (by rw [complete]; simp)
        rw [if_pos complete]
        exact Handoff.follows_refused run asks closed
          (Or.inr ⟨rfl, (connectionAborted, .dummy), rfl, rfl⟩)
      · rw [if_neg complete, HandoffAction.refusal_self]
        exact run.follows asks rfl
  | acceptInitiate =>
      obtain ⟨op, initiated, _, sameOwn⟩ :=
        accepts.sound.initiate enabled.2
      have ran : world.acceptSlot.initiate =
          some { world.acceptSlot with op := op } := initiated
      apply run.stays
      simp only [step, ran, handoff]
      rw [sameOwn]
      rfl
  | acceptHandler ec =>
      obtain ⟨id, message, own, held, handled, _⟩ :=
        accepts.sound.handler enabled.2
      have ran : world.acceptSlot.handler ec =
          some ({ world.acceptSlot with op := .idle }, some message) := handled
      have answered : world.handoff.call = .answered message := by
        change world.accept.own = some id at own
        simp only [handoff, own]
        exact Port.call_of_held held
      have tells : Handoff.rules streamHandoff done world.handoff
          (.tell message) := answered
      simp only [accepting, answered, HandoffCall.answer, List.map_singleton]
      apply run.follows tells
      simp only [step, ran, Option.getD_some, handoff, handoffMachine,
        Handoff.step]
      rfl
  | start statement =>
      apply run.stays
      simp only [step, asyncStart]
      split <;> rfl
  | connect =>
      apply run.stays
      rw [step_connect]
      rfl
  | shutdown =>
      apply run.stays
      rw [step_shutdown]
      rfl
  | connectInitiate | connectHandler | shutdownInitiate | shutdownHandler =>
      apply run.stays
      simp only [step]
      split <;> rfl

private theorem refines_handoff :
    (connectionMachine O).Refines acceptOrder (handoffMachine streamHandoff)
      (Handoff.rules streamHandoff) handoff accepting where
  start := rfl
  step := by
    intro actions world action before allowed done run
    obtain ⟨enabled, oneAtATime, noStream⟩ := allowed
    exact refines_step (accepting_of_run before)
      (fun starts => open_of_run before (noStream starts)) enabled oneAtATime
      run

def requests (actions : List ConnectionAction) :
    List (HandoffAction Hquic AcceptMessage) :=
  actions.filterMap ConnectionAction.request

/-- Every run of a connection is a run of the serial hand-off on the same
requests.  So each stream started waits in its callback or is in exactly one
answer, the answers have the order of the streams, each `async_accept` has had
its handler told or is in progress, and before a shutdown event every answer is
a stream. -/
theorem streams_as_handoff
    (run : (connectionMachine O).Run acceptOrder actions world) :
    (handoffMachine streamHandoff).Run (Handoff.rules streamHandoff)
        ((connectionMachine O).image accepting actions) world.handoff ∧
      ((connectionMachine O).image accepting actions).filterMap
          HandoffAction.request = requests actions ∧
      world.handoff.Accounted streamHandoff (requests actions) ∧
      ∃ waiting,
        world.handoff.InOrder streamHandoff (requests actions) waiting := by
  have image := refines_handoff.run run
  have same := (connectionMachine O).image_filterMap HandoffAction.request
    ConnectionAction.request accepting_requests actions
  obtain ⟨waiting, inOrder⟩ := Handoff.inOrder_of_run rfl image
  rw [requests, ← same]
  exact ⟨image, rfl, (Handoff.accounted_of_run image).requested, waiting,
    inOrder.requested⟩

theorem streams_as_handoff_twoStreams :
    ((connectionMachine .reference).exec twoStreams).handoff.Accounted
      streamHandoff (requests twoStreams) :=
  (streams_as_handoff (O := .reference)
    (Machine.run_of_checks twoStreams (by decide))).2.2.1

end ConnectionWorld

end MsquicAsio
