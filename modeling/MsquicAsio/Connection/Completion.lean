/-
Every operation of a server connection completes exactly once.

The three shutdown events cancel `async_connect` and `async_accept`, and
SHUTDOWN_COMPLETE answers `async_shutdown`.  Each of the three operations has
its flag and its sender tied together, for the accept also across the window in
which the PEER_STREAM_STARTED callback has cleared the flag and not yet sent.
-/
import MsquicAsio.Connection.Accept

set_option autoImplicit false

namespace MsquicAsio

variable {O : Oneshot}

namespace ConnectionWorld

/-- A server connection: `async_start` is not called, an operation is started
again only after its handler was invoked, callbacks are serialised, no stream
is started after a shutdown event and SHUTDOWN_COMPLETE is the last event. -/
def serverContract : Environment (ConnectionWorld O) ConnectionAction :=
  fun actions world action =>
    acceptOrder actions world action ∧
      (action = .connect → world.connect = .idle) ∧
      (action = .shutdown → world.shutdown = .idle) ∧
      action.isStart = false ∧
      (action.isEvent = true → .event .shutdownComplete ∉ actions)

instance (actions : List ConnectionAction) (world : ConnectionWorld O)
    (action : ConnectionAction) :
    Decidable (serverContract actions world action) :=
  inferInstanceAs (Decidable (_ ∧ (_ → _) ∧ (_ → _) ∧ _ ∧ (_ → _)))

/-! ### What a step answers each operation with -/

section Answers

variable (world : ConnectionWorld O)

def connectAnswer : ConnectionAction → Option ErrorCode
  | .event event => event.connectAnswer
  | .connect => world.calledAnswer connectionAborted
  | _ => none

def acceptAnswer : ConnectionAction → Option AcceptMessage
  | .event event => event.acceptAnswer
  | .streamStarted .send =>
      world.callback.stream.map AcceptPart.streamMessage
  | .accept => world.calledAnswer (connectionAborted, .dummy)
  | _ => none

def shutdownAnswer : ConnectionAction → Option ErrorCode
  | .event event => event.shutdownAnswer
  | .shutdown => world.calledAnswer .success
  | _ => none

end Answers

structure Down (world : ConnectionWorld O) : Prop where
  connect : world.ctx.pending.serverConnect = false
  accept : world.ctx.pending.accept = false
  shutdown : world.ctx.pending.shutdown = false
  returned : world.callback = .returned

structure Serving (actions : List ConnectionAction)
    (world : ConnectionWorld O) : Prop where
  accepting : world.acceptPart.Accepting (startedStreams actions)
    (shutDown actions)
  connect : world.connectSlot.Sound
  shutdown : world.shutdownSlot.Sound
  server : world.ctx.pending.clientStart = false
  unthrown : world.threw = false
  complete_iff : world.ctx.state = .shutdownComplete ↔
    .event .shutdownComplete ∈ actions
  down : .event .shutdownComplete ∈ actions → world.Down

namespace Serving

variable {actions : List ConnectionAction} {world : ConnectionWorld O}

theorem guarded (serving : world.Serving actions) : world.ctx.Guarded where
  start := by
    intro raised
    rw [serving.server] at raised
    cases raised
  connect := fun raised => serving.connect.settles.live raised
  oneMode := by
    intro raised
    rw [serving.server] at raised
    cases raised
  accept := by
    intro raised
    apply serving.accepting.sound.settles.live
    simp only [AcceptPart.slot, acceptPart, raised, Bool.true_or]
  shutdown := fun raised => serving.shutdown.settles.live raised

private theorem connectSlot_other (action : ConnectionAction)
    (notEvent : action.isEvent = false) (notStart : action.isStart = false)
    (notConnect : action ≠ .connect) (notInitiate : action ≠ .connectInitiate)
    (notHandler : ∀ ec, action ≠ .connectHandler ec) :
    (world.step action).connectSlot = world.connectSlot := by
  cases action with
  | event event => cases notEvent
  | start statement => cases notStart
  | connect => exact absurd rfl notConnect
  | connectInitiate => exact absurd rfl notInitiate
  | connectHandler ec => exact absurd rfl (notHandler ec)
  | streamStarted statement =>
      simp only [step, streamStarted]
      split <;> first | rfl | (split <;> rfl)
  | accept =>
      rw [step_accept]
      rfl
  | shutdown =>
      rw [step_shutdown]
      rfl
  | acceptInitiate | acceptHandler | shutdownInitiate | shutdownHandler =>
      simp only [step]
      split <;> rfl

private theorem connect_moves (serving : world.Serving actions)
    {action : ConnectionAction} (allowed : serverContract actions world action) :
    world.connectSlot.Moves (world.connectAnswer action)
      (world.step action).connectSlot := by
  have sound := serving.connect
  obtain ⟨⟨enabled, _⟩, idle, _, notStart, _⟩ := allowed
  simp only [ConnectionWorld.enabled, Bool.and_eq_true] at enabled
  cases action with
  | event event =>
      rw [world.connectSlot_event event serving.guarded serving.server]
      exact .settled _
  | connect =>
      have lowered := sound.lowered_of_idle (idle rfl)
      rw [world.connectSlot_connect lowered]
      exact .called _ lowered
  | connectInitiate =>
      obtain ⟨op, initiated, after, _⟩ := sound.initiate enabled.2
      simp only [ConnectionWorld.step, initiated]
      exact .waits _ after rfl
  | connectHandler ec =>
      obtain ⟨id, message, _, _, handled, after⟩ := sound.handler enabled.2
      simp only [ConnectionWorld.step, handled]
      exact .waits _ after rfl
  | start step => cases notStart
  | streamStarted | accept | shutdown | acceptInitiate | acceptHandler
  | shutdownInitiate | shutdownHandler =>
      rw [connectSlot_other _ rfl rfl (by simp) (by simp) (by simp)]
      exact .waits _ sound rfl

theorem shutdownSlot_other (action : ConnectionAction)
    (notEvent : action.isEvent = false) (notStart : action.isStart = false)
    (notShutdown : action ≠ .shutdown)
    (notInitiate : action ≠ .shutdownInitiate)
    (notHandler : ∀ ec, action ≠ .shutdownHandler ec) :
    (world.step action).shutdownSlot = world.shutdownSlot := by
  cases action with
  | event event => cases notEvent
  | start statement => cases notStart
  | shutdown => exact absurd rfl notShutdown
  | shutdownInitiate => exact absurd rfl notInitiate
  | shutdownHandler ec => exact absurd rfl (notHandler ec)
  | streamStarted statement =>
      simp only [step, streamStarted]
      split <;> first | rfl | (split <;> rfl)
  | accept =>
      rw [step_accept]
      rfl
  | connect =>
      rw [step_connect]
      rfl
  | acceptInitiate | acceptHandler | connectInitiate | connectHandler =>
      simp only [step]
      split <;> rfl

private theorem shutdown_moves (serving : world.Serving actions)
    {action : ConnectionAction} (allowed : serverContract actions world action) :
    world.shutdownSlot.Moves (world.shutdownAnswer action)
      (world.step action).shutdownSlot := by
  have sound := serving.shutdown
  obtain ⟨⟨enabled, _⟩, _, idle, notStart, _⟩ := allowed
  simp only [ConnectionWorld.enabled, Bool.and_eq_true] at enabled
  cases action with
  | event event =>
      rw [world.shutdownSlot_event event serving.guarded]
      exact .settled _
  | shutdown =>
      have lowered := sound.lowered_of_idle (idle rfl)
      rw [world.shutdownSlot_shutdown lowered]
      exact .called _ lowered
  | shutdownInitiate =>
      obtain ⟨op, initiated, after, _⟩ := sound.initiate enabled.2
      simp only [ConnectionWorld.step, initiated]
      exact .waits _ after rfl
  | shutdownHandler ec =>
      obtain ⟨id, message, _, _, handled, after⟩ := sound.handler enabled.2
      simp only [ConnectionWorld.step, handled]
      exact .waits _ after rfl
  | start step => cases notStart
  | streamStarted | accept | connect | acceptInitiate | acceptHandler
  | connectInitiate | connectHandler =>
      rw [shutdownSlot_other _ rfl rfl (by simp) (by simp) (by simp)]
      exact .waits _ sound rfl

private theorem accept_other (action : ConnectionAction)
    (notEvent : action.isEvent = false) (notAccept : action ≠ .accept)
    (notStreamStarted : ∀ statement, action ≠ .streamStarted statement) :
    (world.step action).ctx.accept = world.ctx.accept := by
  cases action with
  | event event => cases notEvent
  | accept => exact absurd rfl notAccept
  | streamStarted statement => exact absurd rfl (notStreamStarted statement)
  | start statement =>
      simp only [step, asyncStart]
      split <;> rfl
  | connect =>
      rw [step_connect]
      rfl
  | shutdown =>
      rw [step_shutdown]
      rfl
  | connectInitiate | connectHandler | acceptInitiate | acceptHandler
  | shutdownInitiate | shutdownHandler =>
      simp only [step]
      split <;> rfl

private theorem accept_moves (serving : world.Serving actions)
    {action : ConnectionAction} (allowed : serverContract actions world action) :
    world.acceptSlot.Moves (world.acceptAnswer action)
      (world.step action).acceptSlot := by
  have after : (world.step action).acceptSlot.Sound :=
    (accepting_step serving.accepting allowed.1).sound
  have enabled := allowed.1.1
  cases action with
  | event event =>
      rw [world.acceptSlot_event event serving.guarded
        (world.returned_of_event enabled)]
      exact .settled _
  | accept =>
      have lowered := serving.accepting.sound.lowered_of_idle (allowed.1.2.1 rfl)
      change world.acceptSlot.pending = false at lowered
      rw [world.acceptSlot_accept lowered]
      exact .called _ lowered
  | streamStarted statement =>
      simp only [ConnectionWorld.enabled, Bool.and_eq_true] at enabled
      cases world.running_of_enabled enabled.2 with
      | send stream place =>
          obtain ⟨id, _, txAt, live⟩ := serving.accepting.send_live place
          have lowered := serving.accepting.sending (by
            change world.callback.sending = true
            rw [place]
            rfl)
          change world.ctx.pending.accept = false at lowered
          have sent := world.ctx.accept.send_of_live
            (.success, .assign stream) ⟨id, txAt, live⟩
          have same : (world.step (.streamStarted .send)).acceptSlot =
              world.acceptSlot.settled
                (some (AcceptPart.streamMessage stream)) := by
            simp only [step, streamStarted, place, sent, acceptSlot, lowered,
              StreamStarted.sending, LockedSlot.settled, Port.settle,
              Bool.or_true, Bool.or_false, if_true]
            rfl
          rw [same]
          simp only [acceptAnswer, place, StreamStarted.stream, Option.map_some]
          exact .settled _
      | acquire stream place | assertAccept stream place
      | clearAccept stream place | setCallback stream place =>
          refine .waits _ after ?_
          simp only [step, streamStarted, place]
          rfl
  | start | connect | shutdown | connectInitiate | connectHandler
  | acceptInitiate | acceptHandler | shutdownInitiate | shutdownHandler =>
      refine .waits _ after ?_
      exact accept_other _ rfl (by simp) (by simp)

/-! Nothing is thrown, and after SHUTDOWN_COMPLETE nothing waits -/

private theorem unthrown_step (serving : world.Serving actions)
    {action : ConnectionAction} (allowed : serverContract actions world action) :
    (world.step action).threw = false := by
  have quiet := serving.unthrown
  have enabled := allowed.1.1
  simp only [ConnectionWorld.enabled, Bool.and_eq_true] at enabled
  cases action with
  | event event =>
      rw [world.step_event event serving.guarded]
      exact quiet
  | connect =>
      rw [step_connect]
      exact quiet
  | accept =>
      rw [step_accept]
      exact quiet
  | shutdown =>
      rw [step_shutdown]
      exact quiet
  | start statement => cases allowed.2.2.2.1
  | streamStarted statement =>
      cases world.running_of_enabled enabled.2 with
      | send stream place =>
          obtain ⟨id, _, txAt, live⟩ := serving.accepting.send_live place
          have sent := world.ctx.accept.send_of_live
            (.success, .assign stream) ⟨id, txAt, live⟩
          simp only [step, streamStarted, place, sent]
          exact quiet
      | acquire stream place | assertAccept stream place
      | clearAccept stream place | setCallback stream place =>
          simp only [step, streamStarted, place]
          exact quiet
  | connectInitiate =>
      obtain ⟨_, initiated, _⟩ := serving.connect.initiate enabled.2
      simp only [step, initiated]
      exact quiet
  | acceptInitiate =>
      obtain ⟨op, initiated, _⟩ := serving.accepting.initiated enabled.2
      have ran : world.acceptSlot.initiate =
          some { world.acceptSlot with op := op } := initiated
      simp only [step, ran]
      exact quiet
  | shutdownInitiate =>
      obtain ⟨_, initiated, _⟩ := serving.shutdown.initiate enabled.2
      simp only [step, initiated]
      exact quiet
  | connectHandler ec =>
      obtain ⟨id, message, _, _, handled, _⟩ :=
        serving.connect.handler enabled.2
      simp only [step, handled]
      exact quiet
  | acceptHandler ec =>
      obtain ⟨message, handled, _⟩ := serving.accepting.handled enabled.2
      have ran : world.acceptSlot.handler ec =
          some ({ world.acceptSlot with op := .idle }, some message) := handled
      simp only [step, ran]
      exact quiet
  | shutdownHandler ec =>
      obtain ⟨id, message, _, _, handled, _⟩ :=
        serving.shutdown.handler enabled.2
      simp only [step, handled]
      exact quiet

private theorem frontEnd_kept (action : ConnectionAction)
    (notEvent : action.isEvent = false) (notStart : action.isStart = false) :
    (world.step action).ctx.state = world.ctx.state ∧
      (world.step action).ctx.pending.clientStart =
        world.ctx.pending.clientStart := by
  cases action with
  | event event => cases notEvent
  | start statement => cases notStart
  | connect =>
      rw [step_connect]
      exact ⟨rfl, rfl⟩
  | accept =>
      rw [step_accept]
      exact ⟨rfl, rfl⟩
  | shutdown =>
      rw [step_shutdown]
      exact ⟨rfl, rfl⟩
  | streamStarted statement =>
      simp only [step, streamStarted]
      split <;> first | exact ⟨rfl, rfl⟩ | (split <;> exact ⟨rfl, rfl⟩)
  | connectInitiate | connectHandler | acceptInitiate | acceptHandler
  | shutdownInitiate | shutdownHandler =>
      simp only [step]
      split <;> exact ⟨rfl, rfl⟩

private theorem server_step (serving : world.Serving actions)
    {action : ConnectionAction} (allowed : serverContract actions world action) :
    (world.step action).ctx.pending.clientStart = false := by
  have server := serving.server
  cases kind : action.isEvent with
  | false =>
      rw [(frontEnd_kept action kind allowed.2.2.2.1).2]
      exact server
  | true =>
      cases action with
      | event event =>
          rw [world.step_event event serving.guarded]
          cases event <;> first | rfl | exact server
      | streamStarted | start | connect | accept | shutdown | connectInitiate
      | connectHandler | acceptInitiate | acceptHandler | shutdownInitiate
      | shutdownHandler => cases kind

private theorem complete_iff_step (serving : world.Serving actions)
    {action : ConnectionAction} (allowed : serverContract actions world action) :
    (world.step action).ctx.state = .shutdownComplete ↔
      .event .shutdownComplete ∈ actions ++ [action] := by
  have complete_iff := serving.complete_iff
  rw [List.mem_append, List.mem_singleton]
  cases kind : action.isEvent with
  | false =>
      rw [(frontEnd_kept action kind allowed.2.2.2.1).1, complete_iff]
      have other : ConnectionAction.event .shutdownComplete ≠ action := by
        intro same
        rw [← same] at kind
        cases kind
      simp only [other, or_false]
  | true =>
      have notYet := allowed.2.2.2.2 kind
      have notDown : world.ctx.state ≠ .shutdownComplete :=
        fun state => notYet (complete_iff.mp state)
      cases action with
      | event event =>
          rw [world.step_event event serving.guarded]
          simp only [notYet, false_or]
          cases event <;>
            simp [AsioServerConnectionCtx.after,
              AsioServerConnectionCtx.afterConnected,
              AsioServerConnectionCtx.afterCancel,
              AsioServerConnectionCtx.afterShutdownComplete, notDown]
      | streamStarted | start | connect | accept | shutdown | connectInitiate
      | connectHandler | acceptInitiate | acceptHandler | shutdownInitiate
      | shutdownHandler => cases kind

private theorem down_kept (serving : world.Serving actions)
    {action : ConnectionAction} (allowed : serverContract actions world action)
    (complete : .event .shutdownComplete ∈ actions) :
    (world.step action).Down := by
  have down := serving.down complete
  have state := serving.complete_iff.mpr complete
  obtain ⟨connect, accept, shutdown, returned⟩ := down
  have enabled := allowed.1.1
  simp only [ConnectionWorld.enabled, Bool.and_eq_true] at enabled
  cases action with
  | event event => exact absurd complete (allowed.2.2.2.2 rfl)
  | start statement => cases allowed.2.2.2.1
  | streamStarted statement =>
      cases world.running_of_enabled enabled.2 with
      | acquire stream place | assertAccept stream place
      | clearAccept stream place | setCallback stream place
      | send stream place =>
          rw [returned] at place
          cases place
  | connect =>
      simp only [step_connect, AsioServerConnectionCtx.afterConnect, state, connect]
      exact ⟨rfl, accept, shutdown, returned⟩
  | accept =>
      simp only [step_accept, AsioServerConnectionCtx.afterAccept, state, accept]
      exact ⟨connect, rfl, shutdown, returned⟩
  | shutdown =>
      simp only [step_shutdown, AsioServerConnectionCtx.afterShutdown, state, shutdown]
      exact ⟨connect, accept, rfl, returned⟩
  | connectInitiate | connectHandler | acceptInitiate | acceptHandler
  | shutdownInitiate | shutdownHandler =>
      simp only [step]
      split <;> exact ⟨connect, accept, shutdown, returned⟩

private theorem down_step (serving : world.Serving actions)
    {action : ConnectionAction} (allowed : serverContract actions world action)
    (complete : .event .shutdownComplete ∈ actions ++ [action]) :
    (world.step action).Down := by
  rcases List.mem_append.mp complete with earlier | now
  · exact serving.down_kept allowed earlier
  · obtain rfl := List.mem_singleton.mp now
    have returned := world.returned_of_event allowed.1.1
    rw [world.step_event .shutdownComplete serving.guarded]
    exact ⟨rfl, rfl, rfl, returned⟩

theorem step (serving : world.Serving actions) {action : ConnectionAction}
    (allowed : serverContract actions world action) :
    (world.step action).Serving (actions ++ [action]) where
  accepting := accepting_step serving.accepting allowed.1
  connect := (serving.connect_moves allowed).sound serving.connect
  shutdown := (serving.shutdown_moves allowed).sound serving.shutdown
  server := serving.server_step allowed
  unthrown := serving.unthrown_step allowed
  complete_iff := serving.complete_iff_step allowed
  down := serving.down_step allowed

end Serving

private theorem serving_initial : (initial : ConnectionWorld O).Serving [] where
  accepting := accepting_initial
  connect := LockedSlot.Sound.initial
  shutdown := LockedSlot.Sound.initial
  server := rfl
  unthrown := rfl
  complete_iff := by simp [initial, AsioServerConnectionCtx.initial]
  down := by intro impossible; cases impossible

theorem serving_of_run {actions : List ConnectionAction}
    {world : ConnectionWorld O}
    (run : (connectionMachine O).Run serverContract actions world) :
    world.Serving actions := by
  apply run.invariant (fun actions world => world.Serving actions)
    serving_initial
  intro actions world action _ serving allowed
  exact serving.step allowed

/-! ### The outcomes -/

/-- What `async_connect` and `async_accept` are given by a step: success from
CONNECTED and from the callback that brings a stream, from every other step
`connection_aborted` and no open stream. -/
structure Outcomes (action : ConnectionAction)
    (before after : ConnectionWorld O) : Prop where
  connect : ∀ id ec, before.ctx.conn.value? id = none →
    after.ctx.conn.value? id = some ec →
    if action = .event .connected then ec = .success
    else ec = connectionAborted
  accept : ∀ id message, before.ctx.accept.value? id = none →
    after.ctx.accept.value? id = some message →
    if action = .streamStarted .send then message.1 = .success
    else message.1 = connectionAborted ∧ message.2.isOpen = false

private theorem Serving.outcomes {actions : List ConnectionAction}
    {world : ConnectionWorld O} (serving : world.Serving actions)
    {action : ConnectionAction} (allowed : serverContract actions world action) :
    Outcomes action world (world.step action) where
  connect := by
    intro id ec unanswered held
    have answer := ((serving.connect_moves allowed).value?_cases held).resolve_left
      (fun earlier => by
        have earlier : world.ctx.conn.value? id = some ec := earlier
        rw [unanswered] at earlier
        cases earlier)
    unfold connectAnswer at answer
    split at answer
    · rename_i event
      cases event <;> cases answer <;> simp
    · unfold calledAnswer at answer
      split at answer <;> cases answer
      simp
    · cases answer
  accept := by
    intro id message unanswered held
    have answer := ((serving.accept_moves allowed).value?_cases held).resolve_left
      (fun earlier => by
        have earlier : world.ctx.accept.value? id = some message := earlier
        rw [unanswered] at earlier
        cases earlier)
    unfold acceptAnswer at answer
    split at answer
    · rename_i event
      cases event <;> cases answer <;>
        simp [StreamHandle.dummy, StreamHandle.isOpen]
    · obtain ⟨stream, _, rfl⟩ := Option.map_eq_some_iff.mp answer
      simp [AcceptPart.streamMessage]
    · unfold calledAnswer at answer
      split at answer <;> cases answer
      simp [StreamHandle.dummy, StreamHandle.isOpen]
    · cases answer

private theorem shutdown_outcome {actions : List ConnectionAction}
    {world : ConnectionWorld O}
    (run : (connectionMachine O).Run serverContract actions world) :
    ∀ id ec, world.ctx.shutdown.value? id = some ec →
      ec = .success ∧ .event .shutdownComplete ∈ actions := by
  apply run.invariant (fun actions world => ∀ id ec,
    world.ctx.shutdown.value? id = some ec →
      ec = .success ∧ .event .shutdownComplete ∈ actions)
  · intro id ec held
    have unsent : (Port.empty : Port O ErrorCode).value? id = none :=
      Channels.value?_empty id
    rw [show (connectionMachine O).initial.ctx.shutdown = .empty from rfl,
      unsent] at held
    cases held
  · intro actions world action before ih allowed id ec held
    have serving := serving_of_run before
    rcases (serving.shutdown_moves allowed).value?_cases held with earlier | now
    · obtain ⟨success, complete⟩ := ih id ec earlier
      exact ⟨success, List.mem_append_left _ complete⟩
    · unfold shutdownAnswer at now
      split at now
      · rename_i event
        cases event <;> cases now
        exact ⟨rfl, List.mem_append_right _ (List.mem_singleton_self _)⟩
      · unfold calledAnswer at now
        split at now <;> cases now
        rename_i complete
        exact ⟨rfl, List.mem_append_left _ (serving.complete_iff.mp complete)⟩
      · cases now

/-- Every operation of a server connection completes exactly once. -/
theorem server_complete_exactly_once {actions : List ConnectionAction}
    {world : ConnectionWorld O}
    (run : (connectionMachine O).Run serverContract actions world) :
    world.threw = false ∧
      (∀ id, (world.ctx.conn.channels.outcomes id).length ≤ 1 ∧
        (world.ctx.accept.channels.outcomes id).length ≤ 1 ∧
        (world.ctx.shutdown.channels.outcomes id).length ≤ 1) ∧
      (.event .shutdownComplete ∈ actions →
        (∀ id, id < world.ctx.conn.channels.next →
          ∃ ec, world.ctx.conn.channels.outcomes id = [ec]) ∧
        (∀ id, id < world.ctx.accept.channels.next →
          ∃ message, world.ctx.accept.channels.outcomes id = [message]) ∧
        ∀ id, id < world.ctx.shutdown.channels.next →
          ∃ ec, world.ctx.shutdown.channels.outcomes id = [ec]) ∧
      (connectionMachine O).EachStep (fun _ before action =>
        Outcomes action before (before.step action)) actions ∧
      ∀ id ec, world.ctx.shutdown.value? id = some ec →
        ec = .success ∧ .event .shutdownComplete ∈ actions := by
  have serving := serving_of_run run
  refine ⟨serving.unthrown, fun id => ⟨Channels.outcomes_length_le _ id,
    Channels.outcomes_length_le _ id, Channels.outcomes_length_le _ id⟩, ?_, ?_,
    shutdown_outcome run⟩
  · intro complete
    have down := serving.down complete
    have connects : world.ctx.conn.channels.AnsweredBut none :=
      serving.connect.all_answered down.connect
    have accepts : world.ctx.accept.channels.AnsweredBut none := by
      apply serving.accepting.sound.all_answered
      simp only [AcceptPart.slot, acceptPart, down.accept, down.returned,
        StreamStarted.sending, Bool.or_false]
    have shutdowns : world.ctx.shutdown.channels.AnsweredBut none :=
      serving.shutdown.all_answered down.shutdown
    refine ⟨fun id inside => ?_, fun id inside => ?_, fun id inside => ?_⟩
    · exact connects.outcome inside (by simp)
    · exact accepts.outcome inside (by simp)
    · exact shutdowns.outcome inside (by simp)
  · intro early action inside
    have before := run.of_prefix ((List.prefix_append _ _).trans inside)
    exact (serving_of_run before).outcomes (run.allowed_at inside)

/-- A server connection that is connected, accepts a stream while the callback
is between its statements, and is shut down with an accept still waiting. -/
def servedLife : List ConnectionAction :=
  [.connect, .connectInitiate, .event .connected, .connectHandler .success,
    .event (.peerStreamStarted 7), .accept, .streamStarted .acquire,
    .acceptInitiate, .shutdown, .streamStarted .assertAccept,
    .streamStarted .clearAccept, .streamStarted .setCallback,
    .streamStarted .send, .acceptHandler .success, .accept, .shutdownInitiate,
    .event .shutdownInitiatedByPeer, .event .shutdownComplete, .acceptInitiate,
    .connect]

theorem server_complete_exactly_once_servedLife :
    ((connectionMachine .reference).exec servedLife).threw = false ∧
      ∃ message, ((connectionMachine .reference).exec
        servedLife).ctx.accept.channels.outcomes 1 = [message] := by
  obtain ⟨unthrown, _, completed, _⟩ :=
    server_complete_exactly_once (O := .reference)
      (Machine.run_of_checks servedLife (by decide))
  exact ⟨unthrown, (completed (by decide)).2.1 1 (by decide)⟩

end ConnectionWorld

end MsquicAsio
