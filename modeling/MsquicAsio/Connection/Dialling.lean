/-
A client connection with all of its operations.

`async_accept` and `async_shutdown` work as on a server connection.  In the
place of `async_connect` there is `async_start`, which takes no lock: its call
may fail and be repeated, and once msquic has accepted it only CONNECTED answers
it.  The events of the connection begin with that acceptance.
-/
import MsquicAsio.Connection.Client
import MsquicAsio.Connection.Completion

set_option autoImplicit false

namespace MsquicAsio

variable {O : Oneshot}

def ConnectionAction.isStartCall : ConnectionAction → Bool
  | .start (.create _) => true
  | _ => false

namespace ConnectionWorld

/-- A client connection: `async_connect` is not called, an operation is called
again only after its handler was invoked, `async_start` not after msquic has
accepted one.  Events come after that acceptance, CONNECTED only as long as it
is owed, no stream after a shutdown event, and SHUTDOWN_COMPLETE is the last. -/
def dialling : Environment (ConnectionWorld O) ConnectionAction :=
  fun actions world action =>
    acceptOrder actions world action ∧
      (action = .shutdown → world.shutdown = .idle) ∧
      action ≠ .connect ∧
      (action.isStartCall = true →
        actions.any ConnectionAction.accepted = false) ∧
      (action.isEvent = true →
        actions.any ConnectionAction.accepted = true ∧
          .event .shutdownComplete ∉ actions) ∧
      (action = .event .connected → world.startOwed = true)

instance (actions : List ConnectionAction) (world : ConnectionWorld O)
    (action : ConnectionAction) : Decidable (dialling actions world action) :=
  inferInstanceAs (Decidable (_ ∧ (_ → _) ∧ _ ∧ (_ → _) ∧ (_ → _) ∧ (_ → _)))

structure HungUp (world : ConnectionWorld O) : Prop where
  accept : world.ctx.pending.accept = false
  shutdown : world.ctx.pending.shutdown = false
  returned : world.callback = .returned

structure Dialling (actions : List ConnectionAction)
    (world : ConnectionWorld O) : Prop where
  accepting : world.acceptPart.Accepting (startedStreams actions)
    (shutDown actions)
  start : world.startSlot.Sound world.startOwed
  shutdown : world.shutdownSlot.Sound
  client : world.ctx.pending.serverConnect = false
  unconnected : world.connect = .idle
  unthrown : world.threw = false
  called : actions.any ConnectionAction.accepted = true →
    world.start.calling = none
  complete_iff : world.ctx.state = .shutdownComplete ↔
    .event .shutdownComplete ∈ actions
  down : .event .shutdownComplete ∈ actions → world.HungUp

namespace Dialling

variable {actions : List ConnectionAction} {world : ConnectionWorld O}

theorem guarded (dials : world.Dialling actions) : world.ctx.Guarded where
  start := fun raised => dials.start.live raised
  connect := by
    intro raised
    rw [dials.client] at raised
    cases raised
  oneMode := fun _ => dials.client
  accept := by
    intro raised
    apply dials.accepting.sound.settles.live
    simp only [AcceptPart.slot, acceptPart, raised, Bool.true_or]
  shutdown := fun raised => dials.shutdown.settles.live raised

/-! ### What the steps leave alone -/

structure Aside (world after : ConnectionWorld O) : Prop where
  startSlot : after.startSlot = world.startSlot
  startOwed : after.startOwed = world.startOwed
  client : after.ctx.pending.serverConnect = world.ctx.pending.serverConnect
  connect : after.connect = world.connect
  state : after.ctx.state = world.ctx.state
  threw : after.threw = world.threw

theorem aside (dials : world.Dialling actions) {action : ConnectionAction}
    (allowed : dialling actions world action) (notStart : action.isStart = false)
    (notEvent : action.isEvent = false) : Aside world (world.step action) := by
  have enabled := allowed.1.1
  have unconnected := dials.unconnected
  simp only [ConnectionWorld.enabled, Bool.and_eq_true] at enabled
  cases action with
  | start => cases notStart
  | event => cases notEvent
  | streamStarted statement =>
      cases world.running_of_enabled enabled.2 with
      | send stream place =>
          obtain ⟨id, _, txAt, live⟩ := dials.accepting.send_live place
          have sent := world.ctx.accept.send_of_live
            (.success, .assign stream) ⟨id, txAt, live⟩
          simp only [ConnectionWorld.step, streamStarted, place, sent]
          exact ⟨rfl, rfl, rfl, rfl, rfl, rfl⟩
      | acquire stream place | assertAccept stream place
      | clearAccept stream place | setCallback stream place =>
          simp only [ConnectionWorld.step, streamStarted, place]
          exact ⟨rfl, rfl, rfl, rfl, rfl, rfl⟩
  | connect => exact absurd rfl allowed.2.2.1
  | connectInitiate =>
      rw [unconnected] at enabled
      exact absurd enabled.2 (by simp)
  | connectHandler ec =>
      simp only [LockedSlot.completes, connectSlot, unconnected,
        Bool.false_eq_true, and_false] at enabled
  | accept =>
      rw [step_accept]
      exact ⟨rfl, rfl, rfl, rfl, rfl, rfl⟩
  | shutdown =>
      rw [step_shutdown]
      exact ⟨rfl, rfl, rfl, rfl, rfl, rfl⟩
  | acceptInitiate =>
      obtain ⟨op, initiated, _⟩ := dials.accepting.initiated enabled.2
      have ran : world.acceptSlot.initiate =
          some { world.acceptSlot with op := op } := initiated
      simp only [ConnectionWorld.step, ran]
      exact ⟨rfl, rfl, rfl, rfl, rfl, rfl⟩
  | acceptHandler ec =>
      obtain ⟨message, handled, _⟩ := dials.accepting.handled enabled.2
      have ran : world.acceptSlot.handler ec =
          some ({ world.acceptSlot with op := .idle }, some message) := handled
      simp only [ConnectionWorld.step, ran]
      exact ⟨rfl, rfl, rfl, rfl, rfl, rfl⟩
  | shutdownInitiate =>
      obtain ⟨op, initiated, _⟩ := dials.shutdown.initiate enabled.2
      simp only [ConnectionWorld.step, initiated]
      exact ⟨rfl, rfl, rfl, rfl, rfl, rfl⟩
  | shutdownHandler ec =>
      obtain ⟨id, message, _, _, handled, _⟩ :=
        dials.shutdown.handler enabled.2
      simp only [ConnectionWorld.step, handled]
      exact ⟨rfl, rfl, rfl, rfl, rfl, rfl⟩

/-- An event, a statement of `async_start`, or a step that leaves both alone. -/
inductive Kind (world : ConnectionWorld O) : ConnectionAction → Prop
  | event (event : ConnectionEvent) : Kind world (.event event)
  | start (statement : UnlockedStep) : Kind world (.start statement)
  | aside (action : ConnectionAction) (notStart : action.isStart = false)
      (notEvent : action.isEvent = false)
      (same : Aside world (world.step action)) : Kind world action

theorem kind (dials : world.Dialling actions) {action : ConnectionAction}
    (allowed : dialling actions world action) : Kind world action := by
  cases action with
  | event event => exact .event event
  | start statement => exact .start statement
  | streamStarted | connect | accept | shutdown | connectInitiate
  | connectHandler | acceptInitiate | acceptHandler | shutdownInitiate
  | shutdownHandler => exact .aside _ rfl rfl (dials.aside allowed rfl rfl)

theorem started (dials : world.Dialling actions) {statement : UnlockedStep}
    (allowed : dialling actions world (.start statement)) :
    ∃ slot, world.startSlot.enabled statement = true ∧
      world.startSlot.step statement = some slot ∧
      slot.Sound (world.startOwed || statement.accepted) ∧
      world.step (.start statement) =
        { world with
          ctx := { world.ctx with
            pending := { world.ctx.pending with clientStart := slot.pending }
            conn := slot.port
            failed := world.ctx.failed ++
              violated .asyncStartUnset (world.startSlot.assertion statement) }
          start := slot.op
          startOwed := world.startOwed || statement.accepted } := by
  have enabled := allowed.1.1
  simp only [ConnectionWorld.enabled, Bool.and_eq_true] at enabled
  obtain ⟨slot, stepped, sound⟩ := dials.start.step enabled.2
  refine ⟨slot, enabled.2, stepped, sound, ?_⟩
  simp only [ConnectionWorld.step, asyncStart, stepped]

theorem accepts_nothing (dials : world.Dialling actions)
    (accepted : actions.any ConnectionAction.accepted = true)
    {statement : UnlockedStep}
    (enabled : world.startSlot.enabled statement = true) :
    statement.accepted = false := by
  have returned : world.startSlot.op.calling = none := dials.called accepted
  have makes := UnlockedSlot.makes_of_enabled enabled
  generalize world.startSlot = slot at makes returned
  generalize slot.step statement = result at makes
  cases makes with
  | fails | accepts => cases returned
  | create | assignTx | assignRx | raise | lower | sendFailure | initiate
  | invoke => rfl

/-! ### One step -/

theorem start_event (dials : world.Dialling actions) {event : ConnectionEvent}
    (allowed : dialling actions world (.event event)) :
    event = .connected ∧ world.startOwed = true ∧
        (world.step (.event event)).startOwed = false ∧
        (world.step (.event event)).startSlot =
          { world.startSlot with
            pending := false
            port := world.startSlot.port.afterSend .success } ∨
      event ≠ .connected ∧
        (world.step (.event event)).startOwed = world.startOwed ∧
        (world.step (.event event)).startSlot = world.startSlot := by
  have client := dials.client
  rw [world.step_event event dials.guarded]
  cases event with
  | connected =>
      have owed := allowed.2.2.2.2.2 rfl
      have sound := dials.start
      rw [owed] at sound
      have raised : world.ctx.pending.clientStart = true :=
        sound.flag sound.calling_of_owed
      refine Or.inl ⟨rfl, owed, Bool.and_false _, ?_⟩
      simp only [AsioServerConnectionCtx.after,
        AsioServerConnectionCtx.afterConnected, startSlot, raised,
        Bool.true_or, Port.settle, if_true]
  | shutdownInitiatedByTransport | shutdownInitiatedByPeer
  | shutdownComplete | peerStreamStarted | resumed | resumptionTicketReceived
  | other =>
      refine Or.inr ⟨by simp, Bool.and_true _, ?_⟩
      simp only [AsioServerConnectionCtx.after,
        AsioServerConnectionCtx.afterCancel,
        AsioServerConnectionCtx.afterShutdownComplete, startSlot, client,
        Port.settle, Bool.false_eq_true, if_false]

private theorem start_step (dials : world.Dialling actions)
    {action : ConnectionAction} (allowed : dialling actions world action) :
    (world.step action).startSlot.Sound (world.step action).startOwed := by
  cases dials.kind allowed with
  | event event =>
      have sound := dials.start
      rcases dials.start_event allowed with
        ⟨rfl, owed, answered, same⟩ | ⟨_, owed, same⟩
      · rw [owed] at sound
        rw [same, answered]
        exact (sound.settle .success).2
      · rw [same, owed]
        exact sound
  | start statement =>
      obtain ⟨slot, _, _, sound, same⟩ := dials.started allowed
      rw [same]
      exact sound
  | aside action notStart notEvent same =>
      rw [same.startSlot, same.startOwed]
      exact dials.start

private theorem shutdown_step (dials : world.Dialling actions)
    {action : ConnectionAction} (allowed : dialling actions world action) :
    (world.step action).shutdownSlot.Sound := by
  have sound := dials.shutdown
  have enabled := allowed.1.1
  simp only [ConnectionWorld.enabled, Bool.and_eq_true] at enabled
  cases action with
  | event event =>
      rw [world.shutdownSlot_event event dials.guarded]
      exact sound.settled _
  | start statement =>
      obtain ⟨slot, _, _, _, same⟩ := dials.started allowed
      rw [same]
      exact sound
  | shutdown =>
      have lowered := sound.lowered_of_idle (allowed.2.1 rfl)
      rw [world.shutdownSlot_shutdown lowered]
      exact sound.called lowered _
  | shutdownInitiate =>
      obtain ⟨op, initiated, after, _⟩ := sound.initiate enabled.2
      simp only [ConnectionWorld.step, initiated]
      exact after
  | shutdownHandler ec =>
      obtain ⟨id, message, _, _, handled, after⟩ := sound.handler enabled.2
      simp only [ConnectionWorld.step, handled]
      exact after
  | streamStarted | connect | accept | connectInitiate | connectHandler
  | acceptInitiate | acceptHandler =>
      rw [Serving.shutdownSlot_other _ rfl rfl (by simp) (by simp) (by simp)]
      exact sound

private theorem quiet_step (dials : world.Dialling actions)
    {action : ConnectionAction} (allowed : dialling actions world action) :
    (world.step action).ctx.pending.serverConnect = false ∧
      (world.step action).connect = .idle ∧
      (world.step action).threw = false := by
  have client := dials.client
  have unconnected := dials.unconnected
  have unthrown := dials.unthrown
  cases dials.kind allowed with
  | event event =>
      rw [world.step_event event dials.guarded]
      refine ⟨?_, unconnected, unthrown⟩
      cases event <;> first | rfl | exact client
  | start statement =>
      obtain ⟨slot, _, _, _, same⟩ := dials.started allowed
      rw [same]
      exact ⟨client, unconnected, unthrown⟩
  | aside action notStart notEvent same =>
      exact ⟨same.client.trans client, same.connect.trans unconnected,
        same.threw.trans unthrown⟩

private theorem called_step (dials : world.Dialling actions)
    {action : ConnectionAction} (allowed : dialling actions world action)
    (accepted : (actions ++ [action]).any ConnectionAction.accepted = true) :
    (world.step action).start.calling = none := by
  simp only [List.any_append, List.any_cons, List.any_nil, Bool.or_false,
    Bool.or_eq_true] at accepted
  cases dials.kind allowed with
  | event event =>
      rw [world.step_event event dials.guarded]
      rcases accepted with before | now
      · exact dials.called before
      · cases now
  | start statement =>
      obtain ⟨slot, enabled, stepped, sound, same⟩ := dials.started allowed
      rw [same]
      rcases accepted with before | now
      · apply UnlockedSlot.calling_step stepped enabled (dials.called before)
        rintro buffers rfl
        have none_yet := allowed.2.2.2.1 rfl
        rw [before] at none_yet
        cases none_yet
      · have accepts : statement.accepted = true := now
        rw [accepts, Bool.or_true] at sound
        exact sound.calling_of_owed
  | aside action notStart notEvent same =>
      have sameOp : (world.step action).start = world.start :=
        congrArg UnlockedSlot.op same.startSlot
      rw [sameOp]
      rcases accepted with before | now
      · exact dials.called before
      · cases action <;> first | cases now | cases notStart

private theorem complete_iff_step (dials : world.Dialling actions)
    {action : ConnectionAction} (allowed : dialling actions world action) :
    (world.step action).ctx.state = .shutdownComplete ↔
      .event .shutdownComplete ∈ actions ++ [action] := by
  have complete_iff := dials.complete_iff
  cases dials.kind allowed with
  | event event =>
      have notYet := (allowed.2.2.2.2.1 rfl).2
      have notDown : world.ctx.state ≠ .shutdownComplete :=
        fun state => notYet (complete_iff.mp state)
      rw [world.step_event event dials.guarded, List.mem_append,
        List.mem_singleton]
      simp only [notYet, false_or]
      cases event <;>
        simp [AsioServerConnectionCtx.after,
          AsioServerConnectionCtx.afterConnected,
          AsioServerConnectionCtx.afterCancel,
          AsioServerConnectionCtx.afterShutdownComplete, notDown]
  | start statement =>
      obtain ⟨slot, _, _, _, same⟩ := dials.started allowed
      rw [same, mem_append_other (by simp)]
      exact complete_iff
  | aside action notStart notEvent same =>
      have other : action ≠ .event .shutdownComplete := by
        rintro rfl
        cases notEvent
      rw [same.state, mem_append_other other]
      exact complete_iff

private theorem hungUp_kept (dials : world.Dialling actions)
    {action : ConnectionAction} (allowed : dialling actions world action)
    (complete : .event .shutdownComplete ∈ actions) :
    (world.step action).HungUp := by
  obtain ⟨accept, shutdown, returned⟩ := dials.down complete
  have state := dials.complete_iff.mpr complete
  have enabled := allowed.1.1
  simp only [ConnectionWorld.enabled, Bool.and_eq_true] at enabled
  cases action with
  | event event => exact absurd complete (allowed.2.2.2.2.1 rfl).2
  | start statement =>
      obtain ⟨slot, _, _, _, same⟩ := dials.started allowed
      rw [same]
      exact ⟨accept, shutdown, returned⟩
  | streamStarted statement =>
      cases world.running_of_enabled enabled.2 with
      | acquire stream place | assertAccept stream place
      | clearAccept stream place | setCallback stream place
      | send stream place =>
          rw [returned] at place
          cases place
  | connect => exact absurd rfl allowed.2.2.1
  | accept =>
      simp only [step_accept, AsioServerConnectionCtx.afterAccept, state,
        accept]
      exact ⟨rfl, shutdown, returned⟩
  | shutdown =>
      simp only [step_shutdown, AsioServerConnectionCtx.afterShutdown, state,
        shutdown]
      exact ⟨accept, rfl, returned⟩
  | connectInitiate | connectHandler | acceptInitiate | acceptHandler
  | shutdownInitiate | shutdownHandler =>
      simp only [ConnectionWorld.step]
      split <;> exact ⟨accept, shutdown, returned⟩

private theorem down_step (dials : world.Dialling actions)
    {action : ConnectionAction} (allowed : dialling actions world action)
    (complete : .event .shutdownComplete ∈ actions ++ [action]) :
    (world.step action).HungUp := by
  rcases List.mem_append.mp complete with earlier | now
  · exact dials.hungUp_kept allowed earlier
  · obtain rfl := List.mem_singleton.mp now
    have returned := world.returned_of_event allowed.1.1
    rw [world.step_event .shutdownComplete dials.guarded]
    exact ⟨rfl, rfl, returned⟩

theorem step (dials : world.Dialling actions) {action : ConnectionAction}
    (allowed : dialling actions world action) :
    (world.step action).Dialling (actions ++ [action]) where
  accepting := accepting_step dials.accepting allowed.1
  start := dials.start_step allowed
  shutdown := dials.shutdown_step allowed
  client := (dials.quiet_step allowed).1
  unconnected := (dials.quiet_step allowed).2.1
  unthrown := (dials.quiet_step allowed).2.2
  called := dials.called_step allowed
  complete_iff := dials.complete_iff_step allowed
  down := dials.down_step allowed

end Dialling

private theorem dialling_initial :
    (initial : ConnectionWorld O).Dialling [] where
  accepting := accepting_initial
  start := ⟨rfl, rfl⟩
  shutdown := LockedSlot.Sound.initial
  client := rfl
  unconnected := rfl
  unthrown := rfl
  called := by intro impossible; cases impossible
  complete_iff := by simp [initial, AsioServerConnectionCtx.initial]
  down := by intro impossible; cases impossible

theorem dialling_of_run {actions : List ConnectionAction}
    {world : ConnectionWorld O}
    (run : (connectionMachine O).Run dialling actions world) :
    world.Dialling actions := by
  apply run.invariant (fun actions world => world.Dialling actions)
    dialling_initial
  intro actions world action _ dials allowed
  exact dials.step allowed

end ConnectionWorld

end MsquicAsio
