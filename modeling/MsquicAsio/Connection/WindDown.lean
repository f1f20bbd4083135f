/-
A server connection that msquic tears down comes to rest, unless its callback
is stuck.

SHUTDOWN_COMPLETE answers whoever still waits, but msquic can deliver it only
when the callback in progress has returned.  A PEER_STREAM_STARTED callback
without a permit never does so by itself: only a further `async_accept` lets it
go on, and then nothing is in the way any more.
-/
import MsquicAsio.Lib.Progress
import MsquicAsio.Remaining
import MsquicAsio.Connection.Completion

set_option autoImplicit false

namespace MsquicAsio

variable {O : Oneshot}

/-- The action asks for nothing new: it is a statement of the callback or of a
call in progress, or the event that ends all of them. -/
def ConnectionAction.winds : ConnectionAction → Bool
  | .event .shutdownComplete => true
  | .streamStarted _ => true
  | .connectInitiate => true
  | .connectHandler _ => true
  | .acceptInitiate => true
  | .acceptHandler _ => true
  | .shutdownInitiate => true
  | .shutdownHandler _ => true
  | _ => false

def StreamStarted.remaining : StreamStarted → Nat
  | .returned => 0
  | .acquiring _ => 5
  | .acquired _ => 4
  | .asserted _ => 3
  | .cleared _ => 2
  | .registered _ => 1

namespace ConnectionWorld

/-- The callback waits for a permit, and there is none. -/
def Blocked (world : ConnectionWorld O) : Prop :=
  (∃ stream, world.callback = .acquiring stream) ∧ world.ctx.acceptBs = 0

instance (world : ConnectionWorld O) : Decidable world.Blocked :=
  decidable_of_iff
    ((world.callback matches .acquiring _) ∧ world.ctx.acceptBs = 0)
    (and_congr_left' (by cases world.callback <;> simp))

/-- The connection is down, its callback has returned, and the handler of every
call was invoked. -/
structure AtRest (world : ConnectionWorld O) : Prop where
  down : world.ctx.state = .shutdownComplete
  callback : world.callback = .returned
  connect : world.connect = .idle
  accept : world.accept = .idle
  shutdown : world.shutdown = .idle

def stillUp (actions : List ConnectionAction) : Nat :=
  (!actions.contains (.event .shutdownComplete)).toNat

theorem stillUp_other {action : ConnectionAction}
    (different : action ≠ .event .shutdownComplete)
    (actions : List ConnectionAction) :
    stillUp (actions ++ [action]) = stillUp actions := by
  simp only [stillUp, List.contains_eq_mem, List.mem_append,
    List.mem_singleton, different.symm, or_false]

private theorem stillUp_shutdownComplete (actions : List ConnectionAction) :
    stillUp (actions ++ [.event .shutdownComplete]) = 0 := by
  simp only [stillUp, List.contains_eq_mem, List.mem_append,
    List.mem_singleton, or_true, decide_true, Bool.not_true, Bool.toNat_false]

def remaining (actions : List ConnectionAction) (world : ConnectionWorld O) :
    Nat :=
  world.callback.remaining + world.connect.remaining + world.accept.remaining +
    world.shutdown.remaining + stillUp actions

/-- The contracts of the operations that a server and a client share.
`async_connect`, which a client never calls, shares its port with
`async_start`. -/
structure Steady (actions : List ConnectionAction)
    (world : ConnectionWorld O) : Prop where
  accepting : world.acceptPart.Accepting (startedStreams actions)
    (shutDown actions)
  connect : world.connect = .idle ∨ world.connectSlot.Sound
  shutdown : world.shutdownSlot.Sound
  unthrown : world.threw = false

def Still (world : ConnectionWorld O) : Prop :=
  ∀ action : ConnectionAction, action.winds = true → action.isEvent = false →
    world.enabled action ≠ true

namespace Steady

variable {actions : List ConnectionAction} {world : ConnectionWorld O}

private theorem connecting (steady : world.Steady actions)
    (busy : world.connect ≠ .idle) : world.connectSlot.Sound :=
  steady.connect.resolve_left busy

theorem remaining_statement (steady : world.Steady actions)
    {action : ConnectionAction} (winds : action.winds = true)
    (notEvent : action.isEvent = false) (inOrder : world.enabled action = true) :
    (world.step action).remaining (actions ++ [action]) <
      world.remaining actions := by
  have other : action ≠ .event .shutdownComplete := by
    rintro rfl
    cases notEvent
  simp only [ConnectionWorld.enabled, Bool.and_eq_true] at inOrder
  rw [remaining, stillUp_other other]
  cases action with
  | start | connect | accept | shutdown => cases winds
  | event => cases notEvent
  | streamStarted statement =>
      cases world.running_of_enabled inOrder.2 with
      | acquire stream place | assertAccept stream place
      | clearAccept stream place | setCallback stream place =>
          simp only [remaining, ConnectionWorld.step, streamStarted, place,
            StreamStarted.remaining]
          omega
      | send stream place =>
          -- its sender is live, so the callback returns here
          obtain ⟨id, _, txAt, live⟩ := steady.accepting.send_live place
          have sent := world.ctx.accept.send_of_live
            (.success, .assign stream) ⟨id, txAt, live⟩
          simp only [remaining, ConnectionWorld.step, streamStarted, place,
            sent, StreamStarted.remaining]
          omega
  | connectInitiate =>
      -- in a client this operation is idle and has no step
      have sound := steady.connecting (by
        intro idle
        rw [idle] at inOrder
        exact absurd inOrder.2 (by simp))
      obtain ⟨op, initiated, _⟩ := sound.initiate inOrder.2
      have lower := LockedSlot.remaining_initiate inOrder.2 initiated
      change op.remaining < world.connect.remaining at lower
      simp only [remaining, ConnectionWorld.step, initiated]
      omega
  | connectHandler ec =>
      have sound := steady.connecting (by
        intro idle
        simp only [LockedSlot.completes, connectSlot, idle,
          Bool.false_eq_true, and_false] at inOrder)
      obtain ⟨id, message, _, _, handled, _⟩ := sound.handler inOrder.2
      have lower := LockedSlot.remaining_handler inOrder.2
      change _ < world.connect.remaining at lower
      simp only [remaining, ConnectionWorld.step, handled]
      omega
  | acceptInitiate =>
      obtain ⟨op, initiated, _⟩ := steady.accepting.initiated inOrder.2
      have ran : world.acceptSlot.initiate =
          some { world.acceptSlot with op := op } := initiated
      have lower := LockedSlot.remaining_initiate inOrder.2 ran
      change op.remaining < world.accept.remaining at lower
      simp only [remaining, ConnectionWorld.step, ran]
      omega
  | acceptHandler ec =>
      obtain ⟨message, handled, _⟩ := steady.accepting.handled inOrder.2
      have ran : world.acceptSlot.handler ec =
          some ({ world.acceptSlot with op := .idle }, some message) := handled
      have lower := LockedSlot.remaining_handler inOrder.2
      change _ < world.accept.remaining at lower
      simp only [remaining, ConnectionWorld.step, ran]
      omega
  | shutdownInitiate =>
      obtain ⟨op, initiated, _⟩ := steady.shutdown.initiate inOrder.2
      have lower := LockedSlot.remaining_initiate inOrder.2 initiated
      change op.remaining < world.shutdown.remaining at lower
      simp only [remaining, ConnectionWorld.step, initiated]
      omega
  | shutdownHandler ec =>
      obtain ⟨id, message, _, _, handled, _⟩ :=
        steady.shutdown.handler inOrder.2
      have lower := LockedSlot.remaining_handler inOrder.2
      change _ < world.shutdown.remaining at lower
      simp only [remaining, ConnectionWorld.step, handled]
      omega

private theorem callback_frontEnd (world : ConnectionWorld O)
    {action : ConnectionAction} (winds : action.winds = true)
    (notEvent : action.isEvent = false)
    (notStatement : ∀ statement, action ≠ .streamStarted statement) :
    (world.step action).callback = world.callback ∧
      (world.step action).ctx.acceptBs = world.ctx.acceptBs := by
  cases action with
  | start | connect | accept | shutdown => cases winds
  | event => cases notEvent
  | streamStarted statement => exact absurd rfl (notStatement statement)
  | connectInitiate | connectHandler | acceptInitiate | acceptHandler
  | shutdownInitiate | shutdownHandler =>
      simp only [ConnectionWorld.step]
      split <;> exact ⟨rfl, rfl⟩

/-- Nothing but a further `async_accept` frees a blocked callback, and without
a further PEER_STREAM_STARTED none gets blocked. -/
theorem blocked_statement (steady : world.Steady actions)
    {action : ConnectionAction} (winds : action.winds = true)
    (notEvent : action.isEvent = false) (inOrder : world.enabled action = true) :
    (world.step action).Blocked ↔ world.Blocked := by
  simp only [ConnectionWorld.enabled, Bool.and_eq_true] at inOrder
  by_cases isStatement : ∃ statement, action = .streamStarted statement
  · obtain ⟨statement, rfl⟩ := isStatement
    constructor
    · rintro ⟨⟨stream, place⟩, _⟩
      simp only [ConnectionWorld.step, streamStarted] at place
      cases world.running_of_enabled inOrder.2 with
      | acquire stream at_ _ | assertAccept stream at_
      | clearAccept stream at_ | setCallback stream at_ =>
          simp only [at_, reduceCtorEq] at place
      | send stream at_ =>
          obtain ⟨id, _, txAt, live⟩ := steady.accepting.send_live at_
          have sent := world.ctx.accept.send_of_live
            (.success, .assign stream) ⟨id, txAt, live⟩
          simp only [at_, sent, reduceCtorEq] at place
    · rintro ⟨⟨stream, place⟩, noPermit⟩
      cases world.running_of_enabled inOrder.2 with
      | acquire other _ permit =>
          rw [noPermit] at permit
          exact absurd permit (Nat.lt_irrefl 0)
      | assertAccept other at_ | clearAccept other at_
      | setCallback other at_ | send other at_ =>
          rw [place] at at_
          cases at_
  · obtain ⟨callback, acceptBs⟩ := callback_frontEnd world winds notEvent
      (fun statement same => isStatement ⟨statement, same⟩)
    simp only [Blocked, callback, acceptBs]

theorem returned_of_still (steady : world.Steady actions) (still : world.Still)
    (free : ¬world.Blocked) : world.callback = .returned := by
  have stops : ∀ statement, world.streamStartedEnabled statement = false := by
    intro statement
    apply Bool.eq_false_iff.mpr
    intro enabled
    apply still (.streamStarted statement) rfl rfl
    simp only [ConnectionWorld.enabled, steady.unthrown, enabled,
      Bool.not_false, Bool.and_true]
  cases place : world.callback with
  | returned => rfl
  | acquiring stream =>
      have noPermit := stops .acquire
      simp only [streamStartedEnabled, place, decide_eq_false_iff_not] at noPermit
      exact absurd ⟨⟨stream, place⟩, Nat.eq_zero_of_not_pos noPermit⟩ free
  | acquired stream =>
      have stuck := stops .assertAccept
      simp only [streamStartedEnabled, place, Bool.true_eq_false] at stuck
  | asserted stream =>
      have stuck := stops .clearAccept
      simp only [streamStartedEnabled, place, Bool.true_eq_false] at stuck
  | cleared stream =>
      have stuck := stops .setCallback
      simp only [streamStartedEnabled, place, Bool.true_eq_false] at stuck
  | registered stream =>
      have stuck := stops .send
      simp only [streamStartedEnabled, place, Bool.true_eq_false] at stuck

private theorem idle_of_still {Message : Type} (steady : world.Steady actions)
    (still : world.Still)
    (slot : LockedSlot O Message) (initiate handler : ConnectionAction)
    (sound : slot.Sound) (lowered : slot.pending = false)
    (initiates : initiate.winds = true ∧ initiate.isEvent = false ∧
      world.enabled initiate = (!world.threw && (slot.op matches .ready _)))
    (handles : handler.winds = true ∧ handler.isEvent = false ∧
      world.enabled handler = (!world.threw && slot.completes .success)) :
    slot.op = .idle := by
  by_contra busy
  rcases sound.goesOn lowered busy with ready | ends
  · apply still initiate initiates.1 initiates.2.1
    rw [initiates.2.2, steady.unthrown, Bool.not_false, Bool.true_and]
    exact ready
  · apply still handler handles.1 handles.2.1
    rw [handles.2.2, steady.unthrown, ends]
    rfl

theorem atRest_of_still (steady : world.Steady actions) (still : world.Still)
    (down : world.ctx.state = .shutdownComplete)
    (returned : world.callback = .returned)
    (connect : world.ctx.pending.serverConnect = false)
    (accept : world.ctx.pending.accept = false)
    (shutdown : world.ctx.pending.shutdown = false) : world.AtRest := by
  have accepts : world.acceptSlot.pending = false := by
    simp only [acceptSlot, accept, returned, StreamStarted.sending,
      Bool.or_false]
  exact
    { down := down
      callback := returned
      connect := by
        rcases steady.connect with idle | sound
        · exact idle
        · exact steady.idle_of_still still world.connectSlot .connectInitiate
            (.connectHandler .success) sound connect ⟨rfl, rfl, rfl⟩
            ⟨rfl, rfl, rfl⟩
      accept := steady.idle_of_still still world.acceptSlot .acceptInitiate
        (.acceptHandler .success) steady.accepting.sound accepts
        ⟨rfl, rfl, rfl⟩ ⟨rfl, rfl, rfl⟩
      shutdown := steady.idle_of_still still world.shutdownSlot
        .shutdownInitiate (.shutdownHandler .success) steady.shutdown shutdown
        ⟨rfl, rfl, rfl⟩ ⟨rfl, rfl, rfl⟩ }

/-- A further `async_accept` lets a blocked callback go on. -/
theorem free_accept (steady : world.Steady actions)
    (complete : world.ctx.state = .shutdownComplete →
      .event .shutdownComplete ∈ actions) :
    ¬(world.step .accept).Blocked := by
  rintro ⟨⟨stream, place⟩, noPermit⟩
  rw [step_accept] at place noPermit
  have runs : world.callback = .acquiring stream := place
  have up := steady.accepting.running (by
    change world.callback ≠ .returned
    rw [runs]
    simp)
  have running : world.ctx.state ≠ .shutdownComplete :=
    fun state => not_complete_of_up up (complete state)
  simp only [AsioServerConnectionCtx.afterAccept, running, if_false,
    Nat.add_one_ne_zero] at noPermit

end Steady

theorem blocked_shutdownComplete {world : ConnectionWorld O}
    (guarded : world.ctx.Guarded)
    (enabled : world.enabled (.event .shutdownComplete) = true) :
    (world.step (.event .shutdownComplete)).Blocked ↔ world.Blocked := by
  have returned := world.returned_of_event enabled
  have after : (world.step (.event .shutdownComplete)).callback =
      .returned := by
    rw [world.step_event .shutdownComplete guarded]
    exact returned
  simp only [Blocked, returned, after, reduceCtorEq, exists_false, false_and]

theorem remaining_shutdownComplete {actions : List ConnectionAction}
    {world : ConnectionWorld O} (guarded : world.ctx.Guarded)
    (notYet : .event .shutdownComplete ∉ actions) :
    (world.step (.event .shutdownComplete)).remaining
        (actions ++ [.event .shutdownComplete]) <
      world.remaining actions := by
  have up : stillUp actions = 1 := by
    simp only [stillUp, List.contains_eq_mem, notYet, decide_false,
      Bool.not_false, Bool.toNat_true]
  rw [world.step_event .shutdownComplete guarded]
  simp only [remaining, up, stillUp_shutdownComplete]
  omega

namespace Serving

variable {actions : List ConnectionAction} {world : ConnectionWorld O}

private theorem steady
    (serving : world.Serving actions) : world.Steady actions where
  accepting := serving.accepting
  connect := Or.inr serving.connect
  shutdown := serving.shutdown
  unthrown := serving.unthrown

/-- Each statement, and SHUTDOWN_COMPLETE, brings the connection nearer to
rest, and none of them blocks or frees the callback. -/
theorem winds_step (serving : world.Serving actions)
    {action : ConnectionAction} (winds : action.winds = true)
    (allowed : serverContract actions world action) :
    (world.step action).remaining (actions ++ [action]) <
        world.remaining actions ∧
      ((world.step action).Blocked ↔ world.Blocked) := by
  have enabled := allowed.1.1
  cases kind : action.isEvent with
  | false =>
      exact ⟨serving.steady.remaining_statement winds kind enabled,
        serving.steady.blocked_statement winds kind enabled⟩
  | true =>
      obtain rfl : action = .event .shutdownComplete := by
        cases action with
        | event event =>
            cases event with
            | shutdownComplete => rfl
            | connected | shutdownInitiatedByTransport
            | shutdownInitiatedByPeer | peerStreamStarted | resumed
            | resumptionTicketReceived | other => cases winds
        | streamStarted | start | connect | accept | shutdown
        | connectInitiate | connectHandler | acceptInitiate | acceptHandler
        | shutdownInitiate | shutdownHandler => cases kind
      exact ⟨remaining_shutdownComplete serving.guarded
          (allowed.2.2.2.2 rfl),
        blocked_shutdownComplete serving.guarded enabled⟩

/-- The contract asks nothing more of a statement than program order. -/
private theorem still_of_quiet
    (quiet : Machine.Quiet serverContract ConnectionAction.winds actions
      world) : world.Still := by
  intro action winds notEvent enabled
  have allowed : serverContract actions world action := by
    cases action with
    | start | connect | accept | shutdown => cases winds
    | event => cases notEvent
    | streamStarted | connectInitiate | connectHandler | acceptInitiate
    | acceptHandler | shutdownInitiate | shutdownHandler =>
        exact ⟨⟨enabled, by simp, fun some => absurd rfl some⟩, by simp,
          by simp, rfl, fun event => absurd event Bool.false_ne_true⟩
  exact quiet action winds allowed

private theorem complete_of_quiet (serving : world.Serving actions)
    (quiet : Machine.Quiet serverContract ConnectionAction.winds actions world)
    (returned : world.callback = .returned) :
    .event .shutdownComplete ∈ actions := by
  by_contra up
  refine quiet (.event .shutdownComplete) rfl
    ⟨⟨?_, by simp, fun some => absurd rfl some⟩, by simp, by simp, rfl,
      fun _ => up⟩
  simp only [ConnectionWorld.enabled, serving.unthrown, returned,
    Bool.not_false, Bool.and_true]

theorem atRest_of_quiet (serving : world.Serving actions)
    (quiet : Machine.Quiet serverContract ConnectionAction.winds actions world)
    (free : ¬world.Blocked) : world.AtRest := by
  have still := still_of_quiet quiet
  have returned := serving.steady.returned_of_still still free
  have complete := serving.complete_of_quiet quiet returned
  have down := serving.down complete
  exact serving.steady.atRest_of_still still
    (serving.complete_iff.mpr complete) returned down.connect down.accept
    down.shutdown

end Serving

variable {actions : List ConnectionAction} {world : ConnectionWorld O}

/-- A callback that is not blocked is in nobody's way. -/
private theorem inevitable_of_free
    (run : (connectionMachine O).Run serverContract actions world)
    (free : ¬world.Blocked) :
    (connectionMachine O).Inevitable serverContract ConnectionAction.winds
      AtRest actions := by
  apply run.inevitable
    (fun actions world => world.Serving actions ∧ ¬world.Blocked) remaining
    ⟨serving_of_run run, free⟩
  · intro actions world action _ ⟨serving, free⟩ winds allowed
    obtain ⟨lower, blocked⟩ := serving.winds_step winds allowed
    exact ⟨⟨serving.step allowed, fun after => free (blocked.mp after)⟩, lower⟩
  · intro actions world _ ⟨serving, free⟩ quiet
    exact serving.atRest_of_quiet quiet free

/-- In every order of the outstanding statements and of SHUTDOWN_COMPLETE the
connection comes to rest, exactly if its callback is not blocked; and a blocked
one needs no more than the next `async_accept`. -/
theorem winds_down_iff
    (run : (connectionMachine O).Run serverContract actions world) :
    ((connectionMachine O).Inevitable serverContract ConnectionAction.winds
        AtRest actions ↔ ¬world.Blocked) ∧
      (serverContract actions world .accept →
        (connectionMachine O).Inevitable serverContract ConnectionAction.winds
          AtRest (actions ++ [.accept])) := by
  refine ⟨⟨?_, inevitable_of_free run⟩, ?_⟩
  · intro inevitable blocked
    refine Machine.not_inevitable
      (fun actions world => world.Serving actions ∧ world.Blocked) run
      ⟨serving_of_run run, blocked⟩ ?_ ?_ inevitable
    · intro actions world action _ ⟨serving, blocked⟩ winds allowed
      exact ⟨serving.step allowed,
        (serving.winds_step winds allowed).2.mpr blocked⟩
    · rintro actions world ⟨_, ⟨stream, place⟩, _⟩ atRest
      rw [atRest.callback] at place
      cases place
  · intro allowed
    have serving := serving_of_run run
    exact inevitable_of_free (.step run allowed)
      (serving.steady.free_accept serving.complete_iff.mp)

/-- A callback without a permit, while a shutdown waits. -/
def blockedLife : List ConnectionAction :=
  [.connect, .event .connected, .event (.peerStreamStarted 7), .shutdown,
    .connectInitiate]

theorem winds_down_iff_blockedLife :
    (connectionMachine .reference).Inevitable serverContract
      ConnectionAction.winds AtRest (blockedLife ++ [.accept]) :=
  (winds_down_iff (Machine.run_of_checks blockedLife (by decide))).2 (by decide)

end ConnectionWorld

end MsquicAsio
