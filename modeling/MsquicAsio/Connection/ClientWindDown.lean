/-
A client connection comes to rest once CONNECTED was delivered.

`async_start` has no other answer: SHUTDOWN_COMPLETE answers whoever waits in
`async_accept` and `async_shutdown`, but an accepted ConnectionStart that is
still owed its CONNECTED keeps its handler waiting for ever.  A callback without
a permit stands in the way as on a server connection.
-/
import MsquicAsio.Connection.Dialling
import MsquicAsio.Connection.WindDown

set_option autoImplicit false

namespace MsquicAsio

variable {O : Oneshot}

/-- The action asks for nothing new.  CONNECTED is not among them: msquic does
not deliver it to a connection whose handshake fails. -/
def ConnectionAction.dials : ConnectionAction → Bool
  | .start statement => statement.continues
  | action => action.winds

namespace ConnectionWorld

/-- The connection is down, its callback has returned, and the handler of every
call was invoked, `async_start` among them. -/
structure HungUpAtRest (world : ConnectionWorld O) : Prop where
  atRest : world.AtRest
  start : world.start = .idle

def toHangUp (actions : List ConnectionAction) (world : ConnectionWorld O) :
    Nat :=
  world.remaining actions + (world.start.remaining + world.startOwed.toNat)

namespace Dialling

variable {actions : List ConnectionAction} {world : ConnectionWorld O}

private theorem steady
    (dials : world.Dialling actions) : world.Steady actions where
  accepting := dials.accepting
  connect := Or.inl dials.unconnected
  shutdown := dials.shutdown
  unthrown := dials.unthrown

/-- A step that asks for nothing new brings the connection nearer to rest.  It
neither blocks nor frees the callback, and CONNECTED stays owed. -/
structure Nearer (actions : List ConnectionAction) (world : ConnectionWorld O)
    (action : ConnectionAction) : Prop where
  lower : (world.step action).toHangUp (actions ++ [action]) <
    world.toHangUp actions
  blocked : (world.step action).Blocked ↔ world.Blocked
  startOwed : (world.step action).startOwed = world.startOwed

private theorem nearer_start (dials : world.Dialling actions)
    (accepted : actions.any ConnectionAction.accepted = true)
    {statement : UnlockedStep} (continues : statement.continues = true)
    (allowed : dialling actions world (.start statement)) :
    Nearer actions world (.start statement) := by
  obtain ⟨slot, enabled, stepped, _, same⟩ := dials.started allowed
  have lower := UnlockedSlot.remaining_step world.startOwed enabled stepped
    continues
  change slot.op.remaining + _ < world.start.remaining + _ at lower
  have none_more := dials.accepts_nothing accepted enabled
  constructor
  · rw [same]
    simp only [toHangUp, remaining]
    rw [stillUp_other (by simp)]
    omega
  · rw [same]
    exact Iff.rfl
  · rw [same]
    simp only [none_more, Bool.or_false]

private theorem nearer_shutdownComplete (dials : world.Dialling actions)
    (allowed : dialling actions world (.event .shutdownComplete)) :
    Nearer actions world (.event .shutdownComplete) := by
  have notYet := (allowed.2.2.2.2.1 rfl).2
  have lower := remaining_shutdownComplete dials.guarded notYet
  have stepped := world.step_event .shutdownComplete dials.guarded
  constructor
  · have start : (world.step (.event .shutdownComplete)).start =
        world.start := by rw [stepped]
    have owed : (world.step (.event .shutdownComplete)).startOwed =
        world.startOwed := by
      rw [stepped]
      exact Bool.and_true _
    simp only [toHangUp, start, owed]
    omega
  · exact blocked_shutdownComplete dials.guarded allowed.1.1
  · rw [stepped]
    exact Bool.and_true _

private theorem nearer_aside (dials : world.Dialling actions)
    {action : ConnectionAction} (winds : action.winds = true)
    (notStart : action.isStart = false) (notEvent : action.isEvent = false)
    (allowed : dialling actions world action) :
    Nearer actions world action := by
  have enabled := allowed.1.1
  have same := dials.aside allowed notStart notEvent
  have lower := dials.steady.remaining_statement winds notEvent enabled
  have start : (world.step action).start = world.start :=
    congrArg UnlockedSlot.op same.startSlot
  constructor
  · simp only [toHangUp, start, same.startOwed]
    omega
  · exact dials.steady.blocked_statement winds notEvent enabled
  · exact same.startOwed

private theorem nearer (dials : world.Dialling actions)
    (accepted : actions.any ConnectionAction.accepted = true)
    {action : ConnectionAction} (own : action.dials = true)
    (allowed : dialling actions world action) :
    Nearer actions world action := by
  cases action with
  | start statement => exact dials.nearer_start accepted own allowed
  | connect | accept | shutdown => cases own
  | event event =>
      cases event with
      | shutdownComplete => exact dials.nearer_shutdownComplete allowed
      | connected | shutdownInitiatedByTransport | shutdownInitiatedByPeer
      | peerStreamStarted | resumed | resumptionTicketReceived | other =>
          cases own
  | streamStarted | connectInitiate | connectHandler | acceptInitiate
  | acceptHandler | shutdownInitiate | shutdownHandler =>
      exact dials.nearer_aside own rfl rfl allowed

/-! ### Where nothing can run -/

private theorem still_of_quiet
    (quiet : Machine.Quiet dialling ConnectionAction.dials actions world) :
    world.Still := by
  intro action winds notEvent enabled
  have allowed : dialling actions world action := by
    cases action with
    | start | connect | accept | shutdown => cases winds
    | event => cases notEvent
    | streamStarted | connectInitiate | connectHandler | acceptInitiate
    | acceptHandler | shutdownInitiate | shutdownHandler =>
        exact ⟨⟨enabled, by simp, fun some => absurd rfl some⟩, by simp,
          by simp, fun call => absurd call Bool.false_ne_true,
          fun event => absurd event Bool.false_ne_true, by simp⟩
  have own : action.dials = true := by
    cases action with
    | start | connect | accept | shutdown => cases winds
    | event => cases notEvent
    | streamStarted | connectInitiate | connectHandler | acceptInitiate
    | acceptHandler | shutdownInitiate | shutdownHandler => exact winds
  exact quiet action own allowed

private theorem complete_of_quiet (dials : world.Dialling actions)
    (accepted : actions.any ConnectionAction.accepted = true)
    (quiet : Machine.Quiet dialling ConnectionAction.dials actions world)
    (returned : world.callback = .returned) :
    .event .shutdownComplete ∈ actions := by
  by_contra up
  refine quiet (.event .shutdownComplete) rfl
    ⟨⟨?_, by simp, fun some => absurd rfl some⟩, by simp, by simp,
      fun call => absurd call Bool.false_ne_true, fun _ => ⟨accepted, up⟩,
      by simp⟩
  simp only [ConnectionWorld.enabled, dials.unthrown, returned,
    Bool.not_false, Bool.and_true]

private theorem started_of_quiet (dials : world.Dialling actions)
    (quiet : Machine.Quiet dialling ConnectionAction.dials actions world)
    (answered : world.startOwed = false) : world.start = .idle := by
  by_contra busy
  have sound := dials.start
  rw [answered] at sound
  obtain ⟨statement, continues, _, enabled⟩ := sound.goesOn busy
  have notCall : ConnectionAction.isStartCall (.start statement) = false := by
    cases statement with
    | create => cases continues
    | assignTx | assignRx | raise | call | lower | sendFailure | initiate
    | invoke => rfl
  refine quiet (.start statement) continues
    ⟨⟨?_, by simp, fun some => absurd rfl some⟩, by simp, by simp,
      fun call => ?_, fun event => absurd event Bool.false_ne_true, by simp⟩
  · simp only [ConnectionWorld.enabled, dials.unthrown, enabled,
      Bool.not_false, Bool.and_true]
  · rw [notCall] at call
    cases call

private theorem hungUpAtRest_of_quiet (dials : world.Dialling actions)
    (accepted : actions.any ConnectionAction.accepted = true)
    (quiet : Machine.Quiet dialling ConnectionAction.dials actions world)
    (free : ¬world.Blocked) (answered : world.startOwed = false) :
    world.HungUpAtRest := by
  have still := still_of_quiet quiet
  have returned := dials.steady.returned_of_still still free
  have complete := dials.complete_of_quiet accepted quiet returned
  have down := dials.down complete
  exact
    { atRest := dials.steady.atRest_of_still still
        (dials.complete_iff.mpr complete) returned dials.client down.accept
        down.shutdown
      start := dials.started_of_quiet quiet answered }

private theorem busy_of_owed (dials : world.Dialling actions)
    (owed : world.startOwed = true) : world.start ≠ .idle := by
  intro idle
  have sound := dials.start
  have idleSlot : world.startSlot.op = .idle := idle
  simp only [UnlockedSlot.Sound, idleSlot, owed, Bool.true_eq_false,
    and_false] at sound

end Dialling

variable {actions : List ConnectionAction} {world : ConnectionWorld O}

private theorem accepted_append {action : ConnectionAction}
    (accepted : actions.any ConnectionAction.accepted = true) :
    (actions ++ [action]).any ConnectionAction.accepted = true := by
  rw [List.any_append, accepted, Bool.true_or]

private theorem hangs_up_of_free
    (run : (connectionMachine O).Run dialling actions world)
    (accepted : actions.any ConnectionAction.accepted = true)
    (free : ¬world.Blocked) (answered : world.startOwed = false) :
    (connectionMachine O).Inevitable dialling ConnectionAction.dials
      HungUpAtRest actions := by
  apply run.inevitable
    (fun actions world => world.Dialling actions ∧
      actions.any ConnectionAction.accepted = true ∧ ¬world.Blocked ∧
      world.startOwed = false) toHangUp
    ⟨dialling_of_run run, accepted, free, answered⟩
  · intro actions world action _ ⟨dials, accepted, free, answered⟩ own allowed
    have nearer := dials.nearer accepted own allowed
    exact ⟨⟨dials.step allowed, accepted_append accepted,
      fun blocked => free (nearer.blocked.mp blocked),
      nearer.startOwed.trans answered⟩, nearer.lower⟩
  · intro actions world _ ⟨dials, accepted, free, answered⟩ quiet
    exact dials.hungUpAtRest_of_quiet accepted quiet free answered

private theorem not_hangs_up_of_blocked
    (run : (connectionMachine O).Run dialling actions world)
    (accepted : actions.any ConnectionAction.accepted = true)
    (blocked : world.Blocked) :
    ¬(connectionMachine O).Inevitable dialling ConnectionAction.dials
      HungUpAtRest actions := by
  apply Machine.not_inevitable
    (fun actions world => world.Dialling actions ∧
      actions.any ConnectionAction.accepted = true ∧ world.Blocked) run
    ⟨dialling_of_run run, accepted, blocked⟩
  · intro actions world action _ ⟨dials, accepted, blocked⟩ own allowed
    have nearer := dials.nearer accepted own allowed
    exact ⟨dials.step allowed, accepted_append accepted,
      nearer.blocked.mpr blocked⟩
  · intro actions world ⟨_, _, ⟨stream, place⟩, _⟩ hungUp
    rw [hungUp.atRest.callback] at place
    cases place

private theorem not_hangs_up_of_owed
    (run : (connectionMachine O).Run dialling actions world)
    (accepted : actions.any ConnectionAction.accepted = true)
    (owed : world.startOwed = true) :
    ¬(connectionMachine O).Inevitable dialling ConnectionAction.dials
      HungUpAtRest actions := by
  apply Machine.not_inevitable
    (fun actions world => world.Dialling actions ∧
      actions.any ConnectionAction.accepted = true ∧ world.startOwed = true)
    run ⟨dialling_of_run run, accepted, owed⟩
  · intro actions world action _ ⟨dials, accepted, owed⟩ own allowed
    have nearer := dials.nearer accepted own allowed
    exact ⟨dials.step allowed, accepted_append accepted,
      nearer.startOwed.trans owed⟩
  · intro actions world ⟨dials, _, owed⟩ hungUp
    exact dials.busy_of_owed owed hungUp.start

private theorem hangs_up_of_connected
    (run : (connectionMachine O).Run dialling actions world)
    (accepted : actions.any ConnectionAction.accepted = true)
    (allowed : dialling actions world (.event .connected)) :
    (connectionMachine O).Inevitable dialling ConnectionAction.dials
      HungUpAtRest (actions ++ [.event .connected]) := by
  have dials := dialling_of_run run
  have stepped := world.step_event .connected dials.guarded
  apply hangs_up_of_free (.step run allowed) (accepted_append accepted)
  · rintro ⟨⟨stream, place⟩, _⟩
    change (world.step (.event .connected)).callback = _ at place
    rw [stepped] at place
    have runs : world.callback = .acquiring stream := place
    rw [world.returned_of_event allowed.1.1] at runs
    cases runs
  · change (world.step (.event .connected)).startOwed = false
    rw [stepped]
    exact Bool.and_false _

/-- After an accepted ConnectionStart the connection comes to rest in every
order of the outstanding statements and of SHUTDOWN_COMPLETE, exactly if its
callback is not blocked and CONNECTED is not owed any more.  CONNECTED itself
makes it so, and for a blocked callback the next `async_accept`. -/
theorem hangs_up_iff
    (run : (connectionMachine O).Run dialling actions world)
    (accepted : actions.any ConnectionAction.accepted = true) :
    ((connectionMachine O).Inevitable dialling ConnectionAction.dials
        HungUpAtRest actions ↔ ¬world.Blocked ∧ world.startOwed = false) ∧
      (dialling actions world (.event .connected) →
        (connectionMachine O).Inevitable dialling ConnectionAction.dials
          HungUpAtRest (actions ++ [.event .connected])) ∧
      (dialling actions world .accept → world.startOwed = false →
        (connectionMachine O).Inevitable dialling ConnectionAction.dials
          HungUpAtRest (actions ++ [.accept])) := by
  refine ⟨⟨?_, ?_⟩, hangs_up_of_connected run accepted, ?_⟩
  · intro inevitable
    constructor
    · intro blocked
      exact not_hangs_up_of_blocked run accepted blocked inevitable
    · cases owed : world.startOwed with
      | false => rfl
      | true =>
          exact absurd inevitable (not_hangs_up_of_owed run accepted owed)
  · intro ⟨free, answered⟩
    exact hangs_up_of_free run accepted free answered
  · intro allowed answered
    have dials := dialling_of_run run
    have same := dials.aside allowed rfl rfl
    exact hangs_up_of_free (.step run allowed) (accepted_append accepted)
      (dials.steady.free_accept dials.complete_iff.mp)
      (same.startOwed.trans answered)

/-- While CONNECTED is owed nothing else brings the client to rest. -/
theorem hangs_up_iff_startCall :
    ¬(connectionMachine .reference).Inevitable dialling
        ConnectionAction.dials HungUpAtRest startCall ∧
      (connectionMachine .reference).Inevitable dialling
        ConnectionAction.dials HungUpAtRest
        (startCall ++ [.event .connected]) := by
  have run : (connectionMachine .reference).Run dialling startCall
      ((connectionMachine .reference).exec startCall) :=
    Machine.run_of_checks startCall (by decide)
  have both := hangs_up_iff run (by decide)
  constructor
  · intro inevitable
    exact absurd (both.1.mp inevitable).2 (by decide)
  · exact both.2.1 (by decide)

end ConnectionWorld

end MsquicAsio
