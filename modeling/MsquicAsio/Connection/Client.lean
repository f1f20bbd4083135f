/-
A client connection: `async_start` and the events that follow it.

The three shutdown events assert that `client_start` is not pending, and do
not answer it, although the flag stays raised until CONNECTED.  So a connection
that goes down during the handshake fails the assertion, and `async_start` gets
no outcome; with CONNECTED first it gets success.
-/
import MsquicAsio.Connection.History

set_option autoImplicit false

namespace MsquicAsio

variable {O : Oneshot}

namespace ConnectionAction

def accepted : ConnectionAction → Bool
  | .start statement => statement.accepted
  | _ => false

/-- What a client does and what msquic delivers to it.  `async_start` is called
once and `ConnectionStart` succeeds; CONNECTED and the shutdown events follow
in any order, CONNECTED at most once, and SHUTDOWN_COMPLETE is the last. -/
def clientOrder (actions : List ConnectionAction) : ConnectionAction → Bool
  | .start (.create _) => !actions.any isStart
  | .start (.call status) => !status.quicFailed
  | .connect => false
  | .event occurred =>
      actions.any accepted && !actions.contains (.event .shutdownComplete) &&
        match occurred with
        | .connected => !actions.contains (.event .connected)
        | .peerStreamStarted _ => false
        | .resumed => false
        | _ => true
  | _ => true

end ConnectionAction

namespace ConnectionWorld

def clientContract : Environment (ConnectionWorld O) ConnectionAction :=
  fun actions world action =>
    world.enabled action = true ∧ action.clientOrder actions = true

instance (actions : List ConnectionAction) (world : ConnectionWorld O)
    (action : ConnectionAction) :
    Decidable (clientContract actions world action) :=
  inferInstanceAs (Decidable (_ ∧ _))

def Unbroken (world : ConnectionWorld O) : Prop :=
  ∀ name ∈ world.ctx.failed, name.inCallback = false

/-- No assertion of the callback has failed, and once SHUTDOWN_COMPLETE was
processed `async_start` has one outcome, success after CONNECTED and an error
without it. -/
def StartNotified (actions : List ConnectionAction)
    (world : ConnectionWorld O) : Prop :=
  world.Unbroken ∧
    (.event .shutdownComplete ∈ actions →
      if .event .connected ∈ actions then
        world.ctx.conn.channels.outcomes 0 = [.success]
      else ∃ ec, ec.failed = true ∧ world.ctx.conn.channels.outcomes 0 = [ec])

def ConnectedFirst (actions : List ConnectionAction)
    (_ : ConnectionWorld O) (action : ConnectionAction) : Prop :=
  action.isShutdown = true → .event .connected ∈ actions

structure Connecting (actions : List ConnectionAction)
    (world : ConnectionWorld O) : Prop where
  start : world.startSlot.Sound world.startOwed
  accept : world.ctx.pending.accept = true →
    world.ctx.accept.Live ∧ world.ctx.state ≠ .shutdownComplete
  shutdown : world.ctx.pending.shutdown = true →
    world.ctx.shutdown.Live ∧ world.ctx.state ≠ .shutdownComplete
  client : world.ctx.pending.serverConnect = false
  returned : world.callback = .returned
  unstarted : actions.any ConnectionAction.isStart = false →
    world.ctx.conn.channels.next = 0
  single : world.ctx.conn.channels.next ≤ 1
  owed : world.startOwed = (actions.any ConnectionAction.accepted &&
    !decide (.event .connected ∈ actions))
  called : actions.any ConnectionAction.accepted = true →
    world.start.calling = none
  answering : .event .connected ∈ actions →
    actions.any ConnectionAction.accepted = true
  connected : .event .connected ∈ actions →
    world.ctx.conn.value? 0 = some .success

namespace Connecting

variable {actions : List ConnectionAction} {world : ConnectionWorld O}

private theorem guarded (connecting : world.Connecting actions) :
    world.ctx.Guarded where
  start := fun raised => connecting.start.live raised
  connect := by
    intro raised
    rw [connecting.client] at raised
    cases raised
  oneMode := fun _ => connecting.client
  accept := fun raised => (connecting.accept raised).1
  shutdown := fun raised => (connecting.shutdown raised).1

private theorem flag (connecting : world.Connecting actions)
    (started : actions.any ConnectionAction.accepted = true) :
    world.ctx.pending.clientStart =
      !decide (.event .connected ∈ actions) := by
  have flag := connecting.start.flag (connecting.called started)
  rw [connecting.owed, started, Bool.true_and] at flag
  exact flag

private theorem sender (connecting : world.Connecting actions)
    (live : world.ctx.conn.Live) :
    world.ctx.conn.tx = some 0 ∧ world.ctx.conn.channels.Live 0 := by
  obtain ⟨id, txAt, inside, unused⟩ := live
  have first : id = 0 := by
    have single := connecting.single
    omega
  subst first
  exact ⟨txAt, inside, unused⟩

private theorem aside (connecting : world.Connecting actions)
    {action : ConnectionAction} {after : ConnectionWorld O}
    (notStart : action.isStart = false)
    (notConnected : action ≠ .event .connected)
    (sameStart : after.startSlot = world.startSlot)
    (sameOwed : after.startOwed = world.startOwed)
    (sameConnect : after.ctx.pending.serverConnect =
      world.ctx.pending.serverConnect)
    (sameCallback : after.callback = world.callback)
    (accept : after.ctx.pending.accept = true →
      after.ctx.accept.Live ∧ after.ctx.state ≠ .shutdownComplete)
    (shutdown : after.ctx.pending.shutdown = true →
      after.ctx.shutdown.Live ∧ after.ctx.state ≠ .shutdownComplete) :
    after.Connecting (actions ++ [action]) := by
  have started : (actions ++ [action]).any ConnectionAction.isStart =
      actions.any ConnectionAction.isStart := by
    simp only [List.any_append, List.any_cons, List.any_nil, notStart,
      Bool.or_false]
  have notAccepted : action.accepted = false := by
    cases action <;> first | rfl | cases notStart
  have accepted : (actions ++ [action]).any ConnectionAction.accepted =
      actions.any ConnectionAction.accepted := by
    simp only [List.any_append, List.any_cons, List.any_nil, notAccepted,
      Bool.or_false]
  have connected : .event .connected ∈ actions ++ [action] ↔
      .event .connected ∈ actions := mem_append_other notConnected
  have sameConn : after.ctx.conn = world.ctx.conn :=
    congrArg UnlockedSlot.port sameStart
  have sameOp : after.start = world.start :=
    congrArg UnlockedSlot.op sameStart
  exact
    { start := by
        rw [sameStart, sameOwed]
        exact connecting.start
      accept := accept
      shutdown := shutdown
      client := sameConnect.trans connecting.client
      returned := sameCallback.trans connecting.returned
      unstarted := by
        rw [started, sameConn]
        exact connecting.unstarted
      single := by
        rw [sameConn]
        exact connecting.single
      owed := by
        rw [sameOwed, accepted, decide_eq_decide.mpr connected]
        exact connecting.owed
      called := by
        rw [accepted, sameOp]
        exact connecting.called
      answering := by
        rw [connected, accepted]
        exact connecting.answering
      connected := by
        rw [connected, sameConn]
        exact connecting.connected }

private theorem not_create {statement : UnlockedStep}
    (order : (ConnectionAction.start statement).clientOrder actions = true)
    (started : actions.any ConnectionAction.accepted = true) :
    ∀ buffers, statement ≠ .create buffers := by
  rintro buffers rfl
  simp only [ConnectionAction.clientOrder, Bool.not_eq_true',
    List.any_eq_false] at order
  obtain ⟨action, member, accepted⟩ := List.any_eq_true.mp started
  refine order action member ?_
  cases action <;> first | rfl | cases accepted

private theorem start_single (connecting : world.Connecting actions)
    {statement : UnlockedStep} {slot : UnlockedSlot O}
    (order : (ConnectionAction.start statement).clientOrder actions = true)
    (enabled : world.startSlot.enabled statement = true)
    (stepped : world.startSlot.step statement = some slot) :
    slot.port.channels.next ≤ 1 := by
  by_cases creates : ∃ buffers, statement = .create buffers
  · obtain ⟨buffers, rfl⟩ := creates
    simp only [ConnectionAction.clientOrder, Bool.not_eq_true'] at order
    have none_yet := connecting.unstarted order
    cases at_ : world.startSlot.op with
    | idle =>
        simp only [UnlockedSlot.step, at_] at stepped
        obtain rfl := Option.some.inj stepped
        change world.ctx.conn.channels.next + 1 ≤ 1
        omega
    | created | txAssigned | rxAssigned | raised | callFailed | lowered
    | ready | waiting =>
        simp only [UnlockedSlot.enabled, at_, Bool.false_eq_true] at enabled
  · rw [UnlockedSlot.next_step enabled stepped
      (fun buffers same => creates ⟨buffers, same⟩)]
    exact connecting.single

private theorem unaccepted (connecting : world.Connecting actions)
    {statement : UnlockedStep} (accepted : statement.accepted = true)
    (enabled : world.startSlot.enabled statement = true) :
    actions.any ConnectionAction.accepted = false := by
  rw [← Bool.not_eq_true]
  intro started
  have returned : world.startSlot.op.calling = none :=
    connecting.called started
  have makes := UnlockedSlot.makes_of_enabled enabled
  generalize world.startSlot.step statement = result at makes
  generalize world.startSlot = slot at makes returned
  cases makes with
  | fails | accepts => cases returned
  | create | assignTx | assignRx | raise | lower | sendFailure | initiate
  | invoke => cases accepted

private theorem start_step (connecting : world.Connecting actions)
    {statement : UnlockedStep}
    (allowed : clientContract actions world (.start statement)) :
    (world.asyncStart statement).Connecting
      (actions ++ [ConnectionAction.start statement]) := by
  obtain ⟨enabled, order⟩ := allowed
  simp only [ConnectionWorld.enabled, Bool.and_eq_true] at enabled
  obtain ⟨slot, stepped, sound⟩ := connecting.start.step enabled.2
  have connected : .event .connected ∈
      actions ++ [ConnectionAction.start statement] ↔
        .event .connected ∈ actions := mem_append_other (by simp)
  have accepted : (actions ++ [ConnectionAction.start statement]).any
      ConnectionAction.accepted =
        (actions.any ConnectionAction.accepted || statement.accepted) := by
    simp only [List.any_append, List.any_cons, List.any_nil, Bool.or_false]
    rfl
  -- CONNECTED is owed from the acceptance to its delivery
  have owed : (world.startOwed || statement.accepted) =
      ((actions.any ConnectionAction.accepted || statement.accepted) &&
        !decide (.event .connected ∈ actions)) := by
    cases accepts : statement.accepted with
    | false =>
        simp only [Bool.or_false]
        exact connecting.owed
    | true =>
        have first := connecting.unaccepted accepts enabled.2
        have notYet : .event .connected ∉ actions := by
          intro before
          rw [connecting.answering before] at first
          cases first
        simp only [Bool.or_true, notYet, decide_false, Bool.not_false,
          Bool.and_self]
  simp only [asyncStart, stepped]
  exact
    { start := sound
      accept := connecting.accept
      shutdown := connecting.shutdown
      client := connecting.client
      returned := connecting.returned
      unstarted := by
        intro none_yet
        simp only [List.any_append, List.any_cons, ConnectionAction.isStart,
          Bool.true_or, Bool.or_true] at none_yet
        cases none_yet
      single := connecting.start_single order enabled.2 stepped
      owed := by
        rw [accepted, decide_eq_decide.mpr connected]
        exact owed
      called := by
        intro started
        rw [accepted] at started
        cases before : actions.any ConnectionAction.accepted with
        | true =>
            exact UnlockedSlot.calling_step stepped enabled.2
              (connecting.called before) (not_create order before)
        | false =>
            rw [before, Bool.false_or] at started
            rw [started, Bool.or_true] at sound
            exact sound.calling_of_owed
      answering := by
        rw [connected, accepted]
        intro before
        rw [connecting.answering before, Bool.true_or]
      connected := by
        rw [connected]
        intro before
        exact UnlockedSlot.value?_step enabled.2 stepped
          (connecting.connected before) }

private theorem connected_step (connecting : world.Connecting actions)
    (allowed : clientContract actions world (.event .connected)) :
    (world.step (.event .connected)).Connecting
      (actions ++ [ConnectionAction.event .connected]) := by
  have order := allowed.2
  simp only [ConnectionAction.clientOrder, Bool.and_eq_true] at order
  obtain ⟨⟨started, _⟩, first⟩ := order
  have notYet : .event .connected ∉ actions := by
    simpa only [Bool.not_eq_true', List.contains_eq_mem,
      decide_eq_false_iff_not] using first
  have owed : world.startOwed = true := by
    rw [connecting.owed, started, decide_eq_false notYet]
    rfl
  have flag : world.ctx.pending.clientStart = true := by
    rw [connecting.flag started, decide_eq_false notYet]
    rfl
  have sound := connecting.start
  rw [owed] at sound
  obtain ⟨live, settled⟩ := sound.settle .success
  obtain ⟨txAt, liveAt⟩ := connecting.sender live
  have sent := (world.ctx.conn.afterSend_of_live .success txAt liveAt).2.2.2.2 0
  have accepted : (actions ++ [ConnectionAction.event .connected]).any
      ConnectionAction.accepted = true := by
    simp only [List.any_append, started, Bool.true_or]
  simp only [world.step_event .connected connecting.guarded,
    AsioServerConnectionCtx.after, AsioServerConnectionCtx.afterConnected,
    flag, Bool.true_or, Port.settle, if_true, Bool.not_true, Bool.and_false]
  exact
    { start := settled
      accept := connecting.accept
      shutdown := connecting.shutdown
      client := rfl
      returned := connecting.returned
      unstarted := by
        intro none_yet
        have unstarted : actions.any ConnectionAction.isStart = false := by
          simpa only [List.any_append, List.any_cons, List.any_nil,
            ConnectionAction.isStart, Bool.or_false] using none_yet
        rw [world.ctx.conn.next_afterSend]
        exact connecting.unstarted unstarted
      single := by
        rw [world.ctx.conn.next_afterSend]
        exact connecting.single
      owed := by simp
      called := fun _ => connecting.called started
      answering := fun _ => accepted
      connected := fun _ => by rw [sent, if_pos rfl] }

private theorem event_step (connecting : world.Connecting actions)
    {event : ConnectionEvent}
    (allowed : clientContract actions world (.event event)) :
    (world.step (.event event)).Connecting
      (actions ++ [ConnectionAction.event event]) := by
  have order := allowed.2
  simp only [ConnectionAction.clientOrder, Bool.and_eq_true] at order
  cases event with
  | connected => exact connecting.connected_step allowed
  | peerStreamStarted stream => cases order.2
  | resumed => cases order.2
  | shutdownInitiatedByTransport | shutdownInitiatedByPeer
  | shutdownComplete | resumptionTicketReceived | other =>
      apply connecting.aside rfl (by simp)
      all_goals
        simp only [world.step_event _ connecting.guarded,
          AsioServerConnectionCtx.after, AsioServerConnectionCtx.afterCancel,
          AsioServerConnectionCtx.afterShutdownComplete, startSlot,
          connecting.client, Port.settle, Bool.false_eq_true, if_false,
          Bool.not_false, Bool.and_true]
      all_goals
        first
        | exact connecting.accept
        | exact connecting.shutdown
        | exact fun raised => ⟨(connecting.shutdown raised).1, by simp⟩
        | (intro impossible; cases impossible)

private theorem not_streamStarted (connecting : world.Connecting actions)
    (statement : StreamStartedStep) :
    world.enabled (.streamStarted statement) ≠ true := by
  intro enabled
  simp only [ConnectionWorld.enabled, Bool.and_eq_true] at enabled
  have returned := connecting.returned
  cases world.running_of_enabled enabled.2 with
  | acquire stream place | assertAccept stream place
  | clearAccept stream place | setCallback stream place
  | send stream place =>
      rw [returned] at place
      cases place

private theorem step (connecting : world.Connecting actions)
    {action : ConnectionAction} (allowed : clientContract actions world action) :
    (world.step action).Connecting (actions ++ [action]) := by
  cases action with
  | event event => exact connecting.event_step allowed
  | start statement => exact connecting.start_step allowed
  | connect => cases allowed.2
  | streamStarted statement =>
      exact absurd allowed.1 (connecting.not_streamStarted statement)
  | accept =>
      apply connecting.aside rfl (by simp) <;>
        simp only [step_accept, AsioServerConnectionCtx.afterAccept, startSlot]
      · intro raised
        have running : world.ctx.state ≠ .shutdownComplete := by
          rcases Bool.or_eq_true_iff.mp raised with earlier | now
          · exact (connecting.accept earlier).2
          · exact of_decide_eq_true now
        rw [if_neg running]
        exact ⟨world.ctx.accept.live_renew, running⟩
      · exact connecting.shutdown
  | shutdown =>
      apply connecting.aside rfl (by simp) <;>
        simp only [step_shutdown, AsioServerConnectionCtx.afterShutdown,
          startSlot]
      · exact connecting.accept
      · intro raised
        have running : world.ctx.state ≠ .shutdownComplete := by
          rcases Bool.or_eq_true_iff.mp raised with earlier | now
          · exact (connecting.shutdown earlier).2
          · exact of_decide_eq_true now
        rw [if_neg running]
        exact ⟨world.ctx.shutdown.live_renew, running⟩
  | connectInitiate | connectHandler | acceptInitiate | acceptHandler
  | shutdownInitiate | shutdownHandler =>
      simp only [ConnectionWorld.step]
      split <;>
        exact connecting.aside rfl (by simp) rfl rfl rfl rfl
          connecting.accept connecting.shutdown

end Connecting

private theorem connecting_initial :
    (initial : ConnectionWorld O).Connecting [] where
  start := ⟨rfl, rfl⟩
  accept := by intro impossible; cases impossible
  shutdown := by intro impossible; cases impossible
  client := rfl
  returned := rfl
  unstarted := fun _ => rfl
  single := Nat.zero_le 1
  owed := rfl
  called := by intro impossible; cases impossible
  answering := by intro impossible; cases impossible
  connected := by intro impossible; cases impossible

private theorem connecting_of_run {actions : List ConnectionAction}
    {world : ConnectionWorld O}
    (run : (connectionMachine O).Run clientContract actions world) :
    world.Connecting actions := by
  apply run.invariant (fun actions world => world.Connecting actions)
    connecting_initial
  intro actions world action _ connecting allowed
  exact connecting.step allowed

/-! ### The assertions of the callback -/

private theorem unbroken_violated (failed : List ConnectionAssert)
    (place : ConnectionAssert) (condition : Bool) :
    (∀ name ∈ failed ++ violated place condition, name.inCallback = false) ↔
      (∀ name ∈ failed, name.inCallback = false) ∧
        (place.inCallback = true → condition = true) := by
  constructor
  · intro every
    refine ⟨fun name member => every name (List.mem_append_left _ member),
      fun inside => ?_⟩
    cases holds : condition with
    | true => rfl
    | false =>
        have broken : place ∈ violated place condition :=
          mem_violated.mpr ⟨holds, rfl⟩
        rw [every place (List.mem_append_right _ broken)] at inside
        cases inside
  · rintro ⟨earlier, outside⟩ name member
    rcases List.mem_append.mp member with old | new
    · exact earlier name old
    · obtain ⟨broken, rfl⟩ := mem_violated.mp new
      cases inside : name.inCallback with
      | false => rfl
      | true =>
          rw [outside inside] at broken
          cases broken

namespace Connecting

variable {actions : List ConnectionAction} {world : ConnectionWorld O}

private theorem shutdown_unbroken_iff (connecting : world.Connecting actions)
    (started : actions.any ConnectionAction.accepted = true)
    (unbroken : world.Unbroken) {place : ConnectionAssert}
    (inside : place.inCallback = true) :
    (∀ name ∈ world.ctx.failed ++
        violated place (!world.ctx.pending.clientStart),
      name.inCallback = false) ↔ .event .connected ∈ actions := by
  rw [unbroken_violated, connecting.flag started, Bool.not_not,
    decide_eq_true_eq]
  constructor
  · intro both
    exact both.2 inside
  · intro connected
    exact ⟨unbroken, fun _ => connected⟩

private theorem unbroken_connected (connecting : world.Connecting actions)
    (started : actions.any ConnectionAction.accepted = true)
    (notYet : .event .connected ∉ actions) (unbroken : world.Unbroken) :
    (world.step (.event .connected)).Unbroken := by
  have flag := connecting.flag started
  rw [decide_eq_false notYet] at flag
  rw [world.step_event _ connecting.guarded]
  simp only [AsioServerConnectionCtx.after,
    AsioServerConnectionCtx.afterConnected, flag, Bool.not_false,
    Bool.true_or, violated, if_true, List.append_nil]
  exact unbroken

private theorem unbroken_other (connecting : world.Connecting actions)
    {action : ConnectionAction} (allowed : clientContract actions world action)
    (unbroken : world.Unbroken) (other : action.isShutdown = false) :
    (world.step action).Unbroken := by
  cases action with
  | event event =>
      have order := allowed.2
      simp only [ConnectionAction.clientOrder, Bool.and_eq_true] at order
      obtain ⟨⟨started, _⟩, rest⟩ := order
      cases event with
      | connected =>
          refine connecting.unbroken_connected started ?_ unbroken
          simpa only [Bool.not_eq_true', List.contains_eq_mem,
            decide_eq_false_iff_not] using rest
      | peerStreamStarted stream => cases rest
      | resumed => cases rest
      | resumptionTicketReceived | other =>
          rw [world.step_event _ connecting.guarded]
          exact unbroken
      | shutdownInitiatedByTransport | shutdownInitiatedByPeer
      | shutdownComplete => cases other
  | start statement =>
      have enabled := allowed.1
      simp only [ConnectionWorld.enabled, Bool.and_eq_true] at enabled
      obtain ⟨slot, stepped, _⟩ := connecting.start.step enabled.2
      simp only [ConnectionWorld.step, asyncStart, stepped, Unbroken]
      rw [unbroken_violated]
      exact ⟨unbroken, by intro impossible; cases impossible⟩
  | connect => cases allowed.2
  | accept =>
      simp only [step_accept, AsioServerConnectionCtx.afterAccept, Unbroken]
      rw [unbroken_violated]
      exact ⟨unbroken, by intro impossible; cases impossible⟩
  | shutdown =>
      rw [step_shutdown]
      exact unbroken
  | streamStarted statement =>
      exact absurd allowed.1 (connecting.not_streamStarted statement)
  | connectInitiate | connectHandler | acceptInitiate | acceptHandler
  | shutdownInitiate | shutdownHandler =>
      simp only [ConnectionWorld.step]
      split <;> exact unbroken

/-- A step breaks an assertion of the callback exactly when it is a shutdown
event that comes before CONNECTED. -/
private theorem unbroken_step_iff (connecting : world.Connecting actions)
    {action : ConnectionAction} (allowed : clientContract actions world action)
    (unbroken : world.Unbroken) :
    (world.step action).Unbroken ↔ ConnectedFirst actions world action := by
  cases shuts : action.isShutdown with
  | false =>
      refine iff_of_true (connecting.unbroken_other allowed unbroken shuts) ?_
      intro impossible
      rw [shuts] at impossible
      cases impossible
  | true =>
      have meets : ConnectedFirst actions world action ↔
          .event .connected ∈ actions :=
        ⟨fun first => first shuts, fun connected _ => connected⟩
      rw [meets]
      cases action with
      | event event =>
          have order := allowed.2
          simp only [ConnectionAction.clientOrder, Bool.and_eq_true] at order
          have started := order.1.1
          cases event with
          | shutdownInitiatedByTransport | shutdownInitiatedByPeer
          | shutdownComplete =>
              rw [world.step_event _ connecting.guarded]
              exact connecting.shutdown_unbroken_iff started unbroken rfl
          | connected | peerStreamStarted | resumed | resumptionTicketReceived
          | other => cases shuts
      | start | connect | accept | shutdown | streamStarted | connectInitiate
      | connectHandler | acceptInitiate | acceptHandler | shutdownInitiate
      | shutdownHandler => cases shuts

end Connecting

private theorem connected_of_complete {actions : List ConnectionAction}
    (steps : (connectionMachine O).EachStep ConnectedFirst actions)
    (complete : .event .shutdownComplete ∈ actions) :
    .event .connected ∈ actions := by
  obtain ⟨early, rest, rfl⟩ := List.append_of_mem complete
  have first := steps early (.event .shutdownComplete) ⟨rest, by simp⟩ rfl
  exact List.mem_append_left _ first

/-- `async_start` is notified, and no assertion of the callback fails, in every
state of a run exactly when no shutdown event of the run comes before
CONNECTED. -/
theorem start_notified_iff {actions : List ConnectionAction}
    {world : ConnectionWorld O}
    (run : (connectionMachine O).Run clientContract actions world) :
    (connectionMachine O).Throughout StartNotified actions ↔
      (connectionMachine O).EachStep ConnectedFirst actions := by
  apply run.throughout_iff
  · constructor
    · intro name impossible
      cases impossible
    · intro impossible
      cases impossible
  intro actions world action before steps allowed notified
  have connecting := connecting_of_run before
  have unbroken_iff := connecting.unbroken_step_iff allowed notified.1
  constructor
  · intro holds
    exact unbroken_iff.mp holds.1
  · intro first
    refine ⟨unbroken_iff.mpr first, fun complete => ?_⟩
    have connected : .event .connected ∈ actions ++ [action] := by
      rcases List.mem_append.mp complete with earlier | now
      · exact List.mem_append_left _ (connected_of_complete steps earlier)
      · obtain rfl := List.mem_singleton.mp now
        exact List.mem_append_left _ (first rfl)
    rw [if_pos connected, Channels.outcomes_eq]
    have held := (connecting.step allowed).connected connected
    change Option.toList ((world.step action).ctx.conn.value? 0) = _
    rw [held, Option.toList_some]

def startCall : List ConnectionAction :=
  [.start (.create []), .start .assignTx, .start .assignRx, .start .raise,
    .start (.call .success), .start .initiate]

/-- The handshake fails and the transport shuts the connection down. -/
def failedHandshake : List ConnectionAction :=
  startCall ++ [.event .shutdownInitiatedByTransport, .event .shutdownComplete]

/-- The assertion fails, and after SHUTDOWN_COMPLETE `async_start` still has no
outcome. -/
theorem failedHandshake_not_notified :
    (connectionMachine .reference).Run clientContract failedHandshake
        ((connectionMachine .reference).exec failedHandshake) ∧
      ¬StartNotified failedHandshake
        ((connectionMachine .reference).exec failedHandshake) ∧
      ((connectionMachine .reference).exec
        failedHandshake).ctx.conn.channels.outcomes 0 = [] := by
  refine ⟨Machine.run_of_checks failedHandshake (by decide), ?_, by decide⟩
  intro notified
  have outside := notified.1 .transportClientStartUnset (by decide)
  cases outside

def completedHandshake : List ConnectionAction :=
  startCall ++ [.event .connected, .shutdown, .event .shutdownInitiatedByPeer,
    .event .shutdownComplete]

theorem start_notified_iff_completedHandshake :
    (connectionMachine .reference).Throughout StartNotified
        completedHandshake ↔
      (connectionMachine .reference).EachStep ConnectedFirst
        completedHandshake :=
  start_notified_iff (Machine.run_of_checks completedHandshake (by decide))

end ConnectionWorld

end MsquicAsio
