/-
An endpoint that is shut down comes to rest, unless one of its callbacks is
stuck.

The listener is stopped and every connection and stream is torn down, in any
order.  No part waits for another one of them: what can hold the endpoint up is a
callback on a semaphore that nobody will release.
-/
import MsquicAsio.Connection.WindDown
import MsquicAsio.Endpoint.Routing
import MsquicAsio.Stream.WindDown

set_option autoImplicit false

namespace MsquicAsio

variable {O : Oneshot}

def EndpointAction.winds : EndpointAction → Bool
  | .listener action => action.winds
  | .connection _ action => action.winds
  | .stream _ action => action.winds

private theorem ListenerAction.arrived_of_winds {action : ListenerAction}
    (winds : action.winds = true) : action.arrived = none := by
  cases action with
  | event event => cases event <;> first | rfl | cases winds
  | newConnection | accept | acceptInitiate | acceptHandler | stop
  | listenerStop | listenerStopReturns | stopInitiate | stopHandler => rfl

private theorem ConnectionAction.of_winds {action : ConnectionAction}
    (winds : action.winds = true) :
    action.startedStream = none ∧ action.isCall = false := by
  cases action with
  | event event => cases event <;> first | exact ⟨rfl, rfl⟩ | cases winds
  | start | connect | accept | shutdown => cases winds
  | streamStarted | connectInitiate | connectHandler | acceptInitiate
  | acceptHandler | shutdownInitiate | shutdownHandler => exact ⟨rfl, rfl⟩

private theorem StreamAction.isCall_of_winds {action : StreamAction}
    (winds : action.winds = true) : action.isCall = false := by
  cases action with
  | start statement | send statement =>
      cases statement <;> first | rfl | cases winds
  | receive | shutdown => cases winds
  | event | receiveInitiate | receiveHandler | receiveInvoke
  | shutdownInitiate | shutdownHandler => rfl

namespace EndpointWorld

structure AtRest (actions : List EndpointAction) (world : EndpointWorld O) :
    Prop where
  listener : world.listener.AtRest
  connections : ∀ handle ∈ arrivedConnections (listenerActions actions),
    (world.connections handle).AtRest
  streams : ∀ handle ∈ (startedBy actions).map Prod.snd,
    (world.streams handle).AtRest

/-- No callback waits for a permit that will not come. -/
structure Unblocked (world : EndpointWorld O) : Prop where
  listener : world.listener.Provided
  connections : ∀ handle, ¬(world.connections handle).Blocked

def listenerRemaining (actions : List EndpointAction)
    (world : EndpointWorld O) : Nat :=
  world.listener.remaining (listenerActions actions)

def connectionRemaining (actions : List EndpointAction)
    (world : EndpointWorld O) (handle : Hquic) : Nat :=
  (world.connections handle).remaining (connectionActions handle actions)

def streamRemaining (actions : List EndpointAction)
    (world : EndpointWorld O) (handle : Hquic) : Nat :=
  (world.streams handle).remaining (streamActions handle actions)

def remaining (actions : List EndpointAction) (world : EndpointWorld O) : Nat :=
  world.listenerRemaining actions +
    ((arrivedConnections (listenerActions actions)).map
      (world.connectionRemaining actions)).sum +
    (((startedBy actions).map Prod.snd).map
      (world.streamRemaining actions)).sum

variable {actions : List EndpointAction} {world : EndpointWorld O}

private theorem announced_of_winds (actions : List EndpointAction)
    {action : EndpointAction} (winds : action.winds = true) :
    arrivedConnections (listenerActions (actions ++ [action])) =
        arrivedConnections (listenerActions actions) ∧
      startedBy (actions ++ [action]) = startedBy actions := by
  rw [listenerActions, startedBy, Machine.filterMap_concat,
    Machine.filterMap_concat]
  cases action with
  | listener action =>
      have none_ := ListenerAction.arrived_of_winds winds
      simp only [EndpointAction.listener?, EndpointAction.started,
        Option.toList_some, Option.toList_none, List.append_nil,
        arrivedConnections_concat, none_]
      exact ⟨rfl, rfl⟩
  | connection handle action =>
      have none_ := (ConnectionAction.of_winds winds).1
      simp only [EndpointAction.listener?, EndpointAction.started, none_,
        Option.map_none, Option.toList_none, List.append_nil]
      exact ⟨rfl, rfl⟩
  | stream handle action =>
      simp only [EndpointAction.listener?, EndpointAction.started,
        Option.toList_none, List.append_nil]
      exact ⟨rfl, rfl⟩

private theorem arrived_of_acts
    (run : (endpointMachine O).Run endpointContract actions world)
    {handle : Hquic} {action : ConnectionAction}
    (winds : action.winds = true)
    (allowed : endpointContract actions world (.connection handle action)) :
    handle ∈ arrivedConnections (listenerActions actions) := by
  apply (listening_of_run run).2.announced
  by_contra unset
  have enabled := allowed.1.1.1
  rw [untouched_connection run unset] at enabled
  rcases ConnectionWorld.enabled_initial enabled with event | call
  · exact unset (allowed.2.1 event)
  · rw [(ConnectionAction.of_winds winds).2] at call
    cases call

private theorem started_of_hasStream
    (run : (endpointMachine O).Run endpointContract actions world)
    {handle : Hquic} (has : world.HasStream handle) :
    handle ∈ (startedBy actions).map Prod.snd := by
  obtain ⟨owner, _, member⟩ := has
  have starts := ConnectionWorld.callbacks_of_run (acceptRun run owner) handle
    member
  exact List.mem_map.mpr ⟨_, mem_startedStreams_iff.mp starts, rfl⟩

private theorem started_of_acts
    (run : (endpointMachine O).Run endpointContract actions world)
    {handle : Hquic} {action : StreamAction} (winds : action.winds = true)
    (allowed : endpointContract actions world (.stream handle action)) :
    handle ∈ (startedBy actions).map Prod.snd := by
  apply started_of_hasStream run
  by_contra unset
  have enabled := allowed.1.1
  rw [untouched_stream run unset] at enabled
  rcases StreamWorld.enabled_initial enabled with event | call
  · exact unset (allowed.2.1 event)
  · rw [StreamAction.isCall_of_winds winds] at call
    cases call

private theorem own_connection (handle : Hquic) (action : ConnectionAction) :
    (connectionPart (O := O) handle).route (.connection handle action) =
      some action :=
  if_pos rfl

private theorem own_stream (handle : Hquic) (action : StreamAction) :
    (streamPart (O := O) handle).route (.stream handle action) =
      some action :=
  if_pos rfl

private theorem listenerRemaining_own {action : ListenerAction} :
    (world.step (.listener action)).listenerRemaining
        (actions ++ [.listener action]) =
      (world.listener.step action).remaining
        (listenerActions actions ++ [action]) :=
  listenerPart.measure_own
    (fun actions world => world.remaining actions) rfl actions world

private theorem connectionRemaining_own {handle : Hquic}
    {action : ConnectionAction} :
    (world.step (.connection handle action)).connectionRemaining
        (actions ++ [.connection handle action]) handle =
      ((world.connections handle).step action).remaining
        (connectionActions handle actions ++ [action]) :=
  (connectionPart handle).measure_own
    (fun actions world => world.remaining actions) (own_connection handle action)
    actions world

private theorem streamRemaining_own {handle : Hquic} {action : StreamAction} :
    (world.step (.stream handle action)).streamRemaining
        (actions ++ [.stream handle action]) handle =
      ((world.streams handle).step action).remaining
        (streamActions handle actions ++ [action]) :=
  (streamPart handle).measure_own
    (fun actions world => world.remaining actions) (own_stream handle action)
    actions world

private theorem listenerRemaining_other {action : EndpointAction}
    (routed : action.listener? = none) :
    (world.step action).listenerRemaining (actions ++ [action]) =
      world.listenerRemaining actions :=
  listenerPart.measure_other (fun actions world => world.remaining actions)
    routed actions world

private theorem connectionRemaining_other {action : EndpointAction}
    {handle : Hquic}
    (routed : action.connection? handle = none) :
    (world.step action).connectionRemaining (actions ++ [action]) handle =
      world.connectionRemaining actions handle :=
  (connectionPart handle).measure_other
    (fun actions world => world.remaining actions) routed actions world

private theorem streamRemaining_other {action : EndpointAction} {handle : Hquic}
    (routed : action.stream? handle = none) :
    (world.step action).streamRemaining (actions ++ [action]) handle =
      world.streamRemaining actions handle :=
  (streamPart handle).measure_other
    (fun actions world => world.remaining actions) routed actions world

private theorem remaining_step
    (run : (endpointMachine O).Run endpointContract actions world)
    {action : EndpointAction} (winds : action.winds = true)
    (allowed : endpointContract actions world action) :
    (world.step action).remaining (actions ++ [action]) <
      world.remaining actions := by
  obtain ⟨sameArrived, sameStarted⟩ :=
    announced_of_winds actions winds
  rw [remaining, remaining, sameArrived, sameStarted]
  cases action with
  | listener action =>
      have lower := (listening_of_run run).1.remaining_step winds allowed.1
      have connections : (world.step (.listener action)).connectionRemaining
          (actions ++ [.listener action]) =
            world.connectionRemaining actions :=
        funext fun handle => connectionRemaining_other rfl
      have streams : (world.step (.listener action)).streamRemaining
          (actions ++ [.listener action]) = world.streamRemaining actions :=
        funext fun handle => streamRemaining_other rfl
      rw [connections, streams]
      apply Nat.add_lt_add_right
      apply Nat.add_lt_add_right
      exact lt_of_eq_of_lt listenerRemaining_own lower
  | connection moved action =>
      have lower := ((ConnectionWorld.serving_of_run
        (connectionRun run moved)).winds_step winds allowed.1).1
      have listener : (world.step (.connection moved action)).listenerRemaining
          (actions ++ [.connection moved action]) =
            world.listenerRemaining actions :=
        listenerRemaining_other rfl
      have streams : (world.step (.connection moved action)).streamRemaining
          (actions ++ [.connection moved action]) =
            world.streamRemaining actions :=
        funext fun handle => streamRemaining_other rfl
      rw [listener, streams]
      apply Nat.add_lt_add_right
      apply Nat.add_lt_add_left
      apply Machine.sum_map_lt _ _ (arrived_of_acts run winds allowed)
      · exact lt_of_eq_of_lt connectionRemaining_own lower
      · intro handle different
        exact connectionRemaining_other (if_neg (Ne.symm different))
  | stream moved action =>
      have lower := ((StreamWorld.contracted_of_run
        (streamRun run moved)).remaining_step winds allowed.1)
      have listener : (world.step (.stream moved action)).listenerRemaining
          (actions ++ [.stream moved action]) =
            world.listenerRemaining actions :=
        listenerRemaining_other rfl
      have connections : (world.step (.stream moved action)).connectionRemaining
          (actions ++ [.stream moved action]) =
            world.connectionRemaining actions :=
        funext fun handle => connectionRemaining_other rfl
      rw [listener, connections]
      apply Nat.add_lt_add_left
      apply Machine.sum_map_lt _ _ (started_of_acts run winds allowed)
      · exact lt_of_eq_of_lt streamRemaining_own lower
      · intro handle different
        exact streamRemaining_other (if_neg (Ne.symm different))

/-- No part waits for another one: a statement of one leaves the others as
stuck as they were. -/
private theorem unblocked_step
    (run : (endpointMachine O).Run endpointContract actions world)
    {action : EndpointAction} (winds : action.winds = true)
    (allowed : endpointContract actions world action) :
    (world.step action).Unblocked ↔ world.Unblocked := by
  cases action with
  | listener action =>
      have same := (listening_of_run run).1.provided_step winds allowed.1
      constructor
      · intro unblocked
        exact ⟨same.mp unblocked.listener, unblocked.connections⟩
      · intro unblocked
        exact ⟨same.mpr unblocked.listener, unblocked.connections⟩
  | stream handle action =>
      constructor
      · intro unblocked
        exact ⟨unblocked.listener, unblocked.connections⟩
      · intro unblocked
        exact ⟨unblocked.listener, unblocked.connections⟩
  | connection moved action =>
      have same := ((ConnectionWorld.serving_of_run
        (connectionRun run moved)).winds_step winds allowed.1).2
      have each : ∀ handle,
          ((world.step (.connection moved action)).connections handle).Blocked ↔
            (world.connections handle).Blocked := by
        intro handle
        simp only [step]
        by_cases here : handle = moved
        · subst here
          rw [Function.update_self]
          exact same
        · rw [Function.update_of_ne here]
      constructor
      · intro unblocked
        exact ⟨unblocked.listener, fun handle blocked =>
          unblocked.connections handle ((each handle).mpr blocked)⟩
      · intro unblocked
        exact ⟨unblocked.listener, fun handle blocked =>
          unblocked.connections handle ((each handle).mp blocked)⟩

private theorem unblocked_of_registered
    (run : (endpointMachine O).Run endpointContract actions world)
    (provided : world.listener.Provided)
    (free : ∀ handle ∈ world.listener.registered,
      ¬(world.connections handle).Blocked) : world.Unblocked := by
  refine ⟨provided, ?_⟩
  intro handle blocked
  by_cases has : world.HasConnection handle
  · exact free handle has blocked
  · rw [untouched_connection run has] at blocked
    obtain ⟨⟨_, place⟩, _⟩ := blocked
    cases place

/-! ### Where nothing is left to do -/

private theorem listener_quiet
    (quiet : Machine.Quiet endpointContract EndpointAction.winds actions world) :
    Machine.Quiet ListenerWorld.stopContract ListenerAction.winds
      (listenerActions actions) world.listener := by
  apply listenerPart.quiet quiet EndpointAction.listener
  · intro action winds
    exact winds
  · intro action winds allowed
    refine ⟨allowed, ?_⟩
    rw [ListenerAction.arrived_of_winds winds]
    intro handle impossible
    cases impossible

private theorem connection_quiet
    (quiet : Machine.Quiet endpointContract EndpointAction.winds actions world)
    {handle : Hquic} (has : world.HasConnection handle) :
    Machine.Quiet ConnectionWorld.serverContract ConnectionAction.winds
      (connectionActions handle actions) (world.connections handle) := by
  apply (connectionPart handle).quiet quiet (EndpointAction.connection handle)
  · intro action winds
    exact winds
  · intro action winds allowed
    obtain ⟨starts, call⟩ := ConnectionAction.of_winds winds
    refine ⟨allowed, fun _ => has, ?_, ?_⟩
    · intro isCall
      rw [call] at isCall
      cases isCall
    · rw [starts]
      intro stream impossible
      cases impossible

private theorem stream_quiet
    (quiet : Machine.Quiet endpointContract EndpointAction.winds actions world)
    {handle : Hquic} (has : world.HasStream handle) :
    Machine.Quiet StreamWorld.contract StreamAction.winds
      (streamActions handle actions) (world.streams handle) := by
  apply (streamPart handle).quiet quiet (EndpointAction.stream handle)
  · intro action winds
    exact winds
  · intro action winds allowed
    refine ⟨allowed, fun _ => has, ?_⟩
    intro isCall
    rw [StreamAction.isCall_of_winds winds] at isCall
    cases isCall

private theorem hasConnection_of_rest
    (run : (endpointMachine O).Run endpointContract actions world)
    (rest : world.listener.AtRest) {handle : Hquic}
    (arrived : handle ∈ arrivedConnections (listenerActions actions)) :
    world.HasConnection handle := by
  have arrivals := (listening_of_run run).2
  rw [← arrivals.arrived] at arrived
  obtain ⟨⟨_, place⟩, member, rfl⟩ := List.mem_map.mp arrived
  apply arrivals.registered _ member
  have done := rest.callbacks _ member
  cases place with
  | returned => rfl
  | _ => cases done

private theorem hasStream_of_rest
    (run : (endpointMachine O).Run endpointContract actions world)
    (rest : ∀ handle ∈ arrivedConnections (listenerActions actions),
      (world.connections handle).AtRest) {handle : Hquic}
    (started : handle ∈ (startedBy actions).map Prod.snd) :
    world.HasStream handle := by
  obtain ⟨⟨owner, _⟩, member, rfl⟩ := List.mem_map.mp started
  have accepting := ConnectionWorld.accepting_of_run (acceptRun run owner)
  have order : startedStreams (connectionActions owner actions) =
      (world.connections owner).handed.map Prod.snd ++
        (world.connections owner).callback.stream.toList :=
    accepting.order
  have inOrder := mem_startedStreams_iff.mpr member
  have has : world.HasConnection owner := by
    by_contra unset
    rw [order, untouched_connection run unset] at inOrder
    cases inOrder
  have returned :=
    (rest owner ((listening_of_run run).2.announced owner has)).callback
  rw [order, returned] at inOrder
  rcases List.mem_append.mp inOrder with handed | running
  · obtain ⟨entry, inHanded, same⟩ := List.mem_map.mp handed
    obtain ⟨_, _, _, inCallbacks⟩ := accepting.handed entry inHanded
    refine ⟨owner, has, ?_⟩
    rw [← same]
    exact inCallbacks
  · cases running

private theorem atRest_of_quiet
    (run : (endpointMachine O).Run endpointContract actions world)
    (quiet : Machine.Quiet endpointContract EndpointAction.winds actions world)
    (unblocked : world.Unblocked) : world.AtRest actions := by
  have listener := (listening_of_run run).1.atRest_of_quiet
    (listener_quiet quiet) unblocked.listener
  have connections : ∀ handle ∈ arrivedConnections (listenerActions actions),
      (world.connections handle).AtRest := by
    intro handle arrived
    exact (ConnectionWorld.serving_of_run
      (connectionRun run handle)).atRest_of_quiet
        (connection_quiet quiet (hasConnection_of_rest run listener arrived))
        (unblocked.connections handle)
  refine ⟨listener, connections, ?_⟩
  intro handle started
  exact (StreamWorld.contracted_of_run (streamRun run handle)).atRest_of_quiet
    (stream_quiet quiet (hasStream_of_rest run connections started))

private theorem unblocked_of_atRest
    (run : (endpointMachine O).Run endpointContract actions world)
    (rest : world.AtRest actions) : world.Unblocked := by
  refine ⟨ListenerWorld.provided_of_atRest rest.listener, ?_⟩
  rintro handle ⟨⟨stream, place⟩, _⟩
  by_cases has : world.HasConnection handle
  · have arrived := (listening_of_run run).2.announced handle has
    rw [(rest.connections handle arrived).callback] at place
    cases place
  · rw [untouched_connection run has] at place
    cases place

structure Winding (start actions : List EndpointAction)
    (world : EndpointWorld O) : Prop where
  run : (endpointMachine O).Run endpointContract actions world
  arrived : arrivedConnections (listenerActions actions) =
    arrivedConnections (listenerActions start)
  started : startedBy actions = startedBy start

private theorem Winding.step {start : List EndpointAction}
    (winding : world.Winding start actions) {action : EndpointAction}
    (winds : action.winds = true)
    (allowed : endpointContract actions world action) :
    (world.step action).Winding start (actions ++ [action]) := by
  obtain ⟨sameArrived, sameStarted⟩ :=
    announced_of_winds actions winds
  exact
    { run := .step winding.run allowed
      arrived := sameArrived.trans winding.arrived
      started := sameStarted.trans winding.started }

private theorem Winding.atRest_iff {start : List EndpointAction}
    (winding : world.Winding start actions) :
    world.AtRest start ↔ world.AtRest actions := by
  constructor
  · rintro ⟨listener, connections, streams⟩
    rw [← winding.arrived] at connections
    rw [← winding.started] at streams
    exact ⟨listener, connections, streams⟩
  · rintro ⟨listener, connections, streams⟩
    rw [winding.arrived] at connections
    rw [winding.started] at streams
    exact ⟨listener, connections, streams⟩

/-- In every order of all outstanding statements and closing events the endpoint
comes to rest, exactly if neither the listener nor a connection is short of a
permit. -/
theorem comes_to_rest_iff
    (run : (endpointMachine O).Run endpointContract actions world) :
    (endpointMachine O).Inevitable endpointContract EndpointAction.winds
      (AtRest actions) actions ↔ world.Unblocked := by
  have winding : world.Winding actions actions := ⟨run, rfl, rfl⟩
  constructor
  · intro inevitable
    by_contra blocked
    refine Machine.not_inevitable
      (fun more world => world.Winding actions more ∧ ¬world.Unblocked) run
      ⟨winding, blocked⟩ ?_ ?_ inevitable
    · intro more world action _ ⟨winding, blocked⟩ winds allowed
      refine ⟨winding.step winds allowed, ?_⟩
      intro unblocked
      exact blocked ((unblocked_step winding.run winds allowed).mp unblocked)
    · intro more world ⟨winding, blocked⟩ rest
      exact blocked (unblocked_of_atRest winding.run
        (winding.atRest_iff.mp rest))
  · intro unblocked
    apply run.inevitable
      (fun more world => world.Winding actions more ∧ world.Unblocked) remaining
      ⟨winding, unblocked⟩
    · intro more world action _ ⟨winding, unblocked⟩ winds allowed
      exact ⟨⟨winding.step winds allowed,
        (unblocked_step winding.run winds allowed).mpr unblocked⟩,
        remaining_step winding.run winds allowed⟩
    · intro more world _ ⟨winding, unblocked⟩ quiet
      exact winding.atRest_iff.mpr
        (atRest_of_quiet winding.run quiet unblocked)

/-- A client with a stream, whose reader waits for data while another stream is
being handed over. -/
def busyClient : List EndpointAction :=
  bringConnection 0 7 ++ bringStream 7 20 ++
    [.stream 20 (.receive [0] 1), .stream 20 .receiveInitiate,
      .connection 7 .accept, .connection 7 (.event (.peerStreamStarted 21)),
      .connection 7 (.streamStarted .acquire), .listener .stop]

private theorem busyClient_run :
    (endpointMachine .reference).Run endpointContract
    busyClient ((endpointMachine .reference).exec busyClient) :=
  Machine.run_of_checks busyClient (by decide)

theorem comes_to_rest_iff_busyClient :
    (endpointMachine .reference).Inevitable endpointContract
      EndpointAction.winds (AtRest busyClient) busyClient :=
  (comes_to_rest_iff busyClient_run).mpr
    (unblocked_of_registered busyClient_run (by decide) (by decide))

end EndpointWorld

end MsquicAsio
