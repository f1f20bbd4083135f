/-
Where the native handles of an endpoint go.

msquic announces a connection to the listener and a stream to a connection.
Each is handed to one handler only, in the whole endpoint, and no part does
anything before `set_callback` was called on its handle.
-/
import MsquicAsio.Endpoint.Machine

set_option autoImplicit false

namespace MsquicAsio

variable {O : Oneshot}

/-! ### The connections of a listener -/

def NewConnection.registered (callback : NewConnection) : Bool :=
  match callback.place with
  | .registered => true
  | .configured => true
  | .returned _ => true
  | _ => false

theorem arrivedConnections_concat (actions : List ListenerAction)
    (action : ListenerAction) :
    arrivedConnections (actions ++ [action]) =
      arrivedConnections actions ++ action.arrived.toList :=
  Machine.filterMap_concat _ actions action

namespace ListenerWorld

/-- The callbacks are those of the NEW_CONNECTION events, and `set_callback` was
called on their connections and on no others. -/
structure Arrivals (actions : List ListenerAction) (world : ListenerWorld O) :
    Prop where
  arrived : world.callbacks.map NewConnection.connection =
    arrivedConnections actions
  announced : ∀ handle ∈ world.registered, handle ∈ arrivedConnections actions
  registered : ∀ callback ∈ world.callbacks, callback.registered = true →
    callback.connection ∈ world.registered

private theorem map_moved {world : ListenerWorld O} {index : Nat}
    {before : NewConnection} (here : world.callbacks[index]? = some before)
    (place : NewConnectionPlace) :
    (world.moved index before.connection place).map NewConnection.connection =
      world.callbacks.map NewConnection.connection := by
  apply List.ext_getElem?
  intro other
  by_cases same : index = other
  · subst same
    rw [List.getElem?_map, List.getElem?_map, here, moved_self here]
    rfl
  · rw [List.getElem?_map, List.getElem?_map, moved_other same]

namespace Arrivals

variable {actions : List ListenerAction} {world after : ListenerWorld O}
  {index : Nat} {connection : Hquic}

private theorem moved (arrivals : world.Arrivals actions)
    {before : NewConnection}
    {place : NewConnectionPlace}
    (here : world.callbacks[index]? = some before)
    (moves : after.callbacks = world.moved index before.connection place)
    (keeps : ∀ handle ∈ world.registered, handle ∈ after.registered)
    (only : ∀ handle ∈ after.registered,
      handle ∈ world.registered ∨ handle = before.connection)
    (calls : (NewConnection.mk before.connection place).registered = true →
      before.connection ∈ after.registered) :
    after.Arrivals actions := by
  have member : before.connection ∈ arrivedConnections actions := by
    rw [← arrivals.arrived]
    exact List.mem_map_of_mem (List.mem_of_getElem? here)
  refine
    { arrived := ?_
      announced := ?_
      registered := ?_ }
  · rw [moves, map_moved here]
    exact arrivals.arrived
  · intro handle inAfter
    rcases only handle inAfter with old | rfl
    · exact arrivals.announced handle old
    · exact member
  · intro callback inAfter isRegistered
    rw [moves] at inAfter
    rcases List.mem_or_eq_of_mem_set inAfter with old | rfl
    · exact keeps _ (arrivals.registered callback old isRegistered)
    · exact calls isRegistered

private theorem newConnection (arrivals : world.Arrivals actions)
    {statement : NewConnectionStep}
    (running : world.Running index connection statement) :
    (world.newConnection index statement).Arrivals actions := by
  have old : ∀ {place : NewConnectionPlace},
      world.callbacks[index]? = some ⟨connection, place⟩ →
        (NewConnection.mk connection place).registered = true →
          connection ∈ world.registered := by
    intro place here isRegistered
    exact arrivals.registered _ (List.mem_of_getElem? here) isRegistered
  cases running with
  | unlock here | acquire here | assertAccept here | clearAccept here =>
      refine arrivals.moved here
        (by simp only [ListenerWorld.newConnection, here]; rfl) ?_ ?_ ?_
      all_goals simp only [ListenerWorld.newConnection, here]
      · exact fun handle member => member
      · exact fun handle member => Or.inl member
      · intro impossible
        cases impossible
  | setCallback here =>
      refine arrivals.moved here
        (by simp only [ListenerWorld.newConnection, here]; rfl) ?_ ?_ ?_
      all_goals
        simp only [ListenerWorld.newConnection, here, List.mem_append,
          List.mem_singleton]
      · exact fun handle member => Or.inl member
      · exact fun handle member => member
      · exact fun _ => Or.inr trivial
  | setConfig here =>
      refine arrivals.moved here
        (by simp only [ListenerWorld.newConnection, here]; rfl) ?_ ?_ ?_
      all_goals simp only [ListenerWorld.newConnection, here]
      · exact fun handle member => member
      · exact fun handle member => Or.inl member
      · exact fun _ => old here rfl
  | send here =>
      cases sent : world.ctx.accept.send (.success, .assign connection) with
      | none =>
          simp only [ListenerWorld.newConnection, here, sent]
          exact { arrivals with }
      | some port =>
          refine arrivals.moved here
            (by simp only [ListenerWorld.newConnection, here, sent]; rfl)
            ?_ ?_ ?_
          all_goals simp only [ListenerWorld.newConnection, here, sent]
          · exact fun handle member => member
          · exact fun handle member => Or.inl member
          · exact fun _ => old here rfl

private theorem step (arrivals : world.Arrivals actions)
    {action : ListenerAction}
    (enabled : world.enabled action = true) :
    (world.step action).Arrivals (actions ++ [action]) := by
  simp only [ListenerWorld.enabled, Bool.and_eq_true] at enabled
  have quiet : ∀ {after : ListenerWorld O}, after.callbacks = world.callbacks →
      after.registered = world.registered → action.arrived = none →
        after.Arrivals (actions ++ [action]) := by
    intro after sameCallbacks sameRegistered none_
    have same : arrivedConnections (actions ++ [action]) =
        arrivedConnections actions := by
      rw [arrivedConnections_concat, none_]
      exact List.append_nil _
    refine
      { arrived := ?_
        announced := ?_
        registered := ?_ }
    · rw [same, sameCallbacks]
      exact arrivals.arrived
    · rw [same, sameRegistered]
      exact arrivals.announced
    · rw [sameCallbacks, sameRegistered]
      exact arrivals.registered
  cases action with
  | event event =>
      cases event with
      | newConnection connection =>
          refine
            { arrived := ?_
              announced := ?_
              registered := ?_ }
          · rw [arrivedConnections_concat, ← arrivals.arrived]
            exact List.map_append
          · intro handle member
            rw [arrivedConnections_concat]
            exact List.mem_append_left _ (arrivals.announced handle member)
          · intro callback member isRegistered
            rcases List.mem_append.mp member with old | new
            · exact arrivals.registered callback old isRegistered
            · obtain rfl := List.mem_singleton.mp new
              cases isRegistered
      | stopComplete | other => exact quiet rfl rfl rfl
  | newConnection index statement =>
      obtain ⟨connection, running⟩ := world.running_of_enabled enabled.2
      have after := arrivals.newConnection running
      have same : arrivedConnections
          (actions ++ [.newConnection index statement]) =
            arrivedConnections actions := by
        rw [arrivedConnections_concat]
        exact List.append_nil _
      refine
        { arrived := ?_
          announced := ?_
          registered := after.registered }
      · rw [same]
        exact after.arrived
      · rw [same]
        exact after.announced
  | accept | listenerStop | listenerStopReturns => exact quiet rfl rfl rfl
  | acceptInitiate | acceptHandler | stop | stopInitiate | stopHandler =>
      simp only [ListenerWorld.step]
      split <;> exact quiet rfl rfl rfl

end Arrivals

variable {actions : List ListenerAction} {world : ListenerWorld O}

private theorem arrivals_of_run
    (run : (listenerMachine O).Run oneCall actions world) :
    world.Arrivals actions := by
  apply run.invariant (fun actions world => world.Arrivals actions)
  · exact
      { arrived := rfl
        announced := by intro handle impossible; cases impossible
        registered := by intro callback impossible; cases impossible }
  · intro actions world action _ arrivals allowed
    exact arrivals.step allowed.1

private theorem returned_of_accepted {stopped : Bool}
    (listening : world.Listening stopped)
    {entry : Option Nat × MoveAcceptMessage} (member : entry ∈ world.accepted)
    {handle : Hquic}
    (gets : (if entry.2.1 = .success then entry.2.2.h else none) =
      some handle) :
    ∃ index : Nat, world.callbacks[index]? =
      some ⟨handle, .returned entry.1⟩ := by
  split at gets
  · rename_i success
    obtain ⟨id, own, held⟩ := listening.received.own entry member
    obtain ⟨index, connection, here, same⟩ :=
      listening.handed.only id entry.2 held success
    rw [same] at gets
    obtain rfl := Option.some.inj gets
    rw [own]
    exact ⟨index, here⟩
  · cases gets

private theorem registered_of_accepted {stopped : Bool}
    (listening : world.Listening stopped) (arrivals : world.Arrivals actions)
    {handle : Hquic} (member : handle ∈ world.acceptedConnections) :
    handle ∈ world.registered := by
  obtain ⟨entry, inside, gets⟩ := List.mem_filterMap.mp member
  obtain ⟨index, here⟩ := returned_of_accepted listening inside gets
  exact arrivals.registered _ (List.mem_of_getElem? here) rfl

private theorem acceptedConnections_nodup {stopped : Bool}
    (listening : world.Listening stopped) (arrivals : world.Arrivals actions)
    (distinct : (arrivedConnections actions).Nodup) :
    world.acceptedConnections.Nodup := by
  rw [← arrivals.arrived] at distinct
  rw [acceptedConnections, List.Nodup, List.pairwise_filterMap]
  have once : world.accepted.Pairwise (fun left right => left.1 ≠ right.1) :=
    List.pairwise_map.mp listening.received.once
  refine once.imp_of_mem ?_
  intro left right inLeft inRight different handle getsLeft other getsRight same
  subst same
  obtain ⟨first, atFirst⟩ := returned_of_accepted listening inLeft getsLeft
  obtain ⟨second, atSecond⟩ := returned_of_accepted listening inRight getsRight
  have sameIndex : first = second := by
    have inside : first < (world.callbacks.map
        NewConnection.connection).length := by
      rw [List.length_map]
      exact (List.getElem?_eq_some_iff.mp atFirst).1
    apply (List.getElem?_inj inside distinct).mp
    rw [List.getElem?_map, List.getElem?_map, atFirst, atSecond]
    rfl
  subst sameIndex
  have samePlace := Option.some.inj (atFirst.symm.trans atSecond)
  exact different (NewConnectionPlace.returned.inj
    (NewConnection.mk.inj samePlace).2)

end ListenerWorld

/-! ### The streams of a connection -/

namespace ConnectionWorld

variable {actions : List ConnectionAction} {world : ConnectionWorld O}

private theorem callbacks_step (world : ConnectionWorld O)
    (action : ConnectionAction) :
    (world.step action).callbacks = world.callbacks ∨
      ∃ stream, world.callback.stream = some stream ∧
        (world.step action).callbacks = world.callbacks ++ [stream] := by
  cases action with
  | event | connect | accept | shutdown => exact Or.inl rfl
  | streamStarted statement =>
      simp only [ConnectionWorld.step, streamStarted]
      split
      · exact Or.inl rfl
      · exact Or.inl rfl
      · exact Or.inl rfl
      · rename_i stream place
        rw [place]
        exact Or.inr ⟨stream, rfl, rfl⟩
      · left
        split <;> rfl
      · exact Or.inl rfl
  | start statement =>
      left
      simp only [ConnectionWorld.step, asyncStart]
      split <;> rfl
  | connectInitiate | connectHandler | acceptInitiate | acceptHandler
  | shutdownInitiate | shutdownHandler =>
      left
      simp only [ConnectionWorld.step]
      split <;> rfl

theorem callbacks_of_run
    (run : (connectionMachine O).Run acceptOrder actions world) :
    ∀ stream ∈ world.callbacks, stream ∈ startedStreams actions := by
  apply run.invariant
    (fun actions world => ∀ stream ∈ world.callbacks,
      stream ∈ startedStreams actions)
  · intro stream impossible
    cases impossible
  · intro actions world action before known _ stream member
    rw [startedStreams_append]
    apply List.mem_append_left
    change stream ∈ (world.step action).callbacks at member
    rcases world.callbacks_step action with same | ⟨brought, brings, same⟩
    · rw [same] at member
      exact known stream member
    · rw [same] at member
      rcases List.mem_append.mp member with old | new
      · exact known stream old
      · obtain rfl := List.mem_singleton.mp new
        have order := (accepting_of_run before).order
        change startedStreams actions =
          world.handed.map Prod.snd ++ world.callback.stream.toList at order
        rw [order, brings]
        exact List.mem_append_right _ (List.mem_singleton_self _)

/-- The handlers get the streams in the order in which they were started, each
with its callback set. -/
private theorem acceptedStreams_of_run
    (run : (connectionMachine O).Run acceptOrder actions world) :
    world.acceptedStreams <+: startedStreams actions ∧
      ∀ stream ∈ world.acceptedStreams, stream ∈ world.callbacks := by
  have accepting := accepting_of_run run
  obtain ⟨rest, same, _⟩ := accepting.delivered
  have order : startedStreams actions =
      world.handed.map Prod.snd ++ world.callback.stream.toList :=
    accepting.order
  change world.handed.map (fun entry => AcceptPart.streamMessage entry.2) =
    world.accepted.filter (fun message => message.1 = .success) ++ rest at same
  have given : world.acceptedStreams =
      (world.accepted.filter (fun message => message.1 = .success)).filterMap
        fun message => message.2.h := by
    rw [acceptedStreams, List.filterMap_filter]
    apply List.filterMap_congr
    intro message _
    simp only [decide_eq_true_eq]
  have split : world.handed.map Prod.snd =
      world.acceptedStreams ++ rest.filterMap fun message => message.2.h := by
    rw [given, ← List.filterMap_append, ← same, List.filterMap_map]
    exact (List.filterMap_eq_map (f := Prod.snd)).symm ▸ rfl
  constructor
  · rw [order, split, List.append_assoc]
    exact List.prefix_append _ _
  · intro stream member
    have handed : stream ∈ world.handed.map Prod.snd := by
      rw [split]
      exact List.mem_append_left _ member
    obtain ⟨entry, inHanded, rfl⟩ := List.mem_map.mp handed
    obtain ⟨_, _, _, inCallbacks⟩ := accepting.handed entry inHanded
    exact inCallbacks

theorem enabled_initial {action : ConnectionAction}
    (enabled : (initial : ConnectionWorld O).enabled action = true) :
    action.isEvent = true ∨ action.isCall = true := by
  cases action with
  | event => exact Or.inl rfl
  | connect | accept | shutdown => exact Or.inr rfl
  | start statement =>
      cases statement with
      | create => exact Or.inr rfl
      | _ => cases enabled
  | streamStarted statement => cases statement <;> cases enabled
  | connectInitiate | connectHandler | acceptInitiate | acceptHandler
  | shutdownInitiate | shutdownHandler => cases enabled

end ConnectionWorld

theorem StreamWorld.enabled_initial {action : StreamAction}
    (enabled : (StreamWorld.initial : StreamWorld O).enabled action = true) :
    action.isEvent = true ∨ action.isCall = true := by
  cases action with
  | event => exact Or.inl rfl
  | receive | shutdown => exact Or.inr rfl
  | start statement | send statement =>
      cases statement with
      | create => exact Or.inr rfl
      | _ => cases enabled
  | receiveInitiate | receiveHandler | receiveInvoke | shutdownInitiate
  | shutdownHandler => cases enabled

/-! ### The whole endpoint -/

private theorem ListenerWorld.registered_step (world : ListenerWorld O)
    (action : ListenerAction) {handle : Hquic}
    (member : handle ∈ world.registered) :
    handle ∈ (world.step action).registered := by
  cases action with
  | event | accept | listenerStop | listenerStopReturns => exact member
  | newConnection index statement =>
      simp only [ListenerWorld.step, newConnection]
      split
      · exact member
      · exact member
      · exact member
      · exact member
      · exact List.mem_append_left _ member
      · exact member
      · split <;> exact member
      · exact member
  | acceptInitiate | acceptHandler | stop | stopInitiate | stopHandler =>
      simp only [ListenerWorld.step]
      split <;> exact member

namespace EndpointWorld

variable {actions : List EndpointAction} {world : EndpointWorld O}

private theorem startedStreams_connectionActions (owner : Hquic)
    (actions : List EndpointAction) :
    startedStreams (connectionActions owner actions) =
      ((startedBy actions).filter fun entry => entry.1 = owner).map
        Prod.snd := by
  induction actions using List.reverseRecOn with
  | nil => rfl
  | append_singleton actions action ih =>
      rw [connectionActions, startedBy, Machine.filterMap_concat,
        Machine.filterMap_concat, List.filter_append, List.map_append]
      change startedStreams (connectionActions owner actions ++ _) =
        ((startedBy actions).filter _).map _ ++ _
      cases action with
      | listener | stream =>
          simp only [EndpointAction.connection?, EndpointAction.started,
            Option.toList_none, List.filter_nil, List.map_nil, List.append_nil,
            ih]
      | connection other action =>
          by_cases same : other = owner
          · simp only [EndpointAction.connection?, EndpointAction.started, same,
              if_true, Option.toList_some, startedStreams_append, ih]
            cases action.startedStream with
            | none => rfl
            | some stream =>
                simp only [Option.map_some, Option.toList_some,
                  List.filter_cons, decide_true, if_true, List.filter_nil,
                  List.map_cons, List.map_nil]
          · simp only [EndpointAction.connection?, EndpointAction.started, same,
              if_false, Option.toList_none, List.append_nil, ih]
            cases action.startedStream with
            | none => exact (List.append_nil _).symm
            | some stream =>
                simp only [Option.map_some, Option.toList_some,
                  List.filter_cons, same, decide_false, Bool.false_eq_true,
                  if_false, List.filter_nil, List.map_nil, List.append_nil]

theorem mem_startedStreams_iff {owner stream : Hquic} :
    stream ∈ startedStreams (connectionActions owner actions) ↔
      (owner, stream) ∈ startedBy actions := by
  rw [startedStreams_connectionActions, List.mem_map]
  constructor
  · rintro ⟨⟨other, _⟩, member, rfl⟩
    obtain ⟨inside, same⟩ := List.mem_filter.mp member
    obtain rfl := of_decide_eq_true same
    exact inside
  · intro member
    exact ⟨_, List.mem_filter.mpr ⟨member, decide_eq_true rfl⟩, rfl⟩

private theorem startedBy_nodup
    (run : (endpointMachine O).Run endpointContract actions world) :
    ((startedBy actions).map Prod.snd).Nodup := by
  apply run.invariant
    (fun actions _ => ((startedBy actions).map Prod.snd).Nodup) List.nodup_nil
  intro actions world action _ distinct allowed
  rw [startedBy, Machine.filterMap_concat, List.map_append]
  cases starts : action.started with
  | none => rwa [Option.toList_none, List.map_nil, List.append_nil]
  | some entry =>
      cases action with
      | listener | stream => cases starts
      | connection owner action =>
          obtain ⟨stream, brings, rfl⟩ := Option.map_eq_some_iff.mp starts
          refine List.Nodup.append distinct (List.nodup_singleton _) ?_
          intro other member new
          obtain rfl := List.mem_singleton.mp new
          exact allowed.2.2.2 _ brings member

private theorem arrived_nodup
    (run : (endpointMachine O).Run endpointContract actions world) :
    (arrivedConnections (listenerActions actions)).Nodup := by
  apply run.invariant
    (fun actions _ => (arrivedConnections (listenerActions actions)).Nodup)
    List.nodup_nil
  intro actions world action _ distinct allowed
  rw [listenerActions, Machine.filterMap_concat]
  cases action with
  | connection | stream =>
      simp only [EndpointAction.listener?, Option.toList_none, List.append_nil]
      exact distinct
  | listener action =>
      rw [EndpointAction.listener?, Option.toList_some,
        arrivedConnections_concat]
      cases brings : action.arrived with
      | none =>
          rw [Option.toList_none, List.append_nil]
          exact distinct
      | some handle =>
          refine List.Nodup.append distinct (List.nodup_singleton _) ?_
          intro other member new
          obtain rfl := List.mem_singleton.mp new
          exact allowed.2 _ brings member

theorem listening_of_run
    (run : (endpointMachine O).Run endpointContract actions world) :
    world.listener.Listening
        (ListenerWorld.stopCompleted (listenerActions actions)) ∧
      world.listener.Arrivals (listenerActions actions) :=
  ⟨ListenerWorld.listening_of_stopContract (listenerRun run),
    ListenerWorld.arrivals_of_run
      ((listenerRun run).mono fun _ _ _ allowed => allowed.1)⟩

theorem acceptRun
    (run : (endpointMachine O).Run endpointContract actions world)
    (handle : Hquic) :
    (connectionMachine O).Run ConnectionWorld.acceptOrder
      (connectionActions handle actions) (world.connections handle) :=
  (connectionRun run handle).mono fun _ _ _ allowed => allowed.1

private theorem hasConnection_step {action : EndpointAction} {handle : Hquic}
    (has : world.HasConnection handle) :
    (world.step action).HasConnection handle := by
  cases action with
  | connection | stream => exact has
  | listener action => exact world.listener.registered_step action has

private theorem hasStream_step {action : EndpointAction} {handle : Hquic}
    (has : world.HasStream handle) : (world.step action).HasStream handle := by
  obtain ⟨owner, registered, member⟩ := has
  cases action with
  | stream => exact ⟨owner, registered, member⟩
  | listener action =>
      exact ⟨owner, world.listener.registered_step action registered, member⟩
  | connection other action =>
      refine ⟨owner, registered, ?_⟩
      simp only [step]
      by_cases same : owner = other
      · subst same
        rw [Function.update_self]
        rcases (world.connections owner).callbacks_step action with
          kept | ⟨stream, _, more⟩
        · rwa [kept]
        · rw [more]
          exact List.mem_append_left _ member
      · rwa [Function.update_of_ne same]

private theorem hasConnection_of_accepted
    (run : (endpointMachine O).Run endpointContract actions world)
    {handle : Hquic} (member : handle ∈ world.listener.acceptedConnections) :
    world.HasConnection handle := by
  obtain ⟨listening, arrivals⟩ := listening_of_run run
  exact ListenerWorld.registered_of_accepted listening arrivals member

private theorem hasStream_of_holds
    (run : (endpointMachine O).Run endpointContract actions world)
    {handle : Hquic} (holds : world.HoldsStream handle) :
    world.HasStream handle := by
  obtain ⟨owner, registered, member⟩ := holds
  have given :=
    (ConnectionWorld.acceptedStreams_of_run (acceptRun run owner)).2
  exact ⟨owner, registered, given handle member⟩

theorem untouched_connection
    (run : (endpointMachine O).Run endpointContract actions world)
    {handle : Hquic} (unset : ¬world.HasConnection handle) :
    world.connections handle = .initial := by
  revert unset
  apply run.invariant (fun _ world => ¬world.HasConnection handle →
    world.connections handle = .initial)
  · intro _
    rfl
  · intro actions world action before untouched allowed unset
    have unsetBefore : ¬world.HasConnection handle :=
      fun has => unset (hasConnection_step has)
    have same := untouched unsetBefore
    cases action with
    | listener | stream => exact same
    | connection other action =>
        by_cases here : other = handle
        · subst here
          have enabled := allowed.1.1.1
          rw [same] at enabled
          rcases ConnectionWorld.enabled_initial enabled with event | call
          · exact absurd (allowed.2.1 event) unsetBefore
          · exact absurd (hasConnection_of_accepted before
              (allowed.2.2.1 call)) unsetBefore
        · change Function.update _ _ _ handle = _
          rw [Function.update_of_ne (Ne.symm here)]
          exact same

theorem untouched_stream
    (run : (endpointMachine O).Run endpointContract actions world)
    {handle : Hquic} (unset : ¬world.HasStream handle) :
    world.streams handle = .initial := by
  revert unset
  apply run.invariant (fun _ world => ¬world.HasStream handle →
    world.streams handle = .initial)
  · intro _
    rfl
  · intro actions world action before untouched allowed unset
    have unsetBefore : ¬world.HasStream handle :=
      fun has => unset (hasStream_step has)
    have same := untouched unsetBefore
    cases action with
    | listener | connection => exact same
    | stream other action =>
        by_cases here : other = handle
        · subst here
          have enabled := allowed.1.1
          rw [same] at enabled
          rcases StreamWorld.enabled_initial enabled with event | call
          · exact absurd (allowed.2.1 event) unsetBefore
          · exact absurd (hasStream_of_holds before (allowed.2.2 call))
              unsetBefore
        · change Function.update _ _ _ handle = _
          rw [Function.update_of_ne (Ne.symm here)]
          exact same

/-- Each native handle goes to one handler of the endpoint, with its callback
set, and no part is touched before that. -/
structure Routed (actions : List EndpointAction) (world : EndpointWorld O) :
    Prop where
  connectionsOnce : world.listener.acceptedConnections.Nodup
  connectionsSet : ∀ handle ∈ world.listener.acceptedConnections,
    world.HasConnection handle
  /-- A connection hands on its own streams, in their order. -/
  streamsOwn : ∀ owner, (world.connections owner).acceptedStreams <+:
    startedStreams (connectionActions owner actions)
  streamsSet : ∀ owner, ∀ handle ∈ (world.connections owner).acceptedStreams,
    world.HasStream handle
  streamsOnce : ∀ owner, (world.connections owner).acceptedStreams.Nodup
  oneOwner : ∀ left right handle,
    handle ∈ (world.connections left).acceptedStreams →
      handle ∈ (world.connections right).acceptedStreams → left = right
  untouchedConnection : ∀ handle, ¬world.HasConnection handle →
    world.connections handle = .initial
  untouchedStream : ∀ handle, ¬world.HasStream handle →
    world.streams handle = .initial
  unthrown : world.listener.threw = false ∧
    (∀ handle, (world.connections handle).threw = false) ∧
    ∀ handle, (world.streams handle).threw = false

/-- However the statements of all callbacks and calls interleave, the native
handles of the endpoint are routed. -/
theorem routed_of_run
    (run : (endpointMachine O).Run endpointContract actions world) :
    world.Routed actions := by
  obtain ⟨listening, arrivals⟩ := listening_of_run run
  have distinct := startedBy_nodup run
  have given : ∀ owner, _ := fun owner =>
    ConnectionWorld.acceptedStreams_of_run (acceptRun run owner)
  have started : ∀ owner handle,
      handle ∈ (world.connections owner).acceptedStreams →
        (owner, handle) ∈ startedBy actions := by
    intro owner handle member
    exact mem_startedStreams_iff.mp ((given owner).1.subset member)
  have hasOwner : ∀ owner handle,
      handle ∈ (world.connections owner).acceptedStreams →
        world.HasConnection owner := by
    intro owner handle member
    by_contra unset
    rw [untouched_connection run unset] at member
    cases member
  exact
    { connectionsOnce := ListenerWorld.acceptedConnections_nodup listening
        arrivals (arrived_nodup run)
      connectionsSet := fun _ => hasConnection_of_accepted run
      streamsOwn := fun owner => (given owner).1
      streamsSet := fun owner handle member =>
        ⟨owner, hasOwner owner handle member, (given owner).2 handle member⟩
      streamsOnce := by
        intro owner
        apply (given owner).1.sublist.nodup
        rw [startedStreams_connectionActions]
        exact (List.filter_sublist.map _).nodup distinct
      oneOwner := by
        intro left right handle inLeft inRight
        have same := List.inj_on_of_nodup_map distinct
          (started left handle inLeft) (started right handle inRight) rfl
        exact congrArg Prod.fst same
      untouchedConnection := fun _ => untouched_connection run
      untouchedStream := fun _ => untouched_stream run
      unthrown := ⟨listening.noThrow,
        fun handle =>
          (ConnectionWorld.serving_of_run (connectionRun run handle)).unthrown,
        fun handle =>
          (StreamWorld.contracted_of_run (streamRun run handle)).unthrown⟩ }

def bringConnection (index : Nat) (handle : Hquic) : List EndpointAction :=
  [ListenerAction.accept, .acceptInitiate, .event (.newConnection handle),
    .newConnection index .unlock, .newConnection index .acquire,
    .newConnection index .assertAccept, .newConnection index .clearAccept,
    .newConnection index .setCallback, .newConnection index .setConfig,
    .newConnection index .send, .acceptHandler .success].map .listener

def bringStream (owner stream : Hquic) : List EndpointAction :=
  [ConnectionAction.accept, .acceptInitiate, .event (.peerStreamStarted stream),
    .streamStarted .acquire, .streamStarted .assertAccept,
    .streamStarted .clearAccept, .streamStarted .setCallback,
    .streamStarted .send, .acceptHandler .success].map (.connection owner)

/-- Two clients, with a stream each, and one of them is read from. -/
def twoClients : List EndpointAction :=
  bringConnection 0 7 ++ bringConnection 1 8 ++ bringStream 8 20 ++
    bringStream 7 21 ++
    [.stream 21 (.event (.receive [[5]])), .stream 21 (.receive [0] 1)]

theorem routed_of_run_twoClients :
    ((endpointMachine .reference).exec twoClients).Routed twoClients :=
  routed_of_run (Machine.run_of_checks twoClients (by decide))

end EndpointWorld

end MsquicAsio
