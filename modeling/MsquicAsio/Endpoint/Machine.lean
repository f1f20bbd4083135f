/-
A server endpoint: a listener, the connections that it brings and the streams
that those bring.

The contexts live on the heap, and each callback runs on its own.  So the
statements of all of them, and of every call of the front end, interleave
freely.  What ties the parts together is what msquic and the handlers are given:
an event reaches a context only after `set_callback`, and a call is made only on
an object that a handler of `async_accept` was given.
-/
import MsquicAsio.Lib.Family
import MsquicAsio.Connection.Completion
import MsquicAsio.Listener.WindDown
import MsquicAsio.Stream.Completion

set_option autoImplicit false

namespace MsquicAsio

variable {O : Oneshot}

/-! ### Calls and announcements of the parts -/

def ConnectionAction.isCall : ConnectionAction → Bool
  | .start (.create _) => true
  | .connect => true
  | .accept => true
  | .shutdown => true
  | _ => false

def StreamAction.isCall : StreamAction → Bool
  | .start (.create _) => true
  | .send (.create _) => true
  | .receive _ _ => true
  | .shutdown _ => true
  | _ => false

def ListenerAction.arrived : ListenerAction → Option Hquic
  | .event (.newConnection connection) => some connection
  | _ => none

def arrivedConnections (actions : List ListenerAction) : List Hquic :=
  actions.filterMap ListenerAction.arrived

def ListenerWorld.acceptedConnections (world : ListenerWorld O) : List Hquic :=
  world.accepted.filterMap fun entry =>
    if entry.2.1 = .success then entry.2.2.h else none

def ConnectionWorld.acceptedStreams (world : ConnectionWorld O) : List Hquic :=
  world.accepted.filterMap fun message =>
    if message.1 = .success then message.2.h else none

/-! ### The system -/

/-- A connection or a stream is in its initial state until something happens to
it. -/
structure EndpointWorld (O : Oneshot) where
  listener : ListenerWorld O
  connections : Hquic → ConnectionWorld O
  streams : Hquic → StreamWorld O

inductive EndpointAction
  | listener (action : ListenerAction)
  | connection (handle : Hquic) (action : ConnectionAction)
  | stream (handle : Hquic) (action : StreamAction)
  deriving DecidableEq

namespace EndpointAction

def listener? : EndpointAction → Option ListenerAction
  | .listener action => some action
  | _ => none

def connection? (handle : Hquic) : EndpointAction → Option ConnectionAction
  | .connection other action => if other = handle then some action else none
  | _ => none

def stream? (handle : Hquic) : EndpointAction → Option StreamAction
  | .stream other action => if other = handle then some action else none
  | _ => none

def started : EndpointAction → Option (Hquic × Hquic)
  | .connection owner action =>
      action.startedStream.map fun stream => (owner, stream)
  | _ => none

end EndpointAction

namespace EndpointWorld

def initial : EndpointWorld O where
  listener := .initial
  connections := fun _ => .initial
  streams := fun _ => .initial

def step (world : EndpointWorld O) : EndpointAction → EndpointWorld O
  | .listener action =>
      { world with listener := world.listener.step action }
  | .connection handle action =>
      { world with
        connections := Function.update world.connections handle
          ((world.connections handle).step action) }
  | .stream handle action =>
      { world with
        streams := Function.update world.streams handle
          ((world.streams handle).step action) }

/-- `set_callback` was called on the connection. -/
def HasConnection (world : EndpointWorld O) (handle : Hquic) : Prop :=
  handle ∈ world.listener.registered

/-- `set_callback` was called on the stream, in the callback of one of the
connections. -/
def HasStream (world : EndpointWorld O) (handle : Hquic) : Prop :=
  ∃ owner ∈ world.listener.registered,
    handle ∈ (world.connections owner).callbacks

def HoldsStream (world : EndpointWorld O) (handle : Hquic) : Prop :=
  ∃ owner ∈ world.listener.registered,
    handle ∈ (world.connections owner).acceptedStreams

instance (world : EndpointWorld O) (handle : Hquic) :
    Decidable (world.HasConnection handle) :=
  inferInstanceAs (Decidable (_ ∈ _))

instance (world : EndpointWorld O) (handle : Hquic) :
    Decidable (world.HasStream handle) :=
  inferInstanceAs (Decidable (∃ _ ∈ _, _ ∈ _))

instance (world : EndpointWorld O) (handle : Hquic) :
    Decidable (world.HoldsStream handle) :=
  inferInstanceAs (Decidable (∃ _ ∈ _, _ ∈ _))

end EndpointWorld

def endpointMachine (O : Oneshot) :
    Machine (EndpointWorld O) EndpointAction where
  initial := .initial
  step := EndpointWorld.step

/-! ### Its components -/

namespace EndpointWorld

def listenerPart : (endpointMachine O).Component (listenerMachine O) where
  route := EndpointAction.listener?
  view := EndpointWorld.listener
  start := rfl
  own := by
    intro world action step routed
    cases action with
    | listener action =>
        obtain rfl := Option.some.inj routed
        rfl
    | connection | stream => cases routed
  other := by
    intro world action routed
    cases action with
    | listener => cases routed
    | connection | stream => rfl

def connectionPart (handle : Hquic) :
    (endpointMachine O).Component (connectionMachine O) where
  route := EndpointAction.connection? handle
  view := fun world => world.connections handle
  start := rfl
  own := by
    intro world action step routed
    cases action with
    | connection other action =>
        simp only [EndpointAction.connection?] at routed
        split at routed
        · rename_i same
          obtain rfl := Option.some.inj routed
          rw [← same]
          exact Function.update_self ..
        · cases routed
    | listener | stream => cases routed
  other := by
    intro world action routed
    cases action with
    | connection other action =>
        simp only [EndpointAction.connection?] at routed
        split at routed
        · cases routed
        · rename_i different
          exact Function.update_of_ne (Ne.symm different) _ _
    | listener | stream => rfl

def streamPart (handle : Hquic) :
    (endpointMachine O).Component (streamMachine O) where
  route := EndpointAction.stream? handle
  view := fun world => world.streams handle
  start := rfl
  own := by
    intro world action step routed
    cases action with
    | stream other action =>
        simp only [EndpointAction.stream?] at routed
        split at routed
        · rename_i same
          obtain rfl := Option.some.inj routed
          rw [← same]
          exact Function.update_self ..
        · cases routed
    | listener | connection => cases routed
  other := by
    intro world action routed
    cases action with
    | stream other action =>
        simp only [EndpointAction.stream?] at routed
        split at routed
        · cases routed
        · rename_i different
          exact Function.update_of_ne (Ne.symm different) _ _
    | listener | connection => rfl

def listenerActions (actions : List EndpointAction) : List ListenerAction :=
  actions.filterMap EndpointAction.listener?

def connectionActions (handle : Hquic) (actions : List EndpointAction) :
    List ConnectionAction :=
  actions.filterMap (EndpointAction.connection? handle)

def streamActions (handle : Hquic) (actions : List EndpointAction) :
    List StreamAction :=
  actions.filterMap (EndpointAction.stream? handle)

def startedBy (actions : List EndpointAction) : List (Hquic × Hquic) :=
  actions.filterMap EndpointAction.started

/-! ### The contract -/

/-- Each part keeps to its own contract.  msquic announces a native handle once
and calls back only after `set_callback`; the application calls only what its
handlers were given. -/
def endpointContract : Environment (EndpointWorld O) EndpointAction :=
  fun actions world action =>
    match action with
    | .listener action =>
        ListenerWorld.stopContract (listenerActions actions) world.listener
            action ∧
          ∀ handle ∈ action.arrived,
            handle ∉ arrivedConnections (listenerActions actions)
    | .connection handle action =>
        ConnectionWorld.serverContract (connectionActions handle actions)
            (world.connections handle) action ∧
          (action.isEvent = true → world.HasConnection handle) ∧
          (action.isCall = true →
            handle ∈ world.listener.acceptedConnections) ∧
          ∀ stream ∈ action.startedStream,
            stream ∉ (startedBy actions).map Prod.snd
    | .stream handle action =>
        StreamWorld.contract (streamActions handle actions)
            (world.streams handle) action ∧
          (action.isEvent = true → world.HasStream handle) ∧
          (action.isCall = true → world.HoldsStream handle)

instance (actions : List EndpointAction) (world : EndpointWorld O)
    (action : EndpointAction) :
    Decidable (endpointContract actions world action) :=
  match action with
  | .listener _ => inferInstanceAs (Decidable (_ ∧ ∀ _ ∈ _, _))
  | .connection _ _ =>
      inferInstanceAs (Decidable (_ ∧ (_ → _) ∧ (_ → _) ∧ ∀ _ ∈ _, _))
  | .stream _ _ => inferInstanceAs (Decidable (_ ∧ (_ → _) ∧ (_ → _)))

variable {actions : List EndpointAction} {world : EndpointWorld O}

theorem listenerRun
    (run : (endpointMachine O).Run endpointContract actions world) :
    (listenerMachine O).Run ListenerWorld.stopContract (listenerActions actions)
      world.listener := by
  apply listenerPart.run _ run
  intro actions world action step allowed routed
  cases action with
  | listener action =>
      obtain rfl := Option.some.inj routed
      exact allowed.1
  | connection | stream => cases routed

theorem connectionRun
    (run : (endpointMachine O).Run endpointContract actions world)
    (handle : Hquic) :
    (connectionMachine O).Run ConnectionWorld.serverContract
      (connectionActions handle actions) (world.connections handle) := by
  apply (connectionPart handle).run _ run
  intro actions world action step allowed routed
  cases action with
  | connection other action =>
      simp only [connectionPart, EndpointAction.connection?] at routed
      split at routed
      · rename_i same
        obtain rfl := Option.some.inj routed
        subst same
        exact allowed.1
      · cases routed
  | listener | stream => cases routed

theorem streamRun
    (run : (endpointMachine O).Run endpointContract actions world)
    (handle : Hquic) :
    (streamMachine O).Run StreamWorld.contract (streamActions handle actions)
      (world.streams handle) := by
  apply (streamPart handle).run _ run
  intro actions world action step allowed routed
  cases action with
  | stream other action =>
      simp only [streamPart, EndpointAction.stream?] at routed
      split at routed
      · rename_i same
        obtain rfl := Option.some.inj routed
        subst same
        exact allowed.1
      · cases routed
  | listener | connection => cases routed

end EndpointWorld

end MsquicAsio
