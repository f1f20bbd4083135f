/-
The objects of a session: the API table, registrations, configurations,
listeners, connections and streams, each in the scope in which it is constructed.

What a listener, a connection or a stream does between its opening and its
closing is in here only so far as it makes or hands on handles.
-/
import MsquicAsio.Lib.Holding
import MsquicAsio.Lib.Machine
import MsquicAsio.Msquic

set_option autoImplicit false

namespace MsquicAsio

open Disposal

inductive ObjectKind
  | registration
  | config
  | listener
  | connection
  | stream
  deriving DecidableEq

namespace ObjectKind

def parent : ObjectKind → Option ObjectKind
  | .registration => none
  | .config => some .registration
  | .listener => some .registration
  | .connection => some .registration
  | .stream => some .connection

def accepts : ObjectKind → Option ObjectKind
  | .listener => some .connection
  | .connection => some .stream
  | _ => none

end ObjectKind

inductive Resource
  | table (table : Nat)
  | handle (kind : ObjectKind) (handle : Hquic)
  deriving DecidableEq

/-! ### Calls of msquic -/

inductive ApiFunction
  | configurationLoadCredential
  | listenerStart
  | setCallbackHandler
  | connectionSetConfiguration
  | connectionSendResumptionTicket
  deriving DecidableEq

/-- A call that goes through the table, with the handles it is given other than
null, and an event with a handle in it. -/
inductive ApiCall
  | msQuicOpen2 (table : Nat)
  | msQuicClose (table : Nat)
  | open_ (kind : ObjectKind) (table : Nat) (parent : List Resource)
      (result : Option Hquic)
  | event (kind : ObjectKind) (table : Nat) (parent : List Resource)
      (handle : Hquic)
  | call (function : ApiFunction) (table : Nat) (handles : List Resource)
  | close (kind : ObjectKind) (table : Nat) (handle : Hquic)

/-- What a call does to the resources.  Whatever is opened needs the table and
the handle under which it is opened. -/
def ApiCall.events : ApiCall → List (Event Resource)
  | .msQuicOpen2 table => [.acquire (.table table) []]
  | .msQuicClose table => [.dispose (.table table)]
  | .open_ kind table parent (some handle) =>
      [.acquire (.handle kind handle) (.table table :: parent)]
  | .open_ _ table parent none => [.use (.table table :: parent)]
  | .event kind table parent handle =>
      [.acquire (.handle kind handle) (.table table :: parent)]
  | .call _ table handles => [.use (.table table :: handles)]
  | .close kind table handle =>
      [.use [.table table], .dispose (.handle kind handle)]

/-! ### The objects -/

structure SessionHandle where
  kind : ObjectKind
  h : Option Hquic
  api : Nat
  /-- The object that `config_` of a listener's context refers to. -/
  config : Option Nat
  /-- The handle of the object in the message that the context keeps until a
  handler of `async_accept` gets it. -/
  parked : Option Hquic
  deriving DecidableEq

inductive SessionObject
  | api (msQuic : Nat)
  | handle (handle : SessionHandle)
  deriving DecidableEq

namespace SessionHandle

def construct (kind : ObjectKind) (api : Nat) (config : Option Nat) :
    SessionHandle where
  kind := kind
  h := none
  api := api
  config := config
  parked := none

def assigned (kind : ObjectKind) (handle : Option Hquic) (api : Nat) :
    SessionHandle :=
  { construct kind api none with h := handle }

/-- What `native_handle` returns. -/
def own (handle : SessionHandle) : Option Resource :=
  handle.h.map (.handle handle.kind)

def waiting (handle : SessionHandle) : Option Resource :=
  match handle.kind.accepts, handle.parked with
  | some kind, some parked => some (.handle kind parked)
  | _, _ => none

end SessionHandle

namespace SessionObject

/-- What the object closes itself. -/
def own : SessionObject → List Resource
  | .api msQuic => [.table msQuic]
  | .handle object => object.own.toList

def holdings : SessionObject → List Resource
  | .api msQuic => [.table msQuic]
  | .handle object => object.own.toList ++ object.waiting.toList

end SessionObject

/-! ### The session -/

structure SessionWorld where
  arena : Arena SessionObject
  calls : List ApiCall
  errors : List ErrorCode

/-- The scope of a new object is the innermost object that outlives it. -/
inductive SessionAction
  | api (scope : Option Nat) (table : Nat)
  | construct (kind : ObjectKind) (scope : Nat) (api : Nat)
      (config : Option Nat)
  | open_ (index : Nat) (parent : Option Nat)
      (result : Except QuicStatus Hquic)
  | loadCred2 (index : Nat) (status : QuicStatus)
  | start (index : Nat) (status : QuicStatus)
  | setCallback (index : Nat)
  | setConfig (index : Nat) (config : Nat)
  | sendResumptionTicket (index : Nat) (status : QuicStatus)
  /-- NEW_CONNECTION, for a connection under the listener's registration. -/
  | newConnection (index : Nat) (connection registration : Hquic)
  | peerStreamStarted (index : Nat) (stream : Hquic)
  | asyncAccept (index : Nat)
  /-- The handler of `async_accept` gets its object. -/
  | accepted (index : Nat) (scope : Nat)
  | moveConstruct (index : Nat) (scope : Nat)
  | close (index : Nat)
  | destroy (index : Nat)

namespace SessionWorld

def initial : SessionWorld where
  arena := .empty
  calls := []
  errors := []

def events (world : SessionWorld) : List (Event Resource) :=
  world.calls.flatMap ApiCall.events

def handle? (world : SessionWorld) (index : Nat) : Option SessionHandle :=
  match world.arena.object? index with
  | some (.handle handle) => some handle
  | _ => none

def table? (world : SessionWorld) (index : Nat) : Option Nat :=
  match world.arena.object? index with
  | some (.api msQuic) => some msQuic
  | _ => none

def nativeHandle (world : SessionWorld) (index : Nat) : Option Resource :=
  (world.handle? index).bind SessionHandle.own

def record (world : SessionWorld) (call : ApiCall) : SessionWorld :=
  { world with calls := world.calls ++ [call] }

def put (world : SessionWorld) (index : Nat) (handle : SessionHandle) :
    SessionWorld :=
  { world with arena := world.arena.write index (some (.handle handle)) }

def begin (world : SessionWorld) (scope : Option Nat) (object : SessionObject) :
    SessionWorld :=
  { world with arena := world.arena.begin scope object }

def assign (world : SessionWorld) (error : ErrorCode) : SessionWorld :=
  { world with errors := world.errors ++ [error] }

/-! ### Opening -/

def api (world : SessionWorld) (scope : Option Nat) (table : Nat) :
    SessionWorld :=
  (world.begin scope (.api table)).record (.msQuicOpen2 table)

/-- The constructors over a handle.  That of a listener makes a context that
refers to the configuration. -/
def construct (world : SessionWorld) (kind : ObjectKind) (scope : Nat)
    (api : Nat) (config : Option Nat) : SessionWorld :=
  world.begin (some scope) (.handle (.construct kind api config))

def openHandle (error : QuicStatus → ErrorCode) (world : SessionWorld)
    (index : Nat) (handle : SessionHandle) (parent : List Resource) :
    Except QuicStatus Hquic → SessionWorld
  | .error status =>
      (world.record (.open_ handle.kind handle.api parent none)).assign
        (error status)
  | .ok opened =>
      (world.put index { handle with h := some opened }).record
        (.open_ handle.kind handle.api parent (some opened))

/-- `ec.assign(net::error::basic_errors::network_down, …)`. -/
def networkDown (_status : QuicStatus) : ErrorCode := .basic .networkDown

def registrationOpen (world : SessionWorld) (index : Nat)
    (handle : SessionHandle) :=
  openHandle ErrorCode.ofStatus world index handle []

def configOpen := openHandle ErrorCode.ofStatus

def listenerOpen := openHandle ErrorCode.ofStatus

def connectionOpen := openHandle networkDown

def streamOpen := openHandle networkDown

def open_ (world : SessionWorld) (index : Nat) (handle : SessionHandle)
    (parent : List Resource) (result : Except QuicStatus Hquic) : SessionWorld :=
  match handle.kind with
  | .registration => world.registrationOpen index handle result
  | .config => world.configOpen index handle parent result
  | .listener => world.listenerOpen index handle parent result
  | .connection => world.connectionOpen index handle parent result
  | .stream => world.streamOpen index handle parent result

/-! ### Other calls -/

def invoke (function : ApiFunction) (error : QuicStatus → ErrorCode)
    (world : SessionWorld) (handle : SessionHandle) (more : List Resource)
    (status : QuicStatus) : SessionWorld :=
  let called := world.record
    (.call function handle.api (handle.own.toList ++ more))
  if status.quicFailed = true then called.assign (error status) else called

def loadCred2 (world : SessionWorld) (config : SessionHandle) :=
  invoke .configurationLoadCredential ErrorCode.ofStatus world config []

def start (world : SessionWorld) (listener : SessionHandle) :=
  invoke .listenerStart ErrorCode.ofStatus world listener []

def sendResumptionTicket (world : SessionWorld) (connection : SessionHandle) :=
  invoke .connectionSendResumptionTicket networkDown world connection []

/-- `SetCallbackHandler` returns nothing. -/
def setCallback (world : SessionWorld) (handle : SessionHandle) :
    SessionWorld :=
  invoke .setCallbackHandler networkDown world handle [] .success

/-- The status of `ConnectionSetConfiguration` is not looked at. -/
def setConfig (world : SessionWorld) (connection : SessionHandle)
    (config : Option Resource) : SessionWorld :=
  invoke .connectionSetConfiguration networkDown world connection config.toList
    .success

/-! ### Accepting -/

/-- NEW_CONNECTION: the object of the callback goes into the message. -/
def newConnection (world : SessionWorld) (index : Nat)
    (listener : SessionHandle) (connection registration : Hquic) :
    SessionWorld :=
  let conn := SessionHandle.assigned .connection (some connection) listener.api
  let announced := world.record (.event .connection listener.api
    [.handle .registration registration] connection)
  let configured := (announced.setCallback conn).setConfig conn
    (listener.config.bind world.nativeHandle)
  configured.put index { listener with parked := some connection }

def peerStreamStarted (world : SessionWorld) (index : Nat)
    (connection : SessionHandle) (stream : Hquic) : SessionWorld :=
  let announced := world.record (.event .stream connection.api
    connection.own.toList stream)
  (announced.setCallback
    (.assigned .stream (some stream) connection.api)).put index
      { connection with parked := some stream }

/-- The message goes, and the object in it is destroyed. -/
def dropMessage (world : SessionWorld) (index : Nat) (handle : SessionHandle) :
    SessionWorld :=
  match handle.kind.accepts, handle.parked with
  | some kind, some parked =>
      (world.put index { handle with parked := none }).record
        (.close kind handle.api parked)
  | _, _ => world

/-- `async_accept` puts a new channel in the place of the old one. -/
def asyncAccept (world : SessionWorld) (index : Nat) (handle : SessionHandle) :
    SessionWorld :=
  world.dropMessage index handle

/-- `get()` moves the object out of the message. -/
def accepted (world : SessionWorld) (index : Nat) (handle : SessionHandle)
    (scope : Nat) : SessionWorld :=
  match handle.kind.accepts with
  | none => world
  | some kind =>
      (world.put index { handle with parked := none }).begin (some scope)
        (.handle (.assigned kind handle.parked handle.api))

/-! ### Moving and closing -/

/-- The move constructors of connections and streams: the handle and the context
go to the new object. -/
def moveConstruct (world : SessionWorld) (index : Nat) (other : SessionHandle)
    (scope : Nat) : SessionWorld :=
  (world.put index { other with h := none, parked := none }).begin (some scope)
    (.handle other)

def close (world : SessionWorld) (index : Nat) (handle : SessionHandle) :
    SessionWorld :=
  match handle.h with
  | none => world
  | some opened =>
      (world.put index { handle with h := none }).record
        (.close handle.kind handle.api opened)

/-- The destructors over a handle: `close()`, and then the context goes, with
the message in it. -/
def destroyHandle (world : SessionWorld) (index : Nat)
    (handle : SessionHandle) : SessionWorld :=
  let emptied := (world.close index handle).dropMessage index
    { handle with h := none }
  { emptied with arena := emptied.arena.write index none }

def destroyApi (world : SessionWorld) (index : Nat) (msQuic : Nat) :
    SessionWorld :=
  { world.record (.msQuicClose msQuic) with
    arena := world.arena.write index none }

def destroy (world : SessionWorld) (index : Nat) : SessionWorld :=
  match world.arena.object? index with
  | none => world
  | some (.api msQuic) => world.destroyApi index msQuic
  | some (.handle handle) => world.destroyHandle index handle

def step (world : SessionWorld) : SessionAction → SessionWorld
  | .api scope table => world.api scope table
  | .construct kind scope api config =>
      (world.table? api).elim world fun table =>
        world.construct kind scope table config
  | .open_ index parent result =>
      (world.handle? index).elim world fun handle =>
        world.open_ index handle (parent.bind world.nativeHandle).toList result
  | .loadCred2 index status =>
      (world.handle? index).elim world (world.loadCred2 · status)
  | .start index status =>
      (world.handle? index).elim world (world.start · status)
  | .setCallback index =>
      (world.handle? index).elim world world.setCallback
  | .setConfig index config =>
      (world.handle? index).elim world
        (world.setConfig · (world.nativeHandle config))
  | .sendResumptionTicket index status =>
      (world.handle? index).elim world (world.sendResumptionTicket · status)
  | .newConnection index connection registration =>
      (world.handle? index).elim world
        (world.newConnection index · connection registration)
  | .peerStreamStarted index stream =>
      (world.handle? index).elim world
        (world.peerStreamStarted index · stream)
  | .asyncAccept index =>
      (world.handle? index).elim world (world.asyncAccept index)
  | .accepted index scope =>
      (world.handle? index).elim world (world.accepted index · scope)
  | .moveConstruct index scope =>
      (world.handle? index).elim world (world.moveConstruct index · scope)
  | .close index => (world.handle? index).elim world (world.close index)
  | .destroy index => world.destroy index

end SessionWorld

def sessionMachine : Machine SessionWorld SessionAction where
  initial := .initial
  step := SessionWorld.step

namespace SessionWorld

def kind? (world : SessionWorld) (index : Nat) : Option ObjectKind :=
  (world.handle? index).map SessionHandle.kind

def Fresh (world : SessionWorld) (resource : Resource) : Prop :=
  resource ∉ (acquired world.events).map Prod.fst

def Alive (world : SessionWorld) (index : Nat) : Prop :=
  (world.arena.object? index).isSome = true

def InScope (world : SessionWorld) (scope index : Nat) : Prop :=
  index ∈ world.arena.inside (some scope)

/-- The constructor of a listener, and no other, takes a configuration. -/
def Configured (world : SessionWorld) (scope : Nat) (kind : ObjectKind)
    (config : Option Nat) : Prop :=
  if kind = .listener then
    ∃ outer ∈ config, world.InScope scope outer ∧
      world.kind? outer = some .config
  else config = none

/-- The object whose handle `open` gets outlives the one that is opened. -/
def Under (world : SessionWorld) (index : Nat) (kind : Option ObjectKind)
    (parent : Option Nat) : Prop :=
  if kind = none then parent = none
  else ∃ outer ∈ parent, outer ∈ world.arena.enclosing index ∧
    world.kind? outer = kind

def Answers (world : SessionWorld) (kind : ObjectKind) (parent : Option Nat) :
    Except QuicStatus Hquic → Prop
  | .error status => status.quicFailed = true
  | .ok opened =>
      world.Fresh (.handle kind opened) ∧
        ∀ outer ∈ parent, (world.nativeHandle outer).isSome = true

def IsOpen (world : SessionWorld) (index : Nat) (kinds : List ObjectKind) :
    Prop :=
  (∃ kind ∈ kinds, world.kind? index = some kind) ∧
    (world.nativeHandle index).isSome = true

/-- The lifetimes are those of scopes: an object is constructed where what it
refers to is in scope, and ends after what was constructed inside it.  An object
is moved or closed only when those inside it are closed, and its new place is in
no wider a scope. -/
def sessionContract : Environment SessionWorld SessionAction :=
  fun _ world action =>
    match action with
    | .api scope table =>
        (∀ outer ∈ scope, world.Alive outer) ∧ world.Fresh (.table table)
    | .construct kind scope api config =>
        world.Alive scope ∧ world.InScope scope api ∧
          (world.table? api).isSome = true ∧
          world.Configured scope kind config
    | .open_ index parent result =>
        ∃ handle ∈ world.handle? index,
          handle.h = none ∧ world.Under index handle.kind.parent parent ∧
            world.Answers handle.kind parent result
    | .loadCred2 index _ => world.IsOpen index [.config]
    | .start index _ => world.kind? index = some .listener
    | .setCallback index => world.IsOpen index [.connection, .stream]
    | .setConfig index config =>
        world.IsOpen index [.connection] ∧ world.kind? config = some .config
    | .sendResumptionTicket index _ => world.IsOpen index [.connection]
    | .newConnection index connection registration =>
        ∃ listener ∈ world.handle? index,
          listener.kind = .listener ∧ listener.parked = none ∧
            world.Fresh (.handle .connection connection) ∧
            ∃ entry ∈ acquired world.events, listener.own = some entry.1 ∧
              .handle .registration registration ∈ entry.2
    | .peerStreamStarted index stream =>
        ∃ connection ∈ world.handle? index,
          connection.kind = .connection ∧ connection.h.isSome = true ∧
            connection.parked = none ∧ world.Fresh (.handle .stream stream)
    | .asyncAccept index =>
        ∃ kind ∈ [ObjectKind.listener, .connection],
          world.kind? index = some kind
    | .accepted index scope =>
        world.Alive scope ∧ world.InScope scope index ∧
          ((world.handle? index).bind SessionHandle.waiting).isSome = true
    | .moveConstruct index scope =>
        world.Alive scope ∧
          (∀ outer ∈ world.arena.enclosing index,
            world.InScope scope outer) ∧
          (∃ kind ∈ [ObjectKind.connection, .stream],
            world.kind? index = some kind) ∧
          world.arena.Idle SessionObject.holdings index
    | .close index =>
        (world.handle? index).isSome = true ∧
          world.arena.Idle SessionObject.holdings index
    | .destroy index =>
        world.Alive index ∧ ∀ inner < world.arena.slots.length,
          world.Alive inner → index ∉ world.arena.enclosing inner

section Decidable

variable (world : SessionWorld)

instance (resource : Resource) : Decidable (world.Fresh resource) :=
  inferInstanceAs (Decidable (_ ∉ _))

instance (index : Nat) : Decidable (world.Alive index) :=
  inferInstanceAs (Decidable (_ = true))

instance (scope index : Nat) : Decidable (world.InScope scope index) :=
  inferInstanceAs (Decidable (_ ∈ _))

instance (scope : Nat) (kind : ObjectKind) (config : Option Nat) :
    Decidable (world.Configured scope kind config) :=
  inferInstanceAs (Decidable (if kind = .listener then
    ∃ outer ∈ config, world.InScope scope outer ∧
      world.kind? outer = some .config else _ = _))

instance (index : Nat) (kind : Option ObjectKind) (parent : Option Nat) :
    Decidable (world.Under index kind parent) :=
  inferInstanceAs (Decidable (if kind = none then _ = _ else
    ∃ outer ∈ parent, outer ∈ world.arena.enclosing index ∧
      world.kind? outer = kind))

instance (kind : ObjectKind) (parent : Option Nat)
    (result : Except QuicStatus Hquic) :
    Decidable (world.Answers kind parent result) :=
  match result with
  | .error _ => inferInstanceAs (Decidable (_ = _))
  | .ok _ => inferInstanceAs (Decidable (_ ∧ ∀ _ ∈ _, _))

instance (index : Nat) (kinds : List ObjectKind) :
    Decidable (world.IsOpen index kinds) :=
  inferInstanceAs (Decidable (_ ∧ _))

instance (index : Nat) :
    Decidable (world.arena.Idle SessionObject.holdings index) :=
  inferInstanceAs (Decidable (∀ _ < _, _ → ∀ _ ∈ _, _ = _))

instance (actions : List SessionAction) (world : SessionWorld)
    (action : SessionAction) :
    Decidable (sessionContract actions world action) :=
  match action with
  | .api _ _ => inferInstanceAs (Decidable ((∀ _ ∈ _, _) ∧ _))
  | .construct _ _ _ _ => inferInstanceAs (Decidable (_ ∧ _ ∧ _ ∧ _))
  | .open_ _ _ _ | .newConnection _ _ _ | .peerStreamStarted _ _ =>
      inferInstanceAs (Decidable (∃ _ ∈ _, _ ∧ _))
  | .loadCred2 _ _ | .setCallback _ | .sendResumptionTicket _ _ =>
      inferInstanceAs (Decidable (IsOpen _ _ _))
  | .start _ _ => inferInstanceAs (Decidable (_ = _))
  | .setConfig _ _ | .close _ => inferInstanceAs (Decidable (_ ∧ _))
  | .asyncAccept _ => inferInstanceAs (Decidable (∃ _ ∈ _, _))
  | .accepted _ _ => inferInstanceAs (Decidable (_ ∧ _ ∧ _))
  | .moveConstruct _ _ =>
      inferInstanceAs (Decidable (_ ∧ (∀ _ ∈ _, _) ∧ (∃ _ ∈ _, _) ∧ _))
  | .destroy _ => inferInstanceAs (Decidable (_ ∧ ∀ _ < _, _ → _))

end Decidable

end SessionWorld

end MsquicAsio
