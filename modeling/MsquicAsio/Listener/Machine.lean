/-
The listener as a machine: its context, the calls of the front end, and any
number of NEW_CONNECTION callbacks, each with its own program counter.

The statements of different callbacks and of the front end interleave freely.
Only what the mutex covers is one step: the two calls of the front end, up to
where they release it, and STOP_COMPLETE.
-/
import MsquicAsio.Lib.Machine
import MsquicAsio.Listener.Callback

set_option autoImplicit false

namespace MsquicAsio

variable {O : Oneshot}

/-- How far a NEW_CONNECTION callback has come.  One that returned sent its
connection through the sender that was on channel `into`. -/
inductive NewConnectionPlace
  | entered
  | acquiring
  | acquired
  | asserted
  | cleared
  | registered
  | configured
  | returned (into : Option Nat)
  deriving DecidableEq

structure NewConnection where
  connection : Hquic
  place : NewConnectionPlace
  deriving DecidableEq

namespace NewConnection

def waiting (callback : NewConnection) : Bool :=
  callback.place matches .acquiring

def passed (callback : NewConnection) : Bool :=
  match callback.place with
  | .acquired => true
  | .asserted => true
  | _ => false

def sending (callback : NewConnection) : Bool :=
  match callback.place with
  | .cleared => true
  | .registered => true
  | .configured => true
  | _ => false

def done (callback : NewConnection) : Bool :=
  callback.place matches .returned _

end NewConnection

inductive NewConnectionStep
  -- `lock(mtx_)` and `lock.unlock()`, with nothing between them
  | unlock
  -- `accept_bs_.acquire()`
  | acquire
  -- `assert(pending_.accept)`
  | assertAccept
  -- `pending_.accept = false`
  | clearAccept
  -- `conn.assign(...); conn.set_callback()`
  | setCallback
  -- `conn.set_config(...)`
  | setConfig
  -- `accept_tx_.send(ec, std::move(conn))`
  | send
  deriving DecidableEq

inductive ListenerAction
  | event (event : ListenerEvent)
  | newConnection (index : Nat) (step : NewConnectionStep)
  | accept
  | acceptInitiate
  | acceptHandler (ec : ErrorCode)
  | stop
  | listenerStop
  | listenerStopReturns
  | stopInitiate
  | stopHandler (ec : ErrorCode)
  deriving DecidableEq

/-- Where the front end stands with its call of `ListenerStop`. -/
inductive StopCall
  | none
  | unlocked
  | inside
  deriving DecidableEq

structure ListenerWorld (O : Oneshot) where
  ctx : AsioServerListenerCtx O
  callbacks : List NewConnection
  accept : LockedOp
  stop : LockedOp
  stopCall : StopCall
  registered : List Hquic
  configured : List Hquic
  /-- For each handler of `async_accept`, its channel and what it was given. -/
  accepted : List (Option Nat × MoveAcceptMessage)
  threw : Bool

namespace ListenerWorld

variable (world : ListenerWorld O)

def initial : ListenerWorld O where
  ctx := .initial
  callbacks := []
  accept := .idle
  stop := .idle
  stopCall := .none
  registered := []
  configured := []
  accepted := []
  threw := false

/-- The part of a callback that holds the mutex; NEW_CONNECTION has yet to
take it. -/
def deliver (event : ListenerEvent) : ListenerWorld O :=
  let result := asioServerListenerCallback event world.ctx
  { world with
    ctx := Exec.finalState result
    callbacks :=
      match event with
      | .newConnection connection =>
          world.callbacks ++ [⟨connection, .entered⟩]
      | _ => world.callbacks
    threw := world.threw || Exec.thrown result }

def moved (index : Nat) (connection : Hquic) (place : NewConnectionPlace) :
    List NewConnection :=
  world.callbacks.set index ⟨connection, place⟩

def newConnection (index : Nat) (step : NewConnectionStep) : ListenerWorld O :=
  match step, world.callbacks[index]? with
  | .unlock, some ⟨connection, .entered⟩ =>
      { world with callbacks := world.moved index connection .acquiring }
  | .acquire, some ⟨connection, .acquiring⟩ =>
      { world with
        ctx := { world.ctx with acceptBs := world.ctx.acceptBs - 1 }
        callbacks := world.moved index connection .acquired }
  | .assertAccept, some ⟨connection, .acquired⟩ =>
      { world with
        ctx := { world.ctx with
          failed := world.ctx.failed ++
            violated .newConnectionAccept world.ctx.pending.accept }
        callbacks := world.moved index connection .asserted }
  | .clearAccept, some ⟨connection, .asserted⟩ =>
      { world with
        ctx := { world.ctx with
          pending := { world.ctx.pending with accept := false } }
        callbacks := world.moved index connection .cleared }
  | .setCallback, some ⟨connection, .cleared⟩ =>
      { world with
        ctx := { world.ctx with
          failed := world.ctx.failed ++
            violated .setCallbackOpen (ConnectionHandle.assign connection).isOpen }
        callbacks := world.moved index connection .registered
        registered := world.registered ++ [connection] }
  | .setConfig, some ⟨connection, .registered⟩ =>
      { world with
        ctx := { world.ctx with
          failed := world.ctx.failed ++
            violated .setConfigOpen (ConnectionHandle.assign connection).isOpen }
        callbacks := world.moved index connection .configured
        configured := world.configured ++ [connection] }
  | .send, some ⟨connection, .configured⟩ =>
      match world.ctx.accept.send (.success, .assign connection) with
      | none => { world with threw := true }
      | some port =>
          { world with
            ctx := { world.ctx with accept := port }
            callbacks :=
              world.moved index connection (.returned world.ctx.accept.tx) }
  | _, _ => world

def sending : Nat := world.callbacks.countP NewConnection.sending

def passed : Nat := world.callbacks.countP NewConnection.passed

def waiting : Nat := world.callbacks.countP NewConnection.waiting

/-- A callback that cleared the flag stands in for it until it sends. -/
def acceptSlot : LockedSlot O MoveAcceptMessage :=
  ⟨world.ctx.pending.accept || decide (0 < world.sending), world.ctx.accept,
    world.accept⟩

def stopSlot : LockedSlot O ErrorCode :=
  ⟨world.ctx.pending.stop, world.ctx.stop, world.stop⟩

variable {world} in
theorem count_moved {index : Nat} {before : NewConnection}
    (here : world.callbacks[index]? = some before)
    (counts : NewConnection → Bool) (connection : Hquic)
    (place : NewConnectionPlace) :
    (world.moved index connection place).countP counts +
        (counts before).toNat =
      world.callbacks.countP counts + (counts ⟨connection, place⟩).toNat := by
  obtain ⟨inside, rfl⟩ := List.getElem?_eq_some_iff.mp here
  have counted : (counts (world.callbacks[index])).toNat ≤
      world.callbacks.countP counts := by
    cases holds : counts world.callbacks[index] with
    | false => exact Nat.zero_le _
    | true =>
        exact List.countP_pos_iff.mpr ⟨_, List.getElem_mem inside, holds⟩
  have toNat : ∀ flag : Bool, (if flag = true then 1 else 0) = flag.toNat := by
    intro flag
    cases flag <;> rfl
  rw [moved, List.countP_set inside, toNat, toNat]
  omega

def step (action : ListenerAction) : ListenerWorld O :=
  match action with
  | .event event => world.deliver event
  | .newConnection index step => world.newConnection index step
  | .accept =>
      let result := asyncListenerAccept world.ctx
      let ctx := Exec.finalState result
      { world with
        ctx := ctx
        accept := .ready ctx.accept.rx
        threw := world.threw || Exec.thrown result }
  | .acceptInitiate =>
      match world.acceptSlot.initiate with
      | none => { world with threw := true }
      | some slot => { world with accept := slot.op }
  | .acceptHandler ec =>
      match world.acceptSlot.handler ec with
      | none => { world with threw := true }
      | some (slot, message) =>
          { world with
            accept := slot.op
            accepted := world.accepted ++
              [(world.accept.own, message.getD (ec, .dummy))] }
  | .stop =>
      match asyncStop world.ctx with
      | .ok stops ctx =>
          { world with
            ctx := ctx
            stop := .ready ctx.stop.rx
            stopCall := if stops = true then .unlocked else world.stopCall }
      | .error _ ctx => { world with ctx := ctx, threw := true }
  | .listenerStop => { world with stopCall := .inside }
  | .listenerStopReturns => { world with stopCall := .none }
  | .stopInitiate =>
      match world.stopSlot.initiate with
      | none => { world with threw := true }
      | some slot => { world with stop := slot.op }
  | .stopHandler ec =>
      match world.stopSlot.handler ec with
      | none => { world with threw := true }
      | some (slot, _) => { world with stop := slot.op }

@[simp] theorem step_accept :
    world.step .accept =
      { world with
        ctx := world.ctx.afterAccept
        accept := .ready world.ctx.afterAccept.accept.rx } := by
  simp only [step, world.ctx.asyncListenerAccept_eq, Exec.finalState,
    Exec.thrown, Bool.or_false]

@[simp] theorem step_stop :
    world.step .stop =
      { world with
        ctx := world.ctx.afterStop
        stop := .ready world.ctx.afterStop.stop.rx
        stopCall :=
          if world.ctx.state = .stopped then world.stopCall
          else .unlocked } := by
  simp only [step, world.ctx.asyncStop_eq]
  by_cases stopped : world.ctx.state = .stopped
  · simp only [stopped, ne_eq, not_true_eq_false, decide_false,
      Bool.false_eq_true, if_false, if_true]
  · simp only [stopped, ne_eq, not_false_eq_true, decide_true, if_true,
      if_false]

theorem step_event (event : ListenerEvent) (guarded : world.ctx.Guarded) :
    world.step (.event event) =
      { world with
        ctx := world.ctx.after event
        callbacks :=
          match event with
          | .newConnection connection =>
              world.callbacks ++ [⟨connection, .entered⟩]
          | _ => world.callbacks } := by
  simp only [step, deliver, world.ctx.callback_eq event guarded,
    Exec.finalState, Exec.thrown, Bool.or_false]

/-- The next statement of a callback; it blocks on the semaphore while the
counter is zero. -/
def newConnectionEnabled (index : Nat) (step : NewConnectionStep) : Bool :=
  match step, world.callbacks[index]? with
  | .unlock, some ⟨_, .entered⟩ => true
  | .acquire, some ⟨_, .acquiring⟩ => decide (0 < world.ctx.acceptBs)
  | .assertAccept, some ⟨_, .acquired⟩ => true
  | .clearAccept, some ⟨_, .asserted⟩ => true
  | .setCallback, some ⟨_, .cleared⟩ => true
  | .setConfig, some ⟨_, .registered⟩ => true
  | .send, some ⟨_, .configured⟩ => true
  | _, _ => false

inductive Running (index : Nat) (connection : Hquic) :
    NewConnectionStep → Prop
  | unlock (here : world.callbacks[index]? = some ⟨connection, .entered⟩) :
      Running index connection .unlock
  | acquire (here : world.callbacks[index]? = some ⟨connection, .acquiring⟩)
      (permit : 0 < world.ctx.acceptBs) : Running index connection .acquire
  | assertAccept
      (here : world.callbacks[index]? = some ⟨connection, .acquired⟩) :
      Running index connection .assertAccept
  | clearAccept
      (here : world.callbacks[index]? = some ⟨connection, .asserted⟩) :
      Running index connection .clearAccept
  | setCallback
      (here : world.callbacks[index]? = some ⟨connection, .cleared⟩) :
      Running index connection .setCallback
  | setConfig
      (here : world.callbacks[index]? = some ⟨connection, .registered⟩) :
      Running index connection .setConfig
  | send (here : world.callbacks[index]? = some ⟨connection, .configured⟩) :
      Running index connection .send

theorem running_of_enabled {index : Nat} {statement : NewConnectionStep}
    (enabled : world.newConnectionEnabled index statement = true) :
    ∃ connection, world.Running index connection statement := by
  unfold newConnectionEnabled at enabled
  split at enabled
  · rename_i connection here
    exact ⟨connection, .unlock here⟩
  · rename_i connection here
    exact ⟨connection, .acquire here (of_decide_eq_true enabled)⟩
  · rename_i connection here
    exact ⟨connection, .assertAccept here⟩
  · rename_i connection here
    exact ⟨connection, .clearAccept here⟩
  · rename_i connection here
    exact ⟨connection, .setCallback here⟩
  · rename_i connection here
    exact ⟨connection, .setConfig here⟩
  · rename_i connection here
    exact ⟨connection, .send here⟩
  · cases enabled

/-- Program order.  `async_accept` may start at any time; `async_stop` is called
by one thread at a time and registers its wait when `ListenerStop` has
returned. -/
def enabled (action : ListenerAction) : Bool :=
  !world.threw &&
    match action with
    | .event _ => true
    | .newConnection index step => world.newConnectionEnabled index step
    | .accept => true
    | .acceptInitiate => (world.accept matches .ready _)
    | .acceptHandler ec => world.acceptSlot.completes ec
    | .stop => decide (world.stopCall = .none)
    | .listenerStop => decide (world.stopCall = .unlocked)
    | .listenerStopReturns => decide (world.stopCall = .inside)
    | .stopInitiate =>
        (world.stop matches .ready _) && decide (world.stopCall = .none)
    | .stopHandler ec => world.stopSlot.completes ec

end ListenerWorld

def listenerMachine (O : Oneshot) :
    Machine (ListenerWorld O) ListenerAction where
  initial := .initial
  step := ListenerWorld.step

end MsquicAsio
