/-
Every handle of a session is closed once, by the object that holds it.

A handle is held by one object at a time, as its own or in the message that
waits in its context.  It is closed by that object, with the function of its own
kind, whatever the order in which objects are moved, closed and destroyed.
-/
import MsquicAsio.Session.Machine

set_option autoImplicit false

namespace MsquicAsio

open Disposal

private theorem ObjectKind.accepts_ne {kind brought : ObjectKind}
    (accepts : kind.accepts = some brought) : brought ≠ kind := by
  cases kind with
  | listener | connection =>
      obtain rfl := Option.some.inj accepts
      decide
  | registration | config | stream => cases accepts

namespace SessionHandle

variable {handle : SessionHandle} {resource : Resource}

theorem waiting_eq_some :
    handle.waiting = some resource ↔
      ∃ kind parked, handle.kind.accepts = some kind ∧
        handle.parked = some parked ∧ resource = .handle kind parked := by
  unfold waiting
  constructor
  · intro waits
    split at waits
    · rename_i kind parked accepts at_
      exact ⟨kind, parked, accepts, at_, (Option.some.inj waits).symm⟩
    · cases waits
  · rintro ⟨kind, parked, accepts, at_, rfl⟩
    rw [accepts, at_]

theorem own_eq_some :
    handle.own = some resource ↔
      ∃ opened, handle.h = some opened ∧
        resource = .handle handle.kind opened := by
  unfold own
  rw [Option.map_eq_some_iff]
  simp only [eq_comm]

/-- A listener is not in a message of a listener, and a connection not in one of
a connection. -/
theorem own_ne_waiting (owns : handle.own = some resource) :
    handle.waiting ≠ some resource := by
  intro waits
  obtain ⟨opened, _, rfl⟩ := own_eq_some.mp owns
  obtain ⟨kind, parked, accepts, _, same⟩ := waiting_eq_some.mp waits
  exact ObjectKind.accepts_ne accepts (Resource.handle.inj same).1.symm

theorem waiting_emptied (handle : SessionHandle) :
    ({ handle with parked := none } : SessionHandle).waiting = none := by
  unfold waiting
  split <;> first | rfl | contradiction

private theorem waiting_parks {kind : ObjectKind}
    (accepts : handle.kind.accepts = some kind) (parked : Hquic) :
    ({ handle with parked := some parked } : SessionHandle).waiting =
      some (.handle kind parked) :=
  waiting_eq_some.mpr ⟨kind, parked, accepts, rfl, rfl⟩

private theorem waiting_assigned (kind : ObjectKind) (handle : Option Hquic)
    (api : Nat) : (assigned kind handle api).waiting = none :=
  waiting_emptied _

private theorem own_assigned {kind : ObjectKind}
    (accepts : handle.kind.accepts = some kind) (api : Nat) :
    (assigned kind handle.parked api).own = handle.waiting := by
  unfold own waiting
  rw [accepts]
  change handle.parked.map _ = _
  cases handle.parked <;> rfl

end SessionHandle

theorem SessionObject.mem_holdings {handle : SessionHandle}
    {resource : Resource} :
    resource ∈ (SessionObject.handle handle).holdings ↔
      handle.own = some resource ∨ handle.waiting = some resource := by
  simp only [holdings, List.mem_append, Option.mem_toList]

theorem SessionObject.mem_own {handle : SessionHandle} {resource : Resource} :
    resource ∈ (SessionObject.handle handle).own ↔
      handle.own = some resource := by
  simp only [own, Option.mem_toList]

theorem SessionObject.holdings_eq_nil {handle : SessionHandle}
    (closed : handle.own = none) (empty : handle.waiting = none) :
    (SessionObject.handle handle).holdings = [] := by
  simp only [holdings, closed, empty, Option.toList_none, List.append_nil]

/-! ### What the objects hold after an operation -/

namespace SessionObject

variable {handle : SessionHandle} {kind : ObjectKind} {resource : Resource}

theorem mem_holdings_open (closed : handle.h = none) (opened : Hquic)
    (other : Resource) :
    other ∈ (SessionObject.handle { handle with h := some opened }).holdings ↔
      other ∈ (SessionObject.handle handle).holdings ∨
        other = .handle handle.kind opened := by
  have notOwn : handle.own = none := by
    simp only [SessionHandle.own, closed, Option.map_none]
  rw [mem_holdings, mem_holdings, notOwn]
  change some (Resource.handle handle.kind opened) = some other ∨
    handle.waiting = some other ↔ _
  simp only [Option.some.injEq, reduceCtorEq, false_or]
  rw [or_comm, eq_comm (a := other)]

theorem mem_holdings_park (accepts : handle.kind.accepts = some kind)
    (empty : handle.parked = none) (parked : Hquic) (other : Resource) :
    other ∈ (SessionObject.handle
        { handle with parked := some parked }).holdings ↔
      other ∈ (SessionObject.handle handle).holdings ∨
        other = .handle kind parked := by
  have nothing : handle.waiting = none := by
    simp only [SessionHandle.waiting, empty]
    split <;> first | rfl | contradiction
  rw [mem_holdings, mem_holdings, SessionHandle.waiting_parks accepts, nothing]
  change handle.own = some other ∨ _ ↔ _
  simp only [Option.some.injEq, reduceCtorEq, or_false, eq_comm]

theorem mem_holdings_close (owns : handle.own = some resource)
    (other : Resource) :
    other ∈ (SessionObject.handle { handle with h := none }).holdings ↔
      other ∈ (SessionObject.handle handle).holdings ∧ other ≠ resource := by
  rw [mem_holdings, mem_holdings, owns]
  change none = some other ∨ handle.waiting = some other ↔ _
  have apart := SessionHandle.own_ne_waiting owns
  constructor
  · rintro (impossible | waits)
    · cases impossible
    · refine ⟨Or.inr waits, ?_⟩
      rintro rfl
      exact apart waits
  · rintro ⟨own | waits, different⟩
    · exact absurd (Option.some.inj own).symm different
    · exact Or.inr waits

theorem mem_holdings_drop (waits : handle.waiting = some resource)
    (other : Resource) :
    other ∈ (SessionObject.handle { handle with parked := none }).holdings ↔
      other ∈ (SessionObject.handle handle).holdings ∧ other ≠ resource := by
  rw [mem_holdings, mem_holdings, SessionHandle.waiting_emptied]
  change handle.own = some other ∨ none = some other ↔ _
  constructor
  · rintro (owns | impossible)
    · refine ⟨Or.inl owns, ?_⟩
      rintro rfl
      exact SessionHandle.own_ne_waiting owns waits
    · cases impossible
  · rintro ⟨owns | also, different⟩
    · exact Or.inl owns
    · rw [waits] at also
      exact absurd (Option.some.inj also).symm different

theorem mem_holdings_accept (accepts : handle.kind.accepts = some kind)
    (other : Resource) :
    (other ∈ (SessionObject.handle handle).holdings ↔
      other ∈ (SessionObject.handle { handle with parked := none }).holdings ∨
        other ∈ (SessionObject.handle
          (.assigned kind handle.parked handle.api)).holdings) ∧
    (other ∈ (SessionObject.handle { handle with parked := none }).holdings →
      other ∉ (SessionObject.handle
        (.assigned kind handle.parked handle.api)).holdings) := by
  simp only [mem_holdings, SessionHandle.waiting_emptied,
    SessionHandle.waiting_assigned, SessionHandle.own_assigned accepts,
    reduceCtorEq, or_false]
  refine ⟨Iff.rfl, fun owns => ?_⟩
  change handle.own = some other at owns
  exact SessionHandle.own_ne_waiting owns

theorem holdings_emptied (handle : SessionHandle) :
    (SessionObject.handle
      { handle with h := none, parked := none }).holdings = [] :=
  holdings_eq_nil rfl
    (SessionHandle.waiting_emptied { handle with h := none })

end SessionObject

namespace SessionWorld

variable {world : SessionWorld} {index : Nat} {handle : SessionHandle}

theorem object?_of_handle? (at_ : world.handle? index = some handle) :
    world.arena.object? index = some (.handle handle) := by
  unfold handle? at at_
  split at at_
  · rename_i found
    rw [found, Option.some.inj at_]
  · cases at_

theorem handle?_eq_some :
    world.handle? index = some handle ↔
      world.arena.object? index = some (.handle handle) := by
  constructor
  · exact object?_of_handle?
  · intro at_
    unfold handle?
    rw [at_]

theorem object?_of_table? {table : Nat} (at_ : world.table? index = some table) :
    world.arena.object? index = some (.api table) := by
  unfold table? at at_
  split at at_
  · rename_i found
    rw [found, Option.some.inj at_]
  · cases at_

@[simp] theorem events_record (world : SessionWorld) (call : ApiCall) :
    (world.record call).events = world.events ++ call.events := by
  simp only [events, record, List.flatMap_append, List.flatMap_cons,
    List.flatMap_nil, List.append_nil]

/-! ### What the calls amount to -/

theorem open_eq (world : SessionWorld) (index : Nat) (handle : SessionHandle)
    {parent : List Resource}
    (root : handle.kind = .registration → parent = [])
    (result : Except QuicStatus Hquic) :
    ∃ error, world.open_ index handle parent result =
      openHandle error world index handle parent result := by
  unfold open_
  split
  · rename_i isRoot
    rw [root isRoot]
    exact ⟨_, rfl⟩
  · exact ⟨_, rfl⟩
  · exact ⟨_, rfl⟩
  · exact ⟨_, rfl⟩
  · exact ⟨_, rfl⟩

theorem invoke_effect (function : ApiFunction) (error : QuicStatus → ErrorCode)
    (world : SessionWorld) (handle : SessionHandle) (more : List Resource)
    (status : QuicStatus) :
    (invoke function error world handle more status).arena = world.arena ∧
      (invoke function error world handle more status).events = world.events ++
        [.use (.table handle.api :: (handle.own.toList ++ more))] := by
  unfold invoke
  split <;> exact ⟨rfl, events_record _ _⟩

theorem newConnection_effect (world : SessionWorld) (index : Nat)
    (listener : SessionHandle) (connection registration : Hquic) :
    (world.newConnection index listener connection registration).arena =
        world.arena.write index
          (some (.handle { listener with parked := some connection })) ∧
      (world.newConnection index listener connection registration).events =
        world.events ++
          [.acquire (.handle .connection connection)
            [.table listener.api, .handle .registration registration]] ++
          [.use [.table listener.api, .handle .connection connection]] ++
          [.use (.table listener.api :: .handle .connection connection ::
            (listener.config.bind world.nativeHandle).toList)] := by
  constructor
  · unfold newConnection setConfig setCallback
    simp only [put, (invoke_effect _ _ _ _ _ _).1]
    rfl
  · change (invoke _ _ _ _ _ _).events = _
    rw [(invoke_effect _ _ _ _ _ _).2]
    unfold setCallback
    rw [(invoke_effect _ _ _ _ _ _).2, events_record]
    rfl

theorem peerStreamStarted_effect (world : SessionWorld) (index : Nat)
    (connection : SessionHandle) (stream : Hquic) :
    (world.peerStreamStarted index connection stream).arena =
        world.arena.write index
          (some (.handle { connection with parked := some stream })) ∧
      (world.peerStreamStarted index connection stream).events =
        world.events ++
          [.acquire (.handle .stream stream)
            (.table connection.api :: connection.own.toList)] ++
          [.use [.table connection.api, .handle .stream stream]] := by
  constructor
  · unfold peerStreamStarted setCallback
    simp only [put, (invoke_effect _ _ _ _ _ _).1]
    rfl
  · change (invoke _ _ _ _ _ _).events = _
    rw [(invoke_effect _ _ _ _ _ _).2, events_record]
    rfl

theorem close_effect (world : SessionWorld) (index : Nat)
    (handle : SessionHandle) :
    (∃ opened, handle.own = some (.handle handle.kind opened) ∧
        (world.close index handle).arena = world.arena.write index
          (some (.handle { handle with h := none })) ∧
        (world.close index handle).events = world.events ++
          [.use [.table handle.api]] ++
          [.dispose (.handle handle.kind opened)]) ∨
      handle.own = none ∧ world.close index handle = world := by
  unfold close SessionHandle.own
  cases handle.h with
  | none => exact Or.inr ⟨rfl, rfl⟩
  | some opened =>
      refine Or.inl ⟨opened, rfl, rfl, ?_⟩
      simp only [events_record, List.append_assoc]
      rfl

theorem dropMessage_effect (world : SessionWorld) (index : Nat)
    (handle : SessionHandle) :
    (∃ resource, handle.waiting = some resource ∧
        (world.dropMessage index handle).arena = world.arena.write index
          (some (.handle { handle with parked := none })) ∧
        (world.dropMessage index handle).events = world.events ++
          [.use [.table handle.api]] ++ [.dispose resource]) ∨
      handle.waiting = none ∧ world.dropMessage index handle = world := by
  unfold dropMessage SessionHandle.waiting
  split
  · rename_i kind parked accepts at_
    refine Or.inl ⟨.handle kind parked, rfl, rfl, ?_⟩
    simp only [events_record, List.append_assoc]
    rfl
  · exact Or.inr ⟨rfl, rfl⟩

private theorem handle?_put (at_ : world.handle? index = some handle)
    (after : SessionHandle) :
    (world.put index after).handle? index = some after :=
  handle?_eq_some.mpr (Arena.object?_write_self (object?_of_handle? at_))

theorem handle?_close (at_ : world.handle? index = some handle) :
    (world.close index handle).handle? index =
      some { handle with h := none } := by
  unfold close
  split
  · rename_i closed
    rw [at_, ← closed]
  · exact handle?_put at_ _

theorem handle?_dropMessage (at_ : world.handle? index = some handle) :
    ∃ after, (world.dropMessage index handle).handle? index = some after ∧
      after.own = handle.own ∧ after.waiting = none := by
  rcases world.dropMessage_effect index handle with
    ⟨resource, _, sameArena, _⟩ | ⟨nothing, same⟩
  · refine ⟨{ handle with parked := none }, ?_, rfl,
      SessionHandle.waiting_emptied _⟩
    rw [handle?_eq_some, sameArena]
    exact Arena.object?_write_self (object?_of_handle? at_)
  · rw [same]
    exact ⟨handle, at_, rfl, nothing⟩

/-- The objects hold what is open, each handle one of them. -/
def InAccount (world : SessionWorld) : Prop :=
  Accounted SessionObject.holdings world.arena world.events

namespace InAccount

private theorem invoke (inAccount : world.InAccount) (function : ApiFunction)
    (error : QuicStatus → ErrorCode) (handle : SessionHandle)
    (more : List Resource) (status : QuicStatus) :
    (SessionWorld.invoke function error world handle more status).InAccount := by
  obtain ⟨sameArena, more⟩ :=
    invoke_effect function error world handle more status
  unfold InAccount
  rw [sameArena, more]
  exact Accounted.use inAccount _

private theorem openHandle (inAccount : world.InAccount)
    (at_ : world.handle? index = some handle) (closed : handle.h = none)
    (error : QuicStatus → ErrorCode) (parent : List Resource)
    (result : Except QuicStatus Hquic)
    (fresh : ∀ opened, result = .ok opened →
      world.Fresh (.handle handle.kind opened)) :
    (SessionWorld.openHandle error world index handle parent result).InAccount := by
  unfold InAccount
  cases result with
  | error status =>
      change Accounted _ world.arena (world.record _).events
      rw [events_record]
      exact Accounted.use inAccount _
  | ok opened =>
      change Accounted _ (world.arena.write index _) (world.record _).events
      rw [events_record]
      exact Accounted.acquire inAccount (object?_of_handle? at_)
        (fresh opened rfl) (SessionObject.mem_holdings_open closed opened)

private theorem park (inAccount : world.InAccount)
    (at_ : world.handle? index = some handle) {kind : ObjectKind}
    (accepts : handle.kind.accepts = some kind) (empty : handle.parked = none)
    {parked : Hquic} (fresh : world.Fresh (.handle kind parked))
    (needs : List Resource) :
    Accounted SessionObject.holdings
      (world.arena.write index
        (some (.handle { handle with parked := some parked })))
      (world.events ++ [.acquire (.handle kind parked) needs]) :=
  Accounted.acquire inAccount (object?_of_handle? at_) fresh
    (SessionObject.mem_holdings_park accepts empty parked)

private theorem newConnection (inAccount : world.InAccount)
    (at_ : world.handle? index = some handle) (kind : handle.kind = .listener)
    (empty : handle.parked = none) {connection : Hquic} (registration : Hquic)
    (fresh : world.Fresh (.handle .connection connection)) :
    (world.newConnection index handle connection registration).InAccount := by
  have accepts : handle.kind.accepts = some .connection := by
    rw [kind]
    rfl
  obtain ⟨sameArena, sameEvents⟩ :=
    world.newConnection_effect index handle connection registration
  unfold InAccount
  rw [sameArena, sameEvents]
  exact ((inAccount.park at_ accepts empty fresh _).use _).use _

private theorem peerStreamStarted (inAccount : world.InAccount)
    (at_ : world.handle? index = some handle)
    (kind : handle.kind = .connection) (empty : handle.parked = none)
    {stream : Hquic} (fresh : world.Fresh (.handle .stream stream)) :
    (world.peerStreamStarted index handle stream).InAccount := by
  have accepts : handle.kind.accepts = some .stream := by
    rw [kind]
    rfl
  obtain ⟨sameArena, sameEvents⟩ :=
    world.peerStreamStarted_effect index handle stream
  unfold InAccount
  rw [sameArena, sameEvents]
  exact (inAccount.park at_ accepts empty fresh _).use _

private theorem close (inAccount : world.InAccount)
    (at_ : world.handle? index = some handle) :
    (world.close index handle).InAccount := by
  rcases world.close_effect index handle with
    ⟨opened, owns, sameArena, sameEvents⟩ | ⟨_, same⟩
  · unfold InAccount
    rw [sameArena, sameEvents]
    exact (Accounted.use inAccount _).dispose (object?_of_handle? at_)
      (SessionObject.mem_holdings.mpr (Or.inl owns))
      (SessionObject.mem_holdings_close owns)
  · rw [same]
    exact inAccount

private theorem dropMessage (inAccount : world.InAccount)
    (at_ : world.handle? index = some handle) :
    (world.dropMessage index handle).InAccount := by
  rcases world.dropMessage_effect index handle with
    ⟨resource, waits, sameArena, sameEvents⟩ | ⟨_, same⟩
  · unfold InAccount
    rw [sameArena, sameEvents]
    exact (Accounted.use inAccount _).dispose (object?_of_handle? at_)
      (SessionObject.mem_holdings.mpr (Or.inr waits))
      (SessionObject.mem_holdings_drop waits)
  · rw [same]
    exact inAccount

private theorem accepted (inAccount : world.InAccount)
    (at_ : world.handle? index = some handle) (scope : Nat) :
    (world.accepted index handle scope).InAccount := by
  unfold SessionWorld.accepted
  split
  · exact inAccount
  · rename_i kind accepts
    exact Accounted.hand inAccount (object?_of_handle? at_)
      (fun other => (SessionObject.mem_holdings_accept accepts other).1)
      (fun other => (SessionObject.mem_holdings_accept accepts other).2)

private theorem moveConstruct (inAccount : world.InAccount)
    (at_ : world.handle? index = some handle) (scope : Nat) :
    (world.moveConstruct index handle scope).InAccount := by
  apply Accounted.hand inAccount (object?_of_handle? at_)
  · intro other
    rw [SessionObject.holdings_emptied]
    simp only [List.not_mem_nil, false_or]
  · intro other impossible
    rw [SessionObject.holdings_emptied] at impossible
    cases impossible

private theorem destroyHandle (inAccount : world.InAccount)
    (at_ : world.handle? index = some handle) :
    (world.destroyHandle index handle).InAccount := by
  obtain ⟨after, atAfter, closed, empty⟩ :=
    handle?_dropMessage (handle?_close at_)
  have emptied := (inAccount.close at_).dropMessage (handle?_close at_)
  apply Accounted.finish emptied (object?_of_handle? atAfter)
  exact SessionObject.holdings_eq_nil closed empty

private theorem destroyApi (inAccount : world.InAccount) {msQuic : Nat}
    (at_ : world.arena.object? index = some (.api msQuic)) :
    (world.destroyApi index msQuic).InAccount := by
  unfold InAccount
  change Accounted _ (world.arena.write index none) (world.record _).events
  rw [events_record]
  apply Accounted.finishWith inAccount at_
  intro other
  exact List.mem_singleton

private theorem api (inAccount : world.InAccount) (scope : Option Nat)
    {table : Nat}
    (fresh : world.Fresh (.table table)) :
    (world.api scope table).InAccount := by
  unfold InAccount
  change Accounted _ (world.arena.begin scope _) (SessionWorld.events _)
  rw [SessionWorld.api, events_record]
  apply Accounted.constructWith inAccount fresh
  intro other
  exact List.mem_singleton

private theorem construct (inAccount : world.InAccount) (kind : ObjectKind)
    (scope api : Nat) (config : Option Nat) :
    (world.construct kind scope api config).InAccount :=
  Accounted.construct inAccount (SessionObject.holdings_eq_nil rfl
    (SessionHandle.waiting_emptied (.construct kind api config)))

private theorem destroy (inAccount : world.InAccount) (index : Nat) :
    (world.destroy index).InAccount := by
  unfold SessionWorld.destroy
  split
  · exact inAccount
  · exact inAccount.destroyApi ‹_›
  · exact inAccount.destroyHandle (handle?_eq_some.mpr ‹_›)

private theorem elim (inAccount : world.InAccount)
    {act : SessionHandle → SessionWorld}
    (acts : ∀ handle, world.handle? index = some handle →
      (act handle).InAccount) :
    ((world.handle? index).elim world act).InAccount := by
  cases at_ : world.handle? index with
  | none => exact inAccount
  | some handle => exact acts handle at_

private theorem open_ (inAccount : world.InAccount) {parent : Option Nat}
    {result : Except QuicStatus Hquic}
    (at_ : world.handle? index = some handle) (closed : handle.h = none)
    (under : world.Under index handle.kind.parent parent)
    (answers : world.Answers handle.kind parent result) :
    (world.open_ index handle (parent.bind world.nativeHandle).toList
      result).InAccount := by
  have root : handle.kind = .registration →
      (parent.bind world.nativeHandle).toList = [] := by
    intro isRoot
    rw [isRoot] at under
    obtain rfl : parent = none := under
    rfl
  obtain ⟨error, same⟩ := open_eq world index handle root result
  rw [same]
  apply inAccount.openHandle at_ closed
  rintro opened rfl
  exact answers.1

private theorem step (inAccount : world.InAccount)
    {actions : List SessionAction}
    {action : SessionAction} (allowed : sessionContract actions world action) :
    (world.step action).InAccount := by
  cases action with
  | api scope table => exact inAccount.api scope allowed.2
  | construct kind scope api config =>
      simp only [SessionWorld.step]
      cases world.table? api with
      | none => exact inAccount
      | some table => exact inAccount.construct kind scope table config
  | open_ index parent result =>
      obtain ⟨handle, at_, closed, under, answers⟩ := allowed
      simp only [SessionWorld.step, Option.mem_def.mp at_, Option.elim_some]
      exact inAccount.open_ at_ closed under answers
  | loadCred2 index status | start index status
  | sendResumptionTicket index status | setCallback index
  | setConfig index config =>
      exact inAccount.elim fun handle _ => inAccount.invoke _ _ handle _ _
  | newConnection index connection registration =>
      obtain ⟨listener, at_, kind, empty, fresh, _⟩ := allowed
      simp only [SessionWorld.step, Option.mem_def.mp at_, Option.elim_some]
      exact inAccount.newConnection at_ kind empty registration fresh
  | peerStreamStarted index stream =>
      obtain ⟨connection, at_, kind, _, empty, fresh⟩ := allowed
      simp only [SessionWorld.step, Option.mem_def.mp at_, Option.elim_some]
      exact inAccount.peerStreamStarted at_ kind empty fresh
  | asyncAccept index =>
      exact inAccount.elim fun handle at_ => inAccount.dropMessage at_
  | accepted index scope =>
      exact inAccount.elim fun handle at_ => inAccount.accepted at_ scope
  | moveConstruct index scope =>
      exact inAccount.elim fun handle at_ => inAccount.moveConstruct at_ scope
  | close index => exact inAccount.elim fun handle at_ => inAccount.close at_
  | destroy index => exact inAccount.destroy index

end InAccount

end SessionWorld

end MsquicAsio
