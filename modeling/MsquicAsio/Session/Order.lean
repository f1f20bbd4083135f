/-
The order of the calls of a session.

In a session whose lifetimes are those of scopes every call goes through a table
that is open and names handles that are open, and a handle is closed before the
one under which it was opened.  Only a connection can spoil that: one that is
closed while a stream waits in its context, which outlives it there.
-/
import MsquicAsio.Session.Account

set_option autoImplicit false

namespace MsquicAsio

open Disposal

def Resource.MayNeed : Resource → Resource → Prop
  | .handle _ _, .table _ => True
  | .handle kind _, .handle parent _ => kind.parent = some parent
  | .table _, _ => False

private theorem ObjectKind.parent_ne {kind parent : ObjectKind}
    (isParent : kind.parent = some parent) : parent ≠ kind := by
  cases kind with
  | registration => cases isParent
  | config | listener | connection | stream =>
      obtain rfl := Option.some.inj isParent
      decide

private theorem ObjectKind.connection_of_brought {kind brought : ObjectKind}
    (accepts : kind.accepts = some brought)
    (isParent : brought.parent = some kind) : kind = .connection := by
  cases kind with
  | connection => rfl
  | listener =>
      obtain rfl := Option.some.inj accepts
      cases isParent
  | registration | config | stream => cases accepts

/-! ### What objects refer to -/

/-- The table of an object, and the configuration of a listener, enclose it. -/
def Placed (arena : Arena SessionObject) : Prop :=
  ∀ index handle, arena.object? index = some (.handle handle) →
    (∃ outer ∈ arena.enclosing index,
      arena.object? outer = some (.api handle.api)) ∧
    ∀ config ∈ handle.config, config ∈ arena.enclosing index

namespace Placed

variable {arena : Arena SessionObject} {index : Nat}
  {before after : SessionHandle} {scope : Option Nat}

private theorem initial : Placed Arena.empty := by
  intro index handle at_
  cases at_

private theorem table_kept (placed : Placed arena)
    (at_ : arena.object? index = some (.handle before))
    (written : Option SessionObject) :
    ∃ outer ∈ arena.enclosing index,
      (arena.write index written).object? outer = some (.api before.api) := by
  obtain ⟨outer, encloses, table⟩ := (placed index before at_).1
  refine ⟨outer, encloses, ?_⟩
  rw [Arena.object?_write_other]
  · exact table
  · rintro rfl
    rw [at_] at table
    cases table

private theorem put (placed : Placed arena)
    (at_ : arena.object? index = some (.handle before))
    (sameApi : after.api = before.api)
    (sameConfig : after.config = before.config) :
    Placed (arena.write index (some (.handle after))) := by
  have known : ∀ other object, arena.object? other = some (.handle object) →
      (∃ outer ∈ arena.enclosing other,
        (arena.write index (some (.handle after))).object? outer =
          some (.api object.api)) ∧
      ∀ config ∈ object.config, config ∈ arena.enclosing other := by
    intro other object found
    obtain ⟨⟨outer, encloses, table⟩, configs⟩ := placed other object found
    refine ⟨⟨outer, encloses, ?_⟩, configs⟩
    rw [Arena.object?_write_other]
    · exact table
    · rintro rfl
      rw [at_] at table
      cases table
  intro other object found
  rw [Arena.enclosing_write]
  rcases (Arena.object?_write_eq_some at_).mp found with ⟨_, old⟩ | ⟨rfl, now⟩
  · exact known other object old
  · obtain rfl := SessionObject.handle.inj (Option.some.inj now)
    rw [sameApi, sameConfig]
    exact known other before at_

private theorem begin (placed : Placed arena)
    (places : ∀ config ∈ after.config, config ∈ arena.inside scope)
    (table : ∃ outer ∈ arena.inside scope,
      arena.object? outer = some (.api after.api)) :
    Placed (arena.begin scope (.handle after)) := by
  intro other object found
  rcases Arena.object?_begin_eq_some.mp found with old | ⟨rfl, now⟩
  · obtain ⟨⟨outer, encloses, at_⟩, configs⟩ := placed other object old
    refine ⟨⟨outer, Arena.enclosing_begin_old encloses, ?_⟩, ?_⟩
    · exact Arena.object?_begin_eq_some.mpr (Or.inl at_)
    · exact fun config member =>
        Arena.enclosing_begin_old (configs config member)
  · obtain rfl := SessionObject.handle.inj now
    rw [Arena.enclosing_begin_new]
    obtain ⟨outer, encloses, at_⟩ := table
    exact ⟨⟨outer, encloses, Arena.object?_begin_eq_some.mpr (Or.inl at_)⟩,
      places⟩

private theorem beginApi (placed : Placed arena) (msQuic : Nat) :
    Placed (arena.begin scope (.api msQuic)) := by
  intro other object found
  rcases Arena.object?_begin_eq_some.mp found with old | ⟨_, now⟩
  · obtain ⟨⟨outer, encloses, at_⟩, configs⟩ := placed other object old
    refine ⟨⟨outer, Arena.enclosing_begin_old encloses, ?_⟩, ?_⟩
    · exact Arena.object?_begin_eq_some.mpr (Or.inl at_)
    · exact fun config member =>
        Arena.enclosing_begin_old (configs config member)
  · cases now

private theorem finish (placed : Placed arena) {object : SessionObject}
    (at_ : arena.object? index = some object)
    (alone : arena.Alone index) :
    Placed (arena.write index none) := by
  intro other handle found
  rw [Arena.enclosing_write]
  rcases (Arena.object?_write_eq_some at_).mp found with ⟨_, old⟩ | ⟨_, now⟩
  · obtain ⟨⟨outer, encloses, table⟩, configs⟩ := placed other handle old
    refine ⟨⟨outer, encloses, ?_⟩, configs⟩
    rw [Arena.object?_write_other]
    · exact table
    · rintro rfl
      apply alone other _ encloses
      rw [old]
      rfl
  · cases now

end Placed

/-- A stream that waits in the context of the connection was opened under it. -/
def SessionHandle.ParksOwn (events : List (Event Resource))
    (connection : SessionHandle) : Prop :=
  connection.kind = .connection → ∀ parked ∈ connection.parked,
    ∃ opened needs, connection.h = some opened ∧
      (.handle .stream parked, needs) ∈ acquired events ∧
      .handle .connection opened ∈ needs

def Parks (arena : Arena SessionObject) (events : List (Event Resource)) :
    Prop :=
  ∀ index connection, arena.object? index = some (.handle connection) →
    connection.ParksOwn events

private theorem SessionHandle.parksOwn_of_empty {events : List (Event Resource)}
    {connection : SessionHandle} (nothing : connection.parked = none) :
    connection.ParksOwn events := by
  intro _ parked member
  rw [nothing] at member
  cases member

namespace Parks

variable {arena : Arena SessionObject} {events more : List (Event Resource)}
  {index : Nat} {object : SessionObject} {after : SessionHandle}
  {scope : Option Nat}

private theorem initial : Parks Arena.empty [] := by
  intro index connection at_
  cases at_

private theorem grow (parks : Parks arena events)
    (grows : ∀ entry ∈ acquired events, entry ∈ acquired more) :
    Parks arena more := by
  intro index connection at_ kind parked member
  obtain ⟨opened, needs, isOpen, entry, needed⟩ :=
    parks index connection at_ kind parked member
  exact ⟨opened, needs, isOpen, grows _ entry, needed⟩

private theorem put (parks : Parks arena events)
    (at_ : arena.object? index = some object)
    (parksOwn : after.ParksOwn events) :
    Parks (arena.write index (some (.handle after))) events := by
  intro other connection found
  rcases (Arena.object?_write_eq_some at_).mp found with ⟨_, old⟩ | ⟨_, now⟩
  · exact parks other connection old
  · obtain rfl := SessionObject.handle.inj (Option.some.inj now)
    exact parksOwn

private theorem begin (parks : Parks arena events) {new : SessionObject}
    (parksOwn : ∀ connection, new = .handle connection →
      connection.ParksOwn events) :
    Parks (arena.begin scope new) events := by
  intro other connection found
  rcases Arena.object?_begin_eq_some.mp found with old | ⟨_, now⟩
  · exact parks other connection old
  · exact parksOwn connection now.symm

private theorem finish (parks : Parks arena events)
    (at_ : arena.object? index = some object) :
    Parks (arena.write index none) events := by
  intro other connection found
  rcases (Arena.object?_write_eq_some at_).mp found with ⟨_, old⟩ | ⟨_, now⟩
  · exact parks other connection old
  · cases now

end Parks

/-! ### The invariant -/

private theorem SessionObject.holdings_of_own (object : SessionObject) :
    ∀ resource ∈ object.own, resource ∈ object.holdings := by
  intro resource member
  cases object with
  | api msQuic => exact member
  | handle handle => exact List.mem_append_left _ member

/-- The calls were in order so far, and the objects that are alive hold what is
open where it can be closed in order. -/
structure Ordered (arena : Arena SessionObject)
    (events : List (Event Resource)) : Prop where
  accounted : Accounted SessionObject.holdings arena events
  orderly : Orderly events
  sound : arena.Sound
  covered : Covered SessionObject.holdings SessionObject.own arena events
  placed : Placed arena
  typed : ∀ entry ∈ acquired events, ∀ needed ∈ entry.2, entry.1.MayNeed needed
  parks : Parks arena events

namespace Ordered

variable {arena : Arena SessionObject} {events : List (Event Resource)}
  {index : Nat} {handle after new : SessionHandle} {resource : Resource}
  {scope : Option Nat}

private theorem initial : Ordered Arena.empty [] where
  accounted := .initial
  orderly := .nil
  sound := .initial
  covered := .initial
  placed := .initial
  typed := by
    intro entry impossible
    cases impossible
  parks := .initial

private theorem live_table (ordered : Ordered arena events)
    (at_ : arena.object? index = some (.handle handle)) :
    Live events (.table handle.api) := by
  obtain ⟨outer, _, table⟩ := (ordered.placed index handle at_).1
  exact ordered.accounted.live table (List.mem_singleton_self _)

private theorem live_own (ordered : Ordered arena events)
    (at_ : arena.object? index = some (.handle handle)) :
    ∀ resource ∈ handle.own.toList, Live events resource := by
  intro resource member
  apply ordered.accounted.live at_
  exact List.mem_append_left _ member

private theorem use (ordered : Ordered arena events) {resources : List Resource}
    (live : ∀ resource ∈ resources, Live events resource) :
    Ordered arena (events ++ [.use resources]) where
  accounted := ordered.accounted.use resources
  orderly := .concat ordered.orderly live
  sound := ordered.sound
  covered := ordered.covered.use resources
  placed := ordered.placed
  typed := by
    rw [acquired_use]
    exact ordered.typed
  parks := ordered.parks.grow fun entry member => by
    rwa [acquired_use]

private theorem useTable (ordered : Ordered arena events)
    (at_ : arena.object? index = some (.handle handle)) :
    Ordered arena (events ++ [.use [.table handle.api]]) := by
  apply ordered.use
  intro resource member
  rw [List.mem_singleton.mp member]
  exact ordered.live_table at_

private theorem begin (ordered : Ordered arena events)
    (alive : ∀ outer ∈ scope, (arena.object? outer).isSome)
    (nothing : (SessionObject.handle new).holdings = [])
    (empty : new.parked = none)
    (places : ∀ config ∈ new.config, config ∈ arena.inside scope)
    (table : ∃ outer ∈ arena.inside scope,
      arena.object? outer = some (.api new.api)) :
    Ordered (arena.begin scope (.handle new)) events where
  accounted := ordered.accounted.construct nothing
  orderly := ordered.orderly
  sound := ordered.sound.begin _ alive
  covered := ordered.covered.construct nothing
  placed := ordered.placed.begin places table
  typed := ordered.typed
  parks := ordered.parks.begin (by
    intro connection same
    rw [← SessionObject.handle.inj same]
    exact SessionHandle.parksOwn_of_empty empty)

private theorem api (ordered : Ordered arena events)
    (alive : ∀ outer ∈ scope, (arena.object? outer).isSome) {table : Nat}
    (fresh : Resource.table table ∉ (acquired events).map Prod.fst) :
    Ordered (arena.begin scope (.api table))
      (events ++ [.acquire (.table table) []]) where
  accounted := ordered.accounted.constructWith fresh
    (fun _ => List.mem_singleton)
  orderly := by
    refine .concat ordered.orderly ⟨fresh, ?_⟩
    intro needed impossible
    cases impossible
  sound := ordered.sound.begin _ alive
  covered := ordered.covered.constructWith fresh (fun _ => List.mem_singleton)
  placed := ordered.placed.beginApi table
  typed := by
    rw [acquired_acquire]
    intro entry member needed isNeeded
    rcases List.mem_append.mp member with old | last
    · exact ordered.typed entry old needed isNeeded
    · rw [List.mem_singleton.mp last] at isNeeded
      cases isNeeded
  parks := by
    apply Parks.begin
    · apply ordered.parks.grow
      intro entry member
      rw [acquired_acquire]
      exact List.mem_append_left _ member
    · intro connection same
      cases same

private theorem acquire (ordered : Ordered arena events)
    (at_ : arena.object? index = some (.handle handle))
    (fresh : resource ∉ (acquired events).map Prod.fst)
    (takes : ∀ other, other ∈ (SessionObject.handle after).holdings ↔
      other ∈ (SessionObject.handle handle).holdings ∨ other = resource)
    (sameApi : after.api = handle.api) (sameConfig : after.config = handle.config)
    (keeps : ∀ other ∈ (SessionObject.handle handle).own,
      other ∈ (SessionObject.handle after).own)
    {parent : List Resource}
    (fits : ∀ needed ∈ .table handle.api :: parent, resource.MayNeed needed)
    (covers : ∀ needed ∈ parent, ∃ owner,
      arena.Holds SessionObject.own owner needed ∧
        (owner = index ∨ owner ∈ arena.enclosing index))
    (parksOwn : after.ParksOwn
      (events ++ [.acquire resource (.table handle.api :: parent)])) :
    Ordered (arena.write index (some (.handle after)))
      (events ++ [.acquire resource (.table handle.api :: parent)]) := by
  have covers : ∀ needed ∈ Resource.table handle.api :: parent, ∃ owner,
      arena.Holds SessionObject.own owner needed ∧
        (owner = index ∨ owner ∈ arena.enclosing index) := by
    intro needed member
    rcases List.mem_cons.mp member with rfl | further
    · obtain ⟨outer, encloses, table⟩ := (ordered.placed index handle at_).1
      exact ⟨outer, ⟨_, table, List.mem_singleton_self _⟩, Or.inr encloses⟩
    · exact covers needed further
  exact
    { accounted := ordered.accounted.acquire at_ fresh takes
      orderly := by
        refine .concat ordered.orderly ⟨fresh, ?_⟩
        intro needed member
        obtain ⟨owner, ⟨object, found, owns⟩, _⟩ := covers needed member
        exact ordered.accounted.live found
          (object.holdings_of_own needed owns)
      sound := ordered.sound.put at_
      covered := ordered.covered.acquire ordered.accounted at_ fresh takes keeps
        covers
      placed := ordered.placed.put at_ sameApi sameConfig
      typed := by
        rw [acquired_acquire]
        intro entry member needed isNeeded
        rcases List.mem_append.mp member with old | last
        · exact ordered.typed entry old needed isNeeded
        · rw [List.mem_singleton.mp last] at isNeeded ⊢
          exact fits needed isNeeded
      parks := by
        refine Parks.put (ordered.parks.grow ?_) at_ parksOwn
        intro entry member
        rw [acquired_acquire]
        exact List.mem_append_left _ member }

private theorem dispose (ordered : Ordered arena events)
    (at_ : arena.object? index = some (.handle handle))
    (member : resource ∈ (SessionObject.handle handle).holdings)
    (legal : Legal events (.dispose resource))
    (gives : ∀ other, other ∈ (SessionObject.handle after).holdings ↔
      other ∈ (SessionObject.handle handle).holdings ∧ other ≠ resource)
    (sameApi : after.api = handle.api) (sameConfig : after.config = handle.config)
    (keeps : ∀ other ∈ (SessionObject.handle handle).own,
      other ∈ (SessionObject.handle after).own ∨ other = resource)
    (parksOwn : after.ParksOwn events) :
    Ordered (arena.write index (some (.handle after)))
      (events ++ [.dispose resource]) where
  accounted := ordered.accounted.dispose at_ member gives
  orderly := .concat ordered.orderly legal
  sound := ordered.sound.put at_
  covered := ordered.covered.dispose ordered.accounted at_ legal gives keeps
  placed := ordered.placed.put at_ sameApi sameConfig
  typed := by
    rw [acquired_dispose]
    exact ordered.typed
  parks := by
    refine Parks.grow (ordered.parks.put at_ parksOwn) ?_
    intro entry inside
    rwa [acquired_dispose]

private theorem finish (ordered : Ordered arena events)
    (at_ : arena.object? index = some (.handle handle))
    (nothing : (SessionObject.handle handle).holdings = [])
    (alone : arena.Alone index) :
    Ordered (arena.write index none) events where
  accounted := ordered.accounted.finish at_ nothing
  orderly := ordered.orderly
  sound := ordered.sound.finish alone at_
  covered := ordered.covered.finish SessionObject.holdings_of_own at_ nothing
  placed := ordered.placed.finish at_ alone
  typed := ordered.typed
  parks := ordered.parks.finish at_

private theorem destroyApi (ordered : Ordered arena events) {msQuic : Nat}
    (at_ : arena.object? index = some (.api msQuic))
    (alone : arena.Alone index) :
    Ordered (arena.write index none)
      (events ++ [.dispose (.table msQuic)]) := by
  have holds : ∀ other, other ∈ (SessionObject.api msQuic).holdings ↔
      other = .table msQuic := fun _ => List.mem_singleton
  have idle : arena.Idle SessionObject.holdings index := by
    intro inner _ encloses object found
    refine absurd encloses (alone inner ?_)
    rw [Option.mem_def.mp found]
    rfl
  have legal : Legal events (.dispose (.table msQuic)) := by
    refine ordered.covered.legal_dispose ordered.accounted
      SessionObject.holdings_of_own at_ idle ((holds _).mpr rfl) ?_
    intro other member needs entry needed
    rw [(holds other).mp member] at entry
    exact ordered.typed _ entry _ needed
  exact
    { accounted := ordered.accounted.finishWith at_ holds
      orderly := .concat ordered.orderly legal
      sound := ordered.sound.finish alone at_
      covered := ordered.covered.finishWith ordered.accounted
        SessionObject.holdings_of_own at_ legal holds
      placed := ordered.placed.finish at_ alone
      typed := by
        rw [acquired_dispose]
        exact ordered.typed
      parks := by
        refine Parks.grow (ordered.parks.finish at_) ?_
        intro entry inside
        rwa [acquired_dispose] }

private theorem accepted (ordered : Ordered arena events) {kind : ObjectKind}
    {inner : Nat} (at_ : arena.object? index = some (.handle handle))
    (accepts : handle.kind.accepts = some kind)
    (alive : (arena.object? inner).isSome)
    (place : index ∈ arena.inside (some inner)) :
    Ordered ((arena.write index
        (some (.handle { handle with parked := none }))).begin (some inner)
          (.handle (.assigned kind handle.parked handle.api))) events := by
  have parts := SessionObject.mem_holdings_accept accepts
  have placed : Placed (arena.write index
      (some (.handle { handle with parked := none }))) :=
    ordered.placed.put at_ rfl rfl
  exact
    { accounted := ordered.accounted.hand at_ (fun other => (parts other).1)
        (fun other => (parts other).2)
      orderly := ordered.orderly
      sound := (ordered.sound.put at_).begin _ (by
        intro outer same
        rw [← Option.some.inj same]
        exact Arena.alive_put at_ alive)
      covered := ordered.covered.hand ordered.sound at_
        (fun other member => (parts other).1.mpr (Or.inl member))
        (fun other member => (parts other).1.mpr (Or.inr member)) rfl place
      placed := by
        apply placed.begin
        · intro config impossible
          cases impossible
        · obtain ⟨outer, encloses, table⟩ := ordered.placed.table_kept at_ _
          refine ⟨outer, ?_, table⟩
          rw [Arena.inside_write]
          exact ordered.sound.nested_inside place encloses
      typed := ordered.typed
      parks := by
        apply Parks.begin
        · exact ordered.parks.put at_
            (SessionHandle.parksOwn_of_empty rfl)
        · intro connection same
          rw [← SessionObject.handle.inj same]
          exact SessionHandle.parksOwn_of_empty rfl }

private theorem moveConstruct (ordered : Ordered arena events) {inner : Nat}
    (at_ : arena.object? index = some (.handle handle))
    (idle : arena.Idle SessionObject.holdings index)
    (alive : (arena.object? inner).isSome)
    (place : ∀ outer ∈ arena.enclosing index,
      outer ∈ arena.inside (some inner)) :
    Ordered ((arena.write index
        (some (.handle { handle with h := none, parked := none }))).begin
          (some inner) (.handle handle)) events := by
  have emptied := SessionObject.holdings_emptied handle
  have placed : Placed (arena.write index
      (some (.handle { handle with h := none, parked := none }))) :=
    ordered.placed.put at_ rfl rfl
  exact
    { accounted := by
        apply ordered.accounted.hand at_
        · intro other
          rw [emptied]
          simp only [List.not_mem_nil, false_or]
        · intro other impossible
          rw [emptied] at impossible
          cases impossible
      orderly := ordered.orderly
      sound := (ordered.sound.put at_).begin _ (by
        intro outer same
        rw [← Option.some.inj same]
        exact Arena.alive_put at_ alive)
      covered := ordered.covered.move at_ idle emptied rfl rfl place
      placed := by
        apply placed.begin
        · intro config member
          rw [Arena.inside_write]
          exact place config ((ordered.placed index handle at_).2 config member)
        · obtain ⟨outer, encloses, table⟩ := ordered.placed.table_kept at_ _
          refine ⟨outer, ?_, table⟩
          rw [Arena.inside_write]
          exact place outer encloses
      typed := ordered.typed
      parks := by
        apply Parks.begin
        · exact ordered.parks.put at_
            (SessionHandle.parksOwn_of_empty rfl)
        · intro connection same
          rw [← SessionObject.handle.inj same]
          exact ordered.parks index handle at_ }

end Ordered

/-! ### The session -/

namespace SessionWorld

variable {world : SessionWorld} {index : Nat} {handle : SessionHandle}

/-- The calls were in order, and those to come can be. -/
def InOrder (world : SessionWorld) : Prop :=
  Ordered world.arena world.events

def ClosesOver (world : SessionWorld) : SessionAction → Prop
  | .close index | .destroy index =>
      ∃ connection ∈ world.handle? index, connection.kind = .connection ∧
        connection.parked ≠ none
  | _ => False

instance (world : SessionWorld) (action : SessionAction) :
    Decidable (world.ClosesOver action) :=
  match action with
  | .close _ | .destroy _ => inferInstanceAs (Decidable (∃ _ ∈ _, _ ∧ _))
  | .api _ _ | .construct _ _ _ _ | .open_ _ _ _ | .loadCred2 _ _
  | .start _ _ | .setCallback _ | .setConfig _ _ | .sendResumptionTicket _ _
  | .newConnection _ _ _ | .peerStreamStarted _ _ | .asyncAccept _
  | .accepted _ _ | .moveConstruct _ _ => inferInstanceAs (Decidable False)

private theorem alone_close (at_ : world.handle? index = some handle)
    (alone : world.arena.Alone index) :
    (world.close index handle).arena.Alone index := by
  rcases world.close_effect index handle with
    ⟨_, _, sameArena, _⟩ | ⟨_, same⟩
  · rw [sameArena]
    exact alone.put (object?_of_handle? at_)
  · rw [same]
    exact alone

private theorem alone_dropMessage (at_ : world.handle? index = some handle)
    (alone : world.arena.Alone index) :
    (world.dropMessage index handle).arena.Alone index := by
  rcases world.dropMessage_effect index handle with
    ⟨_, _, sameArena, _⟩ | ⟨_, same⟩
  · rw [sameArena]
    exact alone.put (object?_of_handle? at_)
  · rw [same]
    exact alone

namespace InOrder

private theorem live_native (inOrder : world.InOrder) :
    ∀ resource ∈ (world.nativeHandle index).toList,
      Live world.events resource := by
  intro resource member
  have at_ := Option.mem_toList.mp member
  obtain ⟨handle, found, owns⟩ := Option.bind_eq_some_iff.mp at_
  exact Ordered.live_own inOrder (object?_of_handle? found) resource
    (Option.mem_toList.mpr owns)

private theorem invoke (inOrder : world.InOrder)
    (at_ : world.handle? index = some handle) (function : ApiFunction)
    (error : QuicStatus → ErrorCode) {more : List Resource}
    (live : ∀ resource ∈ more, Live world.events resource)
    (status : QuicStatus) :
    (SessionWorld.invoke function error world handle more status).InOrder := by
  obtain ⟨sameArena, sameEvents⟩ :=
    invoke_effect function error world handle more status
  unfold InOrder
  rw [sameArena, sameEvents]
  apply Ordered.use inOrder
  intro resource member
  rcases List.mem_cons.mp member with rfl | further
  · exact Ordered.live_table inOrder (object?_of_handle? at_)
  · rcases List.mem_append.mp further with own | other
    · exact Ordered.live_own inOrder (object?_of_handle? at_) resource own
    · exact live resource other

private theorem open_ (inOrder : world.InOrder) {parent : Option Nat}
    {result : Except QuicStatus Hquic}
    (at_ : world.handle? index = some handle) (closed : handle.h = none)
    (under : world.Under index handle.kind.parent parent)
    (answers : world.Answers handle.kind parent result) :
    (world.open_ index handle (parent.bind world.nativeHandle).toList
      result).InOrder := by
  -- the parent is open, of the right kind, and held by an enclosing object
  have covers : ∀ needed ∈ (parent.bind world.nativeHandle).toList,
      (∃ kind, handle.kind.parent = some kind ∧
        ∃ opened, needed = .handle kind opened) ∧
      ∃ owner, world.arena.Holds SessionObject.own owner needed ∧
        owner ∈ world.arena.enclosing index := by
    intro needed member
    obtain ⟨outer, isParent, native⟩ :=
      Option.bind_eq_some_iff.mp (Option.mem_toList.mp member)
    subst isParent
    unfold Under at under
    split at under
    · cases under
    · obtain ⟨same, isOuter, encloses, kind⟩ := under
      obtain rfl := Option.some.inj isOuter
      obtain ⟨object, found, owns⟩ := Option.bind_eq_some_iff.mp native
      obtain ⟨opened, _, rfl⟩ := SessionHandle.own_eq_some.mp owns
      refine ⟨⟨object.kind, ?_, opened, rfl⟩, outer, ?_, encloses⟩
      · rw [← kind, kind?, found]
        rfl
      · exact ⟨_, object?_of_handle? found, SessionObject.mem_own.mpr owns⟩
  have root : handle.kind = .registration →
      (parent.bind world.nativeHandle).toList = [] := by
    intro isRoot
    rw [isRoot] at under
    obtain rfl : parent = none := under
    rfl
  obtain ⟨error, same⟩ := open_eq world index handle root result
  rw [same]
  unfold InOrder
  cases result with
  | error status =>
      change Ordered world.arena (world.record _).events
      rw [events_record]
      apply Ordered.use inOrder
      intro resource member
      rcases List.mem_cons.mp member with rfl | further
      · exact Ordered.live_table inOrder (object?_of_handle? at_)
      · obtain ⟨_, owner, ⟨object, found, owns⟩, _⟩ := covers resource further
        exact inOrder.accounted.live found
          (object.holdings_of_own resource owns)
  | ok opened =>
      change Ordered (world.arena.write index _) (world.record _).events
      rw [events_record]
      apply Ordered.acquire inOrder (object?_of_handle? at_) answers.1
        (SessionObject.mem_holdings_open closed opened) rfl rfl
      · intro other owns
        rw [SessionObject.mem_own, SessionHandle.own, closed] at owns
        cases owns
      · intro needed member
        rcases List.mem_cons.mp member with rfl | further
        · trivial
        · obtain ⟨⟨kind, isParent, other, rfl⟩, _⟩ := covers needed further
          exact isParent
      · intro needed member
        obtain ⟨_, owner, owns, encloses⟩ := covers needed member
        exact ⟨owner, owns, Or.inr encloses⟩
      · intro isConnection parked member
        obtain ⟨other, _, isOpen, _⟩ := inOrder.parks index handle
          (object?_of_handle? at_) isConnection parked member
        rw [closed] at isOpen
        cases isOpen

private theorem newConnection (inOrder : world.InOrder)
    (at_ : world.handle? index = some handle) (kind : handle.kind = .listener)
    (empty : handle.parked = none) {connection registration : Hquic}
    (fresh : world.Fresh (.handle .connection connection))
    {entry : Resource × List Resource} (member : entry ∈ acquired world.events)
    (owns : handle.own = some entry.1)
    (under : .handle .registration registration ∈ entry.2) :
    (world.newConnection index handle connection registration).InOrder := by
  have found := object?_of_handle? at_
  have accepts : handle.kind.accepts = some .connection := by
    rw [kind]
    rfl
  obtain ⟨sameArena, sameEvents⟩ :=
    world.newConnection_effect index handle connection registration
  have parked : Ordered
      (world.arena.write index
        (some (.handle { handle with parked := some connection })))
      (world.events ++ [.acquire (.handle .connection connection)
        [.table handle.api, .handle .registration registration]]) := by
    apply Ordered.acquire inOrder found fresh
      (SessionObject.mem_holdings_park accepts empty connection) rfl rfl
    · exact fun other own => own
    · intro needed isNeeded
      rcases List.mem_cons.mp isNeeded with rfl | further
      · trivial
      · rw [List.mem_singleton.mp further]
        rfl
    · intro needed isNeeded
      rw [List.mem_singleton.mp isNeeded]
      refine inOrder.covered index entry.1 ⟨_, found, ?_⟩ entry.2 member _ under
      exact SessionObject.mem_holdings.mpr (Or.inl owns)
    · intro isConnection
      change handle.kind = .connection at isConnection
      rw [kind] at isConnection
      cases isConnection
  have table := parked.live_table (Arena.object?_write_self found)
  have comes : Live (world.events ++ [.acquire (.handle .connection connection)
      [.table handle.api, .handle .registration registration]])
        (.handle .connection connection) :=
    (inOrder.accounted.balanced.live_acquire_iff fresh).mpr (Or.inr rfl)
  have config : ∀ resource ∈ (handle.config.bind world.nativeHandle).toList,
      Live (world.events ++ [.acquire (.handle .connection connection)
        [.table handle.api, .handle .registration registration]]) resource := by
    intro resource member
    obtain ⟨outer, _, native⟩ :=
      Option.bind_eq_some_iff.mp (Option.mem_toList.mp member)
    exact (inOrder.accounted.balanced.live_acquire_iff fresh).mpr
      (Or.inl (inOrder.live_native resource (Option.mem_toList.mpr native)))
  unfold InOrder
  rw [sameArena, sameEvents]
  refine (parked.use ?_).use ?_
  · intro resource member
    rcases List.mem_cons.mp member with rfl | further
    · exact table
    · rw [List.mem_singleton.mp further]
      exact comes
  · intro resource member
    rw [live_use_iff]
    rcases List.mem_cons.mp member with rfl | further
    · exact table
    · rcases List.mem_cons.mp further with rfl | last
      · exact comes
      · exact config resource last

private theorem peerStreamStarted (inOrder : world.InOrder)
    (at_ : world.handle? index = some handle)
    (kind : handle.kind = .connection) (isOpen : handle.h.isSome = true)
    (empty : handle.parked = none) {stream : Hquic}
    (fresh : world.Fresh (.handle .stream stream)) :
    (world.peerStreamStarted index handle stream).InOrder := by
  have found := object?_of_handle? at_
  have accepts : handle.kind.accepts = some .stream := by
    rw [kind]
    rfl
  obtain ⟨opened, has⟩ := Option.isSome_iff_exists.mp isOpen
  have owns : handle.own = some (.handle .connection opened) := by
    rw [SessionHandle.own, has, kind]
    rfl
  obtain ⟨sameArena, sameEvents⟩ :=
    world.peerStreamStarted_effect index handle stream
  rw [owns, Option.toList_some] at sameEvents
  have parked : Ordered
      (world.arena.write index
        (some (.handle { handle with parked := some stream })))
      (world.events ++ [.acquire (.handle .stream stream)
        [.table handle.api, .handle .connection opened]]) := by
    apply Ordered.acquire inOrder found fresh
      (SessionObject.mem_holdings_park accepts empty stream) rfl rfl
    · exact fun other own => own
    · intro needed isNeeded
      rcases List.mem_cons.mp isNeeded with rfl | further
      · trivial
      · rw [List.mem_singleton.mp further]
        rfl
    · intro needed isNeeded
      rw [List.mem_singleton.mp isNeeded]
      exact ⟨index, ⟨_, found, SessionObject.mem_own.mpr owns⟩, Or.inl rfl⟩
    · intro _ other member
      obtain rfl := Option.some.inj member
      refine ⟨opened, [.table handle.api, .handle .connection opened], has, ?_,
        List.mem_cons_of_mem _ (List.mem_singleton_self _)⟩
      rw [acquired_acquire]
      exact List.mem_append_right _ (List.mem_singleton_self _)
  have table := parked.live_table (Arena.object?_write_self found)
  unfold InOrder
  rw [sameArena, sameEvents]
  apply parked.use
  intro resource member
  rcases List.mem_cons.mp member with rfl | further
  · exact table
  · rw [List.mem_singleton.mp further]
    exact (inOrder.accounted.balanced.live_acquire_iff fresh).mpr (Or.inr rfl)

private theorem dropMessage (inOrder : world.InOrder)
    (at_ : world.handle? index = some handle) :
    (world.dropMessage index handle).InOrder := by
  have found := object?_of_handle? at_
  rcases world.dropMessage_effect index handle with
    ⟨resource, waits, sameArena, sameEvents⟩ | ⟨_, same⟩
  · have member := SessionObject.mem_holdings.mpr (Or.inr waits)
    have used := Ordered.useTable inOrder found
    unfold InOrder
    rw [sameArena, sameEvents]
    apply used.dispose found member ?_ (SessionObject.mem_holdings_drop waits)
      rfl rfl
    · exact fun other own => Or.inl own
    · exact SessionHandle.parksOwn_of_empty rfl
    · apply used.covered.legal_dispose_unowned used.accounted
        SessionObject.holdings_of_own found member
      intro owns
      exact SessionHandle.own_ne_waiting (SessionObject.mem_own.mp owns) waits
  · rw [same]
    exact inOrder

private theorem close (inOrder : world.InOrder)
    (at_ : world.handle? index = some handle)
    (idle : world.arena.Idle SessionObject.holdings index)
    (free : handle.kind = .connection → handle.parked = none) :
    (world.close index handle).InOrder := by
  have found := object?_of_handle? at_
  rcases world.close_effect index handle with
    ⟨opened, owns, sameArena, sameEvents⟩ | ⟨_, same⟩
  · have member := SessionObject.mem_holdings.mpr (Or.inl owns)
    have used := Ordered.useTable inOrder found
    unfold InOrder
    rw [sameArena, sameEvents]
    apply used.dispose found member ?_ (SessionObject.mem_holdings_close owns)
      rfl rfl
    · intro other own
      rw [SessionObject.mem_own, owns] at own
      exact Or.inr (Option.some.inj own).symm
    · intro isConnection parked waits
      rw [free isConnection] at waits
      cases waits
    · apply used.covered.legal_dispose used.accounted
        SessionObject.holdings_of_own found idle member
      intro other holds needs entry needed
      have fits := used.typed _ entry _ needed
      rcases SessionObject.mem_holdings.mp holds with own | waits
      · rw [owns] at own
        rw [← Option.some.inj own] at fits
        exact ObjectKind.parent_ne fits rfl
      · obtain ⟨kind, parked, accepts, waiting, rfl⟩ :=
          SessionHandle.waiting_eq_some.mp waits
        rw [free (ObjectKind.connection_of_brought accepts fits)] at waiting
        cases waiting
  · rw [same]
    exact inOrder

private theorem destroyHandle (inOrder : world.InOrder)
    (at_ : world.handle? index = some handle)
    (alone : world.arena.Alone index)
    (free : handle.kind = .connection → handle.parked = none) :
    (world.destroyHandle index handle).InOrder := by
  have idle : world.arena.Idle SessionObject.holdings index := by
    intro inner _ encloses object found
    refine absurd encloses (alone inner ?_)
    rw [Option.mem_def.mp found]
    rfl
  obtain ⟨after, atAfter, closed, empty⟩ :=
    handle?_dropMessage (handle?_close at_)
  have emptied := (inOrder.close at_ idle free).dropMessage (handle?_close at_)
  apply Ordered.finish emptied (object?_of_handle? atAfter)
  · exact SessionObject.holdings_eq_nil closed empty
  · apply alone_dropMessage (handle?_close at_)
    exact alone_close at_ alone

private theorem destroy (inOrder : world.InOrder)
    (alone : world.arena.Alone index)
    (free : ∀ connection ∈ world.handle? index,
      connection.kind = .connection → connection.parked = none) :
    (world.destroy index).InOrder := by
  unfold SessionWorld.destroy
  split
  · exact inOrder
  · rename_i msQuic found
    unfold InOrder
    change Ordered (world.arena.write index none) (world.record _).events
    rw [events_record]
    exact Ordered.destroyApi inOrder found alone
  · rename_i handle found
    have at_ := handle?_eq_some.mpr found
    exact inOrder.destroyHandle at_ alone (free handle at_)

private theorem elim (inOrder : world.InOrder)
    {act : SessionHandle → SessionWorld}
    (acts : ∀ handle, world.handle? index = some handle →
      (act handle).InOrder) :
    ((world.handle? index).elim world act).InOrder := by
  cases at_ : world.handle? index with
  | none => exact inOrder
  | some handle => exact acts handle at_

private theorem construct (inOrder : world.InOrder) {kind : ObjectKind}
    {scope api table : Nat} {config : Option Nat} (alive : world.Alive scope)
    (inScope : world.InScope scope api)
    (isTable : world.arena.object? api = some (.api table))
    (configured : world.Configured scope kind config) :
    (world.construct kind scope table config).InOrder := by
  apply Ordered.begin inOrder
  · intro outer same
    rw [← Option.some.inj same]
    exact alive
  · exact SessionObject.holdings_eq_nil rfl (SessionHandle.waiting_emptied
      (.construct kind table config))
  · rfl
  · intro outer member
    change config = some outer at member
    unfold Configured at configured
    split at configured
    · obtain ⟨other, same, place, _⟩ := configured
      rw [member] at same
      rw [Option.some.inj same]
      exact place
    · rw [configured] at member
      cases member
  · exact ⟨api, inScope, isTable⟩

private theorem step (inOrder : world.InOrder) {actions : List SessionAction}
    {action : SessionAction} (allowed : sessionContract actions world action)
    (free : ¬world.ClosesOver action) : (world.step action).InOrder := by
  have unparked : ∀ {index}, (∀ connection ∈ world.handle? index,
      ¬(connection.kind = .connection ∧ connection.parked ≠ none)) →
      ∀ connection ∈ world.handle? index, connection.kind = .connection →
        connection.parked = none := by
    intro index apart connection member kind
    by_contra parked
    exact apart connection member ⟨kind, parked⟩
  cases action with
  | api scope table =>
      unfold InOrder
      change Ordered (world.arena.begin scope _) (SessionWorld.events _)
      rw [SessionWorld.step, SessionWorld.api, events_record]
      exact Ordered.api inOrder allowed.1 allowed.2
  | construct kind scope api config =>
      obtain ⟨alive, inScope, isTable, configured⟩ := allowed
      obtain ⟨table, at_⟩ := Option.isSome_iff_exists.mp isTable
      simp only [SessionWorld.step, at_, Option.elim_some]
      exact inOrder.construct alive inScope (object?_of_table? at_) configured
  | open_ index parent result =>
      obtain ⟨handle, at_, closed, under, answers⟩ := allowed
      simp only [SessionWorld.step, Option.mem_def.mp at_, Option.elim_some]
      exact inOrder.open_ at_ closed under answers
  | loadCred2 index status | start index status
  | sendResumptionTicket index status | setCallback index =>
      refine inOrder.elim fun handle at_ => inOrder.invoke at_ _ _ ?_ _
      intro resource impossible
      cases impossible
  | setConfig index config =>
      exact inOrder.elim fun handle at_ =>
        inOrder.invoke at_ _ _ inOrder.live_native _
  | newConnection index connection registration =>
      obtain ⟨listener, at_, kind, empty, fresh, entry, member, owns, under⟩ :=
        allowed
      simp only [SessionWorld.step, Option.mem_def.mp at_, Option.elim_some]
      exact inOrder.newConnection at_ kind empty fresh member owns under
  | peerStreamStarted index stream =>
      obtain ⟨connection, at_, kind, isOpen, empty, fresh⟩ := allowed
      simp only [SessionWorld.step, Option.mem_def.mp at_, Option.elim_some]
      exact inOrder.peerStreamStarted at_ kind isOpen empty fresh
  | asyncAccept index =>
      exact inOrder.elim fun handle at_ => inOrder.dropMessage at_
  | accepted index scope =>
      obtain ⟨alive, inScope, _⟩ := allowed
      refine inOrder.elim fun handle at_ => ?_
      unfold SessionWorld.accepted
      split
      · exact inOrder
      · rename_i kind accepts
        exact Ordered.accepted inOrder (object?_of_handle? at_) accepts alive
          inScope
  | moveConstruct index scope =>
      obtain ⟨alive, place, _, idle⟩ := allowed
      refine inOrder.elim fun handle at_ => ?_
      exact Ordered.moveConstruct inOrder (object?_of_handle? at_) idle alive
        place
  | close index =>
      refine inOrder.elim fun handle at_ => ?_
      apply inOrder.close at_ allowed.2
      apply unparked _ handle at_
      intro connection member parked
      exact free ⟨connection, member, parked⟩
  | destroy index =>
      apply inOrder.destroy
      · intro inner alive
        obtain ⟨object, found⟩ := Option.isSome_iff_exists.mp alive
        exact allowed.2 inner (Arena.lt_of_object? found) alive
      · apply unparked
        intro connection member parked
        exact free ⟨connection, member, parked⟩

end InOrder

variable {actions : List SessionAction}

private theorem inOrder_of_run
    (run : sessionMachine.Run (fun actions world action =>
      sessionContract actions world action ∧ ¬world.ClosesOver action)
      actions world) : world.InOrder := by
  apply run.invariant (fun _ world => world.InOrder)
  · exact Ordered.initial
  · intro actions world action _ inOrder allowed
    exact inOrder.step allowed.1 allowed.2

end SessionWorld

end MsquicAsio
