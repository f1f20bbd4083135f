/-
Calling `async_shutdown` again.

The calls are numbered as operations of the handle are when it is moved.  What
they share is the one sender and receiver of the context, and SHUTDOWN_COMPLETE
is what answers them.
-/
import MsquicAsio.Connection.Completion
import MsquicAsio.Connection.Moved
import MsquicAsio.Repeated
import MsquicAsio.Stream.AnyCalls
import MsquicAsio.Stream.Moved

set_option autoImplicit false

namespace MsquicAsio

variable {O : Oneshot}

open SharedCalls (Tracks InTurn)

private theorem number_of_caller {Action : Type}
    {kind : ObjectAction Action → SharedStep}
    (number_kind : ∀ action number, (kind action).caller? = some number →
      action.number? = some number)
    {actions : List (ObjectAction Action)} {number : Nat}
    (caller : number ∈ SharedStep.callers (actions.map kind)) :
    number ∈ ObjectAction.numbers actions := by
  obtain ⟨step, mapped, called⟩ := List.mem_filterMap.mp caller
  obtain ⟨action, member, rfl⟩ := List.mem_map.mp mapped
  exact List.mem_filterMap.mpr ⟨action, member, number_kind action number called⟩

private theorem mem_of_closes {Action : Type}
    {kind : ObjectAction Action → SharedStep} {closing : ObjectAction Action}
    (closes_kind : ∀ action, kind action = .closes → action = closing)
    {actions : List (ObjectAction Action)}
    (closes : .closes ∈ actions.map kind) : closing ∈ actions := by
  obtain ⟨action, member, isCloses⟩ := List.mem_map.mp closes
  rwa [← closes_kind action isCloses]

/-! ### A stream -/

def StreamAction.shutdownStep : ObjectAction StreamAction → SharedStep
  | .operation number (.shutdown _) => .call number
  | .operation number .shutdownInitiate => .initiate number
  | .operation number (.shutdownHandler ec) => .handler number ec
  | .outside (.event .shutdownComplete) => .closes
  | _ => .aside

namespace StreamWorld

open StreamAction (shutdownStep)

abbrev Calls (O : Oneshot) :=
  ObjectState (StreamWorld O) StreamPositions StreamOutcome

def shutdownCalls (state : Calls O) : SharedCalls O where
  closed := decide (state.world.ctx.state = .shutdownComplete)
  pending := state.world.ctx.pending.shutdown
  port := state.world.ctx.shutdown
  op number := (state.positions number).shutdown

/-- Every `StreamShutdown` succeeds, and no event comes after
SHUTDOWN_COMPLETE.  The other operations may be called at any time. -/
def shutsDown : Environment (Calls O) (ObjectAction StreamAction) :=
  fun actions state action =>
    (streamOperations O).inOrder actions state action ∧
      match action with
      | .outside _ => .outside (.event .shutdownComplete) ∉ actions
      | .operation _ (.shutdown status) => status.quicFailed = false
      | .operation _ _ => True

instance (actions : List (ObjectAction StreamAction)) (state : Calls O)
    (action : ObjectAction StreamAction) :
    Decidable (shutsDown actions state action) := by
  unfold shutsDown
  split <;> infer_instance

private theorem number_kind (action : ObjectAction StreamAction)
    (number : Nat) (called : (shutdownStep action).caller? = some number) :
    action.number? = some number := by
  unfold shutdownStep at called
  split at called
  all_goals first | exact called | cases called

private theorem closes_kind (action : ObjectAction StreamAction)
    (closes : shutdownStep action = .closes) :
    action = .outside (.event .shutdownComplete) := by
  unfold shutdownStep at closes
  split at closes
  all_goals first | rfl | cases closes

private theorem ordered_of_shutsDown
    {actions : List (ObjectAction StreamAction)}
    {state : Calls O} {action : ObjectAction StreamAction}
    (allowed : shutsDown actions state action) :
    (shutdownCalls state).Ordered (actions.map shutdownStep)
      (shutdownStep action) := by
  obtain ⟨inOrder, promise⟩ := allowed
  unfold shutdownStep
  split
  · intro caller
    exact inOrder.2.2 rfl (number_of_caller number_kind caller)
  · exact (Bool.and_eq_true_iff.mp inOrder.2.1).2
  · exact (Bool.and_eq_true_iff.mp inOrder.2.1).2
  · exact fun closes => promise (mem_of_closes closes_kind closes)
  · trivial

private theorem shutdownCalls_after (state : Calls O) (number : Nat)
    (stepped : StreamWorld O) (told : Option StreamOutcome) :
    shutdownCalls ((streamOperations O).after state number stepped told) =
      { closed := decide (stepped.ctx.state = .shutdownComplete)
        pending := stepped.shutdownSlot.pending
        port := stepped.shutdownSlot.port
        op := Function.update (shutdownCalls state).op number
          stepped.shutdownSlot.op } := by
  simp only [shutdownCalls, ObjectOperations.after, shutdownSlot,
    SharedCalls.mk.injEq, true_and]
  refine ⟨rfl, funext fun other => ?_⟩
  exact Function.apply_update
    (fun _ (place : StreamPositions) => place.shutdown) _ _ _ _

private theorem state_frontEnd (world : StreamWorld O) {action : StreamAction}
    (notEvent : action.isEvent = false) :
    (world.step action).ctx.state = world.ctx.state := by
  by_cases isReceive : ∃ lpBuffer bufferLen,
      action = .receive lpBuffer bufferLen
  · obtain ⟨lpBuffer, bufferLen, rfl⟩ := isReceive
    simp only [StreamWorld.step, world.ctx.asyncReceive_eq, Exec.finalState,
      AsioServerStreamCtx.afterFirstReader]
    split
    · rfl
    · split <;> rfl
  · have other : ∀ event, action ≠ .event event := by
      rintro event rfl
      cases notEvent
    have kept := world.receiveSide_frontEnd action other
      (fun lpBuffer bufferLen same => isReceive ⟨lpBuffer, bufferLen, same⟩)
    simp only [receiveSide, Prod.mk.injEq] at kept
    exact kept.2.2.1

private theorem shutdownSlot_shutdownInitiate (world : StreamWorld O) :
    (world.step .shutdownInitiate).shutdownSlot =
      { world.shutdownSlot with
        op := (world.shutdownSlot.initiate.map LockedSlot.op).getD
          world.shutdownSlot.op } := by
  simp only [StreamWorld.step]
  cases world.shutdownSlot.initiate <;> rfl

private theorem shutdownSlot_shutdownHandler (world : StreamWorld O)
    (ec : ErrorCode) :
    (world.step (.shutdownHandler ec)).shutdownSlot =
      { world.shutdownSlot with
        op := ((world.shutdownSlot.handler ec).map
          fun handled => handled.1.op).getD world.shutdownSlot.op } := by
  simp only [StreamWorld.step]
  cases world.shutdownSlot.handler ec <;> rfl

private theorem shutdownCalls_event {state : Calls O} (event : StreamEvent)
    (guarded : state.world.ctx.Guarded)
    (opened : state.world.ctx.state ≠ .shutdownComplete) :
    shutdownCalls ((streamOperations O).run state (.outside (.event event))) =
      (shutdownCalls state).next (shutdownStep (.outside (.event event))) := by
  have after : (state.world.deliver event).ctx = state.world.ctx.after event :=
    state.world.ctx.finalState_callback event guarded
  have stepped : ((streamOperations O).run state (.outside (.event event))).world
      = state.world.deliver event := rfl
  have stillOpen : decide (state.world.ctx.state = .shutdownComplete) = false :=
    decide_eq_false opened
  cases event with
  | shutdownComplete =>
      simp only [shutdownCalls, stepped, after, shutdownStep, SharedCalls.next]
      rfl
  | startComplete | sendComplete | receive | other =>
      simp only [shutdownCalls, stepped, after, shutdownStep, SharedCalls.next]
      rfl
  | peerSendShutdown | peerSendAborted =>
      simp only [shutdownCalls, stepped, after, shutdownStep, SharedCalls.next,
        stillOpen]
      rfl

private theorem shutdownCalls_operation {state : Calls O} (number : Nat)
    (action : StreamAction) (notEvent : action.isEvent = false)
    (succeeds : ∀ status, action = .shutdown status →
      status.quicFailed = false) :
    shutdownCalls ((streamOperations O).run state (.operation number action)) =
      (shutdownCalls state).next (shutdownStep (.operation number action)) := by
  have sameSlot : ((streamOperations O).seen state number).shutdownSlot =
      (shutdownCalls state).slot number := rfl
  have sameState : ((streamOperations O).seen state number).ctx.state =
      state.world.ctx.state := rfl
  have stepped : (streamOperations O).step
      ((streamOperations O).seen state number) action =
        ((streamOperations O).seen state number).step action := rfl
  rw [ObjectOperations.run, shutdownCalls_after, stepped,
    state_frontEnd _ notEvent, sameState]
  cases action with
  | event => cases notEvent
  | start | send | receive | receiveInitiate | receiveHandler
  | receiveInvoke =>
      rw [shutdownSlot_aside _ rfl rfl, sameSlot]
      simp only [SharedCalls.slot, Function.update_eq_self]
      rfl
  | shutdown status =>
      rw [shutdownSlot_asyncShutdown, sameSlot, sameState, succeeds status rfl]
      simp only [shutdownStep, SharedCalls.next, shutdownCalls,
        decide_eq_true_eq, Bool.false_eq_true, if_false]
  | shutdownInitiate =>
      rw [shutdownSlot_shutdownInitiate, sameSlot]
      rfl
  | shutdownHandler ec =>
      rw [shutdownSlot_shutdownHandler, sameSlot]
      rfl

private theorem shutdownCalls_run {actions : List (ObjectAction StreamAction)}
    {state : Calls O} {action : ObjectAction StreamAction}
    (tracks : Tracks (actions.map shutdownStep) (shutdownCalls state))
    (reader : state.world.ctx.ReaderLive)
    (allowed : shutsDown actions state action) :
    shutdownCalls ((streamOperations O).run state action) =
      (shutdownCalls state).next (shutdownStep action) := by
  obtain ⟨inOrder, promise⟩ := allowed
  cases action with
  | outside action =>
      cases action with
      | event event =>
          apply shutdownCalls_event event
          · exact ⟨fun raised => (reader raised).1, tracks.live⟩
          · intro complete
            exact promise (mem_of_closes closes_kind
              (tracks.closed.mp (decide_eq_true complete)))
      | start | send | receive | receiveInitiate | receiveHandler
      | receiveInvoke | shutdown | shutdownInitiate | shutdownHandler =>
          cases inOrder.1
  | operation number action =>
      apply shutdownCalls_operation number action inOrder.1
      rintro status rfl
      exact promise

/-- The calls of `async_shutdown` on a stream are the shared calls of one
operation. -/
private theorem simulates_shutdown :
    SharedCalls.Simulates ((streamOperations O).machine .initial) shutsDown
      shutdownCalls shutdownStep (fun state => state.world.ctx.ReaderLive) where
  start := rfl
  beside_start := loose_initial.waits
  ordered _ _ _ allowed := ordered_of_shutsDown allowed
  step := by
    intro actions state action tracks reader allowed
    refine ⟨shutdownCalls_run tracks reader allowed, ?_⟩
    cases action with
    | outside action => exact readerLive_step reader action
    | operation number action =>
        have seen : ((streamOperations O).seen state number).ctx.ReaderLive :=
          reader
        exact readerLive_step seen action

end StreamWorld

/-! ### A connection -/

namespace ConnectionAction

def shutdownStep : ObjectAction ConnectionAction → SharedStep
  | .operation number .shutdown => .call number
  | .operation number .shutdownInitiate => .initiate number
  | .operation number (.shutdownHandler ec) => .handler number ec
  | .outside (.event .shutdownComplete) => .closes
  | _ => .aside

def ofShutdown : ConnectionAction → Bool
  | .shutdown | .shutdownInitiate | .shutdownHandler _ => true
  | _ => false

end ConnectionAction

structure AsioServerConnectionCtx.OnlyShutdown
    (ctx : AsioServerConnectionCtx O) : Prop where
  start : ctx.pending.clientStart = false
  connect : ctx.pending.serverConnect = false
  accept : ctx.pending.accept = false

private theorem AsioServerConnectionCtx.OnlyShutdown.guarded
    {ctx : AsioServerConnectionCtx O} (only : ctx.OnlyShutdown)
    (live : ctx.pending.shutdown = true → ctx.shutdown.Live) : ctx.Guarded where
  start := fun raised => absurd (only.start.symm.trans raised) Bool.false_ne_true
  connect := fun raised =>
    absurd (only.connect.symm.trans raised) Bool.false_ne_true
  oneMode := fun _ => only.connect
  accept := fun raised =>
    absurd (only.accept.symm.trans raised) Bool.false_ne_true
  shutdown := live

namespace ConnectionWorld

open ConnectionAction (shutdownStep)

abbrev Calls (O : Oneshot) :=
  ObjectState (ConnectionWorld O) ConnectionPositions ConnectionOutcome

def shutdownCalls (state : Calls O) : SharedCalls O where
  closed := decide (state.world.ctx.state = .shutdownComplete)
  pending := state.world.ctx.pending.shutdown
  port := state.world.ctx.shutdown
  op number := (state.positions number).shutdown

/-- `async_shutdown` is called at any time, and no event comes after
SHUTDOWN_COMPLETE. -/
def shutsDown : Environment (Calls O) (ObjectAction ConnectionAction) :=
  fun actions state action =>
    (connectionOperations O).inOrder actions state action ∧
      match action with
      | .outside _ => .outside (.event .shutdownComplete) ∉ actions
      | .operation _ action => action.ofShutdown = true

instance (actions : List (ObjectAction ConnectionAction)) (state : Calls O)
    (action : ObjectAction ConnectionAction) :
    Decidable (shutsDown actions state action) := by
  unfold shutsDown
  split <;> infer_instance

private theorem number_kind (action : ObjectAction ConnectionAction)
    (number : Nat) (called : (shutdownStep action).caller? = some number) :
    action.number? = some number := by
  unfold shutdownStep at called
  split at called
  all_goals first | exact called | cases called

private theorem closes_kind (action : ObjectAction ConnectionAction)
    (closes : shutdownStep action = .closes) :
    action = .outside (.event .shutdownComplete) := by
  unfold shutdownStep at closes
  split at closes
  all_goals first | rfl | cases closes

private theorem ordered_of_shutsDown
    {actions : List (ObjectAction ConnectionAction)}
    {state : Calls O} {action : ObjectAction ConnectionAction}
    (allowed : shutsDown actions state action) :
    (shutdownCalls state).Ordered (actions.map shutdownStep)
      (shutdownStep action) := by
  obtain ⟨inOrder, promise⟩ := allowed
  unfold shutdownStep
  split
  · intro caller
    exact inOrder.2.2 rfl (number_of_caller number_kind caller)
  · exact (Bool.and_eq_true_iff.mp inOrder.2.1).2
  · exact (Bool.and_eq_true_iff.mp inOrder.2.1).2
  · exact fun closes => promise (mem_of_closes closes_kind closes)
  · trivial

private theorem shutdownCalls_after (state : Calls O) (number : Nat)
    (stepped : ConnectionWorld O) (told : Option ConnectionOutcome) :
    shutdownCalls ((connectionOperations O).after state number stepped told) =
      { closed := decide (stepped.ctx.state = .shutdownComplete)
        pending := stepped.shutdownSlot.pending
        port := stepped.shutdownSlot.port
        op := Function.update (shutdownCalls state).op number
          stepped.shutdownSlot.op } := by
  simp only [shutdownCalls, ObjectOperations.after, shutdownSlot,
    SharedCalls.mk.injEq, true_and]
  refine ⟨rfl, funext fun other => ?_⟩
  exact Function.apply_update
    (fun _ (place : ConnectionPositions) => place.shutdown) _ _ _ _

private theorem shutdownSlot_shutdownInitiate (world : ConnectionWorld O) :
    (world.step .shutdownInitiate).shutdownSlot =
        { world.shutdownSlot with
          op := (world.shutdownSlot.initiate.map LockedSlot.op).getD
            world.shutdownSlot.op } ∧
      (world.step .shutdownInitiate).ctx = world.ctx := by
  simp only [ConnectionWorld.step]
  cases world.shutdownSlot.initiate <;> exact ⟨rfl, rfl⟩

private theorem shutdownSlot_shutdownHandler (world : ConnectionWorld O)
    (ec : ErrorCode) :
    (world.step (.shutdownHandler ec)).shutdownSlot =
        { world.shutdownSlot with
          op := ((world.shutdownSlot.handler ec).map
            fun handled => handled.1.op).getD world.shutdownSlot.op } ∧
      (world.step (.shutdownHandler ec)).ctx = world.ctx := by
  simp only [ConnectionWorld.step]
  cases world.shutdownSlot.handler ec <;> exact ⟨rfl, rfl⟩

/-- A statement of the PEER_STREAM_STARTED callback touches the flag of
`async_accept` alone, and only to lower it. -/
private theorem streamStarted_kept (world : ConnectionWorld O)
    (statement : StreamStartedStep) :
    ((world.step (.streamStarted statement)).ctx.state = world.ctx.state ∧
      (world.step (.streamStarted statement)).shutdownSlot =
        world.shutdownSlot) ∧
    (world.ctx.OnlyShutdown →
      (world.step (.streamStarted statement)).ctx.OnlyShutdown) := by
  refine ⟨⟨?_, Serving.shutdownSlot_other _ rfl rfl (by simp) (by simp) (by simp)⟩,
    ?_⟩
  · simp only [ConnectionWorld.step, streamStarted]
    split
    case h_5 => split <;> rfl
    all_goals rfl
  · intro only
    simp only [ConnectionWorld.step, streamStarted]
    split
    case h_5 => split <;> exact ⟨only.start, only.connect, only.accept⟩
    case h_3 => exact ⟨only.start, only.connect, rfl⟩
    all_goals exact ⟨only.start, only.connect, only.accept⟩

private theorem onlyShutdown_event {world : ConnectionWorld O}
    (event : ConnectionEvent) (guarded : world.ctx.Guarded)
    (only : world.ctx.OnlyShutdown) :
    (world.step (.event event)).ctx.OnlyShutdown := by
  obtain ⟨start, connect, accept⟩ := only
  rw [world.step_event event guarded]
  cases event with
  | connected => exact ⟨rfl, rfl, accept⟩
  | shutdownInitiatedByTransport | shutdownInitiatedByPeer
  | shutdownComplete => exact ⟨start, rfl, rfl⟩
  | peerStreamStarted | resumed | resumptionTicketReceived | other =>
      exact ⟨start, connect, accept⟩

private theorem shutdownCalls_event {state : Calls O} (event : ConnectionEvent)
    (guarded : state.world.ctx.Guarded)
    (opened : state.world.ctx.state ≠ .shutdownComplete) :
    shutdownCalls
        ((connectionOperations O).run state (.outside (.event event))) =
      (shutdownCalls state).next (shutdownStep (.outside (.event event))) := by
  have stepped : ((connectionOperations O).run state
      (.outside (.event event))).world.ctx = state.world.ctx.after event :=
    congrArg ConnectionWorld.ctx (state.world.step_event event guarded)
  have stillOpen : decide (state.world.ctx.state = .shutdownComplete) = false :=
    decide_eq_false opened
  cases event with
  | shutdownComplete =>
      simp only [shutdownCalls, stepped, shutdownStep, SharedCalls.next]
      rfl
  | connected | peerStreamStarted | resumed | resumptionTicketReceived
  | other =>
      simp only [shutdownCalls, stepped, shutdownStep, SharedCalls.next]
      rfl
  | shutdownInitiatedByTransport | shutdownInitiatedByPeer =>
      simp only [shutdownCalls, stepped, shutdownStep, SharedCalls.next,
        stillOpen]
      rfl

private theorem shutdownCalls_streamStarted {state : Calls O}
    {statement : StreamStartedStep}
    (stateKept : (state.world.step (.streamStarted statement)).ctx.state =
      state.world.ctx.state)
    (slotKept : (state.world.step (.streamStarted statement)).shutdownSlot =
      state.world.shutdownSlot) :
    shutdownCalls ((connectionOperations O).run state
        (.outside (.streamStarted statement))) =
      (shutdownCalls state).next
        (shutdownStep (.outside (.streamStarted statement))) := by
  have moved : shutdownCalls ((connectionOperations O).run state
      (.outside (.streamStarted statement))) =
        { shutdownCalls state with
          closed := decide ((state.world.step
            (.streamStarted statement)).ctx.state = .shutdownComplete)
          pending := (state.world.step
            (.streamStarted statement)).shutdownSlot.pending
          port := (state.world.step
            (.streamStarted statement)).shutdownSlot.port } := rfl
  rw [moved, stateKept, slotKept]
  rfl

private theorem onlyShutdown_operation {world : ConnectionWorld O}
    (action : ConnectionAction) (shuts : action.ofShutdown = true)
    (only : world.ctx.OnlyShutdown) : (world.step action).ctx.OnlyShutdown := by
  cases action with
  | event | streamStarted | start | connect | connectInitiate | connectHandler
  | accept | acceptInitiate | acceptHandler => cases shuts
  | shutdown =>
      rw [step_shutdown]
      exact ⟨only.start, only.connect, only.accept⟩
  | shutdownInitiate =>
      rw [(shutdownSlot_shutdownInitiate world).2]
      exact only
  | shutdownHandler ec =>
      rw [(shutdownSlot_shutdownHandler world ec).2]
      exact only

private theorem shutdownCalls_operation {state : Calls O} (number : Nat)
    (action : ConnectionAction) (shuts : action.ofShutdown = true) :
    shutdownCalls
        ((connectionOperations O).run state (.operation number action)) =
      (shutdownCalls state).next (shutdownStep (.operation number action)) := by
  have sameSlot : ((connectionOperations O).seen state number).shutdownSlot =
      (shutdownCalls state).slot number := rfl
  have sameState : ((connectionOperations O).seen state number).ctx =
      state.world.ctx := rfl
  have stepped : (connectionOperations O).step
      ((connectionOperations O).seen state number) action =
        ((connectionOperations O).seen state number).step action := rfl
  rw [ObjectOperations.run, shutdownCalls_after, stepped]
  cases action with
  | event | streamStarted | start | connect | connectInitiate | connectHandler
  | accept | acceptInitiate | acceptHandler => cases shuts
  | shutdown =>
      rw [step_shutdown, sameState]
      simp only [shutdownSlot, AsioServerConnectionCtx.afterShutdown,
        shutdownStep, SharedCalls.next, shutdownCalls, SharedCalls.slot,
        LockedSlot.called]
      by_cases complete : state.world.ctx.state = .shutdownComplete <;>
        simp only [complete, if_true, if_false, decide_true, decide_false,
          ne_eq, not_true_eq_false, not_false_eq_true, Bool.or_false,
          Bool.or_true, Bool.false_eq_true, Port.rx_afterSend, Port.rx_renew]
  | shutdownInitiate =>
      obtain ⟨slotAfter, stateKept⟩ := shutdownSlot_shutdownInitiate
        ((connectionOperations O).seen state number)
      rw [slotAfter, stateKept, sameSlot, sameState]
      rfl
  | shutdownHandler ec =>
      obtain ⟨slotAfter, stateKept⟩ := shutdownSlot_shutdownHandler
        ((connectionOperations O).seen state number) ec
      rw [slotAfter, stateKept, sameSlot, sameState]
      rfl

private theorem simulates_shutdown :
    SharedCalls.Simulates ((connectionOperations O).machine .initial) shutsDown
      shutdownCalls shutdownStep
      (fun state => state.world.ctx.OnlyShutdown) where
  start := rfl
  beside_start := ⟨rfl, rfl, rfl⟩
  ordered _ _ _ allowed := ordered_of_shutsDown allowed
  step := by
    rintro actions state action tracks only ⟨inOrder, promise⟩
    have guarded := only.guarded tracks.live
    cases action with
    | outside action =>
        have opened : state.world.ctx.state ≠ .shutdownComplete := by
          intro complete
          exact promise (mem_of_closes closes_kind
            (tracks.closed.mp (decide_eq_true complete)))
        cases action with
        | event event =>
            exact ⟨shutdownCalls_event event guarded opened,
              onlyShutdown_event event guarded only⟩
        | streamStarted statement =>
            obtain ⟨kept, onlyKept⟩ :=
              streamStarted_kept state.world statement
            exact ⟨shutdownCalls_streamStarted kept.1 kept.2, onlyKept only⟩
        | start | connect | connectInitiate | connectHandler | accept
        | acceptInitiate | acceptHandler | shutdown | shutdownInitiate
        | shutdownHandler => cases inOrder.1
    | operation number action =>
        have seen : ((connectionOperations O).seen state
            number).ctx.OnlyShutdown := only
        exact ⟨shutdownCalls_operation number action promise,
          onlyShutdown_operation action promise seen⟩

end ConnectionWorld

/-! ### Both handles -/

/-- For streams and connections: in a run every call of `async_shutdown` gets
its own outcome, exactly when SHUTDOWN_COMPLETE comes after at most one call and
every handler runs before the next call is made. -/
theorem shutdown_own_outcome_iff (O : Oneshot) :
    (∀ (actions : List (ObjectAction StreamAction))
        (state : StreamWorld.Calls O),
      ((streamOperations O).machine .initial).Run StreamWorld.shutsDown actions
          state →
      (((streamOperations O).machine .initial).Throughout
            (fun actions state => (StreamWorld.shutdownCalls state).Answered
              (actions.map StreamAction.shutdownStep)) actions ∧
          ((streamOperations O).machine .initial).EachStep
            (fun _ state action => (StreamWorld.shutdownCalls state).EndsOwn
              (StreamAction.shutdownStep action)) actions ↔
        ((streamOperations O).machine .initial).EachStep
          (fun actions _ action => InTurn
            (actions.map StreamAction.shutdownStep)
            (StreamAction.shutdownStep action)) actions)) ∧
    (∀ (actions : List (ObjectAction ConnectionAction))
        (state : ConnectionWorld.Calls O),
      ((connectionOperations O).machine .initial).Run ConnectionWorld.shutsDown
          actions state →
      (((connectionOperations O).machine .initial).Throughout
            (fun actions state => (ConnectionWorld.shutdownCalls state).Answered
              (actions.map ConnectionAction.shutdownStep)) actions ∧
          ((connectionOperations O).machine .initial).EachStep
            (fun _ state action => (ConnectionWorld.shutdownCalls state).EndsOwn
              (ConnectionAction.shutdownStep action)) actions ↔
        ((connectionOperations O).machine .initial).EachStep
          (fun actions _ action => InTurn
            (actions.map ConnectionAction.shutdownStep)
            (ConnectionAction.shutdownStep action)) actions)) :=
  ⟨fun _ _ run => StreamWorld.simulates_shutdown.own_iff run,
    fun _ _ run => ConnectionWorld.simulates_shutdown.own_iff run⟩

/-- A stream is shut down again while the first call waits. -/
def abortAfterGraceful : List (ObjectAction StreamAction) :=
  [.operation 0 (.shutdown .success), .operation 0 .shutdownInitiate,
    .operation 1 (.shutdown .success), .operation 1 .shutdownInitiate,
    .outside (.event .shutdownComplete),
    .operation 1 (.shutdownHandler .success),
    .operation 0 (.shutdownHandler .oneshot)]

def shutdownTwice : List (ObjectAction ConnectionAction) :=
  [.operation 0 .shutdown, .operation 1 .shutdown,
    .operation 0 .shutdownInitiate, .operation 1 .shutdownInitiate,
    .outside (.event .shutdownComplete),
    .operation 0 (.shutdownHandler .success),
    .operation 1 (.shutdownHandler .success)]

theorem repeated_shutdown_loses :
    (((streamOperations .reference).machine .initial).Run StreamWorld.shutsDown
        abortAfterGraceful
        (((streamOperations .reference).machine .initial).exec
          abortAfterGraceful) ∧
      (((streamOperations .reference).machine .initial).exec
        abortAfterGraceful).told =
          [(1, .shutdown .success), (0, .shutdown .oneshot)] ∧
      (((streamOperations .reference).machine .initial).exec
        abortAfterGraceful).world.ctx.shutdown.channels.outcomes 0 = [] ∧
      ¬(StreamWorld.shutdownCalls
        (((streamOperations .reference).machine .initial).exec
          abortAfterGraceful)).Answered
        (abortAfterGraceful.map StreamAction.shutdownStep)) ∧
    (((connectionOperations .reference).machine .initial).Run
        ConnectionWorld.shutsDown shutdownTwice
        (((connectionOperations .reference).machine .initial).exec
          shutdownTwice) ∧
      (((connectionOperations .reference).machine .initial).exec
        shutdownTwice).told =
          [(0, .shutdown .success), (1, .shutdown .success)] ∧
      (((connectionOperations .reference).machine .initial).exec
        shutdownTwice).world.ctx.shutdown.channels.outcomes 0 = [] ∧
      ¬(ConnectionWorld.shutdownCalls
        (((connectionOperations .reference).machine .initial).exec
          shutdownTwice)).Answered
        (shutdownTwice.map ConnectionAction.shutdownStep)) := by
  refine ⟨⟨Machine.run_of_checks _ (by decide), by decide, by decide, ?_⟩,
    Machine.run_of_checks _ (by decide), by decide, by decide, ?_⟩
  · intro answered
    exact absurd (answered (by decide) 0 (by decide)) (by decide)
  · intro answered
    exact absurd (answered (by decide) 0 (by decide)) (by decide)

def streamShutdownAgain : List (ObjectAction StreamAction) :=
  [.operation 0 (.shutdown .success), .operation 0 .shutdownInitiate,
    .outside (.event .shutdownComplete),
    .operation 0 (.shutdownHandler .success),
    .operation 1 (.shutdown .success), .operation 1 .shutdownInitiate,
    .operation 1 (.shutdownHandler .success)]

def connectionShutdownAgain : List (ObjectAction ConnectionAction) :=
  [.operation 0 .shutdown, .operation 0 .shutdownInitiate,
    .outside (.event .shutdownComplete),
    .operation 0 (.shutdownHandler .success),
    .operation 1 .shutdown, .operation 1 .shutdownInitiate,
    .operation 1 (.shutdownHandler .success)]

theorem shutdown_own_outcome_iff_again :
    (((streamOperations .reference).machine .initial).Throughout
          (fun actions state => (StreamWorld.shutdownCalls state).Answered
            (actions.map StreamAction.shutdownStep)) streamShutdownAgain ∧
        ((streamOperations .reference).machine .initial).EachStep
          (fun _ state action => (StreamWorld.shutdownCalls state).EndsOwn
            (StreamAction.shutdownStep action)) streamShutdownAgain ↔
      ((streamOperations .reference).machine .initial).EachStep
        (fun actions _ action => InTurn
          (actions.map StreamAction.shutdownStep)
          (StreamAction.shutdownStep action)) streamShutdownAgain) ∧
    (((connectionOperations .reference).machine .initial).Throughout
          (fun actions state => (ConnectionWorld.shutdownCalls state).Answered
            (actions.map ConnectionAction.shutdownStep))
          connectionShutdownAgain ∧
        ((connectionOperations .reference).machine .initial).EachStep
          (fun _ state action => (ConnectionWorld.shutdownCalls state).EndsOwn
            (ConnectionAction.shutdownStep action)) connectionShutdownAgain ↔
      ((connectionOperations .reference).machine .initial).EachStep
        (fun actions _ action => InTurn
          (actions.map ConnectionAction.shutdownStep)
          (ConnectionAction.shutdownStep action)) connectionShutdownAgain) :=
  ⟨(shutdown_own_outcome_iff .reference).1 _ _
      (Machine.run_of_checks streamShutdownAgain (by decide)),
    (shutdown_own_outcome_iff .reference).2 _ _
      (Machine.run_of_checks connectionShutdownAgain (by decide))⟩

end MsquicAsio
