/-
`async_accept` of the listener refines a hand-off.

Announced connections wait in their callbacks, and calls of `async_accept` ask
for one each.  The semaphore, the flag, the sender and the mutex are how the
listener does it; what comes of them is one of the steps of the hand-off, or
none.
-/
import MsquicAsio.Lib.Call
import MsquicAsio.Lib.Ledger
import MsquicAsio.Listener.HandOff

set_option autoImplicit false

namespace MsquicAsio

variable {O : Oneshot}

/-- A success gives a connection.  Callbacks run in parallel. -/
def connectionHandoff : HandoffKind Hquic MoveAcceptMessage where
  given connection := (.success, .assign connection)
  gives message := decide (message.1 = .success)
  gives_given _ := rfl
  serial := false

def NewConnection.offered (callback : NewConnection) : Option Hquic :=
  if callback.done = true then none else some callback.connection

def ListenerAction.request :
    ListenerAction → Option (HandoffAction Hquic MoveAcceptMessage)
  | .event (.newConnection connection) => some (.offer connection)
  | .accept => some .ask
  | _ => none

namespace ListenerWorld

def handoff (world : ListenerWorld O) : Handoff Hquic MoveAcceptMessage where
  offered := world.callbacks.filterMap NewConnection.offered
  call := world.ctx.accept.call world.accept.own
  told := world.accepted.map Prod.snd
  closed := decide (world.ctx.state = .stopped)

/-- What a step of the listener is to the hand-off. -/
def accepting (world : ListenerWorld O) (action : ListenerAction) :
    List (HandoffAction Hquic MoveAcceptMessage) :=
  match action with
  | .event (.newConnection connection) => [.offer connection]
  | .event .stopComplete =>
      .close ::
        HandoffAction.refusal world.handoff.call
          (world.step (.event .stopComplete)).handoff.call
  | .newConnection index .send =>
      (world.callbacks[index]?.map fun callback =>
        HandoffAction.give callback.connection).toList
  | .accept =>
      .ask :: HandoffAction.refusal .asking (world.step .accept).handoff.call
  | .acceptHandler _ => world.handoff.call.answer.map .tell
  | _ => []

/-! ### The connections that wait -/

section Waiting

variable {world : ListenerWorld O} {index : Nat} {connection : Hquic}
  {before place : NewConnectionPlace}

private theorem offered_moved
    (here : world.callbacks[index]? = some ⟨connection, before⟩)
    (place : NewConnectionPlace) :
    ((NewConnection.mk connection before).offered.toList : Multiset Hquic) +
        (world.moved index connection place).filterMap NewConnection.offered =
      (NewConnection.mk connection place).offered.toList +
        (world.callbacks.filterMap NewConnection.offered : Multiset Hquic) := by
  rw [Multiset.coe_add, Multiset.coe_add]
  apply Multiset.coe_eq_coe.mpr
  exact Ledger.filterMap_set_perm here

private theorem offered_running
    (running : (NewConnection.mk connection place).done = false) :
    (NewConnection.mk connection place).offered = some connection := by
  simp only [NewConnection.offered, running, Bool.false_eq_true, if_false]

private theorem offered_goesOn
    (here : world.callbacks[index]? = some ⟨connection, before⟩)
    (running : (NewConnection.mk connection before).done = false)
    (stillRuns : (NewConnection.mk connection place).done = false) :
    ((world.moved index connection place).filterMap NewConnection.offered :
        Multiset Hquic) =
      world.callbacks.filterMap NewConnection.offered := by
  have moved := offered_moved here place
  rw [offered_running running, offered_running stillRuns] at moved
  exact add_left_cancel moved

private theorem offered_returns {into : Option Nat}
    (here : world.callbacks[index]? = some ⟨connection, before⟩)
    (running : (NewConnection.mk connection before).done = false) :
    ((world.moved index connection (.returned into)).filterMap
        NewConnection.offered : Multiset Hquic) =
      (world.callbacks.filterMap NewConnection.offered : Multiset Hquic).erase
        connection := by
  have moved := offered_moved here (.returned into)
  rw [offered_running running] at moved
  have nothing :
      (NewConnection.mk connection (.returned into)).offered = none := rfl
  rw [nothing] at moved
  change ({connection} : Multiset Hquic) + _ = 0 + _ at moved
  rw [zero_add, Multiset.singleton_add] at moved
  rw [← moved, Multiset.erase_cons_head]

private theorem mem_offered
    (here : world.callbacks[index]? = some ⟨connection, before⟩)
    (running : (NewConnection.mk connection before).done = false) :
    connection ∈
      (world.callbacks.filterMap NewConnection.offered : Multiset Hquic) := by
  apply Multiset.mem_coe.mpr
  apply List.mem_filterMap.mpr
  exact ⟨_, List.mem_of_getElem? here, offered_running running⟩

private theorem nothing_offered
    (allDone : ∀ callback ∈ world.callbacks, callback.done = true) :
    (world.callbacks.filterMap NewConnection.offered : Multiset Hquic) = 0 := by
  apply (Multiset.coe_eq_zero _).mpr
  apply List.filterMap_eq_nil_iff.mpr
  intro callback member
  simp only [NewConnection.offered, allDone callback member, if_true]

end Waiting

/-! ### Every step is one of the hand-off -/

private theorem handoff_accept (world : ListenerWorld O) :
    (world.step .accept).handoff =
      { world.handoff with
        call :=
          if world.ctx.state = .stopped then .answered listenerAborted
          else .asking } := by
  by_cases isStopped : world.ctx.state = .stopped
  · rw [if_pos isStopped, ← world.ctx.accept.call_answered listenerAborted]
    simp only [step_accept, handoff, AsioServerListenerCtx.afterAccept,
      isStopped, if_true, Port.rx_afterSend, Port.rx_renew, LockedOp.own]
  · rw [if_neg isStopped, ← world.ctx.accept.call_renew]
    simp only [step_accept, handoff, AsioServerListenerCtx.afterAccept,
      isStopped, if_false, Port.rx_renew, LockedOp.own]

namespace Listening

variable {world : ListenerWorld O} {actions : List ListenerAction}
  {stopped : Bool} {action : ListenerAction}
  {done : List (HandoffAction Hquic MoveAcceptMessage)}

private theorem refines_newConnection (listening : world.Listening stopped)
    {index : Nat} {connection : Hquic} {statement : NewConnectionStep}
    (running : world.Running index connection statement)
    (run : (handoffMachine connectionHandoff).Run
      (Handoff.rules connectionHandoff) done world.handoff) :
    (handoffMachine connectionHandoff).Run (Handoff.rules connectionHandoff)
      (done ++ world.accepting (.newConnection index statement))
      (world.newConnection index statement).handoff := by
  cases running with
  | unlock here | acquire here | assertAccept here | clearAccept here
  | setCallback here | setConfig here =>
      apply run.stays
      simp only [ListenerWorld.newConnection, here, handoff]
      rw [offered_goesOn here rfl rfl]
  | send here =>
      obtain ⟨id, own, txAt, live⟩ := listening.send_live here rfl
      have sent := world.ctx.accept.send_of_live
        (.success, .assign connection) ⟨id, txAt, live⟩
      simp only [accepting, here, Option.map_some, Option.toList_some]
      apply run.follows
      · constructor
        · simp only [handoff, own]
          exact Port.call_of_unsent live.2
        · exact mem_offered here rfl
      · simp only [ListenerWorld.newConnection, here, sent, handoff,
          handoffMachine, Handoff.step, own]
        rw [offered_returns here rfl, Port.call_afterSend txAt live]
        rfl

private theorem refused_stopComplete (listening : world.Listening stopped)
    (allDone : ∀ callback ∈ world.callbacks, callback.done = true) :
    world.handoff.call.Refused connectionHandoff
      ((world.ctx.accept.settle world.ctx.pending.accept listenerShutDown).call
        world.accept.own) := by
  have nobody : world.sending = 0 :=
    count_of_allDone allDone (fun _ _ => rfl)
  have settles := listening.accept.settles
  simp only [acceptSlot, nobody, Nat.lt_irrefl, decide_false,
    Bool.or_false] at settles
  exact settles.refused rfl

private theorem refines_step
    (listening : world.Listening (stopCompleted actions))
    (allowed : oneCall actions world action)
    (run : (handoffMachine connectionHandoff).Run
      (Handoff.rules connectionHandoff) done world.handoff) :
    (handoffMachine connectionHandoff).Run (Handoff.rules connectionHandoff)
      (done ++ world.accepting action) (world.step action).handoff := by
  obtain ⟨enabled, delivered, oneAccept, _⟩ := allowed
  simp only [ListenerWorld.enabled, Bool.and_eq_true] at enabled
  cases action with
  | event event =>
      cases event with
      | newConnection connection =>
          -- none is announced after STOP_COMPLETE: the hand-off is open
          have still : stopCompleted actions = false :=
            (Bool.not_eq_true' _).mp delivered
          have isOpen : world.ctx.state ≠ .stopped := fun isStopped =>
            absurd (still.symm.trans (listening.state.mp isStopped)) (by simp)
          apply run.follows
          · exact ⟨decide_eq_false isOpen, by intro impossible; cases impossible⟩
          · rw [world.step_event _ listening.guarded]
            simp only [handoff, handoffMachine, Handoff.step,
              List.filterMap_append, AsioServerListenerCtx.after]
            rw [← Multiset.coe_add, add_comm, ← Multiset.singleton_add]
            rfl
      | stopComplete =>
          -- every callback has returned, so nothing waits in the hand-off
          have allDone := (Bool.and_eq_true_iff.mp delivered).2
          have nothing : Handoff.rules connectionHandoff done world.handoff
              .close :=
            nothing_offered (List.all_eq_true.mp allDone)
          have refuses := Handoff.follows_refused run nothing rfl
            (listening.refused_stopComplete (List.all_eq_true.mp allDone))
          simp only [accepting]
          rw [world.step_event _ listening.guarded]
          exact refuses
      | other => cases delivered
  | newConnection index statement =>
      obtain ⟨connection, running⟩ := world.running_of_enabled enabled.2
      exact listening.refines_newConnection running run
  | accept =>
      have idle := oneAccept rfl
      have asks : Handoff.rules connectionHandoff done world.handoff .ask := by
        change world.ctx.accept.call world.accept.own = .idle
        rw [idle]
        rfl
      rw [accepting, handoff_accept]
      by_cases isStopped : world.ctx.state = .stopped
      · rw [if_pos isStopped]
        exact Handoff.follows_refused run asks (decide_eq_true isStopped)
          (Or.inr ⟨rfl, listenerAborted, rfl, rfl⟩)
      · rw [if_neg isStopped, HandoffAction.refusal_self]
        exact run.follows asks rfl
  | acceptInitiate =>
      obtain ⟨op, initiated, sound, sameOwn⟩ :=
        listening.accept.initiate enabled.2
      apply run.stays
      simp only [step, initiated, handoff]
      rw [sameOwn]
      rfl
  | acceptHandler ec =>
      obtain ⟨id, message, own, held, handled, sound⟩ :=
        listening.accept.handler enabled.2
      -- the answer was sent before; the handler is only told it
      have answered : world.handoff.call = .answered message := by
        change world.accept.own = some id at own
        simp only [handoff, own]
        exact Port.call_of_held held
      have tells : Handoff.rules connectionHandoff done world.handoff
          (.tell message) := answered
      simp only [accepting, answered, HandoffCall.answer, List.map_singleton]
      apply run.follows tells
      simp only [step, handled, Option.getD_some, handoff, handoffMachine,
        Handoff.step, List.map_append, List.map_singleton]
      rfl
  | stop =>
      apply run.stays
      rw [step_stop]
      rfl
  | listenerStop | listenerStopReturns =>
      exact run.stays rfl
  | stopInitiate =>
      have ready := (Bool.and_eq_true_iff.mp enabled.2).1
      obtain ⟨op, initiated, sound, _⟩ := listening.stop.initiate ready
      apply run.stays
      simp only [step, initiated]
      rfl
  | stopHandler ec =>
      obtain ⟨_, message, _, _, handled, sound⟩ :=
        listening.stop.handler enabled.2
      apply run.stays
      simp only [step, handled]
      rfl

end Listening

private theorem accepting_requests (world : ListenerWorld O)
    (action : ListenerAction) :
    (world.accepting action).filterMap HandoffAction.request =
      action.request.toList := by
  cases action with
  | event event =>
      cases event with
      | newConnection connection => rfl
      | stopComplete => exact HandoffAction.request_refusal _ _
      | other => rfl
  | newConnection index statement =>
      cases statement with
      | send =>
          simp only [accepting]
          cases world.callbacks[index]? <;> rfl
      | unlock | acquire | assertAccept | clearAccept | setCallback
      | setConfig => rfl
  | accept =>
      exact congrArg (List.cons _) (HandoffAction.request_refusal _ _)
  | acceptHandler ec =>
      simp only [accepting]
      cases world.handoff.call <;> rfl
  | acceptInitiate | stop | listenerStop | listenerStopReturns | stopInitiate
  | stopHandler => rfl

variable {world : ListenerWorld O} {actions : List ListenerAction}

private theorem refines_handoff :
    (listenerMachine O).Refines oneCall (handoffMachine connectionHandoff)
      (Handoff.rules connectionHandoff) handoff accepting where
  start := rfl
  step := by
    intro actions world action before allowed done run
    exact (listening_of_run before).refines_step allowed run

def requests (actions : List ListenerAction) :
    List (HandoffAction Hquic MoveAcceptMessage) :=
  actions.filterMap ListenerAction.request

/-- Every run of the listener is a run of the hand-off on the same requests.  So
each connection announced waits in its callback or is in exactly one answer,
each `async_accept` has had its handler told or is in progress, and while the
listener is open every answer is a connection. -/
theorem connections_as_handoff
    (run : (listenerMachine O).Run oneCall actions world) :
    (handoffMachine connectionHandoff).Run (Handoff.rules connectionHandoff)
        ((listenerMachine O).image accepting actions) world.handoff ∧
      ((listenerMachine O).image accepting actions).filterMap
          HandoffAction.request = requests actions ∧
      world.handoff.Accounted connectionHandoff (requests actions) := by
  have image := refines_handoff.run run
  have same := (listenerMachine O).image_filterMap HandoffAction.request
    ListenerAction.request accepting_requests actions
  refine ⟨image, same, ?_⟩
  rw [requests, ← same]
  exact (Handoff.accounted_of_run image).requested

theorem connections_as_handoff_acceptTwoThenStop :
    ((listenerMachine .reference).exec acceptTwoThenStop).handoff.Accounted
      connectionHandoff (requests acceptTwoThenStop) :=
  (connections_as_handoff (O := .reference)
    (Machine.run_of_checks acceptTwoThenStop (by decide))).2.2

end ListenerWorld

end MsquicAsio
