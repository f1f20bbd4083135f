/-
Every operation of a stream completes exactly once.

`async_start` and `async_send` rely on msquic: the event they raised the flag
for comes once, and before SHUTDOWN_COMPLETE.  `async_receive` and
`async_shutdown` rely on the lock and on SHUTDOWN_COMPLETE, which answers
whoever still waits.
-/
import MsquicAsio.Stream.History

set_option autoImplicit false

namespace MsquicAsio

variable {O : Oneshot}

namespace StreamWorld

/-- What msquic promises about a stream.  START_COMPLETE and SEND_COMPLETE come
once for each accepted call, SHUTDOWN_COMPLETE comes last and after them, and
no call is accepted from then on. -/
def promised (actions : List StreamAction) (world : StreamWorld O)
    (action : StreamAction) : Bool :=
  let torn := actions.contains (.event .shutdownComplete)
  match action with
  | .event (.startComplete _) => !torn && world.startOwed
  | .event (.sendComplete _) => !torn && world.sendOwed
  | .event .shutdownComplete => !torn && !world.startOwed && !world.sendOwed
  | .event _ => !torn
  | .start step => !torn || !step.accepted
  | .send step => !torn || !step.accepted
  | _ => true

def contract : Environment (StreamWorld O) StreamAction :=
  fun actions world action =>
    world.enabled action = true ∧ promised actions world action = true

instance (actions : List StreamAction) (world : StreamWorld O)
    (action : StreamAction) : Decidable (contract actions world action) :=
  inferInstanceAs (Decidable (_ ∧ _))

/-! ### What a step does to each operation -/

private theorem startSlot_deliver (world : StreamWorld O) (event : StreamEvent)
    (guarded : world.ctx.Guarded)
    (other : ∀ status, event ≠ .startComplete status) :
    (world.deliver event).startSlot = world.startSlot ∧
      (world.deliver event).startOwed = world.startOwed := by
  simp only [deliver, world.ctx.finalState_callback event guarded]
  cases event with
  | startComplete status =>
      exact absurd rfl (other status)
  | sendComplete | receive | peerSendShutdown | peerSendAborted
  | shutdownComplete | other =>
      exact ⟨rfl, Bool.and_true _⟩

private theorem sendSlot_deliver (world : StreamWorld O) (event : StreamEvent)
    (guarded : world.ctx.Guarded)
    (other : ∀ canceled, event ≠ .sendComplete canceled) :
    (world.deliver event).sendSlot = world.sendSlot ∧
      (world.deliver event).sendOwed = world.sendOwed := by
  simp only [deliver, world.ctx.finalState_callback event guarded]
  cases event with
  | sendComplete canceled =>
      exact absurd rfl (other canceled)
  | startComplete | receive | peerSendShutdown | peerSendAborted
  | shutdownComplete | other =>
      exact ⟨rfl, Bool.and_true _⟩

theorem slots_frontEnd (world : StreamWorld O) (action : StreamAction)
    (notEvent : ∀ event, action ≠ .event event) :
    ((∀ step, action ≠ .start step) →
        (world.step action).startSlot = world.startSlot ∧
          (world.step action).startOwed = world.startOwed) ∧
      ((∀ step, action ≠ .send step) →
        (world.step action).sendSlot = world.sendSlot ∧
          (world.step action).sendOwed = world.sendOwed) := by
  cases action with
  | event event =>
      exact absurd rfl (notEvent event)
  | start step =>
      constructor
      · intro impossible
        exact absurd rfl (impossible step)
      · intro _
        simp only [StreamWorld.step, asyncStart]
        split <;> exact ⟨rfl, rfl⟩
  | send step =>
      constructor
      · intro _
        simp only [StreamWorld.step, asyncSend]
        split <;> exact ⟨rfl, rfl⟩
      · intro impossible
        exact absurd rfl (impossible step)
  | receive lpBuffer bufferLen =>
      simp only [StreamWorld.step, world.ctx.asyncReceive_eq, Exec.finalState,
        AsioServerStreamCtx.afterFirstReader, startSlot, sendSlot]
      split
      · exact ⟨fun _ => ⟨rfl, trivial⟩, fun _ => ⟨rfl, trivial⟩⟩
      · split <;> exact ⟨fun _ => ⟨rfl, trivial⟩, fun _ => ⟨rfl, trivial⟩⟩
  | shutdown status =>
      simp only [StreamWorld.step, world.ctx.asyncShutdown_eq, Exec.finalState,
        startSlot, sendSlot]
      split
      · exact ⟨fun _ => ⟨rfl, trivial⟩, fun _ => ⟨rfl, trivial⟩⟩
      · split <;> exact ⟨fun _ => ⟨rfl, trivial⟩, fun _ => ⟨rfl, trivial⟩⟩
  | receiveInitiate | receiveHandler | shutdownInitiate | shutdownHandler =>
      simp only [StreamWorld.step]
      split <;> exact ⟨fun _ => ⟨rfl, rfl⟩, fun _ => ⟨rfl, rfl⟩⟩
  | receiveInvoke =>
      exact ⟨fun _ => ⟨rfl, rfl⟩, fun _ => ⟨rfl, rfl⟩⟩

private theorem slots_step (world : StreamWorld O) (action : StreamAction)
    (locked : world.Locked) :
    ((∀ status, action ≠ .event (.startComplete status)) →
      (∀ step, action ≠ .start step) →
        (world.step action).startSlot = world.startSlot ∧
          (world.step action).startOwed = world.startOwed) ∧
      ((∀ canceled, action ≠ .event (.sendComplete canceled)) →
        (∀ step, action ≠ .send step) →
          (world.step action).sendSlot = world.sendSlot ∧
            (world.step action).sendOwed = world.sendOwed) := by
  by_cases isEvent : ∃ event, action = .event event
  · obtain ⟨event, rfl⟩ := isEvent
    constructor
    · intro other _
      exact world.startSlot_deliver event locked.guarded
        (fun status same => other status (congrArg StreamAction.event same))
    · intro other _
      exact world.sendSlot_deliver event locked.guarded
        (fun canceled same => other canceled (congrArg StreamAction.event same))
  · have frontEnd := world.slots_frontEnd action
      (fun event same => isEvent ⟨event, same⟩)
    exact ⟨fun _ => frontEnd.1, fun _ => frontEnd.2⟩

end StreamWorld

/-! ### All but the operation in progress are answered -/

namespace ReceivePart

def Answered (part : ReceivePart O) : Prop :=
  part.port.channels.AnsweredBut (part.port.armedChannel part.frontend)

private theorem Answered.next {part : ReceivePart O} (answered : part.Answered)
    (sound : part.Sound) {action : StreamAction}
    (enabled : part.enabled action = true) : (part.next action).Answered := by
  rcases part.next_cases action with
    ⟨event, rfl⟩ | ⟨lpBuffer, bufferLen, rfl⟩ | ⟨_, _, _, _, _, _, same⟩
  · cases event with
    | receive buffers =>
        apply Port.answered_afterSend
        simp only [target]
        cases raised : part.frontend with
        | true =>
            simp only [Answered, raised, Port.armedChannel, if_true] at answered ⊢
            exact answered
        | false =>
            simp only [Answered, raised, Port.armedChannel, if_false,
              Bool.false_eq_true] at answered ⊢
            exact answered.create
    | peerSendShutdown | peerSendAborted | shutdownComplete =>
        exact Port.answered_settle answered _
    | startComplete | sendComplete | other => exact answered
  · have idle : part.op = .idle := by
      cases at_ : part.op <;>
        simp only [ReceivePart.enabled, at_, Bool.false_eq_true] at enabled ⊢
    have lowered : part.frontend = false := by
      have settles := sound.settles
      rw [idle] at settles
      exact settles.lowered_of_none
    have all : part.port.channels.AnsweredBut none := by
      simpa only [Answered, lowered, Port.armedChannel, Bool.false_eq_true,
        if_false] using answered
    simp only [Answered, ReceivePart.next, called]
    split
    · simpa only [lowered, Port.armedChannel, Bool.false_eq_true, if_false]
        using all
    · split
      · exact all.create
      · simp only [lowered, Port.armedChannel, Bool.false_eq_true, if_false]
        exact Port.answered_afterSend all.create _
  · simp only [Answered, same]
    exact answered

end ReceivePart

namespace StreamWorld

/-- After SHUTDOWN_COMPLETE nothing is owed and no flag is raised any more. -/
def Torn (world : StreamWorld O) : Prop :=
  world.startOwed = false ∧ world.sendOwed = false ∧
    world.ctx.state = .shutdownComplete ∧
    world.ctx.pending.receiveFrontend = false ∧
    world.ctx.pending.shutdown = false

structure Contracted (actions : List StreamAction) (world : StreamWorld O) :
    Prop where
  locked : world.Locked
  started : world.startSlot.Sound world.startOwed
  sent : world.sendSlot.Sound world.sendOwed
  startAnswered : world.startSlot.Answered
  sendAnswered : world.sendSlot.Answered
  receiveAnswered : world.receivePart.Answered
  unthrown : world.threw = false
  torn : .event .shutdownComplete ∈ actions → world.Torn

namespace Contracted

variable {actions : List StreamAction} {world : StreamWorld O}

private theorem start_step (contracted : world.Contracted actions)
    {action : StreamAction} (allowed : contract actions world action) :
    (world.step action).startSlot.Sound (world.step action).startOwed ∧
      (world.step action).startSlot.Answered := by
  obtain ⟨enabled, promise⟩ := allowed
  have others := (world.slots_step action contracted.locked).1
  by_cases isEvent : ∃ status, action = .event (.startComplete status)
  · obtain ⟨status, rfl⟩ := isEvent
    have owed : world.startOwed = true := by
      simp only [promised, Bool.and_eq_true] at promise
      exact promise.2
    have sound := contracted.started
    rw [owed] at sound
    simp only [StreamWorld.step, deliver, world.ctx.finalState_callback _
      contracted.locked.guarded, Bool.not_true, Bool.and_false]
    exact ⟨(sound.settle (.ofStatus status)).2,
      Port.answeredBut_afterSend contracted.startAnswered _⟩
  · by_cases isCall : ∃ step, action = .start step
    · obtain ⟨step, rfl⟩ := isCall
      have slotEnabled : world.startSlot.enabled step = true := by
        simp only [StreamWorld.enabled, Bool.and_eq_true] at enabled
        exact enabled.2
      obtain ⟨after, stepped, sound⟩ := contracted.started.step slotEnabled
      have answered :=
        contracted.startAnswered.step contracted.started slotEnabled stepped
      simp only [StreamWorld.step, asyncStart, stepped]
      exact ⟨sound, answered⟩
    · obtain ⟨same, owed⟩ := others
        (fun status equal => isEvent ⟨status, equal⟩)
        (fun step equal => isCall ⟨step, equal⟩)
      rw [same, owed]
      exact ⟨contracted.started, contracted.startAnswered⟩

private theorem send_step (contracted : world.Contracted actions)
    {action : StreamAction} (allowed : contract actions world action) :
    (world.step action).sendSlot.Sound (world.step action).sendOwed ∧
      (world.step action).sendSlot.Answered := by
  obtain ⟨enabled, promise⟩ := allowed
  have others := (world.slots_step action contracted.locked).2
  by_cases isEvent : ∃ canceled, action = .event (.sendComplete canceled)
  · obtain ⟨canceled, rfl⟩ := isEvent
    have owed : world.sendOwed = true := by
      simp only [promised, Bool.and_eq_true] at promise
      exact promise.2
    have sound := contracted.sent
    rw [owed] at sound
    simp only [StreamWorld.step, deliver, world.ctx.finalState_callback _
      contracted.locked.guarded, Bool.not_true, Bool.and_false]
    exact ⟨(sound.settle .success).2,
      Port.answeredBut_afterSend contracted.sendAnswered _⟩
  · by_cases isCall : ∃ step, action = .send step
    · obtain ⟨step, rfl⟩ := isCall
      have slotEnabled : world.sendSlot.enabled step = true := by
        simp only [StreamWorld.enabled, Bool.and_eq_true] at enabled
        exact enabled.2
      obtain ⟨after, stepped, sound⟩ := contracted.sent.step slotEnabled
      have answered :=
        contracted.sendAnswered.step contracted.sent slotEnabled stepped
      simp only [StreamWorld.step, asyncSend, stepped]
      exact ⟨sound, answered⟩
    · obtain ⟨same, owed⟩ := others
        (fun canceled equal => isEvent ⟨canceled, equal⟩)
        (fun step equal => isCall ⟨step, equal⟩)
      rw [same, owed]
      exact ⟨contracted.sent, contracted.sendAnswered⟩

private theorem unthrown_step (contracted : world.Contracted actions)
    {action : StreamAction} (allowed : contract actions world action) :
    (world.step action).threw = false := by
  have locked := contracted.locked
  have unthrown := contracted.unthrown
  obtain ⟨enabled, promise⟩ := allowed
  have inOrder := enabled
  simp only [StreamWorld.enabled, Bool.and_eq_true] at inOrder
  cases action with
  | event event =>
      simp only [StreamWorld.step, deliver, unthrown, Bool.false_or]
      apply world.ctx.thrown_callback event locked.guarded
      · rintro status rfl
        simp only [promised, Bool.and_eq_true] at promise
        have sound := contracted.started
        rw [promise.2] at sound
        exact (sound.settle .success).1
      · rintro canceled rfl
        simp only [promised, Bool.and_eq_true] at promise
        have sound := contracted.sent
        rw [promise.2] at sound
        exact (sound.settle .success).1
  | start step =>
      obtain ⟨after, stepped, _⟩ := contracted.started.step inOrder.2
      simp only [StreamWorld.step, asyncStart, stepped, unthrown]
  | send step =>
      obtain ⟨after, stepped, _⟩ := contracted.sent.step inOrder.2
      simp only [StreamWorld.step, asyncSend, stepped, unthrown]
  | receive lpBuffer bufferLen =>
      simp only [StreamWorld.step, world.ctx.asyncReceive_eq, unthrown,
        Exec.thrown, Bool.or_false]
  | receiveInitiate =>
      cases at_ : world.receive with
      | ready own lpBuffer bufferLen =>
          obtain ⟨wait, _, initiated, _⟩ := ReceivePart.Sound.initiate
            locked.receive at_
          simp only [StreamWorld.step, initiated, withReceive, unthrown]
      | idle | waiting | completing =>
          rw [at_] at inOrder
          exact absurd inOrder.2 (by simp)
  | receiveHandler ec =>
      obtain ⟨_, _, _, _, _, _, _, _, _, handled, _⟩ :=
        locked.receive.handler inOrder.2
      simp only [StreamWorld.step, handled, withReceive, unthrown]
  | receiveInvoke =>
      exact unthrown
  | shutdown status =>
      simp only [StreamWorld.step, world.ctx.asyncShutdown_eq, unthrown,
        Exec.thrown, Bool.or_false]
  | shutdownInitiate =>
      obtain ⟨_, initiated, _⟩ := locked.shutdown.initiate inOrder.2
      simp only [StreamWorld.step, initiated, unthrown]
  | shutdownHandler ec =>
      obtain ⟨_, _, _, _, handled, _⟩ := locked.shutdown.handler inOrder.2
      simp only [StreamWorld.step, handled, unthrown]

private theorem torn_event (contracted : world.Contracted actions)
    {event : StreamEvent} (allowed : contract actions world (.event event))
    (tears : event = .shutdownComplete) : Torn (world.deliver event) := by
  subst tears
  have promise := allowed.2
  simp only [promised, Bool.and_eq_true, Bool.not_eq_true'] at promise
  obtain ⟨⟨_, startOwed⟩, sendOwed⟩ := promise
  simp only [Torn, deliver, world.ctx.finalState_callback _
    contracted.locked.guarded, startOwed, sendOwed, Bool.false_and, true_and]
  exact ⟨rfl, rfl, rfl⟩

private theorem untorn_of_event {event : StreamEvent}
    (allowed : contract actions world (.event event)) :
    .event .shutdownComplete ∉ actions := by
  intro member
  have promise := allowed.2
  have contained := List.contains_iff_mem.mpr member
  cases event <;>
    simp only [promised, contained, Bool.not_true, Bool.false_and,
      Bool.false_eq_true] at promise

private theorem torn_frontEnd {action : StreamAction} (torn : Torn world)
    (refused : ∀ step, action = .start step ∨ action = .send step →
      step.accepted = false)
    (frontEnd : ∀ event, action ≠ .event event) : Torn (world.step action) := by
  obtain ⟨startOwed, sendOwed, state, lowered, unshut⟩ := torn
  have notOpen : world.ctx.state ≠ .ok := by
    rw [state]
    intro impossible
    cases impossible
  cases action with
  | event event =>
      exact absurd rfl (frontEnd event)
  | start step =>
      have no := refused step (Or.inl rfl)
      simp only [StreamWorld.step, asyncStart]
      split
      · exact ⟨startOwed, sendOwed, state, lowered, unshut⟩
      · exact ⟨by simp only [startOwed, no, Bool.or_false], sendOwed, state,
          lowered, unshut⟩
  | send step =>
      have no := refused step (Or.inr rfl)
      simp only [StreamWorld.step, asyncSend]
      split
      · exact ⟨startOwed, sendOwed, state, lowered, unshut⟩
      · exact ⟨startOwed, by simp only [sendOwed, no, Bool.or_false], state,
          lowered, unshut⟩
  | receive lpBuffer bufferLen =>
      simp only [Torn, StreamWorld.step, world.ctx.asyncReceive_eq,
        Exec.finalState, AsioServerStreamCtx.afterFirstReader, notOpen,
        if_false]
      split <;> exact ⟨startOwed, sendOwed, state, lowered, unshut⟩
  | shutdown status =>
      simp only [Torn, StreamWorld.step, world.ctx.asyncShutdown_eq,
        Exec.finalState, state, if_true]
      exact ⟨startOwed, sendOwed, trivial, lowered, unshut⟩
  | receiveInitiate | receiveHandler | shutdownInitiate | shutdownHandler =>
      simp only [StreamWorld.step]
      split <;> exact ⟨startOwed, sendOwed, state, lowered, unshut⟩
  | receiveInvoke =>
      exact ⟨startOwed, sendOwed, state, lowered, unshut⟩

private theorem torn_step (contracted : world.Contracted actions)
    {action : StreamAction} (allowed : contract actions world action)
    (member : .event .shutdownComplete ∈ actions ++ [action]) :
    Torn (world.step action) := by
  by_cases isEvent : ∃ event, action = .event event
  · obtain ⟨event, rfl⟩ := isEvent
    rcases List.mem_append.mp member with earlier | now
    · exact absurd earlier (untorn_of_event allowed)
    · have same := List.mem_singleton.mp now
      exact contracted.torn_event allowed
        (StreamAction.event.inj same).symm
  · have frontEnd : ∀ event, action ≠ .event event :=
      fun event same => isEvent ⟨event, same⟩
    rcases List.mem_append.mp member with earlier | now
    · apply torn_frontEnd (contracted.torn earlier) _ frontEnd
      have contained := List.contains_iff_mem.mpr earlier
      have promise := allowed.2
      rintro step (rfl | rfl) <;>
        simpa only [promised, contained, Bool.not_true, Bool.false_or,
          Bool.not_eq_true'] using promise
    · exact absurd (List.mem_singleton.mp now).symm (frontEnd _)

theorem step (contracted : world.Contracted actions) {action : StreamAction}
    (allowed : contract actions world action) :
    (world.step action).Contracted (actions ++ [action]) where
  locked := contracted.locked.step allowed.1
  started := (contracted.start_step allowed).1
  sent := (contracted.send_step allowed).1
  startAnswered := (contracted.start_step allowed).2
  sendAnswered := (contracted.send_step allowed).2
  receiveAnswered := by
    rw [world.receivePart_step action contracted.locked.guarded]
    exact contracted.receiveAnswered.next contracted.locked.receive
      (Locked.part_enabled allowed.1)
  unthrown := contracted.unthrown_step allowed
  torn := contracted.torn_step allowed

end Contracted

private theorem contracted_initial :
    (initial : StreamWorld O).Contracted [] where
  locked := locked_initial
  started := ⟨rfl, rfl⟩
  sent := ⟨rfl, rfl⟩
  startAnswered := .empty _
  sendAnswered := .empty _
  receiveAnswered := .empty _
  unthrown := rfl
  torn := by intro impossible; cases impossible

theorem contracted_of_run {actions : List StreamAction}
    {world : StreamWorld O}
    (run : (streamMachine O).Run contract actions world) :
    world.Contracted actions := by
  apply run.invariant (fun actions world => world.Contracted actions)
    contracted_initial
  intro actions world action _ contracted allowed
  exact contracted.step allowed

/-- No sender throws, no channel gets a second outcome, and after
SHUTDOWN_COMPLETE every channel of a call that has returned has its outcome. -/
theorem complete_exactly_once {actions : List StreamAction}
    {world : StreamWorld O}
    (run : (streamMachine O).Run contract actions world) :
    world.threw = false ∧
      (∀ id, (world.ctx.startComplete.channels.outcomes id).length ≤ 1 ∧
        (world.ctx.send.channels.outcomes id).length ≤ 1 ∧
        (world.ctx.receive.channels.outcomes id).length ≤ 1 ∧
        (world.ctx.shutdown.channels.outcomes id).length ≤ 1) ∧
      (.event .shutdownComplete ∈ actions →
        (∀ id, id < world.ctx.startComplete.channels.next →
          world.start.calling ≠ some id →
            ∃ ec, world.ctx.startComplete.channels.outcomes id = [ec]) ∧
        (∀ id, id < world.ctx.send.channels.next →
          world.send.calling ≠ some id →
            ∃ ec, world.ctx.send.channels.outcomes id = [ec]) ∧
        (∀ id, id < world.ctx.receive.channels.next →
          ∃ message, world.ctx.receive.channels.outcomes id = [message]) ∧
        (∀ id, id < world.ctx.shutdown.channels.next →
          ∃ ec, world.ctx.shutdown.channels.outcomes id = [ec])) := by
  have contracted := contracted_of_run run
  refine ⟨contracted.unthrown, fun id => ⟨?_, ?_, ?_, ?_⟩, fun torn => ?_⟩
  · exact Channels.outcomes_length_le _ id
  · exact Channels.outcomes_length_le _ id
  · exact Channels.outcomes_length_le _ id
  · exact Channels.outcomes_length_le _ id
  · obtain ⟨startOwed, sendOwed, _, lowered, unshut⟩ := contracted.torn torn
    have started := contracted.started
    have sent := contracted.sent
    rw [startOwed] at started
    rw [sendOwed] at sent
    have receives : world.ctx.receive.channels.AnsweredBut none := by
      have answered := contracted.receiveAnswered
      simp only [ReceivePart.Answered, receivePart, lowered, Port.armedChannel,
        Bool.false_eq_true, if_false] at answered
      exact answered
    have shutdowns : world.ctx.shutdown.channels.AnsweredBut none :=
      contracted.locked.shutdown.all_answered unshut
    refine ⟨fun id inside other => ?_, fun id inside other => ?_,
      fun id inside => ?_, fun id inside => ?_⟩
    · exact (contracted.startAnswered.returned started).outcome inside other
    · exact (contracted.sendAnswered.returned sent).outcome inside other
    · exact receives.outcome inside (by simp)
    · exact shutdowns.outcome inside (by simp)

/-- A stream that is started, sends, receives and is shut down. -/
def wholeLife : List StreamAction :=
  [.start (.create []), .start .assignTx, .start .assignRx, .start .raise,
    .start (.call .success), .event (.startComplete .success),
    .start .initiate, .start (.invoke .success),
    .send (.create [5]), .send .assignTx, .send .assignRx, .send .raise,
    .send (.call .failure), .receive [0, 0] 2, .send .lower,
    .event (.receive [[1, 2]]), .send .sendFailure, .send .initiate,
    .shutdown .success, .shutdownInitiate, .event .shutdownComplete,
    .receiveInitiate, .receiveHandler .success, .receiveInvoke,
    .receive [0] 1]

theorem complete_exactly_once_wholeLife :
    ((streamMachine .reference).exec wholeLife).threw = false ∧
      ∃ message, ((streamMachine .reference).exec
        wholeLife).ctx.receive.channels.outcomes 1 = [message] := by
  obtain ⟨unthrown, _, completed⟩ :=
    complete_exactly_once (O := .reference)
      (Machine.run_of_checks wholeLife (by decide))
  exact ⟨unthrown, (completed (by decide)).2.2.1 1 (by decide)⟩

end StreamWorld

end MsquicAsio
