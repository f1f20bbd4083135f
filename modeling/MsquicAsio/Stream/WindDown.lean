/-
A stream that msquic tears down comes to rest.

What was called is finished by its own statements, by the completions that
msquic owes and, for whoever waits for data or for the shutdown, by
SHUTDOWN_COMPLETE.  No order of these steps goes on for ever, and none stops
before the handler of every call was invoked.
-/
import MsquicAsio.Lib.Progress
import MsquicAsio.Remaining
import MsquicAsio.Stream.Completion

set_option autoImplicit false

namespace MsquicAsio

variable {O : Oneshot}

/-- The action asks for nothing new: it is a statement of a call in progress,
or an event that completes one. -/
def StreamAction.winds : StreamAction → Bool
  | .event (.startComplete _) => true
  | .event (.sendComplete _) => true
  | .event .shutdownComplete => true
  | .event _ => false
  | .start step => step.continues
  | .send step => step.continues
  | .receive _ _ => false
  | .shutdown _ => false
  | _ => true

def ReceiveOp.remaining : ReceiveOp → Nat
  | .idle => 0
  | .ready _ _ _ => 3
  | .waiting _ _ _ _ => 2
  | .completing _ _ _ _ _ => 1

namespace StreamWorld

/-- The stream is down, no event is owed, and the handler of every call was
invoked. -/
structure AtRest (world : StreamWorld O) : Prop where
  down : world.ctx.state = .shutdownComplete
  startOwed : world.startOwed = false
  sendOwed : world.sendOwed = false
  start : world.start = .idle
  send : world.send = .idle
  receive : world.receive = .idle
  shutdown : world.shutdown = .idle

def stillUp (actions : List StreamAction) : Nat :=
  (!actions.contains (.event .shutdownComplete)).toNat

private theorem stillUp_other {action : StreamAction}
    (different : action ≠ .event .shutdownComplete)
    (actions : List StreamAction) :
    stillUp (actions ++ [action]) = stillUp actions := by
  simp only [stillUp, List.contains_eq_mem, List.mem_append,
    List.mem_singleton, different.symm, or_false]

private theorem stillUp_shutdownComplete (actions : List StreamAction) :
    stillUp (actions ++ [.event .shutdownComplete]) = 0 := by
  simp only [stillUp, List.contains_eq_mem, List.mem_append,
    List.mem_singleton, or_true, decide_true, Bool.not_true, Bool.toNat_false]

def remaining (actions : List StreamAction) (world : StreamWorld O) : Nat :=
  world.start.remaining + world.startOwed.toNat +
    (world.send.remaining + world.sendOwed.toNat) + world.receive.remaining +
    world.shutdown.remaining + stillUp actions

namespace Contracted

variable {actions : List StreamAction} {world : StreamWorld O}

private theorem remaining_event
    {event : StreamEvent} (winds : (StreamAction.event event).winds = true)
    (allowed : contract actions world (.event event)) :
    (world.deliver event).remaining (actions ++ [.event event]) <
      world.remaining actions := by
  have promise := allowed.2
  cases event with
  | receive | peerSendShutdown | peerSendAborted | other => cases winds
  | startComplete status =>
      simp only [promised, Bool.and_eq_true] at promise
      simp only [remaining, deliver, promise.2, stillUp_other, ne_eq,
        StreamAction.event.injEq, reduceCtorEq, not_false_eq_true,
        Bool.not_true, Bool.and_false, Bool.not_false, Bool.and_true,
        Bool.toNat_false, Bool.toNat_true]
      omega
  | sendComplete canceled =>
      simp only [promised, Bool.and_eq_true] at promise
      simp only [remaining, deliver, promise.2, stillUp_other, ne_eq,
        StreamAction.event.injEq, reduceCtorEq, not_false_eq_true,
        Bool.not_true, Bool.and_false, Bool.not_false, Bool.and_true,
        Bool.toNat_false, Bool.toNat_true]
      omega
  | shutdownComplete =>
      simp only [promised, Bool.and_eq_true] at promise
      have up : stillUp actions = 1 := by
        rw [stillUp, promise.1.1]
        rfl
      simp only [remaining, deliver, up, stillUp_shutdownComplete,
        Bool.not_false, Bool.and_true]
      omega

/-- Each statement and each completion brings the stream nearer to rest. -/
theorem remaining_step (contracted : world.Contracted actions)
    {action : StreamAction} (winds : action.winds = true)
    (allowed : contract actions world action) :
    (world.step action).remaining (actions ++ [action]) <
      world.remaining actions := by
  have locked := contracted.locked
  have inOrder := allowed.1
  simp only [StreamWorld.enabled, Bool.and_eq_true] at inOrder
  cases action with
  | event event => exact remaining_event winds allowed
  | receive | shutdown => cases winds
  | start step =>
      obtain ⟨after, stepped, _⟩ := contracted.started.step inOrder.2
      have lower := UnlockedSlot.remaining_step world.startOwed inOrder.2
        stepped winds
      change after.op.remaining + _ < world.start.remaining + _ at lower
      simp only [remaining, StreamWorld.step, asyncStart, stepped]
      rw [stillUp_other (by simp)]
      omega
  | send step =>
      obtain ⟨after, stepped, _⟩ := contracted.sent.step inOrder.2
      have lower := UnlockedSlot.remaining_step world.sendOwed inOrder.2
        stepped winds
      change after.op.remaining + _ < world.send.remaining + _ at lower
      simp only [remaining, StreamWorld.step, asyncSend, stepped]
      rw [stillUp_other (by simp)]
      omega
  | receiveInitiate =>
      cases at_ : world.receive with
      | ready own lpBuffer bufferLen =>
          obtain ⟨wait, _, initiated, _⟩ := ReceivePart.Sound.initiate
            locked.receive at_
          simp only [remaining, StreamWorld.step, initiated, withReceive, at_,
            ReceiveOp.remaining]
          rw [stillUp_other (by simp)]
          omega
      | idle | waiting | completing =>
          rw [at_] at inOrder
          exact absurd inOrder.2 (by simp)
  | receiveHandler ec =>
      obtain ⟨own, wait, lpBuffer, bufferLen, id, message, at_, _, _, handled,
        _⟩ := locked.receive.handler inOrder.2
      have waiting : world.receive = .waiting own wait lpBuffer bufferLen := at_
      simp only [remaining, StreamWorld.step, handled, withReceive, waiting,
        ReceivePart.Sound.reading, ReceiveOp.remaining]
      rw [stillUp_other (by simp)]
      omega
  | receiveInvoke =>
      cases at_ : world.receive with
      | completing channel ec bytes lpBuffer bufferLen =>
          simp only [remaining, StreamWorld.step, withReceive,
            ReceivePart.invoke, receivePart, at_, ReceiveOp.remaining]
          rw [stillUp_other (by simp)]
          omega
      | idle | ready | waiting =>
          rw [at_] at inOrder
          exact absurd inOrder.2 (by simp)
  | shutdownInitiate =>
      obtain ⟨op, initiated, _⟩ := locked.shutdown.initiate inOrder.2
      have lower := LockedSlot.remaining_initiate inOrder.2 initiated
      change op.remaining < world.shutdown.remaining at lower
      simp only [remaining, StreamWorld.step, initiated]
      rw [stillUp_other (by simp)]
      omega
  | shutdownHandler ec =>
      obtain ⟨id, message, _, _, handled, _⟩ :=
        locked.shutdown.handler inOrder.2
      have lower := LockedSlot.remaining_handler inOrder.2
      change _ < world.shutdown.remaining at lower
      simp only [remaining, StreamWorld.step, handled]
      rw [stillUp_other (by simp)]
      omega

private theorem torn_of_quiet (contracted : world.Contracted actions)
    (quiet : Machine.Quiet contract StreamAction.winds actions world) :
    .event .shutdownComplete ∈ actions := by
  have unthrown := contracted.unthrown
  by_contra up
  have contained : actions.contains (.event .shutdownComplete) = false := by
    simpa only [List.contains_eq_mem, decide_eq_false_iff_not] using up
  -- an event that is owed could still be delivered
  have startOwed : world.startOwed = false := by
    cases owed : world.startOwed with
    | false => rfl
    | true =>
        refine absurd ⟨?_, ?_⟩ (quiet (.event (.startComplete .success)) rfl)
        · simp only [StreamWorld.enabled, unthrown, Bool.not_false,
            Bool.and_true]
        · simp only [promised, contained, owed, Bool.not_false, Bool.and_true]
  have sendOwed : world.sendOwed = false := by
    cases owed : world.sendOwed with
    | false => rfl
    | true =>
        refine absurd ⟨?_, ?_⟩ (quiet (.event (.sendComplete false)) rfl)
        · simp only [StreamWorld.enabled, unthrown, Bool.not_false,
            Bool.and_true]
        · simp only [promised, contained, owed, Bool.not_false, Bool.and_true]
  -- with nothing owed SHUTDOWN_COMPLETE could be
  refine absurd ⟨?_, ?_⟩ (quiet (.event .shutdownComplete) rfl)
  · simp only [StreamWorld.enabled, unthrown, Bool.not_false, Bool.and_true]
  · simp only [promised, contained, startOwed, sendOwed, Bool.not_false,
      Bool.and_true]

theorem atRest_of_quiet (contracted : world.Contracted actions)
    (quiet : Machine.Quiet contract StreamAction.winds actions world) :
    world.AtRest := by
  have unthrown := contracted.unthrown
  obtain ⟨startOwed, sendOwed, down, lowered, unshut⟩ :=
    contracted.torn (contracted.torn_of_quiet quiet)
  have started := contracted.started
  have sent := contracted.sent
  rw [startOwed] at started
  rw [sendOwed] at sent
  -- every flag is down, so whatever is in progress could go on
  refine
    { down := down
      startOwed := startOwed
      sendOwed := sendOwed
      start := ?_
      send := ?_
      receive := ?_
      shutdown := ?_ }
  · by_contra busy
    obtain ⟨step, continues, refused, enabled⟩ := started.goesOn busy
    refine quiet (.start step) continues ⟨?_, ?_⟩
    · simp only [StreamWorld.enabled, unthrown, enabled, Bool.not_false,
        Bool.and_true]
    · simp only [promised, refused, Bool.not_false, Bool.or_true]
  · by_contra busy
    obtain ⟨step, continues, refused, enabled⟩ := sent.goesOn busy
    refine quiet (.send step) continues ⟨?_, ?_⟩
    · simp only [StreamWorld.enabled, unthrown, enabled, Bool.not_false,
        Bool.and_true]
    · simp only [promised, refused, Bool.not_false, Bool.or_true]
  · cases at_ : world.receive with
    | idle => rfl
    | ready own lpBuffer bufferLen =>
        refine absurd ⟨?_, rfl⟩ (quiet .receiveInitiate rfl)
        simp only [StreamWorld.enabled, unthrown, at_, Bool.not_false,
          Bool.and_true]
    | completing channel ec bytes lpBuffer bufferLen =>
        refine absurd ⟨?_, rfl⟩ (quiet .receiveInvoke rfl)
        simp only [StreamWorld.enabled, unthrown, at_, Bool.not_false,
          Bool.and_true]
    | waiting own wait lpBuffer bufferLen =>
        obtain ⟨_, _, answered⟩ :=
          contracted.locked.receive.waits own wait lpBuffer bufferLen at_
        obtain ⟨message, held⟩ := answered lowered
        refine absurd ⟨?_, rfl⟩ (quiet (.receiveHandler .success) rfl)
        have completes : world.receivePart.completes .success = true := by
          simp only [ReceivePart.completes, receivePart, at_]
          have heldThere : world.ctx.receive.value? wait = some message := held
          simp only [waitCompletes, heldThere, decide_true]
        simp only [StreamWorld.enabled, unthrown, completes, Bool.not_false,
          Bool.and_true]
  · by_contra busy
    rcases contracted.locked.shutdown.goesOn unshut busy with ready | ends
    · refine quiet .shutdownInitiate rfl ⟨?_, rfl⟩
      simp only [StreamWorld.enabled, unthrown, Bool.not_false, Bool.true_and]
      exact ready
    · refine quiet (.shutdownHandler .success) rfl ⟨?_, rfl⟩
      simp only [StreamWorld.enabled, unthrown, ends, Bool.not_false,
        Bool.and_true]

end Contracted

/-- From every point of a run, whatever is in progress: in every order of the
outstanding statements and events the stream comes to rest. -/
theorem winds_down {actions : List StreamAction} {world : StreamWorld O}
    (run : (streamMachine O).Run contract actions world) :
    (streamMachine O).Inevitable contract StreamAction.winds AtRest actions :=
  run.inevitable (fun actions world => world.Contracted actions) remaining
    (contracted_of_run run)
    (fun _ _ _ _ contracted winds allowed =>
      ⟨contracted.step allowed, contracted.remaining_step winds allowed⟩)
    (fun _ _ _ contracted quiet => contracted.atRest_of_quiet quiet)

/-- A start between its statements, an accepted send, a reader that waits for
data and a shutdown that waits for the end. -/
def midway : List StreamAction :=
  [.start (.create []), .start .assignTx, .send (.create [5]),
    .send .assignTx, .send .assignRx, .send .raise, .send (.call .success),
    .receive [0, 0] 2, .receiveInitiate, .shutdown .success]

theorem winds_down_midway :
    (streamMachine .reference).Inevitable contract StreamAction.winds AtRest
      midway :=
  winds_down (Machine.run_of_checks midway (by decide))

end StreamWorld

end MsquicAsio
