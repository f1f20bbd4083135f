/-
A stream whose front end calls `async_receive` and `async_shutdown` whenever
it likes.

Nothing keeps the front end from calling them while an earlier call waits; the
earlier call is not followed any further then.  What survives of the contract
is `Loose`: a reader that waits has a live sender, and `async_send`, of which
the library supports one at a time, keeps its own contract.
-/
import MsquicAsio.Stream.Completion

set_option autoImplicit false

namespace MsquicAsio

variable {O : Oneshot}

def StreamAction.isReceive : StreamAction → Bool
  | .receive _ _ => true
  | _ => false

/-- A reader that waits has a live sender, and its stream is open. -/
def AsioServerStreamCtx.ReaderLive (ctx : AsioServerStreamCtx O) : Prop :=
  ctx.pending.receiveFrontend = true → ctx.receive.Live ∧ ctx.state = .ok

namespace StreamWorld

/-- Program order within each call, and a SEND_COMPLETE only for an accepted
`StreamSend`. -/
def callable (world : StreamWorld O) (action : StreamAction) : Bool :=
  !world.threw &&
    match action with
    | .receive _ _ => true
    | .shutdown _ => true
    | .event (.sendComplete _) => world.sendOwed
    | _ => world.enabled action

variable (world : StreamWorld O)

structure Loose : Prop where
  waits : world.ctx.pending.receiveFrontend = true →
    world.ctx.receive.Live ∧ world.ctx.state = .ok
  send : world.sendSlot.Sound world.sendOwed

theorem loose_initial : (initial : StreamWorld O).Loose where
  waits := by intro impossible; cases impossible
  send := ⟨rfl, rfl⟩

variable {world}

theorem ctx_event (reader : world.ctx.ReaderLive) {event : StreamEvent}
    (other : event ≠ .shutdownComplete) :
    (world.deliver event).ctx = world.ctx.after event :=
  world.ctx.finalState_event event (fun raised => (reader raised).1) other

/-- SHUTDOWN_COMPLETE runs to its end, or throws before its assertions. -/
theorem ctx_shutdownComplete (reader : world.ctx.ReaderLive) :
    world.ctx.Answerable ∧
        (world.deliver .shutdownComplete).ctx =
          world.ctx.after .shutdownComplete ∨
      ¬world.ctx.Answerable ∧
        (world.deliver .shutdownComplete).ctx = world.ctx.afterThrow := by
  have live : world.ctx.pending.receiveFrontend = true →
      world.ctx.receive.Live := fun raised => (reader raised).1
  by_cases answerable : world.ctx.Answerable
  · refine Or.inl ⟨answerable, ?_⟩
    simp only [deliver, world.ctx.callback_shutdownComplete live answerable]
    rfl
  · refine Or.inr ⟨answerable, ?_⟩
    simp only [deliver, world.ctx.callback_shutdownComplete_throws live
      answerable]
    rfl

theorem Loose.sendSlot_event (loose : world.Loose) {event : StreamEvent}
    (other : ∀ canceled, event ≠ .sendComplete canceled) :
    (world.deliver event).sendSlot = world.sendSlot ∧
      (world.deliver event).sendOwed = world.sendOwed := by
  have kept : (world.deliver event).ctx.pending.send =
        world.ctx.pending.send ∧
      (world.deliver event).ctx.send = world.ctx.send := by
    by_cases last : event = .shutdownComplete
    · subst last
      rcases ctx_shutdownComplete loose.waits with ⟨_, same⟩ | ⟨_, same⟩ <;>
        (rw [same]; exact ⟨rfl, rfl⟩)
    · rw [ctx_event loose.waits last]
      cases event with
      | sendComplete canceled => exact absurd rfl (other canceled)
      | startComplete | receive | peerSendShutdown | peerSendAborted
      | shutdownComplete | other => exact ⟨rfl, rfl⟩
  refine ⟨?_, ?_⟩
  · have samePending := kept.1
    have samePort := kept.2
    simp only [sendSlot, samePending, samePort]
    rfl
  · cases event with
    | sendComplete canceled => exact absurd rfl (other canceled)
    | startComplete | receive | peerSendShutdown | peerSendAborted
    | shutdownComplete | other => exact Bool.and_true _

inductive SendMoves (world after : StreamWorld O) : StreamAction → Prop
  | statement (step : UnlockedStep) (slot : UnlockedSlot O)
      (enabled : world.sendSlot.enabled step = true)
      (stepped : world.sendSlot.step step = some slot)
      (slotAfter : after.sendSlot = slot)
      (owed : after.sendOwed = (world.sendOwed || step.accepted))
      (results : after.sendResults =
        world.sendResults ++ (world.sendSlot.report step).toList) :
      SendMoves world after (.send step)
  | completes (canceled : Bool) (owedBefore : world.sendOwed = true)
      (slotAfter : after.sendSlot =
        { world.sendSlot with
          pending := false
          port := world.sendSlot.port.afterSend .success })
      (owed : after.sendOwed = false)
      (results : after.sendResults = world.sendResults) :
      SendMoves world after (.event (.sendComplete canceled))
  | aside (action : StreamAction) (notSend : ∀ step, action ≠ .send step)
      (notComplete : ∀ canceled, action ≠ .event (.sendComplete canceled))
      (slotAfter : after.sendSlot = world.sendSlot)
      (owed : after.sendOwed = world.sendOwed)
      (results : after.sendResults = world.sendResults) :
      SendMoves world after action

private theorem sendResults_step (world : StreamWorld O) {action : StreamAction}
    (notSend : ∀ step, action ≠ .send step) :
    (world.step action).sendResults = world.sendResults := by
  cases action with
  | send step => exact absurd rfl (notSend step)
  | start step =>
      simp only [StreamWorld.step, asyncStart]
      split <;> rfl
  | receiveInitiate | receiveHandler | shutdownInitiate | shutdownHandler =>
      simp only [StreamWorld.step]
      split <;> rfl
  | event | receive | receiveInvoke | shutdown => rfl

theorem Loose.send_moves (loose : world.Loose) {action : StreamAction}
    (callable : world.callable action = true) :
    SendMoves world (world.step action) action := by
  simp only [StreamWorld.callable, Bool.and_eq_true] at callable
  by_cases isSend : ∃ step, action = .send step
  · obtain ⟨step, rfl⟩ := isSend
    have enabled : world.sendSlot.enabled step = true := by
      have inOrder := callable.2
      simp only [StreamWorld.enabled, Bool.and_eq_true] at inOrder
      exact inOrder.2
    obtain ⟨slot, stepped, _⟩ := loose.send.step enabled
    refine .statement step slot enabled stepped ?_ ?_ ?_
    · simp only [StreamWorld.step, asyncSend, stepped]
      rfl
    · simp only [StreamWorld.step, asyncSend, stepped]
    · simp only [StreamWorld.step, asyncSend, stepped]
  · have notSend : ∀ step, action ≠ .send step :=
      fun step same => isSend ⟨step, same⟩
    have results := world.sendResults_step notSend
    by_cases isComplete : ∃ canceled, action = .event (.sendComplete canceled)
    · obtain ⟨canceled, rfl⟩ := isComplete
      have finished : (world.deliver (.sendComplete canceled)).ctx =
          world.ctx.after (.sendComplete canceled) := ctx_event loose.waits (by simp)
      refine .completes canceled callable.2 ?_ (Bool.and_false _) results
      simp only [sendSlot, StreamWorld.step, finished]
      rfl
    · have notComplete : ∀ canceled, action ≠ .event (.sendComplete canceled) :=
        fun canceled same => isComplete ⟨canceled, same⟩
      by_cases isEvent : ∃ event, action = .event event
      · obtain ⟨event, rfl⟩ := isEvent
        obtain ⟨same, owed⟩ := loose.sendSlot_event
          (fun canceled equal => notComplete canceled (congrArg _ equal))
        exact .aside _ notSend notComplete same owed results
      · obtain ⟨same, owed⟩ := (world.slots_frontEnd action
          (fun event equal => isEvent ⟨event, equal⟩)).2 notSend
        exact .aside _ notSend notComplete same owed results

private theorem Loose.send_step (loose : world.Loose) {action : StreamAction}
    (callable : world.callable action = true) :
    (world.step action).sendSlot.Sound (world.step action).sendOwed := by
  have moves := loose.send_moves callable
  have sound := loose.send
  generalize world.step action = after at moves ⊢
  cases moves with
  | statement step slot enabled stepped slotAfter owed results =>
      obtain ⟨reached, sameStep, kept⟩ := sound.step enabled
      rw [stepped] at sameStep
      obtain rfl := Option.some.inj sameStep
      rw [slotAfter, owed]
      exact kept
  | completes canceled owedBefore slotAfter owed results =>
      rw [owedBefore] at sound
      rw [slotAfter, owed]
      exact (sound.settle .success).2
  | aside action notSend notComplete slotAfter owed results =>
      rw [slotAfter, owed]
      exact sound

def receiveSide (ctx : AsioServerStreamCtx O) :
    Bool × Bool × StreamState × Port O ReceiveMessage :=
  (ctx.pending.receiveFrontend, ctx.pending.receiveBackend, ctx.state,
    ctx.receive)

theorem receiveSide_frontEnd (world : StreamWorld O) (action : StreamAction)
    (notEvent : ∀ event, action ≠ .event event)
    (notReceive : ∀ lpBuffer bufferLen, action ≠ .receive lpBuffer bufferLen) :
    receiveSide (world.step action).ctx = receiveSide world.ctx := by
  cases action with
  | event event => exact absurd rfl (notEvent event)
  | receive lpBuffer bufferLen =>
      exact absurd rfl (notReceive lpBuffer bufferLen)
  | start step =>
      simp only [StreamWorld.step, asyncStart]
      split <;> rfl
  | send step =>
      simp only [StreamWorld.step, asyncSend]
      split <;> rfl
  | shutdown status =>
      simp only [StreamWorld.step, world.ctx.asyncShutdown_eq, Exec.finalState]
      split
      · rfl
      · split <;> rfl
  | receiveInitiate | receiveHandler | shutdownInitiate | shutdownHandler =>
      simp only [StreamWorld.step]
      split <;> rfl
  | receiveInvoke => rfl

private theorem lowered_event (reader : world.ctx.ReaderLive)
    (event : StreamEvent) :
    (world.deliver event).ctx.pending.receiveFrontend = false ∨
      receiveSide (world.deliver event).ctx = receiveSide world.ctx := by
  by_cases last : event = .shutdownComplete
  · subst last
    rcases ctx_shutdownComplete reader with ⟨_, same⟩ | ⟨_, same⟩ <;>
      (rw [same]; exact Or.inl rfl)
  · rw [ctx_event reader last]
    cases event with
    | startComplete | sendComplete | other => exact Or.inr rfl
    | receive | peerSendShutdown | peerSendAborted | shutdownComplete =>
        exact Or.inl rfl

theorem readerLive_step (reader : world.ctx.ReaderLive)
    (action : StreamAction) : (world.step action).ctx.ReaderLive := by
  have kept : receiveSide (world.step action).ctx = receiveSide world.ctx →
      (world.step action).ctx.ReaderLive := by
    intro same
    simp only [receiveSide, Prod.mk.injEq] at same
    obtain ⟨sameFlag, _, sameState, samePort⟩ := same
    unfold AsioServerStreamCtx.ReaderLive
    rw [sameFlag, sameState, samePort]
    exact reader
  by_cases isEvent : ∃ event, action = .event event
  · obtain ⟨event, rfl⟩ := isEvent
    rcases lowered_event reader event with lowered | same
    · intro raised
      exact absurd (lowered.symm.trans raised) Bool.false_ne_true
    · exact kept same
  · by_cases isReceive : ∃ lpBuffer bufferLen,
        action = .receive lpBuffer bufferLen
    · obtain ⟨lpBuffer, bufferLen, rfl⟩ := isReceive
      simp only [StreamWorld.step, world.ctx.asyncReceive_eq, Exec.finalState,
        AsioServerStreamCtx.afterFirstReader]
      split
      · exact reader
      · split
        · rename_i open_
          exact fun _ => ⟨world.ctx.receive.live_renew, open_⟩
        · rename_i closed
          exact fun raised => absurd (reader raised).2 closed
    · exact kept (world.receiveSide_frontEnd action
        (fun event equal => isEvent ⟨event, equal⟩)
        (fun lpBuffer bufferLen equal =>
          isReceive ⟨lpBuffer, bufferLen, equal⟩))

theorem Loose.step (loose : world.Loose) {action : StreamAction}
    (callable : world.callable action = true) :
    (world.step action).Loose where
  waits := readerLive_step loose.waits action
  send := loose.send_step callable

end StreamWorld

end MsquicAsio
