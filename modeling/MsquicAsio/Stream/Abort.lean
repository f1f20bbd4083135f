/-
PEER_SEND_ABORTED and the direction that sends.

The event is about the data that the peer sends.  A send of this side goes on
and gets its own SEND_COMPLETE; only the assertion at the end of the branch
believes that there is none.
-/
import MsquicAsio.Stream.AnyCalls

set_option autoImplicit false

namespace MsquicAsio

variable {O : Oneshot}

def StreamAction.isSendComplete : StreamAction → Bool
  | .event (.sendComplete _) => true
  | _ => false

namespace StreamWorld

def abortAnyTime : Environment (StreamWorld O) StreamAction :=
  fun actions world action =>
    world.callable action = true ∧
      (action = .event .peerSendAborted → .event .shutdownComplete ∉ actions)

instance (actions : List StreamAction) (world : StreamWorld O)
    (action : StreamAction) : Decidable (abortAnyTime actions world action) :=
  inferInstanceAs (Decidable (_ ∧ (_ → _)))

/-! ### A send that msquic accepted -/

/-- The `async_send` on channel `id`, which msquic accepted, has the outcome of
its SEND_COMPLETE, or waits for it. -/
def OwnOutcome (id : Nat) (completed : Bool) (world : StreamWorld O) : Prop :=
  if completed = true then world.ctx.send.value? id = some .success
  else world.sendOwed = true ∧ world.send.own = some id

variable {world : StreamWorld O} {actions : List StreamAction} {id : Nat}

private theorem Loose.armed (loose : world.Loose) (owed : world.sendOwed = true)
    (own : world.send.own = some id) :
    world.ctx.send.tx = some id ∧ world.ctx.send.channels.Live id := by
  have sound := loose.send
  rw [owed] at sound
  have settles : world.ctx.send.Settles true (some id) := by
    have returned := sound.calling_of_owed
    unfold UnlockedSlot.Sound at sound
    simp only [sendSlot] at sound returned
    cases at_ : world.send with
    | ready other len =>
        rw [at_] at own sound
        obtain rfl := Option.some.inj own
        exact sound.2.2.2
    | waiting other wait len =>
        rw [at_] at own sound
        obtain rfl := Option.some.inj own
        exact sound.2.2.2
    | idle | created | txAssigned | rxAssigned | raised | callFailed
    | lowered =>
        rw [at_] at own
        cases own
  obtain ⟨other, same, txAt, live⟩ := settles.armed rfl
  obtain rfl := Option.some.inj same
  exact ⟨txAt, live⟩

private theorem OwnOutcome.outcomes {completed : Bool}
    (outcome : OwnOutcome id completed world) (loose : world.Loose) :
    world.ctx.send.channels.outcomes id =
      if completed = true then [.success] else [] := by
  rw [Channels.outcomes_eq]
  unfold OwnOutcome at outcome
  split at outcome
  · have held : world.ctx.send.channels.value? id = some .success := outcome
    rw [held, if_pos (by assumption)]
    rfl
  · obtain ⟨_, live⟩ := loose.armed outcome.1 outcome.2
    rw [live.2, if_neg (by assumption)]
    rfl

/-- While its event is owed, a call goes no further than its wait. -/
private theorem own_of_owed {slot after : UnlockedSlot O}
    (sound : slot.Sound true)
    {action : UnlockedStep} (enabled : slot.enabled action = true)
    (stepped : slot.step action = some after) :
    after.op.own = slot.op.own := by
  have makes := UnlockedSlot.makes_of_step enabled stepped
  generalize result : some after = result at makes
  cases makes with
  | initiate =>
      obtain ⟨wait, _, rfl⟩ := Option.map_eq_some_iff.mp result.symm
      rfl
  | invoke pending port id wait len ec completes =>
      obtain ⟨_, impossible, _⟩ :=
        UnlockedSlot.Returned.completes sound completes
      cases impossible
  | create => exact absurd sound.2 (by simp)
  | assignTx | assignRx | raise | fails | accepts | lower | sendFailure =>
      exact absurd sound.2.1 (by simp)

private theorem OwnOutcome.step {completed : Bool}
    (outcome : OwnOutcome id completed world) (loose : world.Loose)
    {action : StreamAction} (callable : world.callable action = true) :
    OwnOutcome id (completed || action.isSendComplete) (world.step action) := by
  -- what leaves the slot alone keeps the outcome
  have kept : (world.step action).sendSlot = world.sendSlot ∧
      (world.step action).sendOwed = world.sendOwed →
      OwnOutcome id completed (world.step action) := by
    rintro ⟨sameSlot, sameOwed⟩
    have samePort : (world.step action).ctx.send = world.ctx.send :=
      congrArg UnlockedSlot.port sameSlot
    have sameOp : (world.step action).send = world.send :=
      congrArg UnlockedSlot.op sameSlot
    unfold OwnOutcome at outcome ⊢
    rw [samePort, sameOp, sameOwed]
    exact outcome
  simp only [StreamWorld.callable, Bool.and_eq_true] at callable
  by_cases isEvent : ∃ event, action = .event event
  · obtain ⟨event, rfl⟩ := isEvent
    by_cases isComplete : ∃ canceled, event = .sendComplete canceled
    · obtain ⟨canceled, rfl⟩ := isComplete
      have finished : (world.step (.event (.sendComplete canceled))).ctx =
          world.ctx.after (.sendComplete canceled) :=
        ctx_event loose.waits (by simp)
      have flag : (completed ||
          (StreamAction.event (.sendComplete canceled)).isSendComplete) = true :=
        Bool.or_true _
      unfold OwnOutcome at outcome ⊢
      rw [flag, if_pos rfl, finished]
      change (world.ctx.send.afterSend .success).value? id = some .success
      split at outcome
      · exact world.ctx.send.value?_afterSend_of_held .success outcome
      · obtain ⟨txAt, live⟩ := loose.armed outcome.1 outcome.2
        rw [(world.ctx.send.afterSend_of_live .success txAt live).2.2.2.2 id,
          if_pos rfl]
    · have other : (StreamAction.event event).isSendComplete = false := by
        cases event with
        | sendComplete canceled => exact absurd ⟨canceled, rfl⟩ isComplete
        | startComplete | receive | peerSendShutdown | peerSendAborted
        | shutdownComplete | other => rfl
      rw [other, Bool.or_false]
      exact kept (loose.sendSlot_event
        (fun canceled equal => isComplete ⟨canceled, equal⟩))
  · have other : action.isSendComplete = false := by
      cases action with
      | event event => exact absurd ⟨event, rfl⟩ isEvent
      | start | send | receive | receiveInitiate | receiveHandler
      | receiveInvoke | shutdown | shutdownInitiate | shutdownHandler => rfl
    rw [other, Bool.or_false]
    by_cases isCall : ∃ step, action = .send step
    · obtain ⟨step, rfl⟩ := isCall
      have slotEnabled : world.sendSlot.enabled step = true := by
        have inOrder := callable.2
        simp only [StreamWorld.enabled, Bool.and_eq_true] at inOrder
        exact inOrder.2
      obtain ⟨after, stepped, _⟩ := loose.send.step slotEnabled
      simp only [StreamWorld.step, asyncSend, stepped]
      unfold OwnOutcome at outcome ⊢
      split at outcome
      · rw [if_pos (by assumption)]
        exact UnlockedSlot.value?_step slotEnabled stepped outcome
      · rw [if_neg (by assumption)]
        obtain ⟨owed, own⟩ := outcome
        have sound := loose.send
        rw [owed] at sound ⊢
        exact ⟨rfl, (own_of_owed sound slotEnabled stepped).trans own⟩
    · exact kept ((world.slots_frontEnd action
        (fun event equal => isEvent ⟨event, equal⟩)).2
        (fun step equal => isCall ⟨step, equal⟩))

private theorem loose_of_abortRun
    (run : (streamMachine O).Run abortAnyTime actions world) :
    world.Loose := by
  apply run.invariant (fun _ world => world.Loose) loose_initial
  intro actions world action _ loose allowed
  exact loose.step allowed.1

/-- A send that is outstanding at some point of a run gets the outcome of its
own SEND_COMPLETE, whatever else comes. -/
private theorem outcome_of_run {early later : List StreamAction}
    (run : (streamMachine O).Run abortAnyTime (early ++ later) world)
    (owed : ((streamMachine O).exec early).sendOwed = true)
    (own : ((streamMachine O).exec early).send.own = some id) :
    world.ctx.send.channels.outcomes id =
      if later.any StreamAction.isSendComplete = true then [.success]
      else [] := by
  have start : OwnOutcome id ((early.drop early.length).any
      StreamAction.isSendComplete) ((streamMachine O).exec early) := by
    rw [List.drop_length]
    exact ⟨owed, own⟩
  have tracked := run.invariant_from (fun actions world => OwnOutcome id
    ((actions.drop early.length).any StreamAction.isSendComplete) world)
    start (by
      intro actions world action before isPrefix outcome allowed
      have stepped := outcome.step (loose_of_abortRun before) allowed.1
      have last : [action].any StreamAction.isSendComplete =
          action.isSendComplete := Bool.or_false _
      rw [List.drop_append_of_le_length isPrefix.length_le, List.any_append,
        last]
      exact stepped)
    (List.prefix_append early later)
  rw [List.drop_left] at tracked
  exact tracked.outcomes (loose_of_abortRun run)

/-! ### The two directions -/

/-- Processing PEER_SEND_ABORTED failed no assertion and left the flag and the
channel of `async_send` alone, and a send outstanding then has the outcome of
its own SEND_COMPLETE once that came. -/
structure Independent (actions : List StreamAction) (world : StreamWorld O) :
    Prop where
  noFailure : ∀ early, early ++ [.event .peerSendAborted] <+: actions →
    ((streamMachine O).exec (early ++ [.event .peerSendAborted])).ctx.failed =
      ((streamMachine O).exec early).ctx.failed
  untouched : ∀ early, early ++ [.event .peerSendAborted] <+: actions →
    ((streamMachine O).exec (early ++ [.event .peerSendAborted])).sendSlot =
      ((streamMachine O).exec early).sendSlot
  outcome : ∀ early later id,
    early ++ .event .peerSendAborted :: later = actions →
      ((streamMachine O).exec early).sendOwed = true →
      ((streamMachine O).exec early).send.own = some id →
        world.ctx.send.channels.outcomes id =
          if later.any StreamAction.isSendComplete = true then [.success]
          else []

/-- PEER_SEND_ABORTED comes while no `async_send` is between its flag and the
call, and none waits for its SEND_COMPLETE. -/
def AbortedWhenIdle (_ : List StreamAction) (world : StreamWorld O)
    (action : StreamAction) : Prop :=
  action = .event .peerSendAborted →
    world.send.raising = false ∧ world.sendOwed = false

private theorem Loose.aborted_failed (loose : world.Loose) :
    (world.step (.event .peerSendAborted)).ctx.failed =
      world.ctx.failed ++ violated .peerSendAbortedSendUnset
        (!(world.send.raising || world.sendOwed)) := by
  have finished : (world.step (.event .peerSendAborted)).ctx =
      world.ctx.after .peerSendAborted := ctx_event loose.waits (by simp)
  have sending : world.ctx.pending.send =
      (world.send.raising || world.sendOwed) := loose.send.pending_eq
  rw [finished, ← sending]
  rfl

private theorem outcome_of_abort
    (run : (streamMachine O).Run abortAnyTime actions world)
    {early later : List StreamAction}
    (whole : early ++ .event .peerSendAborted :: later = actions)
    (owed : ((streamMachine O).exec early).sendOwed = true)
    (own : ((streamMachine O).exec early).send.own = some id) :
    world.ctx.send.channels.outcomes id =
      if later.any StreamAction.isSendComplete = true then [.success]
      else [] := by
  subst whole
  have outcome := outcome_of_run run owed own
  have skipped : (StreamAction.event .peerSendAborted :: later).any
      StreamAction.isSendComplete = later.any StreamAction.isSendComplete :=
    Bool.false_or _
  rw [skipped] at outcome
  exact outcome

/-- Every PEER_SEND_ABORTED of a run leaves the sending direction alone, exactly
when no send is in progress at any of them. -/
theorem directions_independent_iff
    (run : (streamMachine O).Run abortAnyTime actions world) :
    (streamMachine O).Throughout Independent actions ↔
      (streamMachine O).EachStep AbortedWhenIdle actions := by
  apply run.throughout_iff
  · have none : ∀ early, ¬early ++ [.event .peerSendAborted] <+:
        ([] : List StreamAction) := by
      intro early isPrefix
      exact absurd (List.prefix_nil.mp isPrefix) (by simp)
    exact
      { noFailure := fun early isPrefix => absurd isPrefix (none early)
        untouched := fun early isPrefix => absurd isPrefix (none early)
        outcome := by
          intro early later id whole
          exact absurd whole (by simp) }
  · intro actions world action before _ allowed independent
    have loose := loose_of_abortRun before
    have after := before.step allowed
    have cases_ : ∀ early, early ++ [.event .peerSendAborted] <+:
        actions ++ [action] → (early = actions ∧
          action = .event .peerSendAborted) ∨
        early ++ [.event .peerSendAborted] <+: actions := by
      intro early isPrefix
      rcases List.prefix_concat_iff.mp isPrefix with same | inside
      · obtain ⟨rfl, sameAction⟩ := List.append_inj' same rfl
        exact Or.inl ⟨rfl, (List.singleton_inj.mp sameAction).symm⟩
      · exact Or.inr inside
    have reached : ((streamMachine O).exec (actions ++
        [.event .peerSendAborted])) = world.step (.event .peerSendAborted) := by
      rw [Machine.exec_append, ← before.state_eq]
      rfl
    constructor
    · rintro whole rfl
      have noFailure := whole.noFailure actions List.prefix_rfl
      rw [reached, ← before.state_eq, loose.aborted_failed,
        List.append_right_eq_self] at noFailure
      have quiet : (world.send.raising || world.sendOwed) = false := by
        cases busy : (world.send.raising || world.sendOwed) with
        | false => rfl
        | true =>
            rw [busy] at noFailure
            cases noFailure
      exact Bool.or_eq_false_iff.mp quiet
    · intro quiet
      refine
        { noFailure := ?_
          untouched := ?_
          outcome := fun early later id whole =>
            outcome_of_abort after whole }
      · intro early isPrefix
        rcases cases_ early isPrefix with ⟨rfl, isAbort⟩ | inside
        · obtain ⟨idle, unowed⟩ := quiet isAbort
          rw [reached, ← before.state_eq, loose.aborted_failed, idle, unowed]
          exact List.append_nil _
        · exact independent.noFailure early inside
      · intro early isPrefix
        rcases cases_ early isPrefix with ⟨rfl, _⟩ | inside
        · rw [reached, ← before.state_eq]
          exact (loose.sendSlot_event (by simp)).1
        · exact independent.untouched early inside

/-- The peer resets its direction while a send waits for its SEND_COMPLETE. -/
def abortedWhileSending : List StreamAction :=
  [.send (.create [1]), .send .assignTx, .send .assignRx, .send .raise,
    .send (.call .success), .send .initiate, .event .peerSendAborted]

theorem abort_fails_while_sending :
    (streamMachine .reference).Run abortAnyTime abortedWhileSending
        ((streamMachine .reference).exec abortedWhileSending) ∧
      .peerSendAbortedSendUnset ∈
        ((streamMachine .reference).exec abortedWhileSending).ctx.failed ∧
      ¬Independent abortedWhileSending
        ((streamMachine .reference).exec abortedWhileSending) := by
  refine ⟨Machine.run_of_checks abortedWhileSending (by decide), by decide, ?_⟩
  intro independent
  exact absurd (independent.noFailure [.send (.create [1]), .send .assignTx,
    .send .assignRx, .send .raise, .send (.call .success), .send .initiate]
    List.prefix_rfl) (by decide)

def abortedBetweenSends : List StreamAction :=
  [.send (.create [1]), .send .assignTx, .send .assignRx, .send .raise,
    .send (.call .success), .send .initiate, .event (.sendComplete false),
    .event .peerSendAborted, .send (.invoke .success), .send (.create [2]),
    .send .assignTx, .send .assignRx, .send .raise, .send (.call .success),
    .event (.sendComplete false), .event .shutdownComplete]

theorem directions_independent_iff_abortedBetweenSends :
    (streamMachine .reference).Throughout Independent abortedBetweenSends ↔
      (streamMachine .reference).EachStep AbortedWhenIdle
        abortedBetweenSends :=
  directions_independent_iff
    (Machine.run_of_checks abortedBetweenSends (by decide))

end StreamWorld

end MsquicAsio
