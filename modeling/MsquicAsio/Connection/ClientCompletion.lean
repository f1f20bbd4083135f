/-
The outcomes on a client connection.

A call of `async_start` that msquic refuses sends its own error, and one that it
accepts is answered by CONNECTED alone.  So the calls of `async_start` have
their outcomes, one each, as long as CONNECTED is not owed, while those of
`async_accept` and `async_shutdown` have theirs after SHUTDOWN_COMPLETE in any
case.
-/
import MsquicAsio.Connection.Dialling

set_option autoImplicit false

namespace MsquicAsio

variable {O : Oneshot}

/-- The error of a call that msquic has refused and that is not told so yet. -/
def UnlockedOp.refusal : UnlockedOp → Option ErrorCode
  | .callFailed _ ec => some ec
  | .lowered _ ec => some ec
  | _ => none

namespace UnlockedSlot

private theorem sends_step {slot after : UnlockedSlot O} {action : UnlockedStep}
    (enabled : slot.enabled action = true)
    (stepped : slot.step action = some after) {id : Nat} {ec : ErrorCode}
    (unanswered : slot.port.value? id = none)
    (held : after.port.value? id = some ec) :
    action = .sendFailure ∧ slot.op.refusal = some ec := by
  have makes := makes_of_step enabled stepped
  generalize result : some after = result at makes
  have unsent : after.port.value? id ≠ slot.port.value? id := by
    rw [held, unanswered]
    simp only [ne_eq, reduceCtorEq, not_false_eq_true]
  cases makes with
  | create pending port buffers =>
      obtain rfl := Option.some.inj result
      exact absurd (port.channels.value?_create id) unsent
  | assignTx | assignRx | raise | fails | accepts | lower =>
      obtain rfl := Option.some.inj result
      exact absurd rfl unsent
  | sendFailure pending port own refusal =>
      obtain ⟨used, sent, rfl⟩ := Option.map_eq_some_iff.mp result.symm
      have same : used = port.afterSend refusal := by
        simp only [Port.afterSend, sent, Option.getD_some]
      rw [same] at held
      rcases port.value?_afterSend_cases refusal held with old | ⟨_, rfl⟩
      · have earlier : port.value? id = none := unanswered
        rw [earlier] at old
        cases old
      · exact ⟨rfl, rfl⟩
  | initiate =>
      obtain ⟨wait, _, rfl⟩ := Option.map_eq_some_iff.mp result.symm
      exact absurd rfl unsent
  | invoke =>
      split at result
      · obtain rfl := Option.some.inj result
        exact absurd rfl unsent
      · obtain ⟨outcome, _, rfl⟩ := Option.map_eq_some_iff.mp result.symm
        exact absurd rfl unsent

private theorem refusal_step {slot after : UnlockedSlot O}
    {action : UnlockedStep}
    (enabled : slot.enabled action = true)
    (stepped : slot.step action = some after)
    (before : ∀ ec, slot.op.refusal = some ec → ec.failed = true) :
    ∀ ec, after.op.refusal = some ec → ec.failed = true := by
  have makes := makes_of_step enabled stepped
  generalize result : some after = result at makes
  intro ec refuses
  cases makes with
  | create | assignTx | assignRx | raise | accepts =>
      obtain rfl := Option.some.inj result
      cases refuses
  | fails pending port id buffers status failed =>
      obtain rfl := Option.some.inj result
      obtain rfl := Option.some.inj refuses
      exact decide_eq_true (status.nonzero failed)
  | lower =>
      obtain rfl := Option.some.inj result
      exact before ec refuses
  | sendFailure =>
      obtain ⟨_, _, rfl⟩ := Option.map_eq_some_iff.mp result.symm
      cases refuses
  | initiate =>
      obtain ⟨_, _, rfl⟩ := Option.map_eq_some_iff.mp result.symm
      cases refuses
  | invoke =>
      split at result
      · obtain rfl := Option.some.inj result
        cases refuses
      · obtain ⟨_, _, rfl⟩ := Option.map_eq_some_iff.mp result.symm
        cases refuses

/-- Every call that has returned has its outcome, exactly if no event is owed. -/
private theorem answered_iff {slot : UnlockedSlot O} {owed : Bool}
    (sound : slot.Sound owed) (answered : slot.Answered) :
    slot.port.channels.AnsweredBut slot.op.calling ↔ owed = false := by
  cases owed with
  | false => exact iff_of_true (answered.returned sound) rfl
  | true =>
      refine iff_of_false ?_ (by simp)
      intro all
      have returned := sound.calling_of_owed
      obtain ⟨id, _, inside, unanswered⟩ := sound.live (sound.flag returned)
      rw [returned] at all
      obtain ⟨outcome, held⟩ := all id inside (by simp)
      have none_yet : slot.port.channels.value? id = none := unanswered
      rw [none_yet] at held
      cases held

end UnlockedSlot

namespace ConnectionWorld

/-- What `async_start` is given by a step: success from CONNECTED, and from a
call that msquic has refused its error.  Every other step gives it nothing. -/
def StartOutcome (action : ConnectionAction) (before after : ConnectionWorld O) :
    Prop :=
  ∀ id ec, before.ctx.conn.value? id = none →
    after.ctx.conn.value? id = some ec →
      action = .event .connected ∧ ec = .success ∨
        action = .start .sendFailure ∧ ec.failed = true

/-- What the calls of `async_start` have got so far. -/
structure Dialled (actions : List ConnectionAction)
    (world : ConnectionWorld O) : Prop where
  answered : world.startSlot.Answered
  refusal : ∀ ec, world.start.refusal = some ec → ec.failed = true
  owed_iff : world.startOwed = true ↔
    actions.any ConnectionAction.accepted = true ∧
      .event .connected ∉ actions
  accepted : .event .connected ∈ actions →
    actions.any ConnectionAction.accepted = true

namespace Dialling

variable {actions : List ConnectionAction} {world : ConnectionWorld O}

private theorem startOutcome (dials : world.Dialling actions)
    (dialled : world.Dialled actions) {action : ConnectionAction}
    (allowed : dialling actions world action) :
    StartOutcome action world (world.step action) := by
  intro id ec unanswered held
  have before : world.startSlot.port.value? id = none := unanswered
  have after : (world.step action).startSlot.port.value? id = some ec := held
  have unsent : (world.step action).startSlot ≠ world.startSlot := by
    intro same
    rw [same, before] at after
    cases after
  cases dials.kind allowed with
  | event event =>
      rcases dials.start_event allowed with
        ⟨rfl, _, _, same⟩ | ⟨_, _, same⟩
      · rw [same] at after
        rcases Port.value?_afterSend_cases _ _ after with old | ⟨_, sent⟩
        · rw [before] at old
          cases old
        · exact Or.inl ⟨rfl, sent⟩
      · exact absurd same unsent
  | start statement =>
      obtain ⟨slot, enabled, stepped, _, same⟩ := dials.started allowed
      rw [same] at after
      obtain ⟨rfl, refuses⟩ :=
        UnlockedSlot.sends_step enabled stepped before after
      exact Or.inr ⟨rfl, dialled.refusal ec refuses⟩
  | aside action notStart notEvent same => exact absurd same.startSlot unsent

private theorem owed_step (dials : world.Dialling actions)
    (dialled : world.Dialled actions) {action : ConnectionAction}
    (allowed : dialling actions world action) :
    (world.step action).startOwed = true ↔
      (actions ++ [action]).any ConnectionAction.accepted = true ∧
        .event .connected ∉ actions ++ [action] := by
  have before := dialled.owed_iff
  rw [List.any_append, List.any_cons, List.any_nil, Bool.or_false]
  cases dials.kind allowed with
  | event event =>
      rw [world.step_event event dials.guarded, List.mem_append,
        List.mem_singleton, not_or]
      change _ ↔ (actions.any ConnectionAction.accepted || false) = true ∧ _
      rw [Bool.or_false]
      cases event with
      | connected => simp
      | shutdownInitiatedByTransport | shutdownInitiatedByPeer
      | shutdownComplete | peerStreamStarted | resumed
      | resumptionTicketReceived | other => simpa using before
  | start statement =>
      obtain ⟨slot, enabled, _, _, same⟩ := dials.started allowed
      rw [same, mem_append_other (by simp)]
      simp only [Bool.or_eq_true, before]
      constructor
      · rintro (⟨accepted, unconnected⟩ | now)
        · exact ⟨Or.inl accepted, unconnected⟩
        · refine ⟨Or.inr now, fun connected => ?_⟩
          have refused := dials.accepts_nothing (dialled.accepted connected)
            enabled
          rw [now] at refused
          cases refused
      · rintro ⟨accepted | now, unconnected⟩
        · exact Or.inl ⟨accepted, unconnected⟩
        · exact Or.inr now
  | aside action notStart notEvent same =>
      have refuses : action.accepted = false := by
        cases action <;> first | rfl | cases notStart
      have other : action ≠ .event .connected := by
        rintro rfl
        cases notEvent
      rw [same.startOwed, mem_append_other other, refuses, Bool.or_false]
      exact before

private theorem dialled_step (dials : world.Dialling actions)
    (dialled : world.Dialled actions) {action : ConnectionAction}
    (allowed : dialling actions world action) :
    (world.step action).Dialled (actions ++ [action]) where
  answered := by
    cases dials.kind allowed with
    | event event =>
        rcases dials.start_event allowed with
        ⟨rfl, _, _, same⟩ | ⟨_, _, same⟩
        · rw [same]
          exact Port.answeredBut_afterSend dialled.answered .success
        · rw [same]
          exact dialled.answered
    | start statement =>
        obtain ⟨slot, enabled, stepped, _, same⟩ := dials.started allowed
        rw [same]
        exact dialled.answered.step dials.start enabled stepped
    | aside action notStart notEvent same =>
        rw [same.startSlot]
        exact dialled.answered
  refusal := by
    cases dials.kind allowed with
    | event event =>
        rw [world.step_event event dials.guarded]
        exact dialled.refusal
    | start statement =>
        obtain ⟨slot, enabled, stepped, _, same⟩ := dials.started allowed
        rw [same]
        exact UnlockedSlot.refusal_step enabled stepped dialled.refusal
    | aside action notStart notEvent same =>
        have sameOp : (world.step action).start = world.start :=
          congrArg UnlockedSlot.op same.startSlot
        rw [sameOp]
        exact dialled.refusal
  owed_iff := owed_step dials dialled allowed
  accepted := by
    intro connected
    rw [List.any_append, Bool.or_eq_true]
    rcases List.mem_append.mp connected with earlier | now
    · exact Or.inl (dialled.accepted earlier)
    · obtain rfl := List.mem_singleton.mp now
      exact Or.inl (allowed.2.2.2.2.1 rfl).1

end Dialling

private theorem dialled_of_run {actions : List ConnectionAction}
    {world : ConnectionWorld O}
    (run : (connectionMachine O).Run dialling actions world) :
    world.Dialled actions := by
  apply run.invariant (fun actions world => world.Dialled actions)
  · exact
      { answered := Channels.AnsweredBut.empty _
        refusal := by intro ec impossible; cases impossible
        owed_iff := by
          simp only [List.any_nil, Bool.false_eq_true, false_and, iff_false]
          exact Bool.false_ne_true
        accepted := by intro impossible; cases impossible }
  · intro actions world action before dialled allowed
    exact (dialling_of_run before).dialled_step dialled allowed

/-- Nothing throws, and `async_start` is answered by CONNECTED or by its own
refusal only.  Its calls have one outcome each, but for the one in progress,
exactly if CONNECTED has followed the acceptance; and after SHUTDOWN_COMPLETE
those of `async_accept` and `async_shutdown` have theirs. -/
theorem client_completes_iff {actions : List ConnectionAction}
    {world : ConnectionWorld O}
    (run : (connectionMachine O).Run dialling actions world) :
    world.threw = false ∧
      (connectionMachine O).EachStep (fun _ before action =>
        StartOutcome action before (before.step action)) actions ∧
      ((∀ id, id < world.ctx.conn.channels.next →
          world.start.calling ≠ some id →
            ∃ ec, world.ctx.conn.channels.outcomes id = [ec]) ↔
        (actions.any ConnectionAction.accepted = true →
          .event .connected ∈ actions)) ∧
      (.event .shutdownComplete ∈ actions →
        (∀ id, id < world.ctx.accept.channels.next →
          ∃ message, world.ctx.accept.channels.outcomes id = [message]) ∧
        ∀ id, id < world.ctx.shutdown.channels.next →
          ∃ ec, world.ctx.shutdown.channels.outcomes id = [ec]) := by
  have dials := dialling_of_run run
  have dialled := dialled_of_run run
  refine ⟨dials.unthrown, ?_, ?_, ?_⟩
  · intro early action isPrefix
    have before := run.of_prefix ((List.prefix_append _ _).trans isPrefix)
    exact (dialling_of_run before).startOutcome (dialled_of_run before)
      (run.allowed_at isPrefix)
  · have owed : world.startOwed = false ↔
        (actions.any ConnectionAction.accepted = true →
          .event .connected ∈ actions) := by
      rw [← Bool.not_eq_true, dialled.owed_iff, not_and, not_not]
    rw [← owed, ← UnlockedSlot.answered_iff dials.start dialled.answered]
    constructor
    · intro outcomes id inside other
      obtain ⟨ec, held⟩ := outcomes id inside other
      rw [Channels.outcomes_eq] at held
      exact ⟨ec, Option.toList_eq_singleton_iff.mp held⟩
    · intro all id inside other
      exact all.outcome inside other
  · intro complete
    have down := dials.down complete
    have accepts : world.ctx.accept.channels.AnsweredBut none := by
      apply dials.accepting.sound.all_answered
      simp only [AcceptPart.slot, acceptPart, down.accept, down.returned,
        StreamStarted.sending, Bool.or_false]
    have shutdowns : world.ctx.shutdown.channels.AnsweredBut none :=
      dials.shutdown.all_answered down.shutdown
    constructor
    · intro id inside
      exact accepts.outcome inside (by simp)
    · intro id inside
      exact shutdowns.outcome inside (by simp)

/-- The first ConnectionStart is refused; the second one is accepted, and the
connection goes down before CONNECTED. -/
def refusedFirst : List ConnectionAction :=
  [.start (.create []), .start .assignTx, .start .assignRx, .start .raise,
    .start (.call .failure), .start .lower, .start .sendFailure,
    .start .initiate, .start (.invoke .success)] ++ failedHandshake

theorem client_completes_iff_refusedFirst :
    ¬∀ id, id < ((connectionMachine .reference).exec
        refusedFirst).ctx.conn.channels.next →
      ((connectionMachine .reference).exec refusedFirst).start.calling ≠
          some id →
        ∃ ec, ((connectionMachine .reference).exec
          refusedFirst).ctx.conn.channels.outcomes id = [ec] := by
  have run : (connectionMachine .reference).Run dialling refusedFirst
      ((connectionMachine .reference).exec refusedFirst) :=
    Machine.run_of_checks refusedFirst (by decide)
  rw [(client_completes_iff run).2.2.1]
  decide

end ConnectionWorld

end MsquicAsio
