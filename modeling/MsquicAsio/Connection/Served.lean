/-
No wakeup of an `async_accept` is lost on a connection.

While a call waits and a PEER_STREAM_STARTED callback is in progress, the
permit of that call is there or in the callback's hands.  Every order of the
outstanding statements ends with the handler holding the very stream of that
callback, its own callback registered.
-/
import MsquicAsio.Connection.WindDown

set_option autoImplicit false

namespace MsquicAsio

variable {O : Oneshot}

def ConnectionAction.serves : ConnectionAction → Bool
  | .streamStarted _ => true
  | .acceptInitiate => true
  | .acceptHandler _ => true
  | _ => false

namespace ConnectionWorld

/-- The callback has returned, and its registered stream was given to the
handler after those that got their streams before. -/
structure Served (stream : Hquic) (earlier : List AcceptMessage)
    (world : ConnectionWorld O) : Prop where
  returned : world.callback = .returned
  accepted : world.accepted = earlier ++ [AcceptPart.streamMessage stream]
  registered : stream ∈ world.callbacks

/-- How far the stream has come on its way to the handler of the call on
channel `id`. -/
inductive Serves (id : Nat) (stream : Hquic) (earlier : List AcceptMessage)
    (world : ConnectionWorld O) : Prop
  | brought (brings : world.callback.stream = some stream)
      (own : world.accept.own = some id)
      (unanswered : world.ctx.accept.value? id = none)
      (accepted : world.accepted = earlier) :
      Serves id stream earlier world
  | sent (returned : world.callback = .returned)
      (own : world.accept.own = some id)
      (answered : world.ctx.accept.value? id =
        some (AcceptPart.streamMessage stream))
      (accepted : world.accepted = earlier)
      (registered : stream ∈ world.callbacks) :
      Serves id stream earlier world
  | done (idle : world.accept = .idle) (served : world.Served stream earlier) :
      Serves id stream earlier world

def unserved (world : ConnectionWorld O) : Nat :=
  world.callback.remaining + world.accept.remaining

namespace Serving

variable {actions : List ConnectionAction} {world : ConnectionWorld O}
  {id : Nat} {stream : Hquic} {earlier : List AcceptMessage}

private theorem serves_streamStarted (serving : world.Serving actions)
    {statement : StreamStartedStep} (running : world.Running statement)
    (serves : world.Serves id stream earlier) :
    (world.step (.streamStarted statement)).Serves id stream earlier ∧
      (world.step (.streamStarted statement)).unserved < world.unserved := by
  cases serves with
  | sent returned | done _ served =>
      have back : world.callback = .returned := by
        first | exact returned | exact served.returned
      cases running with
      | acquire other place | assertAccept other place
      | clearAccept other place | setCallback other place
      | send other place =>
          rw [back] at place
          cases place
  | brought brings own unanswered accepted =>
      cases running with
      | acquire other place | assertAccept other place
      | clearAccept other place | setCallback other place =>
          simp only [unserved, ConnectionWorld.step, streamStarted, place,
            StreamStarted.remaining]
          rw [place] at brings
          exact ⟨.brought brings own unanswered accepted, by omega⟩
      | send other place =>
          obtain ⟨sender, ownThere, txAt, live⟩ :=
            serving.accepting.send_live place
          have sent := world.ctx.accept.send_of_live
            (.success, .assign other) ⟨sender, txAt, live⟩
          have values := (world.ctx.accept.afterSend_of_live
            (.success, .assign other) txAt live).2.2.2.2 sender
          rw [if_pos rfl] at values
          have registered := serving.accepting.registered other place
          rw [place] at brings
          obtain rfl := Option.some.inj brings
          change world.accept.own = some sender at ownThere
          obtain rfl := Option.some.inj (own.symm.trans ownThere)
          simp only [unserved, ConnectionWorld.step, streamStarted, place, sent,
            StreamStarted.remaining]
          exact ⟨.sent rfl own values accepted registered, by omega⟩

private theorem serves_step (serving : world.Serving actions)
    {action : ConnectionAction} (isOwn : action.serves = true)
    (allowed : serverContract actions world action)
    (serves : world.Serves id stream earlier) :
    (world.step action).Serves id stream earlier ∧
      (world.step action).unserved < world.unserved := by
  have enabled := allowed.1.1
  simp only [ConnectionWorld.enabled, Bool.and_eq_true] at enabled
  cases action with
  | event | start | connect | connectInitiate | connectHandler | accept
  | shutdown | shutdownInitiate | shutdownHandler => cases isOwn
  | streamStarted statement =>
      exact serving.serves_streamStarted
        (world.running_of_enabled enabled.2) serves
  | acceptInitiate =>
      obtain ⟨op, initiated, _, sameOwn⟩ :=
        serving.accepting.sound.initiate enabled.2
      have ran : world.acceptSlot.initiate =
          some { world.acceptSlot with op := op } := initiated
      have lower := LockedSlot.remaining_initiate enabled.2 ran
      change op.remaining < world.accept.remaining at lower
      change op.own = world.accept.own at sameOwn
      simp only [unserved, ConnectionWorld.step, ran]
      refine ⟨?_, by omega⟩
      cases serves with
      | brought brings own unanswered accepted =>
          exact .brought brings (sameOwn.trans own) unanswered accepted
      | sent returned own answered accepted registered =>
          exact .sent returned (sameOwn.trans own) answered accepted registered
      | done idle served =>
          rw [idle] at enabled
          exact absurd enabled.2 (by simp)
  | acceptHandler ec =>
      obtain ⟨other, message, own, held, handled, _⟩ :=
        serving.accepting.sound.handler enabled.2
      have ran : world.acceptSlot.handler ec =
          some ({ world.acceptSlot with op := .idle }, some message) := handled
      have lower := LockedSlot.remaining_handler enabled.2
      change _ < world.accept.remaining at lower
      change world.accept.own = some other at own
      change world.ctx.accept.value? other = some message at held
      simp only [unserved, ConnectionWorld.step, ran]
      refine ⟨?_, by omega⟩
      cases serves with
      | brought brings sameOwn unanswered accepted =>
          obtain rfl := Option.some.inj (sameOwn.symm.trans own)
          rw [held] at unanswered
          cases unanswered
      | sent returned sameOwn answered accepted registered =>
          obtain rfl := Option.some.inj (sameOwn.symm.trans own)
          obtain rfl := Option.some.inj (held.symm.trans answered)
          refine .done rfl ⟨returned, ?_, registered⟩
          rw [← accepted]
          rfl
      | done idle served =>
          rw [idle] at own
          cases own

private theorem running_of_brought (serving : world.Serving actions)
    (brings : world.callback.stream = some stream)
    (own : world.accept.own = some id)
    (unanswered : world.ctx.accept.value? id = none) :
    ∃ statement, world.streamStartedEnabled statement = true := by
  have raised : world.acceptSlot.pending = true := by
    rcases serving.accepting.sound.settles.answered id own with
      raised | ⟨message, held⟩
    · exact raised
    · have heldThere : world.ctx.accept.value? id = some message := held
      rw [unanswered] at heldThere
      cases heldThere
  cases place : world.callback with
  | returned =>
      rw [place] at brings
      cases brings
  | acquiring other =>
      have up := serving.accepting.running (by
        change world.callback ≠ .returned
        rw [place]
        simp)
      have permits := serving.accepting.permits up
      change world.ctx.acceptBs =
        if (world.ctx.pending.accept && !world.callback.passed) = true then 1
        else 0 at permits
      simp only [acceptSlot, place, StreamStarted.sending, Bool.or_false]
        at raised
      rw [place, raised] at permits
      refine ⟨.acquire, ?_⟩
      simp only [streamStartedEnabled, place, permits]
      exact decide_eq_true Nat.zero_lt_one
  | acquired other =>
      exact ⟨.assertAccept, by simp only [streamStartedEnabled, place]⟩
  | asserted other =>
      exact ⟨.clearAccept, by simp only [streamStartedEnabled, place]⟩
  | cleared other =>
      exact ⟨.setCallback, by simp only [streamStartedEnabled, place]⟩
  | registered other =>
      exact ⟨.send, by simp only [streamStartedEnabled, place]⟩

private theorem served_of_quiet (serving : world.Serving actions)
    (quiet : Machine.Quiet serverContract ConnectionAction.serves actions world)
    (serves : world.Serves id stream earlier) :
    world.Served stream earlier := by
  have unthrown := serving.unthrown
  have stops : ∀ action, ConnectionAction.serves action = true →
      world.enabled action ≠ true := by
    intro action isOwn enabled
    have allowed : serverContract actions world action := by
      cases action with
      | event | start | connect | connectInitiate | connectHandler | accept
      | shutdown | shutdownInitiate | shutdownHandler => cases isOwn
      | streamStarted | acceptInitiate | acceptHandler =>
          exact ⟨⟨enabled, by simp, fun some => absurd rfl some⟩, by simp,
            by simp, rfl, fun event => absurd event Bool.false_ne_true⟩
    exact quiet action isOwn allowed
  cases serves with
  | done _ served => exact served
  | brought brings own unanswered accepted =>
      obtain ⟨statement, enabled⟩ :=
        serving.running_of_brought brings own unanswered
      refine absurd ?_ (stops (.streamStarted statement) rfl)
      simp only [ConnectionWorld.enabled, unthrown, enabled, Bool.not_false,
        Bool.and_true]
  | sent returned own answered accepted registered =>
      exfalso
      cases at_ : world.accept with
      | idle =>
          rw [at_] at own
          cases own
      | ready channel =>
          refine stops .acceptInitiate rfl ?_
          simp only [ConnectionWorld.enabled, unthrown, at_, Bool.not_false,
            Bool.and_true]
      | waiting channel wait =>
          obtain ⟨_, same⟩ :=
            serving.accepting.sound.waiting channel wait at_
          rw [at_] at own
          obtain rfl := Option.some.inj (same.symm.trans own)
          have ends : world.acceptSlot.completes .success = true := by
            simp only [LockedSlot.completes, acceptSlot, at_, waitCompletes,
              answered, decide_true]
          refine stops (.acceptHandler .success) rfl ?_
          simp only [ConnectionWorld.enabled, unthrown, ends, Bool.not_false,
            Bool.and_true]

end Serving

variable {actions : List ConnectionAction} {world : ConnectionWorld O}

/-- An `async_accept` without an outcome is given the stream of the callback in
progress, in whatever order the statements of both run. -/
theorem accept_gets_stream (id : Nat) {stream : Hquic}
    (run : (connectionMachine O).Run serverContract actions world)
    (waits : world.accept.own = some id)
    (unanswered : world.ctx.accept.value? id = none)
    (brings : world.callback.stream = some stream) :
    (connectionMachine O).Inevitable serverContract ConnectionAction.serves
      (Served stream world.accepted) actions := by
  apply run.inevitable
    (fun _ after => after.Serves id stream world.accepted)
    (fun _ world => world.unserved)
    (.brought brings waits unanswered rfl)
  · intro actions world action before serves isOwn allowed
    exact (serving_of_run before).serves_step isOwn allowed serves
  · intro actions world before serves quiet
    exact (serving_of_run before).served_of_quiet quiet serves

/-- A second accept, called while the callback of a second stream waits. -/
def secondStream : List ConnectionAction :=
  [.accept, .event (.peerStreamStarted 7), .streamStarted .acquire,
    .streamStarted .assertAccept, .streamStarted .clearAccept,
    .streamStarted .setCallback, .acceptInitiate, .streamStarted .send,
    .acceptHandler .success, .event (.peerStreamStarted 9), .accept]

theorem accept_gets_stream_secondStream :
    (connectionMachine .reference).Inevitable serverContract
      ConnectionAction.serves (Served 9 [AcceptPart.streamMessage 7])
      secondStream :=
  accept_gets_stream 1 (Machine.run_of_checks secondStream (by decide))
    (by decide) (by decide) (by decide)

end ConnectionWorld

end MsquicAsio
