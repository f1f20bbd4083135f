/-
No wakeup of an `async_accept` is lost.

Connections that arrive in parallel compete for the one permit of the call.
Whichever callback gets it goes on to send, so while a call waits and some
callback is in progress, every order of their statements ends with the call's
handler holding a connection.
-/
import MsquicAsio.Listener.WindDown

set_option autoImplicit false

namespace MsquicAsio

variable {O : Oneshot}

def ListenerAction.serves : ListenerAction → Bool
  | .newConnection _ _ => true
  | .acceptInitiate => true
  | .acceptHandler _ => true
  | _ => false

namespace ListenerWorld

def Served (id : Nat) (world : ListenerWorld O) : Prop :=
  ∃ connection, (some id, (.success, .assign connection)) ∈ world.accepted ∧
    ∃ index : Nat,
      world.callbacks[index]? = some ⟨connection, .returned (some id)⟩

def unserved (world : ListenerWorld O) : Nat :=
  (world.callbacks.map NewConnection.remaining).sum + world.accept.remaining

def Serves (id : Nat) (world : ListenerWorld O) : Prop :=
  (∃ message, (some id, message) ∈ world.accepted ∧ message.1 = .success) ∨
    world.accept.own = some id ∧
      (∀ message, world.ctx.accept.value? id = some message →
        message.1 = .success) ∧
      (world.ctx.accept.value? id = none →
        ∃ callback ∈ world.callbacks, callback.done = false)

namespace Listening

variable {world : ListenerWorld O} {actions : List ListenerAction}
  {stopped : Bool} {id : Nat}

private theorem serves_newConnection (listening : world.Listening stopped)
    {index : Nat} {connection : Hquic} {statement : NewConnectionStep}
    (running : world.Running index connection statement)
    (serves : world.Serves id) :
    (world.newConnection index statement).Serves id := by
  obtain ⟨before, place, moves⟩ := listening.movesOn_newConnection running
  rcases serves with ⟨message, member, success⟩ | ⟨own, onlySuccess, _⟩
  · left
    rw [moves.accepted]
    exact ⟨message, member, success⟩
  · right
    rw [moves.accept]
    refine ⟨own, ?_⟩
    rcases moves.answers with ⟨samePort, running⟩ | ⟨other, ownThere, held⟩
    · rw [samePort]
      refine ⟨onlySuccess, fun _ => ⟨⟨connection, place⟩, ?_, running⟩⟩
      rw [moves.moved]
      exact List.mem_of_getElem? (moved_self moves.here connection place)
    · obtain rfl := Option.some.inj (own.symm.trans ownThere)
      refine ⟨?_, ?_⟩
      · intro message there
        obtain rfl := Option.some.inj (held.symm.trans there)
        rfl
      · intro none
        rw [held] at none
        cases none

private theorem serves_step
    (listening : world.Listening (stopCompleted actions))
    {action : ListenerAction} (isOwn : action.serves = true)
    (allowed : oneCall actions world action) (serves : world.Serves id) :
    (world.step action).Serves id ∧
      (world.step action).unserved < world.unserved := by
  have enabled := allowed.1
  simp only [ListenerWorld.enabled, Bool.and_eq_true] at enabled
  cases action with
  | event | accept | stop | listenerStop | listenerStopReturns | stopInitiate
  | stopHandler => cases isOwn
  | newConnection index statement =>
      obtain ⟨connection, running⟩ := world.running_of_enabled enabled.2
      refine ⟨listening.serves_newConnection running serves, ?_⟩
      obtain ⟨before, place, moves⟩ := listening.movesOn_newConnection running
      have counted := sum_remaining_set moves.here ⟨connection, place⟩
      have nearer := moves.nearer
      change ((world.moved index connection place).map _).sum + _ = _ at counted
      simp only [unserved, ListenerWorld.step, moves.moved, moves.accept]
      omega
  | acceptInitiate =>
      obtain ⟨op, initiated, _, sameOwn⟩ := listening.accept.initiate enabled.2
      have lower := LockedSlot.remaining_initiate enabled.2 initiated
      change op.remaining < world.accept.remaining at lower
      simp only [unserved, ListenerWorld.step, initiated]
      refine ⟨?_, by omega⟩
      rcases serves with done | ⟨own, waits⟩
      · exact Or.inl done
      · exact Or.inr ⟨sameOwn.trans own, waits⟩
  | acceptHandler ec =>
      obtain ⟨other, message, own, held, handled, _⟩ :=
        listening.accept.handler enabled.2
      have lower := LockedSlot.remaining_handler enabled.2
      change _ < world.accept.remaining at lower
      simp only [unserved, ListenerWorld.step, handled]
      refine ⟨Or.inl ?_, by omega⟩
      rcases serves with ⟨earlier, member, success⟩ | ⟨sameOwn, onlySuccess, _⟩
      · exact ⟨earlier, List.mem_append_left _ member, success⟩
      · change world.accept.own = some other at own
        obtain rfl := Option.some.inj (sameOwn.symm.trans own)
        refine ⟨message, List.mem_append_right _ ?_, onlySuccess message held⟩
        rw [Option.getD_some, own]
        exact List.mem_singleton_self _

private theorem served_of_quiet (listening : world.Listening false)
    (stuck : ∀ index statement,
      world.newConnectionEnabled index statement = false)
    (noInitiate : (world.acceptSlot.op matches .ready _) = false)
    (noHandler : world.acceptSlot.completes .success = false)
    (serves : world.Serves id) : world.Served id := by
  have served : ∃ message, (some id, message) ∈ world.accepted ∧
      message.1 = .success := by
    rcases serves with done | ⟨own, _, unanswered⟩
    · exact done
    · exfalso
      have busy : world.accept ≠ .idle := by
        intro idle
        rw [idle] at own
        cases own
      have raised : world.acceptSlot.pending = true := by
        by_contra low
        rcases listening.accept.goesOn (Bool.eq_false_iff.mpr low) busy with
          ready | ends
        · exact Bool.false_ne_true (noInitiate.symm.trans ready)
        · exact Bool.false_ne_true (noHandler.symm.trans ends)
      obtain ⟨other, sameOwn, _, live⟩ := listening.accept.settles.armed raised
      change world.accept.own = some other at sameOwn
      obtain rfl := Option.some.inj (own.symm.trans sameOwn)
      obtain ⟨callback, member, running⟩ := unanswered live.2
      -- that callback has no permit, and nobody else holds one
      have waits : ∀ {callback}, callback ∈ world.callbacks →
          callback.passed = false ∧ callback.sending = false := by
        rintro ⟨connection, place⟩ member
        rcases callback_of_stuck stuck member with done | ⟨arrives, _⟩
        · cases place <;> first | exact ⟨rfl, rfl⟩ | cases done
        · cases place <;> first | exact ⟨rfl, rfl⟩ | cases arrives
      have nonePassed : world.passed = 0 := by
        rw [ListenerWorld.passed, List.countP_eq_zero]
        intro callback member
        rw [(waits member).1]
        exact Bool.false_ne_true
      have noneSending : world.sending = 0 := by
        rw [ListenerWorld.sending, List.countP_eq_zero]
        intro callback member
        rw [(waits member).2]
        exact Bool.false_ne_true
      have flag : world.ctx.pending.accept = true := by
        simpa only [acceptSlot, noneSending, Nat.lt_irrefl, decide_false,
          Bool.or_false] using raised
      have permits := listening.permits rfl
      rw [nonePassed, flag, Bool.toNat_true] at permits
      rcases callback_of_stuck stuck member with done | ⟨_, noPermit⟩
      · rw [running] at done
        cases done
      · omega
  obtain ⟨message, member, success⟩ := served
  obtain ⟨other, same, held⟩ := listening.received.own _ member
  obtain rfl := Option.some.inj same
  obtain ⟨index, connection, here, rfl⟩ :=
    listening.handed.only id message held success
  exact ⟨connection, member, index, here⟩

end Listening

variable {actions : List ListenerAction} {world : ListenerWorld O} {id : Nat}

/-- An `async_accept` without an outcome is served by the callbacks in
progress, in whatever order their statements run. -/
theorem accept_served
    (run : (listenerMachine O).Run oneCall actions world)
    (waits : world.accept.own = some id)
    (unanswered : world.ctx.accept.value? id = none)
    (arrived : ∃ callback ∈ world.callbacks, callback.done = false) :
    (listenerMachine O).Inevitable oneCall ListenerAction.serves (Served id)
      actions := by
  have listening := listening_of_run run
  have isOpen : stopCompleted actions = false := by
    obtain ⟨callback, member, running⟩ := arrived
    obtain ⟨index, here⟩ := List.getElem?_of_mem member
    exact listening.open_of_running here running
  apply run.inevitable
    (fun actions world => stopCompleted actions = false ∧ world.Serves id)
    (fun _ world => world.unserved)
  · refine ⟨isOpen, Or.inr ⟨waits, ?_, fun _ => arrived⟩⟩
    intro message held
    rw [unanswered] at held
    cases held
  · intro actions world action before ⟨isOpen, serves⟩ isOwn allowed
    obtain ⟨kept, lower⟩ :=
      (listening_of_run before).serves_step isOwn allowed serves
    refine ⟨⟨?_, kept⟩, lower⟩
    rw [stopCompleted_other]
    · exact isOpen
    · rintro rfl
      cases isOwn
  · intro actions world before ⟨isOpen, serves⟩ quiet
    have listening := listening_of_run before
    rw [isOpen] at listening
    have stops : ∀ action, ListenerAction.serves action = true →
        delivers actions world action = true → world.enabled action = false := by
      intro action isOwn delivered
      apply Bool.eq_false_iff.mpr
      intro enabled
      refine quiet action isOwn ⟨enabled, delivered, ?_, ?_⟩
      · rintro rfl
        cases isOwn
      · rintro rfl
        cases isOwn
    simp only [ListenerWorld.enabled, listening.noThrow, Bool.not_false,
      Bool.true_and] at stops
    exact listening.served_of_quiet
      (fun index statement => stops (.newConnection index statement) rfl rfl)
      (stops .acceptInitiate rfl rfl) (stops (.acceptHandler .success) rfl rfl)
      serves

def threeCompete : List ListenerAction :=
  [.event (.newConnection 7), .event (.newConnection 8), .accept,
    .newConnection 1 .unlock, .event (.newConnection 9),
    .newConnection 0 .unlock, .newConnection 1 .acquire]

theorem accept_served_threeCompete :
    (listenerMachine .reference).Inevitable oneCall ListenerAction.serves
      (Served 0) threeCompete :=
  accept_served (Machine.run_of_checks threeCompete (by decide)) (by decide)
    (by decide) ⟨⟨7, .acquiring⟩, by decide, rfl⟩

end ListenerWorld

end MsquicAsio
