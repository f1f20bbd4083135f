/-
A listener that is stopped comes to rest, unless more connections have arrived
than `async_accept` was called for.

STOP_COMPLETE is delivered when no NEW_CONNECTION callback is in progress, and
each of them needs a permit of its own to return.  Permits come only with
further calls of `async_accept`.
-/
import Mathlib.Algebra.Ring.Nat
import MsquicAsio.Lib.Progress
import MsquicAsio.Remaining
import MsquicAsio.Listener.HandOff

set_option autoImplicit false

namespace MsquicAsio

variable {O : Oneshot}

def ListenerAction.winds : ListenerAction → Bool
  | .event .stopComplete => true
  | .event _ => false
  | .accept => false
  | .stop => false
  | _ => true

def NewConnection.remaining (callback : NewConnection) : Nat :=
  match callback.place with
  | .entered => 7
  | .acquiring => 6
  | .acquired => 5
  | .asserted => 4
  | .cleared => 3
  | .registered => 2
  | .configured => 1
  | .returned _ => 0

def NewConnection.arriving (callback : NewConnection) : Bool :=
  match callback.place with
  | .entered => true
  | .acquiring => true
  | _ => false

def StopCall.remaining : StopCall → Nat
  | .none => 0
  | .unlocked => 2
  | .inside => 1

theorem sum_remaining_set {callbacks : List NewConnection} {index : Nat}
    {before : NewConnection} (here : callbacks[index]? = some before)
    (after : NewConnection) :
    ((callbacks.set index after).map NewConnection.remaining).sum +
        before.remaining =
      (callbacks.map NewConnection.remaining).sum + after.remaining := by
  induction callbacks generalizing index with
  | nil => cases here
  | cons first rest ih =>
      cases index with
      | zero =>
          obtain rfl := Option.some.inj here
          simp only [List.set_cons_zero, List.map_cons, List.sum_cons]
          omega
      | succ index =>
          have further := ih here
          simp only [List.set_cons_succ, List.map_cons, List.sum_cons]
          omega

namespace ListenerWorld

/-- The contract of the hand-off, with `ListenerStop` returning only after
STOP_COMPLETE. -/
def stopContract : Environment (ListenerWorld O) ListenerAction :=
  fun actions world action =>
    oneCall actions world action ∧
      (action = .listenerStopReturns → stopCompleted actions = true)

instance (actions : List ListenerAction) (world : ListenerWorld O)
    (action : ListenerAction) :
    Decidable (stopContract actions world action) :=
  inferInstanceAs (Decidable (_ ∧ (_ → _)))

def arriving (world : ListenerWorld O) : Nat :=
  world.callbacks.countP NewConnection.arriving

/-- There is a permit for each callback that needs one. -/
def Provided (world : ListenerWorld O) : Prop :=
  world.arriving ≤ world.ctx.acceptBs

instance (world : ListenerWorld O) : Decidable world.Provided :=
  inferInstanceAs (Decidable (_ ≤ _))

/-- The listener is stopped, its callbacks have returned, and the handler of
every call was invoked. -/
structure AtRest (world : ListenerWorld O) : Prop where
  stopped : world.ctx.state = .stopped
  callbacks : ∀ callback ∈ world.callbacks, callback.done = true
  accept : world.accept = .idle
  stop : world.stop = .idle
  stopCall : world.stopCall = .none

def stillOpen (actions : List ListenerAction) : Nat :=
  (!stopCompleted actions).toNat

def remaining (actions : List ListenerAction) (world : ListenerWorld O) : Nat :=
  (world.callbacks.map NewConnection.remaining).sum + world.accept.remaining +
    world.stop.remaining + world.stopCall.remaining + stillOpen actions

theorem listening_of_stopContract {actions : List ListenerAction}
    {world : ListenerWorld O}
    (run : (listenerMachine O).Run stopContract actions world) :
    world.Listening (stopCompleted actions) :=
  listening_of_run (run.mono fun _ _ _ allowed => allowed.1)

/-- One callback moves from where it was to `place`.  Only the semaphore makes
a difference to those that arrive, and only the last statement to
`async_accept`, which it answers. -/
structure MovesOn (world after : ListenerWorld O) (index : Nat)
    (connection : Hquic) (before : NewConnection)
    (place : NewConnectionPlace) : Prop where
  here : world.callbacks[index]? = some before
  moved : after.callbacks = world.moved index connection place
  nearer : (NewConnection.mk connection place).remaining < before.remaining
  permits : before.arriving.toNat + after.ctx.acceptBs =
    (NewConnection.mk connection place).arriving.toNat + world.ctx.acceptBs
  accept : after.accept = world.accept
  stop : after.stop = world.stop
  stopCall : after.stopCall = world.stopCall
  accepted : after.accepted = world.accepted
  answers : after.ctx.accept = world.ctx.accept ∧
      (NewConnection.mk connection place).done = false ∨
    ∃ id, world.accept.own = some id ∧
      after.ctx.accept.value? id = some (.success, .assign connection)

namespace Listening

variable {world : ListenerWorld O} {actions : List ListenerAction}
  {index : Nat} {connection : Hquic}

theorem movesOn_newConnection {stopped : Bool}
    (listening : world.Listening stopped) {statement : NewConnectionStep}
    (running : world.Running index connection statement) :
    ∃ before place,
      world.MovesOn (world.newConnection index statement) index connection
        before place := by
  cases running with
  | unlock here | assertAccept here | clearAccept here | setCallback here
  | setConfig here =>
      refine ⟨_, _,
        { here := here
          moved := by simp only [ListenerWorld.newConnection, here]; rfl
          nearer := ?_, permits := ?_, accept := ?_, stop := ?_
          stopCall := ?_, accepted := ?_, answers := ?_ }⟩
      · exact Nat.lt_succ_self _
      all_goals simp only [ListenerWorld.newConnection, here]
      · rfl
      · exact Or.inl ⟨trivial, rfl⟩
  | acquire here permit =>
      refine ⟨_, _,
        { here := here
          moved := by simp only [ListenerWorld.newConnection, here]; rfl
          nearer := ?_, permits := ?_, accept := ?_, stop := ?_
          stopCall := ?_, accepted := ?_, answers := ?_ }⟩
      · exact Nat.lt_succ_self _
      all_goals simp only [ListenerWorld.newConnection, here]
      · change 1 + (world.ctx.acceptBs - 1) = 0 + world.ctx.acceptBs
        omega
      · exact Or.inl ⟨trivial, rfl⟩
  | send here =>
      obtain ⟨id, own, txAt, live⟩ := listening.send_live here rfl
      have sent := world.ctx.accept.send_of_live
        (.success, .assign connection) ⟨id, txAt, live⟩
      refine ⟨_, _,
        { here := here
          moved := by simp only [ListenerWorld.newConnection, here, sent]; rfl
          nearer := ?_, permits := ?_, accept := ?_, stop := ?_
          stopCall := ?_, accepted := ?_, answers := ?_ }⟩
      · exact Nat.zero_lt_one
      all_goals simp only [ListenerWorld.newConnection, here, sent]
      · rfl
      · right
        refine ⟨id, own, ?_⟩
        have values := (world.ctx.accept.afterSend_of_live
          (.success, .assign connection) txAt live).2.2.2.2 id
        rwa [if_pos rfl] at values

/-- Each statement, and STOP_COMPLETE, brings the listener nearer to rest. -/
theorem remaining_step (listening : world.Listening (stopCompleted actions))
    {action : ListenerAction} (winds : action.winds = true)
    (allowed : stopContract actions world action) :
    (world.step action).remaining (actions ++ [action]) <
      world.remaining actions := by
  obtain ⟨⟨enabled, delivered, _, _⟩, _⟩ := allowed
  simp only [ListenerWorld.enabled, Bool.and_eq_true] at enabled
  have other : action ≠ .event .stopComplete →
      stillOpen (actions ++ [action]) = stillOpen actions := by
    intro different
    rw [stillOpen, stopCompleted_other different]
    rfl
  cases action with
  | accept | stop => cases winds
  | event event =>
      cases event with
      | newConnection | other => cases winds
      | stopComplete =>
          have isOpen := (Bool.and_eq_true_iff.mp delivered).1
          rw [world.step_event .stopComplete listening.guarded]
          simp only [remaining, stillOpen, stopCompleted_self, isOpen,
            Bool.not_true, Bool.toNat_false, Bool.toNat_true]
          omega
  | newConnection index statement =>
      obtain ⟨connection, running⟩ := world.running_of_enabled enabled.2
      -- an accept that the last statement answers keeps its own statements
      obtain ⟨before, place, moves⟩ := listening.movesOn_newConnection running
      have counted := sum_remaining_set moves.here ⟨connection, place⟩
      have nearer := moves.nearer
      change ((world.moved index connection place).map _).sum + _ = _ at counted
      rw [remaining, other (by simp)]
      simp only [remaining, ListenerWorld.step, moves.moved, moves.accept,
        moves.stop, moves.stopCall]
      omega
  | acceptInitiate =>
      obtain ⟨op, initiated, _⟩ := listening.accept.initiate enabled.2
      have lower := LockedSlot.remaining_initiate enabled.2 initiated
      change op.remaining < world.accept.remaining at lower
      rw [remaining, other (by simp)]
      simp only [remaining, ListenerWorld.step, initiated]
      omega
  | acceptHandler ec =>
      obtain ⟨id, message, _, _, handled, _⟩ :=
        listening.accept.handler enabled.2
      have lower := LockedSlot.remaining_handler enabled.2
      change _ < world.accept.remaining at lower
      rw [remaining, other (by simp)]
      simp only [remaining, ListenerWorld.step, handled]
      omega
  | listenerStop =>
      have unlocked := of_decide_eq_true enabled.2
      rw [remaining, other (by simp)]
      simp only [remaining, ListenerWorld.step, unlocked, StopCall.remaining]
      omega
  | listenerStopReturns =>
      have inside := of_decide_eq_true enabled.2
      rw [remaining, other (by simp)]
      simp only [remaining, ListenerWorld.step, inside, StopCall.remaining]
      omega
  | stopInitiate =>
      have ready := (Bool.and_eq_true_iff.mp enabled.2).1
      obtain ⟨op, initiated, _⟩ := listening.stop.initiate ready
      have lower := LockedSlot.remaining_initiate ready initiated
      change op.remaining < world.stop.remaining at lower
      rw [remaining, other (by simp)]
      simp only [remaining, ListenerWorld.step, initiated]
      omega
  | stopHandler ec =>
      obtain ⟨id, message, _, _, handled, _⟩ :=
        listening.stop.handler enabled.2
      have lower := LockedSlot.remaining_handler enabled.2
      change _ < world.stop.remaining at lower
      rw [remaining, other (by simp)]
      simp only [remaining, ListenerWorld.step, handled]
      omega

/-- Without a further call or connection, permits and the callbacks that need
them decrease together. -/
theorem provided_step (listening : world.Listening (stopCompleted actions))
    {action : ListenerAction} (winds : action.winds = true)
    (allowed : stopContract actions world action) :
    (world.step action).Provided ↔ world.Provided := by
  obtain ⟨⟨enabled, _⟩, _⟩ := allowed
  simp only [ListenerWorld.enabled, Bool.and_eq_true] at enabled
  cases action with
  | accept | stop => cases winds
  | event event =>
      cases event with
      | newConnection | other => cases winds
      | stopComplete =>
          rw [world.step_event .stopComplete listening.guarded]
          rfl
  | newConnection index statement =>
      obtain ⟨connection, running⟩ := world.running_of_enabled enabled.2
      obtain ⟨before, place, moves⟩ := listening.movesOn_newConnection running
      have permits := moves.permits
      have counted := count_moved moves.here NewConnection.arriving connection
        place
      rw [← moves.moved] at counted
      change (world.newConnection index statement).arriving + _ =
        world.arriving + _ at counted
      change (world.newConnection index statement).arriving ≤
        (world.newConnection index statement).ctx.acceptBs ↔
          world.arriving ≤ world.ctx.acceptBs
      omega
  | listenerStop | listenerStopReturns => exact Iff.rfl
  | acceptInitiate | acceptHandler | stopInitiate | stopHandler =>
      simp only [ListenerWorld.step]
      split <;> exact Iff.rfl

private theorem not_enabled_of_quiet
    (quiet : Machine.Quiet stopContract ListenerAction.winds actions world)
    (action : ListenerAction) (winds : action.winds = true)
    (delivered : delivers actions world action = true)
    (returns : action = .listenerStopReturns → stopCompleted actions = true) :
    world.enabled action ≠ true := by
  intro enabled
  refine quiet action winds ⟨⟨enabled, delivered, ?_, ?_⟩, returns⟩
  · rintro rfl
    cases winds
  · rintro rfl
    cases winds

/-- When no callback can run its next statement, each has returned or waits
without a permit. -/
theorem callback_of_stuck
    (stuck : ∀ index statement,
      world.newConnectionEnabled index statement = false)
    {callback : NewConnection} (member : callback ∈ world.callbacks) :
    callback.done = true ∨
      callback.arriving = true ∧ world.ctx.acceptBs = 0 := by
  obtain ⟨index, here⟩ := List.getElem?_of_mem member
  have stops := stuck index
  obtain ⟨connection, place⟩ := callback
  cases place with
  | returned into => exact Or.inl rfl
  | acquiring =>
      have noPermit := stops .acquire
      simp only [newConnectionEnabled, here, decide_eq_false_iff_not] at noPermit
      exact Or.inr ⟨rfl, Nat.eq_zero_of_not_pos noPermit⟩
  | entered =>
      have stuck := stops .unlock
      simp only [newConnectionEnabled, here, Bool.true_eq_false] at stuck
  | acquired =>
      have stuck := stops .assertAccept
      simp only [newConnectionEnabled, here, Bool.true_eq_false] at stuck
  | asserted =>
      have stuck := stops .clearAccept
      simp only [newConnectionEnabled, here, Bool.true_eq_false] at stuck
  | cleared =>
      have stuck := stops .setCallback
      simp only [newConnectionEnabled, here, Bool.true_eq_false] at stuck
  | registered =>
      have stuck := stops .setConfig
      simp only [newConnectionEnabled, here, Bool.true_eq_false] at stuck
  | configured =>
      have stuck := stops .send
      simp only [newConnectionEnabled, here, Bool.true_eq_false] at stuck

theorem atRest_of_quiet (listening : world.Listening (stopCompleted actions))
    (quiet : Machine.Quiet stopContract ListenerAction.winds actions world)
    (provided : world.Provided) : world.AtRest := by
  have noThrow := listening.noThrow
  have stuck : ∀ index statement,
      world.newConnectionEnabled index statement = false := by
    intro index statement
    apply Bool.eq_false_iff.mpr
    intro enabled
    apply not_enabled_of_quiet quiet (.newConnection index statement) rfl rfl
      (by simp)
    simp only [ListenerWorld.enabled, noThrow, enabled, Bool.not_false,
      Bool.and_true]
  -- a callback that is stuck waits for a permit, and each one has its own
  have allDone : ∀ callback ∈ world.callbacks, callback.done = true := by
    intro callback member
    rcases callback_of_stuck stuck member with done | ⟨arrives, none⟩
    · exact done
    · have counted : 0 < world.arriving :=
        List.countP_pos_iff.mpr ⟨callback, member, arrives⟩
      unfold Provided at provided
      omega
  -- with all callbacks back, STOP_COMPLETE could come if it had not
  have completed : stopCompleted actions = true := by
    by_contra isOpen
    apply not_enabled_of_quiet quiet (.event .stopComplete) rfl _ (by simp)
    · simp only [ListenerWorld.enabled, noThrow, Bool.not_false, Bool.and_true]
    · simp only [delivers, Bool.eq_false_iff.mpr isOpen, Bool.not_false,
        Bool.true_and, List.all_eq_true]
      exact allDone
  have runs := not_enabled_of_quiet quiet
  rw [completed] at listening
  -- after it no flag is raised, so a call in progress could go on
  obtain ⟨low, stopLow, _⟩ := listening.down rfl
  have nobody : world.sending = 0 := count_of_allDone allDone (fun _ _ => rfl)
  have lowered : world.acceptSlot.pending = false := by
    simp only [acceptSlot, low, nobody, Nat.lt_irrefl, decide_false,
      Bool.or_false]
  have outside : world.stopCall = .none := by
    cases at_ : world.stopCall with
    | none => rfl
    | unlocked =>
        refine absurd ?_ (runs .listenerStop rfl rfl (by simp))
        simp only [ListenerWorld.enabled, noThrow, at_, decide_true,
          Bool.not_false, Bool.and_true]
    | inside =>
        refine absurd ?_ (runs .listenerStopReturns rfl rfl fun _ => completed)
        simp only [ListenerWorld.enabled, noThrow, at_, decide_true,
          Bool.not_false, Bool.and_true]
  refine
    { stopped := listening.state.mpr rfl
      callbacks := allDone
      accept := ?_
      stop := ?_
      stopCall := outside }
  · by_contra busy
    rcases listening.accept.goesOn lowered busy with ready | ends
    · refine runs .acceptInitiate rfl rfl (by simp) ?_
      simp only [ListenerWorld.enabled, noThrow, Bool.not_false, Bool.true_and]
      exact ready
    · refine runs (.acceptHandler .success) rfl rfl (by simp) ?_
      simp only [ListenerWorld.enabled, noThrow, ends, Bool.not_false,
        Bool.and_true]
  · by_contra busy
    rcases listening.stop.goesOn stopLow busy with ready | ends
    · refine runs .stopInitiate rfl rfl (by simp) ?_
      simp only [ListenerWorld.enabled, noThrow, outside, decide_true,
        Bool.not_false, Bool.true_and, Bool.and_true]
      exact ready
    · refine runs (.stopHandler .success) rfl rfl (by simp) ?_
      simp only [ListenerWorld.enabled, noThrow, ends, Bool.not_false,
        Bool.and_true]

end Listening

variable {actions : List ListenerAction} {world : ListenerWorld O}

theorem provided_of_atRest (atRest : world.AtRest) : world.Provided := by
  have nobody : world.arriving = 0 :=
    count_of_allDone atRest.callbacks (fun _ _ => rfl)
  rw [Provided, nobody]
  exact Nat.zero_le _

/-- In every order of the outstanding statements and of STOP_COMPLETE the
listener comes to rest, exactly if there is a permit for each callback that has
not passed the semaphore. -/
theorem stops_at_rest_iff
    (run : (listenerMachine O).Run stopContract actions world) :
    (listenerMachine O).Inevitable stopContract ListenerAction.winds AtRest
        actions ↔ world.Provided := by
  have listening := listening_of_stopContract run
  constructor
  · intro inevitable
    by_contra starved
    refine Machine.not_inevitable
      (fun actions world =>
        world.Listening (stopCompleted actions) ∧ ¬world.Provided) run
      ⟨listening, starved⟩ ?_ ?_ inevitable
    · intro actions world action _ ⟨listening, starved⟩ winds allowed
      exact ⟨listening_step listening allowed.1,
        fun provided => starved ((listening.provided_step winds allowed).mp
          provided)⟩
    · intro actions world ⟨_, starved⟩ atRest
      exact starved (provided_of_atRest atRest)
  · intro provided
    apply run.inevitable
      (fun actions world =>
        world.Listening (stopCompleted actions) ∧ world.Provided) remaining
      ⟨listening, provided⟩
    · intro actions world action _ ⟨listening, provided⟩ winds allowed
      exact ⟨⟨listening_step listening allowed.1,
        (listening.provided_step winds allowed).mpr provided⟩,
        listening.remaining_step winds allowed⟩
    · intro actions world _ ⟨listening, provided⟩ quiet
      exact listening.atRest_of_quiet quiet provided

/-- The listener is stopped while an accept waits and a connection has just
arrived. -/
def stopOnArrival : List ListenerAction :=
  [.accept, .event (.newConnection 7), .stop, .newConnection 0 .unlock,
    .listenerStop]

theorem stops_at_rest_iff_stopOnArrival :
    (listenerMachine .reference).Inevitable stopContract ListenerAction.winds
      AtRest stopOnArrival :=
  (stops_at_rest_iff (Machine.run_of_checks stopOnArrival (by decide))).mpr
    (by decide)

end ListenerWorld

end MsquicAsio
