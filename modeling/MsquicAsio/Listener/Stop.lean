/-
Stopping a listener from the thread that also accepts.

`ListenerStop` waits for STOP_COMPLETE, STOP_COMPLETE waits for the callbacks
in progress, and a callback waits at the semaphore for an `async_accept` that
the thread inside `ListenerStop` cannot call.
-/
import MsquicAsio.Listener.HandOff

set_option autoImplicit false

namespace MsquicAsio

variable {O : Oneshot}

def ListenerAction.isCall : ListenerAction → Bool
  | .accept => true
  | .acceptInitiate => true
  | .stop => true
  | .stopInitiate => true
  | _ => false

namespace ListenerWorld

/-- One thread calls `async_accept` and `async_stop`, in any order.
`ListenerStop` returns only after STOP_COMPLETE, which comes only when no
NEW_CONNECTION callback is in progress. -/
def oneThread : Environment (ListenerWorld O) ListenerAction :=
  fun actions world action =>
    world.enabled action = true ∧
      (action.isCall = true → world.stopCall = .none) ∧
      (action = .listenerStopReturns → stopCompleted actions = true) ∧
      (action = .event .stopComplete →
        world.callbacks.all NewConnection.done = true)

instance (actions : List ListenerAction) (world : ListenerWorld O)
    (action : ListenerAction) : Decidable (oneThread actions world action) :=
  inferInstanceAs (Decidable (_ ∧ (_ → _) ∧ (_ → _) ∧ (_ → _)))

variable (world : ListenerWorld O)

/-- An `async_accept` waits for its connection: its flag is set, or a callback
that cleared the flag has not sent yet. -/
def outstanding : Bool :=
  world.ctx.pending.accept || decide (0 < world.sending)

/-- A callback is blocked at the semaphore, the counter is zero and no
`async_accept` is outstanding. -/
def Starved : Prop :=
  0 < world.waiting ∧ world.ctx.acceptBs = 0 ∧ world.outstanding = false

def Deadlocked : Prop := world.stopCall = .inside ∧ world.Starved

instance : Decidable world.Starved :=
  inferInstanceAs (Decidable (_ ∧ _ ∧ _))

instance : Decidable world.Deadlocked :=
  inferInstanceAs (Decidable (_ ∧ _))

variable {world}

/-- `ListenerStop` is not entered while a callback is starved, and while the
front end is inside, no callback comes to the semaphore, takes a permit or
ends an `async_accept` such that one at the semaphore is left without. -/
def LeavesNoneStarved (_ : List ListenerAction) (world : ListenerWorld O)
    (action : ListenerAction) : Prop :=
  match action with
  | .listenerStop => ¬world.Starved
  | .newConnection _ .unlock =>
      world.stopCall = .inside →
        0 < world.ctx.acceptBs ∨ world.outstanding = true
  | .newConnection _ .acquire =>
      world.stopCall = .inside →
        world.waiting = 1 ∨ 1 < world.ctx.acceptBs ∨ world.outstanding = true
  | .newConnection _ .send =>
      world.stopCall = .inside → world.ctx.accept.Live →
        world.waiting = 0 ∨ 0 < world.ctx.acceptBs ∨
          world.ctx.pending.accept = true ∨ 1 < world.sending
  | _ => True

private theorem outstanding_iff :
    world.outstanding = true ↔
      0 < world.ctx.pending.accept.toNat + world.sending := by
  unfold outstanding
  cases world.ctx.pending.accept with
  | false =>
      simp only [Bool.false_or, Bool.toNat_false, Nat.zero_add,
        decide_eq_true_eq]
  | true =>
      simp only [Bool.true_or, Bool.toNat_true, true_iff]
      omega

private theorem starved_iff :
    world.Starved ↔ 0 < world.waiting ∧
      world.ctx.acceptBs + world.ctx.pending.accept.toNat + world.sending =
        0 := by
  unfold Starved
  rw [← Bool.not_eq_true, outstanding_iff]
  omega

private theorem starved_moved (after : ListenerWorld O) {index : Nat}
    {before : NewConnection} (here : world.callbacks[index]? = some before)
    (connection : Hquic) (place : NewConnectionPlace)
    (moves : after.callbacks = world.moved index connection place) :
    after.Starved ↔
      before.waiting.toNat <
          world.waiting + (NewConnection.mk connection place).waiting.toNat ∧
        after.ctx.acceptBs + after.ctx.pending.accept.toNat + world.sending +
            (NewConnection.mk connection place).sending.toNat =
          before.sending.toNat := by
  have waits := count_moved here NewConnection.waiting connection place
  have sends := count_moved here NewConnection.sending connection place
  rw [← moves] at waits sends
  change after.waiting + _ = world.waiting + _ at waits
  change after.sending + _ = world.sending + _ at sends
  rw [starved_iff]
  omega

/-- One statement of a callback starves one in exactly the named cases. -/
private theorem newConnection_starves_iff {index : Nat} {connection : Hquic}
    {statement : NewConnectionStep}
    (running : world.Running index connection statement)
    (inside : world.stopCall = .inside) (safe : ¬world.Starved) :
    ¬(world.newConnection index statement).Starved ↔
      LeavesNoneStarved [] world (.newConnection index statement) := by
  rw [starved_iff] at safe
  -- three statements can starve a callback: one that brings a further one to
  -- the semaphore, one that takes the permit, and one that ends the accept
  cases running with
  | unlock here =>
      rw [starved_moved _ here connection .acquiring
        (by simp only [ListenerWorld.newConnection, here])]
      simp only [ListenerWorld.newConnection, here, LeavesNoneStarved, inside,
        outstanding_iff, forall_const]
      change ¬(0 < world.waiting + 1 ∧ _ + 0 = 0) ↔ _
      omega
  | acquire here permit =>
      have counted : 0 < world.waiting :=
        List.countP_pos_iff.mpr ⟨_, List.mem_of_getElem? here, rfl⟩
      rw [starved_moved _ here connection .acquired
        (by simp only [ListenerWorld.newConnection, here])]
      simp only [ListenerWorld.newConnection, here, LeavesNoneStarved, inside,
        outstanding_iff, forall_const]
      change ¬(1 < world.waiting + 0 ∧ _ + 0 = 0) ↔ _
      omega
  | assertAccept here =>
      rw [starved_moved _ here connection .asserted
        (by simp only [ListenerWorld.newConnection, here])]
      simp only [ListenerWorld.newConnection, here, LeavesNoneStarved, iff_true]
      change ¬(0 < world.waiting + 0 ∧ _ + 0 = 0)
      omega
  | clearAccept here =>
      rw [starved_moved _ here connection .cleared
        (by simp only [ListenerWorld.newConnection, here])]
      simp only [ListenerWorld.newConnection, here, LeavesNoneStarved, iff_true]
      change ¬(_ ∧ _ + 1 = 0)
      omega
  | setCallback here =>
      rw [starved_moved _ here connection .registered
        (by simp only [ListenerWorld.newConnection, here])]
      simp only [ListenerWorld.newConnection, here, LeavesNoneStarved, iff_true]
      change ¬(0 < world.waiting + 0 ∧ _ + 1 = 1)
      omega
  | setConfig here =>
      rw [starved_moved _ here connection .configured
        (by simp only [ListenerWorld.newConnection, here])]
      simp only [ListenerWorld.newConnection, here, LeavesNoneStarved, iff_true]
      change ¬(0 < world.waiting + 0 ∧ _ + 1 = 1)
      omega
  | send here =>
      by_cases live : world.ctx.accept.Live
      · have counted : 0 < world.sending :=
          List.countP_pos_iff.mpr ⟨_, List.mem_of_getElem? here, rfl⟩
        have sent := world.ctx.accept.send_of_live
          (.success, .assign connection) live
        rw [starved_moved _ here connection (.returned world.ctx.accept.tx)
          (by simp only [ListenerWorld.newConnection, here, sent])]
        simp only [ListenerWorld.newConnection, here, sent, LeavesNoneStarved,
          inside, live, forall_const]
        have raised : world.ctx.pending.accept = true ↔
            0 < world.ctx.pending.accept.toNat := by
          cases world.ctx.pending.accept <;> simp
        rw [raised]
        change ¬(0 < world.waiting + 0 ∧ _ + 0 = 1) ↔ _
        omega
      · have thrown := world.ctx.accept.send_of_not_live
          (.success, .assign connection) live
        simp only [ListenerWorld.newConnection, here, thrown,
          LeavesNoneStarved, live, false_implies, implies_true, iff_true]
        rw [starved_iff]
        exact safe

private theorem stopCall_newConnection (index : Nat)
    (statement : NewConnectionStep) :
    (world.newConnection index statement).stopCall = world.stopCall := by
  unfold ListenerWorld.newConnection
  split
  case h_7 => split <;> rfl
  all_goals rfl

private theorem deadlocks_iff_starves {actions : List ListenerAction}
    {action : ListenerAction} (allowed : oneThread actions world action)
    (safe : ¬world.Deadlocked) :
    ¬(world.step action).Deadlocked ↔
      LeavesNoneStarved actions world action := by
  obtain ⟨enabled, free, _, allDone⟩ := allowed
  simp only [ListenerWorld.enabled, Bool.and_eq_true] at enabled
  -- a call of the front end is made outside `ListenerStop` and ends there
  have outside : ∀ after : ListenerWorld O, after.stopCall ≠ .inside →
      ¬after.Deadlocked := fun _ out deadlocked => out deadlocked.1
  cases action with
  | event event =>
      refine iff_of_true ?_ trivial
      rintro ⟨inside, starves⟩
      rw [starved_iff] at starves
      apply safe
      refine ⟨inside, starved_iff.mpr ?_⟩
      cases event with
      | newConnection connection =>
          have waits := world.count_arrived connection
            NewConnection.waiting rfl
          have sends := world.count_arrived connection
            NewConnection.sending rfl
          change _ = world.waiting at waits
          change _ = world.sending at sends
          rw [← waits, ← sends]
          exact starves
      | stopComplete =>
          have noneWaits : world.waiting = 0 :=
            count_of_allDone (List.all_eq_true.mp (allDone rfl))
              (fun _ _ => rfl)
          exact absurd starves.1 (Nat.not_lt.mpr (Nat.le_of_eq noneWaits))
      | other => exact starves
  | newConnection index statement =>
      obtain ⟨connection, running⟩ := world.running_of_enabled enabled.2
      change ¬(world.newConnection index statement).Deadlocked ↔ _
      unfold Deadlocked at safe ⊢
      rw [stopCall_newConnection]
      by_cases inside : world.stopCall = .inside
      · have noneStarved : ¬world.Starved := fun starved =>
          safe ⟨inside, starved⟩
        have exact_ := newConnection_starves_iff running inside noneStarved
        simp only [inside, true_and]
        exact exact_
      · refine iff_of_true (fun both => inside both.1) ?_
        cases statement <;>
          first | exact trivial | exact fun impossible => absurd impossible inside
  | accept =>
      refine iff_of_true (outside _ ?_) trivial
      rw [step_accept]
      exact (free rfl).trans_ne (by simp)
  | stop =>
      refine iff_of_true (outside _ ?_) trivial
      rw [step_stop]
      split
      · exact (free rfl).trans_ne (by simp)
      · simp
  | acceptInitiate | stopInitiate =>
      refine iff_of_true (outside _ ?_) trivial
      simp only [step]
      split <;> exact (free rfl).trans_ne (by simp)
  | acceptHandler ec | stopHandler ec =>
      refine iff_of_true ?_ trivial
      simp only [step]
      split <;> exact safe
  | listenerStop =>
      have entered : (world.step .listenerStop).Deadlocked ↔ world.Starved :=
        and_iff_right rfl
      rw [entered]
      exact Iff.rfl
  | listenerStopReturns =>
      exact iff_of_true (outside _ (by simp [step])) trivial

private theorem not_deadlocked_initial :
    ¬(ListenerWorld.initial : ListenerWorld O).Deadlocked := by
  rintro ⟨impossible, _⟩
  cases impossible

/-- No state of a run has the front end inside `ListenerStop` with a starved
callback, exactly when no step of the run starves one there. -/
theorem stop_never_deadlocks_iff {actions : List ListenerAction}
    (run : (listenerMachine O).Run oneThread actions world) :
    (listenerMachine O).Throughout (fun _ world => ¬world.Deadlocked)
        actions ↔
      (listenerMachine O).EachStep LeavesNoneStarved actions := by
  apply run.throughout_iff not_deadlocked_initial
  intro actions world action _ _ allowed safe
  exact deadlocks_iff_starves allowed safe

/-- One connection is accepted, another arrives, and the listener is
stopped. -/
def stopBetweenAccepts : List ListenerAction :=
  [.accept, .acceptInitiate, .event (.newConnection 7),
    .newConnection 0 .unlock, .newConnection 0 .acquire,
    .newConnection 0 .assertAccept, .newConnection 0 .clearAccept,
    .newConnection 0 .setCallback, .newConnection 0 .setConfig,
    .newConnection 0 .send, .acceptHandler .success,
    .event (.newConnection 8), .newConnection 1 .unlock, .stop, .listenerStop]

theorem stopBetweenAccepts_deadlocks :
    (listenerMachine .reference).Run oneThread stopBetweenAccepts
        ((listenerMachine .reference).exec stopBetweenAccepts) ∧
      ((listenerMachine .reference).exec stopBetweenAccepts).Deadlocked :=
  ⟨Machine.run_of_checks stopBetweenAccepts (by decide), by decide⟩

/-- The stop comes while an accept waits, and a late connection takes it. -/
def stopWhileAccepting : List ListenerAction :=
  [.accept, .acceptInitiate, .stop, .listenerStop,
    .event (.newConnection 7), .newConnection 0 .unlock,
    .newConnection 0 .acquire, .newConnection 0 .assertAccept,
    .newConnection 0 .clearAccept, .newConnection 0 .setCallback,
    .newConnection 0 .setConfig, .newConnection 0 .send,
    .acceptHandler .success, .event .stopComplete, .listenerStopReturns,
    .stopInitiate, .stopHandler .success]

theorem stop_never_deadlocks_iff_stopWhileAccepting :
    (listenerMachine .reference).Throughout (fun _ world => ¬world.Deadlocked)
        stopWhileAccepting ↔
      (listenerMachine .reference).EachStep LeavesNoneStarved
        stopWhileAccepting :=
  stop_never_deadlocks_iff
    (Machine.run_of_checks stopWhileAccepting (by decide))

end ListenerWorld

end MsquicAsio
