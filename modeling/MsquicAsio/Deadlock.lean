/-
A connection and its accepted streams on one callback thread.

The PEER_STREAM_STARTED callback waits for `async_accept` on the callback
thread.  Until the front end calls it no other event of the connection or of its
streams is delivered, so an operation that waits for such an event waits as
well.
-/
import Mathlib.Logic.Function.Basic
import MsquicAsio.Connection.Machine
import MsquicAsio.Stream.Machine

set_option autoImplicit false

namespace MsquicAsio

variable {O : Oneshot}

namespace StreamWorld

def waits (world : StreamWorld O) : Bool :=
  world.ctx.pending.receiveFrontend || world.sendOwed ||
    world.ctx.pending.shutdown

/-- Program order, but a locked call may start at any time. -/
def available (world : StreamWorld O) (action : StreamAction) : Bool :=
  match action with
  | .receive _ _ => !world.threw
  | .shutdown _ => !world.threw
  | _ => world.enabled action

def starts (world : StreamWorld O) : StreamAction → Bool
  | .receive _ _ =>
      !world.ctx.pending.receiveBackend && decide (world.ctx.state = .ok)
  | .send statement => statement.accepted
  | .shutdown status =>
      decide (world.ctx.state ≠ .shutdownComplete) && !status.quicFailed
  | _ => false

end StreamWorld

structure ServerWorld (O : Oneshot) where
  conn : ConnectionWorld O
  streams : Hquic → StreamWorld O

inductive ServerAction
  | conn (action : ConnectionAction)
  | stream (stream : Hquic) (action : StreamAction)
  deriving DecidableEq

namespace ServerWorld

variable (world : ServerWorld O)

def initial : ServerWorld O where
  conn := .initial
  streams := fun _ => .initial

def step (action : ServerAction) : ServerWorld O :=
  match action with
  | .conn action => { world with conn := world.conn.step action }
  | .stream stream action =>
      { world with
        streams := Function.update world.streams stream
          ((world.streams stream).step action) }

def accepted (stream : Hquic) : Bool :=
  world.conn.accepted.any (fun message => decide (message.2.h = some stream))

/-- The callback thread waits on `accept_bs_` and no `async_accept` is
outstanding. -/
def Blocked : Prop :=
  (∃ stream, world.conn.callback = .acquiring stream) ∧
    world.conn.ctx.acceptBs = 0 ∧ world.conn.ctx.pending.accept = false

def Waits : Prop :=
  world.conn.ctx.pending.shutdown = true ∨
    ∃ stream, world.accepted stream = true ∧
      (world.streams stream).waits = true

def Deadlocked : Prop :=
  world.Blocked ∧ world.Waits

def Starts : ServerAction → Prop
  | .conn .shutdown => world.conn.ctx.state ≠ .shutdownComplete
  | .conn _ => False
  | .stream stream action => (world.streams stream).starts action = true

/-- One callback runs at a time on the whole connection, and the front end uses
the streams it has accepted. -/
def allowed (action : ServerAction) : Bool :=
  match action with
  | .conn action => world.conn.enabled action
  | .stream stream (.event event) =>
      (world.conn.callback matches .returned) &&
        decide (stream ∈ world.conn.callbacks) &&
        (world.streams stream).available (.event event)
  | .stream stream action =>
      world.accepted stream && (world.streams stream).available action

end ServerWorld

def serverMachine (O : Oneshot) : Machine (ServerWorld O) ServerAction where
  initial := .initial
  step := ServerWorld.step

def oneThread : Environment (ServerWorld O) ServerAction :=
  fun _ world action => world.allowed action = true

instance (actions : List ServerAction) (world : ServerWorld O)
    (action : ServerAction) : Decidable (oneThread actions world action) :=
  inferInstanceAs (Decidable (_ = _))

/-! ### What a step of a stream changes -/

namespace StreamWorld

variable {world : StreamWorld O}

private theorem waits_event (event : StreamEvent)
    (quiet : world.waits = false) :
    (world.deliver event).waits = false := by
  simp only [waits, Bool.or_eq_false_iff] at quiet
  obtain ⟨⟨frontend, sendOwed⟩, shutdown⟩ := quiet
  have guarded : world.ctx.Guarded := by
    constructor
    · intro raised
      rw [frontend] at raised
      cases raised
    · intro raised
      rw [shutdown] at raised
      cases raised
  simp only [deliver, world.ctx.finalState_callback event guarded, waits,
    sendOwed, Bool.false_and]
  cases event <;>
    simp [AsioServerStreamCtx.after, AsioServerStreamCtx.afterTerminal,
      frontend, shutdown]

private theorem waits_receive (lpBuffer : List UInt8) (bufferLen : Nat) :
    (world.step (.receive lpBuffer bufferLen)).waits =
      (world.waits || world.starts (.receive lpBuffer bufferLen)) := by
  simp only [step, world.ctx.asyncReceive_eq, Exec.finalState, waits, starts]
  cases backend : world.ctx.pending.receiveBackend with
  | true =>
      simp only [if_true, Bool.not_true, Bool.false_and, Bool.or_false]
  | false =>
      simp only [AsioServerStreamCtx.afterFirstReader, Bool.false_eq_true,
        if_false, Bool.not_false, Bool.true_and]
      by_cases open_ : world.ctx.state = .ok
      · simp only [open_, if_true, decide_true, Bool.true_or, Bool.or_true]
      · simp only [open_, if_false, decide_false, Bool.or_false]

private theorem waits_shutdown (status : QuicStatus) :
    (world.step (.shutdown status)).waits =
      (world.waits || world.starts (.shutdown status)) := by
  simp only [step, world.ctx.asyncShutdown_eq, Exec.finalState, waits, starts]
  by_cases complete : world.ctx.state = .shutdownComplete
  · simp only [complete, if_true, ne_eq, not_true_eq_false, decide_false,
      Bool.false_and, Bool.or_false]
  · cases failure : status.quicFailed with
    | true =>
        simp only [complete, if_false, if_true, Bool.not_true, Bool.and_false,
          Bool.or_false]
    | false =>
        simp only [complete, if_false, Bool.false_eq_true, ne_eq,
          not_false_eq_true, decide_true, Bool.not_false, Bool.and_self,
          Bool.or_true]

private theorem waits_send {statement : UnlockedStep}
    (enabled : world.sendSlot.enabled statement = true) :
    (world.step (.send statement)).waits =
      (world.waits || world.starts (.send statement)) := by
  have refused : world.sendSlot.step statement = none →
      statement.accepted = false := by
    intro threw
    have makes := UnlockedSlot.makes_of_enabled enabled
    generalize world.sendSlot.step statement = result at makes threw
    generalize world.sendSlot = slot at makes
    cases makes with
    | fails | accepts => cases threw
    | create | assignTx | assignRx | raise | lower | sendFailure | initiate
    | invoke => rfl
  simp only [step, asyncSend]
  split
  · rename_i threw
    simp only [waits, starts, refused threw, Bool.or_false]
  · simp only [waits, starts]
    cases statement.accepted <;> simp

private theorem waits_frontEnd {action : StreamAction}
    (notEvent : ∀ event, action ≠ .event event)
    (available : world.available action = true) :
    (world.step action).waits = (world.waits || world.starts action) := by
  cases action with
  | event event => exact absurd rfl (notEvent event)
  | receive lpBuffer bufferLen => exact waits_receive lpBuffer bufferLen
  | shutdown status => exact waits_shutdown status
  | send statement =>
      simp only [StreamWorld.available, enabled, Bool.and_eq_true] at available
      exact waits_send available.2
  | start statement =>
      simp only [step, asyncStart, starts, Bool.or_false]
      split <;> rfl
  | receiveInitiate | receiveHandler | shutdownInitiate | shutdownHandler =>
      simp only [step, starts, Bool.or_false]
      split <;> rfl
  | receiveInvoke =>
      simp only [step, starts, Bool.or_false]
      rfl

end StreamWorld

/-! ### What a step of the connection changes -/

namespace ConnectionWorld

variable (world : ConnectionWorld O)

private theorem accepted_step (action : ConnectionAction) :
    ∃ more, (world.step action).accepted = world.accepted ++ more ∧
      ((∀ ec, action ≠ .acceptHandler ec) → more = []) := by
  have same : ∀ after : ConnectionWorld O, after.accepted = world.accepted →
      ∃ more, after.accepted = world.accepted ++ more ∧
        ((∀ ec, action ≠ .acceptHandler ec) → more = []) :=
    fun after kept => ⟨[], kept.trans (List.append_nil _).symm, fun _ => rfl⟩
  cases action with
  | event event => exact same _ rfl
  | connect => exact same _ rfl
  | accept => exact same _ rfl
  | shutdown => exact same _ rfl
  | start statement =>
      apply same
      simp only [step, asyncStart]
      split <;> rfl
  | streamStarted statement =>
      apply same
      simp only [step, streamStarted]
      split <;> first | rfl | (split <;> rfl)
  | connectInitiate | connectHandler | acceptInitiate | shutdownInitiate
  | shutdownHandler =>
      apply same
      simp only [step]
      split <;> rfl
  | acceptHandler ec =>
      simp only [step]
      split
      · exact same _ rfl
      · exact ⟨_, rfl, fun other => absurd rfl (other ec)⟩

private theorem shutdownFlag_step {action : ConnectionAction}
    (notEvent : action.isEvent = false) :
    (world.step action).ctx.pending.shutdown =
      (world.ctx.pending.shutdown || decide (action = .shutdown ∧
        world.ctx.state ≠ .shutdownComplete)) := by
  cases action with
  | event event => cases notEvent
  | shutdown =>
      simp only [step_shutdown, AsioServerConnectionCtx.afterShutdown, true_and]
  | connect =>
      simp only [step_connect, AsioServerConnectionCtx.afterConnect, reduceCtorEq, false_and,
        decide_false, Bool.or_false]
  | accept =>
      simp only [step_accept, AsioServerConnectionCtx.afterAccept, reduceCtorEq, false_and,
        decide_false, Bool.or_false]
  | start statement =>
      simp only [step, asyncStart, reduceCtorEq, false_and, decide_false,
        Bool.or_false]
      split <;> rfl
  | streamStarted statement =>
      simp only [step, streamStarted, reduceCtorEq, false_and, decide_false,
        Bool.or_false]
      split <;> first | rfl | (split <;> rfl)
  | connectInitiate | connectHandler | acceptInitiate | acceptHandler
  | shutdownInitiate | shutdownHandler =>
      simp only [step, reduceCtorEq, false_and, decide_false, Bool.or_false]
      split <;> rfl

end ConnectionWorld

/-! ### What a step of the system changes -/

namespace ServerAction

def isEvent : ServerAction → Bool
  | .conn action => action.isEvent
  | .stream _ (.event _) => true
  | .stream _ _ => false

end ServerAction

namespace ServerWorld

variable {world : ServerWorld O} {action : ServerAction}

def Untouched (world : ServerWorld O) : Prop :=
  ∀ stream, world.accepted stream = false →
    (world.streams stream).waits = false

private theorem accepted_mono (stream : Hquic)
    (accepted : world.accepted stream = true) :
    (world.step action).accepted stream = true := by
  cases action with
  | stream other action => exact accepted
  | conn action =>
      obtain ⟨more, same, _⟩ :=
        world.conn.accepted_step action
      simp only [ServerWorld.accepted, step] at accepted ⊢
      rw [same, List.any_append, accepted, Bool.true_or]

private theorem untouched_step (untouched : world.Untouched)
    (allowed : world.allowed action = true) : (world.step action).Untouched := by
  intro stream unaccepted
  have before : world.accepted stream = false := by
    cases accepted : world.accepted stream with
    | false => rfl
    | true =>
        rw [accepted_mono stream accepted] at unaccepted
        cases unaccepted
  have quiet := untouched stream before
  cases action with
  | conn action => exact quiet
  | stream other action =>
      by_cases same : stream = other
      · subst same
        simp only [step, Function.update_self]
        cases action with
        | event event => exact StreamWorld.waits_event event quiet
        | start | send | receive | receiveInitiate | receiveHandler
        | receiveInvoke | shutdown | shutdownInitiate | shutdownHandler =>
            simp only [ServerWorld.allowed, Bool.and_eq_true, before,
              Bool.false_eq_true, false_and] at allowed
      · simp only [step, Function.update_of_ne same]
        exact quiet

private theorem untouched_of_run {actions : List ServerAction}
    (run : (serverMachine O).Run oneThread actions world) :
    world.Untouched := by
  apply run.invariant (fun _ world => world.Untouched)
  · intro stream _
    rfl
  · intro actions world action _ untouched allowed
    exact untouched_step untouched allowed

private theorem waits_conn {action : ConnectionAction}
    (untouched : world.Untouched) (notEvent : action.isEvent = false) :
    (world.step (.conn action)).Waits ↔
      world.Waits ∨ world.Starts (.conn action) := by
  have flag := world.conn.shutdownFlag_step notEvent
  have starts : world.Starts (.conn action) ↔ action = .shutdown ∧
      world.conn.ctx.state ≠ .shutdownComplete := by
    cases action <;> simp [Starts]
  have streams : (∃ stream, (world.step (.conn action)).accepted stream = true ∧
        (world.streams stream).waits = true) ↔
      ∃ stream, world.accepted stream = true ∧
        (world.streams stream).waits = true := by
    constructor
    · rintro ⟨stream, _, waits⟩
      refine ⟨stream, ?_, waits⟩
      cases accepted : world.accepted stream with
      | true => rfl
      | false =>
          rw [untouched stream accepted] at waits
          cases waits
    · rintro ⟨stream, accepted, waits⟩
      exact ⟨stream, accepted_mono stream accepted, waits⟩
  change (world.conn.step action).ctx.pending.shutdown = true ∨ _ ↔ _
  rw [flag, Bool.or_eq_true, decide_eq_true_eq, ← starts]
  change _ ∨ (∃ stream, (world.step (.conn action)).accepted stream = true ∧
    (world.streams stream).waits = true) ↔ _
  rw [streams, or_right_comm]
  rfl

private theorem waits_stream {stream : Hquic} {action : StreamAction}
    (accepted : world.accepted stream = true)
    (waits : ((world.streams stream).step action).waits =
      ((world.streams stream).waits || (world.streams stream).starts action)) :
    (world.step (.stream stream action)).Waits ↔
      world.Waits ∨ world.Starts (.stream stream action) := by
  have others : ∀ other, other ≠ stream →
      (world.step (.stream stream action)).streams other =
        world.streams other := by
    intro other different
    exact Function.update_of_ne different _ _
  have self : (world.step (.stream stream action)).streams stream =
      (world.streams stream).step action := Function.update_self _ _ _
  constructor
  · rintro (conn | ⟨other, otherAccepted, otherWaits⟩)
    · exact Or.inl (Or.inl conn)
    · by_cases same : other = stream
      · subst same
        rw [self, waits, Bool.or_eq_true] at otherWaits
        rcases otherWaits with before | now
        · exact Or.inl (Or.inr ⟨other, accepted, before⟩)
        · exact Or.inr now
      · rw [others other same] at otherWaits
        exact Or.inl (Or.inr ⟨other, otherAccepted, otherWaits⟩)
  · rintro ((conn | ⟨other, otherAccepted, otherWaits⟩) | starts)
    · exact Or.inl conn
    · refine Or.inr ⟨other, otherAccepted, ?_⟩
      by_cases same : other = stream
      · subst same
        rw [self, waits, otherWaits, Bool.true_or]
      · rw [others other same]
        exact otherWaits
    · refine Or.inr ⟨stream, accepted, ?_⟩
      have now : (world.streams stream).starts action = true := starts
      rw [self, waits, now, Bool.or_true]

private theorem waits_step_iff (untouched : world.Untouched)
    (allowed : world.allowed action = true)
    (notEvent : action.isEvent = false) :
    (world.step action).Waits ↔ world.Waits ∨ world.Starts action := by
  cases action with
  | conn action => exact waits_conn untouched notEvent
  | stream stream action =>
      cases action with
      | event event => cases notEvent
      | start | send | receive | receiveInitiate | receiveHandler
      | receiveInvoke | shutdown | shutdownInitiate | shutdownHandler =>
          simp only [ServerWorld.allowed, Bool.and_eq_true] at allowed
          exact waits_stream allowed.1
            (StreamWorld.waits_frontEnd (by simp) allowed.2)

/-- Only a new stream blocks the callback thread. -/
private theorem blocked_of_step (allowed : world.allowed action = true)
    (other : ∀ stream, action ≠ .conn (.event (.peerStreamStarted stream)))
    (blocked : (world.step action).Blocked) : world.Blocked := by
  cases action with
  | stream stream action => exact blocked
  | conn action =>
      simp only [ServerWorld.allowed, ConnectionWorld.enabled,
        Bool.and_eq_true] at allowed
      obtain ⟨⟨stream, place⟩, permits, lowered⟩ := blocked
      cases action with
      | event event =>
          -- no other event puts the callback at the semaphore
          have same : (world.conn.deliver event).callback =
              world.conn.callback := by
            cases event with
            | peerStreamStarted stream => exact absurd rfl (other stream)
            | connected | shutdownInitiatedByTransport
            | shutdownInitiatedByPeer | shutdownComplete | resumed
            | resumptionTicketReceived | other => rfl
          have before : world.conn.callback = .acquiring stream :=
            same.symm.trans place
          rw [before] at allowed
          exact absurd allowed.2 (by simp)
      | streamStarted statement =>
          cases world.conn.running_of_enabled allowed.2 with
          | acquire stream at_ permit | assertAccept stream at_
          | clearAccept stream at_ | setCallback stream at_ =>
              simp only [step, ConnectionWorld.step,
                ConnectionWorld.streamStarted, at_] at place
              cases place
          | send stream at_ =>
              simp only [step, ConnectionWorld.step,
                ConnectionWorld.streamStarted, at_] at place
              split at place <;> cases place
      | accept =>
          simp only [step, ConnectionWorld.step_accept,
            AsioServerConnectionCtx.afterAccept] at place permits lowered
          -- an accept that is answered at once releases no permit
          obtain ⟨low, complete⟩ := Bool.or_eq_false_iff.mp lowered
          have state : world.conn.ctx.state = .shutdownComplete := by
            simpa only [ne_eq, decide_eq_false_iff_not,
              Decidable.not_not] using complete
          rw [if_pos state] at permits
          exact ⟨⟨stream, place⟩, permits, low⟩
      | start statement =>
          revert place permits lowered
          simp only [step, ConnectionWorld.step, ConnectionWorld.asyncStart]
          split <;>
            exact fun place permits lowered => ⟨⟨stream, place⟩, permits, lowered⟩
      | connect =>
          simp only [step, ConnectionWorld.step_connect,
            AsioServerConnectionCtx.afterConnect] at place permits lowered
          exact ⟨⟨stream, place⟩, permits, lowered⟩
      | shutdown =>
          simp only [step, ConnectionWorld.step_shutdown,
            AsioServerConnectionCtx.afterShutdown] at place permits lowered
          exact ⟨⟨stream, place⟩, permits, lowered⟩
      | connectInitiate | connectHandler | acceptInitiate | acceptHandler
      | shutdownInitiate | shutdownHandler =>
          revert place permits lowered
          simp only [step, ConnectionWorld.step]
          split <;>
            exact fun place permits lowered => ⟨⟨stream, place⟩, permits, lowered⟩

/-- Only `async_accept` unblocks the callback thread. -/
private theorem blocked_kept (allowed : world.allowed action = true)
    (notAccept : action ≠ .conn .accept) (blocked : world.Blocked) :
    (world.step action).Blocked := by
  obtain ⟨⟨stream, place⟩, permits, lowered⟩ := blocked
  cases action with
  | stream stream action => exact ⟨⟨_, place⟩, permits, lowered⟩
  | conn action =>
      simp only [ServerWorld.allowed, ConnectionWorld.enabled,
        Bool.and_eq_true] at allowed
      cases action with
      | event event =>
          rw [place] at allowed
          exact absurd allowed.2 (by simp)
      | streamStarted statement =>
          cases world.conn.running_of_enabled allowed.2 with
          | acquire stream at_ permit => omega
          | assertAccept stream at_ | clearAccept stream at_
          | setCallback stream at_ | send stream at_ =>
              rw [place] at at_
              cases at_
      | accept => exact absurd rfl notAccept
      | connect =>
          simp only [step, ConnectionWorld.step_connect,
            AsioServerConnectionCtx.afterConnect]
          exact ⟨⟨stream, place⟩, permits, lowered⟩
      | shutdown =>
          simp only [step, ConnectionWorld.step_shutdown,
            AsioServerConnectionCtx.afterShutdown]
          exact ⟨⟨stream, place⟩, permits, lowered⟩
      | start statement =>
          simp only [step, ConnectionWorld.step, ConnectionWorld.asyncStart]
          split <;> exact ⟨⟨stream, place⟩, permits, lowered⟩
      | connectInitiate | connectHandler | acceptInitiate | acceptHandler
      | shutdownInitiate | shutdownHandler =>
          simp only [step, ConnectionWorld.step]
          split <;> exact ⟨⟨stream, place⟩, permits, lowered⟩

/-! ### Deadlock -/

/-- A stream is started only while an `async_accept` waits for it or nothing
waits for another event, and nothing that would wait is started while the
callback thread is blocked. -/
def Unhindered (_ : List ServerAction) (world : ServerWorld O)
    (action : ServerAction) : Prop :=
  (∀ stream, action = .conn (.event (.peerStreamStarted stream)) →
    world.conn.ctx.acceptBs = 0 → world.conn.ctx.pending.accept = false →
      ¬world.Waits) ∧
    (world.Blocked → ¬world.Starts action)

private theorem deadlocked_started {stream : Hquic} :
    (world.step (.conn (.event (.peerStreamStarted stream)))).Deadlocked ↔
      world.conn.ctx.acceptBs = 0 ∧
        world.conn.ctx.pending.accept = false ∧ world.Waits := by
  constructor
  · rintro ⟨⟨_, permits, lowered⟩, waits⟩
    exact ⟨permits, lowered, waits⟩
  · rintro ⟨permits, lowered, waits⟩
    exact ⟨⟨⟨stream, rfl⟩, permits, lowered⟩, waits⟩

private theorem not_event_of_blocked (allowed : world.allowed action = true)
    (blocked : world.Blocked) : action.isEvent = false := by
  obtain ⟨⟨stream, place⟩, _⟩ := blocked
  cases action with
  | conn action =>
      cases action with
      | event event =>
          simp only [ServerWorld.allowed, ConnectionWorld.enabled, place,
            Bool.and_eq_true] at allowed
          exact absurd allowed.2 (by simp)
      | streamStarted | start | connect | connectInitiate | connectHandler
      | accept | acceptInitiate | acceptHandler | shutdown | shutdownInitiate
      | shutdownHandler => rfl
  | stream other action =>
      cases action with
      | event event =>
          simp only [ServerWorld.allowed, place, Bool.and_eq_true] at allowed
          exact absurd allowed.1.1 (by simp)
      | start | send | receive | receiveInitiate | receiveHandler
      | receiveInvoke | shutdown | shutdownInitiate | shutdownHandler => rfl

private theorem deadlocked_step_iff (untouched : world.Untouched)
    (allowed : world.allowed action = true)
    (free : ¬world.Deadlocked) (actions : List ServerAction) :
    ¬(world.step action).Deadlocked ↔ Unhindered actions world action := by
  by_cases started : ∃ stream,
      action = .conn (.event (.peerStreamStarted stream))
  · obtain ⟨stream, rfl⟩ := started
    have notBlocked : ¬world.Blocked := by
      intro blocked
      have notEvent := not_event_of_blocked allowed blocked
      cases notEvent
    rw [deadlocked_started]
    constructor
    · intro hindered
      refine ⟨fun _ _ permits lowered waits => ?_, fun blocked => ?_⟩
      · exact hindered ⟨permits, lowered, waits⟩
      · exact absurd blocked notBlocked
    · rintro ⟨unhindered, _⟩ ⟨permits, lowered, waits⟩
      exact unhindered stream rfl permits lowered waits
  · have other : ∀ stream,
        action ≠ .conn (.event (.peerStreamStarted stream)) :=
      fun stream same => started ⟨stream, same⟩
    have noStream : ∀ stream,
        action = .conn (.event (.peerStreamStarted stream)) →
        world.conn.ctx.acceptBs = 0 →
        world.conn.ctx.pending.accept = false → ¬world.Waits :=
      fun stream same => absurd same (other stream)
    by_cases blocked : world.Blocked
    · have notWaiting : ¬world.Waits := fun waits => free ⟨blocked, waits⟩
      have waits_iff := waits_step_iff untouched allowed
        (not_event_of_blocked allowed blocked)
      constructor
      · intro free_
        refine ⟨noStream, fun _ starts => free_ ?_⟩
        have notAccept : action ≠ .conn .accept := by
          rintro rfl
          exact starts
        exact ⟨blocked_kept allowed notAccept blocked,
          waits_iff.mpr (Or.inr starts)⟩
      · rintro ⟨_, notStarted⟩ ⟨_, waits⟩
        rcases waits_iff.mp waits with before | now
        · exact notWaiting before
        · exact notStarted blocked now
    · constructor
      · intro _
        exact ⟨noStream, fun impossible => absurd impossible blocked⟩
      · rintro _ ⟨blockedAfter, _⟩
        exact blocked (blocked_of_step allowed other blockedAfter)

/-- No state of a run is a deadlock exactly when all of its steps are
unhindered. -/
theorem no_deadlock_iff {actions : List ServerAction}
    (run : (serverMachine O).Run oneThread actions world) :
    (serverMachine O).Throughout (fun _ world => ¬world.Deadlocked) actions ↔
      (serverMachine O).EachStep Unhindered actions := by
  apply run.throughout_iff
  · rintro ⟨⟨⟨stream, impossible⟩, _⟩, _⟩
    cases impossible
  intro actions world action before _ allowed free
  exact deadlocked_step_iff (untouched_of_run before) allowed free actions

/-- A deadlock ends only when the front end calls `async_accept`. -/
theorem deadlocked_until_accept {early late : List ServerAction}
    (run : (serverMachine O).Run oneThread (early ++ late) world)
    (reached : ((serverMachine O).exec early).Deadlocked)
    (noAccept : .conn .accept ∉ late) : world.Deadlocked := by
  induction late using List.reverseRecOn generalizing world with
  | nil =>
      rw [List.append_nil] at run
      rw [run.state_eq]
      exact reached
  | append_singleton late action ih =>
      rw [← List.append_assoc] at run
      obtain ⟨previous, before, allowed, rfl⟩ := run.last
      rw [List.mem_append, not_or, List.mem_singleton] at noAccept
      obtain ⟨blocked, waits⟩ := ih before noAccept.1
      have notAccept : action ≠ .conn .accept :=
        fun same => noAccept.2 same.symm
      have notEvent := not_event_of_blocked allowed blocked
      constructor
      · exact blocked_kept allowed notAccept blocked
      · apply (waits_step_iff (untouched_of_run before) allowed notEvent).mpr
        exact Or.inl waits

/-- A server that handles one stream at a time: it reads the first stream while
the peer opens a second. -/
def secondStream : List ServerAction :=
  [.conn .accept, .conn .acceptInitiate,
    .conn (.event (.peerStreamStarted 7)), .conn (.streamStarted .acquire),
    .conn (.streamStarted .assertAccept), .conn (.streamStarted .clearAccept),
    .conn (.streamStarted .setCallback), .conn (.streamStarted .send),
    .conn (.acceptHandler .success), .stream 7 (.receive [0] 1),
    .stream 7 .receiveInitiate, .conn (.event (.peerStreamStarted 8))]

theorem secondStream_deadlocks :
    (serverMachine .reference).Run oneThread secondStream
        ((serverMachine .reference).exec secondStream) ∧
      ((serverMachine .reference).exec secondStream).Deadlocked := by
  refine ⟨Machine.run_of_checks secondStream (by decide),
    ⟨⟨8, by decide⟩, by decide, by decide⟩, Or.inr ⟨7, by decide, by decide⟩⟩

theorem no_deadlock_iff_secondStream :
    (serverMachine .reference).Throughout (fun _ world => ¬world.Deadlocked)
        secondStream ↔
      (serverMachine .reference).EachStep Unhindered secondStream :=
  no_deadlock_iff (Machine.run_of_checks secondStream (by decide))

end ServerWorld

end MsquicAsio
