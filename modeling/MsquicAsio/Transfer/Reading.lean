/-
A reader that goes on reading until it is told the end.

Its buffers have room for what a RECEIVE event brings, and until it is told the
end the stream is neither aborted nor torn down.  Each of its completion lambdas
then either completes a RECEIVE event, and without a cut, or tells the end.
-/
import MsquicAsio.Transfer.Pipe

set_option autoImplicit false

namespace MsquicAsio

variable {O : Oneshot}

def ReceiveOp.room : ReceiveOp → Option Nat
  | .ready _ _ bufferLen => some bufferLen
  | .waiting _ _ _ bufferLen => some bufferLen
  | _ => none

/-- How far a call is from the next one.  The completion lambda goes up here,
for what it has taken up is counted elsewhere. -/
def ReceiveOp.phase : ReceiveOp → Nat
  | .idle => 4
  | .ready _ _ _ => 3
  | .waiting _ _ _ _ => 2
  | .completing _ _ _ _ _ => 5

def StreamAction.readsOn : StreamAction → Bool
  | .receive _ _ => true
  | .receiveInitiate => true
  | .receiveHandler _ => true
  | .receiveInvoke => true
  | _ => false

namespace ReceivePart

def ToldEnd (part : ReceivePart O) : Prop :=
  ∃ report ∈ part.reports, report.TellsEnd

instance (part : ReceivePart O) : Decidable part.ToldEnd :=
  inferInstanceAs (Decidable (∃ report ∈ part.reports, _))

/-- msquic brings at most `limit` bytes at a time, in one buffer, and the reader
has room for them; once it is told the end it stops.  No RECEIVE event is without
bytes: a FIN that comes without data is indicated by PEER_SEND_SHUTDOWN alone. -/
def attentive (limit : Nat) : Environment (ReceivePart O) StreamAction :=
  fun actions part action =>
    flowControl actions part action ∧
      match action with
      | .event (.receive buffers) =>
          SinglePiece buffers ∧ 0 < totalLength buffers ∧
            totalLength buffers ≤ limit
      | .event .peerSendShutdown => lastTerminal actions = none
      | .event .peerSendAborted => part.ToldEnd
      | .event .shutdownComplete => part.ToldEnd
      | .receive _ bufferLen => limit ≤ bufferLen ∧ ¬part.ToldEnd
      | _ => True

instance (limit : Nat) (actions : List StreamAction) (part : ReceivePart O)
    (action : StreamAction) : Decidable (attentive limit actions part action) :=
  match action with
  | .event (.receive _) => inferInstanceAs (Decidable (_ ∧ (_ ≤ _) ∧ _ ∧ _))
  | .event .peerSendShutdown => inferInstanceAs (Decidable (_ ∧ _))
  | .event .peerSendAborted => inferInstanceAs (Decidable (_ ∧ ToldEnd _))
  | .event .shutdownComplete => inferInstanceAs (Decidable (_ ∧ ToldEnd _))
  | .event (.startComplete _) => inferInstanceAs (Decidable (_ ∧ True))
  | .event (.sendComplete _) => inferInstanceAs (Decidable (_ ∧ True))
  | .event .other => inferInstanceAs (Decidable (_ ∧ True))
  | .receive _ _ => inferInstanceAs (Decidable (_ ∧ _ ∧ ¬ToldEnd _))
  | .receiveInitiate => inferInstanceAs (Decidable (_ ∧ True))
  | .receiveHandler _ => inferInstanceAs (Decidable (_ ∧ True))
  | .receiveInvoke => inferInstanceAs (Decidable (_ ∧ True))
  | .start _ => inferInstanceAs (Decidable (_ ∧ True))
  | .send _ => inferInstanceAs (Decidable (_ ∧ True))
  | .shutdown _ => inferInstanceAs (Decidable (_ ∧ True))
  | .shutdownInitiate => inferInstanceAs (Decidable (_ ∧ True))
  | .shutdownHandler _ => inferInstanceAs (Decidable (_ ∧ True))

/-- No read was cut, and whoever waits has room and was not told the end.  Until
then nothing but a graceful end has come, and every message is one of success. -/
structure Attentive (limit : Nat) (actions : List StreamAction)
    (part : ReceivePart O) : Prop where
  pieces : ∀ buffers ∈ actions.filterMap StreamAction.indicated,
    SinglePiece buffers ∧ totalLength buffers ≤ limit
  uncut : ¬part.Truncated
  asks : ∀ bufferLen, part.op.room = some bufferLen →
    limit ≤ bufferLen ∧ ¬part.ToldEnd
  graceful : ¬part.ToldEnd → lastTerminal actions = none ∨
    lastTerminal actions = some .peerSendShutdown
  success : ¬part.ToldEnd → ∀ id message,
    part.port.value? id = some message → message.1 = .success

variable {limit : Nat} {actions : List StreamAction} {part : ReceivePart O}
  {action : StreamAction}

theorem flowRun
    (run : (receiveMachine O).Run (under (attentive limit)) actions part) :
    (receiveMachine O).Run (under flowControl) actions part :=
  run.mono fun _ _ _ allowed => ⟨allowed.1, allowed.2.1⟩

/-! ### What the steps keep -/

private theorem reads_next (sound : part.Sound)
    (enabled : part.enabled action = true)
    (other : ∀ ec, action ≠ .receiveHandler ec) :
    (part.next action).reads = part.reads := by
  cases action with
  | event event => cases event <;> rfl
  | receive lpBuffer bufferLen =>
      simp only [next, called]
      split
      · rfl
      · split <;> rfl
  | receiveInitiate =>
      cases at_ : part.op with
      | ready own lpBuffer bufferLen =>
          obtain ⟨wait, _, initiated, _⟩ := sound.initiate at_
          simp only [next, initiated, Option.getD_some]
      | idle | waiting | completing =>
          simp only [ReceivePart.enabled, at_, Bool.false_eq_true] at enabled
  | receiveHandler ec => exact absurd rfl (other ec)
  | receiveInvoke =>
      simp only [next, invoke]
      split <;> rfl
  | start | send | shutdown | shutdownInitiate | shutdownHandler => rfl

private theorem room_next (sound : part.Sound)
    (enabled : part.enabled action = true)
    (other : ∀ ec, action ≠ .receiveHandler ec) {bufferLen : Nat}
    (asks : (part.next action).op.room = some bufferLen) :
    part.op.room = some bufferLen ∨
      ∃ lpBuffer, action = .receive lpBuffer bufferLen := by
  cases action with
  | event event => cases event <;> exact Or.inl asks
  | receive lpBuffer given =>
      have same : some given = some bufferLen := by
        simp only [next, called] at asks
        split at asks
        · exact asks
        · split at asks <;> exact asks
      obtain rfl := Option.some.inj same
      exact Or.inr ⟨lpBuffer, rfl⟩
  | receiveInitiate =>
      cases at_ : part.op with
      | ready own lpBuffer given =>
          obtain ⟨wait, _, initiated, _⟩ := sound.initiate at_
          simp only [next, initiated, Option.getD_some] at asks
          exact Or.inl asks
      | idle | waiting | completing =>
          simp only [ReceivePart.enabled, at_, Bool.false_eq_true] at enabled
  | receiveHandler ec => exact absurd rfl (other ec)
  | receiveInvoke =>
      cases at_ : part.op with
      | completing channel ec bytes lpBuffer given =>
          simp only [next, invoke, at_] at asks
          cases asks
      | idle | ready | waiting =>
          simp only [ReceivePart.enabled, at_, Bool.false_eq_true] at enabled
  | start | send | shutdown | shutdownInitiate | shutdownHandler =>
      exact Or.inl asks

private theorem toldEnd_next_iff (sound : part.Sound)
    (enabled : part.enabled action = true)
    (other : ∀ ec, action ≠ .receiveHandler ec) :
    (part.next action).ToldEnd ↔ part.ToldEnd := by
  rw [ToldEnd, (reports_next sound enabled other).1, ToldEnd]

structure TakesUp (limit : Nat) (part after : ReceivePart O)
    (message : ReceiveMessage) (bufferLen : Nat) : Prop where
  reading : ∃ own wait id lpBuffer,
    part.op = .waiting own wait lpBuffer bufferLen ∧
      after = Sound.reading part id message lpBuffer bufferLen
  room : limit ≤ bufferLen
  untold : ¬part.ToldEnd
  success : message.1 = .success
  brought : part.delivery.uncompleted = none ∧ totalLength message.2 = 0 ∨
    part.delivery.uncompleted = some (totalLength message.2) ∧
      totalLength message.2 ≤ limit

namespace Attentive

/-- A lambda takes up the uncompleted RECEIVE event, for which it has room, or
else a message without bytes. -/
private theorem takesUp (attentive : part.Attentive limit actions)
    (run : (receiveMachine O).Run (under flowControl) actions part)
    {ec : ErrorCode} (enabled : part.enabled (.receiveHandler ec) = true) :
    ∃ message bufferLen,
      part.TakesUp limit (part.next (.receiveHandler ec)) message bufferLen := by
  obtain ⟨rest, rendezvous⟩ :=
    rendezvous_of_run (fun _ _ _ allowed => allowed.1) run
  obtain ⟨own, wait, lpBuffer, bufferLen, id, message, at_, rxAt, found,
    handled, _⟩ := (sound_of_run run).handler enabled
  obtain ⟨room, untold⟩ := attentive.asks bufferLen (by rw [at_]; rfl)
  refine ⟨message, bufferLen, ?_⟩
  exact
    { reading := by
        refine ⟨own, wait, id, lpBuffer, at_, ?_⟩
        rw [next, handled, Option.getD_some]
      room := room
      untold := untold
      success := attentive.success untold id message found
      brought := by
        have busy : part.op.inProgress = true := by
          rw [at_]
          rfl
        rcases (flow_of_run run).read_cases rendezvous rxAt found busy with
          ⟨completed, empty⟩ | ⟨uncompleted, earlier, split⟩
        · left
          rw [empty]
          exact ⟨completed, rfl⟩
        · right
          have member :
              message.2 ∈ actions.filterMap StreamAction.indicated := by
            rw [← received_of_run run, split]
            exact List.mem_append_right _ (List.mem_singleton_self _)
          exact ⟨uncompleted, (attentive.pieces _ member).2⟩ }

end Attentive

namespace TakesUp

variable {after : ReceivePart O} {message : ReceiveMessage} {bufferLen : Nat}

private theorem fits (takes : part.TakesUp limit after message bufferLen) :
    totalLength message.2 ≤ bufferLen := by
  have room := takes.room
  rcases takes.brought with ⟨_, empty⟩ | ⟨_, small⟩
  · omega
  · omega

private theorem uncut (takes : part.TakesUp limit after message bufferLen)
    (before : ¬part.Truncated) : ¬after.Truncated := by
  obtain ⟨own, wait, id, lpBuffer, at_, rfl⟩ := takes.reading
  intro ⟨read, member, short⟩
  rcases List.mem_append.mp member with earlier | last
  · exact before ⟨read, earlier, short⟩
  · obtain rfl := List.mem_singleton.mp last
    have fits := takes.fits
    change bufferLen < totalLength message.2 at short
    omega

private theorem reports_eq
    (takes : part.TakesUp limit after message bufferLen) :
    ∃ channel lpBuffer, after.reports = part.reports ++
      [⟨channel, .success, totalLength message.2, bufferLen, lpBuffer⟩] := by
  obtain ⟨own, wait, id, lpBuffer, at_, rfl⟩ := takes.reading
  refine ⟨some id, (copyBuffers lpBuffer bufferLen message.2).lpBuffer, ?_⟩
  rw [reports_reading at_, takes.success, copyBuffers_copied,
    Nat.min_eq_right takes.fits]

private theorem completes (takes : part.TakesUp limit after message bufferLen)
    (wide : 0 < limit) :
    part.delivery.uncompleted ≠ none ∧ after.delivery.uncompleted = none ∨
      after.delivery.uncompleted = part.delivery.uncompleted ∧
        after.ToldEnd := by
  obtain ⟨channel, lpBuffer, reports⟩ := takes.reports_eq
  obtain ⟨own, wait, id, given, at_, same⟩ := takes.reading
  rcases takes.brought with ⟨completed, empty⟩ | ⟨uncompleted, _⟩
  · right
    constructor
    · simp only [same, Sound.reading, Delivery.complete, completed]
    · have room := takes.room
      refine ⟨⟨channel, .success, totalLength message.2, bufferLen, lpBuffer⟩,
        ?_, rfl, empty, Nat.lt_of_lt_of_le wide room⟩
      rw [reports]
      exact List.mem_append_right _ (List.mem_singleton_self _)
  · left
    constructor
    · rw [uncompleted]
      simp only [ne_eq, reduceCtorEq, not_false_eq_true]
    · simp only [same, Sound.reading, Delivery.complete, uncompleted]

end TakesUp

namespace Attentive

private theorem initial : (receiveMachine O).initial.Attentive limit [] where
  pieces := by intro buffers impossible; cases impossible
  uncut := by
    intro ⟨read, impossible, _⟩
    cases impossible
  asks := by intro bufferLen impossible; cases impossible
  graceful := fun _ => Or.inl rfl
  success := by
    intro _ id message held
    have unsent : (receiveMachine O).initial.port.value? id = none :=
      Channels.value?_empty id
    rw [unsent] at held
    cases held

private theorem graceful_next (attentive : part.Attentive limit actions)
    (allowed : ReceivePart.attentive limit actions part action)
    (untold : ¬part.ToldEnd) :
    lastTerminal (actions ++ [action]) = none ∨
      lastTerminal (actions ++ [action]) = some .peerSendShutdown := by
  rw [lastTerminal_append]
  have before := attentive.graceful untold
  cases action with
  | event event =>
      cases event with
      | peerSendShutdown => exact Or.inr rfl
      | peerSendAborted | shutdownComplete => exact absurd allowed.2 untold
      | startComplete | sendComplete | receive | other => exact before
  | start | send | receive | receiveInitiate | receiveHandler | receiveInvoke
  | shutdown | shutdownInitiate | shutdownHandler => exact before

private theorem pieces_next (attentive : part.Attentive limit actions)
    (allowed : ReceivePart.attentive limit actions part action) :
    ∀ buffers ∈ (actions ++ [action]).filterMap StreamAction.indicated,
      SinglePiece buffers ∧ totalLength buffers ≤ limit := by
  intro buffers member
  rw [Machine.filterMap_concat] at member
  rcases List.mem_append.mp member with earlier | now
  · exact attentive.pieces buffers earlier
  · cases action with
    | event event =>
        cases event with
        | receive brought =>
            obtain rfl := List.mem_singleton.mp now
            exact ⟨allowed.2.1, allowed.2.2.2⟩
        | startComplete | sendComplete | peerSendShutdown | peerSendAborted
        | shutdownComplete | other => cases now
    | start | send | receive | receiveInitiate | receiveHandler
    | receiveInvoke | shutdown | shutdownInitiate | shutdownHandler =>
        cases now

private theorem next (attentive : part.Attentive limit actions)
    (run : (receiveMachine O).Run (under (ReceivePart.attentive limit)) actions
      part)
    (allowed : under (ReceivePart.attentive limit) actions part action) :
    (part.next action).Attentive limit (actions ++ [action]) := by
  have sound := sound_of_run run
  have state : (part.next action).state =
      stateAfter (lastTerminal (actions ++ [action])) :=
    state_of_run (.step run allowed)
  have graceful := attentive.graceful_next allowed.2
  -- only a terminal event could bring an error, and none but the end has come
  have success : ¬part.ToldEnd → ∀ id message,
      (part.next action).port.value? id = some message →
        message.1 = .success := by
    intro untold id message held
    rcases part.value?_next_cases action held with
      old | ⟨buffers, _, _, rfl⟩ | ⟨ended, rfl⟩
    · exact attentive.success untold id message old
    · rfl
    · rcases graceful untold with open_ | closed
      · rw [state, open_] at ended
        exact absurd rfl ended
      · simp only [state, closed, stateAfter, endOfReceive]
  by_cases handles : ∃ ec, action = .receiveHandler ec
  · obtain ⟨ec, rfl⟩ := handles
    obtain ⟨message, bufferLen, takes⟩ :=
      attentive.takesUp (flowRun run) allowed.1
    exact
      { pieces := attentive.pieces_next allowed.2
        uncut := takes.uncut attentive.uncut
        asks := by
          obtain ⟨own, wait, id, lpBuffer, at_, same⟩ := takes.reading
          intro bufferLen impossible
          rw [same] at impossible
          cases impossible
        graceful := fun _ => graceful takes.untold
        success := fun _ => success takes.untold }
  · have other : ∀ ec, action ≠ .receiveHandler ec :=
      fun ec same => handles ⟨ec, same⟩
    have told := toldEnd_next_iff sound allowed.1 other
    exact
      { pieces := attentive.pieces_next allowed.2
        uncut := by
          rw [Truncated, reads_next sound allowed.1 other]
          exact attentive.uncut
        asks := by
          intro bufferLen asks
          rw [told]
          rcases room_next sound allowed.1 other asks with
            before | ⟨lpBuffer, rfl⟩
          · exact attentive.asks bufferLen before
          · exact allowed.2.2
        graceful := fun untold => graceful (mt told.mpr untold)
        success := fun untold => success (mt told.mpr untold) }

end Attentive

theorem attentive_of_run
    (run : (receiveMachine O).Run (under (attentive limit)) actions part) :
    part.Attentive limit actions := by
  apply run.invariant (fun actions part => part.Attentive limit actions)
    Attentive.initial
  intro actions part action before attentive allowed
  exact attentive.next before allowed

/-! ### How much is left to do -/

/-- What the RECEIVE event in progress, the end and the call in progress still
ask of the reader. -/
def toRead (part : ReceivePart O) : Nat :=
  (if part.ToldEnd then 0 else 10) +
    (if part.delivery.uncompleted = none then 0 else 8) + part.op.phase

private theorem toRead_same {after : ReceivePart O}
    (told : after.ToldEnd ↔ part.ToldEnd)
    (delivery : after.delivery = part.delivery) :
    after.toRead + part.op.phase = part.toRead + after.op.phase := by
  simp only [toRead, told, delivery]
  omega

theorem toRead_receive (part : ReceivePart O) (buffers : List Buffer) :
    (part.next (.event (.receive buffers))).toRead ≤ part.toRead + 8 := by
  have told : (part.next (.event (.receive buffers))).ToldEnd ↔ part.ToldEnd :=
    Iff.rfl
  have op : (part.next (.event (.receive buffers))).op = part.op := rfl
  simp only [toRead, told, op]
  split <;> split <;> omega

theorem toRead_peerSendShutdown (part : ReceivePart O) :
    (part.next (.event .peerSendShutdown)).toRead = part.toRead :=
  rfl

private theorem toRead_call (sound : part.Sound)
    (enabled : part.enabled action = true)
    (own : action.readsOn = true)
    (other : ∀ ec, action ≠ .receiveHandler ec) :
    (part.next action).toRead < part.toRead := by
  have quiet : action.indicated = none := by
    cases action <;> first | rfl | cases own
  have moved := toRead_same (toldEnd_next_iff sound enabled other)
    (delivery_next sound enabled quiet other)
  have lower : (part.next action).op.phase < part.op.phase := by
    cases action with
    | event | start | send | shutdown | shutdownInitiate | shutdownHandler =>
        cases own
    | receiveHandler ec => exact absurd rfl (other ec)
    | receive lpBuffer bufferLen =>
        cases at_ : part.op with
        | idle =>
            simp only [next, called]
            split
            · exact Nat.lt_succ_self 3
            · split <;> exact Nat.lt_succ_self 3
        | ready | waiting | completing =>
            simp only [ReceivePart.enabled, at_, Bool.false_eq_true] at enabled
    | receiveInitiate =>
        cases at_ : part.op with
        | ready own lpBuffer bufferLen =>
            obtain ⟨wait, _, initiated, _⟩ := sound.initiate at_
            simp only [next, initiated, Option.getD_some]
            exact Nat.lt_succ_self 2
        | idle | waiting | completing =>
            simp only [ReceivePart.enabled, at_, Bool.false_eq_true] at enabled
    | receiveInvoke =>
        cases at_ : part.op with
        | completing channel ec bytes lpBuffer bufferLen =>
            simp only [next, invoke, at_]
            exact Nat.lt_succ_self 4
        | idle | ready | waiting =>
            simp only [ReceivePart.enabled, at_, Bool.false_eq_true] at enabled
  omega

private theorem TakesUp.toRead_lt {after : ReceivePart O}
    {message : ReceiveMessage} {bufferLen : Nat}
    (takes : part.TakesUp limit after message bufferLen) (wide : 0 < limit) :
    after.toRead < part.toRead := by
  have untold := takes.untold
  have phases : after.op.phase = 5 ∧ part.op.phase = 2 := by
    obtain ⟨own, wait, id, lpBuffer, at_, rfl⟩ := takes.reading
    rw [at_]
    exact ⟨rfl, rfl⟩
  rcases takes.completes wide with ⟨uncompleted, completed⟩ | ⟨same, told⟩
  · simp only [toRead, untold, uncompleted, completed, phases, if_true,
      if_false]
    split <;> omega
  · simp only [toRead, untold, told, same, phases, if_true, if_false]
    omega

theorem Attentive.toRead_lt (attentive : part.Attentive limit actions)
    (run : (receiveMachine O).Run (under flowControl) actions part)
    (wide : 0 < limit) (enabled : part.enabled action = true)
    (own : action.readsOn = true) :
    (part.next action).toRead < part.toRead := by
  by_cases handles : ∃ ec, action = .receiveHandler ec
  · obtain ⟨ec, rfl⟩ := handles
    obtain ⟨message, bufferLen, takes⟩ := attentive.takesUp run enabled
    exact takes.toRead_lt wide
  · exact toRead_call (sound_of_run run) enabled own
      (fun ec same => handles ⟨ec, same⟩)

/-- A reader is only asked to wait while the stream is open. -/
private theorem open_of_run
    {condition : Environment (ReceivePart O) StreamAction}
    (run : (receiveMachine O).Run (under condition) actions part) :
    part.frontend = true → part.state = .ok := by
  apply run.invariant
    (fun _ part => part.frontend = true → part.state = .ok)
  · intro impossible
    cases impossible
  · intro actions part action _ open_ _ raised
    change (part.next action).frontend = true at raised
    change (part.next action).state = .ok
    rcases part.next_cases action with
      ⟨event, rfl⟩ | ⟨lpBuffer, bufferLen, rfl⟩ | ⟨_, _, _, _, _, _, same⟩
    · cases event with
      | receive | peerSendShutdown | peerSendAborted | shutdownComplete =>
          cases raised
      | startComplete | sendComplete | other => exact open_ raised
    · simp only [next, called] at raised ⊢
      split at raised
      · rw [if_pos (by assumption)]
        exact open_ raised
      · rename_i unbacked
        rw [if_neg unbacked]
        split at raised
        · rw [if_pos (by assumption)]
          assumption
        · rename_i ended
          exact absurd (open_ raised) ended
    · rw [same] at raised ⊢
      exact open_ raised

/-- Where a reader waits and cannot go on, everything indicated was read, and
the end has not come. -/
theorem Attentive.drained_of_waiting (attentive : part.Attentive limit actions)
    (run : (receiveMachine O).Run (under flowControl) actions part)
    {own : Option Nat} {wait bufferLen : Nat} {lpBuffer : List UInt8}
    (at_ : part.op = .waiting own wait lpBuffer bufferLen)
    (stuck : part.completes .success = false) :
    part.delivery.uncompleted = none ∧ part.delivery.paused = false ∧
      part.delivery.unread = 0 ∧ lastTerminal actions = none := by
  have sound := sound_of_run run
  have flow := flow_of_run run
  obtain ⟨rest, rendezvous⟩ :=
    rendezvous_of_run (fun _ _ _ allowed => allowed.1) run
  obtain ⟨_, _, answered⟩ := sound.waits own wait lpBuffer bufferLen at_
  have raised : part.frontend = true := by
    by_contra lowered
    obtain ⟨message, held⟩ := answered (Bool.eq_false_iff.mpr lowered)
    simp only [completes, at_, waitCompletes, held, decide_true,
      Bool.true_eq_false] at stuck
  have completed : part.delivery.uncompleted = none := by
    have outstanding := rendezvous.outstanding
    rcases rendezvous.atMostOne with rfl | ⟨entry, rfl⟩
    · exact outstanding.2.1
    · have lowered := outstanding.2.1
      rw [raised] at lowered
      cases lowered
  have running : part.delivery.paused = false := by
    rw [Bool.eq_false_iff, ne_eq, flow.paused_iff]
    exact attentive.uncut
  refine ⟨completed, running, (balanced_of_run run).settled completed running,
    ?_⟩
  rw [← stateAfter_eq_ok_iff, ← state_of_run run]
  exact open_of_run run raised

end ReceivePart

end MsquicAsio
