/-
What a reader is told at the end of a stream.

Success with no bytes is reported only after the peer has finished its
direction.  The state field holds the last terminal event alone.  So a reader
that comes after an abort gets success where PEER_SEND_SHUTDOWN followed it or
data was buffered, and one that comes after SHUTDOWN_COMPLETE is told of an error
even when the peer had finished before.
-/
import MsquicAsio.Stream.Rendezvous

set_option autoImplicit false

namespace MsquicAsio

variable {O : Oneshot}

/-- PEER_SEND_SHUTDOWN, or a RECEIVE event without a byte. -/
def StreamAction.graceful : StreamAction → Bool
  | .event .peerSendShutdown => true
  | .event (.receive buffers) => totalLength buffers == 0
  | _ => false

private theorem peerSendShutdown_of_success {actions : List StreamAction}
    (ended : stateAfter (lastTerminal actions) ≠ .ok)
    (success : endOfReceive (stateAfter (lastTerminal actions)) = .success) :
    lastTerminal actions = some .peerSendShutdown := by
  revert ended success
  unfold stateAfter
  split
  · rename_i graceful
    intro _ _
    exact graceful
  · intro _ success
    cases success
  · intro _ success
    cases success
  · intro ended
    exact absurd rfl ended

namespace ReceivePart

variable {condition : Environment (ReceivePart O) StreamAction}

/-- Every message is the buffers of a RECEIVE event or tells the state that
the stream has entered. -/
theorem value?_next_cases (part : ReceivePart O) (action : StreamAction)
    {id : Nat} {message : ReceiveMessage}
    (after : (part.next action).port.value? id = some message) :
    part.port.value? id = some message ∨
      (∃ buffers, action = .event (.receive buffers) ∧
        part.target.tx = some id ∧ message = (.success, buffers)) ∨
      (part.next action).state ≠ .ok ∧
        message = (endOfReceive (part.next action).state, []) := by
  -- a terminal event answers the reader that waits, if there is one
  have settled : ∀ ec,
      (part.port.settle part.frontend (ec, [])).value? id = some message →
        part.port.value? id = some message ∨ message = (ec, []) := by
    intro ec held
    unfold Port.settle at held
    split at held
    · exact (part.port.value?_afterSend_cases _ held).imp_right And.right
    · exact Or.inl held
  rcases part.next_cases action with
    ⟨event, rfl⟩ | ⟨lpBuffer, bufferLen, rfl⟩ | ⟨_, _, _, _, _, _, same⟩
  · cases event with
    | receive buffers =>
        simp only [next, indicated] at after
        rcases part.target.value?_afterSend_cases _ after with old | sent
        · left
          simp only [target] at old
          split at old
          · exact old
          · exact (part.port.value?_renew id).symm.trans old
        · exact Or.inr (Or.inl ⟨buffers, rfl, sent⟩)
    | peerSendShutdown | peerSendAborted | shutdownComplete =>
        rcases settled _ after with old | sent
        · exact Or.inl old
        · refine Or.inr (Or.inr ⟨?_, sent⟩)
          intro impossible
          cases impossible
    | startComplete | sendComplete | other => exact Or.inl after
  · simp only [next, called] at after ⊢
    split at after
    · exact Or.inl after
    · rename_i unbacked
      split at after
      · exact Or.inl ((part.port.value?_renew id).symm.trans after)
      · rename_i ended
        simp only [unbacked, ended, if_false, ne_eq, not_false_eq_true,
          Bool.false_eq_true, true_and]
        rcases part.port.renew.value?_afterSend_cases _ after with old | ⟨_, sent⟩
        · exact Or.inl ((part.port.value?_renew id).symm.trans old)
        · exact Or.inr (Or.inr sent)
  · rw [same] at after
    exact Or.inl after

def Carried (part : ReceivePart O) : Prop :=
  ∀ id message, part.port.value? id = some message →
    (∃ entry ∈ part.received, entry.1 = some id) ∨ message.2 = []

theorem carried_initial : (receiveMachine O).initial.Carried := by
  intro id message held
  have unsent : (receiveMachine O).initial.port.value? id = none :=
    Channels.value?_empty id
  rw [unsent] at held
  cases held

private theorem mem_received_next (part : ReceivePart O) (action : StreamAction)
    {entry : Option Nat × List Buffer} (member : entry ∈ part.received) :
    entry ∈ (part.next action).received := by
  rcases part.next_cases action with
    ⟨event, rfl⟩ | ⟨lpBuffer, bufferLen, rfl⟩ | ⟨_, _, _, _, _, _, same⟩
  · cases event with
    | receive buffers => exact List.mem_append_left _ member
    | startComplete | sendComplete | peerSendShutdown | peerSendAborted
    | shutdownComplete | other => exact member
  · simp only [next, called]
    split
    · exact member
    · split <;> exact member
  · rw [same]
    exact member

theorem Carried.next {part : ReceivePart O} (carried : part.Carried)
    (action : StreamAction) : (part.next action).Carried := by
  intro id message after
  rcases part.value?_next_cases action after with
    old | ⟨buffers, rfl, txAt, _⟩ | ⟨_, rfl⟩
  · rcases carried id message old with ⟨entry, member, same⟩ | empty
    · exact Or.inl ⟨entry, part.mem_received_next action member, same⟩
    · exact Or.inr empty
  · left
    refine ⟨(part.target.tx, buffers), ?_, txAt⟩
    exact List.mem_append_right _ (List.mem_singleton_self _)
  · exact Or.inr rfl

theorem graceful_of_sent {actions : List StreamAction} {part : ReceivePart O}
    (run : (receiveMachine O).Run (under condition) actions part) :
    ∀ id buffers, part.port.value? id = some (.success, buffers) →
      totalLength buffers = 0 → actions.any StreamAction.graceful = true := by
  apply run.invariant (fun actions part =>
    ∀ id buffers, part.port.value? id = some (.success, buffers) →
      totalLength buffers = 0 → actions.any StreamAction.graceful = true)
  · intro id buffers impossible
    have unsent : (receiveMachine O).initial.port.value? id = none :=
      Channels.value?_empty id
    rw [unsent] at impossible
    cases impossible
  · intro actions part action before known allowed id buffers after empty
    rw [List.any_append, Bool.or_eq_true]
    have stateNow := state_of_run (.step before allowed)
    rcases part.value?_next_cases action after with
      old | ⟨received, rfl, _, same⟩ | ⟨ended, same⟩
    · exact Or.inl (known id buffers old empty)
    · obtain rfl := (Prod.ext_iff.mp same).2
      right
      simp only [List.any_cons, StreamAction.graceful, empty, beq_self_eq_true,
        List.any_nil, Bool.or_false]
    · change (part.next action).state = _ at stateNow
      rw [stateNow] at ended same
      have success := (Prod.ext_iff.mp same).1
      have member := lastTerminal_mem
        (peerSendShutdown_of_success ended success.symm)
      rw [← Bool.or_eq_true, ← List.any_append, List.any_eq_true]
      exact ⟨_, member, rfl⟩

/-- The message was sent at one step of the run: by a RECEIVE event, or to tell
what the last terminal event has left in the state. -/
def SentWithin (O : Oneshot) (actions : List StreamAction) (id : Nat)
    (message : ReceiveMessage) : Prop :=
  ∃ (early : List StreamAction) (action : StreamAction),
    early ++ [action] <+: actions ∧
    ((receiveMachine O).exec early).port.value? id = none ∧
    ((receiveMachine O).exec (early ++ [action])).port.value? id =
      some message ∧
    (action.indicated = some message.2 ∨
      message =
        (endOfReceive (stateAfter (lastTerminal (early ++ [action]))), []))

private theorem sentWithin_of_run {actions : List StreamAction}
    {part : ReceivePart O}
    (run : (receiveMachine O).Run (under condition) actions part) :
    ∀ id message, part.port.value? id = some message →
      SentWithin O actions id message := by
  apply run.invariant (fun actions part =>
    ∀ id message, part.port.value? id = some message →
      SentWithin O actions id message)
  · intro id message impossible
    have unsent : (receiveMachine O).initial.port.value? id = none :=
      Channels.value?_empty id
    rw [unsent] at impossible
    cases impossible
  · intro actions part action before known allowed id message after
    have run := Machine.Run.step before allowed
    have stateNow := state_of_run run
    cases held : part.port.value? id with
    -- it was sent at an earlier step, and no step takes it back
    | some old =>
        have same : old = message := by
          have kept := part.value?_next action held
          exact Option.some.inj (kept.symm.trans after)
        subst same
        obtain ⟨early, sender, inside, sent⟩ := known id old held
        exact ⟨early, sender, inside.trans (List.prefix_append _ _), sent⟩
    | none =>
        refine ⟨actions, action, List.prefix_rfl, ?_, ?_, ?_⟩
        · rw [← before.state_eq]
          exact held
        · rw [← run.state_eq]
          exact after
        · rcases part.value?_next_cases action after with
            old | ⟨buffers, rfl, _, rfl⟩ | ⟨_, told⟩
          · rw [held] at old
            cases old
          · exact Or.inl rfl
          · right
            change (part.next action).state = _ at stateNow
            rw [told, stateNow]

def Reported (part : ReceivePart O) (channel : Option Nat) (ec : ErrorCode)
    (bytes bufferLen : Nat) : Prop :=
  ∃ id buffers, channel = some id ∧
    part.port.value? id = some (ec, buffers) ∧
    bytes = min bufferLen (totalLength buffers)

private theorem Reported.next {part : ReceivePart O} {channel : Option Nat}
    {ec : ErrorCode} {bytes bufferLen : Nat}
    (reported : part.Reported channel ec bytes bufferLen)
    (action : StreamAction) :
    (part.next action).Reported channel ec bytes bufferLen := by
  obtain ⟨id, buffers, same, held, copied⟩ := reported
  exact ⟨id, buffers, same, part.value?_next action held, copied⟩

private theorem results_next (part : ReceivePart O) (action : StreamAction) :
    (part.next action).results = part.results ∨
      ∃ channel ec bytes lpBuffer bufferLen,
        part.op = .completing channel ec bytes lpBuffer bufferLen ∧
          (part.next action).results =
            part.results ++ [⟨channel, ec, bytes, bufferLen, lpBuffer⟩] := by
  cases action with
  | event event =>
      cases event <;> exact Or.inl rfl
  | receive lpBuffer bufferLen =>
      left
      simp only [next, called]
      split
      · rfl
      · split <;> rfl
  | receiveInitiate =>
      left
      simp only [next]
      cases initiated : part.initiate with
      | none => rfl
      | some after => rw [Option.getD_some, initiate_keeps initiated]
  | receiveHandler ec =>
      left
      simp only [next]
      cases handled : part.handler ec with
      | none => rfl
      | some after => rw [Option.getD_some, handler_keeps handled]
  | receiveInvoke =>
      simp only [next, invoke]
      split
      · rename_i channel ec bytes lpBuffer bufferLen at_
        exact Or.inr ⟨channel, ec, bytes, lpBuffer, bufferLen, at_, rfl⟩
      · exact Or.inl rfl
  | start | send | shutdown | shutdownInitiate | shutdownHandler =>
      exact Or.inl rfl

private theorem completing_next {part : ReceivePart O} (sound : part.Sound)
    {action : StreamAction} (enabled : part.enabled action = true)
    {channel : Option Nat} {ec : ErrorCode} {bytes bufferLen : Nat}
    {lpBuffer : List UInt8}
    (at_ : (part.next action).op =
      .completing channel ec bytes lpBuffer bufferLen) :
    part.op = .completing channel ec bytes lpBuffer bufferLen ∨
      (part.next action).Reported channel ec bytes bufferLen := by
  cases action with
  | event event =>
      cases event <;> exact Or.inl at_
  | receive otherBuffer otherLen =>
      simp only [next, called] at at_
      split at at_
      · cases at_
      · split at at_ <;> cases at_
  | receiveInitiate =>
      cases before : part.op with
      | ready own otherBuffer otherLen =>
          obtain ⟨wait, _, initiated, _⟩ := sound.initiate before
          simp only [next, initiated, Option.getD_some] at at_
          cases at_
      | idle | waiting | completing =>
          simp only [ReceivePart.enabled, before, Bool.false_eq_true] at enabled
  | receiveHandler wait =>
      obtain ⟨_, _, otherBuffer, otherLen, id, message, _, _, found, handled, _⟩ :=
        sound.handler enabled
      right
      simp only [next, handled, Option.getD_some, Sound.reading,
        ReceiveOp.completing.injEq] at at_ ⊢
      obtain ⟨rfl, rfl, rfl, _, rfl⟩ := at_
      exact ⟨id, message.2, rfl, found, copyBuffers_copied _ _ _⟩
  | receiveInvoke =>
      simp only [next, invoke] at at_
      split at at_
      · cases at_
      · exact Or.inl at_
  | start | send | shutdown | shutdownInitiate | shutdownHandler =>
      exact Or.inl at_

theorem reported_of_run {actions : List StreamAction} {part : ReceivePart O}
    (run : (receiveMachine O).Run (under condition) actions part) :
    (∀ result ∈ part.results, part.Reported result.channel result.ec
      result.bytes result.bufferLen) ∧
    ∀ channel ec bytes lpBuffer bufferLen,
      part.op = .completing channel ec bytes lpBuffer bufferLen →
        part.Reported channel ec bytes bufferLen := by
  apply run.invariant (fun _ part =>
    (∀ result ∈ part.results, part.Reported result.channel result.ec
      result.bytes result.bufferLen) ∧
    ∀ channel ec bytes lpBuffer bufferLen,
      part.op = .completing channel ec bytes lpBuffer bufferLen →
        part.Reported channel ec bytes bufferLen)
  · constructor
    · intro result member
      cases member
    · intro channel ec bytes lpBuffer bufferLen impossible
      cases impossible
  · rintro actions part action before ⟨reported, completing⟩ ⟨enabled, _⟩
    have kept := fun result member => (reported result member).next action
    constructor
    · intro result member
      rcases part.results_next action with
        same | ⟨channel, ec, bytes, lpBuffer, bufferLen, at_, same⟩
      · rw [show ((receiveMachine O).step part action).results = _ from same]
          at member
        exact kept result member
      · rw [show ((receiveMachine O).step part action).results = _ from same,
          List.mem_append, List.mem_singleton] at member
        rcases member with old | rfl
        · exact kept result old
        · exact (completing _ _ _ _ _ at_).next action
    · intro channel ec bytes lpBuffer bufferLen at_
      rcases completing_next (sound_of_run before) enabled at_ with old | reads
      · exact (completing _ _ _ _ _ old).next action
      · exact reads

end ReceivePart

/-! ### No truncation is reported as the end of the stream -/

namespace StreamWorld

def BrokenOff (actions : List StreamAction) : Prop :=
  lastTerminal actions = some .peerSendAborted ∨
    lastTerminal actions = some .shutdownComplete

private theorem BrokenOff.failed {actions : List StreamAction}
    (broken : BrokenOff actions) :
    (endOfReceive (stateAfter (lastTerminal actions))).failed = true := by
  rcases broken with aborted | down
  · rw [aborted]
    rfl
  · rw [down]
    rfl

/-- A reader with room that gets success and no bytes was answered after the
peer had finished its direction.  A reader whose answer was sent after an abort
or the teardown is given an error, unless a RECEIVE event sent it or the peer
has finished its direction since. -/
theorem no_truncation {actions : List StreamAction} {world : StreamWorld O}
    (run : (streamMachine O).Run anyEvents actions world) :
    (∀ result ∈ world.results, result.ec = .success → result.bytes = 0 →
      0 < result.bufferLen →
        ∃ id buffers, result.channel = some id ∧
          world.ctx.receive.value? id = some (.success, buffers) ∧
          ∀ early, early <+: actions →
            ((streamMachine O).exec early).ctx.receive.value? id ≠ none →
              early.any StreamAction.graceful = true) ∧
      ∀ result ∈ world.results, ∃ early action id message,
        early ++ [action] <+: actions ∧ result.channel = some id ∧
        ((streamMachine O).exec early).ctx.receive.value? id = none ∧
        ((streamMachine O).exec (early ++ [action])).ctx.receive.value? id =
          some message ∧
        result.ec = message.1 ∧
        (action.indicated = none → BrokenOff (early ++ [action]) →
          result.ec.failed = true ∧ result.bytes = 0) := by
  have plain : (streamMachine O).Run (under fun _ _ _ => True) actions world :=
    run.mono fun _ _ _ allowed => ⟨allowed, trivial⟩
  have partRun := receiveRun plain
  constructor
  · intro result member success empty room
    obtain ⟨id, buffers, channelAt, held, copied⟩ :=
      (ReceivePart.reported_of_run partRun).1 result member
    rw [success] at held
    have noBytes : totalLength buffers = 0 := by
      rw [empty] at copied
      omega
    refine ⟨id, buffers, channelAt, held, ?_⟩
    intro early isPrefix sent
    have earlyRun := receiveRun (plain.of_prefix isPrefix)
    obtain ⟨message, before⟩ := Option.ne_none_iff_exists'.mp sent
    -- no message is taken back: the channel held this one already
    have sameMessage : message = (.success, buffers) := by
      have later := ReceivePart.value?_of_prefix partRun isPrefix
        (by rw [← earlyRun.state_eq]; exact before)
      exact Option.some.inj (later.symm.trans held)
    subst sameMessage
    exact ReceivePart.graceful_of_sent earlyRun id buffers before noBytes
  · intro result member
    obtain ⟨id, buffers, channelAt, held, copied⟩ :=
      (ReceivePart.reported_of_run partRun).1 result member
    obtain ⟨early, action, isPrefix, unsent, sent, cause⟩ :=
      ReceivePart.sentWithin_of_run partRun id (result.ec, buffers) held
    have earlyAt := receivePart_exec
      (plain.of_prefix ((List.prefix_append _ _).trans isPrefix))
    have sentAt := receivePart_exec (plain.of_prefix isPrefix)
    rw [earlyAt] at unsent
    rw [sentAt] at sent
    refine ⟨early, action, id, (result.ec, buffers), isPrefix, channelAt,
      unsent, sent, rfl, ?_⟩
    -- what no RECEIVE event has sent tells the last terminal event
    intro quiet broken
    rcases cause with indicated | told
    · rw [quiet] at indicated
      cases indicated
    · obtain ⟨ec, rfl⟩ := Prod.ext_iff.mp told
      change result.ec = _ at ec
      constructor
      · rw [ec]
        exact broken.failed
      · rw [copied]
        exact Nat.min_zero _

/-- Data, the peer's FIN in an empty RECEIVE event, and the end after it. -/
def finished : List StreamAction :=
  [.receive [0, 0] 2, .receiveInitiate, .event (.receive [[1, 2]]),
    .receiveHandler .success, .receiveInvoke, .event (.receive []),
    .receive [0, 0] 2, .receiveInitiate, .receiveHandler .success,
    .receiveInvoke]

/-- Data, an abort while a reader waits, and a reader after the teardown. -/
def brokenOff : List StreamAction :=
  [.receive [0] 1, .receiveInitiate, .event (.receive [[1]]),
    .receiveHandler .success, .receiveInvoke, .receive [0] 1,
    .receiveInitiate, .event .peerSendAborted, .receiveHandler .success,
    .receiveInvoke, .event .shutdownComplete, .receive [0] 1,
    .receiveInitiate, .receiveHandler .success, .receiveInvoke]

theorem no_truncation_brokenOff :
    (((streamMachine .reference).exec finished).results.length = 2 ∧
      ∀ result ∈ ((streamMachine .reference).exec finished).results,
        result.ec = .success → result.bytes = 0 → 0 < result.bufferLen →
          ∃ id buffers, result.channel = some id ∧
            ((streamMachine .reference).exec finished).ctx.receive.value? id =
              some (.success, buffers) ∧
            ∀ early, early <+: finished →
              ((streamMachine .reference).exec early).ctx.receive.value? id ≠
                none → early.any StreamAction.graceful = true) ∧
    ((streamMachine .reference).exec brokenOff).results =
      [⟨some 0, .success, 1, 1, [1]⟩,
        ⟨some 1, .basic .connectionAborted, 0, 1, [0]⟩,
        ⟨some 2, .basic .brokenPipe, 0, 1, [0]⟩] ∧
    ∀ result ∈ ((streamMachine .reference).exec brokenOff).results,
      ∃ early action id message,
        early ++ [action] <+: brokenOff ∧ result.channel = some id ∧
        ((streamMachine .reference).exec early).ctx.receive.value? id = none ∧
        ((streamMachine .reference).exec (early ++ [action])).ctx.receive.value?
          id = some message ∧
        result.ec = message.1 ∧
        (action.indicated = none → BrokenOff (early ++ [action]) →
          result.ec.failed = true ∧ result.bytes = 0) :=
  ⟨⟨by decide, (no_truncation (Machine.run_of_checks finished (by decide))).1⟩,
    by decide, (no_truncation (Machine.run_of_checks brokenOff (by decide))).2⟩

/-- Every reader that comes after an abort or the teardown gets an error. -/
def BreakTold (O : Oneshot) (actions : List StreamAction)
    (world : StreamWorld O) : Prop :=
  ∀ early lpBuffer bufferLen,
    early ++ [.receive lpBuffer bufferLen] <+: actions →
    (.event .peerSendAborted ∈ early ∨ .event .shutdownComplete ∈ early) →
      ∀ result, world.results[((streamMachine O).exec early).results.length]? =
        some result → result.ec.failed = true

def bufferedAbort : List StreamAction :=
  [.event (.receive [[1]]), .event .peerSendAborted, .receive [0] 1,
    .receiveInitiate, .receiveHandler .success, .receiveInvoke]

def abortThenEnd : List StreamAction :=
  [.event .peerSendAborted, .event .peerSendShutdown, .receive [0] 1,
    .receiveInitiate, .receiveHandler .success, .receiveInvoke]

def abortThenData : List StreamAction :=
  [.event .peerSendAborted, .event (.receive [[1]]), .receive [0] 1,
    .receiveInitiate, .receiveHandler .success, .receiveInvoke]

theorem break_not_told :
    (∀ actions ∈ [bufferedAbort, abortThenEnd, abortThenData],
      (streamMachine .reference).Run anyEvents actions
          ((streamMachine .reference).exec actions) ∧
        ¬BreakTold .reference actions
          ((streamMachine .reference).exec actions)) ∧
    ((streamMachine .reference).exec bufferedAbort).results =
      [⟨some 0, .success, 1, 1, [1]⟩] ∧
    ((streamMachine .reference).exec abortThenEnd).results =
      [⟨some 0, .success, 0, 1, [0]⟩] ∧
    ((streamMachine .reference).exec abortThenData).results =
      [⟨some 0, .success, 1, 1, [1]⟩] := by
  refine ⟨?_, by decide, by decide, by decide⟩
  intro actions member
  have succeeds : ∀ early ec, early ++ [.receive [0] 1] <+: actions →
      .event .peerSendAborted ∈ early →
      (((streamMachine .reference).exec actions).results[
        ((streamMachine .reference).exec early).results.length]?).map
          ReceiveResult.ec = some ec → ec.failed = false →
        ¬BreakTold .reference actions
          ((streamMachine .reference).exec actions) := by
    intro early ec isPrefix aborted at_ succeeded told
    obtain ⟨result, resultAt, rfl⟩ := Option.map_eq_some_iff.mp at_
    have failed := told early [0] 1 isPrefix (Or.inl aborted) result resultAt
    rw [succeeded] at failed
    cases failed
  simp only [List.mem_cons, List.not_mem_nil, or_false] at member
  rcases member with rfl | rfl | rfl
  · exact ⟨Machine.run_of_checks bufferedAbort (by decide),
      succeeds [.event (.receive [[1]]), .event .peerSendAborted] .success
        ⟨_, rfl⟩ (by decide) (by decide) (by decide)⟩
  · exact ⟨Machine.run_of_checks abortThenEnd (by decide),
      succeeds [.event .peerSendAborted, .event .peerSendShutdown] .success
        ⟨_, rfl⟩ (by decide) (by decide) (by decide)⟩
  · exact ⟨Machine.run_of_checks abortThenData (by decide),
      succeeds [.event .peerSendAborted, .event (.receive [[1]])] .success
        ⟨_, rfl⟩ (by decide) (by decide) (by decide)⟩

end StreamWorld

/-! ### A reader that comes after the end -/

namespace ReceivePart

/-- The call that made the `count`-th result was answered with `ec` and no
bytes, and gives exactly that to its handler. -/
def AnsweredEmpty (part : ReceivePart O) (count : Nat) (ec : ErrorCode) : Prop :=
  (∃ result, part.results[count]? = some result ∧ result.ec = ec ∧
      result.bytes = 0) ∨
    part.results.length = count ∧
      ((∃ channel lpBuffer bufferLen,
          part.op = .completing channel ec 0 lpBuffer bufferLen) ∨
        part.op.inProgress = true ∧ part.frontend = false ∧
          part.port.get = some (ec, []))

private theorem AnsweredEmpty.result {part : ReceivePart O} {count : Nat}
    {ec : ErrorCode} (answered : part.AnsweredEmpty count ec)
    {result : ReceiveResult} (at_ : part.results[count]? = some result) :
    result.ec = ec ∧ result.bytes = 0 := by
  rcases answered with ⟨other, otherAt, success, empty⟩ | ⟨length, _⟩
  · rw [at_] at otherAt
    obtain rfl := Option.some.inj otherAt
    exact ⟨success, empty⟩
  · have inside := (List.getElem?_eq_some_iff.mp at_).1
    omega

private theorem answered_completing {part : ReceivePart O} {ec : ErrorCode}
    {channel : Option Nat} {lpBuffer : List UInt8} {bufferLen : Nat}
    (at_ : part.op = .completing channel ec 0 lpBuffer bufferLen)
    {action : StreamAction} (enabled : part.enabled action = true) :
    (part.next action).AnsweredEmpty part.results.length ec := by
  cases action with
  | event event =>
      cases event <;>
        exact Or.inr ⟨rfl, Or.inl ⟨channel, lpBuffer, bufferLen, at_⟩⟩
  | receiveInvoke =>
      left
      simp only [ReceivePart.next, invoke, at_]
      refine ⟨⟨channel, ec, 0, bufferLen, lpBuffer⟩, ?_, rfl, rfl⟩
      rw [List.getElem?_append_right (Nat.le_refl _), Nat.sub_self]
      rfl
  | receive | receiveInitiate | receiveHandler =>
      simp only [ReceivePart.enabled, completes, at_,
        Bool.false_eq_true] at enabled
  | start | send | shutdown | shutdownInitiate | shutdownHandler =>
      exact Or.inr ⟨rfl, Or.inl ⟨channel, lpBuffer, bufferLen, at_⟩⟩

/-- No event but RECEIVE touches a channel that no reader's flag points at. -/
private theorem answered_sent {part : ReceivePart O} {ec : ErrorCode}
    (sound : part.Sound) (busy : part.op.inProgress = true)
    (lowered : part.frontend = false) (got : part.port.get = some (ec, []))
    {action : StreamAction} (enabled : part.enabled action = true)
    (quiet : action.indicated = none) :
    (part.next action).AnsweredEmpty part.results.length ec := by
  have kept : part.AnsweredEmpty part.results.length ec :=
    Or.inr ⟨rfl, Or.inr ⟨busy, lowered, got⟩⟩
  cases action with
  | event event =>
      cases event with
      | receive buffers => cases quiet
      | peerSendShutdown | peerSendAborted | shutdownComplete =>
          refine Or.inr ⟨rfl, Or.inr ⟨busy, rfl, ?_⟩⟩
          simp only [ReceivePart.next, terminal, Port.settle, lowered,
            Bool.false_eq_true, if_false]
          exact got
      | startComplete | sendComplete | other => exact kept
  | receive lpBuffer bufferLen =>
      cases at_ : part.op <;>
        simp only [ReceivePart.enabled, at_, Bool.false_eq_true] at enabled
      rw [at_] at busy
      cases busy
  | receiveInitiate =>
      cases at_ : part.op with
      | ready own lpBuffer bufferLen =>
          obtain ⟨wait, _, initiated, _⟩ := sound.initiate at_
          simp only [ReceivePart.next, initiated, Option.getD_some]
          exact Or.inr ⟨rfl, Or.inr ⟨rfl, lowered, got⟩⟩
      | idle | waiting | completing =>
          simp only [ReceivePart.enabled, at_, Bool.false_eq_true] at enabled
  | receiveHandler wait =>
      obtain ⟨_, _, lpBuffer, bufferLen, id, message, _, rxAt, found, handled,
        _⟩ := sound.handler enabled
      have same : message = (ec, []) := by
        rw [Port.get, rxAt] at got
        exact Option.some.inj (found.symm.trans got)
      subst same
      simp only [ReceivePart.next, handled, Option.getD_some]
      exact Or.inr ⟨rfl, Or.inl ⟨some id, _, bufferLen, rfl⟩⟩
  | receiveInvoke =>
      simp only [ReceivePart.next, invoke]
      split
      · rename_i at_
        rw [at_] at busy
        cases busy
      · exact kept
  | start | send | shutdown | shutdownInitiate | shutdownHandler => exact kept

private theorem AnsweredEmpty.next {part : ReceivePart O} {count : Nat}
    {ec : ErrorCode} (answered : part.AnsweredEmpty count ec)
    (sound : part.Sound) {action : StreamAction}
    (enabled : part.enabled action = true) (quiet : action.indicated = none) :
    (part.next action).AnsweredEmpty count ec := by
  rcases answered with ⟨result, at_, told⟩ |
    ⟨rfl, ⟨channel, lpBuffer, bufferLen, at_⟩ | ⟨busy, lowered, got⟩⟩
  · left
    refine ⟨result, ?_, told⟩
    have inside := (List.getElem?_eq_some_iff.mp at_).1
    rcases part.results_next action with same | ⟨_, _, _, _, _, _, same⟩
    · rw [same, at_]
    · rw [same, List.getElem?_append_left inside, at_]
  · exact answered_completing at_ enabled
  · exact answered_sent sound busy lowered got enabled quiet

def AllConsumed (part : ReceivePart O) : Prop :=
  ∀ entry ∈ part.received, ∃ read ∈ part.reads, read.channel = entry.1

private theorem Rendezvous.unbacked {part : ReceivePart O}
    {rest : List (Option Nat × List Buffer)}
    (rendezvous : part.Rendezvous rest) (all : part.AllConsumed) :
    part.backend = false := by
  have outstanding := rendezvous.outstanding
  rcases rendezvous.atMostOne with rfl | ⟨entry, rfl⟩
  · exact outstanding.1
  · obtain ⟨_, _, _, _, unread⟩ := outstanding
    have member : entry ∈ part.received := by
      rw [rendezvous.split]
      exact List.mem_append_right _ (List.mem_singleton_self _)
    obtain ⟨read, inside, same⟩ := all entry member
    exact absurd same (unread read inside)

end ReceivePart

namespace StreamWorld

end StreamWorld

end MsquicAsio
