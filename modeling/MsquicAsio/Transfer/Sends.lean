/-
What the handlers of `async_send` are told of a transfer.

The byte count of a call is fixed when msquic accepts it, and its handler is
told success when SEND_COMPLETE comes.  So the counts that were told are the
sizes of the accepted chunks, in their order, and the last chunk may still wait
for its event.
-/
import MsquicAsio.Transfer.Machine

set_option autoImplicit false

namespace MsquicAsio

variable {O : Oneshot}

private theorem UnlockedStep.refusal_failed {step : UnlockedStep}
    {report : ErrorCode × UInt64} (refused : step.refusal = some report) :
    report.1 ≠ .success := by
  cases step with
  | call status =>
      simp only [refusal] at refused
      split at refused
      · rename_i failed
        obtain rfl := Option.some.inj refused
        intro success
        exact status.nonzero failed (ErrorCode.system.inj success)
      · cases refused
  | create | assignTx | assignRx | raise | lower | sendFailure | initiate
  | invoke => cases refused

namespace UnlockedSlot

variable {slot : UnlockedSlot O} {owed : Bool} {step : UnlockedStep}

/-- A call is made and accepted only while no event is owed. -/
private theorem Sound.unowed (sound : slot.Sound owed)
    (enabled : slot.enabled step = true)
    (begins : step.accepted = true ∨ ∃ buffers, step = .create buffers) :
    owed = false := by
  have makes := makes_of_enabled enabled
  generalize slot.step step = result at makes
  cases makes with
  | create => exact sound.2
  | fails | accepts => exact sound.2.1
  | assignTx | assignRx | raise | lower | sendFailure | initiate | invoke =>
      rcases begins with accepted | ⟨buffers, same⟩
      · cases accepted
      · cases same

end UnlockedSlot

namespace StreamWorld

def sentCounts (world : StreamWorld O) : List Nat :=
  (world.sendReports.filter fun report => report.1 = .success).map
    fun report => report.2.toNat

def counted (actions : List StreamAction) (world : StreamWorld O) : List Nat :=
  world.sentCounts ++
    if world.sendOwed = true then [totalBytes (sendHistory actions).buffers]
    else []

variable {actions : List StreamAction} {world : StreamWorld O}
  {action : StreamAction}

private theorem Sending.counted_step (sending : world.Sending actions)
    (allowed : oneSend actions world action) :
    (world.step action).counted (actions ++ [action]) =
      world.counted actions ++
        if action.sendAccepted = true then
          [totalBytes (sendHistory actions).buffers]
        else [] := by
  have moves := sending.loose.send_moves allowed.1
  have sound := sending.loose.send
  simp only [counted, sentCounts, sendReports, sendHistory_concat]
  generalize world.step action = after at moves ⊢
  cases moves with
  -- an accepted call adds the chunk that from now on waits for its event
  | statement step slot enabled stepped slotAfter owed results =>
      have decided := UnlockedSlot.awaited_step sound enabled stepped
      have buffers := ((sendHistory actions).fates_add_send step).2
      have refusals : step.refusal.toList.filter
          (fun report => report.1 = .success) = [] := by
        cases refused : step.refusal with
        | none =>
            rfl
        | some report =>
            have failed := UnlockedStep.refusal_failed refused
            simp only [Option.toList_some, List.filter_singleton, failed,
              decide_false, cond_false]
      rw [results, slotAfter, owed, buffers, List.append_assoc, decided,
        ← List.append_assoc, List.filter_append, refusals, List.append_nil,
        List.append_assoc]
      congr 1
      change _ = _ ++ if step.accepted = true then _ else _
      cases accepts : step.accepted with
      | true =>
          have unowed := sound.unowed enabled (Or.inl accepts)
          have same : step.buffers (sendHistory actions).buffers =
              (sendHistory actions).buffers := by
            cases step with
            | create => cases accepts
            | assignTx | assignRx | raise | call | lower | sendFailure
            | initiate | invoke => rfl
          simp only [unowed, same, Bool.or_true, Bool.false_eq_true, if_true,
            if_false, List.nil_append]
      | false =>
          by_cases creates : ∃ buffers, step = .create buffers
          · have unowed := sound.unowed enabled (Or.inr creates)
            simp only [unowed, Bool.or_false, Bool.false_eq_true, if_false,
              List.append_nil]
          · have same : step.buffers (sendHistory actions).buffers =
                (sendHistory actions).buffers := by
              cases step with
              | create called => exact absurd ⟨called, rfl⟩ creates
              | assignTx | assignRx | raise | call | lower | sendFailure
              | initiate | invoke => rfl
            simp only [same, Bool.or_false, Bool.false_eq_true, if_false,
              List.append_nil]
  -- the chunk that waited is told: no change in what is counted
  | completes canceled owedBefore slotAfter owed results =>
      rw [owedBefore] at sound
      obtain ⟨undecided, len, known, decided⟩ :=
        UnlockedSlot.awaited_settle sound .success
      have counts := sending.counts
      rw [owedBefore] at counts
      have exact_ : len.toNat = totalBytes (sendHistory actions).buffers := by
        rw [counts.len known]
        exact countBytes_toNat _ sending.few
      rw [results, slotAfter, owed, owedBefore, decided, undecided]
      simp only [Option.toList_none, List.append_nil, Option.toList_some,
        List.filter_append, List.filter_singleton, decide_true, cond_true,
        List.map_append, List.map_singleton, exact_, Bool.false_eq_true,
        if_false, if_true, StreamAction.sendAccepted]
  | aside action notSend notComplete slotAfter owed results =>
      have notAccepted : action.sendAccepted = false := by
        cases action with
        | send step => exact absurd rfl (notSend step)
        | event | start | receive | receiveInitiate | receiveHandler
        | receiveInvoke | shutdown | shutdownInitiate | shutdownHandler => rfl
      rw [SendHistory.add_aside _ notSend notComplete, results, slotAfter, owed]
      simp only [notAccepted, Bool.false_eq_true, if_false, List.append_nil]

end StreamWorld

private theorem SendHistory.buffers_add (history : SendHistory)
    {action : StreamAction}
    (other : action.endsOrSends = false) :
    (history.add action).buffers = history.buffers := by
  cases action with
  | send step =>
      cases step with
      | create buffers => cases other
      | call status =>
          simp only [add]
          split <;> rfl
      | assignTx | assignRx | raise | lower | sendFailure | initiate
      | invoke => rfl
  | event event => cases event <;> rfl
  | start | receive | receiveInitiate | receiveHandler | receiveInvoke
  | shutdown | shutdownInitiate | shutdownHandler => rfl

namespace TransferWorld

structure Counted (actions : List TransferAction) (world : TransferWorld O) :
    Prop where
  buffers : (sendHistory (senderHistory actions)).buffers =
    bufferLengths world.buffers
  describable : Describable world.buffers
  counted : world.accepted.map List.length =
    world.sender.counted (senderHistory actions)

variable {actions : List TransferAction} {world : TransferWorld O}

private theorem senderHistory_concat (actions : List TransferAction)
    (action : TransferAction) :
    senderHistory (actions ++ [action]) =
      senderHistory actions ++ action.sender?.toList :=
  Machine.filterMap_concat _ _ _

private theorem Counted.step (counted : world.Counted actions)
    (sending : world.sender.Sending (senderHistory actions))
    {action : TransferAction} (allowed : transferring actions world action) :
    (world.step action).Counted (actions ++ [action]) := by
  have bytes := totalBytes_bufferLengths counted.describable
  cases action with
  | send buffers fin =>
      have more : senderHistory (actions ++ [.send buffers fin]) =
          senderHistory actions ++
            [.send (.create (bufferLengths buffers))] :=
        senderHistory_concat _ _
      have grows := sending.counted_step allowed.1
      refine ⟨?_, allowed.2, ?_⟩
      · rw [more, sendHistory_concat]
        rfl
      · rw [more]
        exact counted.counted.trans (grows.trans (List.append_nil _)).symm
  | shutdown graceful status =>
      have more : senderHistory (actions ++ [.shutdown graceful status]) =
          senderHistory actions ++ [.shutdown status] :=
        senderHistory_concat _ _
      have grows := sending.counted_step allowed
      refine ⟨?_, counted.describable, ?_⟩
      · rw [more, sendHistory_concat]
        exact counted.buffers
      · rw [more]
        exact counted.counted.trans (grows.trans (List.append_nil _)).symm
  | sender action =>
      have more : senderHistory (actions ++ [.sender action]) =
          senderHistory actions ++ [action] := senderHistory_concat _ _
      have grows := sending.counted_step allowed.1
      refine ⟨?_, counted.describable, ?_⟩
      · rw [more, sendHistory_concat, SendHistory.buffers_add _ allowed.2.1]
        exact counted.buffers
      · rw [more]
        refine Eq.trans ?_ grows.symm
        rw [← counted.counted, counted.buffers, bytes]
        simp only [TransferWorld.step]
        split
        · rw [List.map_append, List.map_singleton]
        · exact (List.append_nil _).symm
  | receiver action =>
      have same : senderHistory (actions ++ [.receiver action]) =
          senderHistory actions := by
        rw [senderHistory_concat]
        exact List.append_nil _
      refine ⟨?_, counted.describable, ?_⟩
      · rw [same]
        exact counted.buffers
      · rw [same]
        exact counted.counted

theorem counted_of_run
    (run : (transferMachine O).Run transferring actions world) :
    world.Counted actions := by
  apply run.invariant (fun actions world => world.Counted actions)
  · refine ⟨rfl, ?_, rfl⟩
    intro buffer impossible
    cases impossible
  · intro actions world action before counted allowed
    exact counted.step (StreamWorld.sending_of_run (senderRun before)) allowed

end TransferWorld

end MsquicAsio
