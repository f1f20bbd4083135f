/-
What the handlers of `async_send` are told.

The byte count is fixed by the call, the error comes later through the channel:
from a StreamSend that failed, or from SEND_COMPLETE.  That event says whether
the data was dropped, and the callback does not look at it.
-/
import Mathlib.Algebra.Ring.Nat
import Mathlib.Data.List.Forall2
import MsquicAsio.Stream.AnyCalls

set_option autoImplicit false

namespace MsquicAsio

variable {O : Oneshot}

/-! ### The byte count -/

def totalBytes (buffers : List UInt32) : Nat :=
  (buffers.map UInt32.toNat).sum

private theorem totalBytes_cons (length : UInt32) (rest : List UInt32) :
    totalBytes (length :: rest) = length.toNat + totalBytes rest := by
  rw [totalBytes, List.map_cons, List.sum_cons, totalBytes]

private theorem countBytes_foldl (buffers : List UInt32) (len : UInt64)
    (fits : len.toNat + totalBytes buffers < 2 ^ 64) :
    (buffers.foldl (fun len length => len + length.toUInt64) len).toNat =
      len.toNat + totalBytes buffers := by
  induction buffers generalizing len with
  | nil => rfl
  | cons length rest ih =>
      rw [totalBytes_cons] at fits
      have advanced : (len + length.toUInt64).toNat =
          len.toNat + length.toNat := by
        rw [UInt64.toNat_add, UInt32.toNat_toUInt64]
        exact Nat.mod_eq_of_lt (by omega)
      rw [List.foldl_cons, ih (len + length.toUInt64) (by omega), advanced,
        totalBytes_cons]
      omega

private theorem totalBytes_le (buffers : List UInt32) :
    totalBytes buffers ≤ buffers.length * (2 ^ 32 - 1) := by
  induction buffers with
  | nil => exact Nat.le_refl 0
  | cons length rest ih =>
      have small := length.toNat_lt
      rw [totalBytes_cons, List.length_cons]
      omega

/-- `BufferCount` buffers are too few for the sum to wrap. -/
theorem countBytes_toNat (buffers : List UInt32)
    (few : buffers.length < 2 ^ 32) :
    (countBytes buffers).toNat = totalBytes buffers := by
  have bound := totalBytes_le buffers
  rw [countBytes, countBytes_foldl buffers 0 (by
    rw [UInt64.toNat_zero]
    omega), UInt64.toNat_zero, Nat.zero_add]

/-! ### What the history decides -/

inductive SendFate
  | sent (bytes : Nat)
  | dropped
  deriving DecidableEq

/-- The handler is given success and the byte count, or an error and none. -/
def SendFate.Told : SendFate → ErrorCode × UInt64 → Prop
  | .sent bytes, report => report.1 = .success ∧ report.2.toNat = bytes
  | .dropped, report => report.1.failed = true ∧ report.2 = 0

/-- The buffers of the last call, and what became of the sends so far. -/
structure SendHistory where
  buffers : List UInt32
  fates : List SendFate
  deriving DecidableEq

namespace SendHistory

def initial : SendHistory := ⟨[], []⟩

/-- A send is decided by a StreamSend that fails and by SEND_COMPLETE. -/
def add (history : SendHistory) : StreamAction → SendHistory
  | .send (.create buffers) => { history with buffers := buffers }
  | .send (.call status) =>
      if status.quicFailed = true then
        { history with fates := history.fates ++ [.dropped] }
      else history
  | .event (.sendComplete canceled) =>
      { history with
        fates := history.fates ++
          [if canceled = true then .dropped
          else .sent (totalBytes history.buffers)] }
  | _ => history

end SendHistory

def sendHistory (actions : List StreamAction) : SendHistory :=
  actions.foldl SendHistory.add .initial

theorem sendHistory_concat (actions : List StreamAction)
    (action : StreamAction) :
    sendHistory (actions ++ [action]) = (sendHistory actions).add action := by
  simp only [sendHistory, List.foldl_append, List.foldl_cons, List.foldl_nil]

/-! ### What the operation holds for its handler -/

def UnlockedStep.refusal : UnlockedStep → Option (ErrorCode × UInt64)
  | .call status =>
      if status.quicFailed = true then some (.ofStatus status, 0) else none
  | _ => none

def UnlockedOp.len? : UnlockedOp → Option UInt64
  | .ready _ len => some len
  | .waiting _ _ len => some len
  | _ => none

/-- The call was made with these buffers; while it is owed its event, it will
report all of them. -/
def UnlockedOp.Counts (op : UnlockedOp) (owed : Bool) (buffers : List UInt32) :
    Prop :=
  match op with
  | .created _ called => called = buffers
  | .txAssigned _ called => called = buffers
  | .rxAssigned _ called => called = buffers
  | .raised _ called => called = buffers
  | .ready _ len => owed = true → len = countBytes buffers
  | .waiting _ _ len => owed = true → len = countBytes buffers
  | _ => True

def UnlockedStep.buffers (before : List UInt32) : UnlockedStep → List UInt32
  | .create buffers => buffers
  | _ => before

namespace UnlockedSlot

variable {slot after : UnlockedSlot O} {owed : Bool} {action : UnlockedStep}

def awaited (slot : UnlockedSlot O) : Option (ErrorCode × UInt64) :=
  match slot.op with
  | .callFailed _ ec => some (ec, 0)
  | .lowered _ ec => some (ec, 0)
  | .ready id len => (slot.port.value? id).map fun ec => (ec, len)
  | .waiting id _ len => (slot.port.value? id).map fun ec => (ec, len)
  | _ => none

/-- A statement decides the outcome only by being refused, and only the handler
takes it. -/
theorem awaited_step (sound : slot.Sound owed)
    (enabled : slot.enabled action = true)
    (stepped : slot.step action = some after) :
    (slot.report action).toList ++ after.awaited.toList =
      slot.awaited.toList ++ action.refusal.toList := by
  have makes := makes_of_step enabled stepped
  generalize result : some after = result at makes
  cases makes with
  | create | assignTx | assignRx | raise | lower =>
      obtain rfl := Option.some.inj result
      rfl
  | fails pending port id buffers status failed =>
      obtain rfl := Option.some.inj result
      simp only [UnlockedStep.refusal, failed, if_true]
      rfl
  | accepts pending port id buffers status accepted =>
      obtain rfl := Option.some.inj result
      obtain ⟨_, _, live, _⟩ := sound
      have unsent : port.value? id = none := live.2
      simp only [UnlockedStep.refusal, accepted, awaited, unsent, report,
        Option.map_none, Bool.false_eq_true, if_false]
  | sendFailure pending port id ec =>
      obtain ⟨_, _, attached⟩ := sound
      have sent : port.send ec = some (port.afterSend ec) := (attached.send ec).1
      rw [sent, Option.map_some] at result
      obtain rfl := Option.some.inj result
      have held := (port.afterSend_of_live ec attached.2.1
        attached.1).2.2.2.2 id
      rw [if_pos rfl] at held
      simp only [awaited, held, report, UnlockedStep.refusal, Option.map_some,
        Option.toList_none, List.nil_append, List.append_nil]
  | initiate =>
      obtain ⟨wait, _, rfl⟩ := Option.map_eq_some_iff.mp result.symm
      simp only [awaited, report, UnlockedStep.refusal, Option.toList_none,
        List.nil_append, List.append_nil]
  | invoke pending port id wait len ec completes =>
      obtain ⟨rfl, _, outcome, got⟩ := Returned.completes sound completes
      have rxAt : port.rx = some id := sound.2.1
      have gotThere : port.get = some outcome := got
      have held : port.value? id = some outcome := by
        simpa only [Port.get, rxAt] using got
      simp only [ErrorCode.failed_success, Bool.false_eq_true, if_false,
        gotThere, Option.map_some] at result
      obtain rfl := Option.some.inj result
      simp only [report, awaited, held, gotThere, UnlockedStep.refusal,
        ErrorCode.failed_success, Bool.false_eq_true, if_false,
        Option.map_some, Option.toList_none, List.append_nil]

theorem awaited_settle (sound : slot.Sound true) (ec : ErrorCode) :
    slot.awaited = none ∧ ∃ len, slot.op.len? = some len ∧
      ({ slot with pending := false, port := slot.port.afterSend ec } :
        UnlockedSlot O).awaited = some (ec, len) := by
  obtain ⟨pending, port, op⟩ := slot
  have decided : ∀ id wait,
      ({ pending := pending, port := port, op := op } :
        UnlockedSlot O).Returned true id wait →
      port.value? id = none ∧ (port.afterSend ec).value? id = some ec := by
    rintro id wait ⟨_, _, flag, settles⟩
    obtain ⟨other, same, txAt, live⟩ := settles.armed rfl
    obtain rfl := Option.some.inj same
    have held := (port.afterSend_of_live ec txAt live).2.2.2.2 id
    rw [if_pos rfl] at held
    exact ⟨live.2, held⟩
  cases op with
  | ready id len =>
      obtain ⟨unsent, held⟩ := decided id id sound
      simp only [awaited, unsent, held, Option.map_none, Option.map_some,
        UnlockedOp.len?]
      exact ⟨trivial, len, rfl, rfl⟩
  | waiting id wait len =>
      obtain ⟨unsent, held⟩ := decided id wait sound
      simp only [awaited, unsent, held, Option.map_none, Option.map_some,
        UnlockedOp.len?]
      exact ⟨trivial, len, rfl, rfl⟩
  | idle => exact absurd sound.2 (by simp)
  | created | txAssigned | rxAssigned | raised | callFailed | lowered =>
      exact absurd sound.2.1 (by simp)

private theorem counts_step (sound : slot.Sound owed)
    (enabled : slot.enabled action = true)
    (stepped : slot.step action = some after) {buffers : List UInt32}
    (counts : slot.op.Counts owed buffers) :
    after.op.Counts (owed || action.accepted) (action.buffers buffers) := by
  have makes := makes_of_step enabled stepped
  generalize result : some after = result at makes
  cases makes with
  | create =>
      obtain rfl := Option.some.inj result
      rfl
  | assignTx | assignRx | raise =>
      obtain rfl := Option.some.inj result
      exact counts
  | fails | lower =>
      obtain rfl := Option.some.inj result
      trivial
  | accepts pending port id called status accepted =>
      obtain rfl := Option.some.inj result
      obtain rfl : called = buffers := counts
      exact fun _ => rfl
  | sendFailure pending port id ec =>
      obtain ⟨_, rfl, _⟩ := sound
      obtain ⟨used, _, rfl⟩ := Option.map_eq_some_iff.mp result.symm
      intro impossible
      cases impossible
  | initiate =>
      obtain ⟨wait, _, rfl⟩ := Option.map_eq_some_iff.mp result.symm
      simp only [UnlockedStep.accepted, Bool.or_false]
      exact counts
  | invoke =>
      split at result
      · obtain rfl := Option.some.inj result
        trivial
      · obtain ⟨outcome, _, rfl⟩ := Option.map_eq_some_iff.mp result.symm
        trivial

end UnlockedSlot

private theorem UnlockedOp.Counts.paid {op : UnlockedOp} {owed : Bool}
    {buffers : List UInt32} (counts : op.Counts owed buffers) :
    op.Counts false buffers := by
  cases op with
  | ready | waiting =>
      intro impossible
      cases impossible
  | idle | created | txAssigned | rxAssigned | raised | callFailed | lowered =>
      exact counts

theorem UnlockedOp.Counts.len {op : UnlockedOp} {buffers : List UInt32}
    {len : UInt64} (counts : op.Counts true buffers)
    (known : op.len? = some len) : len = countBytes buffers := by
  cases op with
  | ready id other =>
      obtain rfl := Option.some.inj known
      exact counts rfl
  | waiting id wait other =>
      obtain rfl := Option.some.inj known
      exact counts rfl
  | idle | created | txAssigned | rxAssigned | raised | callFailed | lowered =>
      cases known

namespace SendHistory

theorem fates_add_send (history : SendHistory) (step : UnlockedStep) :
    (history.add (.send step)).fates =
        history.fates ++ (step.refusal.map fun _ => SendFate.dropped).toList ∧
      (history.add (.send step)).buffers = step.buffers history.buffers := by
  cases step with
  | call status =>
      by_cases failed : status.quicFailed = true
      · simp only [add, UnlockedStep.refusal, failed, if_true, Option.map_some,
          Option.toList_some, UnlockedStep.buffers, and_self]
      · simp only [add, UnlockedStep.refusal, failed, if_false,
          Option.map_none, Option.toList_none, List.append_nil,
          UnlockedStep.buffers, and_self, Bool.false_eq_true]
  | create | assignTx | assignRx | raise | lower | sendFailure | initiate
  | invoke => exact ⟨(List.append_nil _).symm, rfl⟩

theorem add_aside (history : SendHistory) {action : StreamAction}
    (notSend : ∀ step, action ≠ .send step)
    (notComplete : ∀ canceled, action ≠ .event (.sendComplete canceled)) :
    history.add action = history := by
  cases action with
  | send step => exact absurd rfl (notSend step)
  | event event =>
      cases event with
      | sendComplete canceled => exact absurd rfl (notComplete canceled)
      | startComplete | receive | peerSendShutdown | peerSendAborted
      | shutdownComplete | other => rfl
  | start | receive | receiveInitiate | receiveHandler | receiveInvoke
  | shutdown | shutdownInitiate | shutdownHandler => rfl

end SendHistory

private theorem forall₂_concat_iff {First Second : Type}
    {related : First → Second → Prop} (firsts : List First)
    (seconds : List Second) (first : First) (second : Second) :
    List.Forall₂ related (firsts ++ [first]) (seconds ++ [second]) ↔
      List.Forall₂ related firsts seconds ∧ related first second := by
  rw [← List.forall₂_reverse_iff, List.reverse_concat, List.reverse_concat,
    List.forall₂_cons, List.forall₂_reverse_iff]
  exact and_comm

/-! ### The handlers -/

/-- `BufferCount` is a `uint32_t`. -/
def StreamAction.fewBuffers : StreamAction → Bool
  | .send (.create buffers) => decide (buffers.length < 2 ^ 32)
  | _ => true

namespace StreamWorld

/-- One `async_send` at a time and a SEND_COMPLETE only for an accepted
StreamSend; all other calls and events come as they like. -/
def oneSend : Environment (StreamWorld O) StreamAction :=
  fun _ world action =>
    world.callable action = true ∧ action.fewBuffers = true

instance (actions : List StreamAction) (world : StreamWorld O)
    (action : StreamAction) : Decidable (oneSend actions world action) :=
  inferInstanceAs (Decidable (_ ∧ _))

def sendReports (world : StreamWorld O) : List (ErrorCode × UInt64) :=
  world.sendResults ++ world.sendSlot.awaited.toList

/-- Each send is reported as what became of it, in order. -/
def SendsTold (actions : List StreamAction) (world : StreamWorld O) : Prop :=
  List.Forall₂ SendFate.Told (sendHistory actions).fates world.sendReports

structure Sending (actions : List StreamAction) (world : StreamWorld O) :
    Prop where
  loose : world.Loose
  counts : world.sendSlot.op.Counts world.sendOwed (sendHistory actions).buffers
  few : (sendHistory actions).buffers.length < 2 ^ 32

variable {actions : List StreamAction} {world : StreamWorld O}
  {action : StreamAction}

private theorem sending_initial : (initial : StreamWorld O).Sending [] where
  loose := loose_initial
  counts := trivial
  few := by decide

private theorem Sending.step (sending : world.Sending actions)
    (allowed : oneSend actions world action) :
    (world.step action).Sending (actions ++ [action]) := by
  obtain ⟨callable, fits⟩ := allowed
  have loose := sending.loose.step callable
  have moves := sending.loose.send_moves callable
  have sound := sending.loose.send
  generalize world.step action = after at loose moves ⊢
  cases moves with
  | statement step slot enabled stepped slotAfter owed results =>
      have buffers := ((sendHistory actions).fates_add_send step).2
      have counts :=
        UnlockedSlot.counts_step sound enabled stepped sending.counts
      rw [← slotAfter, ← owed] at counts
      refine ⟨loose, ?_, ?_⟩
      · rw [sendHistory_concat, buffers]
        exact counts
      · rw [sendHistory_concat, buffers]
        cases step with
        | create called => exact of_decide_eq_true fits
        | assignTx | assignRx | raise | call | lower | sendFailure | initiate
        | invoke => exact sending.few
  | completes canceled owedBefore slotAfter owed results =>
      refine ⟨loose, ?_, ?_⟩
      · rw [sendHistory_concat, slotAfter, owed]
        exact sending.counts.paid
      · rw [sendHistory_concat]
        exact sending.few
  | aside action notSend notComplete slotAfter owed results =>
      refine ⟨loose, ?_, ?_⟩
      · rw [sendHistory_concat, SendHistory.add_aside _ notSend notComplete,
          slotAfter, owed]
        exact sending.counts
      · rw [sendHistory_concat, SendHistory.add_aside _ notSend notComplete]
        exact sending.few

/-- A step keeps the reports right unless it is a SEND_COMPLETE for data that
was dropped. -/
private theorem Sending.told_iff (sending : world.Sending actions)
    (allowed : oneSend actions world action) (told : world.SendsTold actions) :
    (world.step action).SendsTold (actions ++ [action]) ↔
      action ≠ .event (.sendComplete true) := by
  have moves := sending.loose.send_moves allowed.1
  have sound := sending.loose.send
  unfold SendsTold sendReports at told ⊢
  rw [sendHistory_concat]
  generalize world.step action = after at moves ⊢
  cases moves with
  | statement step slot enabled stepped slotAfter owed results =>
      have decided := UnlockedSlot.awaited_step sound enabled stepped
      rw [((sendHistory actions).fates_add_send step).1, results, slotAfter,
        List.append_assoc, decided, ← List.append_assoc]
      refine iff_of_true ?_ (by simp)
      cases refused : step.refusal with
      | none =>
          simp only [Option.map_none, Option.toList_none, List.append_nil]
          exact told
      | some report =>
          simp only [Option.map_some, Option.toList_some, forall₂_concat_iff]
          refine ⟨told, ?_⟩
          cases step with
          | call status =>
              simp only [UnlockedStep.refusal] at refused
              split at refused
              · rename_i failed
                obtain rfl := Option.some.inj refused
                exact ⟨decide_eq_true (status.nonzero failed), rfl⟩
              · cases refused
          | create | assignTx | assignRx | raise | lower | sendFailure
          | initiate | invoke => cases refused
  | completes canceled owedBefore slotAfter owed results =>
      rw [owedBefore] at sound
      obtain ⟨undecided, len, known, decided⟩ :=
        UnlockedSlot.awaited_settle sound .success
      have counts := sending.counts
      rw [owedBefore] at counts
      rw [undecided, Option.toList_none, List.append_nil] at told
      rw [results, slotAfter, decided]
      simp only [SendHistory.add, Option.toList_some, forall₂_concat_iff]
      cases canceled with
      | true =>
          refine iff_of_false ?_ (by simp)
          rintro ⟨_, impossible, _⟩
          cases impossible
      | false =>
          refine iff_of_true ⟨told, rfl, ?_⟩ (by simp)
          rw [counts.len known]
          exact countBytes_toNat _ sending.few
  | aside action notSend notComplete slotAfter owed results =>
      rw [SendHistory.add_aside _ notSend notComplete, results, slotAfter]
      exact iff_of_true told (notComplete true)

theorem sending_of_run (run : (streamMachine O).Run oneSend actions world) :
    world.Sending actions :=
  run.invariant (fun actions world => world.Sending actions) sending_initial
    (fun _ _ _ _ sending allowed => sending.step allowed)

/-- In every state of a run each send is reported as what became of it, exactly
when no SEND_COMPLETE of the run is for data that was dropped. -/
theorem sends_told_iff (run : (streamMachine O).Run oneSend actions world) :
    (streamMachine O).Throughout (fun actions world => world.SendsTold actions)
        actions ↔
      (streamMachine O).EachStep
        (fun _ _ action => action ≠ .event (.sendComplete true)) actions := by
  apply run.throughout_iff
  · exact .nil
  · intro actions world action before _ allowed told
    exact (sending_of_run before).told_iff allowed told

/-- The peer aborts, and msquic drops the three bytes it had accepted. -/
def sendDropped : List StreamAction :=
  [.send (.create [1, 2]), .send .assignTx, .send .assignRx, .send .raise,
    .send (.call .success), .send .initiate, .event (.sendComplete true),
    .event .peerSendAborted, .send (.invoke .success)]

theorem sendDropped_reported :
    (streamMachine .reference).Run oneSend sendDropped
        ((streamMachine .reference).exec sendDropped) ∧
      ((streamMachine .reference).exec sendDropped).sendResults =
        [(.success, 3)] ∧
      ¬((streamMachine .reference).exec sendDropped).SendsTold sendDropped := by
  refine ⟨Machine.run_of_checks sendDropped (by decide), by decide, ?_⟩
  intro told
  have reports : ((streamMachine .reference).exec sendDropped).sendReports =
      [(.success, 3)] := by decide
  have fates : (sendHistory sendDropped).fates = [.dropped] := by decide
  unfold SendsTold at told
  rw [reports, fates, List.forall₂_cons] at told
  exact absurd told.1.1 (by decide)

def sendTwice : List StreamAction :=
  [.send (.create [5]), .send .assignTx, .send .assignRx, .send .raise,
    .send (.call .failure), .send .lower, .send .sendFailure, .send .initiate,
    .send (.invoke .success), .send (.create [1, 2]), .send .assignTx,
    .send .assignRx, .send .raise, .send (.call .success),
    .event (.sendComplete false), .send .initiate, .send (.invoke .success)]

theorem sends_told_iff_sendTwice :
    (streamMachine .reference).Throughout
        (fun actions world => world.SendsTold actions) sendTwice ↔
      (streamMachine .reference).EachStep
        (fun _ _ action => action ≠ .event (.sendComplete true)) sendTwice :=
  sends_told_iff (Machine.run_of_checks sendTwice (by decide))

end StreamWorld

end MsquicAsio
