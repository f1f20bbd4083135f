/-
The copy loop of `async_receive`: its bounds, and what it leaves in the output
buffer.

The bounds are kept by every round.  The contents are not: the destination is
not advanced, so every piece is written to the beginning of the output buffer.
`Overlay` says what stands there afterwards.
-/
import MsquicAsio.Lib.Overlay
import MsquicAsio.Stream.Acknowledge
import MsquicAsio.Stream.EndOfStream

set_option autoImplicit false

namespace MsquicAsio

variable {O : Oneshot}

/-! ### The loop -/

private theorem copyBuffers_concat (lpBuffer : List UInt8) (bufferLen : Nat)
    (buffs : List Buffer) (buff : Buffer) :
    copyBuffers lpBuffer bufferLen (buffs ++ [buff]) =
      copyBuffer (copyBuffers lpBuffer bufferLen buffs) buff := by
  simp only [copyBuffers, List.foldl_append, List.foldl_cons, List.foldl_nil]

/-- What every round keeps: nothing is counted twice or lost, and each write
fitted into what was left of the output buffer. -/
structure CopyState.Bounded (round : CopyState) (bufferLen : Nat) : Prop where
  balanced : round.copied + round.remaining = bufferLen
  calls : ∀ call ∈ round.calls,
    1 ≤ call.count ∧ call.count ≤ call.destsz ∧ call.destsz ≤ bufferLen

private theorem CopyState.Bounded.round {round : CopyState} {bufferLen : Nat}
    (bounded : round.Bounded bufferLen) (buff : Buffer) :
    (copyBuffer round buff).Bounded bufferLen := by
  have balanced := bounded.balanced
  by_cases nothing : min round.remaining buff.length = 0
  · simp only [copyBuffer, nothing, if_true]
    exact bounded
  · simp only [copyBuffer, nothing, if_false]
    refine ⟨?_, ?_⟩
    · change round.copied + min round.remaining buff.length +
        (round.remaining - min round.remaining buff.length) = bufferLen
      omega
    · intro call member
      rcases List.mem_append.mp member with earlier | new
      · exact bounded.calls call earlier
      · obtain rfl := List.mem_singleton.mp new
        change 1 ≤ min round.remaining buff.length ∧
          min round.remaining buff.length ≤ round.remaining ∧
          round.remaining ≤ bufferLen
        omega

private theorem copyBuffers_bounded (lpBuffer : List UInt8) (bufferLen : Nat)
    (buffs : List Buffer) :
    (copyBuffers lpBuffer bufferLen buffs).Bounded bufferLen := by
  induction buffs using List.reverseRecOn with
  | nil =>
      exact
        { balanced := Nat.zero_add bufferLen
          calls := by intro call impossible; cases impossible }
  | append_singleton buffs buff ih =>
      rw [copyBuffers_concat]
      exact ih.round buff

private theorem lpBuffer_foldl (round : CopyState) (buffs : List Buffer) :
    (buffs.foldl copyBuffer round).lpBuffer =
      Overlay.write round.lpBuffer (Overlay.fitting round.remaining buffs) := by
  induction buffs generalizing round with
  | nil => rfl
  | cons buff rest ih =>
      rw [List.foldl_cons, ih, Overlay.fitting]
      by_cases nothing : min round.remaining buff.length = 0
      · simp only [copyBuffer, nothing, if_true]
      · have length : (buff.take round.remaining).length =
            min round.remaining buff.length := List.length_take
        have piece : buff.take (min round.remaining buff.length) =
            buff.take round.remaining := by
          rw [← List.take_take, List.take_length]
        simp only [copyBuffer, nothing, if_false, Overlay.write,
          List.foldl_cons, length, piece]
        rw [show round.remaining - min round.remaining buff.length =
          round.remaining - buff.length by omega]

theorem copyBuffers_lpBuffer (lpBuffer : List UInt8) (bufferLen : Nat)
    (buffs : List Buffer) :
    (copyBuffers lpBuffer bufferLen buffs).lpBuffer =
      Overlay.write lpBuffer (Overlay.fitting bufferLen buffs) :=
  lpBuffer_foldl ⟨lpBuffer, bufferLen, 0, []⟩ buffs

private theorem fitting_length_le (bufferLen : Nat) (buffs : List Buffer) :
    ∀ piece ∈ Overlay.fitting bufferLen buffs, piece.length ≤ bufferLen := by
  intro piece member
  have inside := List.Sublist.length_le (List.sublist_flatten_of_mem member)
  rw [Overlay.fitting_flatten] at inside
  exact Nat.le_trans inside (List.length_take_le _ _)

/-- What is asked of the loop for these buffers: its bounds after any number of
rounds, its assertions, no write beyond the room, and the count it ends with. -/
structure CopyBounded (lpBuffer : List UInt8) (bufferLen : Nat)
    (buffs : List Buffer) : Prop where
  rounds : ∀ rounds,
    (copyBuffers lpBuffer bufferLen (buffs.take rounds)).Bounded bufferLen
  succeeds : ∀ call ∈ (copyBuffers lpBuffer bufferLen buffs).calls,
    call.succeeds = true
  beyond : (copyBuffers lpBuffer bufferLen buffs).lpBuffer.drop bufferLen =
    lpBuffer.drop bufferLen
  sized : bufferLen ≤ lpBuffer.length →
    (copyBuffers lpBuffer bufferLen buffs).lpBuffer.length = lpBuffer.length
  copied : (copyBuffers lpBuffer bufferLen buffs).copied =
    min bufferLen (totalLength buffs)

private theorem copyBounded (lpBuffer : List UInt8) (bufferLen : Nat)
    (buffs : List Buffer) : CopyBounded lpBuffer bufferLen buffs where
  rounds rounds := copyBuffers_bounded lpBuffer bufferLen (buffs.take rounds)
  succeeds := by
    intro call member
    have bounded := copyBuffers_bounded lpBuffer bufferLen buffs
    exact decide_eq_true (bounded.calls call member).2.1
  beyond := by
    rw [copyBuffers_lpBuffer]
    exact Overlay.write_drop _ _ _ (fitting_length_le bufferLen buffs)
  sized := by
    intro room
    rw [copyBuffers_lpBuffer]
    exact Overlay.write_length _ _ fun piece member =>
      Nat.le_trans (fitting_length_le bufferLen buffs piece member) room
  copied := copyBuffers_copied lpBuffer bufferLen buffs

namespace AckWorld

structure PassesOn (world : AckWorld O) (ec : ErrorCode) (read : ReceiveRead) :
    Prop where
  copied : read.copied = min read.bufferLen (totalLength read.buffs)
  completes : (world.step (.stream (.receiveHandler ec))).completes =
    world.completes ++ [⟨world.h, read.copied, read.channel⟩]
  results : ∃ lpBuffer,
    ((world.step (.stream (.receiveHandler ec))).step
      (.stream .receiveInvoke)).stream.results =
        world.stream.results ++
          [⟨read.channel, read.ec, read.copied, read.bufferLen, lpBuffer⟩]
  asserted : (world.step (.stream (.receiveHandler ec))).stream.ctx.failed =
    world.stream.ctx.failed

private theorem passesOn (world : AckWorld O) (ec : ErrorCode)
    (read : ReceiveRead)
    (reads : world.stream.read? (.receiveHandler ec) = some read) :
    world.PassesOn ec read := by
  have called : world.completes ++ [world.receiveComplete read] =
      (world.step (.stream (.receiveHandler ec))).completes := by
    simp only [AckWorld.step, reads, Option.map_some, Option.toList_some]
  simp only [StreamWorld.read?] at reads
  cases failed : ec.failed with
  | true =>
      rw [if_pos failed] at reads
      cases reads
  | false =>
      rw [if_neg (Bool.eq_false_iff.mp failed)] at reads
      split at reads
      · rename_i own wait lpBuffer bufferLen message waiting got
        obtain rfl := Option.some.inj reads
        have bounded := copyBounded lpBuffer bufferLen message.2
        refine ⟨bounded.copied, called.symm, ?_, ?_⟩
        · refine ⟨(copyBuffers lpBuffer bufferLen message.2).lpBuffer, ?_⟩
          simp only [AckWorld.step, StreamWorld.step, ReceivePart.handler,
            StreamWorld.receivePart, waiting, failed, Bool.false_eq_true,
            if_false, got, Option.map_some, StreamWorld.withReceive,
            ReceivePart.invoke]
        · have asserted :
              (copyBuffers lpBuffer bufferLen message.2).calls.all
                MemcpyCall.succeeds = true :=
            List.all_eq_true.mpr bounded.succeeds
          have inBounds :
              (copyBuffers lpBuffer bufferLen message.2).copied ≤ bufferLen := by
            rw [bounded.copied]
            exact Nat.min_le_left _ _
          simp only [AckWorld.step, StreamWorld.step, ReceivePart.handler,
            ReceivePart.handlerFailures, StreamWorld.receivePart, waiting,
            failed, Bool.false_eq_true, if_false, got, Option.map_some,
            StreamWorld.withReceive, asserted, inBounds, decide_true, violated,
            if_true, List.append_nil]
      · cases reads

/-- For every list of buffers and every room the copy loop stays in its bounds
and copies as much as fits, and the lambda that runs it passes that count on. -/
theorem copy_bounded (O : Oneshot) :
    (∀ (lpBuffer : List UInt8) (bufferLen : Nat) (buffs : List Buffer),
      CopyBounded lpBuffer bufferLen buffs) ∧
    ∀ (world : AckWorld O) (ec : ErrorCode) (read : ReceiveRead),
      world.stream.read? (.receiveHandler ec) = some read →
        world.PassesOn ec read :=
  ⟨copyBounded, passesOn⟩

/-- A reader of two bytes is to take the message of three buffers, one of them
empty. -/
def readerWaits : List AckAction :=
  [.stream (.receive [0, 0] 2), .stream .receiveInitiate,
    .stream (.event (.receive [[1], [], [2, 3]]))]

theorem copy_bounded_readerWaits :
    CopyBounded [0, 0] 2 [[1], [], [2, 3]] ∧
      ((ackMachine .reference 5).exec readerWaits).PassesOn .success
        ⟨some 0, .success, [[1], [], [2, 3]], 2, 2⟩ :=
  ⟨(copy_bounded .reference).1 _ _ _,
    (copy_bounded .reference).2 _ _ _ (by decide)⟩

end AckWorld

/-! ### What the output buffers hold -/

def StreamAction.given : StreamAction → Option (List UInt8)
  | .receive lpBuffer _ => some lpBuffer
  | _ => none

def ReceiveOp.given : ReceiveOp → Option (List UInt8)
  | .ready _ lpBuffer _ => some lpBuffer
  | .waiting _ _ lpBuffer _ => some lpBuffer
  | _ => none

def ReceiveOp.report : ReceiveOp → Option ReceiveResult
  | .completing channel ec bytes lpBuffer bufferLen =>
      some ⟨channel, ec, bytes, bufferLen, lpBuffer⟩
  | _ => none

private theorem given_concat (actions : List StreamAction)
    (action : StreamAction) :
    (actions ++ [action]).filterMap StreamAction.given =
      actions.filterMap StreamAction.given ++ action.given.toList := by
  rw [List.filterMap_append]
  cases action <;> rfl

namespace ReceivePart

def reports (part : ReceivePart O) : List ReceiveResult :=
  part.results ++ part.op.report.toList

/-- The reported bytes are those of the RECEIVE event in their order, and
behind them the output buffer is as the call found it. -/
def Placed (part : ReceivePart O) (given : List UInt8)
    (report : ReceiveResult) : Prop :=
  (∀ buffers, (report.channel, buffers) ∈ part.received →
    report.lpBuffer.take report.bytes = buffers.flatten.take report.bytes) ∧
  report.lpBuffer.drop report.bytes = given.drop report.bytes

def AllPlaced (actions : List StreamAction) (part : ReceivePart O) : Prop :=
  ∀ entry ∈ (actions.filterMap StreamAction.given).zip part.reports,
    part.Placed entry.1 entry.2

/-- A lambda that copies has at most one piece to place, or its output buffer
happens to hold already what the pieces do not reach. -/
def LandsInPlace (part : ReceivePart O) (action : StreamAction) : Prop :=
  ∀ ec own wait lpBuffer bufferLen message,
    action = .receiveHandler ec →
    part.op = .waiting own wait lpBuffer bufferLen →
    part.port.get = some message →
      Overlay.InPlace lpBuffer (Overlay.fitting bufferLen message.2)

structure Copying (actions : List StreamAction) (part : ReceivePart O) :
    Prop where
  carried : part.Carried
  held : ∀ entry ∈ part.received, ∃ id, entry.1 = some id ∧
    part.port.value? id = some (.success, entry.2)
  aligned : ∃ earlier, earlier.length = part.reports.length ∧
    actions.filterMap StreamAction.given = earlier ++ part.op.given.toList

theorem reports_next {part : ReceivePart O} (sound : part.Sound)
    {action : StreamAction} (enabled : part.enabled action = true)
    (other : ∀ ec, action ≠ .receiveHandler ec) :
    (part.next action).reports = part.reports ∧
      (part.next action).op.given.toList =
        part.op.given.toList ++ action.given.toList := by
  cases action with
  | event event =>
      cases event <;> exact ⟨rfl, (List.append_nil _).symm⟩
  | receive lpBuffer bufferLen =>
      have idle : part.op = .idle := by
        cases at_ : part.op <;>
          simp only [ReceivePart.enabled, at_, Bool.false_eq_true] at enabled ⊢
      simp only [next, called, reports, idle]
      split
      · exact ⟨rfl, rfl⟩
      · split <;> exact ⟨rfl, rfl⟩
  | receiveInitiate =>
      cases at_ : part.op with
      | ready own lpBuffer bufferLen =>
          obtain ⟨wait, _, initiated, _⟩ := sound.initiate at_
          simp only [next, initiated, Option.getD_some, reports, at_]
          exact ⟨rfl, rfl⟩
      | idle | waiting | completing =>
          simp only [ReceivePart.enabled, at_, Bool.false_eq_true] at enabled
  | receiveHandler ec => exact absurd rfl (other ec)
  | receiveInvoke =>
      cases at_ : part.op with
      | completing channel ec bytes lpBuffer bufferLen =>
          simp only [next, invoke, reports, at_]
          exact ⟨List.append_nil _, rfl⟩
      | idle | ready | waiting =>
          simp only [ReceivePart.enabled, at_, Bool.false_eq_true] at enabled
  | start | send | shutdown | shutdownInitiate | shutdownHandler =>
      exact ⟨rfl, (List.append_nil _).symm⟩

private theorem copying_initial : (receiveMachine O).initial.Copying [] where
  carried := carried_initial
  held := by intro entry impossible; cases impossible
  aligned := ⟨[], rfl, rfl⟩

namespace Copying

variable {actions : List StreamAction} {part : ReceivePart O}

private theorem held_next (copying : part.Copying actions) (sound : part.Sound)
    (action : StreamAction) :
    ∀ entry ∈ (part.next action).received, ∃ id, entry.1 = some id ∧
      (part.next action).port.value? id = some (.success, entry.2) := by
  have kept : ∀ entry ∈ part.received, ∃ id, entry.1 = some id ∧
      (part.next action).port.value? id = some (.success, entry.2) := by
    intro entry member
    obtain ⟨id, entryAt, held⟩ := copying.held entry member
    exact ⟨id, entryAt, part.value?_next action held⟩
  rcases part.next_cases action with
    ⟨event, rfl⟩ | ⟨lpBuffer, bufferLen, rfl⟩ | ⟨_, _, _, _, _, _, same⟩
  · cases event with
    | receive buffers =>
        intro entry member
        rcases List.mem_append.mp member with old | new
        · exact kept entry old
        · obtain rfl := List.mem_singleton.mp new
          obtain ⟨id, txAt, _, live, _⟩ := Rendezvous.target_live sound
          have sent := part.target.afterSend_of_live (.success, buffers) txAt live
          refine ⟨id, txAt, ?_⟩
          simp only [next, ReceivePart.indicated, sent.2.2.2.2 id, if_true]
    | startComplete | sendComplete | peerSendShutdown | peerSendAborted
    | shutdownComplete | other => exact kept
  · intro entry member
    refine kept entry ?_
    simp only [next, ReceivePart.called] at member
    split at member
    · exact member
    · split at member <;> exact member
  · intro entry member
    rw [same] at member
    exact kept entry member

private theorem reading (copying : part.Copying actions) {own : Option Nat}
    {wait bufferLen : Nat} {lpBuffer : List UInt8}
    (at_ : part.op = .waiting own wait lpBuffer bufferLen) (id : Nat)
    (message : ReceiveMessage) :
    ∃ earlier, earlier.length = part.reports.length ∧
      actions.filterMap StreamAction.given = earlier ++ [lpBuffer] ∧
      (Sound.reading part id message lpBuffer bufferLen).reports =
        part.reports ++ [⟨some id, message.1,
          (copyBuffers lpBuffer bufferLen message.2).copied, bufferLen,
          (copyBuffers lpBuffer bufferLen message.2).lpBuffer⟩] := by
  obtain ⟨earlier, sameLength, given⟩ := copying.aligned
  rw [at_] at given
  refine ⟨earlier, sameLength, given, ?_⟩
  simp only [reports, Sound.reading, at_, ReceiveOp.report,
    Option.toList_none, List.append_nil, Option.toList_some]

private theorem next (copying : part.Copying actions) (sound : part.Sound)
    {action : StreamAction} (enabled : part.enabled action = true) :
    (part.next action).Copying (actions ++ [action]) := by
  refine ⟨copying.carried.next action, copying.held_next sound action, ?_⟩
  rw [given_concat]
  by_cases handles : ∃ ec, action = .receiveHandler ec
  · obtain ⟨ec, rfl⟩ := handles
    obtain ⟨own, wait, lpBuffer, bufferLen, id, message, at_, _, _, handled, _⟩ :=
      sound.handler enabled
    obtain ⟨earlier, sameLength, given, reported⟩ :=
      copying.reading at_ id message
    simp only [ReceivePart.next, handled, Option.getD_some]
    refine ⟨earlier ++ [lpBuffer], ?_, by rw [given]; rfl⟩
    rw [reported, List.length_append, List.length_append, sameLength]
    rfl
  · obtain ⟨sameReports, given⟩ := reports_next sound enabled
      fun ec same => handles ⟨ec, same⟩
    obtain ⟨earlier, sameLength, before⟩ := copying.aligned
    refine ⟨earlier, by rw [sameReports, sameLength], ?_⟩
    rw [before, given, List.append_assoc]

private theorem buffers_eq (copying : part.Copying actions) {id : Nat}
    {message : ReceiveMessage} {buffers : List Buffer}
    (found : part.port.value? id = some message)
    (member : (some id, buffers) ∈ part.received) : message.2 = buffers := by
  obtain ⟨other, sameChannel, held⟩ := copying.held _ member
  obtain rfl := Option.some.inj sameChannel
  rw [found] at held
  exact congrArg Prod.snd (Option.some.inj held)

/-- What the lambda leaves in its output buffer is in place exactly when the
pieces that fit come to stand one behind the other. -/
private theorem placed_iff (copying : part.Copying actions) {id : Nat}
    {message : ReceiveMessage} (found : part.port.value? id = some message)
    (lpBuffer : List UInt8) (bufferLen : Nat) :
    part.Placed lpBuffer ⟨some id, message.1,
        (copyBuffers lpBuffer bufferLen message.2).copied, bufferLen,
        (copyBuffers lpBuffer bufferLen message.2).lpBuffer⟩ ↔
      Overlay.InPlace lpBuffer (Overlay.fitting bufferLen message.2) := by
  have count : (copyBuffers lpBuffer bufferLen message.2).copied =
      (Overlay.fitting bufferLen message.2).flatten.length := by
    rw [copyBuffers_copied, Overlay.fitting_flatten, List.length_take,
      totalLength]
  have behind : (copyBuffers lpBuffer bufferLen message.2).lpBuffer.drop
      (copyBuffers lpBuffer bufferLen message.2).copied =
        lpBuffer.drop (copyBuffers lpBuffer bufferLen message.2).copied := by
    rw [copyBuffers_lpBuffer, count]
    exact Overlay.write_drop _ _ _ fun piece member =>
      List.Sublist.length_le (List.sublist_flatten_of_mem member)
  have reported : message.2.flatten.take
      (copyBuffers lpBuffer bufferLen message.2).copied =
        (Overlay.fitting bufferLen message.2).flatten := by
    rw [copyBuffers_copied, Overlay.fitting_flatten, totalLength,
      ← List.take_take, List.take_length]
  rw [← Overlay.write_take_iff, ← copyBuffers_lpBuffer, ← count, ← reported]
  constructor
  · rintro ⟨same, _⟩
    rcases copying.carried id message found with ⟨entry, member, entryAt⟩ | empty
    · have received : (some id, entry.2) ∈ part.received := by
        rw [← entryAt]
        exact member
      rw [copying.buffers_eq found received]
      rw [copying.buffers_eq found received] at same
      exact same entry.2 received
    · have none_ : (copyBuffers lpBuffer bufferLen message.2).copied = 0 := by
        rw [count, empty]
        rfl
      rw [none_, List.take_zero, List.take_zero]
  · intro same
    refine ⟨?_, behind⟩
    intro buffers received
    rw [← copying.buffers_eq found received]
    exact same

/-- A channel from which a handler was told holds a message already, so no
later RECEIVE event goes into it. -/
private theorem received_next {channel : Option Nat} {ec : ErrorCode}
    {bytes bufferLen : Nat} {buffers : List Buffer} (sound : part.Sound)
    (reported : part.Reported channel ec bytes bufferLen)
    {action : StreamAction}
    (member : (channel, buffers) ∈ (part.next action).received) :
    (channel, buffers) ∈ part.received := by
  rcases part.next_cases action with
    ⟨event, rfl⟩ | ⟨lpBuffer, bufferLen, rfl⟩ | ⟨_, _, _, _, _, _, same⟩
  · cases event with
    | receive indicated =>
        rcases List.mem_append.mp member with old | new
        · exact old
        · obtain ⟨id, _, rfl, held, _⟩ := reported
          obtain ⟨other, txAt, _, _, unsent⟩ := Rendezvous.target_live sound
          have sameChannel := (Prod.mk.inj (List.mem_singleton.mp new)).1
          rw [txAt] at sameChannel
          obtain rfl := Option.some.inj sameChannel
          rw [unsent] at held
          cases held
    | startComplete | sendComplete | peerSendShutdown | peerSendAborted
    | shutdownComplete | other => exact member
  · simp only [ReceivePart.next, ReceivePart.called] at member
    split at member
    · exact member
    · split at member <;> exact member
  · rw [same] at member
    exact member

private theorem zip_append_left {First Second : Type} (first more : List First)
    (second : List Second) (same : first.length = second.length) :
    (first ++ more).zip second = first.zip second := by
  have apart : (first ++ more).zip (second ++ []) =
      first.zip second ++ more.zip [] := List.zip_append same
  rwa [List.append_nil, List.zip_nil_right, List.append_nil] at apart

private theorem allPlaced_next (copying : part.Copying actions)
    (sound : part.Sound)
    (reported : ∀ report ∈ part.reports, part.Reported report.channel
      report.ec report.bytes report.bufferLen)
    {action : StreamAction} (enabled : part.enabled action = true)
    (other : ∀ ec, action ≠ .receiveHandler ec)
    (placed : part.AllPlaced actions) :
    (part.next action).AllPlaced (actions ++ [action]) := by
  obtain ⟨sameReports, _⟩ := reports_next sound enabled other
  obtain ⟨earlier, sameLength, given⟩ := copying.aligned
  unfold AllPlaced at placed ⊢
  rw [given, zip_append_left _ _ _ sameLength] at placed
  rw [given_concat, given, List.append_assoc, sameReports,
    zip_append_left _ _ _ sameLength]
  intro entry member
  obtain ⟨same, behind⟩ := placed entry member
  refine ⟨?_, behind⟩
  intro buffers received
  exact same buffers
    (received_next sound (reported _ (List.of_mem_zip member).2) received)

/-- The lambda that copies leaves everything in place exactly when its own
pieces come to stand one behind the other. -/
private theorem allPlaced_reading_iff (copying : part.Copying actions)
    {own : Option Nat} {wait id bufferLen : Nat} {lpBuffer : List UInt8}
    {message : ReceiveMessage} {ec : ErrorCode}
    (at_ : part.op = .waiting own wait lpBuffer bufferLen)
    (found : part.port.value? id = some message)
    (placed : part.AllPlaced actions) :
    (Sound.reading part id message lpBuffer bufferLen).AllPlaced
        (actions ++ [.receiveHandler ec]) ↔
      Overlay.InPlace lpBuffer (Overlay.fitting bufferLen message.2) := by
  obtain ⟨earlier, sameLength, given, reported⟩ :=
    copying.reading at_ id message
  rw [← copying.placed_iff found lpBuffer bufferLen]
  unfold AllPlaced at placed ⊢
  rw [given, zip_append_left _ _ _ sameLength] at placed
  rw [given_concat, given, reported]
  simp only [StreamAction.given, Option.toList_none, List.append_nil,
    List.zip_append sameLength, List.zip_cons_cons, List.zip_nil_right,
    List.forall_mem_append, List.forall_mem_singleton]
  exact ⟨fun both => both.2, fun new => ⟨placed, new⟩⟩

private theorem allPlaced_next_iff (copying : part.Copying actions)
    (sound : part.Sound)
    (reported : ∀ report ∈ part.reports, part.Reported report.channel
      report.ec report.bytes report.bufferLen)
    {action : StreamAction} (enabled : part.enabled action = true)
    (placed : part.AllPlaced actions) :
    (part.next action).AllPlaced (actions ++ [action]) ↔
      part.LandsInPlace action := by
  by_cases handles : ∃ ec, action = .receiveHandler ec
  · obtain ⟨ec, rfl⟩ := handles
    obtain ⟨own, wait, lpBuffer, bufferLen, id, message, at_, rxAt, found,
      handled, _⟩ := sound.handler enabled
    have got : part.port.get = some message := by
      simp only [Port.get, rxAt, found]
    simp only [ReceivePart.next, handled, Option.getD_some]
    rw [copying.allPlaced_reading_iff at_ found placed]
    constructor
    · rintro inPlace _ _ _ _ _ _ _ same gotSame
      rw [at_] at same
      obtain ⟨rfl, rfl, rfl, rfl⟩ := ReceiveOp.waiting.inj same
      rw [got] at gotSame
      obtain rfl := Option.some.inj gotSame
      exact inPlace
    · intro lands
      exact lands ec own wait lpBuffer bufferLen message rfl at_ got
  · have other : ∀ ec, action ≠ .receiveHandler ec :=
      fun ec same => handles ⟨ec, same⟩
    constructor
    · rintro _ ec _ _ _ _ _ same
      exact absurd same (other ec)
    · intro _
      exact copying.allPlaced_next sound reported enabled other placed

end Copying

private theorem reports_of_run
    {condition : Environment (ReceivePart O) StreamAction}
    {actions : List StreamAction} {part : ReceivePart O}
    (run : (receiveMachine O).Run (under condition) actions part) :
    ∀ report ∈ part.reports, part.Reported report.channel report.ec
      report.bytes report.bufferLen := by
  obtain ⟨results, completing⟩ := reported_of_run run
  intro report member
  rcases List.mem_append.mp member with told | telling
  · exact results report told
  · unfold ReceiveOp.report at telling
    split at telling
    · rename_i at_
      obtain rfl := List.mem_singleton.mp telling
      exact completing _ _ _ _ _ at_
    · cases telling

theorem copying_of_run {condition : Environment (ReceivePart O) StreamAction}
    {actions : List StreamAction} {part : ReceivePart O}
    (run : (receiveMachine O).Run (under condition) actions part) :
    part.Copying actions := by
  apply run.invariant (fun actions part => part.Copying actions) copying_initial
  intro actions part action before copying allowed
  exact copying.next (sound_of_run before) allowed.1

end ReceivePart

namespace StreamWorld

/-- In every state of a run the reported bytes are in place exactly when each
lambda that copies has its pieces come to stand one behind the other.  Whatever
the output buffer held before the call, they do exactly when no more than one
buffer that is not empty is copied from. -/
theorem copied_in_place_iff {actions : List StreamAction}
    {world : StreamWorld O}
    (run : (streamMachine O).Run anyEvents actions world) :
    ((streamMachine O).Throughout
        (fun actions world => world.receivePart.AllPlaced actions) actions ↔
      (streamMachine O).EachStep
        (fun _ world action => world.receivePart.LandsInPlace action)
        actions) ∧
    ∀ (bufferLen : Nat) (buffs : List Buffer),
      (∀ lpBuffer : List UInt8, bufferLen ≤ lpBuffer.length →
        Overlay.InPlace lpBuffer (Overlay.fitting bufferLen buffs)) ↔
      (Overlay.fitting bufferLen buffs).length ≤ 1 := by
  constructor
  · apply run.throughout_iff
    · intro entry impossible
      cases impossible
    · intro actions world action before _ enabled placed
      have ordered : (streamMachine O).Run (under fun _ _ _ => True) actions
          world := before.mono fun _ _ _ allowed => ⟨allowed, trivial⟩
      have locked := lockedRun ordered
      have partRun := receiveRun ordered
      have moved : ((streamMachine O).step world action).receivePart =
          world.receivePart.next action :=
        world.receivePart_step action locked.guarded
      rw [moved]
      exact (ReceivePart.copying_of_run partRun).allPlaced_next_iff
        locked.receive (ReceivePart.reports_of_run partRun)
        (Locked.part_enabled enabled) placed
  · intro bufferLen buffs
    have : Nontrivial UInt8 := ⟨0, 1, by decide⟩
    apply Overlay.inPlace_always_iff _ (Overlay.fitting_nonempty bufferLen buffs)
    rw [Overlay.fitting_flatten]
    exact List.length_take_le _ _

def readPieces : List StreamAction :=
  [.receive [0, 0] 2, .receiveInitiate, .event (.receive [[1], [2]]),
    .receiveHandler .success, .receiveInvoke]

theorem readPieces_overwritten :
    (streamMachine .reference).Run anyEvents readPieces
        ((streamMachine .reference).exec readPieces) ∧
      ((streamMachine .reference).exec readPieces).results =
        [⟨some 0, .success, 2, 2, [2, 0]⟩] ∧
      ¬((streamMachine .reference).exec readPieces).receivePart.AllPlaced
        readPieces := by
  refine ⟨Machine.run_of_checks readPieces (by decide), by decide, ?_⟩
  intro placed
  have first := (placed ([0, 0], ⟨some 0, .success, 2, 2, [2, 0]⟩)
    (by decide)).1 [[1], [2]] (by decide)
  exact absurd first (by decide)

theorem copied_in_place_iff_readPieces :
    ((streamMachine .reference).Throughout
        (fun actions world => world.receivePart.AllPlaced actions)
        readPieces ↔
      (streamMachine .reference).EachStep
        (fun _ world action => world.receivePart.LandsInPlace action)
        readPieces) ∧
    ((∀ lpBuffer : List UInt8, 2 ≤ lpBuffer.length →
        Overlay.InPlace lpBuffer (Overlay.fitting 2 [[1], [2]])) ↔
      (Overlay.fitting 2 [[1], [2]] : List Buffer).length ≤ 1) := by
  have run : (streamMachine .reference).Run anyEvents readPieces
      ((streamMachine .reference).exec readPieces) :=
    Machine.run_of_checks readPieces (by decide)
  exact ⟨(copied_in_place_iff run).1, (copied_in_place_iff run).2 2 _⟩

end StreamWorld

end MsquicAsio
