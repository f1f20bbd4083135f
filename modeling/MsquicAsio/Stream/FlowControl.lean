/-
Partial acknowledgements and the flow control of msquic.

`receive_complete` acknowledges what was copied.  When that is less than what
was indicated msquic pauses the stream, and the code never resumes it: from
then on no RECEIVE event comes, and a reader on an open stream waits in vain.
-/
import MsquicAsio.Stream.EndOfStream

set_option autoImplicit false

namespace MsquicAsio

variable {O : Oneshot}

namespace ReceivePart

/-- RECEIVE events come one at a time, and none while they are paused. -/
def flowControl : Environment (ReceivePart O) StreamAction :=
  fun actions part action =>
    oneReceive actions part action ∧
      (action.indicated ≠ none → part.delivery.paused = false)

instance (actions : List StreamAction) (part : ReceivePart O)
    (action : StreamAction) : Decidable (flowControl actions part action) :=
  inferInstanceAs (Decidable (_ ∧ (_ → _)))

/-- The reader's buffer was too small for what was indicated. -/
def Truncated (part : ReceivePart O) : Prop :=
  ∃ read ∈ part.reads, read.bufferLen < totalLength read.buffs

structure Flow (part : ReceivePart O) : Prop where
  paused_iff : part.delivery.paused = true ↔ part.Truncated
  stopped : part.delivery.paused = true →
    part.delivery.uncompleted = none ∧ 0 < part.delivery.unread
  /-- Only RECEIVE events carry bytes. -/
  carried : ∀ id message, part.port.value? id = some message →
    (∃ entry ∈ part.received, entry.1 = some id) ∨ message.2 = []

namespace Flow

variable {part : ReceivePart O} {rest : List (Option Nat × List Buffer)}

private theorem unmoved (flow : part.Flow) {action : StreamAction}
    (reads : (part.next action).reads = part.reads)
    (delivery : (part.next action).delivery = part.delivery) :
    (part.next action).Flow where
  paused_iff := by
    rw [delivery, Truncated, reads]
    exact flow.paused_iff
  stopped := by
    rw [delivery]
    exact flow.stopped
  carried := Carried.next flow.carried action

private theorem indicated (flow : part.Flow) (buffers : List Buffer)
    (running : part.delivery.paused = false) :
    (part.next (.event (.receive buffers))).Flow where
  paused_iff := flow.paused_iff
  stopped := by
    intro paused
    change part.delivery.paused = true at paused
    rw [running] at paused
    cases paused
  carried := Carried.next flow.carried _

/-- Acknowledging a read pauses the stream exactly when the read was cut. -/
private theorem reading (flow : part.Flow) (rendezvous : part.Rendezvous rest)
    {id : Nat} {message : ReceiveMessage} (rxAt : part.port.rx = some id)
    (found : part.port.value? id = some message)
    (busy : part.op.inProgress = true) (lpBuffer : List UInt8)
    (bufferLen : Nat) :
    (Sound.reading part id message lpBuffer bufferLen).Flow := by
  have truncated : (Sound.reading part id message lpBuffer bufferLen).Truncated ↔
      part.Truncated ∨ bufferLen < totalLength message.2 := by
    simp only [Truncated, Sound.reading, List.mem_append, List.mem_singleton]
    constructor
    · rintro ⟨read, old | rfl, short⟩
      · exact Or.inl ⟨read, old, short⟩
      · exact Or.inr short
    · rintro (⟨read, old, short⟩ | short)
      · exact ⟨read, Or.inl old, short⟩
      · exact ⟨_, Or.inr rfl, short⟩
  have outstanding := rendezvous.outstanding
  rcases rendezvous.atMostOne with rfl | ⟨entry, rfl⟩
  -- no RECEIVE event is outstanding: an answer without bytes is read
  · obtain ⟨_, completed, others⟩ := outstanding
    have noBytes : totalLength message.2 = 0 := by
      rcases flow.carried id message found with ⟨entry, member, same⟩ | empty
      · exact absurd (same.trans rxAt.symm) ((others busy).1 entry member)
      · rw [empty]
        rfl
    have delivery : (Sound.reading part id message lpBuffer bufferLen).delivery =
        part.delivery := by
      simp only [Sound.reading, Delivery.complete, completed]
    refine ⟨?_, ?_, flow.carried⟩
    · rw [truncated, delivery, noBytes, flow.paused_iff]
      simp only [Nat.not_lt_zero, or_false]
    · rw [delivery]
      exact flow.stopped
  -- the outstanding RECEIVE event is acknowledged with what was copied
  · obtain ⟨sameRx, _, _, uncompleted, _⟩ := outstanding
    have member : entry ∈ part.received := by
      rw [rendezvous.split]
      exact List.mem_append_right _ (List.mem_singleton_self _)
    obtain ⟨other, entryAt, held⟩ := rendezvous.held entry member
    rw [sameRx, rxAt] at entryAt
    obtain rfl := Option.some.inj entryAt
    rw [found] at held
    obtain rfl := Option.some.inj held
    have running : part.delivery.paused = false := by
      cases paused : part.delivery.paused with
      | false => rfl
      | true =>
          have completed := (flow.stopped paused).1
          rw [uncompleted] at completed
          cases completed
    have untruncated : ¬part.Truncated := by
      rw [← flow.paused_iff, running]
      exact Bool.false_ne_true
    have delivery : (Sound.reading part id (.success, entry.2) lpBuffer
        bufferLen).delivery =
          ⟨none, decide (bufferLen < totalLength entry.2),
            totalLength entry.2 - min bufferLen (totalLength entry.2)⟩ := by
      simp only [Sound.reading, Delivery.complete, uncompleted,
        copyBuffers_copied, running, Bool.false_or, Delivery.mk.injEq,
        true_and, and_true, decide_eq_decide]
      omega
    refine ⟨?_, ?_, flow.carried⟩
    · rw [truncated, delivery, decide_eq_true_eq]
      simp only [untruncated, false_or]
    · rw [delivery]
      intro paused
      have short : bufferLen < totalLength entry.2 := of_decide_eq_true paused
      refine ⟨rfl, ?_⟩
      simp only
      omega

private theorem next (flow : part.Flow) (sound : part.Sound)
    (rendezvous : part.Rendezvous rest) {action : StreamAction}
    (enabled : part.enabled action = true)
    (running : action.indicated ≠ none → part.delivery.paused = false) :
    (part.next action).Flow := by
  cases action with
  | event event =>
      cases event with
      | receive buffers =>
          exact flow.indicated buffers
            (running (by simp only [StreamAction.indicated, ne_eq,
              reduceCtorEq, not_false_eq_true]))
      | startComplete | sendComplete | peerSendShutdown | peerSendAborted
      | shutdownComplete | other => exact flow.unmoved rfl rfl
  | receive lpBuffer bufferLen =>
      apply flow.unmoved <;>
        (simp only [ReceivePart.next, called]
         split
         · rfl
         · split <;> rfl)
  | receiveInitiate =>
      cases at_ : part.op with
      | ready own lpBuffer bufferLen =>
          obtain ⟨wait, _, initiated, _⟩ := sound.initiate at_
          apply flow.unmoved <;>
            simp only [ReceivePart.next, initiated, Option.getD_some]
      | idle | waiting | completing =>
          simp only [ReceivePart.enabled, at_, Bool.false_eq_true] at enabled
  | receiveHandler ec =>
      obtain ⟨own, wait, lpBuffer, bufferLen, id, message, at_, rxAt, found,
        handled, _⟩ := sound.handler enabled
      simp only [ReceivePart.next, handled, Option.getD_some]
      exact flow.reading rendezvous rxAt found (by rw [at_]; rfl)
        lpBuffer bufferLen
  | receiveInvoke =>
      apply flow.unmoved <;>
        (simp only [ReceivePart.next, invoke]
         split <;> rfl)
  | start | send | shutdown | shutdownInitiate | shutdownHandler =>
      exact flow.unmoved rfl rfl

end Flow

private theorem flow_initial : (receiveMachine O).initial.Flow where
  paused_iff := by
    constructor
    · intro impossible
      cases impossible
    · rintro ⟨read, member, _⟩
      cases member
  stopped := by intro impossible; cases impossible
  carried := carried_initial

theorem flow_of_run {actions : List StreamAction} {part : ReceivePart O}
    (run : (receiveMachine O).Run (under flowControl) actions part) :
    part.Flow := by
  apply run.invariant (fun _ part => part.Flow) flow_initial
  rintro actions part action before flow ⟨enabled, _, running⟩
  obtain ⟨rest, rendezvous⟩ :=
    rendezvous_of_run (fun _ _ _ allowed => allowed.1) before
  exact flow.next (sound_of_run before) rendezvous enabled running

/-- A reader waits for bytes that were indicated and that will not come. -/
def Stalled (part : ReceivePart O) : Prop :=
  part.frontend = true ∧ 0 < part.delivery.unread ∧
    part.delivery.paused = true

private theorem flowing_of_lowered {part : ReceivePart O}
    (low : part.frontend = false) : ¬part.Stalled := by
  rintro ⟨raised, _⟩
  rw [low] at raised
  cases raised

private theorem flowing_next {part : ReceivePart O} (sound : part.Sound)
    {action : StreamAction} (enabled : part.enabled action = true)
    (before : ¬part.Stalled)
    (other : ∀ lpBuffer bufferLen, action ≠ .receive lpBuffer bufferLen) :
    ¬(part.next action).Stalled := by
  cases action with
  | event event =>
      cases event with
      | receive | peerSendShutdown | peerSendAborted | shutdownComplete =>
          exact flowing_of_lowered rfl
      | startComplete | sendComplete | other => exact before
  | receive lpBuffer bufferLen => exact absurd rfl (other lpBuffer bufferLen)
  | receiveInitiate =>
      cases at_ : part.op with
      | ready own lpBuffer bufferLen =>
          obtain ⟨wait, _, initiated, _⟩ := sound.initiate at_
          simp only [next, initiated, Option.getD_some]
          exact before
      | idle | waiting | completing =>
          simp only [ReceivePart.enabled, at_, Bool.false_eq_true] at enabled
  | receiveHandler ec =>
      have low := (sound.completes enabled).2.1
      obtain ⟨_, _, _, _, _, _, _, _, _, handled, _⟩ := sound.handler enabled
      simp only [next, handled, Option.getD_some]
      exact flowing_of_lowered low
  | receiveInvoke =>
      simp only [next, invoke]
      split <;> exact before
  | start | send | shutdown | shutdownInitiate | shutdownHandler => exact before

private theorem stalled_called {part : ReceivePart O}
    {rest : List (Option Nat × List Buffer)} (sound : part.Sound)
    (rendezvous : part.Rendezvous rest) (flow : part.Flow)
    {lpBuffer : List UInt8} {bufferLen : Nat} (idle : part.op = .idle) :
    (part.next (.receive lpBuffer bufferLen)).Stalled ↔
      part.state = .ok ∧ part.Truncated := by
  have low : part.frontend = false := by
    have settles := sound.settles
    rw [idle] at settles
    exact settles.lowered_of_none
  simp only [next, called]
  cases raised : part.backend with
  | true =>
      -- the buffered RECEIVE event is uncompleted, so nothing is paused
      have outstanding := rendezvous.outstanding
      rcases rendezvous.atMostOne with rfl | ⟨entry, rfl⟩
      · rw [outstanding.1] at raised
        cases raised
      · refine iff_of_false (flowing_of_lowered low) ?_
        rintro ⟨_, truncated⟩
        have completed := (flow.stopped (flow.paused_iff.mpr truncated)).1
        rw [outstanding.2.2.2.1] at completed
        cases completed
  | false =>
      by_cases open_ : part.state = .ok
      · simp only [open_, Bool.false_eq_true, if_false, if_true, Stalled,
          true_and, ← flow.paused_iff]
        constructor
        · rintro ⟨_, paused⟩
          exact paused
        · intro paused
          exact ⟨(flow.stopped paused).2, paused⟩
      · simp only [open_, Bool.false_eq_true, if_false, false_and, iff_false]
        exact flowing_of_lowered low

/-- A step leaves a reader stalled exactly when it is a call on an open stream
after a truncated read. -/
private theorem stalled_next {part : ReceivePart O}
    {rest : List (Option Nat × List Buffer)} (sound : part.Sound)
    (rendezvous : part.Rendezvous rest) (flow : part.Flow)
    {action : StreamAction} (enabled : part.enabled action = true)
    (before : ¬part.Stalled) :
    (part.next action).Stalled ↔
      (∃ lpBuffer bufferLen, action = .receive lpBuffer bufferLen) ∧
        part.state = .ok ∧ part.Truncated := by
  by_cases call : ∃ lpBuffer bufferLen, action = .receive lpBuffer bufferLen
  · obtain ⟨lpBuffer, bufferLen, rfl⟩ := call
    have idle : part.op = .idle := by
      cases at_ : part.op <;>
        simp only [ReceivePart.enabled, at_, Bool.false_eq_true] at enabled ⊢
    rw [stalled_called sound rendezvous flow idle]
    exact ⟨fun cut => ⟨⟨lpBuffer, bufferLen, rfl⟩, cut⟩, fun cut => cut.2⟩
  · refine iff_of_false (flowing_next sound enabled before ?_) ?_
    · intro lpBuffer bufferLen same
      exact call ⟨lpBuffer, bufferLen, same⟩
    · rintro ⟨called, _⟩
      exact call called

end ReceivePart

namespace StreamWorld

/-- The step calls `async_receive` only on a stream that has ended, or when no
reader before had too small a buffer for what it read. -/
def RoomBefore (_ : List StreamAction) (world : StreamWorld O)
    (action : StreamAction) : Prop :=
  ∀ lpBuffer bufferLen, action = .receive lpBuffer bufferLen →
    world.ctx.state = .ok →
      ∀ read ∈ world.reads, totalLength read.buffs ≤ read.bufferLen

/-- No reader is ever stalled exactly when every call has room before it. -/
theorem no_stall_iff {actions : List StreamAction} {world : StreamWorld O}
    (run : (streamMachine O).Run (under ReceivePart.flowControl) actions world) :
    (streamMachine O).Throughout (fun _ world => ¬world.receivePart.Stalled)
        actions ↔
      (streamMachine O).EachStep RoomBefore actions := by
  apply run.throughout_iff
  · rintro ⟨raised, _⟩
    cases raised
  · intro actions world action before _ allowed flowing
    have locked := lockedRun before
    have partRun := receiveRun before
    have moved : ((streamMachine O).step world action).receivePart =
        world.receivePart.next action :=
      world.receivePart_step action locked.guarded
    obtain ⟨rest, rendezvous⟩ :=
      ReceivePart.rendezvous_of_run (fun _ _ _ allowed => allowed.1) partRun
    rw [moved, ReceivePart.stalled_next locked.receive rendezvous
      (ReceivePart.flow_of_run partRun) (Locked.part_enabled allowed.1) flowing]
    constructor
    · intro roomy lpBuffer bufferLen same open_ read member
      by_contra short
      exact roomy ⟨⟨lpBuffer, bufferLen, same⟩, open_, read, member,
        Nat.lt_of_not_le short⟩
    · rintro roomy ⟨⟨lpBuffer, bufferLen, same⟩, open_, read, member, short⟩
      have room := roomy lpBuffer bufferLen same open_ read member
      omega

/-- Two bytes are indicated, a buffer of one byte reads, and reads again. -/
def smallBuffer : List StreamAction :=
  [.receive [0] 1, .receiveInitiate, .event (.receive [[1, 2]]),
    .receiveHandler .success, .receiveInvoke, .receive [0] 1]

theorem smallBuffer_stalls :
    (streamMachine .reference).Run (under ReceivePart.flowControl) smallBuffer
        ((streamMachine .reference).exec smallBuffer) ∧
      ((streamMachine .reference).exec smallBuffer).receivePart.Stalled :=
  ⟨Machine.run_of_checks smallBuffer (by decide), by
    unfold ReceivePart.Stalled
    decide⟩

theorem no_stall_iff_smallBuffer :
    (streamMachine .reference).Throughout
        (fun _ world => ¬world.receivePart.Stalled) smallBuffer ↔
      (streamMachine .reference).EachStep RoomBefore smallBuffer :=
  no_stall_iff (Machine.run_of_checks smallBuffer (by decide))

end StreamWorld

end MsquicAsio
