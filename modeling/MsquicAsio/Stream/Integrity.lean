/-
The byte stream that the readers see, over any number of reads.

msquic indicates bytes in pieces, and each handler is told of some of them.
While RECEIVE events keep to the flow control, the bytes that the handlers were
told of are the first of the indicated ones, each once and in their order.  Only
the copy loop can spoil that, and only with several buffers in one event.
-/
import Mathlib.Algebra.Ring.Nat
import MsquicAsio.Stream.Copy
import MsquicAsio.Stream.FlowControl

set_option autoImplicit false

namespace MsquicAsio

variable {O : Oneshot}

def indicatedBytes (actions : List StreamAction) : List UInt8 :=
  (actions.filterMap StreamAction.indicated).flatten.flatten

def StreamAction.bytes (action : StreamAction) : List UInt8 :=
  action.indicated.toList.flatten.flatten

theorem indicatedBytes_concat (actions : List StreamAction)
    (action : StreamAction) :
    indicatedBytes (actions ++ [action]) =
      indicatedBytes actions ++ action.bytes := by
  simp only [indicatedBytes, StreamAction.bytes, List.filterMap_append,
    List.flatten_append]
  cases quiet : action.indicated with
  | none =>
      simp only [List.filterMap_cons, quiet, List.filterMap_nil,
        Option.toList_none]
  | some buffers =>
      simp only [List.filterMap_cons, quiet, List.filterMap_nil,
        Option.toList_some]

/-- At most one of the buffers has bytes in it. -/
def SinglePiece (buffers : List Buffer) : Prop :=
  (buffers.filter fun buffer => buffer.length ≠ 0).length ≤ 1

private theorem lands_of_singlePiece {buffers : List Buffer}
    (single : SinglePiece buffers) (lpBuffer : List UInt8) (bufferLen : Nat) :
    Overlay.InPlace lpBuffer (Overlay.fitting bufferLen buffers) :=
  Or.inl (Nat.le_trans (Overlay.length_fitting_le bufferLen buffers) single)

/-- What the loop reports is what it was to copy exactly when its pieces come
to stand one behind the other. -/
theorem copyBuffers_take_iff (lpBuffer : List UInt8) (bufferLen : Nat)
    (buffs : List Buffer) :
    (copyBuffers lpBuffer bufferLen buffs).lpBuffer.take
          (copyBuffers lpBuffer bufferLen buffs).copied =
        buffs.flatten.take (copyBuffers lpBuffer bufferLen buffs).copied ↔
      Overlay.InPlace lpBuffer (Overlay.fitting bufferLen buffs) := by
  have count : (copyBuffers lpBuffer bufferLen buffs).copied =
      (Overlay.fitting bufferLen buffs).flatten.length := by
    rw [copyBuffers_copied, Overlay.fitting_flatten, List.length_take,
      totalLength]
  have reported : buffs.flatten.take
      (copyBuffers lpBuffer bufferLen buffs).copied =
        (Overlay.fitting bufferLen buffs).flatten := by
    rw [copyBuffers_copied, Overlay.fitting_flatten, totalLength,
      ← List.take_take, List.take_length]
  rw [reported, count, copyBuffers_lpBuffer]
  exact Overlay.write_take_iff _ _

namespace ReceivePart

/-- The bytes that the handlers find in their output buffers, one report after
the other. -/
def toldBytes (part : ReceivePart O) : List UInt8 :=
  part.reports.flatMap fun report => report.lpBuffer.take report.bytes

def toldCount (part : ReceivePart O) : Nat :=
  (part.reports.map ReceiveResult.bytes).sum

/-- What the handlers were told are the first of the indicated bytes. -/
def InOrder (actions : List StreamAction) (part : ReceivePart O) : Prop :=
  part.toldBytes = (indicatedBytes actions).take part.toldCount

/-- Every indicated byte was told of or is still unread, and what is unread
belongs to the uncompleted RECEIVE event or to a paused stream. -/
structure Balanced (actions : List StreamAction) (part : ReceivePart O) :
    Prop where
  balance : part.toldCount + part.delivery.unread =
    (indicatedBytes actions).length
  outstanding : ∀ total, part.delivery.uncompleted = some total →
    part.delivery.unread = total
  settled : part.delivery.uncompleted = none →
    part.delivery.paused = false → part.delivery.unread = 0

/-- The completion lambda reads the uncompleted RECEIVE event, which is the
last one, or an answer without bytes. -/
theorem Flow.read_cases {part : ReceivePart O} (flow : part.Flow)
    {rest : List (Option Nat × List Buffer)} (rendezvous : part.Rendezvous rest)
    {id : Nat} {message : ReceiveMessage} (rxAt : part.port.rx = some id)
    (found : part.port.value? id = some message)
    (busy : part.op.inProgress = true) :
    part.delivery.uncompleted = none ∧ message.2 = [] ∨
      part.delivery.uncompleted = some (totalLength message.2) ∧
        ∃ earlier, part.received.map Prod.snd = earlier ++ [message.2] := by
  have outstanding := rendezvous.outstanding
  rcases rendezvous.atMostOne with rfl | ⟨entry, rfl⟩
  · obtain ⟨_, completed, others⟩ := outstanding
    refine Or.inl ⟨completed, ?_⟩
    rcases flow.carried id message found with ⟨entry, member, same⟩ | empty
    · exact absurd (same.trans rxAt.symm) ((others busy).1 entry member)
    · exact empty
  · obtain ⟨sameRx, _, _, uncompleted, _⟩ := outstanding
    have split := rendezvous.split
    have member : entry ∈ part.received := by
      rw [split]
      exact List.mem_append_right _ (List.mem_singleton_self _)
    obtain ⟨other, entryAt, held⟩ := rendezvous.held entry member
    rw [sameRx, rxAt] at entryAt
    obtain rfl := Option.some.inj entryAt
    rw [found] at held
    obtain rfl := Option.some.inj held
    refine Or.inr ⟨uncompleted, (part.consumed.map
      fun read => (read.channel, read.buffs)).map Prod.snd, ?_⟩
    rw [split, List.map_append, List.map_singleton]

theorem reports_reading {part : ReceivePart O} {own : Option Nat}
    {wait bufferLen : Nat} {lpBuffer : List UInt8}
    (at_ : part.op = .waiting own wait lpBuffer bufferLen) (id : Nat)
    (message : ReceiveMessage) :
    (Sound.reading part id message lpBuffer bufferLen).reports =
      part.reports ++ [⟨some id, message.1,
        (copyBuffers lpBuffer bufferLen message.2).copied, bufferLen,
        (copyBuffers lpBuffer bufferLen message.2).lpBuffer⟩] := by
  simp only [reports, Sound.reading, at_, ReceiveOp.report,
    Option.toList_none, List.append_nil, Option.toList_some]

theorem told_reading {part : ReceivePart O} {own : Option Nat}
    {wait bufferLen : Nat} {lpBuffer : List UInt8}
    (at_ : part.op = .waiting own wait lpBuffer bufferLen) (id : Nat)
    (message : ReceiveMessage) :
    (Sound.reading part id message lpBuffer bufferLen).toldCount =
        part.toldCount + (copyBuffers lpBuffer bufferLen message.2).copied ∧
      (Sound.reading part id message lpBuffer bufferLen).toldBytes =
        part.toldBytes ++
          (copyBuffers lpBuffer bufferLen message.2).lpBuffer.take
            (copyBuffers lpBuffer bufferLen message.2).copied := by
  constructor
  · rw [toldCount, reports_reading at_, List.map_append, List.sum_append,
      List.map_singleton, List.sum_singleton, toldCount]
  · rw [toldBytes, reports_reading at_, List.flatMap_append,
      List.flatMap_singleton, toldBytes]

theorem delivery_next {part : ReceivePart O} (sound : part.Sound)
    {action : StreamAction} (enabled : part.enabled action = true)
    (quiet : action.indicated = none)
    (other : ∀ ec, action ≠ .receiveHandler ec) :
    (part.next action).delivery = part.delivery := by
  cases action with
  | event event =>
      cases event with
      | receive buffers => cases quiet
      | startComplete | sendComplete | peerSendShutdown | peerSendAborted
      | shutdownComplete | other => rfl
  | receive lpBuffer bufferLen =>
      simp only [next, called]
      split
      · rfl
      · split <;> rfl
  | receiveInitiate =>
      cases at_ : part.op with
      | ready own lpBuffer bufferLen =>
          obtain ⟨wait, _, initiated, _⟩ := sound.initiate at_
          simp only [next, initiated, Option.getD_some]
      | idle | waiting | completing =>
          simp only [ReceivePart.enabled, at_, Bool.false_eq_true] at enabled
  | receiveHandler ec => exact absurd rfl (other ec)
  | receiveInvoke =>
      simp only [next, invoke]
      split <;> rfl
  | start | send | shutdown | shutdownInitiate | shutdownHandler => rfl

namespace Balanced

variable {actions : List StreamAction} {part : ReceivePart O}

private theorem indicated (balanced : part.Balanced actions)
    (buffers : List Buffer)
    (sameReports : (part.next (.event (.receive buffers))).reports =
      part.reports)
    (completed : part.delivery.uncompleted = none)
    (running : part.delivery.paused = false) :
    (part.next (.event (.receive buffers))).Balanced
      (actions ++ [.event (.receive buffers)]) where
  balance := by
    have before := balanced.balance
    rw [balanced.settled completed running] at before
    rw [toldCount, sameReports, indicatedBytes_concat, List.length_append,
      ← before]
    simp only [next, ReceivePart.indicated, Delivery.indicate, toldCount,
      StreamAction.bytes, StreamAction.indicated, Option.toList_some,
      List.flatten_singleton, totalLength, Nat.add_zero]
  outstanding := by
    intro total same
    exact Option.some.inj same
  settled := by
    intro impossible
    cases impossible

private theorem reading (balanced : part.Balanced actions) (flow : part.Flow)
    {rest : List (Option Nat × List Buffer)} (rendezvous : part.Rendezvous rest)
    {own : Option Nat} {wait id bufferLen : Nat} {lpBuffer : List UInt8}
    {message : ReceiveMessage} {ec : ErrorCode}
    (at_ : part.op = .waiting own wait lpBuffer bufferLen)
    (rxAt : part.port.rx = some id)
    (found : part.port.value? id = some message) :
    (Sound.reading part id message lpBuffer bufferLen).Balanced
      (actions ++ [.receiveHandler ec]) := by
  have counted : (Sound.reading part id message lpBuffer bufferLen).toldCount =
      part.toldCount + min bufferLen (totalLength message.2) := by
    rw [(told_reading at_ id message).1, copyBuffers_copied]
  have nothing : indicatedBytes (actions ++ [.receiveHandler ec]) =
      indicatedBytes actions := by
    rw [indicatedBytes_concat]
    exact List.append_nil _
  have before := balanced.balance
  rcases flow.read_cases rendezvous rxAt found (by rw [at_]; rfl) with
    ⟨completed, empty⟩ | ⟨uncompleted, _⟩
  · have same : (Sound.reading part id message lpBuffer bufferLen).delivery =
        part.delivery := by
      simp only [Sound.reading, Delivery.complete, completed]
    refine ⟨?_, ?_, ?_⟩
    · have noBytes : totalLength message.2 = 0 := by
        rw [empty]
        rfl
      rw [counted, nothing, same, noBytes]
      omega
    · rw [same]
      exact balanced.outstanding
    · rw [same]
      exact balanced.settled
  · have unread := balanced.outstanding _ uncompleted
    refine ⟨?_, ?_, ?_⟩
    · rw [counted, nothing]
      simp only [Sound.reading, Delivery.complete, uncompleted,
        copyBuffers_copied]
      omega
    · intro total impossible
      simp only [Sound.reading, Delivery.complete, uncompleted] at impossible
      cases impossible
    · intro _ running
      simp only [Sound.reading, Delivery.complete, uncompleted,
        copyBuffers_copied, Bool.or_eq_false_iff, decide_eq_false_iff_not]
        at running ⊢
      omega

private theorem next (balanced : part.Balanced actions) (sound : part.Sound)
    (flow : part.Flow) {rest : List (Option Nat × List Buffer)}
    (rendezvous : part.Rendezvous rest) {action : StreamAction}
    (enabled : part.enabled action = true)
    (allowed : action.indicated ≠ none →
      part.delivery.uncompleted = none ∧ part.delivery.paused = false) :
    (part.next action).Balanced (actions ++ [action]) := by
  by_cases handles : ∃ ec, action = .receiveHandler ec
  · obtain ⟨ec, rfl⟩ := handles
    obtain ⟨own, wait, lpBuffer, bufferLen, id, message, at_, rxAt, found,
      handled, _⟩ := sound.handler enabled
    simp only [ReceivePart.next, handled, Option.getD_some]
    exact balanced.reading flow rendezvous at_ rxAt found
  · have other : ∀ ec, action ≠ .receiveHandler ec :=
      fun ec same => handles ⟨ec, same⟩
    have sameReports := (reports_next sound enabled other).1
    cases brought : action.indicated with
    | none =>
        have sameDelivery := delivery_next sound enabled brought other
        have nothing : action.bytes = [] := by
          rw [StreamAction.bytes, brought]
          rfl
        refine ⟨?_, ?_, ?_⟩
        · rw [toldCount, sameReports, sameDelivery, indicatedBytes_concat,
            nothing, List.append_nil]
          exact balanced.balance
        · rw [sameDelivery]
          exact balanced.outstanding
        · rw [sameDelivery]
          exact balanced.settled
    | some buffers =>
        obtain ⟨completed, running⟩ := allowed (by rw [brought]; simp)
        unfold StreamAction.indicated at brought
        split at brought
        · exact balanced.indicated _ sameReports completed running
        · cases brought

end Balanced

theorem balanced_of_run {actions : List StreamAction} {part : ReceivePart O}
    (run : (receiveMachine O).Run (under flowControl) actions part) :
    part.Balanced actions := by
  apply run.invariant (fun actions part => part.Balanced actions)
  · exact
      { balance := rfl
        outstanding := by intro total impossible; cases impossible
        settled := fun _ _ => rfl }
  · intro actions part action before balanced allowed
    obtain ⟨rest, rendezvous⟩ :=
      rendezvous_of_run (fun _ _ _ allowed => allowed.1) before
    obtain ⟨enabled, oneAtATime, unpaused⟩ := allowed
    exact balanced.next (sound_of_run before) (flow_of_run before) rendezvous
      enabled fun brings => ⟨(oneAtATime brings).1, unpaused brings⟩

/-- What the lambda reads are the next bytes after those told of. -/
theorem Balanced.next_bytes {actions : List StreamAction}
    {part : ReceivePart O} (balanced : part.Balanced actions)
    (flow : part.Flow) {rest : List (Option Nat × List Buffer)}
    (rendezvous : part.Rendezvous rest)
    (received : part.received.map Prod.snd =
      actions.filterMap StreamAction.indicated)
    {id : Nat} {message : ReceiveMessage} (rxAt : part.port.rx = some id)
    (found : part.port.value? id = some message)
    (busy : part.op.inProgress = true) :
    message.2.flatten <+: (indicatedBytes actions).drop part.toldCount := by
  rcases flow.read_cases rendezvous rxAt found busy with
    ⟨_, empty⟩ | ⟨uncompleted, earlier, split⟩
  · rw [empty]
    exact List.nil_prefix
  · have unread := balanced.outstanding _ uncompleted
    have balance := balanced.balance
    have bytes : indicatedBytes actions =
        earlier.flatten.flatten ++ message.2.flatten := by
      rw [indicatedBytes, ← received, split, List.flatten_append,
        List.flatten_append, List.flatten_singleton]
    have offset : part.toldCount = earlier.flatten.flatten.length := by
      rw [unread, bytes, List.length_append, totalLength] at balance
      omega
    rw [bytes, offset, List.drop_left]

private theorem inOrder_reading_iff {actions : List StreamAction}
    {part : ReceivePart O} {own : Option Nat} {wait bufferLen : Nat}
    {lpBuffer : List UInt8} {message : ReceiveMessage} {ec : ErrorCode}
    (at_ : part.op = .waiting own wait lpBuffer bufferLen) (id : Nat)
    (next : message.2.flatten <+: (indicatedBytes actions).drop part.toldCount)
    (inOrder : part.InOrder actions) :
    (Sound.reading part id message lpBuffer bufferLen).InOrder
        (actions ++ [.receiveHandler ec]) ↔
      Overlay.InPlace lpBuffer (Overlay.fitting bufferLen message.2) := by
  have nothing : indicatedBytes (actions ++ [.receiveHandler ec]) =
      indicatedBytes actions := by
    rw [indicatedBytes_concat]
    exact List.append_nil _
  obtain ⟨counted, told⟩ := told_reading at_ id message
  have fits : (copyBuffers lpBuffer bufferLen message.2).copied ≤
      message.2.flatten.length := by
    rw [copyBuffers_copied]
    exact Nat.min_le_right _ _
  obtain ⟨later, split⟩ := next
  unfold InOrder at inOrder ⊢
  rw [told, counted, nothing, ← copyBuffers_take_iff, inOrder, List.take_add,
    ← split, List.take_append_of_le_length fits, List.append_cancel_left_eq]

private theorem inOrder_next_iff {actions : List StreamAction}
    {part : ReceivePart O}
    (run : (receiveMachine O).Run (under flowControl) actions part)
    {action : StreamAction} (enabled : part.enabled action = true)
    (inOrder : part.InOrder actions) :
    (part.next action).InOrder (actions ++ [action]) ↔
      part.LandsInPlace action := by
  have sound := sound_of_run run
  have balanced := balanced_of_run run
  by_cases handles : ∃ ec, action = .receiveHandler ec
  · obtain ⟨ec, rfl⟩ := handles
    obtain ⟨rest, rendezvous⟩ :=
      rendezvous_of_run (fun _ _ _ allowed => allowed.1) run
    obtain ⟨own, wait, lpBuffer, bufferLen, id, message, at_, rxAt, found,
      handled, _⟩ := sound.handler enabled
    have got : part.port.get = some message := by
      simp only [Port.get, rxAt, found]
    simp only [next, handled, Option.getD_some]
    have next := balanced.next_bytes (flow_of_run run) rendezvous
      (received_of_run run) rxAt found (by rw [at_]; rfl)
    rw [inOrder_reading_iff at_ id next inOrder]
    constructor
    · intro inPlace _ _ _ _ _ _ _ same gotSame
      rw [at_] at same
      obtain ⟨rfl, rfl, rfl, rfl⟩ := ReceiveOp.waiting.inj same
      rw [got] at gotSame
      obtain rfl := Option.some.inj gotSame
      exact inPlace
    · intro lands
      exact lands ec own wait lpBuffer bufferLen message rfl at_ got
  · have other : ∀ ec, action ≠ .receiveHandler ec :=
      fun ec same => handles ⟨ec, same⟩
    have sameReports := (reports_next sound enabled other).1
    have inside : part.toldCount ≤ (indicatedBytes actions).length := by
      have balance := balanced.balance
      omega
    refine iff_of_true ?_ ?_
    · rw [InOrder, toldBytes, toldCount, sameReports, indicatedBytes_concat]
      rw [← toldBytes, ← toldCount, List.take_append_of_le_length inside]
      exact inOrder
    · intro ec _ _ _ _ _ same
      exact absurd same (other ec)

theorem lands_of_singlePieces {actions : List StreamAction}
    {part : ReceivePart O}
    (run : (receiveMachine O).Run (under flowControl) actions part)
    (single : ∀ buffers ∈ actions.filterMap StreamAction.indicated,
      SinglePiece buffers) (action : StreamAction) :
    part.LandsInPlace action := by
  intro ec own wait lpBuffer bufferLen message _ _ got
  obtain ⟨id, found⟩ : ∃ id, part.port.value? id = some message := by
    unfold Port.get at got
    split at got
    · cases got
    · exact ⟨_, got⟩
  rcases (flow_of_run run).carried id message found with
    ⟨entry, member, same⟩ | empty
  · obtain ⟨other, entryAt, held⟩ := (copying_of_run run).held entry member
    obtain rfl := Option.some.inj (same.symm.trans entryAt)
    rw [found] at held
    obtain rfl := Option.some.inj held
    apply lands_of_singlePiece
    apply single
    rw [← received_of_run run]
    exact List.mem_map_of_mem member
  · rw [empty]
    exact Or.inl (Nat.zero_le 1)

end ReceivePart

namespace StreamWorld

/-- However the reads and the RECEIVE events fall, the bytes the handlers were
told of are at every point the first of the indicated bytes, exactly when each
lambda that copies lands its pieces in place, as it does when no event has two
buffers with bytes.  No byte gets lost: those that were not told of are in the
uncompleted RECEIVE event, or a buffer that was too small has cut them off. -/
theorem bytes_in_order_iff {actions : List StreamAction}
    {world : StreamWorld O}
    (run : (streamMachine O).Run (under ReceivePart.flowControl) actions world) :
    ((streamMachine O).Throughout
        (fun actions world => world.receivePart.InOrder actions) actions ↔
      (streamMachine O).EachStep
        (fun _ world action => world.receivePart.LandsInPlace action)
        actions) ∧
    ((∀ buffers ∈ actions.filterMap StreamAction.indicated,
        SinglePiece buffers) →
      world.receivePart.InOrder actions) ∧
    world.receivePart.toldCount + world.delivery.unread =
      (indicatedBytes actions).length ∧
    (world.delivery.unread = 0 ∨
      world.delivery.uncompleted = some world.delivery.unread ∨
      world.receivePart.Truncated) := by
  have inOrder_iff : ∀ {actions world},
      (streamMachine O).Run (under ReceivePart.flowControl) actions world →
        ((streamMachine O).Throughout
            (fun actions world => world.receivePart.InOrder actions) actions ↔
          (streamMachine O).EachStep
            (fun _ world action => world.receivePart.LandsInPlace action)
            actions) := by
    intro actions world run
    apply run.throughout_iff
    · rfl
    · intro actions world action before _ allowed inOrder
      have locked := lockedRun before
      have moved : ((streamMachine O).step world action).receivePart =
          world.receivePart.next action :=
        world.receivePart_step action locked.guarded
      rw [moved]
      exact ReceivePart.inOrder_next_iff (receiveRun before)
        (Locked.part_enabled allowed.1) inOrder
  have partRun := receiveRun run
  have balanced := ReceivePart.balanced_of_run partRun
  refine ⟨inOrder_iff run, ?_, balanced.balance, ?_⟩
  -- where each event has its bytes in one buffer, no lambda goes wrong
  · intro single
    have everywhere := (inOrder_iff run).mpr (by
      intro early action isPrefix
      have before := run.of_prefix
        ((List.prefix_append early [action]).trans isPrefix)
      apply ReceivePart.lands_of_singlePieces (receiveRun before)
      intro buffers member
      obtain ⟨later, rfl⟩ := isPrefix
      refine single buffers ?_
      rw [List.filterMap_append, List.filterMap_append]
      exact List.mem_append_left _ (List.mem_append_left _ member))
    have last := everywhere actions List.prefix_rfl
    rw [run.state_eq]
    exact last
  · have flow := ReceivePart.flow_of_run partRun
    cases uncompleted : world.delivery.uncompleted with
    | some total =>
        have unread := balanced.outstanding total uncompleted
        exact Or.inr (Or.inl (congrArg some unread.symm))
    | none =>
        cases paused : world.delivery.paused with
        | false => exact Or.inl (balanced.settled uncompleted paused)
        | true => exact Or.inr (Or.inr (flow.paused_iff.mp paused))

/-- Two reads: one waits for its RECEIVE event, the next finds one buffered and
has no room for all of it. -/
def twoReads : List StreamAction :=
  [.receive [0, 0] 2, .receiveInitiate, .event (.receive [[1, 2]]),
    .receiveHandler .success, .receiveInvoke,
    .event (.receive [[], [3, 4]]), .receive [0] 1, .receiveInitiate,
    .receiveHandler .success]

theorem bytes_in_order_iff_twoReads :
    ((streamMachine .reference).exec twoReads).receivePart.InOrder twoReads ∧
      ((streamMachine .reference).exec twoReads).receivePart.toldBytes =
        [1, 2, 3] := by
  have run : (streamMachine .reference).Run (under ReceivePart.flowControl)
      twoReads ((streamMachine .reference).exec twoReads) :=
    Machine.run_of_checks twoReads (by decide)
  refine ⟨(bytes_in_order_iff run).2.1 ?_, by decide⟩
  unfold SinglePiece
  decide

end StreamWorld

end MsquicAsio
