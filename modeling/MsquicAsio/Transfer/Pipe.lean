/-
A stream between two handles as a pipe of bytes.

What msquic accepts from `async_send` is written, and what a completion lambda
of `async_receive` tells its handler is read.  The transfer keeps to the rules of
a pipe as long as the copy loop lands its pieces and no reader is told of the
end after a read that was cut short.
-/
import MsquicAsio.Lib.Pipe
import MsquicAsio.Transfer.Sends

set_option autoImplicit false

namespace MsquicAsio

variable {O : Oneshot}

/-! ### What a report says -/

/-- Success and no bytes, for a reader that had room. -/
def ReceiveResult.TellsEnd (report : ReceiveResult) : Prop :=
  report.ec = .success ∧ report.bytes = 0 ∧ 0 < report.bufferLen

instance (report : ReceiveResult) : Decidable report.TellsEnd :=
  inferInstanceAs (Decidable (_ ∧ _ ∧ _))

def ReceiveResult.toldBytes (report : ReceiveResult) : List UInt8 :=
  report.lpBuffer.take report.bytes

def ReceiveResult.pipeAction (report : ReceiveResult) : PipeAction UInt8 :=
  if report.TellsEnd then .finish else .read report.toldBytes

namespace TransferWorld

/-- The bytes that were accepted and that no handler was told of. -/
def pipe (world : TransferWorld O) : Pipe UInt8 where
  inside := world.accepted.flatten.drop world.receiver.receivePart.toldCount
  closed := world.finished

def brings (world : TransferWorld O) : TransferAction → Option ReceiveResult
  | .receiver (.receiveHandler ec) =>
      (world.receiver.step (.receiveHandler ec)).receive.report
  | _ => none

/-- What an action does to the pipe. -/
def carries (world : TransferWorld O) :
    TransferAction → List (PipeAction UInt8)
  | .send _ _ => []
  | .shutdown graceful status =>
      if (graceful && world.shutsDown status) = true then [.close] else []
  | .sender action =>
      if action.sendAccepted = true then
        .write world.buffers.flatten :: if world.fin = true then [.close] else []
      else []
  | .receiver action =>
      ((world.brings (.receiver action)).map ReceiveResult.pipeAction).toList

/-- A lambda lands its pieces in place, and where it tells the end no earlier
read was cut short. -/
structure Faithful (world : TransferWorld O) (action : TransferAction) :
    Prop where
  lands : ∀ step, action = .receiver step →
    world.receiver.receivePart.LandsInPlace step
  whole : ∀ report, world.brings action = some report → report.TellsEnd →
    ¬world.receiver.receivePart.Truncated

end TransferWorld

namespace ReceivePart

variable {actions : List StreamAction} {part : ReceivePart O}

/-- What is unread when the lambda reads a message without bytes was cut off. -/
private theorem Balanced.unread_iff (balanced : part.Balanced actions)
    (flow : part.Flow) {rest : List (Option Nat × List Buffer)}
    (rendezvous : part.Rendezvous rest) {id : Nat} {message : ReceiveMessage}
    (rxAt : part.port.rx = some id)
    (found : part.port.value? id = some message)
    (busy : part.op.inProgress = true) (empty : totalLength message.2 = 0) :
    part.delivery.unread = 0 ↔ ¬part.Truncated := by
  rw [← flow.paused_iff]
  rcases flow.read_cases rendezvous rxAt found busy with
    ⟨completed, _⟩ | ⟨uncompleted, _⟩
  · cases paused : part.delivery.paused with
    | false =>
        exact iff_of_true (balanced.settled completed paused) (by simp)
    | true =>
        have something := (flow.stopped paused).2
        exact iff_of_false (by omega) (by simp)
  · have unread := balanced.outstanding _ uncompleted
    refine iff_of_true (unread.trans empty) ?_
    intro paused
    have completed := (flow.stopped paused).1
    rw [uncompleted] at completed
    cases completed

end ReceivePart

namespace TransferWorld

variable {actions : List TransferAction} {world : TransferWorld O}

private theorem toldCount_le
    (run : (transferMachine O).Run transferring actions world) :
    world.receiver.receivePart.toldCount ≤ world.accepted.flatten.length := by
  have balance := (ReceivePart.balanced_of_run
    (StreamWorld.receiveRun (receiverRun run))).balance
  have ahead := (between_of_run run).ahead.length_le
  omega

private theorem carried_sender
    (run : (transferMachine O).Run transferring actions world)
    {action : TransferAction} (allowed : transferring actions world action)
    (notReceiver : action.receiver? = none) {done : List (PipeAction UInt8)}
    (carried : (pipeMachine UInt8).Run Pipe.rules done world.pipe) :
    (pipeMachine UInt8).Run Pipe.rules (done ++ world.carries action)
      (world.step action).pipe := by
  cases action with
  | send buffers fin => exact carried.stays rfl
  | shutdown graceful status =>
      exact Pipe.run_closed carried (graceful && world.shutsDown status)
  | sender action =>
      simp only [carries]
      cases accepts : action.sendAccepted with
      | false =>
          simp only [Bool.false_eq_true, if_false]
          apply carried.stays
          simp only [pipe, TransferWorld.step, accepts, Bool.false_eq_true,
            if_false, Bool.false_and, Bool.or_false]
      | true =>
          have still : world.finished = false := allowed.2.2 accepts
          have writes : Pipe.rules done world.pipe
              (.write world.buffers.flatten) := still
          have written := carried.follows writes rfl
          have closed := Pipe.run_closed written world.fin
          have sameInside :
              (world.accepted ++ [world.buffers.flatten]).flatten.drop
                  world.receiver.receivePart.toldCount =
                world.pipe.inside ++ world.buffers.flatten := by
            rw [List.flatten_append, List.flatten_singleton,
              List.drop_append_of_le_length (toldCount_le run)]
            rfl
          simp only [if_true, pipe, TransferWorld.step, accepts, sameInside,
            Bool.true_and]
          rw [List.append_cons]
          exact closed
  | receiver action => cases notReceiver

def reports (world : TransferWorld O) : List ReceiveResult :=
  world.receiver.receivePart.reports

private theorem brings_other {action : TransferAction}
    (other : ∀ ec, action ≠ .receiver (.receiveHandler ec)) :
    world.brings action = none := by
  cases action with
  | send | shutdown | sender => rfl
  | receiver action =>
      cases action with
      | receiveHandler ec => exact absurd rfl (other ec)
      | event | start | send | receive | receiveInitiate | receiveInvoke
      | shutdown | shutdownInitiate | shutdownHandler => rfl

private theorem reports_step
    (run : (transferMachine O).Run transferring actions world)
    {action : TransferAction} (allowed : transferring actions world action) :
    (world.step action).reports =
      world.reports ++ (world.brings action).toList := by
  cases action with
  | send | shutdown | sender => exact (List.append_nil _).symm
  | receiver action =>
      have locked := StreamWorld.lockedRun (receiverRun run)
      have sound := ReceivePart.sound_of_run
        (StreamWorld.receiveRun (receiverRun run))
      have enabled := StreamWorld.Locked.part_enabled allowed.1.1
      have moved := world.receiver.receivePart_step action locked.guarded
      refine (congrArg ReceivePart.reports moved).trans ?_
      by_cases handles : ∃ ec, action = .receiveHandler ec
      · obtain ⟨ec, rfl⟩ := handles
        obtain ⟨own, wait, lpBuffer, bufferLen, id, message, at_, _, _,
          handled, _⟩ := sound.handler enabled
        have lambda : world.receiver.receivePart.next (.receiveHandler ec) =
            ReceivePart.Sound.reading world.receiver.receivePart id message
              lpBuffer bufferLen := by
          rw [ReceivePart.next, handled, Option.getD_some]
        have brought : world.brings (.receiver (.receiveHandler ec)) =
            some ⟨some id, message.1,
              (copyBuffers lpBuffer bufferLen message.2).copied, bufferLen,
              (copyBuffers lpBuffer bufferLen message.2).lpBuffer⟩ :=
          congrArg (fun part => part.op.report) (moved.trans lambda)
        rw [lambda, brought]
        exact ReceivePart.reports_reading at_ id message
      · have other : ∀ ec, action ≠ .receiveHandler ec :=
          fun ec same => handles ⟨ec, same⟩
        have quiet : world.brings (.receiver action) = none :=
          brings_other fun ec same => other ec (TransferAction.receiver.inj same)
        rw [quiet]
        have same := (ReceivePart.reports_next sound enabled other).1
        exact same.trans (List.append_nil _).symm

structure Reads (world : TransferWorld O) (ec : ErrorCode)
    (message : ReceiveMessage) (lpBuffer : List UInt8) (bufferLen : Nat) :
    Prop where
  waiting : ∃ own wait,
    world.receiver.receive = .waiting own wait lpBuffer bufferLen
  got : world.receiver.receivePart.port.get = some message
  brings : ∃ channel, world.brings (.receiver (.receiveHandler ec)) =
    some ⟨channel, message.1, (copyBuffers lpBuffer bufferLen message.2).copied,
      bufferLen, (copyBuffers lpBuffer bufferLen message.2).lpBuffer⟩
  told : (world.step (.receiver (.receiveHandler ec))).pipe =
    { world.pipe with
      inside := world.pipe.inside.drop
        (copyBuffers lpBuffer bufferLen message.2).copied }
  next : message.2.flatten <+: world.pipe.inside
  /-- Where the message tells the end, everything accepted was indicated. -/
  ending : message.1 = .success → totalLength message.2 = 0 →
    world.finished = true ∧
      (world.pipe.inside = [] ↔ ¬world.receiver.receivePart.Truncated)

private theorem reads_of_run
    (run : (transferMachine O).Run transferring actions world) {ec : ErrorCode}
    (allowed : transferring actions world (.receiver (.receiveHandler ec))) :
    ∃ message lpBuffer bufferLen, world.Reads ec message lpBuffer bufferLen := by
  have between := between_of_run run
  have partRun := StreamWorld.receiveRun (receiverRun run)
  have locked := StreamWorld.lockedRun (receiverRun run)
  have sound := ReceivePart.sound_of_run partRun
  have flow := ReceivePart.flow_of_run partRun
  have balanced := ReceivePart.balanced_of_run partRun
  obtain ⟨rest, rendezvous⟩ :=
    ReceivePart.rendezvous_of_run (fun _ _ _ allowed => allowed.1) partRun
  obtain ⟨own, wait, lpBuffer, bufferLen, id, message, at_, rxAt, found,
    handled, _⟩ := sound.handler (StreamWorld.Locked.part_enabled allowed.1.1)
  have busy : world.receiver.receivePart.op.inProgress = true := by
    rw [at_]
    rfl
  have moved : (world.receiver.step (.receiveHandler ec)).receivePart =
      ReceivePart.Sound.reading world.receiver.receivePart id message lpBuffer
        bufferLen := by
    rw [world.receiver.receivePart_step _ locked.guarded, ReceivePart.next,
      handled, Option.getD_some]
  refine ⟨message, lpBuffer, bufferLen, ?_⟩
  exact
    { waiting := ⟨own, wait, at_⟩
      got := by simp only [Port.get, rxAt, found]
      brings := by
        have sameOp := congrArg ReceivePart.op moved
        refine ⟨some id, ?_⟩
        exact congrArg ReceiveOp.report sameOp
      told := by
        have counted := (ReceivePart.told_reading at_ id message).1
        rw [← moved] at counted
        simp only [pipe, TransferWorld.step, counted, List.drop_drop]
      next := by
        have next := balanced.next_bytes flow rendezvous
          (ReceivePart.received_of_run partRun) rxAt found busy
        exact next.trans (between.ahead.drop _)
      ending := by
        intro success empty
        have held : world.receiver.receivePart.port.value? id =
            some (.success, message.2) := by
          rw [found, ← success]
        have graceful := ReceivePart.graceful_of_sent partRun id message.2 held
          empty
        obtain ⟨finished, whole⟩ := between.ended graceful
        refine ⟨finished, ?_⟩
        rw [← balanced.unread_iff flow rendezvous rxAt found busy empty]
        have balance := balanced.balance
        simp only [pipe, List.drop_eq_nil_iff, ← whole]
        change world.receiver.receivePart.toldCount + _ = _ at balance
        omega }

namespace Reads

variable {ec : ErrorCode} {message : ReceiveMessage} {lpBuffer : List UInt8}
  {bufferLen : Nat} {done : List (PipeAction UInt8)}

private theorem lands_iff (reads : world.Reads ec message lpBuffer bufferLen) :
    world.receiver.receivePart.LandsInPlace (.receiveHandler ec) ↔
      Overlay.InPlace lpBuffer (Overlay.fitting bufferLen message.2) := by
  obtain ⟨own, wait, at_⟩ := reads.waiting
  have got := reads.got
  constructor
  · intro lands
    exact lands ec own wait lpBuffer bufferLen message rfl at_ got
  · intro inPlace _ _ _ _ _ _ _ same gotSame
    change world.receiver.receive = _ at same
    rw [at_] at same
    obtain ⟨rfl, rfl, rfl, rfl⟩ := ReceiveOp.waiting.inj same
    rw [got] at gotSame
    obtain rfl := Option.some.inj gotSame
    exact inPlace

private theorem lands_of_empty
    (reads : world.Reads ec message lpBuffer bufferLen)
    (nothing : (copyBuffers lpBuffer bufferLen message.2).copied = 0) :
    world.receiver.receivePart.LandsInPlace (.receiveHandler ec) := by
  rw [reads.lands_iff, ← copyBuffers_take_iff, nothing, List.take_zero,
    List.take_zero]

/-- Telling of bytes is a read of the pipe exactly if the pieces have landed. -/
private theorem read_iff (reads : world.Reads ec message lpBuffer bufferLen)
    (carried : (pipeMachine UInt8).Run Pipe.rules done world.pipe) :
    (pipeMachine UInt8).Run Pipe.rules
        (done ++ [.read ((copyBuffers lpBuffer bufferLen message.2).lpBuffer.take
          (copyBuffers lpBuffer bufferLen message.2).copied)])
        (world.step (.receiver (.receiveHandler ec))).pipe ↔
      world.receiver.receivePart.LandsInPlace (.receiveHandler ec) := by
  have fits : (copyBuffers lpBuffer bufferLen message.2).copied ≤
      message.2.flatten.length := by
    rw [copyBuffers_copied]
    exact Nat.min_le_right _ _
  have enough := Nat.le_trans fits reads.next.length_le
  obtain ⟨later, split⟩ := reads.next
  have first : world.pipe.inside.take
      (copyBuffers lpBuffer bufferLen message.2).copied =
        message.2.flatten.take
          (copyBuffers lpBuffer bufferLen message.2).copied := by
    rw [← split, List.take_append_of_le_length fits]
  rw [carried.follows_iff, reads.told, reads.lands_iff, ← copyBuffers_take_iff,
    ← first]
  exact Pipe.read_iff (List.length_take_le _ _) enough

/-- Telling the end is right exactly if nothing was cut off before. -/
private theorem finish_iff (reads : world.Reads ec message lpBuffer bufferLen)
    (carried : (pipeMachine UInt8).Run Pipe.rules done world.pipe)
    (success : message.1 = .success)
    (nothing : (copyBuffers lpBuffer bufferLen message.2).copied = 0)
    (room : 0 < bufferLen) :
    (pipeMachine UInt8).Run Pipe.rules (done ++ [.finish])
        (world.step (.receiver (.receiveHandler ec))).pipe ↔
      ¬world.receiver.receivePart.Truncated := by
  have empty : totalLength message.2 = 0 := by
    rw [copyBuffers_copied] at nothing
    omega
  obtain ⟨finished, drained⟩ := reads.ending success empty
  have same : (world.step (.receiver (.receiveHandler ec))).pipe =
      world.pipe := by
    rw [reads.told, nothing]
    rfl
  rw [carried.follows_iff, ← drained, same]
  constructor
  · intro ⟨⟨_, inside⟩, _⟩
    exact inside
  · intro inside
    exact ⟨⟨finished, inside⟩, rfl⟩

end Reads

/-- A step of the receiving side is a step of the pipe exactly if it is
faithful. -/
private theorem carried_receiver_iff
    (run : (transferMachine O).Run transferring actions world)
    {action : StreamAction}
    (allowed : transferring actions world (.receiver action))
    {done : List (PipeAction UInt8)}
    (carried : (pipeMachine UInt8).Run Pipe.rules done world.pipe) :
    (pipeMachine UInt8).Run Pipe.rules
        (done ++ world.carries (.receiver action))
        (world.step (.receiver action)).pipe ↔
      world.Faithful (.receiver action) := by
  by_cases handles : ∃ ec, action = .receiveHandler ec
  -- a report tells the end or takes bytes off the pipe
  · obtain ⟨ec, rfl⟩ := handles
    obtain ⟨message, lpBuffer, bufferLen, reads⟩ := reads_of_run run allowed
    obtain ⟨channel, brings⟩ := reads.brings
    simp only [carries, brings, Option.map_some, Option.toList_some,
      ReceiveResult.pipeAction]
    split
    · rename_i ends
      obtain ⟨success, nothing, room⟩ := ends
      rw [reads.finish_iff carried success nothing room]
      constructor
      · intro untruncated
        refine ⟨?_, fun _ _ _ => untruncated⟩
        rintro step ⟨rfl⟩
        exact reads.lands_of_empty nothing
      · intro faithful
        exact faithful.whole _ brings ⟨success, nothing, room⟩
    · rename_i goesOn
      refine (reads.read_iff carried).trans ?_
      constructor
      · intro lands
        refine ⟨?_, ?_⟩
        · rintro step ⟨rfl⟩
          exact lands
        · intro report brought ends
          rw [brings] at brought
          obtain rfl := Option.some.inj brought
          exact absurd ends goesOn
      · intro faithful
        exact faithful.lands _ rfl
  · have other : ∀ ec, action ≠ .receiveHandler ec :=
      fun ec same => handles ⟨ec, same⟩
    -- a step that reports nothing leaves the pipe as it is
    have quiet : world.brings (.receiver action) = none :=
      brings_other fun ec same => other ec (TransferAction.receiver.inj same)
    have sameReports := reports_step run allowed
    rw [quiet, Option.toList_none, List.append_nil] at sameReports
    have same : (world.step (.receiver action)).pipe = world.pipe := by
      have counts := congrArg
        (fun reports => (reports.map ReceiveResult.bytes).sum) sameReports
      change (world.step (.receiver action)).receiver.receivePart.toldCount =
        world.receiver.receivePart.toldCount at counts
      rw [pipe, counts]
      rfl
    simp only [carries, quiet, Option.map_none, Option.toList_none]
    refine iff_of_true (carried.stays same) ⟨?_, ?_⟩
    · rintro step ⟨rfl⟩ ec _ _ _ _ _ impossible
      exact absurd impossible (other ec)
    · intro report impossible
      rw [quiet] at impossible
      cases impossible

/-! ### Whole transfers -/

private theorem accepted_step (world : TransferWorld O)
    (action : TransferAction) :
    (world.step action).accepted =
      world.accepted ++ (world.carries action).filterMap PipeAction.written := by
  cases action with
  | send => exact (List.append_nil _).symm
  | shutdown graceful status =>
      simp only [carries]
      split <;> exact (List.append_nil _).symm
  | sender action =>
      simp only [carries, TransferWorld.step]
      split
      · split <;> rfl
      · exact (List.append_nil _).symm
  | receiver action =>
      simp only [carries]
      cases world.brings (.receiver action) with
      | none => exact (List.append_nil _).symm
      | some report =>
          simp only [Option.map_some, Option.toList_some,
            ReceiveResult.pipeAction]
          split <;> exact (List.append_nil _).symm

private theorem taken_carries (world : TransferWorld O)
    (action : TransferAction) :
    ((world.carries action).filterMap PipeAction.taken).flatten =
      (world.brings action).toList.flatMap ReceiveResult.toldBytes := by
  cases action with
  | send => rfl
  | shutdown graceful status =>
      simp only [carries]
      split <;> rfl
  | sender action =>
      simp only [carries]
      split
      · split <;> rfl
      · rfl
  | receiver action =>
      simp only [carries]
      cases world.brings (.receiver action) with
      | none => rfl
      | some report =>
          simp only [Option.map_some, Option.toList_some,
            ReceiveResult.pipeAction, List.flatMap_singleton]
          split
          · rename_i ends
            simp only [PipeAction.taken, List.filterMap_cons,
              List.filterMap_nil, List.flatten_nil, ReceiveResult.toldBytes,
              ends.2.1, List.take_zero]
          · simp only [PipeAction.taken, List.filterMap_cons,
              List.filterMap_nil, List.flatten_singleton]

private theorem finish_carries {action : TransferAction}
    {report : ReceiveResult}
    (brings : world.brings action = some report) (ends : report.TellsEnd) :
    .finish ∈ world.carries action := by
  cases action with
  | send | shutdown | sender => cases brings
  | receiver action =>
      simp only [carries, brings, Option.map_some, Option.toList_some,
        ReceiveResult.pipeAction, if_pos ends, List.mem_singleton]

structure Recorded (actions : List TransferAction) (world : TransferWorld O) :
    Prop where
  written : ((transferMachine O).image carries actions).filterMap
    PipeAction.written = world.accepted
  taken : (((transferMachine O).image carries actions).filterMap
    PipeAction.taken).flatten = world.reports.flatMap ReceiveResult.toldBytes
  ends : ∀ report ∈ world.reports, report.TellsEnd →
    .finish ∈ (transferMachine O).image carries actions

private theorem recorded_of_run
    (run : (transferMachine O).Run transferring actions world) :
    world.Recorded actions := by
  apply run.invariant (fun actions world => world.Recorded actions)
  · refine ⟨rfl, rfl, ?_⟩
    intro report impossible
    cases impossible
  · intro actions world action before recorded allowed
    have grows : (transferMachine O).image carries (actions ++ [action]) =
        (transferMachine O).image carries actions ++ world.carries action := by
      rw [Machine.image_append, ← before.state_eq]
    have reports := reports_step before allowed
    refine ⟨?_, ?_, ?_⟩
    · rw [grows, List.filterMap_append, recorded.written]
      exact (world.accepted_step action).symm
    · change _ = (world.step action).reports.flatMap _
      rw [grows, List.filterMap_append, List.flatten_append, recorded.taken,
        taken_carries, reports, List.flatMap_append]
    · change ∀ report ∈ (world.step action).reports, _
      rw [grows, reports]
      intro report member ends
      rw [List.mem_append]
      rcases List.mem_append.mp member with earlier | now
      · exact Or.inl (recorded.ends report earlier ends)
      · exact Or.inr (finish_carries (Option.mem_toList.mp now) ends)

def AsPipe (actions : List TransferAction) (world : TransferWorld O) : Prop :=
  (pipeMachine UInt8).Run Pipe.rules ((transferMachine O).image carries actions)
    world.pipe

private theorem truncated_later {early : List TransferAction}
    (run : (transferMachine O).Run transferring actions world)
    (isPrefix : early <+: actions)
    (cut : ((transferMachine O).exec early).receiver.receivePart.Truncated) :
    world.receiver.receivePart.Truncated := by
  apply run.invariant_from
    (fun _ world => world.receiver.receivePart.Truncated) cut _ isPrefix
  intro actions world action _ _ cut _
  cases action with
  | send | shutdown | sender => exact cut
  | receiver action =>
      obtain ⟨read, member, short⟩ := cut
      refine ⟨read, ?_, short⟩
      change read ∈ (world.receiver.step action).reads
      rw [world.receiver.reads_step action]
      exact List.mem_append_left _ member

/-- Where no RECEIVE event has two buffers with bytes and no read is cut short,
every step is faithful. -/
theorem faithful_of_singlePieces
    (run : (transferMachine O).Run transferring actions world)
    (single : ∀ buffers ∈
      (receiverHistory actions).filterMap StreamAction.indicated,
        SinglePiece buffers)
    (uncut : ¬world.receiver.receivePart.Truncated) :
    (transferMachine O).EachStep (fun _ world action => world.Faithful action)
      actions := by
  intro early action isPrefix
  have inside := (List.prefix_append early [action]).trans isPrefix
  have before := run.of_prefix inside
  refine ⟨?_, fun _ _ _ cut => uncut (truncated_later run inside cut)⟩
  intro step _
  apply ReceivePart.lands_of_singlePieces
    (StreamWorld.receiveRun (receiverRun before))
  intro buffers member
  apply single
  obtain ⟨later, rfl⟩ := inside
  rw [receiverHistory, List.filterMap_append, List.filterMap_append]
  exact List.mem_append_left _ member

/-- A step of either end keeps the transfer a pipe exactly if it is faithful. -/
private theorem asPipe_step_iff {action : TransferAction}
    (before : (transferMachine O).Run transferring actions world)
    (allowed : transferring actions world action)
    (carried : AsPipe actions world) :
    AsPipe (actions ++ [action]) (world.step action) ↔
      world.Faithful action := by
  have grows : (transferMachine O).image carries (actions ++ [action]) =
      (transferMachine O).image carries actions ++ world.carries action := by
    rw [Machine.image_append, ← before.state_eq]
  unfold AsPipe at carried ⊢
  rw [grows]
  cases action with
  | receiver step => exact carried_receiver_iff before allowed carried
  | send | shutdown | sender =>
      refine iff_of_true (carried_sender before allowed rfl carried)
        ⟨fun step same => ?_, ?_⟩
      · cases same
      · intro report impossible
        cases impossible

theorem throughout_asPipe_iff
    (run : (transferMachine O).Run transferring actions world) :
    (transferMachine O).Throughout AsPipe actions ↔
      (transferMachine O).EachStep
        (fun _ world action => world.Faithful action) actions := by
  apply run.throughout_iff
  · exact .initial
  · intro actions world action before _ allowed carried
    exact asPipe_step_iff before allowed carried

theorem told_of_asPipe
    (run : (transferMachine O).Run transferring actions world)
    (carried : AsPipe actions world) :
    world.accepted.flatten =
        world.reports.flatMap ReceiveResult.toldBytes ++ world.pipe.inside ∧
      ((∃ report ∈ world.reports, report.TellsEnd) →
        world.finished = true ∧ world.pipe.inside = []) := by
  have conserved := Pipe.conserved_of_run carried
  have recorded := recorded_of_run run
  constructor
  · have order := conserved.order
    rw [recorded.written, recorded.taken] at order
    exact order
  · intro ⟨report, member, ends⟩
    exact conserved.ended (recorded.ends report member ends)

/-- In every interleaving of both ends the transfer is a pipe throughout exactly
if each completion lambda lands its pieces and none tells the end after a cut
read; so it is one where every RECEIVE event has its bytes in one buffer and no
read is cut.  Then the bytes told at the receiving end are the first of those
accepted at the sending end, each once and in their order, and they are all of
them when a reader is told the end.  The counts told at the sending end are the
sizes of the accepted chunks in any case. -/
theorem transfers_as_pipe_iff
    (run : (transferMachine O).Run transferring actions world) :
    ((transferMachine O).Throughout AsPipe actions ↔
      (transferMachine O).EachStep
        (fun _ world action => world.Faithful action) actions) ∧
    ((∀ buffers ∈ (receiverHistory actions).filterMap StreamAction.indicated,
        SinglePiece buffers) →
      ¬world.receiver.receivePart.Truncated →
        (transferMachine O).Throughout AsPipe actions) ∧
    ((transferMachine O).Throughout AsPipe actions →
      world.accepted.flatten =
          world.reports.flatMap ReceiveResult.toldBytes ++ world.pipe.inside ∧
        ((∃ report ∈ world.reports, report.TellsEnd) →
          world.finished = true ∧ world.pipe.inside = [])) ∧
    world.accepted.map List.length =
      world.sender.counted (senderHistory actions) := by
  have iff := throughout_asPipe_iff run
  refine ⟨iff, ?_, ?_, (counted_of_run run).counted⟩
  · intro single uncut
    exact iff.mpr (faithful_of_singlePieces run single uncut)
  · intro throughout
    have carried := throughout actions List.prefix_rfl
    rw [← run.state_eq] at carried
    exact told_of_asPipe run carried

/-- Three bytes are sent with the FIN.  The peer reads two of them, then one,
and is told the end. -/
def twoChunks : List TransferAction :=
  [.send [[1], [2]] false, .sender (.send .assignTx),
    .sender (.send .assignRx), .sender (.send .raise),
    .receiver (.receive [0, 0] 2), .receiver .receiveInitiate,
    .sender (.send (.call .success)), .receiver (.event (.receive [[1, 2]])),
    .sender (.event (.sendComplete false)), .receiver (.receiveHandler .success),
    .sender (.send .initiate), .sender (.send (.invoke .success)),
    .receiver .receiveInvoke, .send [[3]] true, .sender (.send .assignTx),
    .sender (.send .assignRx), .sender (.send .raise),
    .sender (.send (.call .success)), .receiver (.event (.receive [[3]])),
    .receiver (.receive [0, 0] 2), .receiver .receiveInitiate,
    .receiver (.receiveHandler .success), .receiver .receiveInvoke,
    .receiver (.event .peerSendShutdown), .receiver (.receive [0, 0] 2),
    .receiver .receiveInitiate, .receiver (.receiveHandler .success)]

theorem transfers_as_pipe_iff_twoChunks :
    ((transferMachine .reference).exec twoChunks).accepted.flatten = [1, 2, 3] ∧
      ((transferMachine .reference).exec twoChunks).pipe.inside = [] := by
  have run : (transferMachine .reference).Run transferring twoChunks
      ((transferMachine .reference).exec twoChunks) :=
    Machine.run_of_checks twoChunks (by decide)
  have uncut :
      ¬((transferMachine .reference).exec
        twoChunks).receiver.receivePart.Truncated := by
    unfold ReceivePart.Truncated
    decide
  have transfers := transfers_as_pipe_iff run
  have asPipe := transfers.2.1 (by unfold SinglePiece; decide) uncut
  have ended := (transfers.2.2.1 asPipe).2 (by decide)
  exact ⟨by decide, ended.2⟩

end TransferWorld

end MsquicAsio
