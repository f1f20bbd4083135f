/-
Everything that was sent is read in the end.

The sender has done its part when msquic has accepted the bytes, and the FIN
after them.  What is left is up to msquic, which indicates the bytes in pieces
of any size, and to a reader that goes on reading.  No order of their steps goes
on for ever, and none stops before the reader was told all of it.
-/
import MsquicAsio.Stream.WindDown
import MsquicAsio.Transfer.Reading

set_option autoImplicit false

namespace MsquicAsio

variable {O : Oneshot}

def TransferAction.readsOn : TransferAction → Bool
  | .receiver (.event (.receive _)) => true
  | .receiver (.event .peerSendShutdown) => true
  | .receiver action => action.readsOn
  | _ => false

namespace TransferWorld

/-- A transfer to a reader that goes on reading, on a stream whose events keep
their order in the other direction as well. -/
def readingOn (limit : Nat) : Environment (TransferWorld O) TransferAction :=
  fun actions world action =>
    transferring actions world action ∧
      ∀ step ∈ action.receiver?,
        ReceivePart.attentive limit (receiverHistory actions)
            world.receiver.receivePart step ∧
          StreamWorld.promised (receiverHistory actions) world.receiver step =
            true

instance (limit : Nat) (actions : List TransferAction) (world : TransferWorld O)
    (action : TransferAction) : Decidable (readingOn limit actions world action) :=
  inferInstanceAs (Decidable (_ ∧ ∀ step ∈ _, _ ∧ _))

def AllRead (world : TransferWorld O) : Prop :=
  world.reports.flatMap ReceiveResult.toldBytes = world.accepted.flatten

/-- They were also told the end, and the reader has returned. -/
structure ReadToEnd (world : TransferWorld O) : Prop where
  all : world.AllRead
  ended : world.receiver.receivePart.ToldEnd
  idle : world.receiver.receive = .idle

variable {limit : Nat} {actions : List TransferAction} {world : TransferWorld O}

/-! ### What holds on the way -/

private theorem transferringRun
    (run : (transferMachine O).Run (readingOn limit) actions world) :
    (transferMachine O).Run transferring actions world :=
  run.mono fun _ _ _ allowed => allowed.1

private theorem receiverRun_of
    {environment : Environment (StreamWorld O) StreamAction}
    (keeps : ∀ actions (world : TransferWorld O) step,
      readingOn limit actions world (.receiver step) →
        environment (receiverHistory actions) world.receiver step)
    (run : (transferMachine O).Run (readingOn limit) actions world) :
    (streamMachine O).Run environment (receiverHistory actions)
      world.receiver := by
  refine receiverPart.run ?_ run
  intro actions world action step allowed routed
  cases action with
  | send | shutdown | sender => cases routed
  | receiver =>
      obtain rfl := Option.some.inj routed
      exact keeps actions world _ allowed

private theorem partRun
    (run : (transferMachine O).Run (readingOn limit) actions world) :
    (receiveMachine O).Run (ReceivePart.under (ReceivePart.attentive limit))
      (receiverHistory actions) world.receiver.receivePart := by
  apply StreamWorld.receiveRun
  refine receiverRun_of ?_ run
  intro actions world step ⟨transfers, own⟩
  exact ⟨transfers.1.1, (own step rfl).1⟩

private theorem unthrown_of_run
    (run : (transferMachine O).Run (readingOn limit) actions world) :
    world.receiver.threw = false := by
  have contracted : (streamMachine O).Run StreamWorld.contract
      (receiverHistory actions) world.receiver := by
    refine receiverRun_of ?_ run
    intro actions world step ⟨transfers, own⟩
    exact ⟨transfers.1.1, (own step rfl).2⟩
  exact (StreamWorld.contracted_of_run contracted).unthrown

private theorem asPipe_of_run
    (run : (transferMachine O).Run (readingOn limit) actions world) :
    AsPipe actions world := by
  have transfers := transferringRun run
  have attentive := ReceivePart.attentive_of_run (partRun run)
  have faithful := faithful_of_singlePieces transfers
    (fun buffers member => (attentive.pieces buffers member).1) attentive.uncut
  have carried :=
    (throughout_asPipe_iff transfers).mpr faithful actions List.prefix_rfl
  rwa [← run.state_eq] at carried

private theorem allRead_iff
    (run : (transferMachine O).Run (readingOn limit) actions world) :
    world.AllRead ↔ world.pipe.inside = [] := by
  have told := (told_of_asPipe (transferringRun run) (asPipe_of_run run)).1
  rw [AllRead, told]
  constructor
  · intro same
    have lengths := congrArg List.length same
    rw [List.length_append] at lengths
    exact List.length_eq_zero_iff.mp (by omega)
  · intro empty
    rw [empty, List.append_nil]

private theorem ended_of_run
    (run : (transferMachine O).Run (readingOn limit) actions world)
    (ended : world.receiver.receivePart.ToldEnd) :
    world.finished = true ∧ world.AllRead := by
  have told := (told_of_asPipe (transferringRun run) (asPipe_of_run run)).2
  rw [allRead_iff run]
  exact told ended

/-! ### How much is left to do -/

def ahead (actions : List TransferAction) (world : TransferWorld O) : Nat :=
  world.accepted.flatten.length -
    (indicatedBytes (receiverHistory actions)).length

/-- Each byte that is not indicated may take one more RECEIVE event, and the end
one more event, besides what the reader has to do. -/
def toDeliver (actions : List TransferAction) (world : TransferWorld O) : Nat :=
  10 * world.ahead actions +
    (if lastTerminal (receiverHistory actions) = none then 10 else 0) +
    world.receiver.receivePart.toRead

private theorem receivePart_receiver
    (run : (transferMachine O).Run (readingOn limit) actions world)
    (action : StreamAction) :
    (world.step (.receiver action)).receiver.receivePart =
      world.receiver.receivePart.next action :=
  world.receiver.receivePart_step action
    (StreamWorld.lockedRun (receiverRun (transferringRun run))).guarded

private theorem toDeliver_same (actions : List TransferAction)
    (world : TransferWorld O)
    {action : StreamAction} (quiet : action.indicated = none)
    (goesOn : action.terminal = none) :
    (world.step (.receiver action)).ahead (actions ++ [.receiver action]) =
        world.ahead actions ∧
      lastTerminal (receiverHistory (actions ++ [.receiver action])) =
        lastTerminal (receiverHistory actions) := by
  have history : receiverHistory (actions ++ [.receiver action]) =
      receiverHistory actions ++ [action] := receiverHistory_concat _ _
  have nothing : action.bytes = [] := by
    rw [StreamAction.bytes, quiet]
    rfl
  constructor
  · rw [ahead, history, indicatedBytes_concat, nothing, List.append_nil]
    rfl
  · rw [history, lastTerminal_append, goesOn, Option.none_or]

private theorem toDeliver_reader
    (run : (transferMachine O).Run (readingOn limit) actions world)
    (wide : 0 < limit) {action : StreamAction} (own : action.readsOn = true)
    (allowed : readingOn limit actions world (.receiver action)) :
    (world.step (.receiver action)).toDeliver (actions ++ [.receiver action]) <
      world.toDeliver actions := by
  have part := partRun run
  have lower := (ReceivePart.attentive_of_run part).toRead_lt
    (ReceivePart.flowRun part) wide
    (StreamWorld.Locked.part_enabled allowed.1.1.1) own
  have quiet : action.indicated = none ∧ action.terminal = none := by
    cases action <;> first | exact ⟨rfl, rfl⟩ | cases own
  obtain ⟨sameAhead, sameEnd⟩ := toDeliver_same actions world quiet.1 quiet.2
  rw [toDeliver, toDeliver, sameAhead, sameEnd, receivePart_receiver run]
  omega

private theorem toDeliver_receive
    (run : (transferMachine O).Run (readingOn limit) actions world)
    {buffers : List Buffer}
    (allowed : readingOn limit actions world
      (.receiver (.event (.receive buffers)))) :
    (world.step (.receiver (.event (.receive buffers)))).toDeliver
        (actions ++ [.receiver (.event (.receive buffers))]) <
      world.toDeliver actions := by
  obtain ⟨_, some_, _⟩ := (allowed.2 _ rfl).1.2
  have within := allowed.1.2.1.length_le
  have more := world.receiver.receivePart.toRead_receive buffers
  have history : receiverHistory
      (actions ++ [.receiver (.event (.receive buffers))]) =
        receiverHistory actions ++ [.event (.receive buffers)] :=
    receiverHistory_concat _ _
  have bytes : (indicatedBytes (receiverHistory actions ++
      [.event (.receive buffers)])).length =
        (indicatedBytes (receiverHistory actions)).length +
          totalLength buffers := by
    rw [indicatedBytes_concat, List.length_append]
    simp only [StreamAction.bytes, StreamAction.indicated, Option.toList_some,
      List.flatten_singleton, totalLength]
  have sameEnd : lastTerminal (receiverHistory actions ++
      [.event (.receive buffers)]) = lastTerminal (receiverHistory actions) := by
    rw [lastTerminal_append]
    exact Option.none_or
  have fewer : (world.step (.receiver (.event (.receive buffers)))).ahead
      (actions ++ [.receiver (.event (.receive buffers))]) + 1 ≤
        world.ahead actions := by
    rw [ahead, ahead, history, bytes]
    rw [bytes] at within
    change world.accepted.flatten.length - _ + 1 ≤ _
    omega
  rw [toDeliver, toDeliver, history, sameEnd, receivePart_receiver run]
  omega

private theorem toDeliver_end
    (run : (transferMachine O).Run (readingOn limit) actions world)
    (allowed : readingOn limit actions world
      (.receiver (.event .peerSendShutdown))) :
    (world.step (.receiver (.event .peerSendShutdown))).toDeliver
        (actions ++ [.receiver (.event .peerSendShutdown)]) <
      world.toDeliver actions := by
  have open_ : lastTerminal (receiverHistory actions) = none :=
    (allowed.2 _ rfl).1.2
  have history : receiverHistory
      (actions ++ [.receiver (.event .peerSendShutdown)]) =
        receiverHistory actions ++ [.event .peerSendShutdown] :=
    receiverHistory_concat _ _
  have closed : lastTerminal (receiverHistory actions ++
      [.event .peerSendShutdown]) ≠ none := by
    rw [lastTerminal_append]
    exact Option.some_ne_none _
  have sameAhead : (world.step (.receiver (.event .peerSendShutdown))).ahead
      (actions ++ [.receiver (.event .peerSendShutdown)]) =
        world.ahead actions := by
    rw [ahead, history, indicatedBytes_concat]
    change _ - (indicatedBytes (receiverHistory actions) ++ []).length = _
    rw [List.append_nil]
    rfl
  rw [toDeliver, toDeliver, sameAhead, history, if_neg closed, if_pos open_,
    receivePart_receiver run, ReceivePart.toRead_peerSendShutdown]
  omega

private theorem toDeliver_lt
    (run : (transferMachine O).Run (readingOn limit) actions world)
    (wide : 0 < limit) {action : TransferAction} (own : action.readsOn = true)
    (allowed : readingOn limit actions world action) :
    (world.step action).toDeliver (actions ++ [action]) <
      world.toDeliver actions := by
  cases action with
  | send | shutdown | sender => cases own
  | receiver action =>
      cases action with
      | event event =>
          cases event with
          | receive buffers => exact toDeliver_receive run allowed
          | peerSendShutdown => exact toDeliver_end run allowed
          | startComplete | sendComplete | peerSendAborted | shutdownComplete
          | other => cases own
      | start | send | receive | receiveInitiate | receiveHandler
      | receiveInvoke | shutdown | shutdownInitiate | shutdownHandler =>
          exact toDeliver_reader run wide own allowed

/-! ### Where nothing goes on -/

/-- The contract asks nothing of a statement of the reader but program order,
and of a call that it has room and was not told the end. -/
private theorem allowed_reader
    (run : (transferMachine O).Run (readingOn limit) actions world)
    {action : StreamAction} (own : action.readsOn = true)
    (enabled : world.receiver.receivePart.enabled action = true)
    (asks : ∀ lpBuffer bufferLen, action = .receive lpBuffer bufferLen →
      limit ≤ bufferLen ∧ ¬world.receiver.receivePart.ToldEnd) :
    readingOn limit actions world (.receiver action) := by
  have unthrown := unthrown_of_run run
  have ahead := (between_of_run (transferringRun run)).ahead
  have quiet : action.indicated = none ∧ action.bytes = [] ∧
      action.graceful = false := by
    cases action <;> first | exact ⟨rfl, rfl, rfl⟩ | cases own
  have inOrder : world.receiver.enabled action = true := by
    simp only [StreamWorld.enabled, unthrown, Bool.not_false, Bool.true_and]
    cases action with
    | event | start | send | shutdown | shutdownInitiate | shutdownHandler =>
        cases own
    | receive | receiveInitiate | receiveHandler | receiveInvoke =>
        exact enabled
  have flows : ReceivePart.flowControl (receiverHistory actions)
      world.receiver.receivePart action :=
    ⟨fun brings => absurd quiet.1 brings, fun brings => absurd quiet.1 brings⟩
  refine ⟨⟨⟨inOrder, flows⟩, ?_, ?_⟩, ?_⟩
  · rw [indicatedBytes_concat, quiet.2.1, List.append_nil]
    exact ahead
  · rw [quiet.2.2]
    intro impossible
    cases impossible
  · intro step same
    obtain rfl := Option.some.inj same
    cases action with
    | event | start | send | shutdown | shutdownInitiate | shutdownHandler =>
        cases own
    | receive lpBuffer bufferLen =>
        exact ⟨⟨flows, asks lpBuffer bufferLen rfl⟩, rfl⟩
    | receiveInitiate | receiveHandler | receiveInvoke =>
        exact ⟨⟨flows, trivial⟩, rfl⟩

private theorem not_torn {steps : List StreamAction}
    (open_ : lastTerminal steps = none) :
    steps.contains (.event .shutdownComplete) = false := by
  rw [lastTerminal, List.getLast?_eq_none_iff,
    List.filterMap_eq_nil_iff] at open_
  rw [List.contains_eq_mem, decide_eq_false_iff_not]
  intro torn
  cases open_ _ torn

private theorem allowed_event
    (run : (transferMachine O).Run (readingOn limit) actions world)
    {event : StreamEvent}
    (flows : ReceivePart.attentive limit (receiverHistory actions)
      world.receiver.receivePart (.event event))
    (promised : StreamWorld.promised (receiverHistory actions) world.receiver
      (.event event) = true)
    (next : indicatedBytes (receiverHistory actions ++ [.event event]) <+:
      world.accepted.flatten)
    (ends : StreamAction.graceful (.event event) = true →
      world.finished = true ∧
        indicatedBytes (receiverHistory actions ++ [.event event]) =
          world.accepted.flatten) :
    readingOn limit actions world (.receiver (.event event)) := by
  refine ⟨⟨⟨?_, flows.1⟩, next, ends⟩, ?_⟩
  · simp only [StreamWorld.enabled, unthrown_of_run run, Bool.not_false,
      Bool.and_true]
  · intro step same
    obtain rfl := Option.some.inj same
    exact ⟨flows, promised⟩

/-- Where a reader waits and cannot go on, msquic may indicate the next byte
that it has. -/
private theorem allowed_byte
    (run : (transferMachine O).Run (readingOn limit) actions world)
    (wide : 0 < limit)
    (completed : world.receiver.delivery.uncompleted = none)
    (running : world.receiver.delivery.paused = false)
    (open_ : lastTerminal (receiverHistory actions) = none)
    (more : 0 < world.ahead actions) :
    ∃ byte, readingOn limit actions world
      (.receiver (.event (.receive [[byte]]))) := by
  obtain ⟨rest, split⟩ := (between_of_run (transferringRun run)).ahead
  cases rest with
  | nil =>
      rw [ahead, ← split, List.append_nil, Nat.sub_self] at more
      cases more
  | cons byte rest =>
      refine ⟨byte, allowed_event run ?_ ?_ ?_ ?_⟩
      · have flows : ReceivePart.flowControl (receiverHistory actions)
            world.receiver.receivePart (.event (.receive [[byte]])) :=
          ⟨fun _ => ⟨completed, open_⟩, fun _ => running⟩
        exact ⟨flows, Nat.le_refl 1, Nat.one_pos, wide⟩
      · simp only [StreamWorld.promised, not_torn open_, Bool.not_false]
      · rw [indicatedBytes_concat, ← split]
        exact ⟨rest, List.append_assoc _ _ _⟩
      · intro impossible
        cases impossible

private theorem allowed_end
    (run : (transferMachine O).Run (readingOn limit) actions world)
    (open_ : lastTerminal (receiverHistory actions) = none)
    (nothing : world.ahead actions = 0) (finished : world.finished = true) :
    readingOn limit actions world (.receiver (.event .peerSendShutdown)) := by
  have before := (between_of_run (transferringRun run)).ahead
  have whole : indicatedBytes (receiverHistory actions) =
      world.accepted.flatten := by
    apply List.IsPrefix.eq_of_length_le before
    exact Nat.sub_eq_zero_iff_le.mp nothing
  have same : indicatedBytes (receiverHistory actions ++
      [.event .peerSendShutdown]) = world.accepted.flatten := by
    rw [indicatedBytes_concat, whole]
    exact List.append_nil _
  refine allowed_event run ?_ ?_ ?_ ?_
  · exact ⟨⟨fun brings => absurd rfl brings, fun brings => absurd rfl brings⟩,
      open_⟩
  · simp only [StreamWorld.promised, not_torn open_, Bool.not_false]
  · rw [same]
  · exact fun _ => ⟨finished, same⟩

/-- Everything accepted was read, and the reader was told the end or waits for
a sender that has not finished. -/
private theorem rests_of_quiet
    (run : (transferMachine O).Run (readingOn limit) actions world)
    (wide : 0 < limit)
    (quiet : Machine.Quiet (readingOn limit) TransferAction.readsOn actions
      world) :
    world.ReadToEnd ∨ world.finished = false ∧ world.AllRead := by
  -- a statement of the reader that may run contradicts the quiet
  have stops : ∀ action : StreamAction, action.readsOn = true →
      world.receiver.receivePart.enabled action = true →
      (∀ lpBuffer bufferLen, action = .receive lpBuffer bufferLen →
        limit ≤ bufferLen ∧ ¬world.receiver.receivePart.ToldEnd) → False := by
    intro action own enabled asks
    refine quiet (.receiver action) ?_ (allowed_reader run own enabled asks)
    cases action <;> first | exact own | cases own
  cases at_ : world.receiver.receivePart.op with
  | ready own lpBuffer bufferLen =>
      exfalso
      apply stops .receiveInitiate rfl
      · simp only [ReceivePart.enabled, at_]
      · intro lpBuffer bufferLen impossible
        cases impossible
  | completing channel ec bytes lpBuffer bufferLen =>
      exfalso
      apply stops .receiveInvoke rfl
      · simp only [ReceivePart.enabled, at_]
      · intro lpBuffer bufferLen impossible
        cases impossible
  | idle =>
      left
      by_cases ended : world.receiver.receivePart.ToldEnd
      · exact ⟨(ended_of_run run ended).2, ended, at_⟩
      · exfalso
        apply stops (.receive (List.replicate limit 0) limit) rfl
        · simp only [ReceivePart.enabled, at_]
        · intro lpBuffer bufferLen same
          obtain ⟨_, rfl⟩ := StreamAction.receive.inj same
          exact ⟨Nat.le_refl _, ended⟩
  | waiting own wait lpBuffer bufferLen =>
      right
      have part := partRun run
      have attentive := ReceivePart.attentive_of_run part
      have flow := ReceivePart.flowRun part
      have stuck : world.receiver.receivePart.completes .success = false := by
        apply Bool.eq_false_iff.mpr
        intro completes
        apply stops (.receiveHandler .success) rfl completes
        intro lpBuffer bufferLen impossible
        cases impossible
      obtain ⟨completed, running, unread, open_⟩ :=
        attentive.drained_of_waiting flow at_ stuck
      -- bytes that msquic still has could be indicated, and so could the end
      have nothing : world.ahead actions = 0 := by
        by_contra some_
        obtain ⟨byte, allowed⟩ := allowed_byte run wide completed running open_
          (Nat.pos_of_ne_zero some_)
        exact quiet _ rfl allowed
      constructor
      · apply Bool.eq_false_iff.mpr
        intro finished
        exact quiet _ rfl (allowed_end run open_ nothing finished)
      · rw [allRead_iff run, pipe, List.drop_eq_nil_iff]
        have balance := (ReceivePart.balanced_of_run flow).balance
        rw [unread, Nat.add_zero] at balance
        rw [ahead] at nothing
        omega

/-- The handlers are told all that was accepted so far, whatever the order of
the reader's statements and of msquic's events; and they are told the end,
exactly if the sender has finished. -/
theorem reads_all_iff (wide : 0 < limit)
    (run : (transferMachine O).Run (readingOn limit) actions world) :
    (transferMachine O).Inevitable (readingOn limit) TransferAction.readsOn
        AllRead actions ∧
      ((transferMachine O).Inevitable (readingOn limit) TransferAction.readsOn
        ReadToEnd actions ↔ world.finished = true) := by
  refine ⟨?_, ?_, ?_⟩
  · apply run.inevitable (fun _ _ => True) toDeliver trivial
    · intro actions world action run _ own allowed
      exact ⟨trivial, toDeliver_lt run wide own allowed⟩
    · intro actions world run _ quiet
      rcases rests_of_quiet run wide quiet with toEnd | ⟨_, all⟩
      · exact toEnd.all
      · exact all
  · intro inevitable
    by_contra unfinished
    refine Machine.not_inevitable
      (fun actions world =>
        (transferMachine O).Run (readingOn limit) actions world ∧
          world.finished ≠ true) run ⟨run, unfinished⟩ ?_ ?_ inevitable
    · intro actions world action run ⟨_, unfinished⟩ own allowed
      refine ⟨.step run allowed, ?_⟩
      cases action with
      | send | shutdown | sender => cases own
      | receiver => exact unfinished
    · intro actions world ⟨run, unfinished⟩ toEnd
      exact unfinished (ended_of_run run toEnd.ended).1
  · intro finished
    apply run.inevitable (fun _ world => world.finished = true) toDeliver
      finished
    · intro actions world action run finished own allowed
      refine ⟨?_, toDeliver_lt run wide own allowed⟩
      cases action with
      | send | shutdown | sender => cases own
      | receiver => exact finished
    · intro actions world run finished quiet
      rcases rests_of_quiet run wide quiet with toEnd | ⟨unfinished, _⟩
      · exact toEnd
      · rw [finished] at unfinished
        cases unfinished

/-- Two bytes are accepted with the FIN, and the peer has one of them. -/
def finishedAhead : List TransferAction :=
  [.send [[1], [2]] true, .sender (.send .assignTx),
    .sender (.send .assignRx), .sender (.send .raise),
    .sender (.send (.call .success)), .receiver (.event (.receive [[1]]))]

theorem reads_all_iff_finishedAhead :
    (transferMachine .reference).Inevitable (readingOn 1)
      TransferAction.readsOn ReadToEnd finishedAhead := by
  have run : (transferMachine .reference).Run (readingOn 1) finishedAhead
      ((transferMachine .reference).exec finishedAhead) :=
    Machine.run_of_checks finishedAhead (by decide)
  exact (reads_all_iff (by decide) run).2.mpr (by decide)

end TransferWorld

end MsquicAsio
