/-
The acknowledgements of received data.

The completion lambda of `async_receive` ends with `receive_complete(copied)`,
whatever the message was that it read.  Here the stream is put together with
the handle on which that call is made, and every call is recorded.
-/
import Mathlib.Data.List.Nodup
import MsquicAsio.Stream.Machine

set_option autoImplicit false

namespace MsquicAsio

variable {O : Oneshot}

/-- One call of `StreamReceiveComplete`: its arguments, and the channel of the
message that was read before it. -/
structure ReceiveComplete where
  handle : Option Hquic
  len : Nat
  channel : Option Nat
  deriving DecidableEq

structure AckWorld (O : Oneshot) where
  stream : StreamWorld O
  h : Option Hquic
  completes : List ReceiveComplete

inductive AckAction
  | stream (action : StreamAction)
  | close
  deriving DecidableEq

/-- What the completion lambda reads and copies, if the step is one that does. -/
def StreamWorld.read? (world : StreamWorld O) :
    StreamAction → Option ReceiveRead
  | .receiveHandler ec =>
      if ec.failed = true then none
      else
        match world.receive, world.ctx.receive.get with
        | .waiting _ _ lpBuffer bufferLen, some message =>
            some ⟨world.ctx.receive.rx, message.1, message.2, bufferLen,
              (copyBuffers lpBuffer bufferLen message.2).copied⟩
        | _, _ => none
  | _ => none

namespace AckWorld

def receiveComplete (world : AckWorld O) (read : ReceiveRead) :
    ReceiveComplete :=
  ⟨world.h, read.copied, read.channel⟩

def step (world : AckWorld O) : AckAction → AckWorld O
  | .stream action =>
      { world with
        stream := world.stream.step action
        completes := world.completes ++
          ((world.stream.read? action).map world.receiveComplete).toList }
  | .close => { world with h := none }

end AckWorld

/-- The run starts with the stream open on `h`. -/
def ackMachine (O : Oneshot) (h : Hquic) : Machine (AckWorld O) AckAction where
  initial := ⟨.initial, some h, []⟩
  step := AckWorld.step

/-! ### What the stream records of its readers -/

namespace StreamWorld

variable (world : StreamWorld O)

theorem reads_step (action : StreamAction) :
    (world.step action).reads =
      world.reads ++ (world.read? action).toList := by
  cases action with
  | receiveHandler ec =>
      simp only [step, read?]
      cases at_ : world.receive with
      | waiting own wait lpBuffer bufferLen =>
          by_cases failed : ec.failed = true
          · simp [ReceivePart.handler, receivePart, at_, failed, withReceive]
          · cases got : world.ctx.receive.get with
            | none =>
                simp [ReceivePart.handler, receivePart, at_, failed, got]
            | some message =>
                simp [ReceivePart.handler, receivePart, at_, failed, got,
                  withReceive]
      | idle | ready | completing =>
          by_cases failed : ec.failed = true <;>
            simp [ReceivePart.handler, receivePart, at_, failed, withReceive]
  | event event => simp [step, deliver, read?]
  | start step =>
      simp only [StreamWorld.step, asyncStart, read?, Option.toList_none,
        List.append_nil]
      split <;> rfl
  | send step =>
      simp only [StreamWorld.step, asyncSend, read?, Option.toList_none,
        List.append_nil]
      split <;> rfl
  | receiveInitiate =>
      simp only [step, read?, Option.toList_none, List.append_nil]
      cases initiated : world.receivePart.initiate with
      | none => rfl
      | some part =>
          rw [ReceivePart.initiate_keeps initiated]
          rfl
  | receiveInvoke =>
      simp only [step, read?, Option.toList_none, List.append_nil,
        ReceivePart.invoke]
      split <;> rfl
  | receive | shutdown => simp [step, read?]
  | shutdownInitiate | shutdownHandler =>
      simp only [step, read?, Option.toList_none, List.append_nil]
      split <;> rfl

structure Told : Prop where
  known : ∀ read ∈ world.reads, read.channel ≠ none
  results : ∀ result ∈ world.results, result.channel = none ∨
    ∃ read ∈ world.reads, read.channel = result.channel ∧
      read.copied = result.bytes
  completing : ∀ channel ec bytes lpBuffer bufferLen,
    world.receive = .completing channel ec bytes lpBuffer bufferLen →
      channel = none ∨ ∃ read ∈ world.reads, read.channel = channel ∧
        read.copied = bytes

private theorem told_initial : (initial : StreamWorld O).Told where
  known := by intro read impossible; cases impossible
  results := by intro result impossible; cases impossible
  completing := by
    intro channel ec bytes lpBuffer bufferLen impossible
    cases impossible

variable {world}

private theorem Told.kept (told : world.Told) {after : StreamWorld O}
    (sameReads : after.reads = world.reads)
    (sameResults : after.results = world.results)
    (op : after.receive = world.receive ∨
      ∀ channel ec bytes lpBuffer bufferLen,
        after.receive ≠ .completing channel ec bytes lpBuffer bufferLen) :
    after.Told where
  known := by rw [sameReads]; exact told.known
  results := by rw [sameReads, sameResults]; exact told.results
  completing := by
    intro channel ec bytes lpBuffer bufferLen at_
    rw [sameReads]
    rcases op with same | never
    · exact told.completing channel ec bytes lpBuffer bufferLen
        (same.symm.trans at_)
    · exact absurd at_ (never channel ec bytes lpBuffer bufferLen)

private theorem Told.handler_step (told : world.Told) (ec : ErrorCode) :
    (world.step (.receiveHandler ec)).Told := by
  simp only [step]
  cases at_ : world.receive with
  | waiting own wait lpBuffer bufferLen =>
      by_cases failed : ec.failed = true
      · simp only [ReceivePart.handler, receivePart, at_, failed, if_true]
        exact
          { known := told.known
            results := told.results
            completing := by
              intro channel ec bytes lpBuffer bufferLen same
              cases same
              exact Or.inl rfl }
      · cases rxAt : world.ctx.receive.rx with
        | none =>
            have got : world.ctx.receive.get = none := by
              simp only [Port.get, rxAt]
            simp only [ReceivePart.handler, receivePart, at_, failed, if_false,
              got, Option.map_none, Bool.false_eq_true]
            exact told.kept rfl rfl (Or.inl at_.symm)
        | some id =>
            cases got : world.ctx.receive.get with
            | none =>
                simp only [ReceivePart.handler, receivePart, at_, failed,
                  if_false, got, Option.map_none, Bool.false_eq_true]
                exact told.kept rfl rfl (Or.inl at_.symm)
            | some message =>
                simp only [ReceivePart.handler, receivePart, at_, failed,
                  if_false, got, Option.map_some, rxAt, Bool.false_eq_true]
                exact
                  { known := by
                      intro read member
                      rcases List.mem_append.mp member with old | new
                      · exact told.known read old
                      · obtain rfl := List.mem_singleton.mp new
                        exact Option.some_ne_none id
                    results := by
                      intro result member
                      rcases told.results result member with unread |
                        ⟨read, inReads, same⟩
                      · exact Or.inl unread
                      · exact Or.inr
                          ⟨read, List.mem_append_left _ inReads, same⟩
                    completing := by
                      intro channel ec bytes lpBuffer bufferLen same
                      cases same
                      exact Or.inr ⟨_, List.mem_append_right _
                        (List.mem_singleton_self _), rfl, rfl⟩ }
  | idle | ready | completing =>
      simp only [ReceivePart.handler, receivePart, at_]
      exact told.kept rfl rfl (Or.inl at_.symm)

private theorem Told.step (told : world.Told) (action : StreamAction) :
    (world.step action).Told := by
  cases action with
  | receiveHandler ec => exact told.handler_step ec
  | event event => exact told.kept rfl rfl (Or.inl rfl)
  | start step =>
      simp only [StreamWorld.step, asyncStart]
      split <;> exact told.kept rfl rfl (Or.inl rfl)
  | send step =>
      simp only [StreamWorld.step, asyncSend]
      split <;> exact told.kept rfl rfl (Or.inl rfl)
  | receive lpBuffer bufferLen =>
      exact told.kept rfl rfl (Or.inr (by
        intro channel ec bytes lpBuffer bufferLen impossible
        cases impossible))
  | receiveInitiate =>
      simp only [StreamWorld.step]
      cases at_ : world.receive with
      | ready own lpBuffer bufferLen =>
          cases rxAt : world.ctx.receive.rx with
          | none =>
              simp only [ReceivePart.initiate, receivePart, at_, rxAt,
                Option.map_none]
              exact told.kept rfl rfl (Or.inl at_.symm)
          | some id =>
              simp only [ReceivePart.initiate, receivePart, at_, rxAt,
                Option.map_some]
              exact told.kept rfl rfl (Or.inr (by
                intro channel ec bytes lpBuffer bufferLen impossible
                cases impossible))
      | idle | waiting | completing =>
          simp only [ReceivePart.initiate, receivePart, at_]
          exact told.kept rfl rfl (Or.inl at_.symm)
  | receiveInvoke =>
      simp only [StreamWorld.step, ReceivePart.invoke]
      cases at_ : world.receive with
      | completing channel ec bytes lpBuffer bufferLen =>
          simp only [receivePart, at_]
          exact
            { known := told.known
              results := by
                intro result member
                rcases List.mem_append.mp member with old | new
                · exact told.results result old
                · obtain rfl := List.mem_singleton.mp new
                  exact told.completing channel ec bytes lpBuffer bufferLen at_
              completing := by
                intro channel ec bytes lpBuffer bufferLen impossible
                cases impossible }
      | idle | ready | waiting =>
          simp only [receivePart, at_]
          exact told.kept rfl rfl (Or.inl at_.symm)
  | shutdown status => exact told.kept rfl rfl (Or.inl rfl)
  | shutdownInitiate | shutdownHandler =>
      simp only [StreamWorld.step]
      split <;> exact told.kept rfl rfl (Or.inl rfl)

private theorem received_step (world : StreamWorld O) (action : StreamAction)
    {entry : Option Nat × List Buffer} (member : entry ∈ world.received) :
    entry ∈ (world.step action).received := by
  cases action with
  | event event =>
      cases event with
      | receive buffers => exact List.mem_append_left _ member
      | startComplete | sendComplete | peerSendShutdown | peerSendAborted
      | shutdownComplete | other => exact member
  | start step =>
      simp only [StreamWorld.step, asyncStart]
      split <;> exact member
  | send step =>
      simp only [StreamWorld.step, asyncSend]
      split <;> exact member
  | receiveInitiate | receiveHandler | shutdownInitiate | shutdownHandler =>
      simp only [StreamWorld.step]
      split <;> exact member
  | receive | receiveInvoke | shutdown => exact member

private theorem received_of_read {action : StreamAction} {read : ReceiveRead}
    (reads : world.read? action = some read) :
    (world.step action).received = world.received := by
  cases action with
  | receiveHandler ec =>
      simp only [StreamWorld.step]
      split <;> rfl
  | event | start | send | receive | receiveInitiate | receiveInvoke
  | shutdown | shutdownInitiate | shutdownHandler => cases reads

end StreamWorld

/-! ### Acknowledgements and RECEIVE events -/

namespace AckWorld

/-- One `async_receive` is outstanding at a time.  `async_shutdown` and `close`
may be called at any time. -/
def oneReader : Environment (AckWorld O) AckAction :=
  fun _ world action =>
    match action with
    | .stream (.shutdown _) => world.stream.threw = false
    | .stream action => world.stream.enabled action = true
    | .close => True

instance (actions : List AckAction) (world : AckWorld O) (action : AckAction) :
    Decidable (oneReader actions world action) := by
  unfold oneReader
  split <;> infer_instance

def Indicated (world : AckWorld O) (channel : Option Nat) : Prop :=
  ∃ buffers, (channel, buffers) ∈ world.stream.received

/-- Each RECEIVE that a handler consumed has exactly one
`StreamReceiveComplete`, on the open handle and with the length that the
handler reports, and there is no other. -/
structure Acknowledged (h : Hquic) (world : AckWorld O) : Prop where
  consumed : ∀ read ∈ world.stream.reads, world.Indicated read.channel →
    (world.completes.map ReceiveComplete.channel).count read.channel = 1 ∧
      ∀ call ∈ world.completes, call.channel = read.channel →
        call.handle = some h ∧ call.len = read.copied
  reported : ∀ result ∈ world.stream.results, ∀ call ∈ world.completes,
    call.channel = result.channel → call.len = result.bytes
  noOther : ∀ call ∈ world.completes,
    call.handle = some h ∧ world.Indicated call.channel

/-- A handler that reads a message reads that of a RECEIVE event, for the first
time, while the handle is open. -/
def ReadsReceive (h : Hquic) (_ : List AckAction) (world : AckWorld O)
    (action : AckAction) : Prop :=
  ∀ inner read, action = .stream inner →
    world.stream.read? inner = some read →
      world.h = some h ∧ world.Indicated read.channel ∧
        read.channel ∉ world.stream.reads.map ReceiveRead.channel

structure Calls (world : AckWorld O) : Prop where
  told : world.stream.Told
  same : world.completes.map (fun call => (call.channel, call.len)) =
    world.stream.reads.map (fun read => (read.channel, read.copied))

variable {world : AckWorld O} {h : Hquic}

private theorem calls_initial : ((ackMachine O h).initial).Calls where
  told := StreamWorld.told_initial
  same := rfl

private theorem Calls.step (calls : world.Calls) (action : AckAction) :
    (world.step action).Calls := by
  cases action with
  | stream action =>
      refine ⟨calls.told.step action, ?_⟩
      simp only [AckWorld.step, world.stream.reads_step action,
        List.map_append, calls.same]
      cases world.stream.read? action <;> rfl
  | close => exact ⟨calls.told, calls.same⟩

private theorem Calls.channels (calls : world.Calls) :
    world.completes.map ReceiveComplete.channel =
      world.stream.reads.map ReceiveRead.channel := by
  have firsts := congrArg (List.map Prod.fst) calls.same
  rw [List.map_map, List.map_map] at firsts
  exact firsts

/-- When every read was of a RECEIVE, and of each once, the calls are the
acknowledgements. -/
private theorem Calls.acknowledged (calls : world.Calls)
    (once : (world.stream.reads.map ReceiveRead.channel).Nodup)
    (noOther : ∀ call ∈ world.completes,
      call.handle = some h ∧ world.Indicated call.channel) :
    world.Acknowledged h := by
  have length : ∀ call ∈ world.completes, ∀ read ∈ world.stream.reads,
      call.channel = read.channel → call.len = read.copied := by
    intro call inCalls read inReads sameChannel
    have member : (call.channel, call.len) ∈ world.stream.reads.map
        (fun read => (read.channel, read.copied)) := by
      rw [← calls.same]
      exact List.mem_map_of_mem inCalls
    obtain ⟨other, inOthers, same⟩ := List.mem_map.mp member
    obtain ⟨otherChannel, otherLen⟩ := Prod.mk.inj same
    have equal : other = read := List.inj_on_of_nodup_map once inOthers inReads
      (otherChannel.trans sameChannel)
    rw [← otherLen, equal]
  refine
    { consumed := ?_
      reported := ?_
      noOther := noOther }
  · intro read member _
    refine ⟨?_, ?_⟩
    · rw [calls.channels]
      exact List.count_eq_one_of_mem once (List.mem_map_of_mem member)
    · intro call inCalls same
      exact ⟨(noOther call inCalls).1, length call inCalls read member same⟩
  · intro result member call inCalls sameChannel
    rcases calls.told.results result member with unread |
      ⟨read, inReads, same, bytes⟩
    · have inChannels : call.channel ∈
          world.stream.reads.map ReceiveRead.channel := by
        rw [← calls.channels]
        exact List.mem_map_of_mem inCalls
      obtain ⟨read, inReads, readChannel⟩ := List.mem_map.mp inChannels
      exact absurd ((readChannel.trans sameChannel).trans unread)
        (calls.told.known read inReads)
    · rw [← bytes]
      exact length call inCalls read inReads (sameChannel.trans same.symm)

structure Acknowledging (h : Hquic) (world : AckWorld O) : Prop where
  calls : world.Calls
  once : (world.stream.reads.map ReceiveRead.channel).Nodup
  noOther : ∀ call ∈ world.completes,
    call.handle = some h ∧ world.Indicated call.channel

private theorem acknowledging_initial :
    ((ackMachine O h).initial).Acknowledging h where
  calls := calls_initial
  once := List.nodup_nil
  noOther := by intro call impossible; cases impossible

private theorem Acknowledging.step {actions : List AckAction}
    (acknowledging : world.Acknowledging h) {action : AckAction}
    (reads : ReadsReceive h actions world action) :
    (world.step action).Acknowledging h := by
  cases action with
  | close =>
      exact
        { calls := acknowledging.calls.step .close
          once := acknowledging.once
          noOther := acknowledging.noOther }
  | stream inner =>
      have kept : ∀ channel, world.Indicated channel →
          (world.step (.stream inner)).Indicated channel := by
        intro channel indicated
        obtain ⟨buffers, member⟩ := indicated
        exact ⟨buffers, world.stream.received_step inner member⟩
      cases read : world.stream.read? inner with
      | none =>
          refine
            { calls := acknowledging.calls.step (.stream inner)
              once := ?_
              noOther := ?_ }
          · simp only [AckWorld.step, world.stream.reads_step inner, read,
              Option.toList_none, List.append_nil]
            exact acknowledging.once
          · intro call member
            simp only [AckWorld.step, read, Option.map_none,
              Option.toList_none, List.append_nil] at member
            obtain ⟨onHandle, indicated⟩ := acknowledging.noOther call member
            exact ⟨onHandle, kept _ indicated⟩
      | some found =>
          obtain ⟨isOpen, indicated, unread⟩ := reads inner found rfl read
          refine
            { calls := acknowledging.calls.step (.stream inner)
              once := ?_
              noOther := ?_ }
          · simp only [AckWorld.step, world.stream.reads_step inner, read,
              Option.toList_some, List.map_append, List.map_singleton]
            refine List.Nodup.append acknowledging.once
              (List.nodup_singleton _) ?_
            intro channel before new
            obtain rfl := List.mem_singleton.mp new
            exact unread before
          · intro call member
            simp only [AckWorld.step, read, Option.map_some,
              Option.toList_some] at member
            rcases List.mem_append.mp member with old | new
            · obtain ⟨onHandle, earlier⟩ := acknowledging.noOther call old
              exact ⟨onHandle, kept _ earlier⟩
            · obtain rfl := List.mem_singleton.mp new
              exact ⟨isOpen, kept _ indicated⟩

private theorem readsReceive_of_acknowledged {actions : List AckAction}
    {action : AckAction} (calls : world.Calls)
    (acknowledged : (world.step action).Acknowledged h) :
    ReadsReceive h actions world action := by
  intro inner read same reads
  subst same
  have newCall : world.receiveComplete read ∈
      (world.step (.stream inner)).completes := by
    simp only [AckWorld.step, reads, Option.map_some, Option.toList_some]
    exact List.mem_append_right _ (List.mem_singleton_self _)
  have newRead : read ∈ (world.step (.stream inner)).stream.reads := by
    simp only [AckWorld.step, world.stream.reads_step inner, reads,
      Option.toList_some]
    exact List.mem_append_right _ (List.mem_singleton_self _)
  obtain ⟨isOpen, indicated⟩ := acknowledged.noOther _ newCall
  have before : world.Indicated read.channel := by
    obtain ⟨buffers, member⟩ := indicated
    change (read.channel, buffers) ∈ (world.stream.step inner).received at member
    rw [StreamWorld.received_of_read reads] at member
    exact ⟨buffers, member⟩
  refine ⟨isOpen, before, ?_⟩
  intro twice
  have once := (acknowledged.consumed read newRead indicated).1
  simp only [AckWorld.step, reads, Option.map_some, Option.toList_some,
    List.map_append, List.map_singleton, List.count_append] at once
  rw [calls.channels] at once
  have counted := List.count_pos_iff.mpr twice
  change _ + List.count read.channel [read.channel] = 1 at once
  rw [List.count_singleton_self] at once
  omega

/-- In every state of a run the acknowledgements match the RECEIVE events,
exactly when every message that a handler reads is that of a RECEIVE. -/
theorem acknowledged_iff {actions : List AckAction}
    (run : (ackMachine O h).Run oneReader actions world) :
    (ackMachine O h).Throughout (fun _ world => world.Acknowledged h)
        actions ↔
      (ackMachine O h).EachStep (ReadsReceive h) actions := by
  have invariant : ∀ {actions : List AckAction} {world : AckWorld O},
      (ackMachine O h).Run oneReader actions world →
      (ackMachine O h).EachStep (ReadsReceive h) actions →
      world.Acknowledging h := by
    intro actions world run steps
    apply (run.conditioned steps).invariant
      (fun _ world => world.Acknowledging h) acknowledging_initial
    intro actions world action _ acknowledging allowed
    exact acknowledging.step allowed.2
  apply run.throughout_iff
  · exact acknowledging_initial.calls.acknowledged acknowledging_initial.once
      acknowledging_initial.noOther
  · intro actions world action before steps _ _
    have acknowledging := invariant before steps
    constructor
    · exact readsReceive_of_acknowledged acknowledging.calls
    · intro reads
      have after := acknowledging.step reads
      exact after.calls.acknowledged after.once after.noOther

def readToEnd : List AckAction :=
  [.stream (.receive [0] 1), .stream .receiveInitiate,
    .stream (.event .peerSendShutdown), .stream (.receiveHandler .success)]

/-- Data arrives for the reader, and the stream is closed before its handler
runs. -/
def readAfterClose : List AckAction :=
  [.stream (.receive [0] 1), .stream .receiveInitiate,
    .stream (.event (.receive [[7]])), .close,
    .stream (.receiveHandler .success)]

theorem acknowledges_without_receive :
    ((ackMachine .reference 5).Run oneReader readToEnd
        ((ackMachine .reference 5).exec readToEnd) ∧
      ((ackMachine .reference 5).exec readToEnd).completes =
        [⟨some 5, 0, some 0⟩] ∧
      ¬((ackMachine .reference 5).exec readToEnd).Acknowledged 5) ∧
    ((ackMachine .reference 5).Run oneReader readAfterClose
        ((ackMachine .reference 5).exec readAfterClose) ∧
      ((ackMachine .reference 5).exec readAfterClose).completes =
        [⟨none, 1, some 0⟩] ∧
      ¬((ackMachine .reference 5).exec readAfterClose).Acknowledged 5) := by
  refine ⟨⟨Machine.run_of_checks readToEnd (by decide), by decide, ?_⟩,
    Machine.run_of_checks readAfterClose (by decide), by decide, ?_⟩
  · intro acknowledged
    obtain ⟨buffers, impossible⟩ := (acknowledged.noOther
      ⟨some 5, 0, some 0⟩ (by decide)).2
    cases impossible
  · intro acknowledged
    have onHandle := (acknowledged.noOther
      ⟨none, 1, some 0⟩ (by decide)).1
    cases onHandle

/-- Two RECEIVE events, one of them before its reader, and then the close. -/
def readTwice : List AckAction :=
  [.stream (.receive [0] 1), .stream .receiveInitiate,
    .stream (.event (.receive [[7]])), .stream (.receiveHandler .success),
    .stream .receiveInvoke, .stream (.event (.receive [[8], [9]])),
    .stream (.receive [0, 0] 2), .stream .receiveInitiate,
    .stream (.receiveHandler .success), .close, .stream .receiveInvoke]

theorem acknowledged_iff_readTwice :
    (ackMachine .reference 5).Throughout (fun _ world => world.Acknowledged 5)
        readTwice ↔
      (ackMachine .reference 5).EachStep (ReadsReceive 5) readTwice :=
  acknowledged_iff (Machine.run_of_checks readTwice (by decide))

end AckWorld

end MsquicAsio
