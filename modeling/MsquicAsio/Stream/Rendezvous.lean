/-
The rendezvous of RECEIVE events and `async_receive` calls.

Either side may come first.  Whoever does makes the channel, and the handler
reads whatever receiver the context holds when it runs.  `Rendezvous` is the
invariant that ties the flags, the channel, the call and the outstanding
RECEIVE event together.
-/
import MsquicAsio.Stream.History

set_option autoImplicit false

namespace MsquicAsio

variable {O : Oneshot}

def ReceiveOp.inProgress : ReceiveOp → Bool
  | .ready _ _ _ => true
  | .waiting _ _ _ _ => true
  | _ => false

namespace ReceivePart

/-- msquic delivers no RECEIVE while an earlier one is uncompleted, and none
after the peer's direction has ended. -/
def oneReceive : Environment (ReceivePart O) StreamAction :=
  fun actions part action =>
    action.indicated ≠ none →
      part.delivery.uncompleted = none ∧ lastTerminal actions = none

instance (actions : List StreamAction) (part : ReceivePart O)
    (action : StreamAction) : Decidable (oneReceive actions part action) :=
  inferInstanceAs (Decidable (_ → _ ∧ _))

def consumed (part : ReceivePart O) : List ReceiveRead :=
  part.reads.filter
    (fun read => (part.received.map Prod.fst).contains read.channel)

/-- Where the RECEIVE events that were not consumed are: there is none, and a
reader waits on a channel of its own; or there is one, in the receiver, for the
reader in progress or for the next one. -/
def Outstanding (part : ReceivePart O) :
    List (Option Nat × List Buffer) → Prop
  | [] =>
      part.backend = false ∧ part.delivery.uncompleted = none ∧
        (part.op.inProgress = true →
          (∀ entry ∈ part.received, entry.1 ≠ part.port.rx) ∧
            (part.frontend = true ∨ part.state ≠ .ok))
  | [entry] =>
      entry.1 = part.port.rx ∧ part.frontend = false ∧
        part.backend = !part.op.inProgress ∧
        part.delivery.uncompleted = some (totalLength entry.2) ∧
        ∀ read ∈ part.reads, read.channel ≠ entry.1
  | _ :: _ :: _ => False

structure Rendezvous (part : ReceivePart O)
    (rest : List (Option Nat × List Buffer)) : Prop where
  split : part.received =
    part.consumed.map (fun read => (read.channel, read.buffs)) ++ rest
  held : ∀ entry ∈ part.received, ∃ id, entry.1 = some id ∧
    part.port.value? id = some (.success, entry.2)
  readHeld : ∀ read ∈ part.reads, ∃ id, read.channel = some id ∧
    part.port.value? id = some (read.ec, read.buffs)
  outstanding : part.Outstanding rest

namespace Rendezvous

variable {part : ReceivePart O} {rest : List (Option Nat × List Buffer)}

theorem atMostOne (rendezvous : part.Rendezvous rest) :
    rest = [] ∨ ∃ entry, rest = [entry] := by
  cases rest with
  | nil => exact Or.inl rfl
  | cons entry more =>
      cases more with
      | nil => exact Or.inr ⟨entry, rfl⟩
      | cons => exact rendezvous.outstanding.elim

private theorem exclusive (rendezvous : part.Rendezvous rest) :
    ¬(part.frontend = true ∧ part.backend = true) := by
  rintro ⟨front, back⟩
  have outstanding := rendezvous.outstanding
  rcases rendezvous.atMostOne with rfl | ⟨entry, rfl⟩
  · rw [outstanding.1] at back
    cases back
  · rw [outstanding.2.1] at front
    cases front

private theorem success_of_consumed (rendezvous : part.Rendezvous rest)
    {read : ReceiveRead} (member : read ∈ part.consumed) :
    read.ec = .success := by
  obtain ⟨inReads, contained⟩ := List.mem_filter.mp member
  obtain ⟨entry, inReceived, same⟩ :=
    List.mem_map.mp (List.contains_iff_mem.mp contained)
  obtain ⟨id, entryAt, entryHeld⟩ := rendezvous.held entry inReceived
  obtain ⟨other, readAt, readHeld⟩ := rendezvous.readHeld read inReads
  have sameId : id = other := by
    rw [entryAt, readAt] at same
    exact Option.some.inj same
  rw [← sameId, entryHeld] at readHeld
  exact (Prod.ext_iff.mp (Option.some.inj readHeld)).1.symm

private theorem waiting (rendezvous : part.Rendezvous rest) :
    rest = [] ∨ ∃ channel buffers, rest = [(channel, buffers)] ∧
      part.port.get = some (.success, buffers) ∧
      (part.backend = true ∨ part.op.inProgress = true) := by
  have outstanding := rendezvous.outstanding
  rcases rendezvous.atMostOne with rfl | ⟨⟨channel, buffers⟩, rfl⟩
  · exact Or.inl rfl
  · obtain ⟨rxAt, _, backed, _, _⟩ := outstanding
    have member : (channel, buffers) ∈ part.received := by
      rw [rendezvous.split]
      exact List.mem_append_right _ (List.mem_singleton_self _)
    obtain ⟨id, same, held⟩ := rendezvous.held _ member
    refine Or.inr ⟨channel, buffers, rfl, ?_, ?_⟩
    · rw [Port.get, ← rxAt, same]
      exact held
    · rw [backed]
      cases part.op.inProgress with
      | true => exact Or.inr rfl
      | false => exact Or.inl rfl

private theorem held_next (rendezvous : part.Rendezvous rest)
    (action : StreamAction) {received : List (Option Nat × List Buffer)}
    (same : received = part.received) :
    ∀ entry ∈ received, ∃ id, entry.1 = some id ∧
      (part.next action).port.value? id = some (.success, entry.2) := by
  subst same
  intro entry member
  obtain ⟨id, entryAt, held⟩ := rendezvous.held entry member
  exact ⟨id, entryAt, part.value?_next action held⟩

private theorem readHeld_next (rendezvous : part.Rendezvous rest)
    (action : StreamAction) {reads : List ReceiveRead}
    (same : reads = part.reads) :
    ∀ read ∈ reads, ∃ id, read.channel = some id ∧
      (part.next action).port.value? id = some (read.ec, read.buffs) := by
  subst same
  intro read member
  obtain ⟨id, readAt, held⟩ := rendezvous.readHeld read member
  exact ⟨id, readAt, part.value?_next action held⟩

theorem target_live (sound : part.Sound) :
    ∃ id, part.target.tx = some id ∧ part.target.rx = some id ∧
      part.target.channels.Live id ∧ part.port.value? id = none := by
  cases raised : part.frontend with
  | true =>
      obtain ⟨id, _, txAt, live⟩ := sound.settles.armed raised
      refine ⟨id, ?_⟩
      simp only [target, raised, if_true]
      exact ⟨txAt, by rw [← sound.paired, txAt], live, live.2⟩
  | false =>
      refine ⟨part.port.channels.next, ?_⟩
      simp only [target, raised, Bool.false_eq_true, if_false]
      exact ⟨rfl, rfl, part.port.channels.live_create,
        part.port.channels.value?_unallocated _ (Nat.le_refl _)⟩

private theorem waits_of_open (rendezvous : part.Rendezvous [])
    (sound : part.Sound) (open_ : part.state = .ok) :
    part.op.inProgress = part.frontend := by
  cases raised : part.frontend with
  | true =>
      obtain ⟨id, ownAt, _⟩ := sound.settles.armed raised
      cases at_ : part.op with
      | ready own lpBuffer bufferLen => rfl
      | waiting own wait lpBuffer bufferLen => rfl
      | idle | completing =>
          rw [at_] at ownAt
          cases ownAt
  | false =>
      cases busy : part.op.inProgress with
      | false => rfl
      | true =>
          rcases (rendezvous.outstanding.2.2 busy).2 with front | ended
          · rw [raised] at front
            cases front
          · exact absurd open_ ended

private theorem indicated (rendezvous : part.Rendezvous rest)
    (sound : part.Sound)
    (buffers : List Buffer) (completed : part.delivery.uncompleted = none)
    (open_ : part.state = .ok) :
    ∃ channel, (part.indicated buffers).Rendezvous [(channel, buffers)] := by
  have none_left : rest = [] := by
    have outstanding := rendezvous.outstanding
    rcases rendezvous.atMostOne with rfl | ⟨entry, rfl⟩
    · rfl
    · have uncompleted := outstanding.2.2.2.1
      rw [completed] at uncompleted
      cases uncompleted
  subst none_left
  obtain ⟨id, txAt, rxAt, live, unsent⟩ := target_live sound
  have sent := part.target.afterSend_of_live (.success, buffers) txAt live
  have unread : ∀ read ∈ part.reads, read.channel ≠ some id := by
    intro read member same
    obtain ⟨other, readAt, held⟩ := rendezvous.readHeld read member
    rw [readAt] at same
    obtain rfl := Option.some.inj same
    rw [unsent] at held
    cases held
  have sameConsumed : (part.indicated buffers).consumed = part.consumed := by
    apply List.filter_congr
    intro read member
    simp only [ReceivePart.indicated, List.map_append, List.map_cons,
      List.map_nil, txAt, List.contains_eq_mem, List.mem_append,
      List.mem_singleton, unread read member, or_false]
  refine ⟨some id, ?_, ?_, ?_, ?_⟩
  · have split := rendezvous.split
    rw [List.append_nil] at split
    rw [sameConsumed, ← split]
    simp only [ReceivePart.indicated, txAt]
  · intro entry member
    simp only [ReceivePart.indicated, txAt, List.mem_append,
      List.mem_singleton] at member
    rcases member with old | rfl
    · exact rendezvous.held_next (.event (.receive buffers)) rfl entry old
    · refine ⟨id, rfl, ?_⟩
      simp only [ReceivePart.indicated, sent.2.2.2.2 id, if_true]
  · exact rendezvous.readHeld_next (.event (.receive buffers)) rfl
  · refine ⟨?_, rfl, ?_, rfl, unread⟩
    · simp only [ReceivePart.indicated, Port.rx_afterSend, rxAt]
    · have busy := rendezvous.waits_of_open sound open_
      have unbacked := rendezvous.outstanding.1
      simp only [ReceivePart.indicated, busy, unbacked, Bool.false_or]

private theorem terminal (rendezvous : part.Rendezvous rest)
    (event : StreamEvent)
    {state : StreamState} {ec : ErrorCode}
    (same : part.next (.event event) = part.terminal state ec)
    (ended : state ≠ .ok) : (part.terminal state ec).Rendezvous rest := by
  refine ⟨rendezvous.split, ?_, ?_, ?_⟩
  · have kept := rendezvous.held_next (.event event) rfl
    rw [same] at kept
    exact kept
  · have kept := rendezvous.readHeld_next (.event event) rfl
    rw [same] at kept
    exact kept
  · have outstanding := rendezvous.outstanding
    rcases rendezvous.atMostOne with rfl | ⟨entry, rfl⟩
    · refine ⟨outstanding.1, outstanding.2.1, fun busy => ⟨?_, Or.inr ended⟩⟩
      simp only [ReceivePart.terminal, Port.rx_settle]
      exact (outstanding.2.2 busy).1
    · obtain ⟨rxAt, _, others⟩ := outstanding
      refine ⟨?_, rfl, others⟩
      simp only [ReceivePart.terminal, Port.rx_settle]
      exact rxAt

private theorem called (rendezvous : part.Rendezvous rest)
    (idle : part.op = .idle)
    (lpBuffer : List UInt8) (bufferLen : Nat) :
    (part.called lpBuffer bufferLen).Rendezvous rest := by
  have held := rendezvous.held_next (.receive lpBuffer bufferLen) rfl
  have readHeld := rendezvous.readHeld_next (.receive lpBuffer bufferLen) rfl
  have outstanding := rendezvous.outstanding
  have fresh : ∀ entry ∈ part.received,
      entry.1 ≠ some part.port.channels.next := by
    intro entry member same
    obtain ⟨id, entryAt, value⟩ := rendezvous.held entry member
    rw [entryAt] at same
    obtain rfl := Option.some.inj same
    exact absurd (part.port.channels.lt_next_of_value? value) (Nat.lt_irrefl _)
  simp only [ReceivePart.next, ReceivePart.called] at held readHeld ⊢
  cases raised : part.backend with
  | true =>
      simp only [raised, if_true] at held readHeld ⊢
      refine ⟨rendezvous.split, held, readHeld, ?_⟩
      rcases rendezvous.atMostOne with rfl | ⟨entry, rfl⟩
      · rw [outstanding.1] at raised
        cases raised
      · obtain ⟨rxAt, lowered, _, others⟩ := outstanding
        exact ⟨rxAt, lowered, rfl, others⟩
  | false =>
      have none_left : rest = [] := by
        rcases rendezvous.atMostOne with rfl | ⟨entry, rfl⟩
        · rfl
        · have backed := outstanding.2.2.1
          rw [raised, idle] at backed
          cases backed
      subst none_left
      simp only [raised, Bool.false_eq_true, if_false] at held readHeld ⊢
      by_cases open_ : part.state = .ok
      · simp only [open_, if_true] at held readHeld ⊢
        exact ⟨rendezvous.split, held, readHeld, rfl, outstanding.2.1,
          fun _ => ⟨fresh, Or.inl rfl⟩⟩
      · simp only [open_, if_false] at held readHeld ⊢
        refine ⟨rendezvous.split, held, readHeld, rfl, outstanding.2.1,
          fun _ => ⟨?_, Or.inr open_⟩⟩
        simp only [Port.rx_afterSend, Port.rx_renew]
        exact fresh

private theorem moved (rendezvous : part.Rendezvous rest) (op : ReceiveOp)
    (results : List ReceiveResult) (same : op.inProgress = part.op.inProgress) :
    Rendezvous { part with op := op, results := results } rest := by
  refine ⟨rendezvous.split, rendezvous.held, rendezvous.readHeld, ?_⟩
  have outstanding := rendezvous.outstanding
  rcases rendezvous.atMostOne with rfl | ⟨entry, rfl⟩
  · simp only [Outstanding, same]
    exact outstanding
  · simp only [Outstanding, same]
    exact outstanding

/-- The completion lambda consumes the outstanding RECEIVE event if there is
one, and reads an answer that was no RECEIVE event if there is none. -/
private theorem reading (rendezvous : part.Rendezvous rest) {id : Nat}
    {message : ReceiveMessage} (rxAt : part.port.rx = some id)
    (found : part.port.value? id = some message)
    (busy : part.op.inProgress = true) (lpBuffer : List UInt8)
    (bufferLen : Nat) :
    (Sound.reading part id message lpBuffer bufferLen).Rendezvous [] := by
  have outstanding := rendezvous.outstanding
  refine ⟨?_, rendezvous.held, ?_, ?_⟩
  · have split := rendezvous.split
    rcases rendezvous.atMostOne with rfl | ⟨entry, rfl⟩
    -- what is read was sent by no RECEIVE event, so nothing is consumed
    · obtain ⟨apart, _⟩ := outstanding.2.2 busy
      have foreign : (part.received.map Prod.fst).contains (some id) = false := by
        rw [List.contains_eq_mem, decide_eq_false_iff_not]
        intro member
        obtain ⟨entry, inside, same⟩ := List.mem_map.mp member
        exact apart entry inside (same.trans rxAt.symm)
      simp only [Sound.reading, consumed, List.filter_append,
        List.filter_cons, foreign, Bool.false_eq_true, if_false,
        List.filter_nil, List.append_nil] at split ⊢
      exact split
    -- the one RECEIVE event that was not consumed is read
    · have entryAt : entry.1 = some id := outstanding.1.trans rxAt
      have member : entry ∈ part.received := by
        rw [split]
        exact List.mem_append_right _ (List.mem_singleton_self _)
      have contained : (part.received.map Prod.fst).contains (some id) = true := by
        rw [List.contains_iff_mem]
        exact List.mem_map.mpr ⟨entry, member, entryAt⟩
      obtain ⟨other, sameAt, held⟩ := rendezvous.held entry member
      rw [entryAt] at sameAt
      obtain rfl := Option.some.inj sameAt
      rw [found] at held
      obtain rfl := Option.some.inj held
      have sameEntry : entry = (some id, entry.2) := Prod.ext entryAt rfl
      simp only [Sound.reading, consumed, List.filter_append,
        List.filter_cons, contained, if_true, List.filter_nil,
        List.map_append, List.map_cons, List.map_nil, List.append_nil]
      rw [sameEntry] at split
      exact split
  · intro read member
    simp only [Sound.reading, List.mem_append, List.mem_singleton] at member
    rcases member with old | rfl
    · exact rendezvous.readHeld read old
    · exact ⟨id, rfl, found⟩
  · rcases rendezvous.atMostOne with rfl | ⟨entry, rfl⟩
    · obtain ⟨unbacked, completed, _⟩ := outstanding
      refine ⟨unbacked, ?_, by intro impossible; cases impossible⟩
      simp only [Sound.reading, Delivery.complete, completed]
    · obtain ⟨_, _, backed, uncompleted, _⟩ := outstanding
      rw [busy] at backed
      refine ⟨backed, ?_, by intro impossible; cases impossible⟩
      simp only [Sound.reading, Delivery.complete, uncompleted]

/-- One step keeps the rendezvous.  `rest` grows with a RECEIVE event and
shrinks when a completion lambda reads. -/
private theorem next (rendezvous : part.Rendezvous rest) (sound : part.Sound)
    {action : StreamAction} (enabled : part.enabled action = true)
    (allowed : action.indicated ≠ none →
      part.delivery.uncompleted = none ∧ part.state = .ok) :
    ∃ left, (part.next action).Rendezvous left := by
  cases action with
  | event event =>
      cases event with
      | receive buffers =>
          obtain ⟨completed, open_⟩ :=
            allowed (by simp only [StreamAction.indicated, ne_eq,
              reduceCtorEq, not_false_eq_true])
          obtain ⟨channel, after⟩ :=
            rendezvous.indicated sound buffers completed open_
          exact ⟨_, after⟩
      | peerSendShutdown =>
          exact ⟨rest, rendezvous.terminal .peerSendShutdown rfl (by simp)⟩
      | peerSendAborted =>
          exact ⟨rest, rendezvous.terminal .peerSendAborted rfl (by simp)⟩
      | shutdownComplete =>
          exact ⟨rest, rendezvous.terminal .shutdownComplete rfl (by simp)⟩
      | startComplete | sendComplete | other =>
          exact ⟨rest, rendezvous⟩
  | receive lpBuffer bufferLen =>
      have idle : part.op = .idle := by
        cases at_ : part.op <;>
          simp only [ReceivePart.enabled, at_, Bool.false_eq_true] at enabled ⊢
      exact ⟨rest, rendezvous.called idle lpBuffer bufferLen⟩
  | receiveInitiate =>
      cases at_ : part.op with
      | ready own lpBuffer bufferLen =>
          obtain ⟨wait, _, initiated, _⟩ := sound.initiate at_
          simp only [ReceivePart.next, initiated, Option.getD_some]
          exact ⟨rest, rendezvous.moved _ part.results (by rw [at_]; rfl)⟩
      | idle | waiting | completing =>
          simp only [ReceivePart.enabled, at_, Bool.false_eq_true] at enabled
  | receiveHandler ec =>
      obtain ⟨own, wait, lpBuffer, bufferLen, id, message, at_, rxAt, found,
        handled, _⟩ := sound.handler enabled
      simp only [ReceivePart.next, handled, Option.getD_some]
      exact ⟨[], rendezvous.reading rxAt found (by rw [at_]; rfl)
        lpBuffer bufferLen⟩
  | receiveInvoke =>
      simp only [ReceivePart.next, ReceivePart.invoke]
      split
      · rename_i at_
        exact ⟨rest, rendezvous.moved _ _ (by rw [at_]; rfl)⟩
      · exact ⟨rest, rendezvous⟩
  | start | send | shutdown | shutdownInitiate | shutdownHandler =>
      exact ⟨rest, rendezvous⟩

end Rendezvous

private theorem rendezvous_initial :
    (receiveMachine O).initial.Rendezvous [] where
  split := rfl
  held := by intro entry member; cases member
  readHeld := by intro read member; cases member
  outstanding := ⟨rfl, rfl, by intro impossible; cases impossible⟩

theorem rendezvous_of_run
    {condition : Environment (ReceivePart O) StreamAction}
    (stronger : ∀ actions part action,
      condition actions part action → oneReceive actions part action)
    {actions : List StreamAction} {part : ReceivePart O}
    (run : (receiveMachine O).Run (under condition) actions part) :
    ∃ rest, part.Rendezvous rest := by
  apply run.invariant (fun _ part => ∃ rest, part.Rendezvous rest)
    ⟨[], rendezvous_initial⟩
  rintro actions part action before ⟨rest, rendezvous⟩ ⟨enabled, allowed⟩
  apply rendezvous.next (sound_of_run before) enabled
  intro receives
  obtain ⟨completed, open_⟩ := stronger _ _ _ allowed receives
  exact ⟨completed, by rw [state_of_run before, open_]; rfl⟩

end ReceivePart

namespace StreamWorld

/-- The completion lambdas that consume RECEIVE events consume them in the
order of their delivery, each once.  At most the last RECEIVE event is not
consumed yet; its buffers are in the receiver, for the call in progress or
buffered for the next one. -/
theorem receive_rendezvous {actions : List StreamAction}
    {world : StreamWorld O}
    (run : (streamMachine O).Run (under ReceivePart.oneReceive) actions world) :
    ¬(world.ctx.pending.receiveFrontend = true ∧
        world.ctx.pending.receiveBackend = true) ∧
      (∀ read ∈ world.receivePart.consumed, read.ec = .success) ∧
      ∃ rest, actions.filterMap StreamAction.indicated =
          world.receivePart.consumed.map ReceiveRead.buffs ++ rest ∧
        (rest = [] ∨ ∃ buffers, rest = [buffers] ∧
          world.ctx.receive.get = some (.success, buffers) ∧
          (world.ctx.pending.receiveBackend = true ∨
            world.receive.inProgress = true)) := by
  have partRun := receiveRun run
  obtain ⟨rest, rendezvous⟩ :=
    ReceivePart.rendezvous_of_run (fun _ _ _ allowed => allowed) partRun
  refine ⟨rendezvous.exclusive, fun _ => rendezvous.success_of_consumed,
    rest.map Prod.snd, ?_, ?_⟩
  · rw [← ReceivePart.received_of_run partRun, rendezvous.split,
      List.map_append, List.map_map]
    rfl
  · rcases rendezvous.waiting with rfl | ⟨channel, buffers, rfl, got, next⟩
    · exact Or.inl rfl
    · exact Or.inr ⟨buffers, rfl, got, next⟩

/-- A reader that waits for its RECEIVE event, then a RECEIVE event that waits
for its reader. -/
def eitherFirst : List StreamAction :=
  [.receive [0, 0] 2, .receiveInitiate, .event (.receive [[1, 2]]),
    .receiveHandler .success, .receiveInvoke, .event (.receive [[3], [4]]),
    .receive [0, 0] 2, .event .peerSendShutdown, .receiveInitiate,
    .receiveHandler .success, .receiveInvoke]

theorem receive_rendezvous_eitherFirst :
    ((streamMachine .reference).exec eitherFirst).receivePart.consumed.length = 2 ∧
      ∃ rest, eitherFirst.filterMap StreamAction.indicated =
        ((streamMachine .reference).exec eitherFirst).receivePart.consumed.map
          ReceiveRead.buffs ++ rest := by
  obtain ⟨_, _, rest, split, _⟩ :=
    receive_rendezvous (O := .reference)
      (Machine.run_of_checks eitherFirst (by decide))
  exact ⟨by decide, rest, split⟩

end StreamWorld

end MsquicAsio
