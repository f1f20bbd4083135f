/-
The accepting part of a connection.

`async_accept` raises the flag and releases the semaphore under the mutex; the
PEER_STREAM_STARTED callback acquires, clears the flag and sends without it.
`Accepting` ties permit, flag, sender and the callback's program counter
together, and each statement of either side keeps it.
-/
import MsquicAsio.Connection.History

set_option autoImplicit false

namespace MsquicAsio

variable {O : Oneshot}

def StreamStarted.stream : StreamStarted → Option Hquic
  | .returned => none
  | .acquiring stream => some stream
  | .acquired stream => some stream
  | .asserted stream => some stream
  | .cleared stream => some stream
  | .registered stream => some stream

structure AcceptPart (O : Oneshot) where
  pending : Bool
  acceptBs : Nat
  port : Port O AcceptMessage
  callback : StreamStarted
  op : LockedOp
  callbacks : List Hquic
  handed : List (Option Nat × Hquic)
  accepted : List AcceptMessage

def ConnectionWorld.acceptPart (world : ConnectionWorld O) : AcceptPart O where
  pending := world.ctx.pending.accept
  acceptBs := world.ctx.acceptBs
  port := world.ctx.accept
  callback := world.callback
  op := world.accept
  callbacks := world.callbacks
  handed := world.handed
  accepted := world.accepted

namespace AcceptPart

def slot (part : AcceptPart O) : LockedSlot O AcceptMessage :=
  ⟨part.pending || part.callback.sending, part.port, part.op⟩

def streamMessage (stream : Hquic) : AcceptMessage :=
  (.success, .assign stream)

def successes (part : AcceptPart O) : List AcceptMessage :=
  part.accepted.filter (fun message => message.1 = .success)

/-- The streams handed over are those the handlers got, and perhaps one more
that waits for the handler of the call in progress. -/
def Delivered (part : AcceptPart O) : Prop :=
  ∃ rest, part.handed.map (fun entry => streamMessage entry.2) =
      part.successes ++ rest ∧
    (rest = [] ∧ (∀ id, part.op.own = some id → ∀ message,
        part.port.value? id = some message → message.1 ≠ .success) ∨
      ∃ id message, rest = [message] ∧ part.op.own = some id ∧
        part.port.value? id = some message)

structure Accepting (part : AcceptPart O) (streams : List Hquic)
    (down : Bool) : Prop where
  sound : part.slot.Sound
  permits : down = false → part.acceptBs =
    if (part.pending && !part.callback.passed) = true then 1 else 0
  passed : part.callback.passed = true → part.pending = true
  sending : part.callback.sending = true → part.pending = false
  running : part.callback ≠ .returned → down = false
  registered : ∀ stream, part.callback = .registered stream →
    stream ∈ part.callbacks
  order : streams = part.handed.map Prod.snd ++ part.callback.stream.toList
  handed : ∀ entry ∈ part.handed, ∃ id, entry.1 = some id ∧
    part.port.value? id = some (streamMessage entry.2) ∧
    entry.2 ∈ part.callbacks
  once : (part.handed.map Prod.fst).Nodup
  onlyHanded : ∀ id message, part.port.value? id = some message →
    message.1 = .success → ∃ stream, message = streamMessage stream ∧
      (some id, stream) ∈ part.handed
  delivered : part.Delivered

namespace Accepting

variable {part : AcceptPart O} {streams : List Hquic} {down : Bool}

theorem pending_of_acquire (accepting : part.Accepting streams down)
    {stream : Hquic} (acquiring : part.callback = .acquiring stream)
    (permit : 0 < part.acceptBs) : part.pending = true := by
  have open_ := accepting.running (by rw [acquiring]; simp)
  have permits := accepting.permits open_
  rw [acquiring] at permits
  cases raised : part.pending with
  | true => rfl
  | false =>
      rw [raised] at permits
      simp only [Bool.false_and, Bool.false_eq_true, if_false] at permits
      omega

theorem cancelled (accepting : part.Accepting streams down)
    (returned : part.callback = .returned) :
    Accepting { part with
      pending := false
      port := part.port.settle part.pending (connectionAborted, .dummy) }
      streams true := by
  have notSending : part.callback.sending = false := by rw [returned]; rfl
  have kept : ∀ id message, part.port.value? id = some message →
      (part.port.settle part.pending (connectionAborted, .dummy)).value? id =
        some message :=
    fun id message held => Port.value?_settle_of_held _ part.port _ held
  have sound := accepting.sound.settled (some (connectionAborted, .dummy))
  simp only [slot, LockedSlot.settled, notSending, Bool.or_false] at sound
  refine
    { accepting with
      sound := by
        simp only [slot, notSending, Bool.or_false]
        exact sound
      permits := by intro impossible; cases impossible
      passed := by
        intro impossible
        rw [returned] at impossible
        cases impossible
      sending := fun _ => rfl
      running := fun busy => absurd returned busy
      handed := ?_
      onlyHanded := ?_
      delivered := ?_ }
  · intro entry member
    obtain ⟨id, entryAt, held, inCallbacks⟩ := accepting.handed entry member
    exact ⟨id, entryAt, kept _ _ held, inCallbacks⟩
  · intro id message after success
    unfold Port.settle at after
    split at after
    · rcases part.port.value?_afterSend_cases _ after with old | ⟨_, rfl⟩
      · exact accepting.onlyHanded id message old success
      · cases success
    · exact accepting.onlyHanded id message after success
  · obtain ⟨rest, same, ⟨rfl, none_yet⟩ | ⟨id, message, rfl, own, held⟩⟩ :=
      accepting.delivered
    · refine ⟨[], same, Or.inl ⟨rfl, ?_⟩⟩
      intro id own message after success
      unfold Port.settle at after
      split at after
      · rcases part.port.value?_afterSend_cases _ after with old | ⟨_, rfl⟩
        · exact none_yet id own message old success
        · cases success
      · exact none_yet id own message after success
    · exact ⟨[message], same, Or.inr ⟨id, message, rfl, own, kept _ _ held⟩⟩

theorem started (accepting : part.Accepting streams false)
    (returned : part.callback = .returned) (stream : Hquic) :
    Accepting { part with callback := .acquiring stream }
      (streams ++ [stream]) false := by
  have sound := accepting.sound
  have permits := accepting.permits rfl
  have order := accepting.order
  simp only [slot, returned] at sound
  simp only [returned, StreamStarted.stream, Option.toList_none,
    List.append_nil] at permits order
  exact
    { accepting with
      sound := sound
      permits := fun _ => permits
      passed := by intro impossible; cases impossible
      sending := by intro impossible; cases impossible
      running := fun _ => rfl
      registered := by intro other impossible; cases impossible
      order := by rw [order]; rfl }

theorem acquire (accepting : part.Accepting streams down) {stream : Hquic}
    (acquiring : part.callback = .acquiring stream)
    (permit : 0 < part.acceptBs) :
    Accepting { part with
      acceptBs := part.acceptBs - 1
      callback := .acquired stream } streams down := by
  have raised := accepting.pending_of_acquire acquiring permit
  have sound := accepting.sound
  have permits := accepting.permits
  have order := accepting.order
  simp only [slot, acquiring] at sound
  rw [acquiring] at order
  exact
    { accepting with
      sound := sound
      permits := by
        intro open_
        have one := permits open_
        simp only [raised, acquiring, StreamStarted.passed, Bool.not_false,
          Bool.and_true, if_true] at one
        simp only [one, StreamStarted.passed, Bool.not_true, Bool.and_false,
          Bool.false_eq_true, if_false]
      passed := fun _ => raised
      sending := by intro impossible; cases impossible
      running := fun _ => accepting.running (by rw [acquiring]; simp)
      registered := by intro other impossible; cases impossible
      order := order }

theorem asserted (accepting : part.Accepting streams down) {stream : Hquic}
    (acquired : part.callback = .acquired stream) :
    Accepting { part with callback := .asserted stream } streams down := by
  have sound := accepting.sound
  have permits := accepting.permits
  have order := accepting.order
  simp only [slot, acquired] at sound
  rw [acquired] at permits order
  exact
    { accepting with
      sound := sound
      permits := permits
      passed := fun _ => accepting.passed (by rw [acquired]; rfl)
      sending := by intro impossible; cases impossible
      running := fun _ => accepting.running (by rw [acquired]; simp)
      registered := by intro other impossible; cases impossible
      order := order }

theorem cleared (accepting : part.Accepting streams down) {stream : Hquic}
    (asserted : part.callback = .asserted stream) :
    Accepting { part with pending := false, callback := .cleared stream }
      streams down := by
  have raised := accepting.passed (by rw [asserted]; rfl)
  have sound := accepting.sound
  have permits := accepting.permits
  have order := accepting.order
  simp only [slot, asserted, raised, Bool.true_or] at sound
  rw [asserted] at permits order
  exact
    { accepting with
      sound := sound
      permits := by
        intro open_
        have none_left := permits open_
        simp only [StreamStarted.passed, Bool.not_true, Bool.and_false,
          Bool.false_eq_true, if_false] at none_left
        simp only [none_left, Bool.false_and, Bool.false_eq_true, if_false]
      passed := by intro impossible; cases impossible
      sending := fun _ => rfl
      running := fun _ => accepting.running (by rw [asserted]; simp)
      registered := by intro other impossible; cases impossible
      order := order }

theorem setCallback (accepting : part.Accepting streams down)
    {stream : Hquic} (cleared : part.callback = .cleared stream) :
    Accepting { part with
      callback := .registered stream
      callbacks := part.callbacks ++ [stream] } streams down := by
  have sound := accepting.sound
  have permits := accepting.permits
  have order := accepting.order
  simp only [slot, cleared] at sound
  rw [cleared] at permits order
  refine
    { accepting with
      sound := sound
      permits := permits
      passed := by intro impossible; cases impossible
      sending := fun _ => accepting.sending (by rw [cleared]; rfl)
      running := fun _ => accepting.running (by rw [cleared]; simp)
      registered := ?_
      order := order
      handed := ?_ }
  · intro other same
    obtain rfl := StreamStarted.registered.inj same
    exact List.mem_append_right _ (List.mem_singleton_self _)
  · intro entry member
    obtain ⟨id, entryAt, held, inCallbacks⟩ := accepting.handed entry member
    exact ⟨id, entryAt, held, List.mem_append_left _ inCallbacks⟩

theorem send_live (accepting : part.Accepting streams down) {stream : Hquic}
    (registered : part.callback = .registered stream) :
    ∃ id, part.op.own = some id ∧ part.port.tx = some id ∧
      part.port.channels.Live id := by
  have settles := accepting.sound.settles
  simp only [slot, registered, StreamStarted.sending, Bool.or_true] at settles
  exact settles.armed rfl

theorem send (accepting : part.Accepting streams down) {stream : Hquic}
    (registered : part.callback = .registered stream) :
    Accepting { part with
      port := part.port.afterSend (streamMessage stream)
      callback := .returned
      handed := part.handed ++ [(part.port.tx, stream)] } streams down := by
  obtain ⟨id, own, txAt, live⟩ := accepting.send_live registered
  have lowered := accepting.sending (by rw [registered]; rfl)
  have sent := (part.port.afterSend_of_live (streamMessage stream) txAt
    live).2.2.2.2
  have sound := accepting.sound.settled (some (streamMessage stream))
  have permits := accepting.permits
  have order := accepting.order
  simp only [slot, LockedSlot.settled, registered, StreamStarted.sending,
    Bool.or_true, Port.settle, if_true] at sound
  rw [registered] at permits order
  have kept : ∀ other held, part.port.value? other = some held →
      (part.port.afterSend (streamMessage stream)).value? other = some held :=
    fun other held before => part.port.value?_afterSend_of_held _ before
  have found : (part.port.afterSend (streamMessage stream)).value? id =
      some (streamMessage stream) := by
    rw [sent id, if_pos rfl]
  refine
    { sound := by
        simp only [slot, lowered, StreamStarted.sending, Bool.or_false]
        exact sound
      permits := by
        intro open_
        have none_left := permits open_
        simp only [lowered, Bool.false_and] at none_left ⊢
        exact none_left
      passed := by intro impossible; cases impossible
      sending := by intro impossible; cases impossible
      running := fun busy => absurd rfl busy
      registered := by intro other impossible; cases impossible
      order := ?_
      handed := ?_
      once := ?_
      onlyHanded := ?_
      delivered := ?_ }
  -- the stream goes from the callback to the end of those handed over
  · rw [order]
    simp only [StreamStarted.stream, List.map_append, List.map_cons,
      List.map_nil, Option.toList_some, Option.toList_none, List.append_nil]
  · intro entry member
    rcases List.mem_append.mp member with old | new
    · obtain ⟨other, entryAt, held, inCallbacks⟩ := accepting.handed entry old
      exact ⟨other, entryAt, kept _ _ held, inCallbacks⟩
    · obtain rfl := List.mem_singleton.mp new
      exact ⟨id, txAt, found, accepting.registered stream registered⟩
  -- a channel with a stream in it is not live any more
  · rw [List.map_append, List.map_singleton]
    refine List.Nodup.append accepting.once (List.nodup_singleton _) ?_
    intro channel inHanded inNew
    obtain rfl := List.mem_singleton.mp inNew
    obtain ⟨entry, member, same⟩ := List.mem_map.mp inHanded
    obtain ⟨other, entryAt, held, _⟩ := accepting.handed entry member
    rw [entryAt, txAt] at same
    obtain rfl := Option.some.inj same
    exact absurd (live.2.symm.trans held) (by simp)
  -- a success that was not there before is the one sent here
  · intro other message after success
    rcases part.port.value?_afterSend_cases _ after with old | ⟨sentAt, rfl⟩
    · obtain ⟨earlier, same, member⟩ :=
        accepting.onlyHanded other message old success
      exact ⟨earlier, same, List.mem_append_left _ member⟩
    · refine ⟨stream, rfl, List.mem_append_right _ ?_⟩
      rw [sentAt]
      exact List.mem_singleton_self _
  -- nothing waited for the handler before, since the channel was live
  · obtain ⟨rest, same, ⟨rfl, _⟩ | ⟨other, message, _, otherOwn, held⟩⟩ :=
      accepting.delivered
    · refine ⟨[streamMessage stream], ?_,
        Or.inr ⟨id, streamMessage stream, rfl, own, found⟩⟩
      rw [List.append_nil] at same
      rw [List.map_append, same]
      rfl
    · rw [own] at otherOwn
      obtain rfl := Option.some.inj otherOwn
      exact absurd (live.2.symm.trans held) (by simp)

/-- With the flag down, and no callback between clearing it and sending, no
permit is left. -/
theorem idle_facts (accepting : part.Accepting streams down)
    (idle : part.op = .idle) :
    part.pending = false ∧ part.callback.sending = false ∧
      part.callback.passed = false ∧ (down = false → part.acceptBs = 0) := by
  have lowered := accepting.sound.lowered_of_idle idle
  obtain ⟨low, notSending⟩ : part.pending = false ∧
      part.callback.sending = false := Bool.or_eq_false_iff.mp lowered
  refine ⟨low, notSending, ?_, ?_⟩
  · cases through : part.callback.passed with
    | false => rfl
    | true =>
        have raised := accepting.passed through
        rw [low] at raised
        cases raised
  · intro open_
    rw [accepting.permits open_, low]
    rfl

private theorem delivered_of_idle (accepting : part.Accepting streams down)
    (idle : part.op = .idle) :
    part.handed.map (fun entry => streamMessage entry.2) = part.successes := by
  obtain ⟨rest, same, ⟨rfl, _⟩ | ⟨id, message, _, own, _⟩⟩ := accepting.delivered
  · rw [same, List.append_nil]
  · rw [idle] at own
    cases own

theorem armed (accepting : part.Accepting streams down)
    (idle : part.op = .idle) :
    Accepting { part with
      pending := true
      acceptBs := part.acceptBs + 1
      port := part.port.renew
      op := .ready (some part.port.channels.next) } streams down := by
  obtain ⟨low, notSending, notPassed, noPermit⟩ := accepting.idle_facts idle
  have lowered := accepting.sound.lowered_of_idle idle
  have sound := accepting.sound.called lowered none
  simp only [slot, LockedSlot.called] at sound
  refine
    { accepting with
      sound := sound
      permits := by
        intro open_
        simp only [noPermit open_, notPassed, Bool.not_false, Bool.and_self,
          if_true]
      passed := fun _ => rfl
      sending := by
        intro impossible
        rw [notSending] at impossible
        cases impossible
      handed := ?_
      onlyHanded := ?_
      delivered := ⟨[], ?_, Or.inl ⟨rfl, ?_⟩⟩ }
  · intro entry member
    obtain ⟨id, entryAt, held, inCallbacks⟩ := accepting.handed entry member
    exact ⟨id, entryAt, (part.port.value?_renew id).trans held, inCallbacks⟩
  · intro id message held
    exact accepting.onlyHanded id message
      ((part.port.value?_renew id).symm.trans held)
  · rw [List.append_nil]
    exact accepting.delivered_of_idle idle
  · intro id own message held
    obtain rfl := Option.some.inj own
    have fresh : part.port.renew.value? part.port.channels.next = none :=
      part.port.channels.live_create.2
    rw [fresh] at held
    cases held

theorem refused (accepting : part.Accepting streams down)
    (idle : part.op = .idle) :
    Accepting { part with
      port := part.port.renew.afterSend (connectionAborted, .dummy)
      op := .ready (some part.port.channels.next) } streams down := by
  have lowered := accepting.sound.lowered_of_idle idle
  have sound := accepting.sound.called lowered (some (connectionAborted, .dummy))
  refine
    { accepting with
      sound := sound
      handed := ?_
      onlyHanded := ?_
      delivered := ⟨[], ?_, Or.inl ⟨rfl, ?_⟩⟩ }
  · intro entry member
    obtain ⟨id, entryAt, held, inCallbacks⟩ := accepting.handed entry member
    refine ⟨id, entryAt, ?_, inCallbacks⟩
    apply Port.value?_afterSend_of_held
    rw [Port.value?_renew]
    exact held
  · intro id message held success
    rcases part.port.renew.value?_afterSend_cases _ held with old | ⟨_, rfl⟩
    · exact accepting.onlyHanded id message
        ((part.port.value?_renew id).symm.trans old) success
    · cases success
  · rw [List.append_nil]
    exact accepting.delivered_of_idle idle
  · intro id own message held success
    obtain rfl := Option.some.inj own
    rcases part.port.renew.value?_afterSend_cases _ held with old | ⟨_, rfl⟩
    · have fresh : part.port.renew.value? part.port.channels.next = none :=
        part.port.channels.live_create.2
      rw [fresh] at old
      cases old
    · cases success

theorem initiated (accepting : part.Accepting streams down)
    (ready : (part.op matches .ready _) = true) :
    ∃ op, part.slot.initiate = some { part.slot with op := op } ∧
      Accepting { part with op := op } streams down := by
  obtain ⟨op, initiated, sound, sameOwn⟩ := accepting.sound.initiate ready
  refine ⟨op, initiated, ?_⟩
  exact
    { accepting with
      sound := sound
      delivered := by
        obtain ⟨rest, same, none_yet | waits⟩ := accepting.delivered
        · refine ⟨rest, same, Or.inl ⟨none_yet.1, ?_⟩⟩
          intro id own
          exact none_yet.2 id (sameOwn.symm.trans own)
        · obtain ⟨id, message, only, own, held⟩ := waits
          exact ⟨rest, same, Or.inr ⟨id, message, only, sameOwn.trans own, held⟩⟩ }

theorem handled (accepting : part.Accepting streams down) {ec : ErrorCode}
    (ends : part.slot.completes ec = true) :
    ∃ message, part.slot.handler ec =
        some ({ part.slot with op := .idle }, some message) ∧
      Accepting { part with
        op := .idle, accepted := part.accepted ++ [message] } streams down := by
  obtain ⟨id, message, own, held, handled, sound⟩ := accepting.sound.handler ends
  refine ⟨message, handled, ?_⟩
  exact
    { accepting with
      sound := sound
      delivered := by
        have noOwn : ∀ other, LockedOp.idle.own = some other →
            ∀ held, part.port.value? other = some held → held.1 ≠ .success := by
          intro other impossible
          cases impossible
        refine ⟨[], ?_, Or.inl ⟨rfl, noOwn⟩⟩
        obtain ⟨rest, same, ⟨rfl, none_yet⟩ | ⟨other, waiting, rfl, otherOwn,
          otherHeld⟩⟩ := accepting.delivered
        · have failed := none_yet id own message held
          simp only [successes, List.filter_append, List.filter_cons, failed,
            decide_false, Bool.false_eq_true, if_false, List.filter_nil,
            List.append_nil] at same ⊢
          exact same
        · obtain rfl := Option.some.inj (otherOwn.symm.trans own)
          obtain rfl := Option.some.inj (otherHeld.symm.trans held)
          have member : waiting ∈ part.handed.map
              (fun entry => streamMessage entry.2) := by
            rw [same]
            exact List.mem_append_right _ (List.mem_singleton_self _)
          obtain ⟨entry, _, rfl⟩ := List.mem_map.mp member
          simp only [successes, List.filter_append, List.filter_cons,
            streamMessage, decide_true, if_true, List.filter_nil,
            List.append_nil] at same ⊢
          exact same }

theorem down_only (accepting : part.Accepting streams down)
    (returned : part.callback = .returned) : part.Accepting streams true :=
  { accepting with
    permits := by intro impossible; cases impossible
    running := fun busy => absurd returned busy }

end Accepting

end AcceptPart

end MsquicAsio
