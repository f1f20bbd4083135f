/-
The hand-off of connections to `async_accept`.

Any number of NEW_CONNECTION callbacks compete for one permit and then touch
`pending_.accept` and `accept_tx_` without the mutex.  `Listening` counts them:
the permit, the callbacks that hold it and those that cleared the flag without
having sent add up to at most one call of `async_accept`.
-/
import MsquicAsio.Listener.Machine

set_option autoImplicit false

namespace MsquicAsio

variable {O : Oneshot}

namespace ListenerWorld

def stopCompleted (actions : List ListenerAction) : Bool :=
  actions.contains (.event .stopComplete)

/-- msquic delivers STOP_COMPLETE at most once, when no NEW_CONNECTION callback
is in progress, and no NEW_CONNECTION afterwards.  It has no other events for
a listener that asks for none. -/
def delivers (actions : List ListenerAction) (world : ListenerWorld O) :
    ListenerAction → Bool
  | .event (.newConnection _) => !stopCompleted actions
  | .event .stopComplete =>
      !stopCompleted actions && world.callbacks.all NewConnection.done
  | .event .other => false
  | _ => true

/-- Each call starts only after the handler of the previous one was invoked. -/
def oneCall : Environment (ListenerWorld O) ListenerAction :=
  fun actions world action =>
    world.enabled action = true ∧ delivers actions world action = true ∧
      (action = .accept → world.accept = .idle) ∧
      (action = .stop → world.stop = .idle)

instance (actions : List ListenerAction) (world : ListenerWorld O)
    (action : ListenerAction) : Decidable (oneCall actions world action) :=
  inferInstanceAs (Decidable (_ ∧ _ ∧ (_ → _) ∧ (_ → _)))

theorem stopCompleted_self (actions : List ListenerAction) :
    stopCompleted (actions ++ [.event .stopComplete]) = true := by
  simp only [stopCompleted, List.contains_eq_mem, List.mem_append,
    List.mem_singleton, or_true, decide_true]

theorem stopCompleted_other {action : ListenerAction}
    (different : action ≠ .event .stopComplete)
    (actions : List ListenerAction) :
    stopCompleted (actions ++ [action]) = stopCompleted actions := by
  simp only [stopCompleted, List.contains_eq_mem, List.mem_append,
    List.mem_singleton, different.symm, or_false]

/-! ### Where the connections went -/

section Moved

variable {world : ListenerWorld O} {index : Nat} {before : NewConnection}

theorem moved_self (here : world.callbacks[index]? = some before)
    (connection : Hquic) (place : NewConnectionPlace) :
    (world.moved index connection place)[index]? =
      some ⟨connection, place⟩ :=
  List.getElem?_set_self (List.getElem?_eq_some_iff.mp here).1

theorem moved_other {other : Nat} (different : index ≠ other)
    (connection : Hquic) (place : NewConnectionPlace) :
    (world.moved index connection place)[other]? = world.callbacks[other]? :=
  List.getElem?_set_ne different

private theorem moved_done (here : world.callbacks[index]? = some before)
    (running : before.done = false) {other : Nat} {callback : NewConnection}
    (at_ : world.callbacks[other]? = some callback)
    (done : callback.done = true) (connection : Hquic)
    (place : NewConnectionPlace) :
    (world.moved index connection place)[other]? = some callback := by
  have different : index ≠ other := by
    rintro rfl
    obtain rfl := Option.some.inj (here.symm.trans at_)
    rw [running] at done
    cases done
  rw [moved_other different]
  exact at_

private theorem done_of_moved (here : world.callbacks[index]? = some before)
    {other : Nat} {callback : NewConnection} {connection : Hquic}
    {place : NewConnectionPlace}
    (at_ : (world.moved index connection place)[other]? = some callback) :
    world.callbacks[other]? = some callback ∨
      other = index ∧ callback = ⟨connection, place⟩ := by
  by_cases same : index = other
  · subst same
    rw [moved_self here] at at_
    exact Or.inr ⟨rfl, (Option.some.inj at_).symm⟩
  · rw [moved_other same] at at_
    exact Or.inl at_

end Moved

/-- Each callback that returned sent its connection into a channel of its own,
and nothing else was sent with success. -/
structure HandedOver (callbacks : List NewConnection)
    (port : Port O MoveAcceptMessage) : Prop where
  sent : ∀ (index : Nat) (connection : Hquic) (into : Option Nat),
    callbacks[index]? = some ⟨connection, .returned into⟩ →
      ∃ id, into = some id ∧
        port.value? id = some (.success, .assign connection)
  once : ∀ (first second : Nat) (left right : Hquic) (into : Option Nat),
    callbacks[first]? = some ⟨left, .returned into⟩ →
      callbacks[second]? = some ⟨right, .returned into⟩ → first = second
  only : ∀ id message, port.value? id = some message →
    message.1 = .success → ∃ (index : Nat) (connection : Hquic),
      callbacks[index]? = some ⟨connection, .returned (some id)⟩ ∧
        message = (.success, .assign connection)

namespace HandedOver

variable {world : ListenerWorld O} {port after : Port O MoveAcceptMessage}

private theorem initial :
    HandedOver [] (.empty : Port O MoveAcceptMessage) where
  sent := by intro index connection into impossible; cases impossible
  once := by intro first second left right into impossible; cases impossible
  only := by
    intro id message held
    exact absurd ((Channels.value?_empty id).symm.trans held) (by simp)

private theorem kept {callbacks : List NewConnection}
    (handed : HandedOver callbacks port)
    (keeps : ∀ id message, port.value? id = some message →
      after.value? id = some message)
    (noNew : ∀ id message, after.value? id = some message →
      message.1 = .success → port.value? id = some message) :
    HandedOver callbacks after :=
  { handed with
    sent := by
      intro index connection into at_
      obtain ⟨id, same, held⟩ := handed.sent index connection into at_
      exact ⟨id, same, keeps id _ held⟩
    only := by
      intro id message held success
      exact handed.only id message (noNew id message held success) success }

private theorem renewed {callbacks : List NewConnection}
    (handed : HandedOver callbacks port) :
    HandedOver callbacks port.renew :=
  handed.kept (fun id _ held => (port.value?_renew id).trans held)
    (fun id _ held _ => (port.value?_renew id).symm.trans held)

private theorem failure {callbacks : List NewConnection}
    (handed : HandedOver callbacks port) {message : MoveAcceptMessage}
    (failed : message.1 ≠ .success) :
    HandedOver callbacks (port.afterSend message) := by
  refine handed.kept (fun id held before =>
    port.value?_afterSend_of_held message before) ?_
  intro id held after success
  rcases port.value?_afterSend_cases message after with old | ⟨_, rfl⟩
  · exact old
  · exact absurd success failed

private theorem settled {callbacks : List NewConnection}
    (handed : HandedOver callbacks port) {message : MoveAcceptMessage}
    (failed : message.1 ≠ .success) (pending : Bool) :
    HandedOver callbacks (port.settle pending message) := by
  cases pending with
  | true => exact handed.failure failed
  | false => exact handed

private theorem arrived {callbacks : List NewConnection}
    (handed : HandedOver callbacks port) (connection : Hquic) :
    HandedOver (callbacks ++ [⟨connection, .entered⟩]) port := by
  have old : ∀ {index : Nat} {other : Hquic} {into : Option Nat},
      (callbacks ++ [⟨connection, .entered⟩])[index]? =
        some ⟨other, .returned into⟩ →
      callbacks[index]? = some ⟨other, .returned into⟩ := by
    intro index other into at_
    rw [List.getElem?_append] at at_
    split at at_
    · exact at_
    · rw [List.getElem?_singleton] at at_
      split at at_ <;> cases at_
  exact
    { sent := fun index other into at_ => handed.sent index other into (old at_)
      once := fun first second left right into atFirst atSecond =>
        handed.once first second left right into (old atFirst) (old atSecond)
      only := by
        intro id message held success
        obtain ⟨index, other, at_, same⟩ := handed.only id message held success
        exact ⟨index, other, List.getElem?_append_left
          (List.getElem?_eq_some_iff.mp at_).1 ▸ at_, same⟩ }

private theorem moved {index : Nat} {before : NewConnection}
    {connection : Hquic}
    {place : NewConnectionPlace} (handed : HandedOver world.callbacks port)
    (here : world.callbacks[index]? = some before)
    (running : before.done = false)
    (goesOn : (NewConnection.mk connection place).done = false) :
    HandedOver (world.moved index connection place) port := by
  have old : ∀ {other : Nat} {arrived : Hquic} {into : Option Nat},
      (world.moved index connection place)[other]? =
        some ⟨arrived, .returned into⟩ →
      world.callbacks[other]? = some ⟨arrived, .returned into⟩ := by
    intro other arrived into at_
    rcases done_of_moved here at_ with before | ⟨_, same⟩
    · exact before
    · rw [← same] at goesOn
      cases goesOn
  exact
    { sent := fun other arrived into at_ =>
        handed.sent other arrived into (old at_)
      once := fun first second left right into atFirst atSecond =>
        handed.once first second left right into (old atFirst) (old atSecond)
      only := by
        intro id message held success
        obtain ⟨other, arrived, at_, same⟩ :=
          handed.only id message held success
        exact ⟨other, arrived, moved_done here running at_ rfl _ _, same⟩ }

private theorem returned {index id : Nat} {before : NewConnection}
    {connection : Hquic} (handed : HandedOver world.callbacks port)
    (here : world.callbacks[index]? = some before)
    (running : before.done = false) (txAt : port.tx = some id)
    (live : port.channels.Live id) :
    HandedOver (world.moved index connection (.returned port.tx))
      (port.afterSend (.success, .assign connection)) := by
  have values := (port.afterSend_of_live (.success, .assign connection) txAt
    live).2.2.2.2
  have found : (port.afterSend (.success, .assign connection)).value? id =
      some (.success, .assign connection) := by
    rw [values id, if_pos rfl]
  have notYet : ∀ (other : Nat) (arrived : Hquic),
      world.callbacks[other]? ≠ some ⟨arrived, .returned port.tx⟩ := by
    intro other arrived at_
    obtain ⟨used, same, held⟩ := handed.sent other arrived port.tx at_
    obtain rfl := Option.some.inj (txAt.symm.trans same)
    exact absurd (live.2.symm.trans held) (by simp)
  refine
    { sent := ?_
      once := ?_
      only := ?_ }
  · intro other arrived into at_
    rcases done_of_moved here at_ with old | ⟨rfl, same⟩
    · obtain ⟨used, rfl, held⟩ := handed.sent other arrived into old
      exact ⟨used, rfl, port.value?_afterSend_of_held _ held⟩
    · cases same
      exact ⟨id, txAt, found⟩
  · intro first second left right into atFirst atSecond
    rcases done_of_moved here atFirst with oldFirst | ⟨rfl, same⟩
    · rcases done_of_moved here atSecond with oldSecond | ⟨rfl, same⟩
      · exact handed.once first second left right into oldFirst oldSecond
      · cases same
        exact absurd oldFirst (notYet first left)
    · cases same
      rcases done_of_moved here atSecond with oldSecond | ⟨rfl, _⟩
      · exact absurd oldSecond (notYet second right)
      · rfl
  · intro other message held success
    rcases port.value?_afterSend_cases _ held with old | ⟨sentAt, rfl⟩
    · obtain ⟨earlier, arrived, at_, same⟩ :=
        handed.only other message old success
      exact ⟨earlier, arrived, moved_done here running at_ rfl _ _, same⟩
    · rw [sentAt]
      exact ⟨index, connection, moved_self here _ _, rfl⟩

end HandedOver

/-- Each handler was given the message of its own channel, and no two handlers
share a channel. -/
structure Received (accepted : List (Option Nat × MoveAcceptMessage))
    (port : Port O MoveAcceptMessage) (op : LockedOp) : Prop where
  own : ∀ entry ∈ accepted, ∃ id, entry.1 = some id ∧
    port.value? id = some entry.2
  once : (accepted.map Prod.fst).Nodup
  notYet : ∀ id, op.own = some id → some id ∉ accepted.map Prod.fst

namespace Received

variable {accepted : List (Option Nat × MoveAcceptMessage)}
  {port after : Port O MoveAcceptMessage} {op : LockedOp}

private theorem initial :
    Received [] (.empty : Port O MoveAcceptMessage) .idle where
  own := by intro entry impossible; cases impossible
  once := List.nodup_nil
  notYet := by intro id impossible; cases impossible

private theorem kept (received : Received accepted port op)
    (keeps : ∀ id message, port.value? id = some message →
      after.value? id = some message) : Received accepted after op :=
  { received with
    own := by
      intro entry member
      obtain ⟨id, same, held⟩ := received.own entry member
      exact ⟨id, same, keeps id _ held⟩ }

private theorem called (received : Received accepted port op)
    (keeps : ∀ id message, port.value? id = some message →
      after.value? id = some message) :
    Received accepted after (.ready (some port.channels.next)) :=
  { received.kept keeps with
    notYet := by
      intro id own member
      obtain rfl := Option.some.inj own
      obtain ⟨entry, inside, same⟩ := List.mem_map.mp member
      obtain ⟨other, otherAt, held⟩ := received.own entry inside
      obtain rfl := Option.some.inj (same.symm.trans otherAt)
      exact absurd (port.channels.lt_next_of_value? held) (Nat.lt_irrefl _) }

private theorem initiated (received : Received accepted port op)
    {later : LockedOp}
    (sameOwn : later.own = op.own) : Received accepted port later :=
  { received with
    notYet := by
      intro id own
      exact received.notYet id (sameOwn.symm.trans own) }

private theorem handled (received : Received accepted port op) {id : Nat}
    {message : MoveAcceptMessage} (own : op.own = some id)
    (held : port.value? id = some message) :
    Received (accepted ++ [(op.own, message)]) port .idle where
  own := by
    intro entry member
    rcases List.mem_append.mp member with old | new
    · exact received.own entry old
    · obtain rfl := List.mem_singleton.mp new
      exact ⟨id, own, held⟩
  once := by
    rw [List.map_append, List.map_singleton]
    refine List.Nodup.append received.once (List.nodup_singleton _) ?_
    intro channel inAccepted inNew
    obtain rfl := List.mem_singleton.mp inNew
    change op.own ∈ accepted.map Prod.fst at inAccepted
    rw [own] at inAccepted
    exact received.notYet id own inAccepted
  notYet := by intro other impossible; cases impossible

end Received

theorem count_of_allDone {world : ListenerWorld O}
    (allDone : ∀ callback ∈ world.callbacks, callback.done = true)
    {counts : NewConnection → Bool}
    (onTheWay : ∀ connection into,
      counts ⟨connection, .returned into⟩ = false) :
    world.callbacks.countP counts = 0 := by
  rw [List.countP_eq_zero]
  intro callback member counted
  have done := allDone callback member
  obtain ⟨connection, place⟩ := callback
  cases place with
  | returned into =>
      rw [onTheWay] at counted
      cases counted
  | entered | acquiring | acquired | asserted | cleared | registered
  | configured => cases done

theorem count_arrived (world : ListenerWorld O) (connection : Hquic)
    (counts : NewConnection → Bool)
    (uncounted : counts ⟨connection, .entered⟩ = false) :
    (world.callbacks ++ [NewConnection.mk connection .entered]).countP counts =
      world.callbacks.countP counts := by
  rw [List.countP_append, List.countP_singleton, uncounted]
  rfl

/-! ### The invariant -/

/-- What holds at every statement, before and after STOP_COMPLETE. -/
structure Listening (world : ListenerWorld O) (stopped : Bool) : Prop where
  state : world.ctx.state = .stopped ↔ stopped = true
  accept : world.acceptSlot.Sound
  stop : world.stopSlot.Sound
  permits : stopped = false →
    world.ctx.acceptBs + world.passed = world.ctx.pending.accept.toNat
  oneAnswer : world.ctx.pending.accept.toNat + world.sending ≤ 1
  down : stopped = true → world.ctx.pending.accept = false ∧
    world.ctx.pending.stop = false ∧
    ∀ callback ∈ world.callbacks, callback.done = true
  handed : HandedOver world.callbacks world.ctx.accept
  received : Received world.accepted world.ctx.accept world.accept
  noFailure : world.ctx.failed = []
  noThrow : world.threw = false

namespace Listening

variable {world : ListenerWorld O} {stopped : Bool} {index : Nat}
  {before : NewConnection} {connection : Hquic}

private theorem initial : Listening (.initial : ListenerWorld O) false where
  state := by simp [ListenerWorld.initial, AsioServerListenerCtx.initial]
  accept := .initial
  stop := .initial
  permits := fun _ => rfl
  oneAnswer := Nat.zero_le 1
  down := by intro impossible; cases impossible
  handed := .initial
  received := .initial
  noFailure := rfl
  noThrow := rfl

theorem guarded (listening : world.Listening stopped) : world.ctx.Guarded where
  accept := by
    intro raised
    apply listening.accept.settles.live
    simp only [acceptSlot, raised, Bool.true_or]
  stop := fun raised => listening.stop.settles.live raised

/-- Before STOP_COMPLETE the listener is open; afterwards no callback runs. -/
theorem open_of_running (listening : world.Listening stopped)
    (here : world.callbacks[index]? = some before)
    (running : before.done = false) : stopped = false := by
  cases stopped with
  | false => rfl
  | true =>
      have done := (listening.down rfl).2.2 before (List.mem_of_getElem? here)
      rw [running] at done
      cases done

/-- With no call in progress the flag is down, the permit is gone and no
callback is about to send. -/
private theorem idle_facts (listening : world.Listening stopped)
    (idle : world.accept = .idle) :
    world.ctx.pending.accept = false ∧ world.sending = 0 ∧
      (stopped = false → world.ctx.acceptBs = 0 ∧ world.passed = 0) := by
  have lowered := listening.accept.lowered_of_idle idle
  obtain ⟨low, notSending⟩ : world.ctx.pending.accept = false ∧
      decide (0 < world.sending) = false := Bool.or_eq_false_iff.mp lowered
  have none_sending := of_decide_eq_false notSending
  refine ⟨low, by omega, ?_⟩
  intro isOpen
  have permits := listening.permits isOpen
  rw [low, Bool.toNat_false] at permits
  omega

private theorem goesOn (listening : world.Listening stopped)
    (here : world.callbacks[index]? = some before) (place : NewConnectionPlace)
    (running : before.done = false)
    (stillRuns : (NewConnection.mk connection place).done = false)
    (flag : Bool) (acceptBs : Nat) {registered configured : List Hquic}
    (permits : acceptBs +
      (world.moved index connection place).countP NewConnection.passed =
        flag.toNat)
    (oneAnswer : flag.toNat +
      (world.moved index connection place).countP NewConnection.sending ≤ 1)
    (armed : (flag || decide (0 <
        (world.moved index connection place).countP NewConnection.sending)) =
      (world.ctx.pending.accept || decide (0 < world.sending))) :
    Listening { world with
      ctx := { world.ctx with
        pending := { world.ctx.pending with accept := flag }
        acceptBs := acceptBs }
      callbacks := world.moved index connection place
      registered := registered
      configured := configured } stopped := by
  have isOpen := listening.open_of_running here running
  exact
    { state := listening.state
      accept := by
        change LockedSlot.Sound ⟨flag || decide (0 <
          (world.moved index connection place).countP NewConnection.sending),
          world.ctx.accept, world.accept⟩
        rw [armed]
        exact listening.accept
      stop := listening.stop
      permits := fun _ => permits
      oneAnswer := oneAnswer
      down := by
        intro impossible
        rw [isOpen] at impossible
        cases impossible
      handed := listening.handed.moved here running stillRuns
      received := listening.received
      noFailure := listening.noFailure
      noThrow := listening.noThrow }

private theorem advances (listening : world.Listening stopped)
    (here : world.callbacks[index]? = some before) (place : NewConnectionPlace)
    (running : before.done = false)
    (stillRuns : (NewConnection.mk connection place).done = false)
    (sameSending :
      (NewConnection.mk connection place).sending = before.sending)
    (acceptBs : Nat) {registered configured : List Hquic}
    (permits :
      acceptBs + (NewConnection.mk connection place).passed.toNat =
        world.ctx.acceptBs + before.passed.toNat) :
    Listening { world with
      ctx := { world.ctx with acceptBs := acceptBs }
      callbacks := world.moved index connection place
      registered := registered
      configured := configured } stopped := by
  have passedMoves := count_moved here NewConnection.passed connection place
  have sendingSame := count_moved here NewConnection.sending connection place
  rw [sameSending] at sendingSame
  have sendingKept := Nat.add_right_cancel sendingSame
  have counted := listening.permits (listening.open_of_running here running)
  have one := listening.oneAnswer
  change _ = world.sending at sendingKept
  change _ = world.passed + _ at passedMoves
  exact listening.goesOn here place running stillRuns world.ctx.pending.accept
    acceptBs (by omega) (by omega) (by rw [sendingKept])

private theorem raised_of_passed (listening : world.Listening stopped)
    (here : world.callbacks[index]? = some before)
    (running : before.done = false) (through : before.passed = true) :
    world.ctx.pending.accept = true ∧ world.ctx.acceptBs = 0 ∧
      world.passed = 1 ∧ world.sending = 0 := by
  have permits := listening.permits (listening.open_of_running here running)
  have one := listening.oneAnswer
  have counted : 0 < world.passed :=
    List.countP_pos_iff.mpr ⟨before, List.mem_of_getElem? here, through⟩
  cases raised : world.ctx.pending.accept with
  | false =>
      rw [raised, Bool.toNat_false] at permits
      omega
  | true =>
      rw [raised, Bool.toNat_true] at permits one
      exact ⟨rfl, by omega, by omega, by omega⟩

/-- A callback about to send is the only one, and the flag is down. -/
private theorem alone_of_sending (listening : world.Listening stopped)
    (here : world.callbacks[index]? = some before)
    (sends : before.sending = true) :
    world.ctx.pending.accept = false ∧ world.sending = 1 := by
  have one := listening.oneAnswer
  have counted : 0 < world.sending :=
    List.countP_pos_iff.mpr ⟨before, List.mem_of_getElem? here, sends⟩
  cases raised : world.ctx.pending.accept with
  | false =>
      rw [raised, Bool.toNat_false] at one
      exact ⟨rfl, by omega⟩
  | true =>
      rw [raised, Bool.toNat_true] at one
      omega

theorem send_live (listening : world.Listening stopped)
    (here : world.callbacks[index]? = some before)
    (sends : before.sending = true) :
    ∃ id, world.accept.own = some id ∧ world.ctx.accept.tx = some id ∧
      world.ctx.accept.channels.Live id := by
  have counted := (listening.alone_of_sending here sends).2
  apply listening.accept.settles.armed
  simp only [acceptSlot, counted, Nat.lt_add_one, decide_true, Bool.or_true]

private theorem sent (listening : world.Listening stopped)
    (here : world.callbacks[index]? = some ⟨connection, .configured⟩) :
    Listening { world with
      ctx := { world.ctx with
        accept :=
          world.ctx.accept.afterSend (.success, .assign connection) }
      callbacks :=
        world.moved index connection (.returned world.ctx.accept.tx) }
      stopped := by
  obtain ⟨id, _, txAt, live⟩ := listening.send_live here rfl
  obtain ⟨low, alone⟩ := listening.alone_of_sending here rfl
  have isOpen := listening.open_of_running here rfl
  have passedSame := count_moved here NewConnection.passed connection
    (.returned world.ctx.accept.tx)
  have sendingLess := count_moved here NewConnection.sending connection
    (.returned world.ctx.accept.tx)
  change _ = world.passed + 0 at passedSame
  change _ + 1 = world.sending + 0 at sendingLess
  have nobody : (world.moved index connection
      (.returned world.ctx.accept.tx)).countP NewConnection.sending = 0 := by
    omega
  refine
    { state := listening.state
      accept := ?_
      stop := listening.stop
      permits := ?_
      oneAnswer := ?_
      down := by
        intro impossible
        rw [isOpen] at impossible
        cases impossible
      handed := listening.handed.returned here rfl txAt live
      received := listening.received.kept
        (fun id _ held => world.ctx.accept.value?_afterSend_of_held _ held)
      noFailure := listening.noFailure
      noThrow := listening.noThrow }
  · have sound := listening.accept.settled
      (some (.success, .assign connection))
    simp only [acceptSlot, alone, LockedSlot.settled, Nat.lt_add_one,
      decide_true, Bool.or_true, Port.settle, if_true] at sound
    change LockedSlot.Sound ⟨world.ctx.pending.accept || decide (0 <
      (world.moved index connection (.returned world.ctx.accept.tx)).countP
        NewConnection.sending), _, world.accept⟩
    rw [low, nobody]
    exact sound
  · intro _
    change world.ctx.acceptBs + (world.moved index connection
      (.returned world.ctx.accept.tx)).countP NewConnection.passed = _
    exact (congrArg _ passedSame).trans (listening.permits isOpen)
  · change world.ctx.pending.accept.toNat + (world.moved index connection
      (.returned world.ctx.accept.tx)).countP NewConnection.sending ≤ 1
    rw [nobody, low]
    exact Nat.zero_le 1

private theorem newConnection (listening : world.Listening stopped)
    {statement : NewConnectionStep}
    (running : world.Running index connection statement) :
    (world.newConnection index statement).Listening stopped := by
  cases running with
  | unlock here =>
      simp only [ListenerWorld.newConnection, here]
      exact listening.advances here .acquiring rfl rfl rfl world.ctx.acceptBs rfl
  | acquire here permit =>
      simp only [ListenerWorld.newConnection, here]
      exact listening.advances here .acquired rfl rfl rfl (world.ctx.acceptBs - 1)
        (Nat.sub_add_cancel permit)
  | assertAccept here =>
      have raised := (listening.raised_of_passed here rfl rfl).1
      simp only [ListenerWorld.newConnection, here, raised, violated, if_true,
        List.append_nil]
      exact listening.advances here .asserted rfl rfl rfl world.ctx.acceptBs rfl
  | clearAccept here =>
      obtain ⟨raised, noPermit, onlyOne, nobody⟩ :=
        listening.raised_of_passed here rfl rfl
      have passed := count_moved here NewConnection.passed connection .cleared
      have sending := count_moved here NewConnection.sending connection
        .cleared
      change _ + 1 = world.passed + 0 at passed
      change _ + 0 = world.sending + 1 at sending
      simp only [ListenerWorld.newConnection, here]
      refine listening.goesOn here .cleared rfl rfl false world.ctx.acceptBs ?_ ?_ ?_
      · rw [Bool.toNat_false]
        omega
      · rw [Bool.toNat_false]
        omega
      · rw [raised, Bool.false_or, Bool.true_or, decide_eq_true_eq]
        omega
  | setCallback here =>
      simp only [ListenerWorld.newConnection, here, ConnectionHandle.assign,
        ConnectionHandle.isOpen, Option.isSome_some, violated, if_true,
        List.append_nil]
      exact listening.advances here .registered rfl rfl rfl world.ctx.acceptBs rfl
  | setConfig here =>
      simp only [ListenerWorld.newConnection, here, ConnectionHandle.assign,
        ConnectionHandle.isOpen, Option.isSome_some, violated, if_true,
        List.append_nil]
      exact listening.advances here .configured rfl rfl rfl world.ctx.acceptBs rfl
  | send here =>
      obtain ⟨id, _, txAt, live⟩ := listening.send_live here rfl
      simp only [ListenerWorld.newConnection, here,
        world.ctx.accept.send_of_live _ ⟨id, txAt, live⟩]
      exact listening.sent here

private theorem arrived (listening : world.Listening false)
    (connection : Hquic) :
    Listening { world with
      callbacks := world.callbacks ++ [⟨connection, .entered⟩] } false := by
  exact
    { state := listening.state
      accept := by
        change LockedSlot.Sound ⟨world.ctx.pending.accept || decide (0 <
          (world.callbacks ++ [NewConnection.mk connection .entered]).countP
            NewConnection.sending), world.ctx.accept, world.accept⟩
        rw [world.count_arrived connection NewConnection.sending rfl]
        exact listening.accept
      stop := listening.stop
      permits := fun isOpen => (congrArg _ (world.count_arrived connection
        NewConnection.passed rfl)).trans (listening.permits isOpen)
      oneAnswer := (congrArg _ (world.count_arrived connection
        NewConnection.sending rfl)).trans_le listening.oneAnswer
      down := by intro impossible; cases impossible
      handed := listening.handed.arrived connection
      received := listening.received
      noFailure := listening.noFailure
      noThrow := listening.noThrow }

private theorem stopCompletes (listening : world.Listening stopped)
    (allDone : ∀ callback ∈ world.callbacks, callback.done = true) :
    Listening { world with ctx := world.ctx.afterStopComplete } true := by
  have nobody : world.sending = 0 :=
    count_of_allDone allDone (fun _ _ => rfl)
  refine
    { state := iff_of_true rfl rfl
      accept := ?_
      stop := listening.stop.settled (some .success)
      permits := by intro impossible; cases impossible
      oneAnswer := (congrArg _ nobody).trans_le (Nat.zero_le 1)
      down := fun _ => ⟨rfl, rfl, allDone⟩
      handed := listening.handed.settled (by decide) _
      received := listening.received.kept
        (fun id _ held => Port.value?_settle_of_held _ _ _ held)
      noFailure := listening.noFailure
      noThrow := listening.noThrow }
  have sound := listening.accept.settled (some listenerShutDown)
  simp only [acceptSlot, nobody, LockedSlot.settled, Nat.lt_irrefl,
    decide_false, Bool.or_false] at sound
  change LockedSlot.Sound ⟨false || decide (0 < world.sending), _, _⟩
  rw [nobody]
  exact sound

private theorem called (listening : world.Listening stopped)
    (idle : world.accept = .idle) :
    (world.step .accept).Listening stopped := by
  obtain ⟨low, nobody, noPermit⟩ := listening.idle_facts idle
  have lowered := listening.accept.lowered_of_idle idle
  rw [step_accept]
  cases stopped with
  | true =>
      have isStopped := listening.state.mpr rfl
      have sound := listening.accept.called lowered (some listenerAborted)
      simp only [AsioServerListenerCtx.afterAccept, isStopped, if_true, low,
        Bool.not_false, violated, List.append_nil, ne_eq, not_true_eq_false,
        decide_false, Bool.or_false, Port.rx_afterSend, Port.rx_renew]
      simp only [LockedSlot.called, acceptSlot, low, nobody] at sound
      refine
        { listening with
          state := iff_of_true rfl rfl
          accept := ?_
          permits := by intro impossible; cases impossible
          oneAnswer := (congrArg _ nobody).trans_le (Nat.zero_le 1)
          down := fun _ => ⟨rfl, (listening.down rfl).2⟩
          handed := listening.handed.renewed.failure (by decide)
          received := listening.received.called ?_ }
      · change LockedSlot.Sound ⟨false || decide (0 < world.sending), _, _⟩
        rw [nobody]
        exact sound
      · intro id message held
        apply Port.value?_afterSend_of_held
        rw [Port.value?_renew]
        exact held
  | false =>
      have isOpen : world.ctx.state ≠ .stopped := fun isStopped =>
        absurd (listening.state.mp isStopped) Bool.false_ne_true
      obtain ⟨noneLeft, nonePassed⟩ := noPermit rfl
      have sound := listening.accept.called lowered none
      simp only [AsioServerListenerCtx.afterAccept, isOpen, if_false, low,
        Bool.not_false, violated, if_true, List.append_nil, ne_eq,
        not_false_eq_true, decide_true, Bool.or_true, Port.rx_renew]
      simp only [LockedSlot.called, acceptSlot] at sound
      refine
        { listening with
          accept := ?_
          permits := ?_
          oneAnswer := (congrArg _ nobody).trans_le (Nat.le_refl 1)
          down := by intro impossible; cases impossible
          handed := listening.handed.renewed
          received := listening.received.called ?_ }
      · change LockedSlot.Sound ⟨true || decide (0 < world.sending), _, _⟩
        exact sound
      · intro _
        change world.ctx.acceptBs + 1 + world.passed = 1
        omega
      · intro id message held
        rw [Port.value?_renew]
        exact held

private theorem stopCalled (listening : world.Listening stopped)
    (idle : world.stop = .idle) :
    (world.step .stop).Listening stopped := by
  have low : world.ctx.pending.stop = false :=
    listening.stop.lowered_of_idle idle
  rw [step_stop]
  cases stopped with
  | true =>
      have isStopped := listening.state.mpr rfl
      have sound := listening.stop.called low (some .success)
      simp only [AsioServerListenerCtx.afterStop, isStopped, if_true, low,
        Bool.not_false, violated, List.append_nil, ne_eq, not_true_eq_false,
        decide_false, Bool.or_false, Port.rx_afterSend, Port.rx_renew]
      simp only [LockedSlot.called, stopSlot, low] at sound
      exact
        { listening with
          state := iff_of_true rfl rfl
          stop := sound
          down := fun _ =>
            ⟨(listening.down rfl).1, rfl, (listening.down rfl).2.2⟩ }
  | false =>
      have isOpen : world.ctx.state ≠ .stopped := fun isStopped =>
        absurd (listening.state.mp isStopped) Bool.false_ne_true
      have sound := listening.stop.called low none
      simp only [AsioServerListenerCtx.afterStop, isOpen, if_false, low,
        Bool.not_false, violated, if_true, List.append_nil, ne_eq,
        not_false_eq_true, decide_true, Bool.or_true, Port.rx_renew]
      simp only [LockedSlot.called, stopSlot] at sound
      exact
        { listening with
          stop := sound
          down := by intro impossible; cases impossible }

end Listening

theorem listening_step {world : ListenerWorld O}
    {actions : List ListenerAction}
    (listening : world.Listening (stopCompleted actions))
    {action : ListenerAction} (allowed : oneCall actions world action) :
    (world.step action).Listening (stopCompleted (actions ++ [action])) := by
  obtain ⟨enabled, delivered, oneAccept, oneStop⟩ := allowed
  simp only [ListenerWorld.enabled, Bool.and_eq_true] at enabled
  cases action with
  | event event =>
      rw [world.step_event event listening.guarded]
      cases event with
      | newConnection connection =>
          have still : stopCompleted actions = false :=
            (Bool.not_eq_true' _).mp delivered
          rw [stopCompleted_other (by simp), still]
          rw [still] at listening
          exact listening.arrived connection
      | stopComplete =>
          have allDone := (Bool.and_eq_true_iff.mp delivered).2
          rw [stopCompleted_self]
          exact listening.stopCompletes (List.all_eq_true.mp allDone)
      | other => cases delivered
  | newConnection index statement =>
      obtain ⟨connection, running⟩ := world.running_of_enabled enabled.2
      rw [stopCompleted_other (by simp)]
      exact listening.newConnection running
  | accept =>
      rw [stopCompleted_other (by simp)]
      exact listening.called (oneAccept rfl)
  | acceptInitiate =>
      obtain ⟨op, initiated, sound, sameOwn⟩ :=
        listening.accept.initiate enabled.2
      rw [stopCompleted_other (by simp)]
      simp only [step, initiated]
      exact
        { listening with
          accept := sound
          received := listening.received.initiated sameOwn }
  | acceptHandler ec =>
      obtain ⟨id, message, own, held, handled, sound⟩ :=
        listening.accept.handler enabled.2
      rw [stopCompleted_other (by simp)]
      simp only [step, handled, Option.getD_some]
      exact
        { listening with
          accept := sound
          received := listening.received.handled own held }
  | stop =>
      rw [stopCompleted_other (by simp)]
      exact listening.stopCalled (oneStop rfl)
  | listenerStop | listenerStopReturns =>
      rw [stopCompleted_other (by simp)]
      exact { listening with }
  | stopInitiate =>
      have ready := (Bool.and_eq_true_iff.mp enabled.2).1
      obtain ⟨op, initiated, sound, _⟩ := listening.stop.initiate ready
      rw [stopCompleted_other (by simp)]
      simp only [step, initiated]
      exact { listening with stop := sound }
  | stopHandler ec =>
      obtain ⟨_, message, _, _, handled, sound⟩ :=
        listening.stop.handler enabled.2
      rw [stopCompleted_other (by simp)]
      simp only [step, handled]
      exact { listening with stop := sound }

theorem listening_of_run {world : ListenerWorld O}
    {actions : List ListenerAction}
    (run : (listenerMachine O).Run oneCall actions world) :
    world.Listening (stopCompleted actions) := by
  apply run.invariant (fun actions world =>
    world.Listening (stopCompleted actions)) .initial
  intro actions world action _ listening allowed
  exact listening_step listening allowed

/-! ### The hand-off -/

/-- The contract of the hand-off.  A call of `async_accept` or `async_stop`
that has run its locked part is a channel below `next`. -/
structure HandsOff (actions : List ListenerAction) (world : ListenerWorld O) :
    Prop where
  /-- A callback that returned gave its connection to one `async_accept`. -/
  returned : ∀ (index : Nat) (connection : Hquic) (into : Option Nat),
    world.callbacks[index]? = some ⟨connection, .returned into⟩ →
      ∃ id, into = some id ∧ id < world.ctx.accept.channels.next ∧
        world.ctx.accept.channels.outcomes id =
          [(.success, .assign connection)]
  /-- No `async_accept` got two connections. -/
  once : ∀ (first second : Nat) (left right : Hquic) (into : Option Nat),
    world.callbacks[first]? = some ⟨left, .returned into⟩ →
      world.callbacks[second]? = some ⟨right, .returned into⟩ → first = second
  /-- No `async_accept` got a connection from elsewhere. -/
  only : ∀ id message, message ∈ world.ctx.accept.channels.outcomes id →
    message.1 = .success → ∃ (index : Nat) (connection : Hquic),
      world.callbacks[index]? = some ⟨connection, .returned (some id)⟩ ∧
        message = (.success, .assign connection)
  /-- The handler of an `async_accept` was given what its own channel got. -/
  received : ∀ own message, (own, message) ∈ world.accepted →
    ∃ id, own = some id ∧ world.ctx.accept.channels.outcomes id = [message]
  receivedOnce : (world.accepted.map Prod.fst).Nodup
  noFailure : world.ctx.failed = []
  noThrow : world.threw = false
  answered : .event .stopComplete ∈ actions →
    (∀ id, id < world.ctx.accept.channels.next →
      ∃ message, world.ctx.accept.channels.outcomes id = [message]) ∧
    (∀ id, id < world.ctx.stop.channels.next →
      ∃ ec, world.ctx.stop.channels.outcomes id = [ec])

variable {world : ListenerWorld O} {actions : List ListenerAction}

private theorem answered_of_listening (listening : world.Listening true) :
    world.ctx.accept.channels.AnsweredBut none ∧
      world.ctx.stop.channels.AnsweredBut none := by
  obtain ⟨low, stopLow, allDone⟩ := listening.down rfl
  have nobody : world.sending = 0 :=
    count_of_allDone allDone (fun _ _ => rfl)
  refine ⟨listening.accept.all_answered ?_, listening.stop.all_answered stopLow⟩
  simp only [acceptSlot, low, nobody, Nat.lt_irrefl, decide_false,
    Bool.or_false]

/-- Every reachable state of the listener meets the contract of the hand-off. -/
theorem handsOff_of_run
    (run : (listenerMachine O).Run oneCall actions world) :
    HandsOff actions world := by
  have listening := listening_of_run run
  have outcome : ∀ id message, world.ctx.accept.value? id = some message →
      world.ctx.accept.channels.outcomes id = [message] := by
    intro id message held
    have same : world.ctx.accept.channels.value? id = some message := held
    rw [Channels.outcomes_eq, same, Option.toList_some]
  refine
    { returned := ?_
      once := listening.handed.once
      only := ?_
      received := ?_
      receivedOnce := listening.received.once
      noFailure := listening.noFailure
      noThrow := listening.noThrow
      answered := ?_ }
  · intro index connection into here
    obtain ⟨id, same, held⟩ := listening.handed.sent index connection into here
    exact ⟨id, same, world.ctx.accept.channels.lt_next_of_value? held,
      outcome id _ held⟩
  · intro id message member success
    rw [Channels.outcomes_eq, Option.mem_toList] at member
    exact listening.handed.only id message member success
  · intro own message member
    obtain ⟨id, same, held⟩ := listening.received.own _ member
    exact ⟨id, same, outcome id message held⟩
  · intro completed
    have isStopped : stopCompleted actions = true :=
      List.contains_iff_mem.mpr completed
    rw [isStopped] at listening
    obtain ⟨accepts, stops⟩ := answered_of_listening listening
    exact ⟨fun id inside => accepts.outcome inside (by simp),
      fun id inside => stops.outcome inside (by simp)⟩

/-- Two connections arrive at once and two accepts take them; then the
listener is stopped while a third accept waits. -/
def acceptTwoThenStop : List ListenerAction :=
  [.event (.newConnection 7), .accept, .event (.newConnection 8),
    .acceptInitiate, .newConnection 1 .unlock, .newConnection 0 .unlock,
    .newConnection 1 .acquire, .newConnection 1 .assertAccept,
    .newConnection 1 .clearAccept, .newConnection 1 .setCallback,
    .newConnection 1 .setConfig, .newConnection 1 .send,
    .acceptHandler .success, .accept, .acceptInitiate,
    .newConnection 0 .acquire, .newConnection 0 .assertAccept,
    .newConnection 0 .clearAccept, .newConnection 0 .setCallback,
    .newConnection 0 .setConfig, .newConnection 0 .send,
    .acceptHandler .success, .accept, .stop, .listenerStop,
    .event .stopComplete, .listenerStopReturns, .stopInitiate,
    .stopHandler .success, .acceptInitiate, .acceptHandler .success, .accept]

theorem handsOff_acceptTwoThenStop :
    HandsOff acceptTwoThenStop
      ((listenerMachine .reference).exec acceptTwoThenStop) :=
  handsOff_of_run (Machine.run_of_checks acceptTwoThenStop (by decide))

end ListenerWorld

end MsquicAsio
