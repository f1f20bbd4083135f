/-
Single-use channels.

`Oneshot` is the interface of a package of single-use channels: what one
channel holds, how a message is sent into it and what a wait on it delivers.
Nothing about its implementation is known beyond the three laws: a new channel
is empty, an empty channel takes one message, and a channel that holds a
message refuses every further one (its sender throws).

`Channels` numbers the channels a program has created for one purpose, and
records every accepted message.  Its fields carry the consistency between the
cells and that record, so no message can be lost or accepted twice once a
value of this type exists.  `Port` is a pair of sender and receiver variables,
and `Port.Settles` is the protocol by which a pending flag guards the sender.
-/
import Mathlib.Data.List.Nodup
import Mathlib.Logic.Function.Basic

set_option autoImplicit false

structure Oneshot where
  Cell : Type → Type
  create : {Message : Type} → Cell Message
  send : {Message : Type} → Cell Message → Message → Option (Cell Message)
  value? : {Message : Type} → Cell Message → Option Message
  value?_create : ∀ {Message : Type},
    value? (create : Cell Message) = none
  send_unused : ∀ {Message : Type} (cell : Cell Message) (message : Message),
    value? cell = none →
      ∃ used, send cell message = some used ∧ value? used = some message
  send_used : ∀ {Message : Type} (cell : Cell Message)
    (held message : Message),
    value? cell = some held → send cell message = none

namespace Oneshot

/-- The smallest package with these laws: a cell is the message it holds. -/
def reference : Oneshot where
  Cell := Option
  create := none
  send cell message :=
    match cell with
    | none => some (some message)
    | some _ => none
  value? cell := cell
  value?_create := rfl
  send_unused := by
    intro Message cell message unused
    subst unused
    exact ⟨some message, rfl, rfl⟩
  send_used := by
    intro Message cell held message used
    subst used
    rfl

end Oneshot

variable {O : Oneshot} {Message : Type}

/-- The channels created so far, by number, with the record of every message
that was accepted and the channel it went into. -/
structure Channels (O : Oneshot) (Message : Type) where
  next : Nat
  cell : Nat → O.Cell Message
  sent : List (Nat × Message)
  unallocated : ∀ id, next ≤ id → O.value? (cell id) = none
  recorded : ∀ id message,
    O.value? (cell id) = some message ↔ (id, message) ∈ sent
  sentOnce : (sent.map Prod.fst).Nodup

namespace Channels

def empty : Channels O Message where
  next := 0
  cell := fun _ => O.create
  sent := []
  unallocated := fun _ _ => O.value?_create
  recorded := by
    intro id message
    simp only [O.value?_create, reduceCtorEq, List.not_mem_nil]
  sentOnce := List.nodup_nil

def value? (channels : Channels O Message) (id : Nat) : Option Message :=
  O.value? (channels.cell id)

def create (channels : Channels O Message) : Channels O Message where
  next := channels.next + 1
  cell := Function.update channels.cell channels.next O.create
  sent := channels.sent
  unallocated := by
    intro id outside
    rw [Function.update_of_ne (by omega)]
    exact channels.unallocated id (by omega)
  recorded := by
    intro id message
    by_cases same : id = channels.next
    · subst same
      rw [Function.update_self, O.value?_create, ← channels.recorded,
        channels.unallocated _ (Nat.le_refl _)]
    · rw [Function.update_of_ne same]
      exact channels.recorded id message
  sentOnce := channels.sentOnce

def Live (channels : Channels O Message) (id : Nat) : Prop :=
  id < channels.next ∧ channels.value? id = none

instance (channels : Channels O Message) (id : Nat) :
    Decidable (channels.Live id) :=
  decidable_of_iff
    (id < channels.next ∧ (channels.value? id).isNone = true)
    (by simp only [Live, Option.isNone_iff_eq_none])

private theorem recorded_send (channels : Channels O Message) (id : Nat)
    (message : Message) (used : O.Cell Message)
    (unused : O.value? (channels.cell id) = none)
    (holds : O.value? used = some message) (other : Nat) (held : Message) :
    O.value? (Function.update channels.cell id used other) = some held ↔
      (other, held) ∈ channels.sent ++ [(id, message)] := by
  rw [List.mem_append, List.mem_singleton, Prod.mk.injEq]
  by_cases same : other = id
  · subst same
    rw [Function.update_self, holds, ← channels.recorded, unused]
    simp only [Option.some.injEq, reduceCtorEq, false_or, true_and]
    exact eq_comm
  · rw [Function.update_of_ne same, channels.recorded]
    simp only [same, false_and, or_false]

private theorem sentOnce_send (channels : Channels O Message) (id : Nat)
    (message : Message) (unused : O.value? (channels.cell id) = none) :
    ((channels.sent ++ [(id, message)]).map Prod.fst).Nodup := by
  rw [List.map_append, List.map_singleton]
  refine List.Nodup.append channels.sentOnce (List.nodup_singleton id) ?_
  intro other inSent inNew
  obtain rfl := List.mem_singleton.mp inNew
  obtain ⟨⟨sameId, held⟩, member, rfl⟩ := List.mem_map.mp inSent
  rw [← channels.recorded, unused] at member
  cases member

def deliver (channels : Channels O Message) (id : Nat) (message : Message)
    (used : O.Cell Message) (live : channels.Live id)
    (holds : O.value? used = some message) : Channels O Message where
  next := channels.next
  cell := Function.update channels.cell id used
  sent := channels.sent ++ [(id, message)]
  unallocated := by
    intro other outside
    rw [Function.update_of_ne (Nat.ne_of_gt (Nat.lt_of_lt_of_le live.1 outside))]
    exact channels.unallocated other outside
  recorded := recorded_send channels id message used live.2 holds
  sentOnce := sentOnce_send channels id message live.2

/-- A package that takes a message was asked on a live channel. -/
private theorem live_of_taken (channels : Channels O Message) {id : Nat}
    {message : Message} {used : O.Cell Message} (inside : id < channels.next)
    (taken : O.send (channels.cell id) message = some used) :
    channels.Live id := by
  refine ⟨inside, ?_⟩
  cases held : channels.value? id with
  | none => rfl
  | some old =>
      rw [O.send_used (channels.cell id) old message held] at taken
      cases taken

private theorem holds_of_taken (channels : Channels O Message) {id : Nat}
    {message : Message} {used : O.Cell Message} (inside : id < channels.next)
    (taken : O.send (channels.cell id) message = some used) :
    O.value? used = some message := by
  obtain ⟨cell, accepted, holds⟩ := O.send_unused (channels.cell id) message
    (channels.live_of_taken inside taken).2
  rw [taken] at accepted
  obtain rfl := Option.some.inj accepted
  exact holds

/-- The sender's `send`: an exception (`none`) unless the channel exists and
the package takes the message. -/
def send (channels : Channels O Message) (id : Nat) (message : Message) :
    Option (Channels O Message) :=
  if inside : id < channels.next then
    match taken : O.send (channels.cell id) message with
    | none => none
    | some used =>
        some (channels.deliver id message used
          (channels.live_of_taken inside taken)
          (channels.holds_of_taken inside taken))
  else none

end Channels

namespace Channels

theorem value?_unallocated (channels : Channels O Message) (id : Nat)
    (outside : channels.next ≤ id) : channels.value? id = none :=
  channels.unallocated id outside

theorem lt_next_of_value? (channels : Channels O Message) {id : Nat}
    {message : Message} (held : channels.value? id = some message) :
    id < channels.next := by
  by_contra outside
  rw [channels.value?_unallocated id (Nat.le_of_not_lt outside)] at held
  cases held

@[simp] theorem value?_empty (id : Nat) :
    (empty : Channels O Message).value? id = none :=
  O.value?_create

@[simp] theorem next_create (channels : Channels O Message) :
    channels.create.next = channels.next + 1 :=
  rfl

@[simp] theorem value?_create (channels : Channels O Message) (id : Nat) :
    channels.create.value? id = channels.value? id := by
  by_cases same : id = channels.next
  · subst same
    rw [channels.value?_unallocated _ (Nat.le_refl _)]
    simp only [value?, create, Function.update_self, O.value?_create]
  · simp only [value?, create, Function.update_of_ne same]

theorem live_create (channels : Channels O Message) :
    channels.create.Live channels.next :=
  ⟨Nat.lt_succ_self _, by
    rw [value?_create, channels.value?_unallocated _ (Nat.le_refl _)]⟩

theorem send_of_live (channels : Channels O Message) (id : Nat)
    (message : Message) (live : channels.Live id) :
    ∃ after, channels.send id message = some after ∧
      after.next = channels.next ∧
      after.sent = channels.sent ++ [(id, message)] ∧
      ∀ other, after.value? other =
        if other = id then some message else channels.value? other := by
  unfold send
  rw [dif_pos live.1]
  split
  · rename_i refused
    obtain ⟨used, accepted, _⟩ :=
      O.send_unused (channels.cell id) message live.2
    rw [refused] at accepted
    cases accepted
  · rename_i used accepted
    refine ⟨_, rfl, rfl, rfl, ?_⟩
    intro other
    by_cases same : other = id
    · subst same
      obtain ⟨cell, again, holds⟩ :=
        O.send_unused (channels.cell other) message live.2
      rw [accepted] at again
      obtain rfl := Option.some.inj again
      simp only [value?, deliver, Function.update_self, if_true, holds]
    · simp only [value?, deliver, Function.update_of_ne same, if_neg same]

theorem send_of_not_live (channels : Channels O Message) (id : Nat)
    (message : Message) (dead : ¬channels.Live id) :
    channels.send id message = none := by
  unfold send
  split
  · rename_i inside
    split
    · rfl
    · rename_i used taken
      exact absurd (channels.live_of_taken inside taken) dead
  · rfl

def outcomes (channels : Channels O Message) (id : Nat) : List Message :=
  (channels.sent.filter (fun entry => entry.1 == id)).map Prod.snd

private theorem filter_key_of_nodup (entries : List (Nat × Message))
    (distinct : (entries.map Prod.fst).Nodup) (id : Nat) (message : Message)
    (member : (id, message) ∈ entries) :
    entries.filter (fun entry => entry.1 == id) = [(id, message)] := by
  induction entries with
  | nil =>
      cases member
  | cons head tail ih =>
      rw [List.map_cons, List.nodup_cons] at distinct
      rcases List.mem_cons.mp member with same | later
      · subst same
        have others : tail.filter (fun entry => entry.1 == id) = [] := by
          rw [List.filter_eq_nil_iff]
          intro entry inTail equal
          exact distinct.1 (List.mem_map.mpr ⟨entry, inTail, eq_of_beq equal⟩)
        simp only [List.filter_cons, beq_self_eq_true, if_true, others]
      · have different : (head.1 == id) = false := by
          rw [beq_eq_false_iff_ne]
          intro equal
          exact distinct.1 (List.mem_map.mpr ⟨(id, message), later, equal.symm⟩)
        simp only [List.filter_cons, different, Bool.false_eq_true, if_false]
        exact ih distinct.2 later

/-- A channel has accepted at most one message, the one its cell holds. -/
theorem outcomes_eq (channels : Channels O Message) (id : Nat) :
    channels.outcomes id = (channels.value? id).toList := by
  cases held : channels.value? id with
  | none =>
      have absent : channels.sent.filter (fun entry => entry.1 == id) = [] := by
        rw [List.filter_eq_nil_iff]
        rintro ⟨other, message⟩ member equal
        obtain rfl : other = id := eq_of_beq equal
        rw [← channels.recorded] at member
        exact absurd (held.symm.trans member) (by simp only [reduceCtorEq, not_false_eq_true])
      simp only [outcomes, absent, List.map_nil, Option.toList_none]
  | some message =>
      have member := (channels.recorded id message).mp held
      simp only [outcomes, filter_key_of_nodup channels.sent channels.sentOnce
        id message member, List.map_cons, List.map_nil, Option.toList_some]

theorem outcomes_length_le (channels : Channels O Message) (id : Nat) :
    (channels.outcomes id).length ≤ 1 := by
  rw [outcomes_eq]
  cases channels.value? id with
  | none => exact Nat.zero_le 1
  | some message => exact Nat.le_refl 1

def AnsweredBut (channels : Channels O Message) (except : Option Nat) : Prop :=
  ∀ id, id < channels.next → except ≠ some id →
    ∃ message, channels.value? id = some message

namespace AnsweredBut

variable {channels : Channels O Message} {except : Option Nat}

theorem empty (except : Option Nat) :
    AnsweredBut (Channels.empty : Channels O Message) except := by
  intro id impossible
  exact absurd impossible (Nat.not_lt_zero id)

theorem outcome (answered : channels.AnsweredBut except) {id : Nat}
    (inside : id < channels.next) (other : except ≠ some id) :
    ∃ message, channels.outcomes id = [message] := by
  obtain ⟨message, held⟩ := answered id inside other
  refine ⟨message, ?_⟩
  rw [outcomes_eq, held, Option.toList_some]

theorem weaken (answered : channels.AnsweredBut none)
    (except : Option Nat) : channels.AnsweredBut except := by
  intro id inside _
  exact answered id inside (by simp only [ne_eq, reduceCtorEq, not_false_eq_true])

theorem of_held {id : Nat} {message : Message}
    (answered : channels.AnsweredBut (some id))
    (held : channels.value? id = some message) : channels.AnsweredBut none := by
  intro other inside _
  by_cases same : id = other
  · subst same
    exact ⟨message, held⟩
  · exact answered other inside (fun equal => same (Option.some.inj equal))

theorem create (answered : channels.AnsweredBut none) :
    channels.create.AnsweredBut (some channels.next) := by
  intro id inside other
  rw [next_create] at inside
  have different : channels.next ≠ id := fun same => other (congrArg some same)
  obtain ⟨message, held⟩ := answered id (by omega)
    (by simp only [ne_eq, reduceCtorEq, not_false_eq_true])
  exact ⟨message, (channels.value?_create id).trans held⟩

end AnsweredBut

end Channels

/-! ### A sender variable and a receiver variable -/

structure Port (O : Oneshot) (Message : Type) where
  tx : Option Nat
  rx : Option Nat
  channels : Channels O Message

namespace Port

def empty : Port O Message where
  tx := none
  rx := none
  channels := .empty

def value? (port : Port O Message) (id : Nat) : Option Message :=
  port.channels.value? id

/-- Create a channel and move both of its ends into the variables. -/
def renew (port : Port O Message) : Port O Message where
  tx := some port.channels.next
  rx := some port.channels.next
  channels := port.channels.create

/-- Send through the sender variable; `none` is the exception it throws when
the variable is empty or its channel was already used. -/
def send (port : Port O Message) (message : Message) :
    Option (Port O Message) :=
  match port.tx with
  | none => none
  | some id =>
      (port.channels.send id message).map
        (fun channels => { port with channels := channels })

def get (port : Port O Message) : Option Message :=
  match port.rx with
  | none => none
  | some id => port.value? id

def Live (port : Port O Message) : Prop :=
  ∃ id, port.tx = some id ∧ port.channels.Live id

/-- The port after a send; it stays as it is when the send would throw. -/
def afterSend (port : Port O Message) (message : Message) : Port O Message :=
  (port.send message).getD port

def settle (pending : Bool) (port : Port O Message) (message : Message) :
    Port O Message :=
  if pending = true then port.afterSend message else port

@[simp] theorem tx_renew (port : Port O Message) :
    port.renew.tx = some port.channels.next :=
  rfl

@[simp] theorem rx_renew (port : Port O Message) :
    port.renew.rx = some port.channels.next :=
  rfl

@[simp] theorem next_renew (port : Port O Message) :
    port.renew.channels.next = port.channels.next + 1 :=
  rfl

@[simp] theorem value?_renew (port : Port O Message) (id : Nat) :
    port.renew.value? id = port.value? id :=
  port.channels.value?_create id

theorem live_renew (port : Port O Message) : port.renew.Live :=
  ⟨port.channels.next, rfl, port.channels.live_create⟩

theorem send_of_live (port : Port O Message) (message : Message)
    (live : port.Live) : port.send message = some (port.afterSend message) := by
  obtain ⟨id, txAt, liveAt⟩ := live
  obtain ⟨after, accepted, _⟩ :=
    port.channels.send_of_live id message liveAt
  simp only [afterSend, send, txAt, accepted, Option.map_some, Option.getD_some]

theorem send_of_not_live (port : Port O Message) (message : Message)
    (dead : ¬port.Live) : port.send message = none := by
  cases txAt : port.tx with
  | none =>
      simp only [send, txAt]
  | some id =>
      have deadAt : ¬port.channels.Live id := fun live =>
        dead ⟨id, txAt, live⟩
      simp only [send, txAt, port.channels.send_of_not_live id message deadAt,
        Option.map_none]

theorem afterSend_of_live (port : Port O Message) (message : Message)
    {id : Nat} (txAt : port.tx = some id) (live : port.channels.Live id) :
    (port.afterSend message).tx = port.tx ∧
      (port.afterSend message).rx = port.rx ∧
      (port.afterSend message).channels.next = port.channels.next ∧
      (port.afterSend message).channels.sent =
        port.channels.sent ++ [(id, message)] ∧
      ∀ other, (port.afterSend message).value? other =
        if other = id then some message else port.value? other := by
  obtain ⟨after, accepted, sameNext, recorded, values⟩ :=
    port.channels.send_of_live id message live
  have result : port.afterSend message = { port with channels := after } := by
    simp only [afterSend, send, txAt, accepted, Option.map_some,
      Option.getD_some]
  rw [result]
  exact ⟨rfl, rfl, sameNext, recorded, values⟩

private theorem afterSend_of_not_live (port : Port O Message)
    (message : Message) (dead : ¬port.Live) : port.afterSend message = port := by
  simp only [afterSend, port.send_of_not_live message dead, Option.getD_none]

@[simp] theorem tx_afterSend (port : Port O Message) (message : Message) :
    (port.afterSend message).tx = port.tx := by
  by_cases live : port.Live
  · obtain ⟨id, txAt, liveAt⟩ := live
    exact (port.afterSend_of_live message txAt liveAt).1
  · rw [port.afterSend_of_not_live message live]

@[simp] theorem rx_afterSend (port : Port O Message) (message : Message) :
    (port.afterSend message).rx = port.rx := by
  by_cases live : port.Live
  · obtain ⟨id, txAt, liveAt⟩ := live
    exact (port.afterSend_of_live message txAt liveAt).2.1
  · rw [port.afterSend_of_not_live message live]

@[simp] theorem next_afterSend (port : Port O Message) (message : Message) :
    (port.afterSend message).channels.next = port.channels.next := by
  by_cases live : port.Live
  · obtain ⟨id, txAt, liveAt⟩ := live
    exact (port.afterSend_of_live message txAt liveAt).2.2.1
  · rw [port.afterSend_of_not_live message live]

@[simp] theorem tx_settle (pending : Bool) (port : Port O Message)
    (message : Message) : (port.settle pending message).tx = port.tx := by
  cases pending with
  | true => exact port.tx_afterSend message
  | false => rfl

@[simp] theorem rx_settle (pending : Bool) (port : Port O Message)
    (message : Message) : (port.settle pending message).rx = port.rx := by
  cases pending with
  | true => exact port.rx_afterSend message
  | false => rfl

@[simp] theorem next_settle (pending : Bool) (port : Port O Message)
    (message : Message) :
    (port.settle pending message).channels.next = port.channels.next := by
  cases pending with
  | true => exact port.next_afterSend message
  | false => rfl

theorem value?_afterSend_of_held (port : Port O Message) (message : Message)
    {id : Nat} {held : Message} (before : port.value? id = some held) :
    (port.afterSend message).value? id = some held := by
  by_cases live : port.Live
  · obtain ⟨target, txAt, liveAt⟩ := live
    rw [(port.afterSend_of_live message txAt liveAt).2.2.2.2 id, if_neg ?_]
    · exact before
    · intro same
      subst same
      exact absurd (liveAt.2.symm.trans before)
        (by simp only [reduceCtorEq, not_false_eq_true])
  · rw [port.afterSend_of_not_live message live]
    exact before

theorem value?_settle_of_held (pending : Bool) (port : Port O Message)
    (message : Message) {id : Nat} {held : Message}
    (before : port.value? id = some held) :
    (port.settle pending message).value? id = some held := by
  cases pending with
  | true => exact port.value?_afterSend_of_held message before
  | false => exact before

theorem value?_afterSend_cases (port : Port O Message) (message : Message)
    {id : Nat} {held : Message}
    (after : (port.afterSend message).value? id = some held) :
    port.value? id = some held ∨ port.tx = some id ∧ held = message := by
  by_cases live : port.Live
  · obtain ⟨target, txAt, liveAt⟩ := live
    rw [(port.afterSend_of_live message txAt liveAt).2.2.2.2 id] at after
    split at after
    · rename_i same
      subst same
      exact Or.inr ⟨txAt, (Option.some.inj after).symm⟩
    · exact Or.inl after
  · rw [port.afterSend_of_not_live message live] at after
    exact Or.inl after

theorem answeredBut_afterSend {port : Port O Message} {except : Option Nat}
    (answered : port.channels.AnsweredBut except) (message : Message) :
    (port.afterSend message).channels.AnsweredBut except := by
  intro id inside other
  rw [next_afterSend] at inside
  obtain ⟨held, before⟩ := answered id inside other
  exact ⟨held, port.value?_afterSend_of_held message before⟩

theorem answered_afterSend {port : Port O Message}
    (answered : port.channels.AnsweredBut port.tx) (message : Message) :
    (port.afterSend message).channels.AnsweredBut none := by
  intro id inside _
  rw [next_afterSend] at inside
  by_cases txAt : port.tx = some id
  · cases held : port.value? id with
    | some earlier =>
        exact ⟨earlier, port.value?_afterSend_of_held message held⟩
    | none =>
        refine ⟨message, ?_⟩
        have sent := (port.afterSend_of_live message txAt ⟨inside, held⟩).2.2.2.2 id
        rw [if_pos rfl] at sent
        exact sent
  · exact answeredBut_afterSend answered message id
      (by rwa [next_afterSend]) txAt

def armedChannel (pending : Bool) (port : Port O Message) : Option Nat :=
  if pending = true then port.tx else none

theorem answered_settle {pending : Bool} {port : Port O Message}
    (answered : port.channels.AnsweredBut (port.armedChannel pending))
    (message : Message) :
    (port.settle pending message).channels.AnsweredBut none := by
  cases pending with
  | true => exact answered_afterSend answered message
  | false => exact answered

end Port

/-! ### A pending flag that guards the sender -/

/-- The protocol between a pending flag, the port it guards and the channel
`own` of the operation that is still outstanding: a set flag means that the
sender variable is live and belongs to that operation, and an outstanding
operation whose flag is clear already has its outcome. -/
structure Port.Settles (pending : Bool) (port : Port O Message)
    (own : Option Nat) : Prop where
  armed : pending = true →
    ∃ id, own = some id ∧ port.tx = some id ∧ port.channels.Live id
  answered : ∀ id, own = some id →
    pending = true ∨ ∃ message, port.value? id = some message

namespace Port.Settles

variable {pending : Bool} {port : Port O Message} {own : Option Nat}

theorem idle (port : Port O Message) : Settles false port none where
  armed := by intro impossible; cases impossible
  answered := by intro id impossible; cases impossible

theorem arm (port : Port O Message) :
    Settles true port.renew (some port.channels.next) where
  armed := fun _ => ⟨port.channels.next, rfl, rfl, port.channels.live_create⟩
  answered := fun _ _ => Or.inl rfl

theorem answer (port : Port O Message) (message : Message) :
    Settles false (port.renew.afterSend message) (some port.channels.next) where
  armed := by intro impossible; cases impossible
  answered := by
    intro id same
    obtain rfl := Option.some.inj same
    have after := (port.renew.afterSend_of_live message rfl
      port.channels.live_create).2.2.2.2 port.channels.next
    exact Or.inr ⟨message, by rw [after, if_pos rfl]⟩

theorem live (settles : Settles pending port own) (raised : pending = true) :
    port.Live := by
  obtain ⟨id, _, txAt, liveAt⟩ := settles.armed raised
  exact ⟨id, txAt, liveAt⟩

/-- Sending because the flag is raised answers the outstanding operation. -/
theorem settle (settles : Settles pending port own) (message : Message) :
    Settles false (port.settle pending message) own where
  armed := by intro impossible; cases impossible
  answered := by
    intro id same
    refine Or.inr ?_
    cases pending with
    | true =>
        obtain ⟨other, ownAt, txAt, liveAt⟩ := settles.armed rfl
        rw [same] at ownAt
        obtain rfl := Option.some.inj ownAt
        refine ⟨message, ?_⟩
        simp only [Port.settle, if_true,
          (port.afterSend_of_live message txAt liveAt).2.2.2.2 id]
    | false =>
        simpa only [Port.settle, Bool.false_eq_true, if_false, false_or] using
          settles.answered id same

theorem lowered (settles : Settles pending port own) {id : Nat}
    (same : own = some id) {message : Message}
    (held : port.value? id = some message) : pending = false := by
  cases pending with
  | false =>
      rfl
  | true =>
      obtain ⟨other, ownAt, _, liveAt⟩ := settles.armed rfl
      rw [same] at ownAt
      obtain rfl := Option.some.inj ownAt
      have unused : port.value? id = none := liveAt.2
      rw [held] at unused
      cases unused

theorem finish (settles : Settles pending port own) {id : Nat}
    (same : own = some id) {message : Message}
    (held : port.value? id = some message) : Settles pending port none := by
  rw [settles.lowered same held]
  exact idle port

theorem lowered_of_none (settles : Settles pending port none) :
    pending = false := by
  cases pending with
  | false =>
      rfl
  | true =>
      obtain ⟨id, impossible, _⟩ := settles.armed rfl
      cases impossible

end Port.Settles
