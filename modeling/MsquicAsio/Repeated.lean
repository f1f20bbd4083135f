/-
Calls of a locked operation that overlap.

Each call puts a new channel into the one sender and the one receiver of its
operation, and raises the one flag.  Nothing keeps the front end from calling
`async_shutdown` while an earlier call is outstanding, so how far the calls
have come is kept here for each of them, over the flag and the port that they
share.  The callback answers once, with success, and a call that comes later is
answered at once.

The main result says when every call ends with the outcome of its own channel.
-/
import MsquicAsio.Lib.Machine
import MsquicAsio.Operation

set_option autoImplicit false

universe u v

namespace MsquicAsio

variable {O : Oneshot}

inductive SharedStep
  | call (number : Nat)
  | initiate (number : Nat)
  | handler (number : Nat) (ec : ErrorCode)
  /-- The callback answers the operation, and every later call is answered by
  itself. -/
  | closes
  | aside
  deriving DecidableEq

namespace SharedStep

def caller? : SharedStep → Option Nat
  | .call number => some number
  | _ => none

def callers (steps : List SharedStep) : List Nat :=
  steps.filterMap caller?

private theorem callers_concat (steps : List SharedStep) (step : SharedStep) :
    callers (steps ++ [step]) = callers steps ++ step.caller?.toList := by
  rw [callers, List.filterMap_append]
  cases step <;> rfl

end SharedStep

structure SharedCalls (O : Oneshot) where
  closed : Bool
  pending : Bool
  port : Port O ErrorCode
  op : Nat → LockedOp

namespace SharedCalls

open SharedStep (callers callers_concat)

def slot (calls : SharedCalls O) (number : Nat) : LockedSlot O ErrorCode :=
  ⟨calls.pending, calls.port, calls.op number⟩

def advance (calls : SharedCalls O) (number : Nat) (op : Option LockedOp) :
    SharedCalls O :=
  { calls with
    op := Function.update calls.op number (op.getD (calls.op number)) }

def next (calls : SharedCalls O) : SharedStep → SharedCalls O
  | .call number =>
      let after := (calls.slot number).called
        (if calls.closed = true then some .success else none)
      { calls with
        pending := after.pending
        port := after.port
        op := Function.update calls.op number after.op }
  | .initiate number =>
      calls.advance number ((calls.slot number).initiate.map LockedSlot.op)
  | .handler number ec =>
      calls.advance number
        (((calls.slot number).handler ec).map fun handled => handled.1.op)
  | .closes =>
      { calls with
        closed := true
        pending := false
        port := calls.port.settle calls.pending .success }
  | .aside => calls

/-- Program order within each call.  The callback answers once. -/
def Ordered (steps : List SharedStep) (calls : SharedCalls O) :
    SharedStep → Prop
  | .call number => number ∉ callers steps
  | .initiate number => (calls.op number matches .ready _) = true
  | .handler number ec => (calls.slot number).completes ec = true
  | .closes => .closes ∉ steps
  | .aside => True

/-! ### What is to hold of every call -/

def Answered (steps : List SharedStep) (calls : SharedCalls O) : Prop :=
  .closes ∈ steps → ∀ id, id < calls.port.channels.next →
    calls.port.channels.outcomes id = [.success]

/-- A handler that runs is given success, which was read from the channel that
its own call has made. -/
def EndsOwn (calls : SharedCalls O) (step : SharedStep) : Prop :=
  ∀ number ec, step = .handler number ec →
    ((calls.slot number).handler ec).map Prod.snd = some (some .success) ∧
      (calls.op number).own = calls.port.rx

/-- The callback answers after at most one call, and a handler runs before the
next call is made. -/
def InTurn (steps : List SharedStep) (step : SharedStep) : Prop :=
  (step = .closes → (callers steps).length ≤ 1) ∧
    ∀ number ec, step = .handler number ec →
      (callers steps).getLast? = some number

/-! ### The channels and their calls -/

/-- The channels are numbered in the order of the calls, and the port holds the
last one.  Before the callback answers nothing was sent. -/
structure Tracks (steps : List SharedStep) (calls : SharedCalls O) : Prop where
  closed : calls.closed = true ↔ .closes ∈ steps
  count : calls.port.channels.next = (callers steps).length
  txLast : ∀ id, calls.port.tx = some id ↔ id + 1 = calls.port.channels.next
  rxLast : ∀ id, calls.port.rx = some id ↔ id + 1 = calls.port.channels.next
  opened : calls.closed = false →
    (∀ id, calls.port.value? id = none) ∧
      (calls.pending = true ↔ 0 < calls.port.channels.next)
  lowered : calls.closed = true → calls.pending = false
  answered : calls.closed = true → ∀ id, calls.port.rx = some id →
    calls.port.value? id = some .success
  success : ∀ id ec, calls.port.value? id = some ec → ec = .success
  ready : ∀ number own, calls.op number = .ready own →
    ∃ id, own = some id ∧ (callers steps)[id]? = some number
  waiting : ∀ number own wait, calls.op number = .waiting own wait →
    ∃ id, own = some id ∧ (callers steps)[id]? = some number ∧ id ≤ wait ∧
      wait < calls.port.channels.next
  distinct : (callers steps).Nodup

def initial : SharedCalls O where
  closed := false
  pending := false
  port := .empty
  op := fun _ => .idle

private theorem tracks_initial : Tracks [] (initial : SharedCalls O) where
  closed := by simp [initial]
  count := rfl
  txLast := by simp [initial, Port.empty, Channels.empty]
  rxLast := by simp [initial, Port.empty, Channels.empty]
  opened := by
    intro _
    exact ⟨fun id => Channels.value?_empty id,
      by simp [initial, Port.empty, Channels.empty]⟩
  lowered := by intro impossible; cases impossible
  answered := by intro impossible; cases impossible
  success := by
    intro id ec held
    rw [show initial.port.value? id = none from Channels.value?_empty id] at held
    cases held
  ready := by intro number own impossible; cases impossible
  waiting := by intro number own wait impossible; cases impossible
  distinct := List.nodup_nil

variable {steps : List SharedStep} {calls : SharedCalls O}

/-! What a call does to the shared port -/

private theorem tx_call (calls : SharedCalls O) (number : Nat) :
    (calls.next (.call number)).port.tx = some calls.port.channels.next := by
  simp only [next, LockedSlot.called]
  split
  · exact calls.port.renew.tx_afterSend _
  · rfl

private theorem rx_call (calls : SharedCalls O) (number : Nat) :
    (calls.next (.call number)).port.rx = some calls.port.channels.next := by
  simp only [next, LockedSlot.called]
  split
  · exact calls.port.renew.rx_afterSend _
  · rfl

private theorem next_call (calls : SharedCalls O) (number : Nat) :
    (calls.next (.call number)).port.channels.next =
      calls.port.channels.next + 1 := by
  simp only [next, LockedSlot.called]
  split
  · exact calls.port.renew.next_afterSend _
  · rfl

private theorem op_call (calls : SharedCalls O) (number : Nat) :
    (calls.next (.call number)).op =
      Function.update calls.op number
        (.ready (some calls.port.channels.next)) := by
  simp only [next, LockedSlot.called]
  split <;> rfl

private theorem value?_call (calls : SharedCalls O) (number id : Nat) :
    (calls.next (.call number)).port.value? id =
      if calls.closed = true ∧ id = calls.port.channels.next then some .success
      else calls.port.value? id := by
  cases closed : calls.closed with
  | true =>
      have sent := (calls.port.renew.afterSend_of_live ErrorCode.success rfl
        calls.port.channels.live_create).2.2.2.2 id
      simp only [next, LockedSlot.called, closed, if_true, true_and]
      rw [← calls.port.value?_renew id]
      exact sent
  | false =>
      simp only [next, LockedSlot.called, closed, Bool.false_eq_true, if_false,
        false_and]
      exact calls.port.value?_renew id

/-- The callback answers the last call alone. -/
private theorem Tracks.value?_closes (tracks : Tracks steps calls)
    (first : .closes ∉ steps) (id : Nat) :
    (calls.next .closes).port.value? id =
      if id + 1 = calls.port.channels.next then some .success else none := by
  have opened : calls.closed = false :=
    Bool.eq_false_iff.mpr (fun closed => first (tracks.closed.mp closed))
  obtain ⟨unused, raised⟩ := tracks.opened opened
  by_cases last : id + 1 = calls.port.channels.next
  · have txAt := (tracks.txLast id).mpr last
    have pending : calls.pending = true := raised.mpr (by omega)
    have sent := (calls.port.afterSend_of_live ErrorCode.success txAt
      ⟨by omega, unused id⟩).2.2.2.2 id
    simp only [next, Port.settle, pending, if_true, last]
    simpa only [if_true] using sent
  · rw [if_neg last]
    cases held : (calls.next .closes).port.value? id with
    | none => rfl
    | some ec =>
        simp only [next, Port.settle] at held
        split at held
        · rcases calls.port.value?_afterSend_cases _ held with old | ⟨txAt, _⟩
          · exact absurd ((unused id).symm.trans old) (by simp)
          · exact absurd ((tracks.txLast id).mp txAt) last
        · exact absurd ((unused id).symm.trans held) (by simp)

/-! ### One step -/

private theorem mem_closes_concat {step : SharedStep} (other : step ≠ .closes) :
    .closes ∈ steps ++ [step] ↔ .closes ∈ steps := by
  rw [List.mem_append, List.mem_singleton, or_iff_left (Ne.symm other)]

private theorem caller_concat (step : SharedStep) {id number : Nat}
    (made : (callers steps)[id]? = some number) :
    (callers (steps ++ [step]))[id]? = some number := by
  obtain ⟨inside, _⟩ := List.getElem?_eq_some_iff.mp made
  rw [callers_concat, List.getElem?_append_left inside]
  exact made

private theorem Tracks.call (tracks : Tracks steps calls) {number : Nat}
    (fresh : number ∉ callers steps) :
    Tracks (steps ++ [.call number]) (calls.next (.call number)) where
  closed := by
    rw [mem_closes_concat (by simp)]
    exact tracks.closed
  count := by
    rw [next_call, callers_concat, tracks.count]
    simp [SharedStep.caller?]
  txLast := by
    intro id
    rw [tx_call, next_call, Option.some.injEq]
    omega
  rxLast := by
    intro id
    rw [rx_call, next_call, Option.some.injEq]
    omega
  opened := by
    intro opened
    have before : calls.closed = false := opened
    constructor
    · intro id
      rw [value?_call, before, if_neg (by simp)]
      exact (tracks.opened before).1 id
    · simp [SharedCalls.next, LockedSlot.called, before]
  lowered := by
    intro closed
    have before : calls.closed = true := closed
    simp only [SharedCalls.next, LockedSlot.called, before, if_true]
    exact tracks.lowered before
  answered := by
    intro closed id rxAt
    have before : calls.closed = true := closed
    rw [rx_call, Option.some.injEq] at rxAt
    rw [value?_call, if_pos ⟨before, rxAt.symm⟩]
  success := by
    intro id ec held
    rw [value?_call] at held
    split at held
    · exact (Option.some.inj held).symm
    · exact tracks.success id ec held
  -- the new call has made the last channel, the others keep theirs
  ready := by
    intro other own at_
    rw [op_call] at at_
    by_cases same : other = number
    · subst same
      rw [Function.update_self] at at_
      obtain rfl := LockedOp.ready.inj at_
      refine ⟨_, rfl, ?_⟩
      rw [callers_concat, tracks.count]
      exact List.getElem?_concat_length
    · rw [Function.update_of_ne same] at at_
      obtain ⟨id, ownAt, made⟩ := tracks.ready other own at_
      exact ⟨id, ownAt, caller_concat _ made⟩
  waiting := by
    intro other own wait at_
    rw [op_call] at at_
    by_cases same : other = number
    · subst same
      rw [Function.update_self] at at_
      cases at_
    · rw [Function.update_of_ne same] at at_
      obtain ⟨id, ownAt, made, after, inside⟩ :=
        tracks.waiting other own wait at_
      refine ⟨id, ownAt, caller_concat _ made, after, ?_⟩
      rw [next_call]
      omega
  distinct := by
    have joined := List.Nodup.concat fresh tracks.distinct
    rw [List.concat_eq_append] at joined
    rw [callers_concat]
    exact joined

private theorem Tracks.kept (tracks : Tracks steps calls) {step : SharedStep}
    (notCall : step.caller? = none) (notCloses : step ≠ .closes) :
    Tracks (steps ++ [step]) calls := by
  have sameCallers : callers (steps ++ [step]) = callers steps := by
    rw [callers_concat, notCall, Option.toList_none, List.append_nil]
  exact
    { tracks with
      closed := by
        rw [mem_closes_concat notCloses]
        exact tracks.closed
      count := by
        rw [sameCallers]
        exact tracks.count
      ready := by
        rw [sameCallers]
        exact tracks.ready
      waiting := by
        rw [sameCallers]
        exact tracks.waiting
      distinct := by
        rw [sameCallers]
        exact tracks.distinct }

private theorem Tracks.moved (tracks : Tracks steps calls) (number : Nat)
    {op : LockedOp}
    (ready : ∀ own, op = .ready own → calls.op number = .ready own)
    (waiting : ∀ own wait, op = .waiting own wait →
      ∃ id, own = some id ∧ (callers steps)[id]? = some number ∧ id ≤ wait ∧
        wait < calls.port.channels.next) :
    Tracks steps { calls with op := Function.update calls.op number op } :=
  { tracks with
    ready := by
      intro other own at_
      change Function.update calls.op number op other = _ at at_
      by_cases same : other = number
      · subst same
        rw [Function.update_self] at at_
        exact tracks.ready other own (ready own at_)
      · rw [Function.update_of_ne same] at at_
        exact tracks.ready other own at_
    waiting := by
      intro other own wait at_
      change Function.update calls.op number op other = _ at at_
      by_cases same : other = number
      · subst same
        rw [Function.update_self] at at_
        exact waiting own wait at_
      · rw [Function.update_of_ne same] at at_
        exact tracks.waiting other own wait at_ }

private theorem Tracks.closes (tracks : Tracks steps calls)
    (first : .closes ∉ steps) :
    Tracks (steps ++ [.closes]) (calls.next .closes) := by
  have sameCallers : callers (steps ++ [.closes]) = callers steps := by
    rw [callers_concat]
    exact List.append_nil _
  have sameNext : (calls.next .closes).port.channels.next =
      calls.port.channels.next := calls.port.next_settle calls.pending _
  have sameRx : (calls.next .closes).port.rx = calls.port.rx :=
    calls.port.rx_settle calls.pending _
  exact
    { closed := by simp [SharedCalls.next]
      count := by
        rw [sameNext, sameCallers]
        exact tracks.count
      txLast := by
        intro id
        rw [sameNext, ← tracks.txLast]
        exact iff_of_eq (congrArg (· = some id)
          (calls.port.tx_settle calls.pending _))
      rxLast := by
        intro id
        rw [sameNext, sameRx]
        exact tracks.rxLast id
      opened := by intro impossible; cases impossible
      lowered := fun _ => rfl
      answered := by
        intro _ id rxAt
        rw [sameRx, tracks.rxLast] at rxAt
        rw [tracks.value?_closes first, if_pos rxAt]
      success := by
        intro id ec held
        rw [tracks.value?_closes first] at held
        split at held
        · exact (Option.some.inj held).symm
        · cases held
      ready := by
        intro number own at_
        rw [sameCallers]
        exact tracks.ready number own at_
      waiting := by
        intro number own wait at_
        rw [sameCallers, sameNext]
        exact tracks.waiting number own wait at_
      distinct := by
        rw [sameCallers]
        exact tracks.distinct }

private theorem Tracks.initiate (tracks : Tracks steps calls) {number : Nat}
    (isReady : (calls.op number matches .ready _) = true) :
    Tracks (steps ++ [.initiate number]) (calls.next (.initiate number)) := by
  cases at_ : calls.op number with
  | ready own =>
      obtain ⟨id, rfl, made⟩ := tracks.ready number own at_
      obtain ⟨inside, _⟩ := List.getElem?_eq_some_iff.mp made
      rw [← tracks.count] at inside
      have rxAt := (tracks.rxLast (calls.port.channels.next - 1)).mpr (by omega)
      have moved : calls.next (.initiate number) =
          { calls with
            op := Function.update calls.op number
              (.waiting (some id) (calls.port.channels.next - 1)) } := by
        simp only [SharedCalls.next, SharedCalls.advance, slot,
          LockedSlot.initiate, at_, rxAt, Option.map_some, Option.getD_some]
      rw [moved]
      refine (tracks.moved number ?_ ?_).kept rfl (by simp)
      · intro own impossible
        cases impossible
      · intro own wait same
        obtain ⟨rfl, rfl⟩ := LockedOp.waiting.inj same
        exact ⟨id, rfl, made, by omega, by omega⟩
  | idle | waiting =>
      rw [at_] at isReady
      cases isReady

private theorem op_handler {slot : LockedSlot O ErrorCode} {ec : ErrorCode}
    {handled : LockedSlot O ErrorCode × Option ErrorCode}
    (ran : slot.handler ec = some handled) : handled.1.op = .idle := by
  unfold LockedSlot.handler at ran
  split at ran
  · obtain rfl := Option.some.inj ran
    rfl
  · obtain ⟨message, _, rfl⟩ := Option.map_eq_some_iff.mp ran
    rfl

private theorem Tracks.handler (tracks : Tracks steps calls) (number : Nat)
    (ec : ErrorCode) :
    Tracks (steps ++ [.handler number ec])
      (calls.next (.handler number ec)) := by
  cases ran : (calls.slot number).handler ec with
  | none =>
      have same : calls.next (.handler number ec) = calls := by
        simp only [SharedCalls.next, SharedCalls.advance, ran, Option.map_none,
          Option.getD_none, Function.update_eq_self]
      rw [same]
      exact tracks.kept rfl (by simp)
  | some handled =>
      have moved : calls.next (.handler number ec) =
          { calls with op := Function.update calls.op number .idle } := by
        simp only [SharedCalls.next, SharedCalls.advance, ran, Option.map_some,
          Option.getD_some, op_handler ran]
      rw [moved]
      refine (tracks.moved number ?_ ?_).kept rfl (by simp)
      · intro own impossible
        cases impossible
      · intro own wait impossible
        cases impossible

private theorem Tracks.next (tracks : Tracks steps calls) {step : SharedStep}
    (ordered : calls.Ordered steps step) :
    Tracks (steps ++ [step]) (calls.next step) := by
  cases step with
  | call number => exact tracks.call ordered
  | initiate number => exact tracks.initiate ordered
  | handler number ec => exact tracks.handler number ec
  | closes => exact tracks.closes ordered
  | aside => exact tracks.kept rfl (by simp)

theorem Tracks.live (tracks : Tracks steps calls)
    (raised : calls.pending = true) : calls.port.Live := by
  have opened : calls.closed = false := by
    by_contra closed
    rw [Bool.not_eq_false] at closed
    exact Bool.false_ne_true ((tracks.lowered closed).symm.trans raised)
  obtain ⟨unused, pending⟩ := tracks.opened opened
  have some_ := pending.mp raised
  exact ⟨calls.port.channels.next - 1, (tracks.txLast _).mpr (by omega),
    by omega, unused _⟩

/-! ### When the calls end with their own outcomes -/

private theorem Tracks.last_iff (tracks : Tracks steps calls) {id number : Nat}
    (made : (callers steps)[id]? = some number) :
    (callers steps).getLast? = some number ↔ calls.port.rx = some id := by
  obtain ⟨inside, _⟩ := List.getElem?_eq_some_iff.mp made
  rw [tracks.rxLast, tracks.count, List.getLast?_eq_getElem?]
  constructor
  · intro last
    have same := (List.getElem?_inj inside tracks.distinct).mp
      (made.trans last.symm)
    omega
  · intro last
    rw [show (callers steps).length - 1 = id by omega]
    exact made

/-- The handler of a call that is not the last one waits or reads elsewhere. -/
private theorem Tracks.endsOwn_iff (tracks : Tracks steps calls) {number : Nat}
    {ec : ErrorCode} (completes : (calls.slot number).completes ec = true) :
    calls.EndsOwn (.handler number ec) ↔
      (callers steps).getLast? = some number := by
  cases at_ : calls.op number with
  | idle | ready =>
      simp only [LockedSlot.completes, slot, at_, Bool.false_eq_true] at completes
  | waiting own wait =>
      obtain ⟨id, rfl, made, after, inside⟩ := tracks.waiting number own wait at_
      rw [tracks.last_iff made]
      constructor
      · intro ends
        have own := (ends number ec rfl).2
        rw [at_] at own
        exact own.symm
      · intro rxAt other otherEc same
        obtain ⟨rfl, rfl⟩ := SharedStep.handler.inj same
        have lastId := (tracks.rxLast id).mp rxAt
        obtain rfl : wait = id := by omega
        have ends : waitCompletes calls.port wait ec = true := by
          simpa only [LockedSlot.completes, slot, at_] using completes
        unfold waitCompletes at ends
        refine ⟨?_, by rw [at_]; exact rxAt.symm⟩
        cases held : calls.port.value? wait with
        | none =>
            rw [held] at ends
            have txAt := (tracks.txLast wait).mpr lastId
            exact absurd txAt (of_decide_eq_true ends).2
        | some message =>
            rw [held] at ends
            obtain rfl := tracks.success wait message held
            obtain rfl := of_decide_eq_true ends
            have got : calls.port.get = some ErrorCode.success := by
              simp only [Port.get, rxAt, held]
            simp only [LockedSlot.handler, slot, ErrorCode.failed_success,
              Bool.false_eq_true, if_false, got, Option.map_some]

private theorem outcomes_success_iff (calls : SharedCalls O) (id : Nat) :
    calls.port.channels.outcomes id = [.success] ↔
      calls.port.value? id = some .success := by
  rw [Channels.outcomes_eq, Option.toList_eq_singleton_iff]
  rfl

/-- Only the answer of the callback can leave a channel out. -/
private theorem Tracks.answered_iff (tracks : Tracks steps calls)
    {step : SharedStep}
    (ordered : calls.Ordered steps step) (answered : calls.Answered steps) :
    (calls.next step).Answered (steps ++ [step]) ↔
      (step = .closes → (callers steps).length ≤ 1) := by
  have kept : (calls.next step).port = calls.port → step ≠ .closes →
      (calls.next step).Answered (steps ++ [step]) := by
    intro samePort other ended
    rw [samePort]
    exact answered ((mem_closes_concat other).mp ended)
  cases step with
  | initiate | handler | aside =>
      exact iff_of_true (kept rfl (by simp)) (by simp)
  | call number =>
      refine iff_of_true ?_ (by simp)
      intro ended id inside
      rw [mem_closes_concat (by simp)] at ended
      rw [outcomes_success_iff, value?_call]
      rw [next_call] at inside
      by_cases last : id = calls.port.channels.next
      · rw [if_pos ⟨tracks.closed.mpr ended, last⟩]
      · rw [if_neg (fun both => last both.2), ← outcomes_success_iff]
        exact answered ended id (by omega)
  | closes =>
      have sameNext : (calls.next .closes).port.channels.next =
          (callers steps).length :=
        (calls.port.next_settle calls.pending _).trans tracks.count
      have value := tracks.value?_closes ordered
      rw [tracks.count] at value
      constructor
      · intro all _
        by_contra two
        have first := all (List.mem_append_right _ (List.mem_singleton_self _))
          0 (by omega)
        rw [outcomes_success_iff, value, if_neg (by omega)] at first
        cases first
      · intro one _ id inside
        have single := one rfl
        rw [outcomes_success_iff, value, if_pos (by omega)]

private theorem Tracks.own_iff (tracks : Tracks steps calls) {step : SharedStep}
    (ordered : calls.Ordered steps step) (answered : calls.Answered steps) :
    (calls.next step).Answered (steps ++ [step]) ∧ calls.EndsOwn step ↔
      InTurn steps step := by
  rw [InTurn, tracks.answered_iff ordered answered]
  refine and_congr_right (fun _ => ?_)
  constructor
  · rintro ends number ec rfl
    exact (tracks.endsOwn_iff ordered).mp ends
  · rintro inTurn number ec rfl
    exact (tracks.endsOwn_iff ordered).mpr (inTurn number ec rfl) number ec rfl

/-! ### The runs of a handle -/

variable {State : Type u} {Action : Type v} {machine : Machine State Action}
  {environment : Environment State Action} {view : State → SharedCalls O}
  {kind : Action → SharedStep} {Beside : State → Prop}

/-- A handle whose calls move as `next` says, as long as what it keeps beside
them is in order. -/
structure Simulates (machine : Machine State Action)
    (environment : Environment State Action) (view : State → SharedCalls O)
    (kind : Action → SharedStep) (Beside : State → Prop) : Prop where
  start : view machine.initial = initial
  beside_start : Beside machine.initial
  ordered : ∀ actions state action, environment actions state action →
    (view state).Ordered (actions.map kind) (kind action)
  step : ∀ actions state action, Tracks (actions.map kind) (view state) →
    Beside state → environment actions state action →
      view (machine.step state action) = (view state).next (kind action) ∧
        Beside (machine.step state action)

private theorem Simulates.tracks
    (simulates : Simulates machine environment view kind Beside)
    {actions : List Action} {state : State}
    (run : machine.Run environment actions state) :
    Tracks (actions.map kind) (view state) ∧ Beside state := by
  apply run.invariant (fun actions state =>
    Tracks (actions.map kind) (view state) ∧ Beside state)
  · rw [simulates.start]
    exact ⟨tracks_initial, simulates.beside_start⟩
  · rintro actions state action _ ⟨tracks, beside⟩ allowed
    obtain ⟨moved, kept⟩ := simulates.step actions state action tracks beside
      allowed
    rw [moved, List.map_append, List.map_singleton]
    exact ⟨tracks.next (simulates.ordered actions state action allowed), kept⟩

/-- In a run every call has its own outcome, exactly when the calls come in
turn. -/
theorem Simulates.own_iff
    (simulates : Simulates machine environment view kind Beside)
    {actions : List Action} {state : State}
    (run : machine.Run environment actions state) :
    machine.Throughout
          (fun actions state => (view state).Answered (actions.map kind))
          actions ∧
        machine.EachStep
          (fun _ state action => (view state).EndsOwn (kind action)) actions ↔
      machine.EachStep
        (fun actions _ action => InTurn (actions.map kind) (kind action))
        actions := by
  apply run.throughout_eachStep_iff
  · intro impossible
    cases impossible
  · intro actions state action before _ allowed answered
    obtain ⟨tracks, beside⟩ := simulates.tracks before
    obtain ⟨moved, _⟩ := simulates.step actions state action tracks beside
      allowed
    rw [moved, List.map_append, List.map_singleton]
    exact tracks.own_iff (simulates.ordered actions state action allowed)
      answered

end SharedCalls

end MsquicAsio
