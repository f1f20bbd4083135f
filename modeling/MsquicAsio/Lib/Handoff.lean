/-
Handing items over to calls that ask for them.

Items arrive on one side, on the other calls are made one after the other, each
for one item.  A call that asks is given an item that has arrived, or, once the
hand-off is closed, refused; then its handler is told.  Where the arriving side
is serial, an item arrives only when none is waiting.
-/
import Mathlib.Algebra.Order.Group.Multiset
import Mathlib.Tactic.Abel
import MsquicAsio.Lib.Refinement

set_option autoImplicit false

universe u v w

/-- What calls are answered with, which messages give an item, and whether items
arrive one at a time. -/
structure HandoffKind (Item : Type u) (Message : Type v) where
  given : Item → Message
  gives : Message → Bool
  gives_given : ∀ item, gives (given item) = true
  serial : Bool

inductive HandoffCall (Message : Type v)
  | idle
  | asking
  | answered (message : Message)

structure Handoff (Item : Type u) (Message : Type v) where
  /-- The items that have arrived and were not given to a call. -/
  offered : Multiset Item
  call : HandoffCall Message
  /-- What the handlers were told, call after call. -/
  told : List Message
  closed : Bool

inductive HandoffAction (Item : Type u) (Message : Type v)
  | offer (item : Item)
  | ask
  | give (item : Item)
  | refuse (message : Message)
  | tell (message : Message)
  | close

namespace HandoffCall

variable {Message : Type v}

def answer : HandoffCall Message → List Message
  | .answered message => [message]
  | _ => []

def Refused {Item : Type u} (kind : HandoffKind Item Message)
    (before after : HandoffCall Message) : Prop :=
  after = before ∨
    before = .asking ∧ ∃ message, after = .answered message ∧
      kind.gives message = false

def outstanding : HandoffCall Message → Nat
  | .idle => 0
  | _ => 1

end HandoffCall

namespace HandoffAction

variable {Item : Type u} {Message : Type v}

def offered : HandoffAction Item Message → Option Item
  | .offer item => some item
  | _ => none

def asked : HandoffAction Item Message → Option Unit
  | .ask => some ()
  | _ => none

def request : HandoffAction Item Message → Option (HandoffAction Item Message)
  | .offer item => some (.offer item)
  | .ask => some .ask
  | _ => none

def taken : HandoffAction Item Message → Option Item
  | .give item => some item
  | _ => none

def answered (kind : HandoffKind Item Message) :
    HandoffAction Item Message → Option Message
  | .give item => some (kind.given item)
  | .refuse message => some message
  | _ => none

def refusal : HandoffCall Message → HandoffCall Message →
    List (HandoffAction Item Message)
  | .asking, .answered message => [.refuse message]
  | _, _ => []

theorem refusal_self (call : HandoffCall Message) :
    (refusal call call : List (HandoffAction Item Message)) = [] := by
  cases call <;> rfl

theorem request_refusal (before after : HandoffCall Message) :
    (refusal before after : List (HandoffAction Item Message)).filterMap
      request = [] := by
  unfold refusal
  split <;> rfl

private theorem offered_of_request (action : HandoffAction Item Message)
    (inner : action.request = none) : action.offered = none := by
  cases action with
  | offer => cases inner
  | ask | give | refuse | tell | close => rfl

private theorem asked_of_request (action : HandoffAction Item Message)
    (inner : action.request = none) : action.asked = none := by
  cases action with
  | ask => cases inner
  | offer | give | refuse | tell | close => rfl

private theorem filterMap_request {Read : Type w}
    (reads : HandoffAction Item Message → Option Read)
    (outer : ∀ action, action.request = none → reads action = none)
    (actions : List (HandoffAction Item Message)) :
    (actions.filterMap request).filterMap reads = actions.filterMap reads := by
  rw [List.filterMap_filterMap]
  congr 1
  funext action
  cases action with
  | offer | ask => rfl
  | give | refuse | tell | close => exact (outer _ rfl).symm

end HandoffAction

namespace Handoff

variable {Item : Type u} {Message : Type v} [DecidableEq Item]
  (kind : HandoffKind Item Message)

def initial : Handoff Item Message where
  offered := 0
  call := .idle
  told := []
  closed := false

def step (handoff : Handoff Item Message) :
    HandoffAction Item Message → Handoff Item Message
  | .offer item => { handoff with offered := item ::ₘ handoff.offered }
  | .ask => { handoff with call := .asking }
  | .give item =>
      { handoff with
        offered := handoff.offered.erase item
        call := .answered (kind.given item) }
  | .refuse message => { handoff with call := .answered message }
  | .tell message =>
      { handoff with call := .idle, told := handoff.told ++ [message] }
  | .close => { handoff with closed := true }

/-- A call is refused only once the hand-off is closed, and it is closed only
when no item waits.  Where items arrive one at a time, each is taken before the
next one comes. -/
def rules (_ : List (HandoffAction Item Message))
    (handoff : Handoff Item Message) : HandoffAction Item Message → Prop
  | .offer _ =>
      handoff.closed = false ∧ (kind.serial = true → handoff.offered = 0)
  | .ask => handoff.call = .idle
  | .give item => handoff.call = .asking ∧ item ∈ handoff.offered
  | .refuse message =>
      handoff.call = .asking ∧ handoff.closed = true ∧
        kind.gives message = false
  | .tell message => handoff.call = .answered message
  | .close => handoff.offered = 0

end Handoff

def handoffMachine {Item : Type u} {Message : Type v} [DecidableEq Item]
    (kind : HandoffKind Item Message) :
    Machine (Handoff Item Message) (HandoffAction Item Message) where
  initial := .initial
  step := Handoff.step kind

namespace Handoff

variable {Item : Type u} {Message : Type v}
  {kind : HandoffKind Item Message} {handoff : Handoff Item Message}
  {actions : List (HandoffAction Item Message)}
  {action : HandoffAction Item Message}

/-- An action after which the hand-off is closed, with a refusal of the call that
asks then. -/
theorem follows_refused [DecidableEq Item]
    (run : (handoffMachine kind).Run (rules kind) actions handoff)
    (allowed : rules kind actions handoff action)
    (closed : (handoff.step kind action).closed = true)
    {after : HandoffCall Message}
    (refused : (handoff.step kind action).call.Refused kind after) :
    (handoffMachine kind).Run (rules kind)
      (actions ++
        action :: HandoffAction.refusal (handoff.step kind action).call after)
      { handoff.step kind action with call := after } := by
  rw [List.append_cons]
  have acted := run.follows allowed rfl
  rcases refused with same | ⟨asking, message, answered, refusal⟩
  · rw [same, HandoffAction.refusal_self]
    exact acted.stays rfl
  · have refuses : rules kind (actions ++ [action]) (handoff.step kind action)
        (.refuse message) :=
      ⟨asking, closed, refusal⟩
    rw [asking, answered]
    exact acted.follows refuses rfl

/-- The answers so far: those told, and one that its handler was not told. -/
def answers (handoff : Handoff Item Message) : List Message :=
  handoff.told ++ handoff.call.answer

/-- The books of a hand-off: each item that arrived waits or is in exactly one
answer, each call has had its handler told or is in progress, no call is refused
before the hand-off is closed, and nothing waits afterwards. -/
structure Accounted (kind : HandoffKind Item Message)
    (actions : List (HandoffAction Item Message))
    (handoff : Handoff Item Message) : Prop where
  items : ((actions.filterMap HandoffAction.offered).map kind.given :
      Multiset Message) =
    handoff.offered.map kind.given +
      (handoff.answers.filter kind.gives : List Message)
  calls : (actions.filterMap HandoffAction.asked).length =
    handoff.told.length + handoff.call.outstanding
  given : handoff.closed = false →
    ∀ message ∈ handoff.answers, kind.gives message = true
  empty : handoff.closed = true → handoff.offered = 0

private theorem Accounted.initial :
    Accounted kind [] (.initial : Handoff Item Message) where
  items := rfl
  calls := rfl
  given := by intro _ message member; cases member
  empty := by intro impossible; cases impossible

theorem Accounted.requested (accounted : handoff.Accounted kind actions) :
    handoff.Accounted kind (actions.filterMap HandoffAction.request) where
  items := by
    rw [HandoffAction.filterMap_request _ HandoffAction.offered_of_request]
    exact accounted.items
  calls := by
    rw [HandoffAction.filterMap_request _ HandoffAction.asked_of_request]
    exact accounted.calls
  given := accounted.given
  empty := accounted.empty

/-- The items are given in the order in which they arrived, and at most one
waits. -/
structure InOrder (kind : HandoffKind Item Message)
    (actions : List (HandoffAction Item Message))
    (handoff : Handoff Item Message) (waiting : Option Item) : Prop where
  waits : handoff.offered = (waiting.toList : Multiset Item)
  order : (actions.filterMap HandoffAction.offered).map kind.given =
    handoff.answers.filter kind.gives ++ waiting.toList.map kind.given

theorem InOrder.requested {waiting : Option Item}
    (inOrder : handoff.InOrder kind actions waiting) :
    handoff.InOrder kind (actions.filterMap HandoffAction.request) waiting where
  waits := inOrder.waits
  order := by
    rw [HandoffAction.filterMap_request _ HandoffAction.offered_of_request]
    exact inOrder.order

/-! What one action adds to each column. -/

private theorem gives_answered (allowed : rules kind actions handoff action) :
    (action.answered kind).toList.filter kind.gives =
      action.taken.toList.map kind.given := by
  cases action with
  | give item =>
      simp only [HandoffAction.answered, HandoffAction.taken,
        Option.toList_some, List.filter_singleton, kind.gives_given,
        List.map_singleton, cond_true]
  | refuse message =>
      simp only [HandoffAction.answered, HandoffAction.taken,
        Option.toList_some, Option.toList_none, List.filter_singleton,
        allowed.2.2, List.map_nil, cond_false]
  | offer | ask | tell | close => rfl

variable [DecidableEq Item]

private theorem offered_step (allowed : rules kind actions handoff action) :
    (handoff.step kind action).offered + (action.taken.toList : Multiset Item) =
      handoff.offered + (action.offered.toList : Multiset Item) := by
  cases action with
  | offer item =>
      change (item ::ₘ handoff.offered) + 0 = handoff.offered + {item}
      rw [add_zero, ← Multiset.singleton_add, add_comm]
  | give item =>
      change handoff.offered.erase item + {item} = handoff.offered + 0
      rw [add_comm, Multiset.singleton_add, Multiset.cons_erase allowed.2,
        add_zero]
  | ask | refuse | tell | close => rfl

private theorem answers_step (allowed : rules kind actions handoff action) :
    (handoff.step kind action).answers =
      handoff.answers ++ (action.answered kind).toList := by
  cases action with
  | offer item | close =>
      exact (List.append_nil _).symm
  | ask =>
      have idle : handoff.call = .idle := allowed
      simp only [answers, Handoff.step, idle, HandoffCall.answer,
        HandoffAction.answered, Option.toList_none, List.append_nil]
  | give item | refuse message =>
      simp only [answers, Handoff.step, allowed.1, HandoffCall.answer,
        HandoffAction.answered, Option.toList_some, List.append_nil]
  | tell message =>
      have answered : handoff.call = .answered message := allowed
      simp only [answers, Handoff.step, answered, HandoffCall.answer,
        HandoffAction.answered, Option.toList_none, List.append_nil]

private theorem calls_step (allowed : rules kind actions handoff action) :
    (handoff.step kind action).told.length +
        (handoff.step kind action).call.outstanding =
      handoff.told.length + handoff.call.outstanding +
        action.asked.toList.length := by
  cases action with
  | offer item | close => rfl
  | ask =>
      have idle : handoff.call = .idle := allowed
      simp only [Handoff.step, idle, HandoffCall.outstanding,
        HandoffAction.asked, Option.toList_some, List.length_singleton]
  | give item | refuse message =>
      simp only [Handoff.step, allowed.1, HandoffCall.outstanding,
        HandoffAction.asked, Option.toList_none, List.length_nil]
  | tell message =>
      have answered : handoff.call = .answered message := allowed
      simp only [Handoff.step, answered, HandoffCall.outstanding,
        HandoffAction.asked, Option.toList_none, List.length_nil,
        List.length_append, List.length_singleton]

namespace Accounted

private theorem step (accounted : handoff.Accounted kind actions)
    (allowed : rules kind actions handoff action) :
    (handoff.step kind action).Accounted kind (actions ++ [action]) := by
  constructor
  · have moved := congrArg (Multiset.map kind.given) (offered_step allowed)
    rw [Multiset.map_add, Multiset.map_add] at moved
    rw [Machine.filterMap_concat, List.map_append, ← Multiset.coe_add,
      accounted.items, answers_step allowed, List.filter_append,
      gives_answered allowed, ← Multiset.coe_add, add_right_comm,
      ← Multiset.map_coe, ← moved, Multiset.map_coe]
    abel
  · rw [Machine.filterMap_concat, List.length_append, accounted.calls,
      calls_step allowed]
  · intro still message member
    rw [answers_step allowed] at member
    have before : handoff.closed = false := by
      cases action with
      | close => cases still
      | offer | ask | give | refuse | tell => exact still
    rcases List.mem_append.mp member with old | new
    · exact accounted.given before message old
    · cases action with
      | give item =>
          rw [List.mem_singleton.mp new]
          exact kind.gives_given item
      | refuse refusal =>
          rw [allowed.2.1] at before
          cases before
      | offer | ask | tell | close => cases new
  · intro closed
    cases action with
    | close => exact allowed
    | offer item =>
        rw [Handoff.step, allowed.1] at closed
        cases closed
    | give item =>
        have member := allowed.2
        rw [accounted.empty closed] at member
        exact absurd member (Multiset.notMem_zero item)
    | ask | refuse | tell => exact accounted.empty closed

end Accounted

theorem accounted_of_run
    (run : (handoffMachine kind).Run (rules kind) actions handoff) :
    handoff.Accounted kind actions := by
  apply run.invariant (fun actions handoff => handoff.Accounted kind actions)
    Accounted.initial
  intro actions handoff action _ accounted allowed
  exact accounted.step allowed

/-! ### Where items arrive one at a time -/

private theorem InOrder.kept {waiting : Option Item}
    (inOrder : handoff.InOrder kind actions waiting)
    (allowed : rules kind actions handoff action)
    (noOffer : action.offered = none) (noTake : action.taken = none) :
    (handoff.step kind action).InOrder kind (actions ++ [action]) waiting := by
  have same := offered_step allowed
  rw [noOffer, noTake] at same
  have gives := gives_answered allowed
  rw [noTake] at gives
  constructor
  · exact (add_right_cancel same).trans inOrder.waits
  · rw [Machine.filterMap_concat, noOffer, Option.toList_none, List.append_nil,
      inOrder.order, answers_step allowed, List.filter_append, gives]
    simp only [Option.toList_none, List.map_nil, List.append_nil]

private theorem InOrder.step {waiting : Option Item}
    (inOrder : handoff.InOrder kind actions waiting)
    (serial : kind.serial = true)
    (allowed : rules kind actions handoff action) :
    ∃ after, (handoff.step kind action).InOrder kind (actions ++ [action])
      after := by
  cases action with
  | offer item =>
      have nothing := allowed.2 serial
      have noneWaits : waiting = none := by
        cases waiting with
        | none => rfl
        | some other =>
            have one := inOrder.waits
            rw [nothing] at one
            exact absurd (congrArg Multiset.card one) (by simp)
      have order := inOrder.order
      rw [noneWaits] at order
      refine ⟨some item, ?_, ?_⟩
      · rw [Handoff.step, nothing]
        rfl
      · rw [Machine.filterMap_concat, List.map_append, order,
          answers_step allowed]
        simp only [HandoffAction.answered, HandoffAction.offered,
          Option.toList_none, Option.toList_some, List.map_nil,
          List.append_nil]
  | give item =>
      have member := allowed.2
      rw [inOrder.waits] at member
      obtain rfl : waiting = some item := by
        cases waiting with
        | none => exact absurd member (Multiset.notMem_zero item)
        | some other =>
            rw [List.mem_singleton.mp (Multiset.mem_coe.mp member)]
      refine ⟨none, ?_, ?_⟩
      · rw [Handoff.step, inOrder.waits]
        simp
      · rw [Machine.filterMap_concat, answers_step allowed,
          List.filter_append, gives_answered allowed]
        simp only [HandoffAction.taken, HandoffAction.offered,
          Option.toList_none, List.map_nil, List.append_nil]
        exact inOrder.order
  | ask | refuse | tell | close =>
      exact ⟨waiting, inOrder.kept allowed rfl rfl⟩

theorem inOrder_of_run (serial : kind.serial = true)
    (run : (handoffMachine kind).Run (rules kind) actions handoff) :
    ∃ waiting, handoff.InOrder kind actions waiting := by
  apply run.invariant (fun actions handoff =>
    ∃ waiting, handoff.InOrder kind actions waiting)
  · exact ⟨none, rfl, rfl⟩
  · intro actions handoff action _ before allowed
    obtain ⟨waiting, inOrder⟩ := before
    exact inOrder.step serial allowed

end Handoff
