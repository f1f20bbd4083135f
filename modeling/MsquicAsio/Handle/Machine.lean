/-
The objects `basic_stream_handle` and `basic_connection_handle` over their whole
life: the native handle that the base class keeps, the context that the object
owns, and what msquic has been told about both.

What a handle is used for between its opening and its closing is not in here.
-/
import Mathlib.Logic.Function.Basic
import MsquicAsio.Lib.Machine
import MsquicAsio.Msquic

set_option autoImplicit false

namespace MsquicAsio

/-- Which of the two classes an object is of, and with it which of
`StreamClose` and `ConnectionClose` it calls. -/
inductive HandleKind
  | stream
  | connection
  deriving DecidableEq

/-! ### The base class -/

structure BasicQuicHandle where
  h : Option Hquic
  deriving DecidableEq

namespace BasicQuicHandle

def isOpen (base : BasicQuicHandle) : Bool := base.h.isSome

def assign (base : BasicQuicHandle) (handle : Option Hquic) :
    BasicQuicHandle :=
  { base with h := handle }

def release (base : BasicQuicHandle) : Option Hquic × BasicQuicHandle :=
  (base.h, { base with h := none })

def move (other : BasicQuicHandle) : BasicQuicHandle × BasicQuicHandle :=
  (⟨other.h⟩, other.release.2)

end BasicQuicHandle

/-! ### The two classes -/

/-- `ctx` names the context that the object's `ctx_` points at. -/
structure QuicHandle extends BasicQuicHandle where
  kind : HandleKind
  ctx : Option Nat
  deriving DecidableEq

namespace QuicHandle

/-- Both constructors make a context. -/
def construct (kind : HandleKind) (made : Nat) : QuicHandle where
  h := none
  kind := kind
  ctx := some made

def moveStream (other : QuicHandle) : QuicHandle × QuicHandle :=
  (⟨other.toBasicQuicHandle.move.1, other.kind, other.ctx⟩,
    ⟨other.toBasicQuicHandle.move.2, other.kind, none⟩)

/-- `basic_connection_handle(basic_connection_handle &&)`: the place holder that
stays behind gets a context of its own. -/
def moveConnection (other : QuicHandle) (made : Nat) :
    QuicHandle × QuicHandle :=
  (⟨other.toBasicQuicHandle.move.1, other.kind, other.ctx⟩,
    ⟨other.toBasicQuicHandle.move.2, other.kind, some made⟩)

def move (other : QuicHandle) (made : Nat) : QuicHandle × QuicHandle :=
  match other.kind with
  | .stream => other.moveStream
  | .connection => other.moveConnection made

theorem move_h (other : QuicHandle) (made : Nat) :
    (other.move made).1.h = other.h ∧ (other.move made).2.h = none := by
  unfold move
  split <;> exact ⟨rfl, rfl⟩

theorem move_kind (other : QuicHandle) (made : Nat) :
    (other.move made).1.kind = other.kind ∧
      (other.move made).2.kind = other.kind := by
  unfold move
  split <;> exact ⟨rfl, rfl⟩

theorem move_ctx (other : QuicHandle) (made : Nat) :
    (other.move made).1.ctx = other.ctx ∧
      (other.move made).2.ctx =
        if other.kind = .connection then some made else none := by
  cases other with
  | mk base kind ctx => cases kind <;> exact ⟨rfl, rfl⟩

end QuicHandle

/-! ### All objects, and msquic's side -/

/-- The objects in the order of their construction; a destroyed one leaves its
slot empty. -/
structure HandleWorld where
  objects : List (Option QuicHandle)
  made : Nat
  freed : List Nat
  issued : List (HandleKind × Hquic)
  /-- The calls of `StreamClose` and `ConnectionClose`. -/
  closes : List (HandleKind × Option Hquic)
  /-- The context with which the callback of a native handle runs. -/
  registered : Hquic → Option Nat
  errors : List ErrorCode

inductive HandleAction
  | construct (kind : HandleKind)
  /-- `result` is the handle that `StreamOpen` or `ConnectionOpen` stores, if it
  succeeds. -/
  | open_ (index : Nat) (result : Option Hquic)
  | assign (index : Nat) (handle : Hquic)
  | setCallback (index : Nat)
  | assignSetCallback (index : Nat) (handle : Hquic)
  | moveConstruct (index : Nat)
  | close (index : Nat)
  | destroy (index : Nat)
  deriving DecidableEq

namespace HandleWorld

def initial : HandleWorld where
  objects := []
  made := 0
  freed := []
  issued := []
  closes := []
  registered := fun _ => none
  errors := []

def object? (world : HandleWorld) (index : Nat) : Option QuicHandle :=
  world.objects[index]?.join

def put (world : HandleWorld) (index : Nat) (object : QuicHandle) :
    HandleWorld :=
  { world with objects := world.objects.set index (some object) }

def construct (world : HandleWorld) (kind : HandleKind) : HandleWorld :=
  { world with
    objects := world.objects ++ [some (.construct kind world.made)]
    made := world.made + 1 }

/-- `open`: msquic stores the handle, and registers the callback with the
context that `ctx_.get()` gave it. -/
def open_ (world : HandleWorld) (index : Nat) (object : QuicHandle) :
    Option Hquic → HandleWorld
  | none => { world with errors := world.errors ++ [.basic .networkDown] }
  | some handle =>
      { world.put index { object with h := some handle } with
        issued := world.issued ++ [(object.kind, handle)]
        registered := Function.update world.registered handle object.ctx }

/-- `assign(handle)`, for a handle that came with an event. -/
def assign (world : HandleWorld) (index : Nat) (object : QuicHandle)
    (handle : Hquic) : HandleWorld :=
  { world.put index ⟨object.toBasicQuicHandle.assign handle, object.kind,
      object.ctx⟩ with
    issued := world.issued ++ [(object.kind, handle)] }

/-- `set_callback`, which asserts that the object is open. -/
def setCallback (world : HandleWorld) (object : QuicHandle) : HandleWorld :=
  match object.h with
  | none => world
  | some handle =>
      { world with
        registered := Function.update world.registered handle object.ctx }

def assignSetCallback (world : HandleWorld) (index : Nat) (object : QuicHandle)
    (handle : Hquic) : HandleWorld :=
  (world.assign index object handle).setCallback
    ⟨object.toBasicQuicHandle.assign handle, object.kind, object.ctx⟩

def moveConstruct (world : HandleWorld) (index : Nat) (other : QuicHandle) :
    HandleWorld :=
  { world with
    objects := world.objects.set index (some (other.move world.made).2) ++
      [some (other.move world.made).1]
    made := if other.kind = .connection then world.made + 1 else world.made }

def close (world : HandleWorld) (index : Nat) (object : QuicHandle) :
    HandleWorld :=
  if object.isOpen = true then
    { world.put index { object with h := none } with
      closes := world.closes ++ [(object.kind, object.h)] }
  else world

/-- The destructors: `close()`, and then `ctx_` goes. -/
def destroy (world : HandleWorld) (index : Nat) (object : QuicHandle) :
    HandleWorld :=
  let closed := world.close index object
  { closed with
    objects := closed.objects.set index none
    freed := closed.freed ++ object.ctx.toList }

def step (world : HandleWorld) : HandleAction → HandleWorld
  | .construct kind => world.construct kind
  | .open_ index result =>
      (world.object? index).elim world (world.open_ index · result)
  | .assign index handle =>
      (world.object? index).elim world (world.assign index · handle)
  | .setCallback index => (world.object? index).elim world world.setCallback
  | .assignSetCallback index handle =>
      (world.object? index).elim world (world.assignSetCallback index · handle)
  | .moveConstruct index =>
      (world.object? index).elim world (world.moveConstruct index)
  | .close index => (world.object? index).elim world (world.close index)
  | .destroy index => (world.object? index).elim world (world.destroy index)

def fresh (world : HandleWorld) (handle : Hquic) : Bool :=
  decide (handle ∉ world.issued.map Prod.snd)

/-- `open` and `assign` are called on objects that are not open, `set_callback`
on those that are, and everything on objects that live. -/
def enabled (world : HandleWorld) : HandleAction → Bool
  | .construct _ => true
  | .open_ index result =>
      (world.object? index).any (!·.isOpen) && result.all world.fresh
  | .assign index handle | .assignSetCallback index handle =>
      (world.object? index).any (!·.isOpen) && world.fresh handle
  | .setCallback index => (world.object? index).any (·.isOpen)
  | .moveConstruct index | .close index | .destroy index =>
      (world.object? index).isSome

end HandleWorld

def handleMachine : Machine HandleWorld HandleAction where
  initial := .initial
  step := HandleWorld.step

namespace HandleWorld

variable {world : HandleWorld} {index : Nat} {object : QuicHandle}

theorem object?_eq_some :
    world.object? index = some object ↔
      world.objects[index]? = some (some object) :=
  Option.join_eq_some_iff

inductive Does (world : HandleWorld) : HandleAction → HandleWorld → Prop
  | construct (kind : HandleKind) :
      Does world (.construct kind) (world.construct kind)
  | openFails {index : Nat} {object : QuicHandle}
      (at_ : world.object? index = some object) (closed : object.h = none) :
      Does world (.open_ index none) (world.open_ index object none)
  | opens {index : Nat} {object : QuicHandle} {handle : Hquic}
      (at_ : world.object? index = some object) (closed : object.h = none)
      (fresh : world.fresh handle = true) :
      Does world (.open_ index (some handle))
        (world.open_ index object (some handle))
  | assigns {index : Nat} {object : QuicHandle} {handle : Hquic}
      (at_ : world.object? index = some object) (closed : object.h = none)
      (fresh : world.fresh handle = true) :
      Does world (.assign index handle) (world.assign index object handle)
  | setsCallback {index : Nat} {object : QuicHandle} {handle : Hquic}
      (at_ : world.object? index = some object)
      (holds : object.h = some handle) :
      Does world (.setCallback index) (world.setCallback object)
  | assignsSetsCallback {index : Nat} {object : QuicHandle} {handle : Hquic}
      (at_ : world.object? index = some object) (closed : object.h = none)
      (fresh : world.fresh handle = true) :
      Does world (.assignSetCallback index handle)
        (world.assignSetCallback index object handle)
  | moves {index : Nat} {object : QuicHandle}
      (at_ : world.object? index = some object) :
      Does world (.moveConstruct index) (world.moveConstruct index object)
  | closes {index : Nat} {object : QuicHandle}
      (at_ : world.object? index = some object) :
      Does world (.close index) (world.close index object)
  | destroys {index : Nat} {object : QuicHandle}
      (at_ : world.object? index = some object) :
      Does world (.destroy index) (world.destroy index object)

private theorem closed_of_any
    (found : (world.object? index).any (!·.isOpen) = true) :
    ∃ object, world.object? index = some object ∧ object.h = none := by
  obtain ⟨object, at_, closed⟩ := (Option.any_eq_true _ _).mp found
  refine ⟨object, at_, ?_⟩
  simpa only [BasicQuicHandle.isOpen, Bool.not_eq_true', Option.isSome_eq_false_iff,
    Option.isNone_iff_eq_none] using closed

theorem does_of_enabled {action : HandleAction}
    (allowed : world.enabled action = true) :
    world.Does action (world.step action) := by
  cases action with
  | construct kind => exact .construct kind
  | open_ index result =>
      obtain ⟨found, fresh⟩ := Bool.and_eq_true_iff.mp allowed
      obtain ⟨object, at_, closed⟩ := closed_of_any found
      simp only [step, at_, Option.elim_some]
      cases result with
      | none => exact .openFails at_ closed
      | some handle => exact .opens at_ closed fresh
  | assign index handle =>
      obtain ⟨found, fresh⟩ := Bool.and_eq_true_iff.mp allowed
      obtain ⟨object, at_, closed⟩ := closed_of_any found
      simp only [step, at_, Option.elim_some]
      exact .assigns at_ closed fresh
  | setCallback index =>
      obtain ⟨object, at_, isOpen⟩ := (Option.any_eq_true _ _).mp allowed
      obtain ⟨handle, holds⟩ := Option.isSome_iff_exists.mp isOpen
      simp only [step, at_, Option.elim_some]
      exact .setsCallback at_ holds
  | assignSetCallback index handle =>
      obtain ⟨found, fresh⟩ := Bool.and_eq_true_iff.mp allowed
      obtain ⟨object, at_, closed⟩ := closed_of_any found
      simp only [step, at_, Option.elim_some]
      exact .assignsSetsCallback at_ closed fresh
  | moveConstruct index =>
      obtain ⟨object, at_⟩ := Option.isSome_iff_exists.mp allowed
      simp only [step, at_, Option.elim_some]
      exact .moves at_
  | close index =>
      obtain ⟨object, at_⟩ := Option.isSome_iff_exists.mp allowed
      simp only [step, at_, Option.elim_some]
      exact .closes at_
  | destroy index =>
      obtain ⟨object, at_⟩ := Option.isSome_iff_exists.mp allowed
      simp only [step, at_, Option.elim_some]
      exact .destroys at_

end HandleWorld

end MsquicAsio
