/-
Who owns a native handle, and who closes it.

Two accounts are kept of all objects: one of the native handles, each of which
its holder owes one call of the close function of its type, and one of the
contexts.
-/
import MsquicAsio.Handle.Machine
import MsquicAsio.Lib.Ledger

set_option autoImplicit false

namespace MsquicAsio

def closeOf (native : HandleKind × Hquic) : HandleKind × Option Hquic :=
  (native.1, some native.2)

namespace QuicHandle

/-- The call that the object of a slot has to make before it is gone. -/
def owes (slot : Option QuicHandle) : Option (HandleKind × Option Hquic) :=
  slot.bind fun object => object.h.map fun handle =>
    closeOf (object.kind, handle)

def owns (slot : Option QuicHandle) : Option Nat :=
  slot.bind QuicHandle.ctx

theorem owes_eq_some {object : QuicHandle} {handle : Hquic}
    (holds : object.h = some handle) :
    owes (some object) = some (closeOf (object.kind, handle)) := by
  simp only [owes, Option.bind_some, holds, Option.map_some]

private theorem owes_eq_none {object : QuicHandle} (holds : object.h = none) :
    owes (some object) = none := by
  simp only [owes, Option.bind_some, holds, Option.map_none]

end QuicHandle

namespace HandleWorld

open QuicHandle (owes owns)

/-- Each native handle is held by one object or closed, and so is each
context. -/
structure Accounted (world : HandleWorld) : Prop where
  handles : Ledger owes world.objects world.closes (world.issued.map closeOf)
  distinct : (world.issued.map Prod.snd).Nodup
  contexts : Ledger owns world.objects world.freed (List.range world.made)

variable {world : HandleWorld} {index : Nat} {object : QuicHandle}

private theorem closeOf_nodup {issued : List (HandleKind × Hquic)}
    (distinct : (issued.map Prod.snd).Nodup) : (issued.map closeOf).Nodup := by
  have natives : issued.Nodup := distinct.of_map
  refine natives.map ?_
  intro left right same
  cases left
  cases right
  cases same
  rfl

theorem accounted_initial : (initial).Accounted where
  handles := Ledger.empty
  distinct := List.nodup_nil
  contexts := Ledger.empty

private theorem range_concat_nodup (made : Nat) :
    (List.range made ++ [made]).Nodup := by
  rw [← List.range_succ]
  exact List.nodup_range

namespace Accounted

private theorem construct (accounted : world.Accounted) (kind : HandleKind) :
    (world.construct kind).Accounted where
  handles := accounted.handles.concat_empty rfl
  distinct := accounted.distinct
  contexts := by
    simp only [HandleWorld.construct, List.range_succ]
    exact accounted.contexts.concat_fresh rfl (range_concat_nodup world.made)

private theorem take (accounted : world.Accounted)
    (at_ : world.object? index = some object) (closed : object.h = none)
    {handle : Hquic} (fresh : world.fresh handle = true)
    (registered : Hquic → Option Nat) :
    { world.put index { object with h := some handle } with
      issued := world.issued ++ [(object.kind, handle)]
      registered := registered }.Accounted := by
  have inTable := object?_eq_some.mp at_
  have distinct : ((world.issued ++ [(object.kind, handle)]).map
      Prod.snd).Nodup := by
    rw [List.map_append, List.map_singleton]
    refine accounted.distinct.append (List.nodup_singleton _) ?_
    intro native before new
    obtain rfl := List.mem_singleton.mp new
    exact of_decide_eq_true fresh before
  have calls := closeOf_nodup distinct
  rw [List.map_append, List.map_singleton] at calls
  exact
    { handles := by
        rw [List.map_append, List.map_singleton]
        exact accounted.handles.take inTable (QuicHandle.owes_eq_none closed)
          (QuicHandle.owes_eq_some rfl) calls
      distinct := distinct
      contexts := accounted.contexts.keep inTable rfl }

private theorem setCallback (accounted : world.Accounted)
    (object : QuicHandle) :
    (world.setCallback object).Accounted := by
  unfold HandleWorld.setCallback
  split
  · exact accounted
  · exact
      { handles := accounted.handles
        distinct := accounted.distinct
        contexts := accounted.contexts }

private theorem moveConstruct (accounted : world.Accounted)
    (at_ : world.object? index = some object) :
    (world.moveConstruct index object).Accounted := by
  have inTable := object?_eq_some.mp at_
  obtain ⟨newHandle, oldHandle⟩ := object.move_h world.made
  obtain ⟨newKind, _⟩ := object.move_kind world.made
  obtain ⟨newCtx, oldCtx⟩ := object.move_ctx world.made
  refine
    { handles := ?_
      distinct := accounted.distinct
      contexts := ?_ }
  · apply accounted.handles.move inTable (QuicHandle.owes_eq_none oldHandle)
    simp only [owes, Option.bind_some, newHandle, newKind]
  · simp only [HandleWorld.moveConstruct]
    by_cases connection : object.kind = .connection
    · rw [if_pos connection, List.range_succ]
      rw [if_pos connection] at oldCtx
      exact accounted.contexts.move_fresh inTable oldCtx newCtx
        (range_concat_nodup world.made)
    · rw [if_neg connection]
      rw [if_neg connection] at oldCtx
      exact accounted.contexts.move inTable oldCtx newCtx

private theorem close (accounted : world.Accounted)
    (at_ : world.object? index = some object) :
    (world.close index object).Accounted := by
  have inTable := object?_eq_some.mp at_
  cases holds : object.h with
  | none =>
      simp only [HandleWorld.close, BasicQuicHandle.isOpen, holds,
        Option.isSome_none, Bool.false_eq_true, if_false]
      exact accounted
  | some handle =>
      simp only [HandleWorld.close, BasicQuicHandle.isOpen, holds,
        Option.isSome_some, if_true]
      exact
        { handles := by
            have owed := QuicHandle.owes_eq_some holds
            have account := accounted.handles.drop inTable
              (QuicHandle.owes_eq_none rfl :
                owes (some { object with h := none }) = none)
            rwa [owed] at account
          distinct := accounted.distinct
          contexts := accounted.contexts.keep inTable rfl }

end Accounted

theorem close_object? (at_ : world.object? index = some object) :
    (world.close index object).object? index =
      some { object with h := none } := by
  have inTable := object?_eq_some.mp at_
  unfold close
  split
  · have inside := (List.getElem?_eq_some_iff.mp inTable).1
    exact object?_eq_some.mpr (List.getElem?_set_self inside)
  · have closed : object.h = none := by
      simpa only [BasicQuicHandle.isOpen, Option.isSome_iff_ne_none,
        not_not] using ‹¬object.isOpen = true›
    rw [at_]
    cases object with
    | mk base kind ctx =>
        cases base
        cases closed
        rfl

namespace Accounted

private theorem destroy (accounted : world.Accounted)
    (at_ : world.object? index = some object) :
    (world.destroy index object).Accounted := by
  have closed := accounted.close at_
  have inTable := object?_eq_some.mp (close_object? at_)
  exact
    { handles := closed.handles.keep inTable rfl
      distinct := closed.distinct
      contexts := closed.contexts.drop inTable rfl }

theorem does (accounted : world.Accounted) {action : HandleAction}
    {after : HandleWorld} (does : world.Does action after) :
    after.Accounted := by
  cases does with
  | construct kind => exact accounted.construct kind
  | openFails =>
      exact
        { handles := accounted.handles
          distinct := accounted.distinct
          contexts := accounted.contexts }
  | opens at_ closed fresh => exact accounted.take at_ closed fresh _
  | assigns at_ closed fresh => exact accounted.take at_ closed fresh _
  | setsCallback at_ holds => exact accounted.setCallback _
  | assignsSetsCallback at_ closed fresh =>
      exact (accounted.take at_ closed fresh _).setCallback _
  | moves at_ => exact accounted.moveConstruct at_
  | closes at_ => exact accounted.close at_
  | destroys at_ => exact accounted.destroy at_

end Accounted

/-! ### Native handles in every state of a run -/

/-- A native handle is held by one object at most, is closed with the function
of its own type and at most once, and has been closed when no object is left. -/
structure Owned (world : HandleWorld) : Prop where
  oneHolder : ∀ (left right : Nat) (one other : QuicHandle) (handle : Hquic),
    world.object? left = some one → world.object? right = some other →
      one.h = some handle → other.h = some handle → left = right
  ownClose : ∀ call ∈ world.closes, ∃ native ∈ world.issued,
    call = closeOf native
  closedOnce : (world.closes.map Prod.snd).Nodup
  allClosed : (∀ index, world.object? index = none) →
    ∀ native ∈ world.issued,
      world.closes.filter (fun call => decide (call.2 = some native.2)) =
        [closeOf native]

namespace Accounted

variable {kind other : HandleKind} {handle : Hquic}

private theorem kind_unique (accounted : world.Accounted)
    (owed : closeOf (kind, handle) ∈ world.issued.map closeOf)
    (owedToo : closeOf (other, handle) ∈ world.issued.map closeOf) :
    kind = other := by
  obtain ⟨native, inIssued, same⟩ := List.mem_map.mp owed
  obtain ⟨native', inIssued', same'⟩ := List.mem_map.mp owedToo
  cases native
  cases native'
  cases same
  cases same'
  exact congrArg Prod.fst
    (List.inj_on_of_nodup_map accounted.distinct inIssued inIssued' rfl)

theorem oneHolder (accounted : world.Accounted) {left right : Nat}
    {one another : QuicHandle} (leftAt : world.object? left = some one)
    (rightAt : world.object? right = some another)
    (oneHolds : one.h = some handle) (anotherHolds : another.h = some handle) :
    left = right := by
  have leftTable := object?_eq_some.mp leftAt
  have rightTable := object?_eq_some.mp rightAt
  have oneOwes := QuicHandle.owes_eq_some oneHolds
  have anotherOwes := QuicHandle.owes_eq_some anotherHolds
  have sameKind : one.kind = another.kind := accounted.kind_unique
    (accounted.handles.issued_of_held leftTable oneOwes)
    (accounted.handles.issued_of_held rightTable anotherOwes)
  rw [← sameKind] at anotherOwes
  exact accounted.handles.holder_unique leftTable oneOwes rightTable anotherOwes

private theorem ownClose (accounted : world.Accounted)
    {call : HandleKind × Option Hquic} (called : call ∈ world.closes) :
    ∃ native ∈ world.issued, call = closeOf native := by
  obtain ⟨native, inIssued, same⟩ :=
    List.mem_map.mp (accounted.handles.issued_of_disposed called)
  exact ⟨native, inIssued, same.symm⟩

private theorem close_unique (accounted : world.Accounted)
    {call again : HandleKind × Option Hquic} (called : call ∈ world.closes)
    (calledAgain : again ∈ world.closes) (same : call.2 = again.2) :
    call = again := by
  obtain ⟨native, inIssued, rfl⟩ := accounted.ownClose called
  obtain ⟨native', inIssued', rfl⟩ := accounted.ownClose calledAgain
  exact congrArg closeOf (List.inj_on_of_nodup_map accounted.distinct inIssued
    inIssued' (Option.some.inj same))

private theorem allClosed (accounted : world.Accounted)
    (gone : ∀ index, world.object? index = none)
    {native : HandleKind × Hquic} (issued : native ∈ world.issued) :
    world.closes.filter (fun call => decide (call.2 = some native.2)) =
      [closeOf native] := by
  have empty : ∀ slot ∈ world.objects, owes slot = none := by
    intro slot member
    obtain ⟨index, at_⟩ := List.getElem?_of_mem member
    cases slot with
    | none => rfl
    | some object =>
        have found := object?_eq_some.mpr at_
        rw [gone index] at found
        cases found
  have called : closeOf native ∈ world.closes :=
    (accounted.handles.disposed_perm_issued empty).mem_iff.mpr
      (List.mem_map_of_mem issued)
  have exactly : ∀ call ∈ world.closes,
      decide (call.2 = some native.2) = decide (call = closeOf native) := by
    intro call inCloses
    by_cases same : call = closeOf native
    · rw [same]
      exact (decide_eq_true rfl).trans (decide_eq_true rfl).symm
    · have differs : ¬call.2 = some native.2 := fun argument =>
        same (accounted.close_unique inCloses called argument)
      rw [decide_eq_false same, decide_eq_false differs]
  rw [List.filter_congr exactly, List.filter_eq,
    List.count_eq_one_of_mem accounted.handles.disposed_nodup called]
  rfl

private theorem owned (accounted : world.Accounted) : world.Owned where
  oneHolder := by
    intro left right one other handle leftAt rightAt holds otherHolds
    exact accounted.oneHolder leftAt rightAt holds otherHolds
  ownClose := by
    intro call called
    exact accounted.ownClose called
  closedOnce := by
    apply List.Nodup.map_on _ accounted.handles.disposed_nodup
    intro call called again calledAgain same
    exact accounted.close_unique called calledAgain same
  allClosed := by
    intro gone native issued
    exact accounted.allClosed gone issued

end Accounted

def objectUse : Environment HandleWorld HandleAction :=
  fun _ world action => world.enabled action = true

instance (actions : List HandleAction) (world : HandleWorld)
    (action : HandleAction) : Decidable (objectUse actions world action) :=
  inferInstanceAs (Decidable (world.enabled action = true))

theorem accounted_of_run {actions : List HandleAction}
    (run : handleMachine.Run objectUse actions world) : world.Accounted := by
  apply run.invariant (fun _ world => world.Accounted) accounted_initial
  intro actions world action _ accounted allowed
  exact accounted.does (does_of_enabled allowed)

/-- However objects are opened, moved, closed and destroyed, each native handle
has one holder at most and is closed once, with its own function. -/
theorem owned_of_run {actions : List HandleAction}
    (run : handleMachine.Run objectUse actions world) : world.Owned :=
  (accounted_of_run run).owned

/-- A stream and a connection, both moved twice, one closed twice, and all
destroyed. -/
def moveCloseDestroy : List HandleAction :=
  [.construct .stream, .construct .connection, .open_ 0 none, .open_ 0 (some 5),
    .assign 1 6, .setCallback 1, .moveConstruct 0, .moveConstruct 0,
    .moveConstruct 1, .open_ 1 (some 7), .close 2, .close 2, .destroy 0,
    .destroy 1, .destroy 2, .destroy 3, .destroy 4]

theorem owned_of_run_moveCloseDestroy :
    (handleMachine.exec moveCloseDestroy).Owned ∧
      (handleMachine.exec moveCloseDestroy).closes =
        [(.stream, some 5), (.connection, some 7), (.connection, some 6)] :=
  ⟨owned_of_run (Machine.run_of_checks moveCloseDestroy (by decide)),
    by decide⟩

end HandleWorld

end MsquicAsio
