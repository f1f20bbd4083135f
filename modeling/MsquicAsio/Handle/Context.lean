/-
The context with which msquic calls back.

A handle and its context move by two mechanisms: the base class releases the
handle, and `ctx_` is moved as a pointer.  A connection that was moved from
gets a new context, a stream does not; a stream opened again after that is
registered with a null context.
-/
import MsquicAsio.Handle.Ownership

set_option autoImplicit false

namespace MsquicAsio

namespace HandleWorld

variable {world : HandleWorld}

/-- The callback of every open native handle runs with the context of the
object that holds the handle, of that object alone, and the context is
alive. -/
structure Coherent (world : HandleWorld) : Prop where
  registered : ∀ native ∈ world.issued, closeOf native ∉ world.closes →
    ∃ (ctx index : Nat) (object : QuicHandle),
      world.registered native.2 = some ctx ∧
      world.object? index = some object ∧
      object.h = some native.2 ∧ object.ctx = some ctx ∧
      ∀ (other : Nat) (owner : QuicHandle), world.object? other = some owner →
        owner.ctx = some ctx → other = index
  alive : ∀ native ∈ world.issued, closeOf native ∉ world.closes →
    ∀ ctx, world.registered native.2 = some ctx → ctx ∉ world.freed

def Registered (world : HandleWorld) : Prop :=
  ∀ (index : Nat) (object : QuicHandle) (handle : Hquic),
    world.object? index = some object → object.h = some handle →
      world.registered handle = object.ctx ∧ object.ctx ≠ none

private theorem Accounted.holder (accounted : world.Accounted)
    {native : HandleKind × Hquic} (issued : native ∈ world.issued)
    (isOpen : closeOf native ∉ world.closes) :
    ∃ index object, world.object? index = some object ∧
      object.h = some native.2 := by
  obtain ⟨index, slot, at_, owes⟩ := accounted.handles.held_of_issued
    (List.mem_map_of_mem issued) isOpen
  cases slot with
  | none => cases owes
  | some object =>
      refine ⟨index, object, object?_eq_some.mpr at_, ?_⟩
      obtain ⟨handle, holds, same⟩ := Option.map_eq_some_iff.mp owes
      rw [holds]
      exact congrArg Prod.snd same

private theorem Accounted.coherent_iff (accounted : world.Accounted) :
    world.Coherent ↔ world.Registered := by
  constructor
  · intro coherent index object handle at_ holds
    have owed := QuicHandle.owes_eq_some holds
    have inTable := object?_eq_some.mp at_
    obtain ⟨native, issued, same⟩ :=
      List.mem_map.mp (accounted.handles.issued_of_held inTable owed)
    have isOpen : closeOf native ∉ world.closes := by
      rw [same]
      exact accounted.handles.not_disposed_of_held inTable owed
    have sameHandle : native.2 = handle := Option.some.inj (congrArg Prod.snd same)
    obtain ⟨ctx, holder, found, registered, foundAt, found_h, found_ctx, _⟩ :=
      coherent.registered native issued isOpen
    rw [sameHandle] at registered found_h
    obtain rfl := accounted.oneHolder at_ foundAt holds found_h
    obtain rfl := Option.some.inj (at_.symm.trans foundAt)
    rw [registered, found_ctx]
    exact ⟨rfl, Option.some_ne_none ctx⟩
  · intro registered
    have whose : ∀ native ∈ world.issued, closeOf native ∉ world.closes →
        ∃ (ctx index : Nat) (object : QuicHandle),
          world.registered native.2 = some ctx ∧
          world.object? index = some object ∧
          object.h = some native.2 ∧ object.ctx = some ctx := by
      intro native issued isOpen
      obtain ⟨index, object, at_, holds⟩ := accounted.holder issued isOpen
      obtain ⟨same, given⟩ := registered index object native.2 at_ holds
      obtain ⟨ctx, owns⟩ := Option.ne_none_iff_exists'.mp given
      exact ⟨ctx, index, object, same.trans owns, at_, holds, owns⟩
    refine
      { registered := ?_
        alive := ?_ }
    · intro native issued isOpen
      obtain ⟨ctx, index, object, same, at_, holds, owns⟩ :=
        whose native issued isOpen
      refine ⟨ctx, index, object, same, at_, holds, owns, ?_⟩
      intro other owner otherAt otherOwns
      exact accounted.contexts.holder_unique (object?_eq_some.mp otherAt)
        otherOwns (object?_eq_some.mp at_) owns
    · intro native issued isOpen ctx isRegistered
      obtain ⟨own, index, object, same, at_, _, owns⟩ :=
        whose native issued isOpen
      obtain rfl := Option.some.inj (isRegistered.symm.trans same)
      exact accounted.contexts.not_disposed_of_held (object?_eq_some.mp at_)
        owns

/-! ### What the operations leave in the slots -/

variable {index : Nat} {object : QuicHandle}

private theorem put_object? (at_ : world.object? index = some object)
    (after : QuicHandle) (other : Nat) :
    (world.put index after).object? other =
      if index = other then some after else world.object? other := by
  have inside := (List.getElem?_eq_some_iff.mp (object?_eq_some.mp at_)).1
  simp only [object?, put, List.getElem?_set]
  by_cases same : index = other
  · subst same
    simp only [if_true, inside, Option.join_some]
  · simp only [if_neg same]

private theorem concat_object? {objects : List (Option QuicHandle)}
    {new found : QuicHandle} {other : Nat}
    (at_ : (objects ++ [some new])[other]?.join = some found) :
    objects[other]?.join = some found ∨
      other = objects.length ∧ found = new := by
  have inTable := Option.join_eq_some_iff.mp at_
  rw [List.getElem?_append] at inTable
  split at inTable
  · exact Or.inl (Option.join_eq_some_iff.mpr inTable)
  · have beyond : other - objects.length = 0 := by
      have inside := (List.getElem?_eq_some_iff.mp inTable).1
      rw [List.length_singleton] at inside
      omega
    rw [beyond] at inTable
    cases inTable
    exact Or.inr ⟨by omega, rfl⟩

private theorem construct_object? {kind : HandleKind} {found : QuicHandle}
    {other : Nat}
    (at_ : (world.construct kind).object? other = some found) :
    world.object? other = some found ∨
      other = world.objects.length ∧ found = .construct kind world.made :=
  concat_object? at_

private theorem moveConstruct_object? (at_ : world.object? index = some object)
    {found : QuicHandle} {other : Nat}
    (foundAt : (world.moveConstruct index object).object? other = some found) :
    index ≠ other ∧ world.object? other = some found ∨
      index = other ∧ found = (object.move world.made).2 ∨
      other = world.objects.length ∧ found = (object.move world.made).1 := by
  rcases concat_object? foundAt with old | new
  · have slot := (put_object? at_ (object.move world.made).2 other).symm.trans old
    by_cases same : index = other
    · rw [if_pos same] at slot
      exact Or.inr (Or.inl ⟨same, (Option.some.inj slot).symm⟩)
    · rw [if_neg same] at slot
      exact Or.inl ⟨same, slot⟩
  · rw [List.length_set] at new
    exact Or.inr (Or.inr new)

private theorem close_object?_iff (at_ : world.object? index = some object)
    (other : Nat) :
    (world.close index object).object? other =
      if index = other then some { object with h := none }
      else world.object? other := by
  by_cases same : index = other
  · subst same
    rw [if_pos rfl]
    exact close_object? at_
  · rw [if_neg same]
    unfold close
    split
    · have slot := put_object? at_ { object with h := none } other
      rwa [if_neg same] at slot
    · rfl

private theorem destroy_object? (at_ : world.object? index = some object)
    (other : Nat) :
    (world.destroy index object).object? other =
      if index = other then none else world.object? other := by
  have closedAt := object?_eq_some.mp (close_object? at_)
  have inside := (List.getElem?_eq_some_iff.mp closedAt).1
  simp only [destroy, object?, List.getElem?_set]
  by_cases same : index = other
  · subst same
    simp only [if_true, inside, Option.join_some]
  · rw [if_neg same, if_neg same]
    have slot := close_object?_iff at_ other
    rwa [if_neg same] at slot

private theorem length_close (world : HandleWorld) (index : Nat)
    (object : QuicHandle) :
    (world.close index object).objects.length = world.objects.length := by
  unfold close
  split
  · exact List.length_set
  · rfl

/-! ### One operation -/

private theorem Registered.kept (registered : world.Registered)
    {after : HandleWorld}
    (same : after.registered = world.registered)
    (earlier : ∀ (other : Nat) (found : QuicHandle) (handle : Hquic),
      after.object? other = some found → found.h = some handle →
        ∃ (index : Nat) (before : QuicHandle),
          world.object? index = some before ∧ before.h = some handle ∧
            before.ctx = found.ctx) : after.Registered := by
  intro other found handle foundAt holds
  obtain ⟨index, before, at_, held, sameCtx⟩ :=
    earlier other found handle foundAt holds
  rw [same, ← sameCtx]
  exact registered index before handle at_ held

private theorem Registered.take_iff (registered : world.Registered)
    (accounted : world.Accounted) (at_ : world.object? index = some object)
    {handle : Hquic} (fresh : world.fresh handle = true) :
    { world.put index { object with h := some handle } with
      issued := world.issued ++ [(object.kind, handle)]
      registered := Function.update world.registered handle object.ctx
        }.Registered ↔ object.ctx ≠ none := by
  have slots := put_object? at_ { object with h := some handle }
  constructor
  · intro after
    have own := slots index
    rw [if_pos rfl] at own
    exact (after index _ handle own rfl).2
  · intro given other found held foundAt holds
    have slot := (slots other).symm.trans foundAt
    by_cases same : index = other
    · rw [if_pos same] at slot
      cases slot
      cases holds
      exact ⟨Function.update_self handle object.ctx world.registered, given⟩
    · rw [if_neg same] at slot
      have issued : held ∈ world.issued.map Prod.snd := by
        obtain ⟨native, inIssued, sameCall⟩ := List.mem_map.mp
          (accounted.handles.issued_of_held (object?_eq_some.mp slot)
            (QuicHandle.owes_eq_some holds))
        have sameHandle := Option.some.inj (congrArg Prod.snd sameCall)
        exact List.mem_map.mpr ⟨native, inIssued, sameHandle⟩
      have differs : held ≠ handle := by
        intro equal
        rw [equal] at issued
        exact of_decide_eq_true fresh issued
      obtain ⟨before, kept⟩ := registered other found held slot holds
      refine ⟨?_, kept⟩
      exact (Function.update_of_ne differs object.ctx world.registered).trans
        before

private theorem Registered.construct (registered : world.Registered)
    (kind : HandleKind) : (world.construct kind).Registered := by
  refine registered.kept rfl ?_
  intro other found handle foundAt holds
  rcases construct_object? foundAt with old | new
  · exact ⟨other, found, old, holds, rfl⟩
  · obtain ⟨_, rfl⟩ := new
    cases holds

private theorem Registered.setCallback (registered : world.Registered)
    (at_ : world.object? index = some object) {handle : Hquic}
    (holds : object.h = some handle) :
    (world.setCallback object).Registered := by
  have same := (registered index object handle at_ holds).1
  have unchanged : world.setCallback object = world := by
    simp only [HandleWorld.setCallback, holds, ← same,
      Function.update_eq_self]
  rw [unchanged]
  exact registered

private theorem Registered.moveConstruct (registered : world.Registered)
    (at_ : world.object? index = some object) :
    (world.moveConstruct index object).Registered := by
  refine registered.kept rfl ?_
  intro other found handle foundAt holds
  rcases moveConstruct_object? at_ foundAt with old | left | new
  · exact ⟨other, found, old.2, holds, rfl⟩
  · obtain ⟨_, rfl⟩ := left
    rw [(object.move_h world.made).2] at holds
    cases holds
  · obtain ⟨_, rfl⟩ := new
    rw [(object.move_h world.made).1] at holds
    exact ⟨index, object, at_, holds, (object.move_ctx world.made).1.symm⟩

private theorem Registered.close (registered : world.Registered)
    (at_ : world.object? index = some object) :
    (world.close index object).Registered := by
  refine registered.kept ?_ ?_
  · unfold HandleWorld.close
    split <;> rfl
  · intro other found handle foundAt holds
    rw [close_object?_iff at_ other] at foundAt
    split at foundAt
    · cases foundAt
      cases holds
    · exact ⟨other, found, foundAt, holds, rfl⟩

private theorem Registered.destroy (registered : world.Registered)
    (at_ : world.object? index = some object) :
    (world.destroy index object).Registered := by
  refine (registered.close at_).kept rfl ?_
  intro other found handle foundAt holds
  refine ⟨other, found, ?_, holds, rfl⟩
  rw [destroy_object? at_ other] at foundAt
  split at foundAt
  · cases foundAt
  · rename_i differs
    rw [close_object?_iff at_ other, if_neg differs]
    exact foundAt

/-! ### Which objects a move has emptied -/

/-- A move took from the object, or the object was built by a move from such a
one. -/
inductive MovedFrom : List HandleAction → Nat → Prop
  | source {actions : List HandleAction} (index : Nat) :
      MovedFrom (actions ++ [.moveConstruct index]) index
  | built {actions : List HandleAction} {index : Nat}
      (source : MovedFrom actions index) :
      MovedFrom (actions ++ [.moveConstruct index])
        (handleMachine.exec actions).objects.length
  | later {actions : List HandleAction} {index : Nat} (action : HandleAction)
      (before : MovedFrom actions index) :
      MovedFrom (actions ++ [action]) index

variable {actions : List HandleAction} {action : HandleAction}

private theorem movedFrom_concat_iff :
    MovedFrom (actions ++ [action]) index ↔
      MovedFrom actions index ∨ action = .moveConstruct index ∨
        ∃ other, action = .moveConstruct other ∧ MovedFrom actions other ∧
          index = (handleMachine.exec actions).objects.length := by
  constructor
  · intro moved
    generalize whole : actions ++ [action] = all at moved
    cases moved with
    | source =>
        obtain ⟨_, last⟩ := List.append_inj' whole rfl
        exact Or.inr (Or.inl (List.singleton_inj.mp last))
    | @built earlier other source =>
        obtain ⟨rfl, last⟩ := List.append_inj' whole rfl
        exact Or.inr (Or.inr ⟨other, List.singleton_inj.mp last, source, rfl⟩)
    | later other before =>
        obtain ⟨rfl, _⟩ := List.append_inj' whole rfl
        exact Or.inl before
  · intro either
    rcases either with before | same | ⟨other, same, source, atEnd⟩
    · exact .later action before
    · rw [same]
      exact .source index
    · rw [same, atEnd]
      exact .built source

/-- The objects without a context are the streams that a move emptied. -/
structure Emptied (actions : List HandleAction) (world : HandleWorld) :
    Prop where
  inside : ∀ index, MovedFrom actions index → index < world.objects.length
  streams : ∀ (index : Nat) (object : QuicHandle),
    world.object? index = some object →
      (object.ctx = none ↔
        object.kind = .stream ∧ MovedFrom actions index)

private theorem emptied_initial : Emptied [] initial where
  inside := by
    intro index moved
    generalize whole : ([] : List HandleAction) = all at moved
    cases moved <;> exact absurd whole (by simp)
  streams := by
    intro index object impossible
    cases impossible

private theorem Emptied.kept (emptied : Emptied actions world)
    {after : HandleWorld}
    (noMove : ∀ index, action ≠ .moveConstruct index)
    (grows : world.objects.length ≤ after.objects.length)
    (earlier : ∀ (other : Nat) (found : QuicHandle),
      after.object? other = some found →
        (∃ before : QuicHandle, world.object? other = some before ∧
          before.ctx = found.ctx ∧ before.kind = found.kind) ∨
        world.objects.length ≤ other ∧ found.ctx ≠ none) :
    Emptied (actions ++ [action]) after := by
  have same : ∀ index, MovedFrom (actions ++ [action]) index ↔
      MovedFrom actions index := by
    intro index
    rw [movedFrom_concat_iff]
    constructor
    · intro either
      rcases either with before | now | ⟨other, now, _⟩
      · exact before
      · exact absurd now (noMove index)
      · exact absurd now (noMove other)
    · exact Or.inl
  refine
    { inside := ?_
      streams := ?_ }
  · intro index moved
    exact (emptied.inside index ((same index).mp moved)).trans_le grows
  · intro other found foundAt
    rw [same]
    rcases earlier other found foundAt with old | new
    · obtain ⟨before, at_, sameCtx, sameKind⟩ := old
      rw [← sameCtx, ← sameKind]
      exact emptied.streams other before at_
    · refine ⟨fun none => absurd none new.2, ?_⟩
      intro moved
      have inside := emptied.inside other moved.2
      omega

private theorem Emptied.moveConstruct
    (emptied : Emptied actions world)
    (reached : world = handleMachine.exec actions)
    (at_ : world.object? index = some object) :
    Emptied (actions ++ [.moveConstruct index])
      (world.moveConstruct index object) := by
  have inTable := (List.getElem?_eq_some_iff.mp (object?_eq_some.mp at_)).1
  have grows : (world.moveConstruct index object).objects.length =
      world.objects.length + 1 := by
    simp only [HandleWorld.moveConstruct, List.length_append, List.length_set,
      List.length_singleton]
  -- the source was moved from now, and the new object if the source was before
  have moved_iff : ∀ other, MovedFrom (actions ++ [.moveConstruct index]) other ↔
      MovedFrom actions other ∨ other = index ∨
        MovedFrom actions index ∧ other = world.objects.length := by
    intro other
    rw [movedFrom_concat_iff, ← reached]
    constructor
    · intro either
      rcases either with before | same | ⟨source, same, moved, atEnd⟩
      · exact Or.inl before
      · cases same
        exact Or.inr (Or.inl rfl)
      · cases same
        exact Or.inr (Or.inr ⟨moved, atEnd⟩)
    · intro either
      rcases either with before | same | ⟨moved, atEnd⟩
      · exact Or.inl before
      · rw [same]
        exact Or.inr (Or.inl rfl)
      · exact Or.inr (Or.inr ⟨index, rfl, moved, atEnd⟩)
  obtain ⟨newKind, leftKind⟩ := object.move_kind world.made
  obtain ⟨newCtx, leftCtx⟩ := object.move_ctx world.made
  refine
    { inside := ?_
      streams := ?_ }
  · intro other moved
    rw [grows]
    rcases (moved_iff other).mp moved with before | same | ⟨_, atEnd⟩
    · have inside := emptied.inside other before
      omega
    · omega
    · omega
  -- an object is an old one, the source, or the new one
  · intro other found foundAt
    rw [moved_iff]
    rcases moveConstruct_object? at_ foundAt with old | left | new
    · have inside := (List.getElem?_eq_some_iff.mp (object?_eq_some.mp old.2)).1
      rw [emptied.streams other found old.2]
      refine and_congr_right (fun _ => ⟨Or.inl, ?_⟩)
      intro either
      rcases either with before | same | ⟨_, atEnd⟩
      · exact before
      · exact absurd same.symm old.1
      · omega
    · obtain ⟨rfl, rfl⟩ := left
      rw [leftCtx, leftKind]
      cases object.kind with
      | stream =>
          simp only [reduceCtorEq, if_false, true_and, true_or, or_true]
      | connection =>
          simp only [if_true, reduceCtorEq, false_and]
    · obtain ⟨rfl, rfl⟩ := new
      rw [newCtx, newKind, emptied.streams index object at_]
      refine and_congr_right (fun _ => ⟨fun moved => Or.inr (Or.inr ⟨moved, rfl⟩), ?_⟩)
      intro either
      rcases either with before | same | ⟨moved, _⟩
      · exact absurd (emptied.inside _ before) (Nat.lt_irrefl _)
      · omega
      · exact moved

private theorem Emptied.put (emptied : Emptied actions world)
    (noMove : ∀ index, action ≠ .moveConstruct index)
    (at_ : world.object? index = some object) {handle : Option Hquic}
    {after : HandleWorld}
    (same : after.objects =
      (world.put index ⟨⟨handle⟩, object.kind, object.ctx⟩).objects) :
    Emptied (actions ++ [action]) after := by
  apply emptied.kept noMove
  · rw [same, HandleWorld.put, List.length_set]
  · intro other found foundAt
    have slot := put_object? at_ ⟨⟨handle⟩, object.kind, object.ctx⟩ other
    rw [object?, ← same] at slot
    have found_ := slot.symm.trans foundAt
    by_cases here : index = other
    · rw [if_pos here] at found_
      cases found_
      exact Or.inl ⟨object, here ▸ at_, rfl, rfl⟩
    · rw [if_neg here] at found_
      exact Or.inl ⟨found, found_, rfl, rfl⟩

private theorem Emptied.does (emptied : Emptied actions world)
    (reached : world = handleMachine.exec actions) {after : HandleWorld}
    (does : world.Does action after) :
    Emptied (actions ++ [action]) after := by
  cases does with
  | construct kind =>
      apply emptied.kept
      · intro index impossible
        cases impossible
      · simp only [HandleWorld.construct, List.length_append]
        omega
      · intro other found foundAt
        rcases construct_object? foundAt with old | new
        · exact Or.inl ⟨found, old, rfl, rfl⟩
        · obtain ⟨rfl, rfl⟩ := new
          exact Or.inr ⟨Nat.le_refl _, Option.some_ne_none _⟩
  | openFails =>
      apply emptied.kept
      · intro index impossible
        cases impossible
      · exact Nat.le_refl _
      · intro other found foundAt
        exact Or.inl ⟨found, foundAt, rfl, rfl⟩
  | opens at_ _ _ | assigns at_ _ _ | assignsSetsCallback at_ _ _ =>
      exact emptied.put (fun _ => HandleAction.noConfusion) at_ rfl
  | @setsCallback index object handle at_ holds =>
      apply emptied.kept
      · intro index impossible
        cases impossible
      · simp only [HandleWorld.setCallback, holds, Nat.le_refl]
      · intro other found foundAt
        simp only [HandleWorld.setCallback, holds] at foundAt
        exact Or.inl ⟨found, foundAt, rfl, rfl⟩
  | moves at_ => exact emptied.moveConstruct reached at_
  | @closes index object at_ =>
      apply emptied.kept
      · intro index impossible
        cases impossible
      · exact (length_close world index object).ge
      · intro other found foundAt
        rw [close_object?_iff at_ other] at foundAt
        split at foundAt
        · rename_i same
          cases foundAt
          exact Or.inl ⟨object, same ▸ at_, rfl, rfl⟩
        · exact Or.inl ⟨found, foundAt, rfl, rfl⟩
  | @destroys index object at_ =>
      apply emptied.kept
      · intro index impossible
        cases impossible
      · simp only [HandleWorld.destroy, List.length_set]
        exact (length_close world index object).ge
      · intro other found foundAt
        rw [destroy_object? at_ other] at foundAt
        split at foundAt
        · cases foundAt
        · exact Or.inl ⟨found, foundAt, rfl, rfl⟩

/-! ### The contexts in every state of a run -/

/-- A native handle comes to a stream only if no move has emptied it. -/
def OpensUnmoved (actions : List HandleAction) (world : HandleWorld)
    (action : HandleAction) : Prop :=
  ∀ (index : Nat) (handle : Hquic) (object : QuicHandle),
    action = .open_ index (some handle) ∨
        action = .assignSetCallback index handle →
      world.object? index = some object → object.kind = .stream →
        ¬MovedFrom actions index

/-- An `assign` is followed by its `set_callback`. -/
def callbackUse : Environment HandleWorld HandleAction :=
  fun _ world action => world.enabled action = true ∧
    ∀ index handle, action ≠ .assign index handle

instance (actions : List HandleAction) (world : HandleWorld)
    (action : HandleAction) : Decidable (callbackUse actions world action) :=
  decidable_of_iff (world.enabled action = true ∧
      (match action with | .assign _ _ => false | _ => true) = true) (by
    cases action <;> simp [callbackUse])

private theorem Emptied.unmoved_iff (emptied : Emptied actions world)
    (at_ : world.object? index = some object) :
    object.ctx ≠ none ↔
      (object.kind = .stream → ¬MovedFrom actions index) := by
  rw [ne_eq, emptied.streams index object at_, not_and]

private theorem emptied_of_run
    (run : handleMachine.Run objectUse actions world) :
    Emptied actions world := by
  apply run.invariant Emptied emptied_initial
  intro actions world action before emptied allowed
  exact emptied.does before.state_eq (does_of_enabled allowed)

/-- A step keeps the registrations exactly when it opens no emptied stream. -/
private theorem Registered.does_iff (registered : world.Registered)
    (accounted : world.Accounted) (emptied : Emptied actions world)
    (noAssign : ∀ index handle, action ≠ .assign index handle)
    {after : HandleWorld} (does : world.Does action after) :
    after.Registered ↔ OpensUnmoved actions world action := by
  have harmless : after.Registered →
      (∀ index handle, action ≠ .open_ index (some handle) ∧
        action ≠ .assignSetCallback index handle) →
      (after.Registered ↔ OpensUnmoved actions world action) := by
    intro kept noOpen
    refine ⟨?_, fun _ => kept⟩
    intro _ index handle object opens
    rcases opens with opens | opens
    · exact absurd opens (noOpen index handle).1
    · exact absurd opens (noOpen index handle).2
  cases does with
  | assigns => exact absurd rfl (noAssign _ _)
  | @opens index object handle at_ closed fresh =>
      have iff := registered.take_iff accounted at_ fresh
      rw [emptied.unmoved_iff at_] at iff
      refine iff.trans ⟨?_, ?_⟩
      · intro unmoved other given found opens foundAt
        rcases opens with opens | opens
        · cases opens
          obtain rfl := Option.some.inj (at_.symm.trans foundAt)
          exact unmoved
        · cases opens
      · intro unmoved
        exact unmoved index handle object (Or.inl rfl) at_
  | @assignsSetsCallback index object handle at_ closed fresh =>
      have iff := registered.take_iff accounted at_ fresh
      rw [emptied.unmoved_iff at_] at iff
      refine iff.trans ⟨?_, ?_⟩
      · intro unmoved other given found opens foundAt
        rcases opens with opens | opens
        · cases opens
        · cases opens
          obtain rfl := Option.some.inj (at_.symm.trans foundAt)
          exact unmoved
      · intro unmoved
        exact unmoved index handle object (Or.inr rfl) at_
  | construct kind =>
      exact harmless (registered.construct kind)
        (fun _ _ => ⟨HandleAction.noConfusion, HandleAction.noConfusion⟩)
  | openFails =>
      exact harmless registered (fun _ _ => ⟨by simp, by simp⟩)
  | setsCallback at_ holds =>
      exact harmless (registered.setCallback at_ holds)
        (fun _ _ => ⟨HandleAction.noConfusion, HandleAction.noConfusion⟩)
  | moves at_ =>
      exact harmless (registered.moveConstruct at_)
        (fun _ _ => ⟨HandleAction.noConfusion, HandleAction.noConfusion⟩)
  | closes at_ =>
      exact harmless (registered.close at_)
        (fun _ _ => ⟨HandleAction.noConfusion, HandleAction.noConfusion⟩)
  | destroys at_ =>
      exact harmless (registered.destroy at_)
        (fun _ _ => ⟨HandleAction.noConfusion, HandleAction.noConfusion⟩)

/-- In every state of a run the callbacks have the contexts of the objects that
hold the handles, exactly when no stream is opened that a move emptied. -/
theorem coherent_throughout_iff
    (run : handleMachine.Run callbackUse actions world) :
    handleMachine.Throughout (fun _ world => world.Coherent) actions ↔
      handleMachine.EachStep OpensUnmoved actions := by
  apply run.throughout_iff
  · have nothing : initial.Registered := by
      intro index object handle impossible
      cases impossible
    exact accounted_initial.coherent_iff.mpr nothing
  · intro actions world action before _ allowed coherent
    have used : handleMachine.Run objectUse actions world :=
      before.mono (fun _ _ _ both => both.1)
    have accounted := accounted_of_run used
    have does : world.Does action (handleMachine.step world action) :=
      does_of_enabled allowed.1
    rw [(accounted.does does).coherent_iff]
    exact (accounted.coherent_iff.mp coherent).does_iff accounted
      (emptied_of_run used) allowed.2 does

def openMovedFrom : List HandleAction :=
  [.construct .stream, .open_ 0 (some 5), .moveConstruct 0, .open_ 0 (some 6)]

theorem registers_null_context :
    handleMachine.Run callbackUse openMovedFrom
        (handleMachine.exec openMovedFrom) ∧
      (handleMachine.exec openMovedFrom).registered 6 = none ∧
      ¬(handleMachine.exec openMovedFrom).Coherent := by
  refine ⟨Machine.run_of_checks openMovedFrom (by decide), by decide, ?_⟩
  intro coherent
  obtain ⟨ctx, _, _, registered, _⟩ :=
    coherent.registered (.stream, 6) (by decide) (by decide)
  have null : (handleMachine.exec openMovedFrom).registered 6 = none := by
    decide
  exact Option.some_ne_none ctx (registered.symm.trans null)

/-- A connection is moved from and opened again, a stream only closed. -/
def reuseConnection : List HandleAction :=
  [.construct .connection, .assignSetCallback 0 5, .construct .stream,
    .open_ 1 (some 6), .moveConstruct 0, .moveConstruct 1, .open_ 0 (some 7),
    .close 1, .setCallback 2, .destroy 3, .destroy 0]

theorem coherent_throughout_iff_reuseConnection :
    handleMachine.Throughout (fun _ world => world.Coherent)
        reuseConnection ↔
      handleMachine.EachStep OpensUnmoved reuseConnection :=
  coherent_throughout_iff (Machine.run_of_checks reuseConnection (by decide))

end HandleWorld

end MsquicAsio
