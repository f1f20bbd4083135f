/-
Objects whose lifetimes lie inside one another.

The objects of a program are numbered in the order of their construction.  Each
keeps the numbers of those that enclose it, whose lifetime is to cover its own.
An object ends only when it encloses no live one, so whatever encloses a live
object is alive.
-/
import Mathlib.Data.List.Basic

set_option autoImplicit false

universe u

/-- An object that has ended leaves its slot empty. -/
structure Arena.Slot (Object : Type u) where
  enclosing : List Nat
  object : Option Object

structure Arena (Object : Type u) where
  slots : List (Arena.Slot Object)

namespace Arena

variable {Object : Type u}

def empty : Arena Object where
  slots := []

def object? (arena : Arena Object) (index : Nat) : Option Object :=
  arena.slots[index]?.bind Slot.object

def enclosing (arena : Arena Object) (index : Nat) : List Nat :=
  arena.slots[index]?.elim [] Slot.enclosing

def inside (arena : Arena Object) (scope : Option Nat) : List Nat :=
  scope.elim [] fun index => index :: arena.enclosing index

def begin (arena : Arena Object) (scope : Option Nat) (object : Object) :
    Arena Object where
  slots := arena.slots ++ [⟨arena.inside scope, some object⟩]

def write (arena : Arena Object) (index : Nat) (object : Option Object) :
    Arena Object where
  slots := arena.slots.modify index fun slot => { slot with object := object }

variable {arena : Arena Object} {index other : Nat} {object : Object}

theorem lt_of_object? (at_ : arena.object? index = some object) :
    index < arena.slots.length := by
  unfold object? at at_
  by_contra outside
  rw [List.getElem?_eq_none (Nat.le_of_not_lt outside)] at at_
  cases at_

theorem lt_of_enclosing (encloses : other ∈ arena.enclosing index) :
    index < arena.slots.length := by
  unfold enclosing at encloses
  by_contra outside
  rw [List.getElem?_eq_none (Nat.le_of_not_lt outside)] at encloses
  cases encloses

private theorem object?_begin (scope : Option Nat) (new : Object)
    (index : Nat) :
    (arena.begin scope new).object? index =
      if index = arena.slots.length then some new else arena.object? index := by
  simp only [object?, begin]
  by_cases last : index = arena.slots.length
  · rw [if_pos last, last, List.getElem?_concat_length]
    rfl
  · rw [if_neg last]
    by_cases inside : index < arena.slots.length
    · rw [List.getElem?_append_left inside]
    · rw [List.getElem?_eq_none (Nat.le_of_not_lt inside),
        List.getElem?_eq_none]
      rw [List.length_append, List.length_singleton]
      omega

theorem object?_begin_eq_some {scope : Option Nat} {new : Object} :
    (arena.begin scope new).object? index = some object ↔
      arena.object? index = some object ∨
        index = arena.slots.length ∧ object = new := by
  rw [object?_begin]
  split
  · rename_i last
    have absent : arena.object? index ≠ some object :=
      fun at_ => Nat.ne_of_lt (lt_of_object? at_) last
    rw [last] at absent ⊢
    simp only [absent, true_and, false_or, Option.some.injEq]
    exact eq_comm
  · rename_i different
    simp only [different, false_and, or_false]

theorem enclosing_begin (scope : Option Nat) (new : Object) (index : Nat) :
    (arena.begin scope new).enclosing index =
      if index = arena.slots.length then arena.inside scope
      else arena.enclosing index := by
  simp only [enclosing, begin]
  by_cases last : index = arena.slots.length
  · rw [if_pos last, last, List.getElem?_concat_length]
    rfl
  · rw [if_neg last]
    by_cases inside : index < arena.slots.length
    · rw [List.getElem?_append_left inside]
    · rw [List.getElem?_eq_none (Nat.le_of_not_lt inside),
        List.getElem?_eq_none]
      rw [List.length_append, List.length_singleton]
      omega

theorem enclosing_begin_old {scope : Option Nat} {new : Object}
    (encloses : other ∈ arena.enclosing index) :
    other ∈ (arena.begin scope new).enclosing index := by
  rw [enclosing_begin, if_neg (Nat.ne_of_lt (lt_of_enclosing encloses))]
  exact encloses

@[simp] theorem slots_write_length (index : Nat) (object : Option Object) :
    (arena.write index object).slots.length = arena.slots.length :=
  List.length_modify _ _ _

@[simp] theorem enclosing_write (written : Nat) (object : Option Object)
    (index : Nat) :
    (arena.write written object).enclosing index = arena.enclosing index := by
  simp only [enclosing, write, List.getElem?_modify]
  cases arena.slots[index]? with
  | none => rfl
  | some slot => split <;> rfl

@[simp] theorem inside_write (written : Nat) (object : Option Object)
    (scope : Option Nat) :
    (arena.write written object).inside scope = arena.inside scope := by
  cases scope with
  | none => rfl
  | some index => simp only [inside, Option.elim_some, enclosing_write]

theorem enclosing_begin_new (scope : Option Nat) (new : Object) :
    (arena.begin scope new).enclosing arena.slots.length =
      arena.inside scope := by
  rw [enclosing_begin, if_pos rfl]

theorem object?_write_self {written : Option Object}
    (at_ : arena.object? index = some object) :
    (arena.write index written).object? index = written := by
  have inside := lt_of_object? at_
  simp only [object?, write, List.getElem?_modify, if_true,
    List.getElem?_eq_getElem inside]
  rfl

theorem object?_write_other {written : Option Object}
    (different : other ≠ index) :
    (arena.write index written).object? other = arena.object? other := by
  simp only [object?, write, List.getElem?_modify,
    if_neg (Ne.symm different)]
  cases arena.slots[other]? <;> rfl

theorem object?_write_eq_some {before : Object} {written : Option Object}
    (at_ : arena.object? index = some before) :
    (arena.write index written).object? other = some object ↔
      other ≠ index ∧ arena.object? other = some object ∨
        other = index ∧ written = some object := by
  by_cases same : other = index
  · subst same
    rw [object?_write_self at_]
    simp only [ne_eq, not_true, false_and, true_and, false_or]
  · rw [object?_write_other same]
    simp only [same, ne_eq, not_false_eq_true, true_and, false_and, or_false]

theorem alive_put {new : Object} (at_ : arena.object? index = some object)
    (alive : (arena.object? other).isSome) :
    ((arena.write index (some new)).object? other).isSome := by
  by_cases here : other = index
  · rw [here, object?_write_self at_]
    rfl
  · rwa [object?_write_other here]

def Alone (arena : Arena Object) (index : Nat) : Prop :=
  ∀ inner, (arena.object? inner).isSome → index ∉ arena.enclosing inner

theorem Alone.put {new : Object} (alone : arena.Alone index)
    (at_ : arena.object? index = some object) :
    (arena.write index (some new)).Alone index := by
  intro inner alive
  rw [enclosing_write]
  apply alone inner
  by_cases here : inner = index
  · rw [here, at_]
    rfl
  · rwa [object?_write_other here] at alive

/-- Objects are enclosed by earlier ones; what encloses a live one is alive, and
encloses whatever the enclosed one encloses. -/
structure Sound (arena : Arena Object) : Prop where
  earlier : ∀ inner, ∀ outer ∈ arena.enclosing inner, outer < inner
  covered : ∀ inner, (arena.object? inner).isSome →
    ∀ outer ∈ arena.enclosing inner, (arena.object? outer).isSome
  nested : ∀ inner, ∀ middle ∈ arena.enclosing inner,
    ∀ outer ∈ arena.enclosing middle, outer ∈ arena.enclosing inner

namespace Sound

theorem initial : (empty : Arena Object).Sound where
  earlier := by
    intro inner outer impossible
    cases impossible
  covered := by
    intro inner alive
    cases alive
  nested := by
    intro inner middle impossible
    cases impossible

private theorem alive_inside (sound : arena.Sound) {scope : Option Nat}
    (alive : ∀ index ∈ scope, (arena.object? index).isSome) :
    ∀ outer ∈ arena.inside scope, (arena.object? outer).isSome := by
  intro outer encloses
  cases scope with
  | none => cases encloses
  | some index =>
      rcases List.mem_cons.mp encloses with rfl | further
      · exact alive outer rfl
      · exact sound.covered index (alive index rfl) outer further

theorem nested_inside (sound : arena.Sound) {scope : Option Nat}
    {middle outer : Nat} (encloses : middle ∈ arena.inside scope)
    (further : outer ∈ arena.enclosing middle) :
    outer ∈ arena.inside scope := by
  cases scope with
  | none => cases encloses
  | some index =>
      rcases List.mem_cons.mp encloses with rfl | inner
      · exact List.mem_cons_of_mem _ further
      · exact List.mem_cons_of_mem _
          (sound.nested index middle inner outer further)

theorem begin (sound : arena.Sound) {scope : Option Nat} (new : Object)
    (alive : ∀ index ∈ scope, (arena.object? index).isSome) :
    (arena.begin scope new).Sound := by
  have kept : ∀ outer, (arena.object? outer).isSome →
      ((arena.begin scope new).object? outer).isSome := by
    intro outer isAlive
    rw [object?_begin]
    split
    · rfl
    · exact isAlive
  have inRange : ∀ outer ∈ arena.inside scope, outer < arena.slots.length := by
    intro outer encloses
    obtain ⟨object, at_⟩ :=
      Option.isSome_iff_exists.mp (sound.alive_inside alive outer encloses)
    exact lt_of_object? at_
  refine
    { earlier := ?_
      covered := ?_
      nested := ?_ }
  · intro inner outer encloses
    rw [enclosing_begin] at encloses
    split at encloses
    · rename_i last
      rw [last]
      exact inRange outer encloses
    · exact sound.earlier inner outer encloses
  · intro inner isAlive outer encloses
    rw [enclosing_begin] at encloses
    split at encloses
    · exact kept outer (sound.alive_inside alive outer encloses)
    · rename_i different
      rw [object?_begin, if_neg different] at isAlive
      exact kept outer (sound.covered inner isAlive outer encloses)
  · intro inner middle encloses outer further
    rw [enclosing_begin] at encloses ⊢
    have older : middle < arena.slots.length := by
      split at encloses
      · exact inRange middle encloses
      · have := sound.earlier inner middle encloses
        have := lt_of_enclosing encloses
        omega
    rw [enclosing_begin, if_neg (Nat.ne_of_lt older)] at further
    split at encloses
    · rw [if_pos ‹_›]
      exact sound.nested_inside encloses further
    · rw [if_neg ‹_›]
      exact sound.nested inner middle encloses outer further

theorem put (sound : arena.Sound) {after : Object}
    (at_ : arena.object? index = some object) :
    (arena.write index (some after)).Sound := by
  have same : ∀ other, ((arena.write index (some after)).object? other).isSome ↔
      (arena.object? other).isSome := by
    intro other
    by_cases here : other = index
    · subst here
      rw [object?_write_self at_, at_]
      simp only [Option.isSome_some]
    · rw [object?_write_other here]
  refine
    { earlier := ?_
      covered := ?_
      nested := ?_ }
  · simp only [enclosing_write]
    exact sound.earlier
  · simp only [enclosing_write, same]
    exact sound.covered
  · simp only [enclosing_write]
    exact sound.nested

theorem finish (sound : arena.Sound) (alone : arena.Alone index)
    (at_ : arena.object? index = some object) :
    (arena.write index none).Sound := by
  refine
    { earlier := ?_
      covered := ?_
      nested := ?_ }
  · simp only [enclosing_write]
    exact sound.earlier
  · simp only [enclosing_write]
    intro inner isAlive outer encloses
    by_cases here : inner = index
    · subst here
      rw [object?_write_self at_] at isAlive
      cases isAlive
    · rw [object?_write_other here] at isAlive
      rw [object?_write_other]
      · exact sound.covered inner isAlive outer encloses
      · rintro rfl
        exact alone inner isAlive encloses
  · simp only [enclosing_write]
    exact sound.nested

end Sound

end Arena
