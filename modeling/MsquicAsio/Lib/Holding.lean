/-
Objects that hold resources, inside one another.

An object owns resources and may hold others for somebody else.  As long as each
live resource is held by one object, and what it needs is owned by that object
or by one that encloses it, an object may dispose of what it owns once the
objects that it encloses hold nothing.
-/
import MsquicAsio.Lib.Arena
import MsquicAsio.Lib.Disposal

set_option autoImplicit false

universe u v

open Disposal

variable {Object : Type u} {Resource : Type v}

def Arena.Holds (arena : Arena Object) (has : Object → List Resource)
    (index : Nat) (resource : Resource) : Prop :=
  ∃ object, arena.object? index = some object ∧ resource ∈ has object

namespace Arena

variable {arena : Arena Object} {has : Object → List Resource}
  {index other : Nat} {resource : Resource} {before : Object}

theorem holds_of_object? (at_ : arena.object? index = some before) :
    arena.Holds has index resource ↔ resource ∈ has before := by
  constructor
  · rintro ⟨object, same, member⟩
    rw [at_] at same
    rwa [Option.some.inj same]
  · intro member
    exact ⟨before, at_, member⟩

theorem holds_begin_iff {scope : Option Nat} {new : Object} :
    (arena.begin scope new).Holds has other resource ↔
      arena.Holds has other resource ∨
        other = arena.slots.length ∧ resource ∈ has new := by
  constructor
  · rintro ⟨object, at_, member⟩
    rcases object?_begin_eq_some.mp at_ with old | ⟨last, rfl⟩
    · exact Or.inl ⟨object, old, member⟩
    · exact Or.inr ⟨last, member⟩
  · rintro (⟨object, at_, member⟩ | ⟨last, member⟩)
    · exact ⟨object, object?_begin_eq_some.mpr (Or.inl at_), member⟩
    · exact ⟨new, object?_begin_eq_some.mpr (Or.inr ⟨last, rfl⟩), member⟩

theorem holds_put_iff {after : Object}
    (at_ : arena.object? index = some before) :
    (arena.write index (some after)).Holds has other resource ↔
      other ≠ index ∧ arena.Holds has other resource ∨
        other = index ∧ resource ∈ has after := by
  constructor
  · rintro ⟨object, found, member⟩
    rcases (object?_write_eq_some at_).mp found with ⟨ne, old⟩ | ⟨same, is_⟩
    · exact Or.inl ⟨ne, object, old, member⟩
    · rw [Option.some.inj is_]
      exact Or.inr ⟨same, member⟩
  · rintro (⟨ne, object, old, member⟩ | ⟨same, member⟩)
    · exact ⟨object, (object?_write_eq_some at_).mpr (Or.inl ⟨ne, old⟩), member⟩
    · exact ⟨after, (object?_write_eq_some at_).mpr (Or.inr ⟨same, rfl⟩), member⟩

theorem holds_finish_iff (at_ : arena.object? index = some before) :
    (arena.write index none).Holds has other resource ↔
      other ≠ index ∧ arena.Holds has other resource := by
  constructor
  · rintro ⟨object, found, member⟩
    rcases (object?_write_eq_some at_).mp found with ⟨ne, old⟩ | ⟨_, is_⟩
    · exact ⟨ne, object, old, member⟩
    · cases is_
  · rintro ⟨ne, object, old, member⟩
    exact ⟨object, (object?_write_eq_some at_).mpr (Or.inl ⟨ne, old⟩), member⟩

end Arena

/-! ### Who holds what -/

/-- What is alive is what the objects hold, each resource by one of them. -/
structure Accounted (holdings : Object → List Resource) (arena : Arena Object)
    (events : List (Event Resource)) : Prop where
  balanced : Balanced events
  live_iff : ∀ resource, Live events resource ↔
    ∃ index, arena.Holds holdings index resource
  unique : ∀ resource left right, arena.Holds holdings left resource →
    arena.Holds holdings right resource → left = right

namespace Accounted

variable {holdings : Object → List Resource} {arena : Arena Object}
  {events : List (Event Resource)} {index : Nat} {before after new : Object}
  {scope : Option Nat} {resource : Resource} {needs : List Resource}

theorem initial : Accounted holdings Arena.empty [] where
  balanced := .nil
  live_iff := by
    intro resource
    constructor
    · intro live
      cases live.1
    · intro ⟨index, object, at_, _⟩
      cases at_
  unique := by
    intro resource left right ⟨object, at_, _⟩
    cases at_

theorem live (accounted : Accounted holdings arena events)
    (at_ : arena.object? index = some before)
    (member : resource ∈ holdings before) : Live events resource :=
  (accounted.live_iff resource).mpr
    ⟨index, (Arena.holds_of_object? at_).mpr member⟩

private theorem not_held_of_fresh (accounted : Accounted holdings arena events)
    (fresh : resource ∉ (acquired events).map Prod.fst) (index : Nat) :
    ¬arena.Holds holdings index resource :=
  fun holds => fresh ((accounted.live_iff resource).mpr ⟨index, holds⟩).1

theorem use (accounted : Accounted holdings arena events)
    (resources : List Resource) :
    Accounted holdings arena (events ++ [.use resources]) where
  balanced := accounted.balanced.use resources
  live_iff := by
    intro resource
    rw [live_use_iff]
    exact accounted.live_iff resource
  unique := accounted.unique

theorem construct (accounted : Accounted holdings arena events)
    (nothing : holdings new = []) :
    Accounted holdings (arena.begin scope new) events := by
  have same : ∀ index resource,
      (arena.begin scope new).Holds holdings index resource ↔
        arena.Holds holdings index resource := by
    intro index resource
    rw [Arena.holds_begin_iff, nothing]
    simp only [List.not_mem_nil, and_false, or_false]
  refine
    { balanced := accounted.balanced
      live_iff := ?_
      unique := ?_ }
  · simp only [same]
    exact accounted.live_iff
  · simp only [same]
    exact accounted.unique

theorem constructWith (accounted : Accounted holdings arena events)
    (fresh : resource ∉ (acquired events).map Prod.fst)
    (holds : ∀ other, other ∈ holdings new ↔ other = resource) :
    Accounted holdings (arena.begin scope new)
      (events ++ [.acquire resource needs]) := by
  have nobody := accounted.not_held_of_fresh fresh
  refine
    { balanced := accounted.balanced.acquire fresh
      live_iff := ?_
      unique := ?_ }
  · intro other
    rw [accounted.balanced.live_acquire_iff fresh, accounted.live_iff]
    simp only [Arena.holds_begin_iff, holds]
    constructor
    · rintro (⟨index, held⟩ | same)
      · exact ⟨index, Or.inl held⟩
      · exact ⟨_, Or.inr ⟨rfl, same⟩⟩
    · rintro ⟨index, held | ⟨_, same⟩⟩
      · exact Or.inl ⟨index, held⟩
      · exact Or.inr same
  · intro other left right
    simp only [Arena.holds_begin_iff, holds]
    rintro (heldLeft | ⟨lastLeft, rfl⟩) (heldRight | ⟨lastRight, same⟩)
    · exact accounted.unique other left right heldLeft heldRight
    · rw [same] at heldLeft
      exact absurd heldLeft (nobody left)
    · exact absurd heldRight (nobody right)
    · rw [lastLeft, lastRight]

theorem acquire (accounted : Accounted holdings arena events)
    (at_ : arena.object? index = some before)
    (fresh : resource ∉ (acquired events).map Prod.fst)
    (takes : ∀ other, other ∈ holdings after ↔
      other ∈ holdings before ∨ other = resource) :
    Accounted holdings (arena.write index (some after))
      (events ++ [.acquire resource needs]) := by
  have nobody := accounted.not_held_of_fresh fresh
  have holds_iff : ∀ other slot,
      (arena.write index (some after)).Holds holdings slot other ↔
        arena.Holds holdings slot other ∨ slot = index ∧ other = resource := by
    intro other slot
    rw [Arena.holds_put_iff at_, takes]
    by_cases here : slot = index
    · subst here
      rw [Arena.holds_of_object? at_]
      simp only [ne_eq, not_true, false_and, true_and, false_or]
    · simp only [here, ne_eq, not_false_eq_true, true_and, false_and, or_false]
  refine
    { balanced := accounted.balanced.acquire fresh
      live_iff := ?_
      unique := ?_ }
  · intro other
    rw [accounted.balanced.live_acquire_iff fresh, accounted.live_iff]
    simp only [holds_iff]
    constructor
    · rintro (⟨slot, held⟩ | same)
      · exact ⟨slot, Or.inl held⟩
      · exact ⟨index, Or.inr ⟨rfl, same⟩⟩
    · rintro ⟨slot, held | ⟨_, same⟩⟩
      · exact Or.inl ⟨slot, held⟩
      · exact Or.inr same
  · intro other left right
    simp only [holds_iff]
    rintro (heldLeft | ⟨rfl, rfl⟩) (heldRight | ⟨rfl, same⟩)
    · exact accounted.unique other left right heldLeft heldRight
    · rw [same] at heldLeft
      exact absurd heldLeft (nobody left)
    · exact absurd heldRight (nobody right)
    · rfl

private theorem lose (accounted : Accounted holdings arena events)
    {less : Arena Object} (live : Live events resource)
    (holds_iff : ∀ other slot, less.Holds holdings slot other ↔
      arena.Holds holdings slot other ∧ other ≠ resource) :
    Accounted holdings less (events ++ [.dispose resource]) := by
  refine
    { balanced := accounted.balanced.dispose live
      live_iff := ?_
      unique := ?_ }
  · intro other
    rw [live_dispose_iff, accounted.live_iff]
    simp only [holds_iff, exists_and_right]
  · intro other left right
    simp only [holds_iff]
    intro heldLeft heldRight
    exact accounted.unique other left right heldLeft.1 heldRight.1

theorem dispose (accounted : Accounted holdings arena events)
    (at_ : arena.object? index = some before)
    (member : resource ∈ holdings before)
    (gives : ∀ other, other ∈ holdings after ↔
      other ∈ holdings before ∧ other ≠ resource) :
    Accounted holdings (arena.write index (some after))
      (events ++ [.dispose resource]) := by
  have here := (Arena.holds_of_object? at_).mpr member
  apply accounted.lose (accounted.live at_ member)
  intro other slot
  rw [Arena.holds_put_iff at_, gives]
  by_cases same : slot = index
  · subst same
    rw [Arena.holds_of_object? at_]
    simp only [ne_eq, not_true, false_and, true_and, false_or]
  · simp only [same, ne_eq, not_false_eq_true, true_and, false_and, or_false,
      iff_self_and]
    rintro held rfl
    exact same (accounted.unique other slot index held here)

theorem finishWith (accounted : Accounted holdings arena events)
    (at_ : arena.object? index = some before)
    (holds : ∀ other, other ∈ holdings before ↔ other = resource) :
    Accounted holdings (arena.write index none)
      (events ++ [.dispose resource]) := by
  have member := (holds resource).mpr rfl
  have here := (Arena.holds_of_object? at_).mpr member
  apply accounted.lose (accounted.live at_ member)
  intro other slot
  rw [Arena.holds_finish_iff at_]
  by_cases same : slot = index
  · subst same
    rw [Arena.holds_of_object? at_, holds]
    simp only [ne_eq, not_true, false_and, and_not_self]
  · simp only [same, ne_eq, not_false_eq_true, true_and, iff_self_and]
    rintro held rfl
    exact same (accounted.unique other slot index held here)

theorem finish (accounted : Accounted holdings arena events)
    (at_ : arena.object? index = some before) (nothing : holdings before = []) :
    Accounted holdings (arena.write index none) events := by
  have same : ∀ resource slot,
      (arena.write index none).Holds holdings slot resource ↔
        arena.Holds holdings slot resource := by
    intro resource slot
    rw [Arena.holds_finish_iff at_, and_iff_right_iff_imp]
    rintro held rfl
    rw [Arena.holds_of_object? at_, nothing] at held
    cases held
  refine
    { balanced := accounted.balanced
      live_iff := ?_
      unique := ?_ }
  · simp only [same]
    exact accounted.live_iff
  · simp only [same]
    exact accounted.unique

/-- Part of what one object holds goes to a new one. -/
theorem hand (accounted : Accounted holdings arena events)
    (at_ : arena.object? index = some before)
    (parts : ∀ other, other ∈ holdings before ↔
      other ∈ holdings after ∨ other ∈ holdings new)
    (apart : ∀ other ∈ holdings after, other ∉ holdings new) :
    Accounted holdings ((arena.write index (some after)).begin scope new)
      events := by
  have holds_iff : ∀ other slot,
      ((arena.write index (some after)).begin scope new).Holds holdings slot
          other ↔
        slot ≠ index ∧ arena.Holds holdings slot other ∨
          slot = index ∧ other ∈ holdings after ∨
            slot = arena.slots.length ∧ other ∈ holdings new := by
    intro other slot
    rw [Arena.holds_begin_iff, Arena.holds_put_iff at_,
      Arena.slots_write_length, or_assoc]
  have known : ∀ other, other ∈ holdings after ∨ other ∈ holdings new →
      arena.Holds holdings index other := by
    intro other member
    exact (Arena.holds_of_object? at_).mpr ((parts other).mpr member)
  refine
    { balanced := accounted.balanced
      live_iff := ?_
      unique := ?_ }
  · intro other
    rw [accounted.live_iff]
    simp only [holds_iff]
    constructor
    · rintro ⟨slot, held⟩
      by_cases here : slot = index
      · subst here
        rw [Arena.holds_of_object? at_, parts] at held
        rcases held with stays | goes
        · exact ⟨slot, Or.inr (Or.inl ⟨rfl, stays⟩)⟩
        · exact ⟨_, Or.inr (Or.inr ⟨rfl, goes⟩)⟩
      · exact ⟨slot, Or.inl ⟨here, held⟩⟩
    · rintro ⟨slot, ⟨_, held⟩ | ⟨_, stays⟩ | ⟨_, goes⟩⟩
      · exact ⟨slot, held⟩
      · exact ⟨index, known other (Or.inl stays)⟩
      · exact ⟨index, known other (Or.inr goes)⟩
  · intro other left right
    simp only [holds_iff]
    -- what the first object held is held nowhere else
    have fromOther : ∀ slot, slot ≠ index → arena.Holds holdings slot other →
        ¬(other ∈ holdings after ∨ other ∈ holdings new) := by
      intro slot different held member
      exact different (accounted.unique other slot index held
        (known other member))
    rintro (⟨different, held⟩ | ⟨rfl, stays⟩ | ⟨rfl, goes⟩)
      (⟨different', held'⟩ | ⟨rfl, stays'⟩ | ⟨rfl, goes'⟩)
    · exact accounted.unique other left right held held'
    · exact absurd (Or.inl stays') (fromOther left different held)
    · exact absurd (Or.inr goes') (fromOther left different held)
    · exact absurd (Or.inl stays) (fromOther right different' held')
    · rfl
    · exact absurd goes' (apart other stays)
    · exact absurd (Or.inr goes) (fromOther right different' held')
    · exact absurd goes (apart other stays')
    · rfl

end Accounted

/-! ### Who owns what is needed -/

/-- What a held resource needs is owned by its holder or by an object that
encloses it. -/
def Covered (holdings own : Object → List Resource) (arena : Arena Object)
    (events : List (Event Resource)) : Prop :=
  ∀ index resource, arena.Holds holdings index resource →
    ∀ needs, (resource, needs) ∈ acquired events → ∀ needed ∈ needs,
      ∃ owner, arena.Holds own owner needed ∧
        (owner = index ∨ owner ∈ arena.enclosing index)

/-- The objects that this one encloses hold nothing. -/
def Arena.Idle (arena : Arena Object) (holdings : Object → List Resource)
    (index : Nat) : Prop :=
  ∀ inner < arena.slots.length, index ∈ arena.enclosing inner →
    ∀ object ∈ arena.object? inner, holdings object = []

namespace Arena

variable {arena : Arena Object} {holdings : Object → List Resource}
  {index inner : Nat} {resource : Resource}

private theorem Idle.not_held (idle : arena.Idle holdings index)
    (encloses : index ∈ arena.enclosing inner) :
    ¬arena.Holds holdings inner resource := by
  rintro ⟨object, at_, member⟩
  rw [idle inner (lt_of_enclosing encloses) encloses object at_] at member
  cases member

end Arena

namespace Covered

variable {holdings own : Object → List Resource} {arena : Arena Object}
  {events : List (Event Resource)} {index : Nat} {before after new : Object}
  {scope : Option Nat} {resource : Resource} {needs : List Resource}

theorem initial : Covered holdings own Arena.empty [] := by
  rintro index resource ⟨object, at_, _⟩
  cases at_

theorem use (covered : Covered holdings own arena events)
    (resources : List Resource) :
    Covered holdings own arena (events ++ [.use resources]) := by
  intro index resource held needs entry
  rw [acquired_use] at entry
  exact covered index resource held needs entry

theorem construct (covered : Covered holdings own arena events)
    (nothing : holdings new = []) :
    Covered holdings own (arena.begin scope new) events := by
  intro index resource held needs entry needed member
  rcases Arena.holds_begin_iff.mp held with old | ⟨_, impossible⟩
  · obtain ⟨owner, owns, place⟩ :=
      covered index resource old needs entry needed member
    refine ⟨owner, Arena.holds_begin_iff.mpr (Or.inl owns), ?_⟩
    exact place.imp_right Arena.enclosing_begin_old
  · rw [nothing] at impossible
    cases impossible

theorem constructWith (covered : Covered holdings own arena events)
    (fresh : resource ∉ (acquired events).map Prod.fst)
    (holds : ∀ other, other ∈ holdings new ↔ other = resource) :
    Covered holdings own (arena.begin scope new)
      (events ++ [.acquire resource []]) := by
  intro index other held needs entry needed member
  rw [acquired_acquire] at entry
  rcases List.mem_append.mp entry with old | last
  · rcases Arena.holds_begin_iff.mp held with heldBefore | ⟨_, comes⟩
    · obtain ⟨owner, owns, place⟩ :=
        covered index other heldBefore needs old needed member
      refine ⟨owner, Arena.holds_begin_iff.mpr (Or.inl owns), ?_⟩
      exact place.imp_right Arena.enclosing_begin_old
    · rw [(holds other).mp comes] at old
      exact absurd (List.mem_map_of_mem (f := Prod.fst) old) fresh
  · obtain ⟨_, rfl⟩ := Prod.mk.inj (List.mem_singleton.mp last)
    cases member

theorem acquire (covered : Covered holdings own arena events)
    (accounted : Accounted holdings arena events)
    (at_ : arena.object? index = some before)
    (fresh : resource ∉ (acquired events).map Prod.fst)
    (takes : ∀ other, other ∈ holdings after ↔
      other ∈ holdings before ∨ other = resource)
    (keeps : ∀ other ∈ own before, other ∈ own after)
    (covers : ∀ needed ∈ needs, ∃ owner, arena.Holds own owner needed ∧
      (owner = index ∨ owner ∈ arena.enclosing index)) :
    Covered holdings own (arena.write index (some after))
      (events ++ [.acquire resource needs]) := by
  have owners : ∀ needed slot,
      (∃ owner, arena.Holds own owner needed ∧
        (owner = slot ∨ owner ∈ arena.enclosing slot)) →
      ∃ owner, (arena.write index (some after)).Holds own owner needed ∧
        (owner = slot ∨
          owner ∈ (arena.write index (some after)).enclosing slot) := by
    rintro needed slot ⟨owner, owns, place⟩
    refine ⟨owner, ?_, ?_⟩
    · rw [Arena.holds_put_iff at_]
      by_cases here : owner = index
      · subst here
        exact Or.inr ⟨rfl, keeps _ ((Arena.holds_of_object? at_).mp owns)⟩
      · exact Or.inl ⟨here, owns⟩
    · rwa [Arena.enclosing_write]
  have distinct : ∀ more, (resource, more) ∉ acquired events :=
    fun more old => fresh (List.mem_map_of_mem (f := Prod.fst) old)
  intro slot other held more entry needed member
  apply owners
  rw [acquired_acquire] at entry
  rcases (Arena.holds_put_iff at_).mp held with ⟨different, old⟩ | ⟨rfl, now⟩
  · rcases List.mem_append.mp entry with entryBefore | last
    · exact covered slot other old more entryBefore needed member
    · obtain ⟨rfl, rfl⟩ := Prod.mk.inj (List.mem_singleton.mp last)
      exact absurd old (accounted.not_held_of_fresh fresh slot)
  · rcases List.mem_append.mp entry with entryBefore | last
    · rcases (takes other).mp now with old | rfl
      · exact covered slot other ((Arena.holds_of_object? at_).mpr old) more
          entryBefore needed member
      · exact absurd entryBefore (distinct more)
    · obtain ⟨rfl, rfl⟩ := Prod.mk.inj (List.mem_singleton.mp last)
      exact covers needed member

theorem dispose (covered : Covered holdings own arena events)
    (accounted : Accounted holdings arena events)
    (at_ : arena.object? index = some before)
    (legal : Legal events (.dispose resource))
    (gives : ∀ other, other ∈ holdings after ↔
      other ∈ holdings before ∧ other ≠ resource)
    (keeps : ∀ other ∈ own before, other ∈ own after ∨ other = resource) :
    Covered holdings own (arena.write index (some after))
      (events ++ [.dispose resource]) := by
  intro slot other held needs entry needed member
  rw [acquired_dispose] at entry
  have heldBefore : arena.Holds holdings slot other := by
    rcases (Arena.holds_put_iff at_).mp held with ⟨_, old⟩ | ⟨rfl, now⟩
    · exact old
    · exact (Arena.holds_of_object? at_).mpr ((gives other).mp now).1
  have live : Live events other := (accounted.live_iff other).mpr ⟨slot, heldBefore⟩
  obtain ⟨owner, owns, place⟩ :=
    covered slot other heldBefore needs entry needed member
  refine ⟨owner, ?_, ?_⟩
  · rw [Arena.holds_put_iff at_]
    by_cases here : owner = index
    · subst here
      rcases keeps needed ((Arena.holds_of_object? at_).mp owns) with
        stays | rfl
      · exact Or.inr ⟨rfl, stays⟩
      · exact absurd live (legal.2 _ entry member)
    · exact Or.inl ⟨here, owns⟩
  · rwa [Arena.enclosing_write]

theorem finish (covered : Covered holdings own arena events)
    (owned : ∀ object, ∀ other ∈ own object, other ∈ holdings object)
    (at_ : arena.object? index = some before) (nothing : holdings before = []) :
    Covered holdings own (arena.write index none) events := by
  intro slot other held needs entry needed member
  obtain ⟨owner, owns, place⟩ := covered slot other
    ((Arena.holds_finish_iff at_).mp held).2 needs entry needed member
  refine ⟨owner, (Arena.holds_finish_iff at_).mpr ⟨?_, owns⟩, ?_⟩
  · rintro rfl
    have owned := owned _ _ ((Arena.holds_of_object? at_).mp owns)
    rw [nothing] at owned
    cases owned
  · rwa [Arena.enclosing_write]

theorem finishWith (covered : Covered holdings own arena events)
    (accounted : Accounted holdings arena events)
    (owned : ∀ object, ∀ other ∈ own object, other ∈ holdings object)
    (at_ : arena.object? index = some before)
    (legal : Legal events (.dispose resource))
    (holds : ∀ other, other ∈ holdings before ↔ other = resource) :
    Covered holdings own (arena.write index none)
      (events ++ [.dispose resource]) := by
  intro slot other held needs entry needed member
  rw [acquired_dispose] at entry
  have heldBefore := ((Arena.holds_finish_iff at_).mp held).2
  have live : Live events other :=
    (accounted.live_iff other).mpr ⟨slot, heldBefore⟩
  obtain ⟨owner, owns, place⟩ :=
    covered slot other heldBefore needs entry needed member
  refine ⟨owner, (Arena.holds_finish_iff at_).mpr ⟨?_, owns⟩, ?_⟩
  · rintro rfl
    have same := (holds needed).mp
      (owned _ _ ((Arena.holds_of_object? at_).mp owns))
    rw [same] at member
    exact legal.2 _ entry member live
  · rwa [Arena.enclosing_write]

theorem move (covered : Covered holdings own arena events)
    (at_ : arena.object? index = some before)
    (idle : arena.Idle holdings index) (emptied : holdings after = [])
    (sameHoldings : holdings new = holdings before)
    (sameOwn : own new = own before)
    (place : ∀ outer ∈ arena.enclosing index, outer ∈ arena.inside scope) :
    Covered holdings own ((arena.write index (some after)).begin scope new)
      events := by
  have kept : ∀ owner needed, owner ≠ index → arena.Holds own owner needed →
      ((arena.write index (some after)).begin scope new).Holds own owner
        needed := by
    intro owner needed different owns
    rw [Arena.holds_begin_iff, Arena.holds_put_iff at_]
    exact Or.inl (Or.inl ⟨different, owns⟩)
  have moved : ∀ needed, arena.Holds own index needed →
      ((arena.write index (some after)).begin scope new).Holds own
        arena.slots.length needed := by
    intro needed owns
    rw [Arena.holds_begin_iff, sameOwn]
    exact Or.inr ⟨(Arena.slots_write_length ..).symm,
      (Arena.holds_of_object? at_).mp owns⟩
  intro slot resource held needs entry needed member
  rw [Arena.holds_begin_iff, Arena.holds_put_iff at_] at held
  rcases held with (⟨different, old⟩ | ⟨_, impossible⟩) | ⟨last, comes⟩
  · obtain ⟨owner, owns, location⟩ :=
      covered slot resource old needs entry needed member
    refine ⟨owner, kept owner needed ?_ owns, ?_⟩
    · rintro rfl
      rcases location with same | encloses
      · exact different same.symm
      · exact idle.not_held encloses old
    · refine location.imp_right (fun encloses => ?_)
      apply Arena.enclosing_begin_old
      rwa [Arena.enclosing_write]
  · rw [emptied] at impossible
    cases impossible
  · rw [sameHoldings] at comes
    obtain ⟨owner, owns, location⟩ := covered index resource
      ((Arena.holds_of_object? at_).mpr comes) needs entry needed member
    rw [Arena.slots_write_length] at last
    by_cases here : owner = index
    · rw [here] at owns
      exact ⟨_, moved needed owns, Or.inl last.symm⟩
    · refine ⟨owner, kept owner needed here owns, Or.inr ?_⟩
      have encloses := location.resolve_left here
      rw [last, Arena.enclosing_begin, Arena.slots_write_length, if_pos rfl,
        Arena.inside_write]
      exact place owner encloses

theorem hand (covered : Covered holdings own arena events)
    (sound : arena.Sound) (at_ : arena.object? index = some before)
    (stays : ∀ other ∈ holdings after, other ∈ holdings before)
    (goes : ∀ other ∈ holdings new, other ∈ holdings before)
    (sameOwn : own after = own before) (place : index ∈ arena.inside scope) :
    Covered holdings own ((arena.write index (some after)).begin scope new)
      events := by
  have kept : ∀ owner needed, arena.Holds own owner needed →
      ((arena.write index (some after)).begin scope new).Holds own owner
        needed := by
    intro owner needed owns
    rw [Arena.holds_begin_iff, Arena.holds_put_iff at_, sameOwn]
    by_cases here : owner = index
    · subst here
      exact Or.inl (Or.inr ⟨rfl, (Arena.holds_of_object? at_).mp owns⟩)
    · exact Or.inl (Or.inl ⟨here, owns⟩)
  have old : ∀ slot resource, arena.Holds holdings slot resource →
      ∀ needs, (resource, needs) ∈ acquired events → ∀ needed ∈ needs,
        ∃ owner,
          ((arena.write index (some after)).begin scope new).Holds own owner
            needed ∧
          (owner = slot ∨ owner ∈ arena.enclosing slot) := by
    intro slot resource held needs entry needed member
    obtain ⟨owner, owns, location⟩ :=
      covered slot resource held needs entry needed member
    exact ⟨owner, kept owner needed owns, location⟩
  have located : ∀ slot owner, (owner = slot ∨ owner ∈ arena.enclosing slot) →
      owner = slot ∨ owner ∈
        ((arena.write index (some after)).begin scope new).enclosing slot := by
    intro slot owner location
    refine location.imp_right (fun encloses => ?_)
    apply Arena.enclosing_begin_old
    rwa [Arena.enclosing_write]
  intro slot resource held needs entry needed member
  rw [Arena.holds_begin_iff, Arena.holds_put_iff at_] at held
  rcases held with (⟨_, heldBefore⟩ | ⟨same, now⟩) | ⟨last, comes⟩
  · obtain ⟨owner, owns, location⟩ :=
      old slot resource heldBefore needs entry needed member
    exact ⟨owner, owns, located slot owner location⟩
  · rw [same]
    obtain ⟨owner, owns, location⟩ := old index resource
      ((Arena.holds_of_object? at_).mpr (stays resource now)) needs entry needed
      member
    exact ⟨owner, owns, located index owner location⟩
  · obtain ⟨owner, owns, location⟩ := old index resource
      ((Arena.holds_of_object? at_).mpr (goes resource comes)) needs entry
      needed member
    refine ⟨owner, owns, Or.inr ?_⟩
    rw [last, Arena.enclosing_begin_new, Arena.inside_write]
    rcases location with rfl | encloses
    · exact place
    · exact sound.nested_inside place encloses

/-- An object may dispose of what it owns, if the objects that it encloses hold
nothing and what it holds itself does not need it. -/
theorem legal_dispose (covered : Covered holdings own arena events)
    (accounted : Accounted holdings arena events)
    (owned : ∀ object, ∀ other ∈ own object, other ∈ holdings object)
    (at_ : arena.object? index = some before)
    (idle : arena.Idle holdings index) (member : resource ∈ holdings before)
    (unneeded : ∀ other ∈ holdings before, ∀ needs,
      (other, needs) ∈ acquired events → resource ∉ needs) :
    Legal events (.dispose resource) := by
  refine ⟨accounted.live at_ member, ?_⟩
  intro entry acquired_ needed live
  obtain ⟨slot, held⟩ := (accounted.live_iff entry.1).mp live
  obtain ⟨owner, ⟨object, found, owns⟩, location⟩ :=
    covered slot entry.1 held entry.2 acquired_ resource needed
  have same : owner = index := accounted.unique resource owner index
    ⟨object, found, owned object resource owns⟩
    ((Arena.holds_of_object? at_).mpr member)
  rw [same] at location
  rcases location with rfl | encloses
  · exact unneeded entry.1 ((Arena.holds_of_object? at_).mp held) entry.2
      acquired_ needed
  · exact idle.not_held encloses held

theorem legal_dispose_unowned (covered : Covered holdings own arena events)
    (accounted : Accounted holdings arena events)
    (owned : ∀ object, ∀ other ∈ own object, other ∈ holdings object)
    (at_ : arena.object? index = some before)
    (member : resource ∈ holdings before) (unowned : resource ∉ own before) :
    Legal events (.dispose resource) := by
  refine ⟨accounted.live at_ member, ?_⟩
  intro entry acquired_ needed live
  obtain ⟨slot, held⟩ := (accounted.live_iff entry.1).mp live
  obtain ⟨owner, ⟨object, found, owns⟩, _⟩ :=
    covered slot entry.1 held entry.2 acquired_ resource needed
  have same : owner = index := accounted.unique resource owner index
    ⟨object, found, owned object resource owns⟩
    ((Arena.holds_of_object? at_).mpr member)
  rw [same, at_] at found
  rw [← Option.some.inj found] at owns
  exact unowned owns

end Covered
