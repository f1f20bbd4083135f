/-
Resources that need other ones, and the order in which they are disposed of.

Each resource is acquired once, with the resources that it needs.  It may be used
until it is disposed of, and it may be disposed of only when no live resource
needs it.  In an orderly history each event is allowed by those before it.
-/
import Mathlib.Data.List.Induction
import Mathlib.Data.List.Nodup

set_option autoImplicit false

universe u

namespace Disposal

variable {Resource : Type u}

inductive Event (Resource : Type u)
  | acquire (resource : Resource) (needs : List Resource)
  | use (resources : List Resource)
  | dispose (resource : Resource)

def Event.acquired : Event Resource → Option (Resource × List Resource)
  | .acquire resource needs => some (resource, needs)
  | _ => none

def Event.disposed : Event Resource → Option Resource
  | .dispose resource => some resource
  | _ => none

def acquired (events : List (Event Resource)) :
    List (Resource × List Resource) :=
  events.filterMap Event.acquired

def disposed (events : List (Event Resource)) : List Resource :=
  events.filterMap Event.disposed

def Live (events : List (Event Resource)) (resource : Resource) : Prop :=
  resource ∈ (acquired events).map Prod.fst ∧ resource ∉ disposed events

def Legal (events : List (Event Resource)) : Event Resource → Prop
  | .acquire resource needs =>
      resource ∉ (acquired events).map Prod.fst ∧
        ∀ needed ∈ needs, Live events needed
  | .use resources => ∀ resource ∈ resources, Live events resource
  | .dispose resource =>
      Live events resource ∧
        ∀ entry ∈ acquired events, resource ∈ entry.2 → ¬Live events entry.1

inductive Orderly : List (Event Resource) → Prop
  | nil : Orderly []
  | concat {events : List (Event Resource)} {event : Event Resource}
      (before : Orderly events) (legal : Legal events event) :
      Orderly (events ++ [event])

variable {events : List (Event Resource)} {resource other : Resource}
  {needs : List Resource}

@[simp] theorem acquired_acquire :
    acquired (events ++ [.acquire resource needs]) =
      acquired events ++ [(resource, needs)] := by
  simp only [acquired, List.filterMap_append]
  rfl

@[simp] theorem acquired_use (resources : List Resource) :
    acquired (events ++ [.use resources]) = acquired events := by
  simp only [acquired, List.filterMap_append]
  exact List.append_nil _

@[simp] theorem acquired_dispose :
    acquired (events ++ [.dispose resource]) = acquired events := by
  simp only [acquired, List.filterMap_append]
  exact List.append_nil _

@[simp] theorem disposed_acquire :
    disposed (events ++ [.acquire resource needs]) = disposed events := by
  simp only [disposed, List.filterMap_append]
  exact List.append_nil _

@[simp] theorem disposed_use (resources : List Resource) :
    disposed (events ++ [.use resources]) = disposed events := by
  simp only [disposed, List.filterMap_append]
  exact List.append_nil _

@[simp] theorem disposed_dispose :
    disposed (events ++ [.dispose resource]) =
      disposed events ++ [resource] := by
  simp only [disposed, List.filterMap_append]
  rfl

theorem live_use_iff (resources : List Resource) :
    Live (events ++ [.use resources]) other ↔ Live events other := by
  simp only [Live, acquired_use, disposed_use]

theorem live_dispose_iff :
    Live (events ++ [.dispose resource]) other ↔
      Live events other ∧ other ≠ resource := by
  simp only [Live, acquired_dispose, disposed_dispose, List.mem_append,
    List.mem_singleton, not_or, and_assoc]

/-- Nothing was acquired twice, disposed of twice, or disposed of without having
been acquired. -/
structure Balanced (events : List (Event Resource)) : Prop where
  distinct : ((acquired events).map Prod.fst).Nodup
  once : (disposed events).Nodup
  known : ∀ resource ∈ disposed events,
    resource ∈ (acquired events).map Prod.fst

namespace Balanced

theorem nil : Balanced ([] : List (Event Resource)) where
  distinct := List.nodup_nil
  once := List.nodup_nil
  known := by
    intro resource impossible
    cases impossible

theorem acquire (balanced : Balanced events)
    (fresh : resource ∉ (acquired events).map Prod.fst) :
    Balanced (events ++ [.acquire resource needs]) where
  distinct := by
    rw [acquired_acquire, List.map_append]
    refine balanced.distinct.append (List.nodup_singleton _) ?_
    intro other member new
    obtain rfl := List.mem_singleton.mp new
    exact fresh member
  once := by
    rw [disposed_acquire]
    exact balanced.once
  known := by
    rw [disposed_acquire, acquired_acquire, List.map_append]
    intro other member
    exact List.mem_append_left _ (balanced.known other member)

theorem use (balanced : Balanced events) (resources : List Resource) :
    Balanced (events ++ [.use resources]) := by
  constructor <;> simp only [acquired_use, disposed_use]
  · exact balanced.distinct
  · exact balanced.once
  · exact balanced.known

theorem dispose (balanced : Balanced events) (live : Live events resource) :
    Balanced (events ++ [.dispose resource]) where
  distinct := by
    rw [acquired_dispose]
    exact balanced.distinct
  once := by
    rw [disposed_dispose]
    refine balanced.once.append (List.nodup_singleton _) ?_
    intro other member new
    obtain rfl := List.mem_singleton.mp new
    exact live.2 member
  known := by
    rw [disposed_dispose, acquired_dispose]
    intro other member
    rcases List.mem_append.mp member with earlier | last
    · exact balanced.known other earlier
    · obtain rfl := List.mem_singleton.mp last
      exact live.1

theorem live_acquire_iff (balanced : Balanced events)
    (fresh : resource ∉ (acquired events).map Prod.fst) :
    Live (events ++ [.acquire resource needs]) other ↔
      Live events other ∨ other = resource := by
  have undisposed : resource ∉ disposed events :=
    fun member => fresh (balanced.known resource member)
  simp only [Live, acquired_acquire, disposed_acquire, List.map_append,
    List.map_cons, List.map_nil, List.mem_append, List.mem_singleton]
  constructor
  · rintro ⟨old | new, alive⟩
    · exact Or.inl ⟨old, alive⟩
    · exact Or.inr new
  · rintro (⟨old, alive⟩ | rfl)
    · exact ⟨Or.inl old, alive⟩
    · exact ⟨Or.inr rfl, undisposed⟩

end Balanced

end Disposal
