/-
Resources that the slots of a table hold, each of them one at most.

Every resource that was ever issued is either held by exactly one slot or has
been disposed of.  The account is kept as a permutation, so that one equation on
the slot that changes settles a whole operation.
-/
import Mathlib.Data.List.Basic
import Mathlib.Data.List.Nodup
import Mathlib.Data.List.Perm.Basic

set_option autoImplicit false

universe u v

variable {Slot : Type u} {Resource : Type v}

structure Ledger (holds : Slot → Option Resource) (slots : List Slot)
    (disposed issued : List Resource) : Prop where
  balanced : (slots.filterMap holds ++ disposed).Perm issued
  distinct : issued.Nodup

namespace Ledger

variable {holds : Slot → Option Resource} {slots : List Slot}
  {disposed issued fresh dropped : List Resource}
  {index : Nat} {before after new : Slot}

/-- A slot is overwritten: what was in it, and what is put into it. -/
theorem filterMap_set_perm (at_ : slots[index]? = some before) :
    ((holds before).toList ++ (slots.set index after).filterMap holds).Perm
      ((holds after).toList ++ slots.filterMap holds) := by
  obtain ⟨inside, rfl⟩ := List.getElem?_eq_some_iff.mp at_
  have cons : ∀ slot (rest : List Slot), (slot :: rest).filterMap holds =
      (holds slot).toList ++ rest.filterMap holds := by
    intro slot rest
    rw [List.filterMap_cons]
    cases holds slot <;> rfl
  have taken := (List.getElem_cons_eraseIdx_perm inside).filterMap holds
  have placed := (List.set_perm_cons_eraseIdx inside after).filterMap holds
  rw [cons] at taken placed
  have exchanged : List.Perm
      ((holds slots[index]).toList ++ ((holds after).toList ++
        (slots.eraseIdx index).filterMap holds))
      ((holds after).toList ++ ((holds slots[index]).toList ++
        (slots.eraseIdx index).filterMap holds)) := by
    rw [← List.append_assoc, ← List.append_assoc]
    exact List.perm_append_comm.append_right _
  exact ((placed.append_left _).trans exchanged).trans (taken.append_left _)

theorem empty : Ledger holds [] [] [] where
  balanced := List.Perm.nil
  distinct := List.nodup_nil

/-- The rule for one slot: what it takes up was in it or is fresh, and what it
loses is disposed of. -/
theorem set (ledger : Ledger holds slots disposed issued)
    (at_ : slots[index]? = some before)
    (flow : ((holds after).toList ++ dropped).Perm
      ((holds before).toList ++ fresh))
    (distinct : (issued ++ fresh).Nodup) :
    Ledger holds (slots.set index after) (disposed ++ dropped)
      (issued ++ fresh) where
  balanced := by
    classical
    rw [List.perm_iff_count]
    intro resource
    have overwritten :=
      (filterMap_set_perm at_ : List.Perm ((holds before).toList ++
        (slots.set index after).filterMap holds) _).count_eq resource
    have balance := ledger.balanced.count_eq resource
    have flows := flow.count_eq resource
    simp only [List.count_append] at overwritten balance flows ⊢
    omega
  distinct := distinct

/-- The rule for a new slot. -/
theorem concat (ledger : Ledger holds slots disposed issued)
    (distinct : (issued ++ (holds new).toList).Nodup) :
    Ledger holds (slots ++ [new]) disposed
      (issued ++ (holds new).toList) where
  balanced := by
    classical
    rw [List.perm_iff_count]
    intro resource
    have balance := ledger.balanced.count_eq resource
    have last : [new].filterMap holds = (holds new).toList := by
      rw [List.filterMap_cons]
      cases holds new <;> rfl
    simp only [List.filterMap_append, last, List.count_append] at balance ⊢
    omega
  distinct := distinct

/-- The rule for a slot whose contents go to a new slot. -/
theorem split (ledger : Ledger holds slots disposed issued)
    (at_ : slots[index]? = some before)
    (flow : ((holds after).toList ++ (holds new).toList).Perm
      ((holds before).toList ++ fresh))
    (distinct : (issued ++ fresh).Nodup) :
    Ledger holds (slots.set index after ++ [new]) disposed
      (issued ++ fresh) where
  balanced := by
    classical
    rw [List.perm_iff_count]
    intro resource
    have overwritten :=
      (filterMap_set_perm at_ : List.Perm ((holds before).toList ++
        (slots.set index after).filterMap holds) _).count_eq resource
    have balance := ledger.balanced.count_eq resource
    have flows := flow.count_eq resource
    have last : [new].filterMap holds = (holds new).toList := by
      rw [List.filterMap_cons]
      cases holds new <;> rfl
    simp only [List.filterMap_append, last, List.count_append] at overwritten balance flows ⊢
    omega
  distinct := distinct

/-! ### The single operations -/

theorem keep (ledger : Ledger holds slots disposed issued)
    (at_ : slots[index]? = some before) (same : holds after = holds before) :
    Ledger holds (slots.set index after) disposed issued := by
  have flow : List.Perm ((holds after).toList ++ [])
      ((holds before).toList ++ []) := by
    rw [same]
  have account := ledger.set at_ flow
    (by rw [List.append_nil]; exact ledger.distinct)
  rwa [List.append_nil, List.append_nil] at account

theorem take (ledger : Ledger holds slots disposed issued)
    (at_ : slots[index]? = some before) (empty : holds before = none)
    {resource : Resource} (takes : holds after = some resource)
    (distinct : (issued ++ [resource]).Nodup) :
    Ledger holds (slots.set index after) disposed (issued ++ [resource]) := by
  have flow : List.Perm ((holds after).toList ++ [])
      ((holds before).toList ++ [resource]) := by
    rw [empty, takes]
    exact List.Perm.refl _
  have account := ledger.set at_ flow distinct
  rwa [List.append_nil] at account

theorem drop (ledger : Ledger holds slots disposed issued)
    (at_ : slots[index]? = some before) (empty : holds after = none) :
    Ledger holds (slots.set index after)
      (disposed ++ (holds before).toList) issued := by
  have flow : List.Perm ((holds after).toList ++ (holds before).toList)
      ((holds before).toList ++ []) := by
    rw [empty, List.append_nil]
    exact List.Perm.refl _
  have account := ledger.set at_ flow
    (by rw [List.append_nil]; exact ledger.distinct)
  rwa [List.append_nil] at account

theorem concat_empty (ledger : Ledger holds slots disposed issued)
    (empty : holds new = none) :
    Ledger holds (slots ++ [new]) disposed issued := by
  have distinct : (issued ++ (holds new).toList).Nodup := by
    rw [empty, Option.toList_none, List.append_nil]
    exact ledger.distinct
  have account := ledger.concat distinct
  rwa [empty, Option.toList_none, List.append_nil] at account

theorem concat_fresh (ledger : Ledger holds slots disposed issued)
    {resource : Resource} (takes : holds new = some resource)
    (distinct : (issued ++ [resource]).Nodup) :
    Ledger holds (slots ++ [new]) disposed (issued ++ [resource]) := by
  have distinct : (issued ++ (holds new).toList).Nodup := by
    rwa [takes, Option.toList_some]
  have account := ledger.concat distinct
  rwa [takes, Option.toList_some] at account

theorem move (ledger : Ledger holds slots disposed issued)
    (at_ : slots[index]? = some before) (empty : holds after = none)
    (same : holds new = holds before) :
    Ledger holds (slots.set index after ++ [new]) disposed issued := by
  have flow : List.Perm ((holds after).toList ++ (holds new).toList)
      ((holds before).toList ++ []) := by
    rw [empty, same, List.append_nil]
    exact List.Perm.refl _
  have account := ledger.split at_ flow
    (by rw [List.append_nil]; exact ledger.distinct)
  rwa [List.append_nil] at account

theorem move_fresh (ledger : Ledger holds slots disposed issued)
    (at_ : slots[index]? = some before) {resource : Resource}
    (takes : holds after = some resource) (same : holds new = holds before)
    (distinct : (issued ++ [resource]).Nodup) :
    Ledger holds (slots.set index after ++ [new]) disposed
      (issued ++ [resource]) :=
  ledger.split at_ (by rw [takes, same]; exact List.perm_append_comm) distinct

/-! ### What a balanced ledger says -/

private theorem nodup (ledger : Ledger holds slots disposed issued) :
    (slots.filterMap holds ++ disposed).Nodup :=
  ledger.balanced.nodup_iff.mpr ledger.distinct

theorem disposed_nodup (ledger : Ledger holds slots disposed issued) :
    disposed.Nodup :=
  ledger.nodup.of_append_right

theorem issued_of_disposed (ledger : Ledger holds slots disposed issued)
    {resource : Resource} (gone : resource ∈ disposed) : resource ∈ issued :=
  ledger.balanced.mem_iff.mp (List.mem_append_right _ gone)

theorem issued_of_held (ledger : Ledger holds slots disposed issued)
    {resource : Resource} (at_ : slots[index]? = some before)
    (held : holds before = some resource) : resource ∈ issued :=
  ledger.balanced.mem_iff.mp (List.mem_append_left _
    (List.mem_filterMap.mpr ⟨before, List.mem_of_getElem? at_, held⟩))

theorem not_disposed_of_held (ledger : Ledger holds slots disposed issued)
    {resource : Resource} (at_ : slots[index]? = some before)
    (held : holds before = some resource) : resource ∉ disposed := by
  intro gone
  exact List.disjoint_of_nodup_append ledger.nodup
    (List.mem_filterMap.mpr ⟨before, List.mem_of_getElem? at_, held⟩) gone

theorem held_of_issued (ledger : Ledger holds slots disposed issued)
    {resource : Resource} (member : resource ∈ issued)
    (kept : resource ∉ disposed) :
    ∃ (index : Nat) (slot : Slot), slots[index]? = some slot ∧
      holds slot = some resource := by
  have either := ledger.balanced.mem_iff.mpr member
  have inSlots := (List.mem_append.mp either).resolve_right kept
  obtain ⟨slot, inTable, held⟩ := List.mem_filterMap.mp inSlots
  obtain ⟨index, at_⟩ := List.getElem?_of_mem inTable
  exact ⟨index, slot, at_, held⟩

theorem holder_unique (ledger : Ledger holds slots disposed issued)
    {resource : Resource} {other : Nat} {slot : Slot}
    (at_ : slots[index]? = some before) (held : holds before = some resource)
    (otherAt : slots[other]? = some slot)
    (otherHeld : holds slot = some resource) : index = other := by
  have once := ledger.nodup.of_append_left
  clear ledger
  induction slots generalizing index other with
  | nil => cases at_
  | cons first rest ih =>
      have inRest : ∀ {position : Nat} {found : Slot},
          rest[position]? = some found → holds found = some resource →
            resource ∈ rest.filterMap holds := by
        intro position found foundAt foundHeld
        exact List.mem_filterMap.mpr
          ⟨found, List.mem_of_getElem? foundAt, foundHeld⟩
      cases index with
      | zero =>
          cases other with
          | zero => rfl
          | succ other =>
              cases at_
              rw [List.filterMap_cons_some held] at once
              exact absurd (inRest otherAt otherHeld) (List.nodup_cons.mp once).1
      | succ index =>
          cases other with
          | zero =>
              cases otherAt
              rw [List.filterMap_cons_some otherHeld] at once
              exact absurd (inRest at_ held) (List.nodup_cons.mp once).1
          | succ other =>
              have rests : (rest.filterMap holds).Nodup := by
                rw [List.filterMap_cons] at once
                cases firstHolds : holds first with
                | none => simpa only [firstHolds] using once
                | some found =>
                    simp only [firstHolds] at once
                    exact (List.nodup_cons.mp once).2
              exact congrArg (· + 1) (ih at_ otherAt rests)

/-- Once the slots are empty, all that was issued has been disposed of. -/
theorem disposed_perm_issued (ledger : Ledger holds slots disposed issued)
    (empty : ∀ slot ∈ slots, holds slot = none) : disposed.Perm issued := by
  have nothing : slots.filterMap holds = [] :=
    List.filterMap_eq_nil_iff.mpr empty
  have balance := ledger.balanced
  rwa [nothing, List.nil_append] at balance

end Ledger
