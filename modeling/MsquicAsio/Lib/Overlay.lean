/-
Pieces written over each other.

A loop that copies chunks into a memory of limited room cuts them to what still
fits.  When it writes every piece to the beginning of the memory, a piece
covers what the earlier ones left there.  The module says what stands at each
place afterwards, and when that is the pieces one behind the other.
-/
import Mathlib.Data.List.Induction
import Mathlib.Logic.Nontrivial.Basic

set_option autoImplicit false

universe u

namespace Overlay

variable {Item : Type u}

/-- The memory after the pieces were written to its beginning, one after the
other. -/
def write (memory : List Item) (pieces : List (List Item)) : List Item :=
  pieces.foldl (fun memory piece => piece ++ memory.drop piece.length) memory

/-- The beginnings of the chunks that fit into the room together, without the
empty ones. -/
def fitting : Nat → List (List Item) → List (List Item)
  | _, [] => []
  | room, chunk :: rest =>
      if min room chunk.length = 0 then fitting room rest
      else chunk.take room :: fitting (room - chunk.length) rest

/-- What stands at a place of the memory: the last piece that reaches so far
wrote it. -/
def standing (memory : List Item) (pieces : List (List Item)) (place : Nat) :
    Option Item :=
  ((pieces.reverse.find? fun piece => place < piece.length).getD memory)[place]?

/-- The pieces stand one behind the other: there is at most one, or what was
written over each place is what belongs there. -/
def InPlace (memory : List Item) (pieces : List (List Item)) : Prop :=
  pieces.length ≤ 1 ∨
    ∀ place, place < pieces.flatten.length →
      standing memory pieces place = pieces.flatten[place]?

/-! ### The pieces -/

theorem fitting_flatten (room : Nat) (chunks : List (List Item)) :
    (fitting room chunks).flatten = chunks.flatten.take room := by
  induction chunks generalizing room with
  | nil => simp only [fitting, List.flatten_nil, List.take_nil]
  | cons chunk rest ih =>
      rw [fitting, List.flatten_cons, List.take_append]
      by_cases nothing : min room chunk.length = 0
      · rw [if_pos nothing, ih]
        have empty : chunk.take room = [] := by
          rw [← List.length_eq_zero_iff, List.length_take, nothing]
        have sameRest : rest.flatten.take room =
            rest.flatten.take (room - chunk.length) := by
          rcases Nat.min_eq_zero_iff.mp nothing with noRoom | noChunk
          · rw [noRoom, Nat.zero_sub]
          · rw [noChunk, Nat.sub_zero]
        rw [empty, List.nil_append, sameRest]
      · rw [if_neg nothing, List.flatten_cons, ih]

theorem fitting_nonempty (room : Nat) (chunks : List (List Item)) :
    ∀ piece ∈ fitting room chunks, piece ≠ [] := by
  induction chunks generalizing room with
  | nil =>
      intro piece impossible
      cases impossible
  | cons chunk rest ih =>
      intro piece member
      rw [fitting] at member
      split at member
      · exact ih room piece member
      · rename_i something
        rcases List.mem_cons.mp member with rfl | later
        · intro empty
          rw [← List.length_eq_zero_iff, List.length_take] at empty
          exact something empty
        · exact ih _ piece later

theorem length_fitting_le (room : Nat) (chunks : List (List Item)) :
    (fitting room chunks).length ≤
      (chunks.filter fun chunk => chunk.length ≠ 0).length := by
  induction chunks generalizing room with
  | nil => exact Nat.le_refl 0
  | cons chunk rest ih =>
      rw [fitting]
      by_cases empty : chunk.length = 0
      · rw [if_pos (by omega), List.filter_cons_of_neg (by simpa using empty)]
        exact ih room
      · rw [List.filter_cons_of_pos (by simpa using empty), List.length_cons]
        split
        · exact Nat.le_succ_of_le (ih room)
        · exact Nat.succ_le_succ (ih _)

/-! ### The memory -/

private theorem write_concat (memory : List Item) (pieces : List (List Item))
    (piece : List Item) :
    write memory (pieces ++ [piece]) =
      piece ++ (write memory pieces).drop piece.length := by
  simp only [write, List.foldl_append, List.foldl_cons, List.foldl_nil]

theorem write_drop (memory : List Item) (pieces : List (List Item))
    (room : Nat) (fits : ∀ piece ∈ pieces, piece.length ≤ room) :
    (write memory pieces).drop room = memory.drop room := by
  induction pieces using List.reverseRecOn with
  | nil => rfl
  | append_singleton pieces piece ih =>
      have inside := fits piece
        (List.mem_append_right _ (List.mem_singleton_self piece))
      rw [write_concat, List.drop_append, List.drop_drop,
        List.drop_eq_nil_of_le inside, List.nil_append,
        Nat.add_sub_of_le inside]
      exact ih fun other member => fits other (List.mem_append_left _ member)

theorem write_length (memory : List Item) (pieces : List (List Item))
    (fits : ∀ piece ∈ pieces, piece.length ≤ memory.length) :
    (write memory pieces).length = memory.length := by
  induction pieces using List.reverseRecOn with
  | nil => rfl
  | append_singleton pieces piece ih =>
      have inside := fits piece
        (List.mem_append_right _ (List.mem_singleton_self piece))
      have before := ih fun other member =>
        fits other (List.mem_append_left _ member)
      rw [write_concat, List.length_append, List.length_drop, before,
        Nat.add_sub_of_le inside]

private theorem standing_concat (memory : List Item) (pieces : List (List Item))
    (piece : List Item) (place : Nat) :
    standing memory (pieces ++ [piece]) place =
      if place < piece.length then piece[place]?
      else standing memory pieces place := by
  simp only [standing, List.reverse_append, List.reverse_singleton,
    List.singleton_append, List.find?_cons]
  by_cases reaches : place < piece.length
  · simp only [reaches, decide_true, if_true, Option.getD_some]
  · simp only [reaches, decide_false, if_false]

private theorem write_getElem? (memory : List Item) (pieces : List (List Item))
    (place : Nat) :
    (write memory pieces)[place]? = standing memory pieces place := by
  induction pieces using List.reverseRecOn with
  | nil => rfl
  | append_singleton pieces piece ih =>
      rw [write_concat, standing_concat]
      split
      · rename_i reaches
        exact List.getElem?_append_left reaches
      · rename_i beyond
        have far := Nat.le_of_not_lt beyond
        rw [List.getElem?_append_right far, List.getElem?_drop,
          Nat.add_sub_of_le far]
        exact ih

/-! ### One behind the other -/

theorem write_take_iff (memory : List Item) (pieces : List (List Item)) :
    (write memory pieces).take pieces.flatten.length = pieces.flatten ↔
      InPlace memory pieces := by
  constructor
  · intro same
    refine Or.inr fun place inside => ?_
    rw [← write_getElem?, ← List.getElem?_take_of_lt inside, same]
  · rintro (few | stands)
    · rcases pieces with _ | ⟨piece, _ | ⟨second, rest⟩⟩
      · rfl
      · simp only [write, List.foldl_cons, List.foldl_nil, List.flatten_cons,
          List.flatten_nil, List.append_nil, List.take_left]
      · simp only [List.length_cons] at few
        omega
    · apply List.ext_getElem?
      intro place
      by_cases inside : place < pieces.flatten.length
      · rw [List.getElem?_take_of_lt inside, write_getElem?, stands place inside]
      · have far := Nat.le_of_not_lt inside
        rw [List.getElem?_take_eq_none far, List.getElem?_eq_none far]

private theorem length_le_flatten (pieces : List (List Item))
    (nonempty : ∀ piece ∈ pieces, piece ≠ []) :
    pieces.length ≤ pieces.flatten.length := by
  induction pieces with
  | nil => exact Nat.le_refl _
  | cons piece rest ih =>
      have filled := List.length_pos_iff.mpr (nonempty piece List.mem_cons_self)
      have others := ih fun other member =>
        nonempty other (List.mem_cons_of_mem _ member)
      rw [List.length_cons, List.flatten_cons, List.length_append]
      omega

private theorem length_lt_flatten (pieces : List (List Item))
    (nonempty : ∀ piece ∈ pieces, piece ≠ []) (several : 1 < pieces.length) :
    ∀ piece ∈ pieces, piece.length < pieces.flatten.length := by
  intro piece member
  obtain ⟨before, after, rfl⟩ := List.append_of_mem member
  have inBefore := length_le_flatten before fun other inside =>
    nonempty other (List.mem_append_left _ inside)
  have inAfter := length_le_flatten after fun other inside =>
    nonempty other (List.mem_append_right _ (List.mem_cons_of_mem _ inside))
  simp only [List.flatten_append, List.flatten_cons, List.length_append,
    List.length_cons] at several ⊢
  omega

private theorem standing_last (memory : List Item) (pieces : List (List Item))
    (nonempty : ∀ piece ∈ pieces, piece ≠ []) (several : 1 < pieces.length) :
    standing memory pieces (pieces.flatten.length - 1) =
      memory[pieces.flatten.length - 1]? := by
  have unreached : (pieces.reverse.find? fun piece =>
      pieces.flatten.length - 1 < piece.length) = none := by
    rw [List.find?_eq_none]
    intro piece member reaches
    have short := length_lt_flatten pieces nonempty several piece
      (List.mem_reverse.mp member)
    have longer := of_decide_eq_true reaches
    omega
  rw [standing, unreached, Option.getD_none]

/-- Whatever the memory held before, the pieces come to stand one behind the
other, exactly when there is at most one. -/
theorem inPlace_always_iff [Nontrivial Item] (pieces : List (List Item))
    (nonempty : ∀ piece ∈ pieces, piece ≠ []) (room : Nat)
    (fits : pieces.flatten.length ≤ room) :
    (∀ memory : List Item, room ≤ memory.length → InPlace memory pieces) ↔
      pieces.length ≤ 1 := by
  constructor
  · intro always
    by_contra several
    have more : 1 < pieces.length := Nat.lt_of_not_le several
    have filled := length_le_flatten pieces nonempty
    have last : pieces.flatten.length - 1 < pieces.flatten.length := by omega
    obtain ⟨wrong, different⟩ :=
      exists_ne pieces.flatten[pieces.flatten.length - 1]
    rcases always (List.replicate room wrong)
      (Nat.le_of_eq List.length_replicate.symm) with few | stands
    · exact several few
    · have same := stands _ last
      rw [standing_last _ _ nonempty more, List.getElem?_replicate_of_lt
        (Nat.lt_of_lt_of_le last fits), List.getElem?_eq_getElem last] at same
      exact different (Option.some.inj same)
  · intro few memory _
    exact Or.inl few

end Overlay
