/-
A pipe: what is written at one end is read at the other.

Chunks are written and chunks are read, and where one ends says nothing about
the other.  A read takes the first of what is inside.  The writer closes the
pipe, after which nothing is written, and the reader is told of the end only
when everything was read.
-/
import MsquicAsio.Lib.Refinement

set_option autoImplicit false

universe u

structure Pipe (Item : Type u) where
  /-- What was written and not read, in order. -/
  inside : List Item
  closed : Bool

inductive PipeAction (Item : Type u)
  | write (chunk : List Item)
  | close
  | read (chunk : List Item)
  | finish

namespace PipeAction

variable {Item : Type u}

def written : PipeAction Item → Option (List Item)
  | .write chunk => some chunk
  | _ => none

def taken : PipeAction Item → Option (List Item)
  | .read chunk => some chunk
  | _ => none

end PipeAction

namespace Pipe

variable {Item : Type u}

def initial : Pipe Item where
  inside := []
  closed := false

def step (pipe : Pipe Item) : PipeAction Item → Pipe Item
  | .write chunk => { pipe with inside := pipe.inside ++ chunk }
  | .close => { pipe with closed := true }
  | .read chunk => { pipe with inside := pipe.inside.drop chunk.length }
  | .finish => pipe

def rules (_ : List (PipeAction Item)) (pipe : Pipe Item) :
    PipeAction Item → Prop
  | .write _ => pipe.closed = false
  | .close => True
  | .read chunk => chunk <+: pipe.inside
  | .finish => pipe.closed = true ∧ pipe.inside = []

end Pipe

def pipeMachine (Item : Type u) : Machine (Pipe Item) (PipeAction Item) where
  initial := .initial
  step := Pipe.step

namespace Pipe

variable {Item : Type u} {actions : List (PipeAction Item)} {pipe : Pipe Item}

/-- What was written was read, in the same order, or is still inside; and once
the end was told nothing is inside and nothing more comes. -/
structure Conserved (actions : List (PipeAction Item)) (pipe : Pipe Item) :
    Prop where
  order : (actions.filterMap PipeAction.written).flatten =
    (actions.filterMap PipeAction.taken).flatten ++ pipe.inside
  ended : .finish ∈ actions → pipe.closed = true ∧ pipe.inside = []

private theorem Conserved.initial : Conserved [] (initial : Pipe Item) where
  order := rfl
  ended := by intro impossible; cases impossible

private theorem Conserved.step (conserved : pipe.Conserved actions)
    {action : PipeAction Item} (allowed : rules actions pipe action) :
    (pipe.step action).Conserved (actions ++ [action]) := by
  have earlier : ∀ other, other ∈ actions ++ [action] → other ≠ action →
      other ∈ actions := by
    intro other member different
    rcases List.mem_append.mp member with before | last
    · exact before
    · exact absurd (List.mem_singleton.mp last) different
  have order := conserved.order
  constructor
  · rw [Machine.filterMap_concat, Machine.filterMap_concat,
      List.flatten_append, List.flatten_append, order]
    cases action with
    | write chunk =>
        simp only [PipeAction.written, PipeAction.taken, Pipe.step,
          Option.toList_some, Option.toList_none, List.flatten_singleton,
          List.flatten_nil, List.append_nil, List.append_assoc]
    | read chunk =>
        obtain ⟨rest, split⟩ : chunk <+: pipe.inside := allowed
        simp only [PipeAction.written, PipeAction.taken, Pipe.step,
          Option.toList_some, Option.toList_none, List.flatten_singleton,
          List.flatten_nil, List.append_nil, ← split, List.drop_left,
          List.append_assoc]
    | close | finish =>
        simp only [PipeAction.written, PipeAction.taken, Pipe.step,
          Option.toList_none, List.flatten_nil, List.append_nil]
  · intro told
    cases action with
    | write chunk =>
        have still : pipe.closed = false := allowed
        have closed := (conserved.ended (earlier _ told (by simp))).1
        rw [still] at closed
        cases closed
    | close => exact ⟨rfl, (conserved.ended (earlier _ told (by simp))).2⟩
    | read chunk =>
        obtain ⟨closed, empty⟩ := conserved.ended (earlier _ told (by simp))
        refine ⟨closed, ?_⟩
        rw [Pipe.step, empty, List.drop_nil]
    | finish => exact allowed

theorem conserved_of_run (run : (pipeMachine Item).Run rules actions pipe) :
    pipe.Conserved actions := by
  apply run.invariant (fun actions pipe => pipe.Conserved actions)
    Conserved.initial
  intro actions pipe action _ conserved allowed
  exact conserved.step allowed

theorem run_closed (run : (pipeMachine Item).Run rules actions pipe)
    (closes : Bool) :
    (pipeMachine Item).Run rules
      (actions ++ if closes = true then [.close] else [])
      { pipe with closed := pipe.closed || closes } := by
  cases closes with
  | false =>
      apply run.stays
      rw [Bool.or_false]
  | true =>
      have allowed : rules actions pipe .close := trivial
      apply run.follows allowed
      rw [Bool.or_true]
      rfl

/-- A read that takes a number of items off the pipe is one of its reads
exactly if it shows the first ones. -/
theorem read_iff {chunk : List Item} {count : Nat}
    (short : chunk.length ≤ count) (enough : count ≤ pipe.inside.length) :
    rules actions pipe (.read chunk) ∧
        { pipe with inside := pipe.inside.drop count } =
          pipe.step (.read chunk) ↔
      chunk = pipe.inside.take count := by
  constructor
  · intro ⟨first, same⟩
    have lengths := congrArg (fun pipe => pipe.inside.length) same
    simp only [Pipe.step, List.length_drop] at lengths
    have whole : chunk.length = count := by omega
    rw [← whole]
    exact List.prefix_iff_eq_take.mp first
  · intro same
    have whole : chunk.length = count := by
      rw [same, List.length_take]
      omega
    refine ⟨?_, ?_⟩
    · rw [same]
      exact List.take_prefix count pipe.inside
    · rw [Pipe.step, whole]

end Pipe
