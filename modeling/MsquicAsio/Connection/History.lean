/-
What happened so far on a connection.

The environments and the invariants of the connection speak about the actions
taken: which streams were started, whether a shutdown event came, and which
calls and events were processed in which order.
-/
import MsquicAsio.Connection.Machine

set_option autoImplicit false

namespace MsquicAsio

def ConnectionAction.startedStream : ConnectionAction → Option Hquic
  | .event (.peerStreamStarted stream) => some stream
  | _ => none

def startedStreams (actions : List ConnectionAction) : List Hquic :=
  actions.filterMap ConnectionAction.startedStream

theorem startedStreams_append (actions : List ConnectionAction)
    (action : ConnectionAction) :
    startedStreams (actions ++ [action]) =
      startedStreams actions ++ action.startedStream.toList := by
  simp only [startedStreams, List.filterMap_append, List.filterMap_cons,
    List.filterMap_nil]
  cases action.startedStream <;> rfl

def shutDown (actions : List ConnectionAction) : Bool :=
  actions.any ConnectionAction.isShutdown

theorem shutDown_append (actions : List ConnectionAction)
    (action : ConnectionAction) :
    shutDown (actions ++ [action]) =
      (shutDown actions || action.isShutdown) := by
  simp only [shutDown, List.any_append, List.any_cons, List.any_nil,
    Bool.or_false]

theorem not_complete_of_up {actions : List ConnectionAction}
    (up : shutDown actions = false) : .event .shutdownComplete ∉ actions := by
  intro complete
  have down : shutDown actions = true :=
    List.any_eq_true.mpr ⟨_, complete, rfl⟩
  rw [up] at down
  cases down

theorem mem_append_other {actions : List ConnectionAction}
    {action other : ConnectionAction} (different : action ≠ other) :
    other ∈ actions ++ [action] ↔ other ∈ actions := by
  rw [List.mem_append, List.mem_singleton]
  constructor
  · rintro (before | same)
    · exact before
    · exact absurd same.symm different
  · exact Or.inl

/-! ### CONNECTED and `async_connect` -/

/-- An `async_connect` was called, and no shutdown event came since. -/
def Awaited (actions : List ConnectionAction) : Prop :=
  ∃ early late, actions = early ++ .connect :: late ∧ shutDown late = false

theorem awaited_append_iff (actions : List ConnectionAction)
    (action : ConnectionAction) :
    Awaited (actions ++ [action]) ↔
      action = .connect ∨ Awaited actions ∧ action.isShutdown = false := by
  constructor
  · rintro ⟨early, late, whole, quiet⟩
    rcases List.eq_nil_or_concat late with rfl | ⟨inner, last, rfl⟩
    · obtain ⟨_, same⟩ := List.append_inj' whole rfl
      exact Or.inl (List.singleton_inj.mp same)
    · rw [List.concat_eq_append] at whole quiet
      rw [← List.cons_append, ← List.append_assoc] at whole
      obtain ⟨rfl, same⟩ := List.append_inj' whole rfl
      obtain rfl := List.singleton_inj.mp same
      rw [shutDown_append, Bool.or_eq_false_iff] at quiet
      exact Or.inr ⟨⟨early, inner, rfl, quiet.1⟩, quiet.2⟩
  · rintro (rfl | ⟨⟨early, late, rfl, quiet⟩, notShutdown⟩)
    · exact ⟨actions, [], rfl, rfl⟩
    · refine ⟨early, late ++ [action], by simp, ?_⟩
      rw [shutDown_append, quiet, notShutdown]
      rfl

theorem Awaited.called {actions : List ConnectionAction}
    (awaited : Awaited actions) : .connect ∈ actions := by
  obtain ⟨early, late, rfl, _⟩ := awaited
  exact List.mem_append_right _ List.mem_cons_self

theorem awaited_of_quiet {actions : List ConnectionAction}
    (called : .connect ∈ actions) (quiet : shutDown actions = false) :
    Awaited actions := by
  obtain ⟨early, late, rfl⟩ := List.append_of_mem called
  refine ⟨early, late, rfl, ?_⟩
  simp only [shutDown, List.any_append, List.any_cons,
    Bool.or_eq_false_iff] at quiet
  exact quiet.2.2

def BothProcessed (actions : List ConnectionAction) : Prop :=
  ∃ early, early <+: actions ∧ .connect ∈ early ∧
    .event .connected ∈ early ∧ shutDown early = false

end MsquicAsio
