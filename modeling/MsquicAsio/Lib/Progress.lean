/-
What a machine comes to when nothing new is asked of it.

Some of the actions are its own: they finish what has begun, and the outside
world adds nothing to them.  A goal is inevitable from a point of a run when
every schedule of own actions is bounded from there, and none can stop before
the goal holds.  The rule asks for a measure that each own action lowers.
-/
import MsquicAsio.Lib.Machine

set_option autoImplicit false

universe u v

namespace Machine

variable {State : Type u} {Action : Type v} {machine : Machine State Action}
  {environment : Environment State Action} {own : Action → Bool}
  {goal : State → Prop} {actions more : List Action} {state : State}

def Continues (machine : Machine State Action)
    (environment : Environment State Action) (own : Action → Bool)
    (actions more : List Action) (state : State) : Prop :=
  machine.Run environment (actions ++ more) state ∧
    ∀ action ∈ more, own action = true

def Quiet (environment : Environment State Action) (own : Action → Bool)
    (actions : List Action) (state : State) : Prop :=
  ∀ action, own action = true → ¬environment actions state action

/-- However the own actions are scheduled from here, they come to an end, and
at the end the goal holds. -/
structure Inevitable (machine : Machine State Action)
    (environment : Environment State Action) (own : Action → Bool)
    (goal : State → Prop) (actions : List Action) : Prop where
  bounded : ∃ bound, ∀ more state,
    machine.Continues environment own actions more state → more.length ≤ bound
  ends : ∀ more state,
    machine.Continues environment own actions more state →
      Quiet environment own (actions ++ more) state → goal state

theorem Continues.nil (run : machine.Run environment actions state) :
    machine.Continues environment own actions [] state := by
  refine ⟨?_, ?_⟩
  · rwa [List.append_nil]
  · intro action member
    cases member

theorem Continues.concat {action : Action}
    (continues : machine.Continues environment own actions more state)
    (isOwn : own action = true)
    (allowed : environment (actions ++ more) state action) :
    machine.Continues environment own actions (more ++ [action])
      (machine.step state action) := by
  refine ⟨?_, ?_⟩
  · rw [← List.append_assoc]
    exact .step continues.1 allowed
  · intro other member
    rcases List.mem_append.mp member with earlier | last
    · exact continues.2 other earlier
    · rwa [List.mem_singleton.mp last]

/-- The induction rule for continuations, from the point where they start. -/
theorem Continues.invariant (Invariant : List Action → State → Prop)
    (run : machine.Run environment actions state) (start : Invariant [] state)
    (preserved : ∀ more state action,
      machine.Continues environment own actions more state →
      Invariant more state → own action = true →
      environment (actions ++ more) state action →
        Invariant (more ++ [action]) (machine.step state action))
    {final : State}
    (continues : machine.Continues environment own actions more final) :
    Invariant more final := by
  induction more using List.reverseRecOn generalizing final with
  | nil =>
      have same := continues.1
      rw [List.append_nil] at same
      rw [same.state_eq, ← run.state_eq]
      exact start
  | append_singleton more action ih =>
      obtain ⟨whole, allOwn⟩ := continues
      rw [← List.append_assoc] at whole
      obtain ⟨previous, before, allowed, rfl⟩ := whole.last
      have shorter : machine.Continues environment own actions more previous :=
        ⟨before, fun other member =>
          allOwn other (List.mem_append_left _ member)⟩
      exact preserved _ _ _ shorter (ih shorter)
        (allOwn action (List.mem_append_right _ (List.mem_singleton_self _)))
        allowed

private theorem Continues.keeps {Keeps : List Action → State → Prop}
    {measure : List Action → State → Nat}
    (run : machine.Run environment actions state) (kept : Keeps actions state)
    (step : ∀ actions state action, machine.Run environment actions state →
      Keeps actions state → own action = true →
      environment actions state action →
        Keeps (actions ++ [action]) (machine.step state action) ∧
          measure (actions ++ [action]) (machine.step state action) <
            measure actions state)
    {final : State}
    (continues : machine.Continues environment own actions more final) :
    Keeps (actions ++ more) final ∧
      measure (actions ++ more) final + more.length ≤
        measure actions state := by
  apply continues.invariant (fun more final => Keeps (actions ++ more) final ∧
    measure (actions ++ more) final + more.length ≤ measure actions state) run
  · rw [List.append_nil]
    exact ⟨kept, Nat.le_refl _⟩
  · intro more state action before ⟨keptBefore, lower⟩ isOwn allowed
    obtain ⟨keptAfter, less⟩ :=
      step _ _ _ before.1 keptBefore isOwn allowed
    rw [← List.append_assoc, List.length_append, List.length_singleton]
    exact ⟨keptAfter, by omega⟩

/-- The rule for what is inevitable. -/
theorem Run.inevitable (Keeps : List Action → State → Prop)
    (measure : List Action → State → Nat)
    (run : machine.Run environment actions state) (kept : Keeps actions state)
    (step : ∀ actions state action, machine.Run environment actions state →
      Keeps actions state → own action = true →
      environment actions state action →
        Keeps (actions ++ [action]) (machine.step state action) ∧
          measure (actions ++ [action]) (machine.step state action) <
            measure actions state)
    (stops : ∀ actions state, machine.Run environment actions state →
      Keeps actions state → Quiet environment own actions state →
        goal state) :
    machine.Inevitable environment own goal actions where
  bounded := by
    refine ⟨measure actions state, fun more final continues => ?_⟩
    have lower := (continues.keeps run kept step).2
    omega
  ends := by
    intro more final continues quiet
    exact stops _ _ continues.1 (continues.keeps run kept step).1 quiet

theorem exists_quiet {bound : Nat}
    (bounded : ∀ more state,
      machine.Continues environment own actions more state →
        more.length ≤ bound)
    (continues : machine.Continues environment own actions more state) :
    ∃ longer final,
      machine.Continues environment own actions longer final ∧
        Quiet environment own (actions ++ longer) final := by
  induction slack : bound - more.length generalizing more state with
  | zero =>
      refine ⟨more, state, continues, ?_⟩
      intro action isOwn allowed
      have longer := bounded _ _ (continues.concat isOwn allowed)
      rw [List.length_append, List.length_singleton] at longer
      omega
  | succ slack ih =>
      by_cases quiet : Quiet environment own (actions ++ more) state
      · exact ⟨more, state, continues, quiet⟩
      · simp only [Quiet, not_forall, not_not] at quiet
        obtain ⟨action, isOwn, allowed⟩ := quiet
        apply ih (continues.concat isOwn allowed)
        rw [List.length_append, List.length_singleton]
        omega

theorem Inevitable.reached
    (inevitable : machine.Inevitable environment own goal actions)
    (run : machine.Run environment actions state) :
    ∃ more final, machine.Continues environment own actions more final ∧
      Quiet environment own (actions ++ more) final ∧ goal final := by
  obtain ⟨bound, bounded⟩ := inevitable.bounded
  obtain ⟨more, final, continues, quiet⟩ :=
    exists_quiet bounded (Continues.nil run)
  exact ⟨more, final, continues, quiet, inevitable.ends _ _ continues quiet⟩

theorem not_inevitable (Keeps : List Action → State → Prop)
    (run : machine.Run environment actions state) (kept : Keeps actions state)
    (step : ∀ actions state action, machine.Run environment actions state →
      Keeps actions state → own action = true →
      environment actions state action →
        Keeps (actions ++ [action]) (machine.step state action))
    (away : ∀ actions state, Keeps actions state → ¬goal state) :
    ¬machine.Inevitable environment own goal actions := by
  intro inevitable
  obtain ⟨more, final, continues, _, reached⟩ := inevitable.reached run
  refine away (actions ++ more) final ?_ reached
  apply continues.invariant (fun more final => Keeps (actions ++ more) final)
    run
  · rwa [List.append_nil]
  · intro more state action before keptBefore isOwn allowed
    rw [← List.append_assoc]
    exact step _ _ _ before.1 keptBefore isOwn allowed

end Machine
