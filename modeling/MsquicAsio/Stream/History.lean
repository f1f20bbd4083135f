/-
The receiving part of a stream as a machine of its own, and what its state
remembers of the events that were delivered.

Runs of the stream project onto runs of this machine, so the results about
receiving are proved here once and carried over by `StreamWorld.receiveRun`.
-/
import MsquicAsio.Stream.Sound

set_option autoImplicit false

namespace MsquicAsio

variable {O : Oneshot}

/-! ### Reading a history -/

def StreamAction.indicated : StreamAction → Option (List Buffer)
  | .event (.receive buffers) => some buffers
  | _ => none

/-- The three events after which the peer sends nothing more. -/
def StreamAction.terminal : StreamAction → Option StreamEvent
  | .event .peerSendShutdown => some .peerSendShutdown
  | .event .peerSendAborted => some .peerSendAborted
  | .event .shutdownComplete => some .shutdownComplete
  | _ => none

def lastTerminal (actions : List StreamAction) : Option StreamEvent :=
  (actions.filterMap StreamAction.terminal).getLast?

def stateAfter : Option StreamEvent → StreamState
  | some .peerSendShutdown => .peerShutdown
  | some .peerSendAborted => .peerAbort
  | some .shutdownComplete => .shutdownComplete
  | _ => .ok

theorem lastTerminal_append (actions : List StreamAction)
    (action : StreamAction) :
    lastTerminal (actions ++ [action]) =
      action.terminal.or (lastTerminal actions) := by
  simp only [lastTerminal, List.filterMap_append, List.getLast?_append,
    List.filterMap_cons, List.filterMap_nil]
  cases action.terminal with
  | none => rfl
  | some event => rfl

theorem lastTerminal_mem {actions : List StreamAction} {event : StreamEvent}
    (last : lastTerminal actions = some event) :
    StreamAction.event event ∈ actions := by
  have member := List.mem_of_getLast? last
  obtain ⟨action, inside, same⟩ := List.mem_filterMap.mp member
  unfold StreamAction.terminal at same
  split at same
  all_goals
    first
    | obtain rfl := Option.some.inj same
      exact inside
    | cases same

theorem stateAfter_eq_ok_iff (actions : List StreamAction) :
    stateAfter (lastTerminal actions) = .ok ↔ lastTerminal actions = none := by
  cases last : lastTerminal actions with
  | none =>
      exact ⟨fun _ => rfl, fun _ => rfl⟩
  | some event =>
      obtain ⟨action, _, same⟩ :=
        List.mem_filterMap.mp (List.mem_of_getLast? last)
      constructor
      · intro open_
        unfold StreamAction.terminal at same
        split at same
        all_goals
          first
          | obtain rfl := Option.some.inj same
            cases open_
          | cases same
      · intro impossible
        cases impossible

/-! ### The machine -/

def ReceivePart.under (condition : Environment (ReceivePart O) StreamAction) :
    Environment (ReceivePart O) StreamAction :=
  fun actions part action =>
    part.enabled action = true ∧ condition actions part action

def receiveMachine (O : Oneshot) : Machine (ReceivePart O) StreamAction where
  initial := (StreamWorld.initial : StreamWorld O).receivePart
  step := ReceivePart.next

def StreamWorld.under (condition : Environment (ReceivePart O) StreamAction) :
    Environment (StreamWorld O) StreamAction :=
  fun actions world action =>
    world.enabled action = true ∧ condition actions world.receivePart action

instance (condition : Environment (ReceivePart O) StreamAction)
    [∀ actions part action, Decidable (condition actions part action)]
    (actions : List StreamAction) (world : StreamWorld O)
    (action : StreamAction) :
    Decidable (StreamWorld.under condition actions world action) :=
  inferInstanceAs (Decidable (_ ∧ _))

theorem StreamWorld.lockedRun
    {condition : Environment (ReceivePart O) StreamAction}
    {actions : List StreamAction} {world : StreamWorld O}
    (run : (streamMachine O).Run (under condition) actions world) :
    world.Locked :=
  locked_of_run (run.mono fun _ _ _ allowed => allowed.1)

theorem StreamWorld.receiveRun
    {condition : Environment (ReceivePart O) StreamAction}
    {actions : List StreamAction} {world : StreamWorld O}
    (run : (streamMachine O).Run (under condition) actions world) :
    (receiveMachine O).Run (ReceivePart.under condition) actions
      world.receivePart := by
  apply run.project StreamWorld.receivePart rfl
  intro actions world action before _ allowed
  have locked := StreamWorld.lockedRun before
  constructor
  · exact ⟨Locked.part_enabled allowed.1, allowed.2⟩
  · exact world.receivePart_step action locked.guarded

theorem receivePart_exec
    {condition : Environment (ReceivePart O) StreamAction}
    {actions : List StreamAction} {world : StreamWorld O}
    (run : (streamMachine O).Run (StreamWorld.under condition) actions world) :
    (receiveMachine O).exec actions = ((streamMachine O).exec actions).receivePart := by
  rw [← run.state_eq]
  exact (StreamWorld.receiveRun run).state_eq.symm

/-! ### What the receiving part remembers -/

namespace ReceivePart

variable {condition : Environment (ReceivePart O) StreamAction}

theorem sound_of_run {actions : List StreamAction} {part : ReceivePart O}
    (run : (receiveMachine O).Run (under condition) actions part) :
    part.Sound := by
  apply run.invariant (fun _ part => part.Sound) sound_initial
  intro actions part action _ sound allowed
  exact sound.next allowed.1

theorem next_cases (part : ReceivePart O) (action : StreamAction) :
    (∃ event, action = .event event) ∨
      (∃ lpBuffer bufferLen, action = .receive lpBuffer bufferLen) ∨
      action.terminal = none ∧ action.indicated = none ∧
        ∃ op delivery reads results, part.next action =
          { part with
            op := op, delivery := delivery, reads := reads, results := results } := by
  cases action with
  | event event =>
      exact Or.inl ⟨event, rfl⟩
  | receive lpBuffer bufferLen =>
      exact Or.inr (Or.inl ⟨lpBuffer, bufferLen, rfl⟩)
  | receiveInitiate =>
      refine Or.inr (Or.inr ⟨rfl, rfl, ?_⟩)
      simp only [next]
      cases initiated : part.initiate with
      | none => exact ⟨_, _, _, _, rfl⟩
      | some after => exact ⟨_, _, _, _, initiate_keeps initiated⟩
  | receiveHandler ec =>
      refine Or.inr (Or.inr ⟨rfl, rfl, ?_⟩)
      simp only [next]
      cases handled : part.handler ec with
      | none => exact ⟨_, _, _, _, rfl⟩
      | some after => exact ⟨_, _, _, _, handler_keeps handled⟩
  | receiveInvoke =>
      refine Or.inr (Or.inr ⟨rfl, rfl, ?_⟩)
      simp only [next, invoke]
      split <;> exact ⟨_, _, _, _, rfl⟩
  | start | send | shutdown | shutdownInitiate | shutdownHandler =>
      exact Or.inr (Or.inr ⟨rfl, rfl, _, _, _, _, rfl⟩)

private theorem state_next (part : ReceivePart O) (action : StreamAction) :
    (part.next action).state =
      if action.terminal = none then part.state
      else stateAfter action.terminal := by
  rcases part.next_cases action with
    ⟨event, rfl⟩ | ⟨lpBuffer, bufferLen, rfl⟩ | ⟨quiet, _, _, _, _, _, same⟩
  · cases event <;> rfl
  · simp only [next, called, StreamAction.terminal, if_true]
    split
    · rfl
    · split <;> rfl
  · rw [same, if_pos quiet]

theorem state_of_run {actions : List StreamAction} {part : ReceivePart O}
    (run : (receiveMachine O).Run (under condition) actions part) :
    part.state = stateAfter (lastTerminal actions) := by
  apply run.invariant
    (fun actions part =>
      part.state = stateAfter (lastTerminal actions)) rfl
  intro actions part action _ same _
  change (part.next action).state = _
  rw [part.state_next, lastTerminal_append]
  cases terminal : action.terminal with
  | none => simp only [if_true, Option.none_or, same]
  | some event => simp only [reduceCtorEq, if_false, Option.some_or]

private theorem received_next (part : ReceivePart O) (action : StreamAction) :
    (part.next action).received.map Prod.snd =
      part.received.map Prod.snd ++ action.indicated.toList := by
  rcases part.next_cases action with
    ⟨event, rfl⟩ | ⟨lpBuffer, bufferLen, rfl⟩ | ⟨_, quiet, _, _, _, _, same⟩
  · cases event with
    | receive buffers =>
        simp only [next, indicated, StreamAction.indicated, List.map_append,
          List.map_cons, List.map_nil, Option.toList_some]
    | startComplete | sendComplete | peerSendShutdown | peerSendAborted
    | shutdownComplete | other =>
        exact (List.append_nil _).symm
  · simp only [next, called, StreamAction.indicated, Option.toList_none,
      List.append_nil]
    split
    · rfl
    · split <;> rfl
  · rw [same, quiet, Option.toList_none, List.append_nil]

theorem received_of_run {actions : List StreamAction} {part : ReceivePart O}
    (run : (receiveMachine O).Run (under condition) actions part) :
    part.received.map Prod.snd = actions.filterMap StreamAction.indicated := by
  apply run.invariant
    (fun actions part =>
      part.received.map Prod.snd = actions.filterMap StreamAction.indicated) rfl
  intro actions part action _ same _
  change (part.next action).received.map Prod.snd = _
  rw [part.received_next, same, List.filterMap_append, List.filterMap_cons,
    List.filterMap_nil]
  cases action.indicated <;> rfl

theorem value?_next (part : ReceivePart O) (action : StreamAction) {id : Nat}
    {held : ReceiveMessage} (before : part.port.value? id = some held) :
    (part.next action).port.value? id = some held := by
  have renewed : ∀ message,
      (part.port.renew.afterSend message).value? id = some held := by
    intro message
    apply Port.value?_afterSend_of_held
    rw [Port.value?_renew]
    exact before
  rcases part.next_cases action with
    ⟨event, rfl⟩ | ⟨lpBuffer, bufferLen, rfl⟩ | ⟨_, _, _, _, _, _, same⟩
  · cases event with
    | receive buffers =>
        simp only [next, indicated, target]
        split
        · exact part.port.value?_afterSend_of_held _ before
        · exact renewed _
    | peerSendShutdown | peerSendAborted | shutdownComplete =>
        exact Port.value?_settle_of_held _ part.port _ before
    | startComplete | sendComplete | other => exact before
  · simp only [next, called]
    split
    · exact before
    · split
      · exact (part.port.value?_renew id).trans before
      · exact renewed _
  · rw [same]
    exact before

theorem value?_of_prefix {early actions : List StreamAction}
    {part : ReceivePart O}
    (run : (receiveMachine O).Run (under condition) actions part)
    (isPrefix : early <+: actions) {id : Nat} {held : ReceiveMessage}
    (before : ((receiveMachine O).exec early).port.value? id = some held) :
    part.port.value? id = some held := by
  apply run.invariant_from
    (fun _ part => part.port.value? id = some held) before _ isPrefix
  intro actions part action _ _ kept _
  exact part.value?_next action kept

end ReceivePart

end MsquicAsio
