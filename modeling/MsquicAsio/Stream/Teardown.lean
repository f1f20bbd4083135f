/-
The assertions of SHUTDOWN_COMPLETE.

They say that nobody sends and nothing is left to read.  `async_send` raises
its flag without the lock before it calls msquic, and a RECEIVE event that no
reader waited for stays with the stream until `async_receive` fetches it; either
may be so when SHUTDOWN_COMPLETE comes.
-/
import MsquicAsio.Stream.AnyCalls

set_option autoImplicit false

namespace MsquicAsio

variable {O : Oneshot}

def StreamAssert.isTeardown : StreamAssert → Bool
  | .shutdownCompleteSendUnset => true
  | .shutdownCompleteFrontendUnset => true
  | .shutdownCompleteBackendUnset => true
  | _ => false

namespace StreamWorld

/-- SHUTDOWN_COMPLETE comes last, and after the SEND_COMPLETE of every accepted
`StreamSend`. -/
def tornLast : Environment (StreamWorld O) StreamAction :=
  fun actions world action =>
    world.callable action = true ∧
      (action.isEvent = true → .event .shutdownComplete ∉ actions) ∧
      (action = .event .shutdownComplete → world.sendOwed = false)

instance (actions : List StreamAction) (world : StreamWorld O)
    (action : StreamAction) : Decidable (tornLast actions world action) :=
  inferInstanceAs (Decidable (_ ∧ (_ → _) ∧ (_ → _)))

/-- None of the assertions at the end of SHUTDOWN_COMPLETE has failed. -/
def TearsDown (world : StreamWorld O) : Prop :=
  ∀ place ∈ world.ctx.failed, place.isTeardown = false

/-- A RECEIVE event came while no reader waited, and no `async_receive` was
called since. -/
def Unread (O : Oneshot) (actions : List StreamAction) : Prop :=
  ∃ early buffers later,
    actions = early ++ .event (.receive buffers) :: later ∧
      ((streamMachine O).exec early).ctx.pending.receiveFrontend = false ∧
      ∀ action ∈ later, action.isReceive = false

/-- When SHUTDOWN_COMPLETE comes to its assertions, no `async_send` is between
raising its flag and the call, and no RECEIVE is unread. -/
def TornWhenIdle (actions : List StreamAction) (world : StreamWorld O)
    (action : StreamAction) : Prop :=
  action = .event .shutdownComplete → world.ctx.Answerable →
    world.send.raising = false ∧ ¬Unread O actions

/-! ### A RECEIVE that nobody has read -/

private theorem not_unread_nil : ¬Unread O [] := by
  rintro ⟨early, buffers, later, impossible, _⟩
  cases early <;> cases impossible

private theorem unread_append_iff (actions : List StreamAction)
    (action : StreamAction) :
    Unread O (actions ++ [action]) ↔
      (∃ buffers, action = .event (.receive buffers)) ∧
          ((streamMachine O).exec actions).ctx.pending.receiveFrontend =
            false ∨
        action.isReceive = false ∧ Unread O actions := by
  constructor
  · rintro ⟨early, buffers, later, whole, unwaited, unread⟩
    rcases List.eq_nil_or_concat later with rfl | ⟨middle, last, rfl⟩
    · obtain ⟨rfl, same⟩ := List.append_inj' whole rfl
      exact Or.inl ⟨⟨buffers, List.singleton_inj.mp same⟩, unwaited⟩
    · have split : actions ++ [action] =
          (early ++ .event (.receive buffers) :: middle) ++ [last] := by
        rw [whole, List.append_assoc, List.cons_append, List.concat_eq_append]
      obtain ⟨rfl, same⟩ := List.append_inj' split rfl
      obtain rfl := List.singleton_inj.mp same
      refine Or.inr ⟨unread action (by simp), early, buffers, middle, rfl,
        unwaited, ?_⟩
      intro other member
      exact unread other (by simp [member])
  · rintro (⟨⟨buffers, rfl⟩, unwaited⟩ |
      ⟨noCall, early, buffers, later, rfl, unwaited, unread⟩)
    · exact ⟨actions, buffers, [], rfl, unwaited, by simp⟩
    · refine ⟨early, buffers, later ++ [action], by simp, unwaited, ?_⟩
      intro other member
      rcases List.mem_append.mp member with inside | last
      · exact unread other inside
      · obtain rfl := List.mem_singleton.mp last
        exact noCall

variable {world : StreamWorld O} {actions : List StreamAction}

private theorem Loose.backend_step (loose : world.Loose)
    (action : StreamAction) :
    (world.step action).ctx.pending.receiveBackend = true ↔
      (∃ buffers, action = .event (.receive buffers)) ∧
          world.ctx.pending.receiveFrontend = false ∨
        action.isReceive = false ∧
          world.ctx.pending.receiveBackend = true := by
  -- a step that concerns neither side of the equivalence
  have unchanged : ∀ after : AsioServerStreamCtx O,
      after.pending.receiveBackend = world.ctx.pending.receiveBackend →
      (∀ buffers, action ≠ .event (.receive buffers)) →
      action.isReceive = false →
      (after.pending.receiveBackend = true ↔
        (∃ buffers, action = .event (.receive buffers)) ∧
            world.ctx.pending.receiveFrontend = false ∨
          action.isReceive = false ∧
            world.ctx.pending.receiveBackend = true) := by
    intro after same noEvent noCall
    rw [same, noCall]
    constructor
    · exact fun raised => Or.inr ⟨rfl, raised⟩
    · rintro (⟨⟨buffers, isReceive⟩, _⟩ | ⟨_, raised⟩)
      · exact absurd isReceive (noEvent buffers)
      · exact raised
  by_cases isEvent : ∃ event, action = .event event
  · obtain ⟨event, rfl⟩ := isEvent
    by_cases last : event = .shutdownComplete
    · subst last
      refine unchanged _ ?_ (by simp) rfl
      change (world.deliver .shutdownComplete).ctx.pending.receiveBackend = _
      rcases ctx_shutdownComplete loose.waits with ⟨_, same⟩ | ⟨_, same⟩ <;>
        (rw [same]; rfl)
    · have finished : (world.step (.event event)).ctx =
          world.ctx.after event := ctx_event loose.waits last
      rw [finished]
      cases event with
      | receive buffers =>
          have flag : (world.ctx.after (.receive buffers)).pending.receiveBackend =
              (world.ctx.pending.receiveBackend ||
                !world.ctx.pending.receiveFrontend) := rfl
          rw [flag, Bool.or_eq_true, Bool.not_eq_true']
          constructor
          · rintro (raised | unwaited)
            · exact Or.inr ⟨rfl, raised⟩
            · exact Or.inl ⟨⟨buffers, rfl⟩, unwaited⟩
          · rintro (⟨_, unwaited⟩ | ⟨_, raised⟩)
            · exact Or.inr unwaited
            · exact Or.inl raised
      | startComplete | sendComplete | peerSendShutdown | peerSendAborted
      | shutdownComplete | other =>
          exact unchanged _ rfl (by simp) rfl
  · by_cases isCall : ∃ lpBuffer bufferLen,
        action = .receive lpBuffer bufferLen
    · obtain ⟨lpBuffer, bufferLen, rfl⟩ := isCall
      have fetched : (world.step (.receive lpBuffer
          bufferLen)).ctx.pending.receiveBackend = false := by
        simp only [StreamWorld.step, world.ctx.asyncReceive_eq,
          Exec.finalState, AsioServerStreamCtx.afterFirstReader]
        split
        · rfl
        · rename_i lowered
          split <;> exact Bool.eq_false_iff.mpr lowered
      rw [fetched]
      simp [StreamAction.isReceive]
    · have same := world.receiveSide_frontEnd action
        (fun event equal => isEvent ⟨event, equal⟩)
        (fun lpBuffer bufferLen equal => isCall ⟨lpBuffer, bufferLen, equal⟩)
      simp only [receiveSide, Prod.mk.injEq] at same
      refine unchanged _ same.2.1
        (fun buffers equal => isEvent ⟨_, equal⟩) ?_
      cases action with
      | receive lpBuffer bufferLen => exact absurd ⟨_, _, rfl⟩ isCall
      | event | start | send | receiveInitiate | receiveHandler
      | receiveInvoke | shutdown | shutdownInitiate | shutdownHandler => rfl

private theorem Loose.failed_step (loose : world.Loose) {action : StreamAction}
    (other : action ≠ .event .shutdownComplete) (safe : world.TearsDown) :
    (world.step action).TearsDown := by
  have added : ∀ (after : AsioServerStreamCtx O) (extra : List StreamAssert),
      after.failed = world.ctx.failed ++ extra →
      (∀ place ∈ extra, place.isTeardown = false) →
      ∀ place ∈ after.failed, place.isTeardown = false := by
    intro after extra same harmless place member
    rw [same] at member
    rcases List.mem_append.mp member with old | new
    · exact safe place old
    · exact harmless place new
  have one : ∀ {name : StreamAssert} {condition : Bool},
      name.isTeardown = false →
      ∀ place ∈ violated name condition, place.isTeardown = false := by
    intro name condition harmless place member
    obtain ⟨_, rfl⟩ := mem_violated.mp member
    exact harmless
  cases action with
  | event event =>
      have last : event ≠ .shutdownComplete :=
        fun same => other (congrArg StreamAction.event same)
      have finished : (world.step (.event event)).ctx =
          world.ctx.after event := ctx_event loose.waits last
      unfold TearsDown
      rw [finished]
      cases event with
      | startComplete | sendComplete | receive | peerSendAborted =>
          exact added _ _ rfl (one rfl)
      | peerSendShutdown => exact added _ [] rfl (by simp)
      | other => exact safe
      | shutdownComplete => exact absurd rfl last
  | start step =>
      simp only [StreamWorld.step, asyncStart]
      split
      · exact safe
      · exact added _ _ rfl (one rfl)
  | send step =>
      simp only [StreamWorld.step, asyncSend]
      split
      · exact safe
      · exact added _ _ rfl (one rfl)
  | receive lpBuffer bufferLen =>
      simp only [StreamWorld.step, world.ctx.asyncReceive_eq, Exec.finalState]
      exact added _ _ rfl (one rfl)
  | receiveHandler ec =>
      simp only [StreamWorld.step]
      split
      · exact safe
      · refine added _ _ rfl ?_
        intro place member
        unfold ReceivePart.handlerFailures at member
        split at member
        · split at member
          · cases member
          · rcases List.mem_append.mp member with copy | bound
            · exact one rfl place copy
            · exact one rfl place bound
        · cases member
  | shutdown status =>
      simp only [StreamWorld.step, world.ctx.asyncShutdown_eq, Exec.finalState]
      split
      · exact safe
      · split <;> exact safe
  | receiveInitiate | shutdownInitiate | shutdownHandler =>
      simp only [StreamWorld.step]
      split <;> exact safe
  | receiveInvoke => exact safe

/-- SHUTDOWN_COMPLETE, in exactly the named cases, fails none. -/
private theorem Loose.shutdownComplete_tearsDown_iff (loose : world.Loose)
    (unsent : world.sendOwed = false) (safe : world.TearsDown) :
    (world.step (.event .shutdownComplete)).TearsDown ↔
      (world.ctx.Answerable → world.send.raising = false ∧
        world.ctx.pending.receiveBackend = false) := by
  have sending : world.ctx.pending.send = (world.send.raising || false) := by
    rw [← unsent]
    exact loose.send.pending_eq
  rw [Bool.or_false] at sending
  change (∀ place ∈ (world.deliver .shutdownComplete).ctx.failed, _) ↔ _
  rcases ctx_shutdownComplete loose.waits with ⟨answers, same⟩ | ⟨throws, same⟩
  · have failures : (world.deliver .shutdownComplete).ctx.failed =
        world.ctx.failed ++
          (violated .shutdownCompleteSendUnset (!world.send.raising) ++
            violated .shutdownCompleteBackendUnset
              (!world.ctx.pending.receiveBackend)) := by
      rw [same, ← sending]
      rfl
    rw [failures]
    constructor
    · intro every _
      have holds : ∀ {name : StreamAssert} {flag : Bool},
          name.isTeardown = true →
          (∀ place ∈ violated name (!flag), place.isTeardown = false) →
          flag = false := by
        intro name flag isTeardown harmless
        cases flag with
        | false => rfl
        | true =>
            have failed := harmless name (mem_violated.mpr ⟨rfl, rfl⟩)
            rw [isTeardown] at failed
            cases failed
      exact ⟨holds rfl fun place member => every place
          (List.mem_append_right _ (List.mem_append_left _ member)),
        holds rfl fun place member => every place
          (List.mem_append_right _ (List.mem_append_right _ member))⟩
    · intro quiet
      obtain ⟨idle, read⟩ := quiet answers
      rw [idle, read]
      intro place member
      rw [Bool.not_false, violated, violated, if_pos rfl, if_pos rfl,
        List.append_nil, List.append_nil] at member
      exact safe place member
  · refine iff_of_true ?_ (fun answers => absurd answers throws)
    rw [same]
    intro place member
    have before : place ∈ world.ctx.failed ++ [] := member
    rw [List.append_nil] at before
    exact safe place before

private theorem loose_of_run
    (run : (streamMachine O).Run tornLast actions world) :
    world.Loose ∧
      (world.ctx.pending.receiveBackend = true ↔ Unread O actions) := by
  apply run.invariant (fun actions world => world.Loose ∧
    (world.ctx.pending.receiveBackend = true ↔ Unread O actions))
  · exact ⟨loose_initial, iff_of_false (by simp [initial, streamMachine,
      AsioServerStreamCtx.initial]) not_unread_nil⟩
  · rintro actions world action before ⟨loose, unread⟩ ⟨callable, _⟩
    refine ⟨loose.step callable, ?_⟩
    have moves := loose.backend_step action
    have tracked := unread_append_iff (O := O) actions action
    rw [← before.state_eq] at tracked
    exact moves.trans ((or_congr_right (and_congr_right fun _ => unread)).trans
      tracked.symm)

/-- No state of a run has failed an assertion of SHUTDOWN_COMPLETE, exactly
when SHUTDOWN_COMPLETE comes while no `async_send` raises its flag and nothing
is unread. -/
theorem tearsDown_iff (run : (streamMachine O).Run tornLast actions world) :
    (streamMachine O).Throughout (fun _ world => world.TearsDown) actions ↔
      (streamMachine O).EachStep TornWhenIdle actions := by
  apply run.throughout_iff
  · intro place impossible
    cases impossible
  · intro actions world action before _ allowed safe
    obtain ⟨loose, unread⟩ := loose_of_run before
    by_cases last : action = .event .shutdownComplete
    · subst last
      have read : world.ctx.pending.receiveBackend = false ↔
          ¬Unread O actions := by
        rw [← unread, Bool.not_eq_true]
      have exact_ := loose.shutdownComplete_tearsDown_iff
        (allowed.2.2 rfl) safe
      rw [read] at exact_
      exact exact_.trans ⟨fun quiet _ => quiet, fun quiet => quiet rfl⟩
    · exact iff_of_true (loose.failed_step last safe)
        (fun same => absurd same last)

def tornUnread : List StreamAction :=
  [.event (.receive [[1]]), .event .shutdownComplete]

def tornWhileSending : List StreamAction :=
  [.send (.create [1]), .send .assignTx, .send .assignRx, .send .raise,
    .event .shutdownComplete]

theorem teardown_fails :
    ((streamMachine .reference).Run tornLast tornUnread
        ((streamMachine .reference).exec tornUnread) ∧
      ¬((streamMachine .reference).exec tornUnread).TearsDown) ∧
    ((streamMachine .reference).Run tornLast tornWhileSending
        ((streamMachine .reference).exec tornWhileSending) ∧
      ¬((streamMachine .reference).exec tornWhileSending).TearsDown) := by
  refine ⟨⟨Machine.run_of_checks tornUnread (by decide), ?_⟩,
    Machine.run_of_checks tornWhileSending (by decide), ?_⟩
  · intro safe
    exact absurd (safe .shutdownCompleteBackendUnset (by decide)) (by decide)
  · intro safe
    exact absurd (safe .shutdownCompleteSendUnset (by decide)) (by decide)

def tornWhenDone : List StreamAction :=
  [.event (.receive [[1]]), .receive [0] 1, .receiveInitiate,
    .receiveHandler .success, .receiveInvoke, .send (.create [1]),
    .send .assignTx, .send .assignRx, .send .raise, .send (.call .success),
    .send .initiate, .event (.sendComplete false), .receive [0] 1,
    .event .shutdownComplete, .send (.invoke .success)]

theorem tearsDown_iff_tornWhenDone :
    (streamMachine .reference).Throughout (fun _ world => world.TearsDown)
        tornWhenDone ↔
      (streamMachine .reference).EachStep TornWhenIdle tornWhenDone :=
  tearsDown_iff (Machine.run_of_checks tornWhenDone (by decide))

end StreamWorld

end MsquicAsio
