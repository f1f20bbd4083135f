/-
How many of its own statements a call still has to run.

Each statement of a call in progress brings it nearer to its handler, and the
only places where it has to wait for msquic are the event that an unlocked call
is owed and the raised flag of a locked one.
-/
import MsquicAsio.Operation

set_option autoImplicit false

namespace MsquicAsio

variable {O : Oneshot} {Message : Type}

/-! ### Operations that take no lock -/

/-- The statements up to the invocation of the handler, with one to spare for
the event that msquic owes an accepted call. -/
def UnlockedOp.remaining : UnlockedOp → Nat
  | .idle => 0
  | .created _ _ => 8
  | .txAssigned _ _ => 7
  | .rxAssigned _ _ => 6
  | .raised _ _ => 5
  | .callFailed _ _ => 4
  | .lowered _ _ => 3
  | .ready _ _ => 2
  | .waiting _ _ _ => 1

def UnlockedStep.continues : UnlockedStep → Bool
  | .create _ => false
  | _ => true

namespace UnlockedSlot

theorem remaining_step (owed : Bool) {slot after : UnlockedSlot O}
    {action : UnlockedStep} (enabled : slot.enabled action = true)
    (stepped : slot.step action = some after)
    (continues : action.continues = true) :
    after.op.remaining + (owed || action.accepted).toNat <
      slot.op.remaining + owed.toNat := by
  have makes := makes_of_step enabled stepped
  generalize result : some after = result at makes
  cases makes with
  | create => cases continues
  | assignTx | assignRx | raise | lower =>
      obtain rfl := Option.some.inj result
      simp only [UnlockedOp.remaining, UnlockedStep.accepted, Bool.or_false]
      omega
  | fails pending port id buffers status failed =>
      obtain rfl := Option.some.inj result
      simp only [UnlockedOp.remaining, UnlockedStep.accepted, failed,
        Bool.not_true, Bool.or_false]
      omega
  | accepts pending port id buffers status accepted =>
      obtain rfl := Option.some.inj result
      have most := Bool.toNat_le (owed || (UnlockedStep.call status).accepted)
      simp only [UnlockedOp.remaining]
      omega
  | sendFailure =>
      obtain ⟨port, _, rfl⟩ := Option.map_eq_some_iff.mp result.symm
      simp only [UnlockedOp.remaining, UnlockedStep.accepted, Bool.or_false]
      omega
  | initiate =>
      obtain ⟨wait, _, rfl⟩ := Option.map_eq_some_iff.mp result.symm
      simp only [UnlockedOp.remaining, UnlockedStep.accepted, Bool.or_false]
      omega
  | invoke =>
      have idle : after.op = .idle := by
        split at result
        · obtain rfl := Option.some.inj result
          rfl
        · obtain ⟨outcome, _, rfl⟩ := Option.map_eq_some_iff.mp result.symm
          rfl
      simp only [idle, UnlockedOp.remaining, UnlockedStep.accepted,
        Bool.or_false]
      omega

/-- A call to which nothing is owed can always run its next statement. -/
theorem Sound.goesOn {slot : UnlockedSlot O} (sound : slot.Sound false)
    (busy : slot.op ≠ .idle) :
    ∃ action, action.continues = true ∧ action.accepted = false ∧
      slot.enabled action = true := by
  have answered : ∀ id, slot.op.own = some id → _ := @sound.answered
  obtain ⟨pending, port, op⟩ := slot
  cases op with
  | idle => exact absurd rfl busy
  | created => exact ⟨.assignTx, rfl, rfl, rfl⟩
  | txAssigned => exact ⟨.assignRx, rfl, rfl, rfl⟩
  | rxAssigned => exact ⟨.raise, rfl, rfl, rfl⟩
  | raised => exact ⟨.call .failure, rfl, rfl, rfl⟩
  | callFailed => exact ⟨.lower, rfl, rfl, rfl⟩
  | lowered => exact ⟨.sendFailure, rfl, rfl, rfl⟩
  | ready => exact ⟨.initiate, rfl, rfl, rfl⟩
  | waiting id wait len =>
      obtain ⟨outcome, held⟩ := answered id rfl
      obtain rfl : wait = id := sound.1
      refine ⟨.invoke .success, rfl, rfl, ?_⟩
      change waitCompletes port wait .success = true
      have heldThere : port.value? wait = some outcome := held
      simp only [waitCompletes, heldThere, decide_true]

end UnlockedSlot

/-! ### Operations whose work is done under the lock -/

def LockedOp.remaining : LockedOp → Nat
  | .idle => 0
  | .ready _ => 2
  | .waiting _ _ => 1

namespace LockedSlot

theorem remaining_initiate {slot after : LockedSlot O Message}
    (ready : (slot.op matches .ready _) = true)
    (initiated : slot.initiate = some after) :
    after.op.remaining < slot.op.remaining := by
  cases at_ : slot.op with
  | idle | waiting =>
      rw [at_] at ready
      exact absurd ready (by simp)
  | ready own =>
      simp only [initiate, at_] at initiated
      obtain ⟨wait, _, rfl⟩ := Option.map_eq_some_iff.mp initiated
      simp only [LockedOp.remaining]
      omega

theorem remaining_handler {slot : LockedSlot O Message} {ec : ErrorCode}
    (ends : slot.completes ec = true) :
    LockedOp.idle.remaining < slot.op.remaining := by
  unfold completes at ends
  split at ends
  · rename_i own wait at_
    simp only [at_, LockedOp.remaining]
    omega
  · cases ends

theorem Sound.goesOn {slot : LockedSlot O Message} (sound : slot.Sound)
    (lowered : slot.pending = false) (busy : slot.op ≠ .idle) :
    (slot.op matches .ready _) = true ∨ slot.completes .success = true := by
  cases at_ : slot.op with
  | idle => exact absurd at_ busy
  | ready own => exact Or.inl rfl
  | waiting own wait =>
      right
      obtain ⟨_, same⟩ := sound.waiting own wait at_
      have settles := sound.settles
      rw [at_] at settles
      rcases settles.answered wait same with raised | ⟨message, held⟩
      · rw [lowered] at raised
        cases raised
      · simp only [LockedSlot.completes, at_, waitCompletes, held, decide_true]

end LockedSlot

end MsquicAsio
