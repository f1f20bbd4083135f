/-
The call of a hand-off over a one-shot channel.

Each call makes a channel of its own.  It asks while the channel is empty, and
what the channel holds is its answer.
-/
import MsquicAsio.Lib.Handoff
import MsquicAsio.Lib.Oneshot

set_option autoImplicit false

namespace Port

variable {O : Oneshot} {Message : Type}

def call (port : Port O Message) (own : Option Nat) : HandoffCall Message :=
  match own with
  | none => .idle
  | some id =>
      match port.value? id with
      | none => .asking
      | some message => .answered message

variable {port : Port O Message} {own : Option Nat} {pending : Bool}
  {message : Message}

theorem call_of_held {id : Nat} (held : port.value? id = some message) :
    port.call (some id) = .answered message := by
  simp only [call, held]

theorem call_of_unsent {id : Nat} (unsent : port.value? id = none) :
    port.call (some id) = .asking := by
  simp only [call, unsent]

theorem call_renew (port : Port O Message) :
    port.renew.call (some port.channels.next) = .asking :=
  call_of_unsent port.channels.live_create.2

theorem call_afterSend {id : Nat} (txAt : port.tx = some id)
    (live : port.channels.Live id) :
    (port.afterSend message).call (some id) = .answered message := by
  apply call_of_held
  rw [(port.afterSend_of_live message txAt live).2.2.2.2 id, if_pos rfl]

theorem call_answered (port : Port O Message) (message : Message) :
    (port.renew.afterSend message).call (some port.channels.next) =
      .answered message :=
  call_afterSend rfl port.channels.live_create

private theorem Settles.asks (settles : port.Settles pending own)
    (raised : pending = true) : port.call own = .asking := by
  obtain ⟨id, same, _, live⟩ := settles.armed raised
  rw [same]
  exact call_of_unsent live.2

/-- A callback that looks at the flag before it sends refuses the call, or
leaves it as it is. -/
theorem Settles.refused {Item : Type} {kind : HandoffKind Item Message}
    (settles : port.Settles pending own) (refusal : kind.gives message = false) :
    (port.call own).Refused kind ((port.settle pending message).call own) := by
  cases pending with
  | false =>
      exact Or.inl rfl
  | true =>
      obtain ⟨id, same, txAt, live⟩ := settles.armed rfl
      refine Or.inr ⟨settles.asks rfl, message, ?_, refusal⟩
      rw [same]
      exact call_afterSend txAt live

end Port
