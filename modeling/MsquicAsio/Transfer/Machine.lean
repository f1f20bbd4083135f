/-
One direction of a stream that connects two handles.

The sending handle and the receiving one live in different processes, so their
steps interleave freely, and each of them may use its own other direction as it
likes.  Between them stands msquic: it takes the bytes of an accepted
`StreamSend`, indicates them to the peer in their order, cut into RECEIVE events
in its own way, and indicates the end when the sender has finished and
everything before it was indicated.
-/
import MsquicAsio.Lib.Family
import MsquicAsio.Stream.Integrity
import MsquicAsio.Stream.SendOutcome

set_option autoImplicit false

namespace MsquicAsio

variable {O : Oneshot}

def bufferLengths (buffers : List Buffer) : List UInt32 :=
  buffers.map fun buffer => UInt32.ofNat buffer.length

/-- `Length` is a `uint32_t`. -/
def Describable (buffers : List Buffer) : Prop :=
  ∀ buffer ∈ buffers, buffer.length < 2 ^ 32

instance (buffers : List Buffer) : Decidable (Describable buffers) :=
  inferInstanceAs (Decidable (∀ buffer ∈ buffers, _))

theorem totalBytes_bufferLengths {buffers : List Buffer}
    (describable : Describable buffers) :
    totalBytes (bufferLengths buffers) = buffers.flatten.length := by
  induction buffers with
  | nil =>
      rfl
  | cons buffer rest ih =>
      have small := describable buffer (List.mem_cons_self ..)
      have others : Describable rest := fun other member =>
        describable other (List.mem_cons_of_mem _ member)
      have length : (UInt32.ofNat buffer.length).toNat = buffer.length := by
        rw [UInt32.toNat_ofNat']
        exact Nat.mod_eq_of_lt small
      have same := ih others
      simp only [totalBytes, bufferLengths, List.map_cons, List.sum_cons,
        List.flatten_cons, List.length_append] at same ⊢
      omega

def StreamAction.sendAccepted : StreamAction → Bool
  | .send step => step.accepted
  | _ => false

def StreamAction.endsOrSends : StreamAction → Bool
  | .send (.create _) => true
  | .shutdown _ => true
  | _ => false

inductive TransferAction
  /-- `async_send`, up to the creation of its channel; `fin` says whether
  `Flags` has QUIC_SEND_FLAG_FIN. -/
  | send (buffers : List Buffer) (fin : Bool)
  /-- `async_shutdown` of the sending handle; `graceful` says whether `Flags`
  has QUIC_STREAM_SHUTDOWN_FLAG_GRACEFUL. -/
  | shutdown (graceful : Bool) (status : QuicStatus)
  | sender (action : StreamAction)
  | receiver (action : StreamAction)
  deriving DecidableEq

namespace TransferAction

def sender? : TransferAction → Option StreamAction
  | .send buffers _ => some (.send (.create (bufferLengths buffers)))
  | .shutdown _ status => some (.shutdown status)
  | .sender action => some action
  | .receiver _ => none

def receiver? : TransferAction → Option StreamAction
  | .receiver action => some action
  | _ => none

end TransferAction

structure TransferWorld (O : Oneshot) where
  sender : StreamWorld O
  receiver : StreamWorld O
  /-- The buffers of the last `async_send`, and whether it had the flag. -/
  buffers : List Buffer
  fin : Bool
  /-- The bytes of each `StreamSend` that msquic accepted. -/
  accepted : List (List UInt8)
  /-- msquic accepted a FIN or a graceful shutdown. -/
  finished : Bool

namespace TransferWorld

def initial : TransferWorld O where
  sender := .initial
  receiver := .initial
  buffers := []
  fin := false
  accepted := []
  finished := false

def shutsDown (world : TransferWorld O) (status : QuicStatus) : Bool :=
  !status.quicFailed && decide (world.sender.ctx.state ≠ .shutdownComplete)

def step (world : TransferWorld O) : TransferAction → TransferWorld O
  | .send buffers fin =>
      { world with
        sender := world.sender.step (.send (.create (bufferLengths buffers)))
        buffers := buffers
        fin := fin }
  | .shutdown graceful status =>
      { world with
        sender := world.sender.step (.shutdown status)
        finished := world.finished || (graceful && world.shutsDown status) }
  | .sender action =>
      { world with
        sender := world.sender.step action
        accepted :=
          if action.sendAccepted = true then
            world.accepted ++ [world.buffers.flatten]
          else world.accepted
        finished := world.finished || (action.sendAccepted && world.fin) }
  | .receiver action =>
      { world with receiver := world.receiver.step action }

end TransferWorld

def transferMachine (O : Oneshot) : Machine (TransferWorld O) TransferAction where
  initial := .initial
  step := TransferWorld.step

namespace TransferWorld

def senderHistory (actions : List TransferAction) : List StreamAction :=
  actions.filterMap TransferAction.sender?

def receiverHistory (actions : List TransferAction) : List StreamAction :=
  actions.filterMap TransferAction.receiver?

/-- One `async_send` at a time on the one side, one `async_receive` at a time
and msquic's flow control on the other.  msquic accepts nothing after the FIN,
indicates accepted bytes only, in their order and once, and indicates the end
when the sender has finished and all of them were indicated. -/
def transferring : Environment (TransferWorld O) TransferAction :=
  fun actions world action =>
    match action with
    | .send buffers _ =>
        StreamWorld.oneSend (senderHistory actions) world.sender
            (.send (.create (bufferLengths buffers))) ∧
          Describable buffers
    | .shutdown _ status =>
        StreamWorld.oneSend (senderHistory actions) world.sender
          (.shutdown status)
    | .sender action =>
        StreamWorld.oneSend (senderHistory actions) world.sender action ∧
          action.endsOrSends = false ∧
          (action.sendAccepted = true → world.finished = false)
    | .receiver action =>
        StreamWorld.under ReceivePart.flowControl (receiverHistory actions)
            world.receiver action ∧
          indicatedBytes (receiverHistory actions ++ [action]) <+:
            world.accepted.flatten ∧
          (action.graceful = true → world.finished = true ∧
            indicatedBytes (receiverHistory actions ++ [action]) =
              world.accepted.flatten)

instance (actions : List TransferAction) (world : TransferWorld O)
    (action : TransferAction) : Decidable (transferring actions world action) :=
  match action with
  | .send _ _ => inferInstanceAs (Decidable (_ ∧ _))
  | .shutdown _ status => inferInstanceAs (Decidable
      (StreamWorld.oneSend (senderHistory actions) world.sender
        (.shutdown status)))
  | .sender _ => inferInstanceAs (Decidable (_ ∧ _ ∧ (_ → _)))
  | .receiver _ => inferInstanceAs (Decidable (_ ∧ _ ∧ (_ → _ ∧ _)))

/-! ### Both ends inside the transfer -/

def senderPart : Machine.Component (transferMachine O) (streamMachine O) where
  route := TransferAction.sender?
  view := TransferWorld.sender
  start := rfl
  own := by
    intro world action step routed
    cases action with
    | send | shutdown | sender =>
        obtain rfl := Option.some.inj routed
        rfl
    | receiver => cases routed
  other := by
    intro world action routed
    cases action with
    | send | shutdown | sender => cases routed
    | receiver => rfl

def receiverPart : Machine.Component (transferMachine O) (streamMachine O) where
  route := TransferAction.receiver?
  view := TransferWorld.receiver
  start := rfl
  own := by
    intro world action step routed
    cases action with
    | send | shutdown | sender => cases routed
    | receiver =>
        obtain rfl := Option.some.inj routed
        rfl
  other := by
    intro world action routed
    cases action with
    | send | shutdown | sender => rfl
    | receiver => cases routed

variable {actions : List TransferAction} {world : TransferWorld O}

private theorem oneSend_of_transferring {action : TransferAction}
    {step : StreamAction}
    (allowed : transferring actions world action)
    (routed : action.sender? = some step) :
    StreamWorld.oneSend (senderHistory actions) world.sender step := by
  cases action with
  | send | sender =>
      obtain rfl := Option.some.inj routed
      exact allowed.1
  | shutdown =>
      obtain rfl := Option.some.inj routed
      exact allowed
  | receiver => cases routed

theorem senderRun (run : (transferMachine O).Run transferring actions world) :
    (streamMachine O).Run StreamWorld.oneSend (senderHistory actions)
      world.sender :=
  senderPart.run (fun _ _ _ _ => oneSend_of_transferring) run

theorem receiverRun (run : (transferMachine O).Run transferring actions world) :
    (streamMachine O).Run (StreamWorld.under ReceivePart.flowControl)
      (receiverHistory actions) world.receiver := by
  refine receiverPart.run ?_ run
  intro actions world action step allowed routed
  cases action with
  | send | shutdown | sender => cases routed
  | receiver =>
      obtain rfl := Option.some.inj routed
      exact allowed.1

/-! ### What msquic keeps between them -/

/-- Only accepted bytes were indicated, and once the end was indicated all of
them were, and no more are accepted. -/
structure Between (actions : List TransferAction) (world : TransferWorld O) :
    Prop where
  ahead : indicatedBytes (receiverHistory actions) <+: world.accepted.flatten
  ended : (receiverHistory actions).any StreamAction.graceful = true →
    world.finished = true ∧
      indicatedBytes (receiverHistory actions) = world.accepted.flatten

theorem receiverHistory_concat (actions : List TransferAction)
    (action : TransferAction) :
    receiverHistory (actions ++ [action]) =
      receiverHistory actions ++ action.receiver?.toList :=
  Machine.filterMap_concat _ _ _

private theorem Between.sent (between : world.Between actions)
    {action : TransferAction} {after : TransferWorld O}
    (notReceiver : action.receiver? = none)
    (more : world.accepted.flatten <+: after.accepted.flatten)
    (closed : world.finished = true →
      after.finished = true ∧ after.accepted = world.accepted) :
    after.Between (actions ++ [action]) := by
  have same : receiverHistory (actions ++ [action]) =
      receiverHistory actions := by
    rw [receiverHistory_concat, notReceiver]
    exact List.append_nil _
  refine ⟨?_, ?_⟩
  · rw [same]
    exact between.ahead.trans more
  · rw [same]
    intro ended
    obtain ⟨finished, whole⟩ := between.ended ended
    obtain ⟨still, sameBytes⟩ := closed finished
    refine ⟨still, ?_⟩
    rw [sameBytes]
    exact whole

private theorem Between.received (between : world.Between actions)
    {action : StreamAction}
    (allowed : transferring actions world (.receiver action)) :
    (world.step (.receiver action)).Between
      (actions ++ [.receiver action]) := by
  have more : receiverHistory (actions ++ [.receiver action]) =
      receiverHistory actions ++ [action] := receiverHistory_concat _ _
  obtain ⟨_, ahead, ending⟩ := allowed
  refine ⟨?_, ?_⟩
  · rw [more]
    exact ahead
  · rw [more, List.any_append, Bool.or_eq_true]
    intro ended
    rcases ended with earlier | now
    · obtain ⟨finished, whole⟩ := between.ended earlier
      have still : indicatedBytes (receiverHistory actions ++ [action]) =
          world.accepted.flatten := by
        apply List.IsPrefix.eq_of_length_le ahead
        rw [← whole, indicatedBytes_concat, List.length_append]
        omega
      exact ⟨finished, still⟩
    · apply ending
      simpa only [List.any_cons, List.any_nil, Bool.or_false] using now

private theorem Between.step (between : world.Between actions)
    {action : TransferAction} (allowed : transferring actions world action) :
    (world.step action).Between (actions ++ [action]) := by
  cases action with
  | send buffers fin =>
      apply between.sent rfl
      · exact List.prefix_rfl
      · exact fun finished => ⟨finished, rfl⟩
  | shutdown graceful status =>
      apply between.sent rfl
      · exact List.prefix_rfl
      · intro finished
        refine ⟨?_, rfl⟩
        change (world.finished || _) = true
        rw [finished, Bool.true_or]
  | sender action =>
      obtain ⟨_, _, still⟩ := allowed
      cases accepts : action.sendAccepted with
      | false =>
          have same : (world.step (.sender action)).accepted =
              world.accepted := by
            simp only [TransferWorld.step, accepts, Bool.false_eq_true,
              if_false]
          apply between.sent rfl
          · rw [same]
          · intro finished
            refine ⟨?_, same⟩
            simp only [TransferWorld.step, finished, Bool.true_or]
      | true =>
          apply between.sent rfl
          · simp only [TransferWorld.step, accepts, if_true,
              List.flatten_append]
            exact List.prefix_append _ _
          · intro finished
            rw [still accepts] at finished
            cases finished
  | receiver action => exact between.received allowed

theorem between_of_run
    (run : (transferMachine O).Run transferring actions world) :
    world.Between actions := by
  apply run.invariant (fun actions world => world.Between actions)
  · refine ⟨List.prefix_rfl, ?_⟩
    intro impossible
    cases impossible
  · intro actions world action _ between allowed
    exact between.step allowed

end TransferWorld

end MsquicAsio
