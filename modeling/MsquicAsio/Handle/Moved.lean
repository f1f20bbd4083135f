/-
Moving a handle with operations outstanding.

Events find the context wherever it is, since msquic holds a pointer to it.  The
lambdas that `async_initiate` and `async_wait` were given hold the object
instead, and look the context up in it when they run.
-/
import MsquicAsio.Connection.Moved
import MsquicAsio.Stream.Moved

set_option autoImplicit false

namespace MsquicAsio

/-- For streams and connections: after the move every operation is told what it
is told without the move, exactly when none that was called before the move
reads its receiver after it. -/
theorem moved_undisturbed_iff (O : Oneshot) :
    (∀ (before after : List (ObjectAction StreamAction))
        (state : ObjectState (StreamWorld O) StreamPositions StreamOutcome),
      ((streamOperations O).machine .initial).Run (streamOperations O).inOrder
          (before ++ after) state →
      (streamOperations O).AllReturned (ObjectAction.numbers before)
          (((streamOperations O).machine .initial).exec before) →
      (((streamOperations O).movedMachine .initial before).Throughout
          ((streamOperations O).Undisturbed .initial before) after ↔
        ((streamOperations O).movedMachine .initial before).EachStep
          ((streamOperations O).StaysLocal before) after)) ∧
    (∀ (before after : List (ObjectAction ConnectionAction))
        (state : ObjectState (ConnectionWorld O) ConnectionPositions
          ConnectionOutcome),
      ((connectionOperations O).machine .initial).Run
          (connectionOperations O).inOrder (before ++ after) state →
      (connectionOperations O).AllReturned (ObjectAction.numbers before)
          (((connectionOperations O).machine .initial).exec before) →
      (((connectionOperations O).movedMachine .initial before).Throughout
          ((connectionOperations O).Undisturbed .initial before) after ↔
        ((connectionOperations O).movedMachine .initial before).EachStep
          ((connectionOperations O).StaysLocal before) after)) := by
  constructor
  · intro before after state run returned
    exact ObjectOperations.undisturbed_iff run returned
  · intro before after state run returned
    exact ObjectOperations.undisturbed_iff run returned

/-! ### A reader and an accepting call that are moved -/

def receiveOutstanding : List (ObjectAction StreamAction) :=
  [.operation 0 (.receive [0] 1), .operation 0 .receiveInitiate]

def receiveArrives : List (ObjectAction StreamAction) :=
  [.outside (.event (.receive [[7]])),
    .operation 0 (.receiveHandler .success), .operation 0 .receiveInvoke]

def acceptOutstanding : List (ObjectAction ConnectionAction) :=
  [.operation 0 .accept, .operation 0 .acceptInitiate]

def streamArrives : List (ObjectAction ConnectionAction) :=
  [.outside (.event (.peerStreamStarted 7)), .outside (.streamStarted .acquire),
    .outside (.streamStarted .assertAccept),
    .outside (.streamStarted .clearAccept),
    .outside (.streamStarted .setCallback), .outside (.streamStarted .send),
    .operation 0 (.acceptHandler .success)]

theorem moved_operations_crash :
    (((streamOperations .reference).machine .initial).Run
        (streamOperations .reference).inOrder
        (receiveOutstanding ++ receiveArrives)
        (((streamOperations .reference).machine .initial).exec
          (receiveOutstanding ++ receiveArrives)) ∧
      (((streamOperations .reference).machine .initial).exec
        (receiveOutstanding ++ receiveArrives)).told =
          [(0, .receive ⟨some 0, .success, 1, 1, [7]⟩)] ∧
      ¬(streamOperations .reference).Undisturbed .initial receiveOutstanding
        receiveArrives
        (((streamOperations .reference).movedMachine .initial
          receiveOutstanding).exec receiveArrives)) ∧
    (((connectionOperations .reference).machine .initial).Run
        (connectionOperations .reference).inOrder
        (acceptOutstanding ++ streamArrives)
        (((connectionOperations .reference).machine .initial).exec
          (acceptOutstanding ++ streamArrives)) ∧
      (((connectionOperations .reference).machine .initial).exec
        (acceptOutstanding ++ streamArrives)).told =
          [(0, .accept (.success, .assign 7))] ∧
      ¬(connectionOperations .reference).Undisturbed .initial acceptOutstanding
        streamArrives
        (((connectionOperations .reference).movedMachine .initial
          acceptOutstanding).exec streamArrives)) := by
  refine ⟨⟨Machine.run_of_checks _ (by decide), by decide, ?_⟩,
    Machine.run_of_checks _ (by decide), by decide, ?_⟩
  · intro undisturbed
    exact absurd undisturbed.1 (by decide)
  · intro undisturbed
    exact absurd undisturbed.1 (by decide)

/-- Another reader takes the place of the one that waits. -/
def readerReplaced : List (ObjectAction StreamAction) :=
  [.operation 1 (.receive [0] 1), .operation 0 (.receiveHandler .oneshot),
    .operation 0 .receiveInvoke, .operation 1 .receiveInitiate,
    .outside (.event (.receive [[7]])),
    .operation 1 (.receiveHandler .success), .operation 1 .receiveInvoke]

/-- The connection is shut down while nothing else is outstanding. -/
def shutdownAfterMove : List (ObjectAction ConnectionAction) :=
  [.operation 1 .shutdown, .operation 1 .shutdownInitiate,
    .outside (.event .shutdownComplete),
    .operation 1 (.shutdownHandler .success)]

theorem moved_undisturbed_iff_replaced :
    (((streamOperations .reference).movedMachine .initial
        receiveOutstanding).Throughout
        ((streamOperations .reference).Undisturbed .initial receiveOutstanding)
        readerReplaced ↔
      ((streamOperations .reference).movedMachine .initial
        receiveOutstanding).EachStep
        ((streamOperations .reference).StaysLocal receiveOutstanding)
        readerReplaced) ∧
    (((connectionOperations .reference).movedMachine .initial
        (acceptOutstanding ++ streamArrives)).Throughout
        ((connectionOperations .reference).Undisturbed .initial
          (acceptOutstanding ++ streamArrives)) shutdownAfterMove ↔
      ((connectionOperations .reference).movedMachine .initial
        (acceptOutstanding ++ streamArrives)).EachStep
        ((connectionOperations .reference).StaysLocal
          (acceptOutstanding ++ streamArrives)) shutdownAfterMove) :=
  ⟨(moved_undisturbed_iff .reference).1 _ _ _
      (Machine.run_of_checks _ (by decide)) (by decide),
    (moved_undisturbed_iff .reference).2 _ _ _
      (Machine.run_of_checks _ (by decide)) (by decide)⟩

end MsquicAsio
