/-
The permit of `accept_bs_`.

`async_accept` raises the flag and releases a permit under one lock, and a
PEER_STREAM_STARTED callback takes the permit before it clears the flag.  A
shutdown event clears the flag alone.  The permit stays behind, and while the
connection is not down the next `async_accept` releases a second one.
-/
import MsquicAsio.Connection.Accept

set_option autoImplicit false

namespace MsquicAsio

variable {O : Oneshot}

namespace ConnectionWorld

/-- `async_accept` is called again only after its handler was invoked.  Streams
are started and shutdown events come at any time. -/
def oneAccept : Environment (ConnectionWorld O) ConnectionAction :=
  fun _ world action =>
    world.enabled action = true ∧ (action = .accept → world.accept = .idle)

instance (actions : List ConnectionAction) (world : ConnectionWorld O)
    (action : ConnectionAction) :
    Decidable (oneAccept actions world action) :=
  inferInstanceAs (Decidable (_ ∧ (_ → _)))

/-- The counter is at most 1, and it is 1 exactly when the flag is set, unless
a callback has taken the permit and not yet cleared the flag. -/
def PermitMatches (world : ConnectionWorld O) : Prop :=
  world.ctx.acceptBs ≤ 1 ∧
    (world.callback.passed = false →
      (world.ctx.acceptBs = 1 ↔ world.ctx.pending.accept = true))

def ReleasesAtZero (O : Oneshot) (actions : List ConnectionAction) : Prop :=
  ∀ early, early ++ [.accept] <+: actions →
    ((connectionMachine O).exec early).ctx.state ≠ .shutdownComplete →
      ((connectionMachine O).exec early).ctx.acceptBs = 0

def CancelsNoAccept (_ : List ConnectionAction) (world : ConnectionWorld O)
    (action : ConnectionAction) : Prop :=
  action.isShutdown = true → world.ctx.Answerable →
    world.ctx.pending.accept = false

variable {world : ConnectionWorld O} {actions : List ConnectionAction}
  {streams : List Hquic}

private theorem accepting_kept
    (accepting : world.acceptPart.Accepting streams false)
    {action : ConnectionAction} (allowed : oneAccept actions world action)
    (keeps : CancelsNoAccept actions world action) :
    (world.step action).acceptPart.Accepting
      (streams ++ action.startedStream.toList) false := by
  obtain ⟨enabled, oneAtATime⟩ := allowed
  cases shuts : action.isShutdown with
  | false =>
      have after := accepting_oneStep accepting enabled oneAtATime
        (fun _ => rfl)
      rw [shuts] at after
      exact after
  | true =>
      cases action with
      | event event =>
          have noStream :
              (ConnectionAction.event event).startedStream = none := by
            cases event <;> first | rfl | cases shuts
          rw [noStream, Option.toList_none, List.append_nil]
          change (world.deliver event).acceptPart.Accepting streams false
          rcases world.acceptPart_shutdown shuts (accept_live accepting) with
            ⟨answers, cancelled⟩ | ⟨_, kept⟩
          · have low : world.acceptPart.pending = false := keeps shuts answers
            have same : (world.deliver event).acceptPart = world.acceptPart := by
              rw [cancelled]
              simp only [low, Port.settle, Bool.false_eq_true, if_false]
              rw [← low]
            rw [same]
            exact accepting
          · rw [kept]
            exact accepting
      | streamStarted | start | connect | accept | shutdown | connectInitiate
      | connectHandler | acceptInitiate | acceptHandler | shutdownInitiate
      | shutdownHandler => cases shuts

private theorem accepting_of_conditioned
    (run : (connectionMachine O).Run oneAccept actions world)
    (steps : (connectionMachine O).EachStep CancelsNoAccept actions) :
    world.acceptPart.Accepting (startedStreams actions) false := by
  apply (run.conditioned steps).invariant (fun actions world =>
    world.acceptPart.Accepting (startedStreams actions) false) accepting_initial
  rintro actions world action _ accepting ⟨allowed, keeps⟩
  rw [startedStreams_append]
  exact accepting_kept accepting allowed keeps

private theorem permitMatches_of_accepting
    (accepting : world.acceptPart.Accepting streams false) :
    world.PermitMatches := by
  have permits : world.ctx.acceptBs =
      if (world.ctx.pending.accept && !world.callback.passed) = true
        then 1 else 0 := accepting.permits rfl
  constructor
  · rw [permits]
    split <;> omega
  · intro through
    rw [permits, through]
    cases world.ctx.pending.accept <;> simp

private theorem permit_left
    (accepting : world.acceptPart.Accepting streams false)
    {event : ConnectionEvent} (enabled : world.enabled (.event event) = true)
    (shuts : event.isShutdown = true) (answers : world.ctx.Answerable)
    (raised : world.ctx.pending.accept = true) :
    ¬(world.deliver event).PermitMatches := by
  rintro ⟨_, same⟩
  have returned : world.callback = .returned :=
    world.returned_of_event enabled
  have permits : world.ctx.acceptBs = 1 := by
    have counted := accepting.permits rfl
    simp only [acceptPart, raised, returned, StreamStarted.passed,
      Bool.not_false, Bool.and_self, if_true] at counted
    exact counted
  rcases world.acceptPart_shutdown shuts (accept_live accepting) with
    ⟨_, cancelled⟩ | ⟨stuck, _⟩
  · have left : (world.deliver event).ctx.acceptBs = 1 :=
      (congrArg AcceptPart.acceptBs cancelled).trans permits
    have lowered : (world.deliver event).ctx.pending.accept = false :=
      congrArg AcceptPart.pending cancelled
    have through : (world.deliver event).callback.passed = false := by
      rw [show (world.deliver event).callback = world.callback from
        congrArg AcceptPart.callback cancelled, returned]
      rfl
    rw [lowered] at same
    exact absurd ((same through).mp left) Bool.false_ne_true
  · exact stuck answers

/-- Permit and flag match in every state of a run, and every release finds the
counter at 0, exactly when no shutdown event cancels an `async_accept`. -/
theorem permit_matches_iff
    (run : (connectionMachine O).Run oneAccept actions world) :
    (connectionMachine O).Throughout
        (fun actions world => world.PermitMatches ∧ ReleasesAtZero O actions)
        actions ↔
      (connectionMachine O).EachStep CancelsNoAccept actions := by
  apply run.throughout_iff
  · refine ⟨permitMatches_of_accepting accepting_initial, ?_⟩
    intro early isPrefix
    exact absurd (List.prefix_nil.mp isPrefix) (by simp)
  · rintro actions world action before steps allowed ⟨_, releases⟩
    have accepting := accepting_of_conditioned before steps
    by_cases keeps : CancelsNoAccept actions world action
    · refine iff_of_true ⟨?_, ?_⟩ keeps
      · exact permitMatches_of_accepting
          (accepting_kept accepting allowed keeps)
      · intro early isPrefix notDown
        rcases List.prefix_concat_iff.mp isPrefix with same | inside
        · obtain ⟨rfl, sameAction⟩ := List.append_inj' same rfl
          obtain rfl := List.singleton_inj.mp sameAction
          rw [← before.state_eq]
          exact (accepting.idle_facts (allowed.2 rfl)).2.2.2 rfl
        · exact releases early inside notDown
    · refine iff_of_false ?_ keeps
      rintro ⟨matching, _⟩
      apply keeps
      intro shuts answers
      cases raised : world.ctx.pending.accept with
      | false => rfl
      | true =>
          cases action with
          | event event =>
              exact absurd matching
                (permit_left accepting allowed.1 shuts answers raised)
          | streamStarted | start | connect | accept | shutdown
          | connectInitiate | connectHandler | acceptInitiate | acceptHandler
          | shutdownInitiate | shutdownHandler => cases shuts

/-- The peer shuts the connection down while an accept waits; its handler runs
and the front end accepts again. -/
def acceptAfterPeerShutdown : List ConnectionAction :=
  [.accept, .acceptInitiate, .event .shutdownInitiatedByPeer,
    .acceptHandler .success, .accept]

theorem acceptAfterPeerShutdown_releases_twice :
    (connectionMachine .reference).Run oneAccept acceptAfterPeerShutdown
        ((connectionMachine .reference).exec acceptAfterPeerShutdown) ∧
      ((connectionMachine .reference).exec
        acceptAfterPeerShutdown).ctx.acceptBs = 2 ∧
      ¬ReleasesAtZero .reference acceptAfterPeerShutdown := by
  refine ⟨Machine.run_of_checks acceptAfterPeerShutdown (by decide),
    by decide, ?_⟩
  intro releases
  have atZero := releases [.accept, .acceptInitiate,
    .event .shutdownInitiatedByPeer, .acceptHandler .success]
    List.prefix_rfl (by decide)
  exact absurd atZero (by decide)

/-- An accept that a stream completes before the connection goes down. -/
def acceptBeforePeerShutdown : List ConnectionAction :=
  [.accept, .acceptInitiate, .event (.peerStreamStarted 7),
    .streamStarted .acquire, .streamStarted .assertAccept,
    .streamStarted .clearAccept, .streamStarted .setCallback,
    .streamStarted .send, .acceptHandler .success,
    .event .shutdownInitiatedByPeer, .accept]

theorem permit_matches_iff_acceptBeforePeerShutdown :
    (connectionMachine .reference).Throughout
        (fun actions world =>
          world.PermitMatches ∧ ReleasesAtZero .reference actions)
        acceptBeforePeerShutdown ↔
      (connectionMachine .reference).EachStep CancelsNoAccept
        acceptBeforePeerShutdown :=
  permit_matches_iff
    (Machine.run_of_checks acceptBeforePeerShutdown (by decide))

end ConnectionWorld

end MsquicAsio
