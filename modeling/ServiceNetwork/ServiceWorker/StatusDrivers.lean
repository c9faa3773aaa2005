/-
What moves a worker on from its two intermediate statuses.

`WaitingForBroker` is moved on by a waiting task, which turns into a broker lock
and then into a status update; `PendingProvision` by the update or the failure
that provisioning itself queued.  A handler that consumes such a driver queues
the next one.
-/

import ServiceNetwork.ServiceWorker.StatusProtocol

namespace ServiceNetwork.ServiceWorker

open ServiceNetwork.Peer
open ServiceNetwork.Replay

/-- The messages that lead on from an intermediate status. -/
inductive MovesOn : WorkerRuntimeStatus → WorkerRuntimeChannelMessage → Prop where
  | lock (peer : BrokerPeer) : MovesOn .waitingForBroker (.shouldLockBroker peer)
  | provision : MovesOn .waitingForBroker (.shouldUpdateStatus .pendingProvision)
  | start : MovesOn .pendingProvision (.shouldUpdateStatus .started)
  | brokerFailed (msg : String) : MovesOn .pendingProvision (.shouldSetBrokerFailed msg)
  | fail (reason : WorkerRuntimeFailReason) :
      MovesOn .pendingProvision (.shouldUpdateStatus (.failed reason))

def Queued (status : WorkerRuntimeStatus) (queue : List WorkerRuntimeChannelMessage) : Prop :=
  ∃ message ∈ queue, MovesOn status message

/-- Neither intermediate status is held without something that moves it on. -/
structure Protocol.Driven (protocol : Protocol) : Prop where
  waiting : protocol.status = .waitingForBroker →
    0 < protocol.waiters ∨ Queued .waitingForBroker protocol.queue
  provisioning : protocol.status = .pendingProvision → Queued .pendingProvision protocol.queue

theorem Queued.append {status : WorkerRuntimeStatus} {queue : List WorkerRuntimeChannelMessage}
    (queued : Queued status queue) (sent : List WorkerRuntimeChannelMessage) :
    Queued status (queue ++ sent) := by
  obtain ⟨message, member, moves⟩ := queued
  exact ⟨message, List.mem_append_left sent member, moves⟩

theorem Queued.sent {status : WorkerRuntimeStatus} {message : WorkerRuntimeChannelMessage}
    (moves : MovesOn status message) (queue : List WorkerRuntimeChannelMessage) :
    Queued status (queue ++ [message]) :=
  ⟨message, by simp, moves⟩

theorem Queued.tail {status : WorkerRuntimeStatus} {message : WorkerRuntimeChannelMessage}
    {rest : List WorkerRuntimeChannelMessage} (queued : Queued status (message :: rest))
    (other : ¬ MovesOn status message) : Queued status rest := by
  obtain ⟨driver, member, moves⟩ := queued
  rcases List.mem_cons.mp member with rfl | member
  · exact absurd moves other
  · exact ⟨driver, member, moves⟩

/-- A handled message that leaves `WaitingForBroker` was no driver of it, or
spawned a waiting task, or queued the next driver. -/
theorem Reply.leaves_waiting {status : WorkerRuntimeStatus}
    {message : WorkerRuntimeChannelMessage} {sent : List WorkerRuntimeChannelMessage}
    {spawned : Nat} (reply : Reply status message .waitingForBroker sent spawned) :
    (status = .waitingForBroker ∧ ¬ MovesOn .waitingForBroker message) ∨ 0 < spawned ∨
      ∃ driver, sent = [driver] ∧ MovesOn .waitingForBroker driver := by
  cases reply with
  | failureNoted reported =>
      refine Or.inl ⟨rfl, ?_⟩
      rintro ⟨⟩ <;> cases reported
  | infoRecorded =>
      refine Or.inl ⟨rfl, ?_⟩
      rintro ⟨⟩
  | waits => exact Or.inr (Or.inl Nat.zero_lt_one)
  | locks peer => exact Or.inr (Or.inr ⟨_, rfl, .provision⟩)

/-- A handled message that leaves `PendingProvision` was no driver of it, or
queued the next driver. -/
theorem Reply.leaves_provisioning {status : WorkerRuntimeStatus}
    {message : WorkerRuntimeChannelMessage} {sent : List WorkerRuntimeChannelMessage}
    {spawned : Nat} (reply : Reply status message .pendingProvision sent spawned) :
    (status = .pendingProvision ∧ ¬ MovesOn .pendingProvision message) ∨
      ∃ driver, sent = [driver] ∧ MovesOn .pendingProvision driver := by
  cases reply with
  | failureNoted reported reason => exact Or.inr ⟨_, rfl, .fail reason⟩
  | infoRecorded =>
      refine Or.inl ⟨rfl, ?_⟩
      rintro ⟨⟩
  | provisions => exact Or.inr ⟨_, rfl, .start⟩
  | provisionFails msg => exact Or.inr ⟨_, rfl, .brokerFailed msg⟩
  | locks peer =>
      refine Or.inl ⟨rfl, ?_⟩
      rintro ⟨⟩

/-- A driven protocol stays driven, as long as no waiting task is lost. -/
theorem Protocol.Driven.step {before after : Protocol} {label : Label} (driven : before.Driven)
    (moved : Step before label after) (noPanic : label ≠ .waiterPanicked) : after.Driven := by
  cases moved with
  | quiet => exact driven
  | reported message report =>
      refine ⟨?_, ?_⟩
      · intro waiting
        rcases driven.waiting waiting with live | queued
        · exact Or.inl live
        · exact Or.inr (queued.append _)
      · intro provisioning
        exact (driven.provisioning provisioning).append _
  | lockSent peer rest waiting live =>
      refine ⟨?_, ?_⟩
      · intro _
        exact Or.inr (.sent (.lock peer) before.queue)
      · intro provisioning
        exact absurd (waiting.symm.trans provisioning) (by simp)
  | waiterEnded rest ended live =>
      refine ⟨?_, driven.provisioning⟩
      intro waiting
      exact absurd waiting ended
  | waiterPanicked => exact absurd rfl noPanic
  | handled message rest head reply =>
      refine ⟨?_, ?_⟩
      · rintro rfl
        rcases reply.leaves_waiting with ⟨same, other⟩ | spawns | ⟨driver, rfl, moves⟩
        · rcases driven.waiting same with live | queued
          · exact Or.inl (Nat.add_pos_left live _)
          · rw [head] at queued
            exact Or.inr ((queued.tail other).append _)
        · exact Or.inl (Nat.add_pos_right _ spawns)
        · exact Or.inr (.sent moves rest)
      · rintro rfl
        rcases reply.leaves_provisioning with ⟨same, other⟩ | ⟨driver, rfl, moves⟩
        · have queued := driven.provisioning same
          rw [head] at queued
          exact (queued.tail other).append _
        · exact .sent moves rest

/-- In every run that loses no waiting task, a worker in `WaitingForBroker` or
`PendingProvision` has something left that moves it on. -/
theorem intermediate_status_driven {process : WorkerProcess} {actions : List Action}
    {state : WorkerState} (run : workerRun process actions = some state)
    (noPanic : ∀ index, .waiterPanicked index ∉ actions) :
    (state.runtime.status = .waitingForBroker →
      state.waiters ≠ [] ∨ (∃ peer, .shouldLockBroker peer ∈ state.queue) ∨
        .shouldUpdateStatus .pendingProvision ∈ state.queue) ∧
    (state.runtime.status = .pendingProvision →
      .shouldUpdateStatus .started ∈ state.queue ∨
        (∃ msg, .shouldSetBrokerFailed msg ∈ state.queue) ∨
        ∃ reason, .shouldUpdateStatus (.failed reason) ∈ state.queue) := by
  have driven : state.protocol.Driven := by
    refine @replay_holds WorkerState Action (step process)
      (fun taken current => (∀ index, .waiterPanicked index ∉ taken) → current.protocol.Driven)
      WorkerState.initial ?_ ?_ actions state run noPanic
    · intro _
      refine ⟨?_, ?_⟩ <;> intro impossible <;> cases impossible
    · intro before current action next _ driven taken noPanic
      obtain ⟨label, moved, _, panicked⟩ := step_refines taken
      have driven := driven fun index member => noPanic index (List.mem_append_left _ member)
      apply driven.step moved
      intro lost
      obtain ⟨index, rfl⟩ := panicked lost
      exact noPanic index (by simp)
  refine ⟨?_, ?_⟩
  · intro waiting
    rcases driven.waiting waiting with live | ⟨message, member, moves⟩
    · exact Or.inl (List.length_pos_iff.mp live)
    · cases moves with
      | lock peer => exact Or.inr (Or.inl ⟨peer, member⟩)
      | provision => exact Or.inr (Or.inr member)
  · intro provisioning
    obtain ⟨message, member, moves⟩ := driven.provisioning provisioning
    cases moves with
    | start => exact Or.inl member
    | brokerFailed msg => exact Or.inr (Or.inl ⟨msg, member⟩)
    | fail reason => exact Or.inr (Or.inr ⟨reason, member⟩)

/-- Just after a broker lock is handled, the queued update is what moves the
worker on. -/
theorem exampleLocking_driven :
    ∃ state, workerRun exampleProcess (exampleLocking ++ [.handled exampleOutside]) =
        some state ∧ state.runtime.status = .waitingForBroker ∧
      (state.waiters ≠ [] ∨ (∃ peer, .shouldLockBroker peer ∈ state.queue) ∨
        .shouldUpdateStatus .pendingProvision ∈ state.queue) := by
  obtain ⟨state, run, waiting⟩ :
      ∃ state, workerRun exampleProcess (exampleLocking ++ [.handled exampleOutside]) =
        some state ∧ state.runtime.status = .waitingForBroker := ⟨_, rfl, rfl⟩
  have noPanic : ∀ index,
      .waiterPanicked index ∉ exampleLocking ++ [.handled exampleOutside] := by
    intro index member
    simp [exampleLocking] at member
  exact ⟨state, run, waiting, (intermediate_status_driven run noPanic).1 waiting⟩

end ServiceNetwork.ServiceWorker
