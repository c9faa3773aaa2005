/-
The status protocol of a worker: its status, its queue, its waiting tasks.

The protocol forgets every other field of the runtime and every library.  What
a message does to the status and what it queues behind itself is `Reply`; which
task may move when is `Step`.  Each step of the worker process is a step of the
protocol, so what every protocol step preserves holds in every run.
-/

import ServiceNetwork.ServiceWorker.System

namespace ServiceNetwork.ServiceWorker

open ServiceNetwork.Peer

structure Protocol where
  status : WorkerRuntimeStatus
  queue : List WorkerRuntimeChannelMessage
  waiters : Nat

def WorkerState.protocol (state : WorkerState) : Protocol :=
  { status := state.runtime.status
    queue := state.queue
    waiters := state.waiters.length }

/-- The messages that report a failure. -/
inductive IsFailureReport : WorkerRuntimeChannelMessage → Prop where
  | pruntime (msg : String) : IsFailureReport (.shouldSetPRuntimeFailed msg)
  | broker (msg : String) : IsFailureReport (.shouldSetBrokerFailed msg)

/-- The messages that come from outside the event loop at any moment. -/
inductive IsReport : WorkerRuntimeChannelMessage → Prop where
  | info (info : PhactoryInfo) : IsReport (.shouldUpdateInfo info)
  | failure {message : WorkerRuntimeChannelMessage} (reported : IsFailureReport message) :
      IsReport message

/-- `Reply status message next sent spawned`: handling `message` in `status`
leaves the status `next`, queues `sent`, and spawns that many waiting tasks. -/
inductive Reply : WorkerRuntimeStatus → WorkerRuntimeChannelMessage → WorkerRuntimeStatus →
    List WorkerRuntimeChannelMessage → Nat → Prop where
  | failureNoted {status message} (reported : IsFailureReport message)
      (reason : WorkerRuntimeFailReason) :
      Reply status message status [.shouldUpdateStatus (.failed reason)] 0
  | failureKnown {message} (reported : IsFailureReport message)
      (reason : WorkerRuntimeFailReason) :
      Reply (.failed reason) message (.failed reason) [] 0
  | infoRefused (info : PhactoryInfo) (msg : String) :
      Reply .starting (.shouldUpdateInfo info) .starting [.shouldSetPRuntimeFailed msg] 0
  | infoAccepted (info : PhactoryInfo) :
      Reply .starting (.shouldUpdateInfo info) .starting
        [.shouldUpdateStatus .waitingForBroker] 0
  | infoRecovers (info : PhactoryInfo) (reason : WorkerRuntimeFailReason) :
      Reply (.failed reason) (.shouldUpdateInfo info) (.failed reason)
        [.shouldUpdateStatus .starting] 0
  | infoRecorded (info : PhactoryInfo) {status} (notStarting : status ≠ .starting)
      (notFailed : ∀ reason, status ≠ .failed reason) :
      Reply status (.shouldUpdateInfo info) status [] 0
  | resets {status} : Reply status (.shouldUpdateStatus .starting) .starting [] 0
  | waits {status} :
      Reply status (.shouldUpdateStatus .waitingForBroker) .waitingForBroker [] 1
  | provisions {status} :
      Reply status (.shouldUpdateStatus .pendingProvision) .pendingProvision
        [.shouldUpdateStatus .started] 0
  | provisionFails {status} (msg : String) :
      Reply status (.shouldUpdateStatus .pendingProvision) .pendingProvision
        [.shouldSetBrokerFailed msg] 0
  | starts {status} : Reply status (.shouldUpdateStatus .started) .started [] 0
  | fails {status} (reason : WorkerRuntimeFailReason) :
      Reply status (.shouldUpdateStatus (.failed reason)) (.failed reason) [] 0
  | locks {status} (peer : BrokerPeer) :
      Reply status (.shouldLockBroker peer) status [.shouldUpdateStatus .pendingProvision] 0

inductive Label where
  | quiet
  | reported
  | lockSent
  | waiterEnded
  | waiterPanicked
  | handled
  deriving DecidableEq, Repr

inductive Protocol.Step : Protocol → Label → Protocol → Prop where
  | quiet (before : Protocol) : Step before .quiet before
  | reported (before : Protocol) (message : WorkerRuntimeChannelMessage)
      (report : IsReport message) :
      Step before .reported { before with queue := before.queue ++ [message] }
  | lockSent (before : Protocol) (peer : BrokerPeer) (rest : Nat)
      (waiting : before.status = .waitingForBroker) (live : before.waiters = rest + 1) :
      Step before .lockSent
        { before with queue := before.queue ++ [.shouldLockBroker peer], waiters := rest }
  | waiterEnded (before : Protocol) (rest : Nat) (moved : before.status ≠ .waitingForBroker)
      (live : before.waiters = rest + 1) :
      Step before .waiterEnded { before with waiters := rest }
  | waiterPanicked (before : Protocol) (rest : Nat) (live : before.waiters = rest + 1) :
      Step before .waiterPanicked { before with waiters := rest }
  | handled (before : Protocol) (message : WorkerRuntimeChannelMessage)
      (rest : List WorkerRuntimeChannelMessage) (head : before.queue = message :: rest)
      {next : WorkerRuntimeStatus} {sent : List WorkerRuntimeChannelMessage} {spawned : Nat}
      (reply : Reply before.status message next sent spawned) :
      Step before .handled
        { status := next, queue := rest ++ sent, waiters := before.waiters + spawned }

/-! ### Handlers refine replies -/

theorem handlePruntimeFailure_reply (wr : WorkerRuntime) (msg : String) :
    Reply wr.status (.shouldSetPRuntimeFailed msg) wr.status (wr.handlePruntimeFailure msg) 0 := by
  unfold WorkerRuntime.handlePruntimeFailure
  cases status : wr.status with
  | failed reason =>
      simp only
      split
      · exact .failureKnown (.pruntime msg) reason
      · exact .failureNoted (.pruntime msg) _
  | starting | waitingForBroker | pendingProvision | started =>
      exact .failureNoted (.pruntime msg) _

theorem handleBrokerFailure_reply (wr : WorkerRuntime) (msg : String) :
    Reply wr.status (.shouldSetBrokerFailed msg) wr.status (wr.handleBrokerFailure msg) 0 := by
  unfold WorkerRuntime.handleBrokerFailure
  cases status : wr.status with
  | failed reason =>
      simp only
      split
      · exact .failureKnown (.broker msg) reason
      · exact .failureNoted (.broker msg) _
  | starting | waitingForBroker | pendingProvision | started =>
      exact .failureNoted (.broker msg) _

theorem handleUpdateInfo_reply {process : WorkerProcess} {outside : Outside}
    {wr : WorkerRuntime} {info : PhactoryInfo} {handled : Handled}
    (returned : wr.handleUpdateInfo process outside info = .ok handled) :
    Reply wr.status (.shouldUpdateInfo info) handled.runtime.status handled.sent
      handled.spawned := by
  by_cases starting : wr.status = .starting
  · obtain ⟨hostname, _, outcome⟩ := handleUpdateInfo_starting starting returned
    cases outcome with
    | unsupported | uninitialized | unconfigured | portless | keyless =>
        simp only [starting]
        exact .infoRefused info _
    | admitted =>
        simp only [starting]
        exact .infoAccepted info
  · rw [handleUpdateInfo_later starting] at returned
    cases returned
    unfold WorkerRuntime.recoverFromFailure
    cases status : wr.status with
    | starting => exact absurd status starting
    | failed reason => exact .infoRecovers info reason
    | waitingForBroker | pendingProvision | started =>
        exact .infoRecorded info (by simp) (by simp)

theorem handleUpdateStatus_reply {outside : Outside} {wr : WorkerRuntime}
    {newStatus : WorkerRuntimeStatus} {handled : Handled}
    (returned : wr.handleUpdateStatus outside newStatus = .ok handled) :
    Reply wr.status (.shouldUpdateStatus newStatus) handled.runtime.status handled.sent
      handled.spawned := by
  cases handleUpdateStatus_outcome returned with
  | starting => exact .resets
  | waitingForBroker => exact .waits
  | provisioned => exact .provisions
  | unprovisioned peer locked error => exact .provisionFails error
  | started => exact .starts
  | failed reason => exact .fails reason

theorem handleRuntimeEvent_reply {process : WorkerProcess} {outside : Outside}
    {wr : WorkerRuntime} {message : WorkerRuntimeChannelMessage} {handled : Handled}
    (returned : handleRuntimeEvent process outside wr message = .ok handled) :
    Reply wr.status message handled.runtime.status handled.sent handled.spawned := by
  cases message with
  | shouldUpdateInfo info => exact handleUpdateInfo_reply returned
  | shouldSetPRuntimeFailed msg =>
      cases returned
      exact handlePruntimeFailure_reply wr msg
  | shouldSetBrokerFailed msg =>
      cases returned
      exact handleBrokerFailure_reply wr msg
  | shouldUpdateStatus status => exact handleUpdateStatus_reply returned
  | shouldLockBroker peer =>
      obtain ⟨identity, _, rfl⟩ := handleLockPeer_eq_ok.mp returned
      exact .locks peer

/-! ### Turns of the tasks -/

/-- A turn of a waiting task locks a peer while the status is
`WaitingForBroker`, counts on, or ends because the status is another. -/
theorem waitForBrokerPeer_cases {profile : BuildProfile} {status : WorkerRuntimeStatus}
    {peers after : BrokerPeerManager} {loopNum : UInt8} {turn : WaiterTurn}
    (returned : waitForBrokerPeer profile status peers loopNum = .ok (turn, after)) :
    (status = .waitingForBroker ∧ ((∃ peer, turn = .locks peer) ∨ ∃ count, turn = .waits count)) ∨
      (status ≠ .waitingForBroker ∧ turn = .ends ∧ after = peers) := by
  unfold waitForBrokerPeer at returned
  cases status with
  | waitingForBroker =>
      obtain ⟨⟨peer, verified⟩, _, returned⟩ := bind_eq_ok.mp returned
      cases peer with
      | some peer =>
          obtain ⟨count, _, returned⟩ := bind_eq_ok.mp returned
          split at returned
          · cases returned
            exact Or.inl ⟨rfl, Or.inl ⟨peer, rfl⟩⟩
          · cases returned
            exact Or.inl ⟨rfl, Or.inr ⟨count, rfl⟩⟩
      | none =>
          obtain ⟨count, _, returned⟩ := bind_eq_ok.mp returned
          cases returned
          exact Or.inl ⟨rfl, Or.inr ⟨count, rfl⟩⟩
  | starting | pendingProvision | started | failed reason =>
      cases returned
      exact Or.inr ⟨by simp, rfl, rfl⟩

theorem length_eraseIdx_succ {index : Nat} {waiters : List UInt8} {loopNum : UInt8}
    (present : waiters[index]? = some loopNum) :
    waiters.length = (waiters.eraseIdx index).length + 1 := by
  obtain ⟨within, _⟩ := List.getElem?_eq_some_iff.mp present
  rw [List.length_eraseIdx_of_lt within]
  omega

/-- Every step of the process is a step of the protocol; only the event loop
handles messages, and only a panicking task is lost. -/
theorem step_refines {process : WorkerProcess} {state next : WorkerState} {action : Action}
    (taken : step process state action = some next) :
    ∃ label, Protocol.Step state.protocol label next.protocol ∧
      (label = .handled → ∃ outside, action = .handled outside) ∧
      (label = .waiterPanicked → ∃ index, action = .waiterPanicked index) := by
  cases step_outcome taken with
  | pruntimeAnswered info =>
      exact ⟨.reported, .reported state.protocol _ (.info info), by simp, by simp⟩
  | pruntimeFailed error =>
      exact ⟨.reported, .reported state.protocol _ (.failure (.pruntime error)), by simp, by simp⟩
  | keepaliveRefused url body sending error =>
      exact ⟨.reported, .reported state.protocol _ (.failure (.broker error)), by simp, by simp⟩
  | keepaliveSkipped | keepaliveChecked | keepaliveRead | keepaliveAccepted | brokerIgnored
  | brokerAnnounced | forwarderRefused | forwarderPassed | forwarderSent =>
      exact ⟨.quiet, .quiet state.protocol, by simp, by simp⟩
  | waiterLocks index loopNum live peer peers turn =>
      refine ⟨.lockSent, ?_, by simp, by simp⟩
      rcases waitForBrokerPeer_cases turn with ⟨waiting, _⟩ | ⟨_, impossible, _⟩
      · exact .lockSent state.protocol peer _ waiting (length_eraseIdx_succ live)
      · cases impossible
  | waiterWaits index loopNum live count peers turn =>
      refine ⟨.quiet, ?_, by simp, by simp⟩
      have same : (state.waiters.set index count).length = state.waiters.length :=
        List.length_set
      unfold WorkerState.protocol
      simp only [same]
      exact .quiet state.protocol
  | waiterEnds index loopNum live peers turn =>
      refine ⟨.waiterEnded, ?_, by simp, by simp⟩
      rcases waitForBrokerPeer_cases turn with ⟨_, ⟨_, impossible⟩ | ⟨_, impossible⟩⟩ | ⟨moved, _⟩
      · cases impossible
      · cases impossible
      · exact .waiterEnded state.protocol _ moved (length_eraseIdx_succ live)
  | waiterPanicked index loopNum live panic turn =>
      exact ⟨.waiterPanicked, .waiterPanicked state.protocol _ (length_eraseIdx_succ live),
        by simp, fun _ => ⟨index, rfl⟩⟩
  | handled outside message rest handled head returned =>
      refine ⟨.handled, ?_, fun _ => ⟨outside, rfl⟩, by simp⟩
      have moved : Protocol.Step state.protocol .handled _ :=
        .handled state.protocol message rest head (handleRuntimeEvent_reply returned)
      unfold WorkerState.protocol at moved ⊢
      simp only [List.length_append, List.length_replicate]
      exact moved

/-! ### What one message can do -/

/-- What handling a message leaves, by the kind of the message. -/
inductive EventOutcome (process : WorkerProcess) (outside : Outside) (wr : WorkerRuntime) :
    WorkerRuntimeChannelMessage → Handled → Prop where
  | failure {message : WorkerRuntimeChannelMessage} (reported : IsFailureReport message)
      (sent : List WorkerRuntimeChannelMessage)
      (fails : ∀ update ∈ sent, ∃ reason, update = .shouldUpdateStatus (.failed reason)) :
      EventOutcome process outside wr message ⟨wr, sent, 0⟩
  | infoInStarting (info : PhactoryInfo) {handled : Handled} (hostname : String)
      (starting : wr.status = .starting)
      (parsed : (process.urlparse process.localWorker.pruntimeAddress).hostname = some hostname)
      (outcome : StartingOutcome process outside wr info hostname handled) :
      EventOutcome process outside wr (.shouldUpdateInfo info) handled
  | infoLater (info : PhactoryInfo) (later : wr.status ≠ .starting) :
      EventOutcome process outside wr (.shouldUpdateInfo info)
        ⟨{ wr with lastInfo := some info }, wr.recoverFromFailure, 0⟩
  | status (newStatus : WorkerRuntimeStatus) {handled : Handled}
      (outcome : StatusOutcome wr newStatus handled) :
      EventOutcome process outside wr (.shouldUpdateStatus newStatus) handled
  | locked (peer : BrokerPeer) (identity : LocalWorkerIdentity)
      (built : wr.keepaliveIdentity process outside peer = .ok identity) :
      EventOutcome process outside wr (.shouldLockBroker peer)
        ⟨{ wr with
            bestBroker := some peer
            bestBrokerName := some peer.instanceName
            bestBrokerMgmtUrl := some peer.mgmtAddr
            keepaliveContent := some (process.json.writeIdentity identity) },
          [.shouldUpdateStatus .pendingProvision], 0⟩

private theorem failure_sends_failure {wr : WorkerRuntime} {message : WorkerRuntimeChannelMessage}
    {sent : List WorkerRuntimeChannelMessage} (reported : IsFailureReport message)
    (reply : Reply wr.status message wr.status sent 0) :
    ∀ update ∈ sent, ∃ reason, update = .shouldUpdateStatus (.failed reason) := by
  generalize wr.status = status at reply
  cases reply with
  | failureNoted _ reason => simp
  | failureKnown => simp
  | infoRefused | infoAccepted | infoRecovers | infoRecorded | resets | provisions
  | provisionFails | starts | fails | locks => cases reported

theorem handleRuntimeEvent_outcome {process : WorkerProcess} {outside : Outside}
    {wr : WorkerRuntime} {message : WorkerRuntimeChannelMessage} {handled : Handled}
    (returned : handleRuntimeEvent process outside wr message = .ok handled) :
    EventOutcome process outside wr message handled := by
  cases message with
  | shouldUpdateInfo info =>
      by_cases starting : wr.status = .starting
      · obtain ⟨hostname, parsed, outcome⟩ := handleUpdateInfo_starting starting returned
        exact .infoInStarting info hostname starting parsed outcome
      · change wr.handleUpdateInfo process outside info = _ at returned
        rw [handleUpdateInfo_later starting] at returned
        cases returned
        exact .infoLater info starting
  | shouldSetPRuntimeFailed msg =>
      cases returned
      exact .failure (.pruntime msg) _
        (failure_sends_failure (.pruntime msg) (handlePruntimeFailure_reply wr msg))
  | shouldSetBrokerFailed msg =>
      cases returned
      exact .failure (.broker msg) _
        (failure_sends_failure (.broker msg) (handleBrokerFailure_reply wr msg))
  | shouldUpdateStatus newStatus => exact .status newStatus (handleUpdateStatus_outcome returned)
  | shouldLockBroker peer =>
      obtain ⟨identity, built, rfl⟩ := handleLockPeer_eq_ok.mp returned
      exact .locked peer identity built

theorem step_keeps_runtime {process : WorkerProcess} {state next : WorkerState} {action : Action}
    (taken : step process state action = some next)
    (noTurn : ∀ outside, action ≠ .handled outside) : next.runtime = state.runtime := by
  cases step_outcome taken with
  | handled outside => exact absurd rfl (noTurn outside)
  | _ => rfl

end ServiceNetwork.ServiceWorker
