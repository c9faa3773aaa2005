/-
What the reports of the outside set going in a worker, and what becomes of it.

Every message is worth the turns of the event loop it can still lead to, and a
waiting task those of the lock it may send.  No turn leaves more than it took, so
the loop never feeds itself; and every admitted info can be found again, in the
queue, in a waiting task, or where its provisioning ended.
-/

import ServiceNetwork.Library.History
import ServiceNetwork.ServiceWorker.Provisioning

namespace ServiceNetwork.ServiceWorker

open ServiceNetwork.Peer
open ServiceNetwork.Replay

/-! ### Turns -/

/-- The turns that a message can lead to, its own included.  The longest way is
that of an info: its admission, the waiting, a lock, a proxy that pRuntime
refuses, and the failure that reports it. -/
def turnsAhead : WorkerRuntimeChannelMessage → Nat
  | .shouldUpdateInfo _ => 6
  | .shouldUpdateStatus .waitingForBroker => 5
  | .shouldLockBroker _ => 4
  | .shouldUpdateStatus .pendingProvision => 3
  | .shouldSetPRuntimeFailed _ => 2
  | .shouldSetBrokerFailed _ => 2
  | .shouldUpdateStatus _ => 1

/-- The turns that a state can lead to by itself.  A waiting task stands for the
lock it may send. -/
def WorkerState.turnsAhead (state : WorkerState) : Nat :=
  (state.queue.map ServiceWorker.turnsAhead).sum + 4 * state.waiters.length

/-- The turns of the event loop that an action takes. -/
def Action.takes : Action → Nat
  | .handled _ => 1
  | _ => 0

/-- The turns that an action brings: only reports bring any. -/
def Action.brings : Action → Nat
  | .pruntimeAnswered _ => 6
  | .pruntimeFailed _ => 2
  | .keepaliveAnswered (.error _) => 2
  | _ => 0

theorem Reply.paid {status after : WorkerRuntimeStatus} {message : WorkerRuntimeChannelMessage}
    {sent : List WorkerRuntimeChannelMessage} {spawned : Nat}
    (reply : Reply status message after sent spawned) :
    (sent.map turnsAhead).sum + 4 * spawned + 1 ≤ turnsAhead message := by
  cases reply with
  | failureNoted reported reason => cases reported <;> exact Nat.le_refl _
  | failureKnown reported reason => cases reported <;> exact Nat.le_succ 1
  | infoRefused | infoAccepted | infoRecovers | infoRecorded => simp [turnsAhead]
  | resets | waits | provisions | provisionFails | starts | fails | locks => simp [turnsAhead]

variable {process : WorkerProcess} {state next : WorkerState} {action : Action}

theorem turnsAhead_enqueue (message : WorkerRuntimeChannelMessage) :
    (state.enqueue message).turnsAhead = state.turnsAhead + turnsAhead message := by
  simp only [WorkerState.turnsAhead, WorkerState.enqueue, List.map_append, List.sum_append,
    List.map_cons, List.map_nil, List.sum_cons, List.sum_nil]
  omega

/-- What an action takes is paid from what the state leads to and what it brings. -/
theorem step_paid (taken : step process state action = some next) :
    next.turnsAhead + action.takes ≤ state.turnsAhead + action.brings := by
  cases step_outcome taken with
  | pruntimeAnswered info =>
      rw [turnsAhead_enqueue]
      exact Nat.le_refl _
  | pruntimeFailed error =>
      rw [turnsAhead_enqueue]
      exact Nat.le_refl _
  | keepaliveRefused url body sending error =>
      rw [turnsAhead_enqueue]
      exact Nat.le_refl _
  | keepaliveSkipped | keepaliveChecked | keepaliveRead | keepaliveAccepted | brokerIgnored
  | brokerAnnounced | forwarderRefused | forwarderPassed | forwarderSent =>
      exact Nat.le_refl _
  | waiterWaits index loopNum live count peers turn =>
      simp [WorkerState.turnsAhead, Action.takes]
  | waiterLocks index loopNum live peer peers turn =>
      have shorter := length_eraseIdx_succ live
      have worth : turnsAhead (.shouldLockBroker peer) = 4 := rfl
      simp only [WorkerState.turnsAhead, List.map_append, List.sum_append, List.map_cons,
        List.map_nil, List.sum_cons, List.sum_nil, worth, Action.takes, Action.brings]
      omega
  | waiterEnds index loopNum live peers turn =>
      have shorter := length_eraseIdx_succ live
      simp only [WorkerState.turnsAhead, Action.takes, Action.brings]
      omega
  | waiterPanicked index loopNum live panic turn =>
      have shorter := length_eraseIdx_succ live
      simp only [WorkerState.turnsAhead, Action.takes, Action.brings]
      omega
  | handled outside message rest handled head returned =>
      have paid := (handleRuntimeEvent_reply returned).paid
      simp only [WorkerState.turnsAhead, head, List.map_append, List.sum_append, List.map_cons,
        List.sum_cons, List.length_append, List.length_replicate, Action.takes, Action.brings]
      omega

/-- From any state, whatever the tasks do in between, the event loop takes at most
the turns that the state leads to, six for each info and two for each failure
reported since. -/
theorem turns_bounded {actions : List Action} {final : WorkerState}
    (run : replay (step process) state actions = some final) :
    (actions.map Action.takes).sum + final.turnsAhead ≤
      state.turnsAhead + (actions.map Action.brings).sum := by
  have paid : final.turnsAhead + tally (step process) (fun _ => Action.takes) state actions ≤
      state.turnsAhead + tally (step process) (fun _ => Action.brings) state actions :=
    tally_bounded (fun _ _ _ taken => step_paid taken) run
  rw [tally_of_actions Action.takes run, tally_of_actions Action.brings run] at paid
  omega

/-- An outside in which pRuntime refuses every proxy. -/
def refusingOutside : Outside :=
  { exampleOutside with configNetwork := fun _ => .error "refused" }

/-- A lock whose proxy pRuntime refuses, up to the failure that reports it. -/
def exampleRefused : List Action :=
  List.flatten [exampleLocking, [.handled exampleOutside, .handled refusingOutside],
    List.replicate 2 (.handled exampleOutside)]

/-- One info leads to six turns, and no more follow. -/
theorem exampleRefused_uses_six :
    ∃ final, workerRun exampleProcess exampleRefused = some final ∧
      (exampleRefused.map Action.takes).sum = 6 ∧ final.turnsAhead = 0 := by
  have run : ∃ final, workerRun exampleProcess exampleRefused = some final := ⟨_, rfl⟩
  obtain ⟨final, run⟩ := run
  have bounded := turns_bounded run
  have taken : (exampleRefused.map Action.takes).sum = 6 := rfl
  have brought : (exampleRefused.map Action.brings).sum = 6 := rfl
  have quiet : WorkerState.initial.turnsAhead = 0 := rfl
  exact ⟨final, run, taken, by omega⟩

/-! ### Where admitted infos are -/

/-- The messages that the event loop sends in this step. -/
def sentMessages (process : WorkerProcess) (state : WorkerState) :
    Action → List WorkerRuntimeChannelMessage
  | .handled outside =>
      match state.queue with
      | [] => []
      | message :: _ =>
          match handleRuntimeEvent process outside state.runtime message with
          | .error _ => []
          | .ok handled => handled.sent
  | _ => []

/-- The messages on the way from an admission to `Started`. -/
def isProvisioning : WorkerRuntimeChannelMessage → Bool
  | .shouldUpdateStatus .waitingForBroker => true
  | .shouldLockBroker _ => true
  | .shouldUpdateStatus .pendingProvision => true
  | .shouldUpdateStatus .started => true
  | _ => false

def isBrokerFailure : WorkerRuntimeChannelMessage → Bool
  | .shouldSetBrokerFailed _ => true
  | _ => false

/-- The provisionings under way: those in the queue, and the waiting tasks. -/
def WorkerState.underWay (state : WorkerState) : Nat :=
  state.queue.countP isProvisioning + state.waiters.length

/-- An info is admitted by the update it queues. -/
def admissions (process : WorkerProcess) (state : WorkerState) (action : Action) : Nat :=
  (sentMessages process state action).count (.shouldUpdateStatus .waitingForBroker)

/-- The worker is started. -/
def starts (state : WorkerState) (action : Action) : Nat :=
  if handledMessage state action = some (.shouldUpdateStatus .started) then 1 else 0

/-- pRuntime refuses the proxy, which the event loop reports to itself. -/
def refusals (process : WorkerProcess) (state : WorkerState) (action : Action) : Nat :=
  (sentMessages process state action).countP isBrokerFailure

/-- A waiting task ends without a lock, because the status has moved on or by a
panic. -/
def abandons (state : WorkerState) : Action → Nat
  | .waiterTurn _ => if state.runtime.status = .waitingForBroker then 0 else 1
  | .waiterPanicked _ => 1
  | _ => 0

/-- What ends a provisioning. -/
def ends (process : WorkerProcess) (state : WorkerState) (action : Action) : Nat :=
  starts state action + refusals process state action + abandons state action

/-- No message starts, ends or multiplies a provisioning unseen. -/
theorem Reply.balanced {status after : WorkerRuntimeStatus} {message : WorkerRuntimeChannelMessage}
    {sent : List WorkerRuntimeChannelMessage} {spawned : Nat}
    (reply : Reply status message after sent spawned) :
    sent.countP isProvisioning + spawned +
        (if message = .shouldUpdateStatus .started then 1 else 0) + sent.countP isBrokerFailure =
      (if isProvisioning message then 1 else 0) +
        sent.count (.shouldUpdateStatus .waitingForBroker) := by
  cases reply with
  | failureNoted reported reason => cases reported <;> rfl
  | failureKnown reported reason => cases reported <;> rfl
  | infoRefused | infoAccepted | infoRecovers | infoRecorded => rfl
  | resets | waits | provisions | provisionFails | starts | fails | locks => rfl

/-- Outside the event loop nothing is admitted, and only waiting tasks give up. -/
theorem accounts_of_task (noTurn : ∀ outside, action ≠ .handled outside) :
    admissions process state action = 0 ∧ ends process state action = abandons state action := by
  cases action with
  | handled outside => exact absurd rfl (noTurn outside)
  | _ => simp [admissions, ends, starts, refusals, sentMessages, handledMessage]

theorem step_balanced (taken : step process state action = some next) :
    next.underWay + ends process state action =
      state.underWay + admissions process state action := by
  by_cases handles : ∃ outside, action = .handled outside
  · obtain ⟨outside, rfl⟩ := handles
    obtain ⟨message, rest, handled, head, returned, rfl⟩ := handle_eq_some taken
    have balanced := (handleRuntimeEvent_reply returned).balanced
    simp [WorkerState.underWay, ends, starts, refusals, abandons, admissions, handledMessage,
      sentMessages, head, returned, List.countP_cons]
    omega
  · have noTurn : ∀ outside, action ≠ .handled outside :=
      fun outside same => handles ⟨outside, same⟩
    rw [(accounts_of_task noTurn).1, (accounts_of_task noTurn).2]
    cases step_outcome taken with
    | pruntimeAnswered | pruntimeFailed | keepaliveRefused =>
        simp [WorkerState.underWay, WorkerState.enqueue, isProvisioning, abandons]
    | keepaliveSkipped | keepaliveChecked | keepaliveRead | keepaliveAccepted | brokerIgnored
    | brokerAnnounced | forwarderRefused | forwarderPassed | forwarderSent =>
        rfl
    | waiterWaits index loopNum live count peers turn =>
        rcases waitForBrokerPeer_cases turn with ⟨waiting, _⟩ | ⟨_, impossible, _⟩
        · simp [WorkerState.underWay, abandons, waiting]
        · cases impossible
    | waiterLocks index loopNum live peer peers turn =>
        have shorter := length_eraseIdx_succ live
        rcases waitForBrokerPeer_cases turn with ⟨waiting, _⟩ | ⟨_, impossible, _⟩
        · simp [WorkerState.underWay, abandons, waiting, isProvisioning]
          omega
        · cases impossible
    | waiterEnds index loopNum live peers turn =>
        have shorter := length_eraseIdx_succ live
        rcases waitForBrokerPeer_cases turn with ⟨_, ⟨_, impossible⟩ | ⟨_, impossible⟩⟩ | ⟨moved, _⟩
        · cases impossible
        · cases impossible
        · simp [WorkerState.underWay, abandons, moved]
          omega
    | waiterPanicked index loopNum live panic turn =>
        have shorter := length_eraseIdx_succ live
        simp [WorkerState.underWay, abandons]
        omega
    | handled outside => exact absurd rfl (noTurn outside)

/-- In every run each admission is accounted for once: it is still under way, it
has started the worker, pRuntime has refused its proxy, or its waiting task gave
up. -/
theorem admissions_accounted {actions : List Action}
    (run : workerRun process actions = some state) :
    state.underWay + tally (step process) (ends process) WorkerState.initial actions =
      tally (step process) (admissions process) WorkerState.initial actions := by
  have balanced : state.underWay +
      tally (step process) (ends process) WorkerState.initial actions =
        WorkerState.initial.underWay +
          tally (step process) (admissions process) WorkerState.initial actions :=
    tally_balanced (fun _ _ _ taken => step_balanced taken) run
  have none : WorkerState.initial.underWay = 0 := rfl
  omega

/-- The refused proxy ends the one provisioning. -/
theorem exampleRefused_accounted :
    ∃ final, workerRun exampleProcess exampleRefused = some final ∧ final.underWay = 0 ∧
      tally (step exampleProcess) (admissions exampleProcess) WorkerState.initial exampleRefused =
        1 := by
  have run : ∃ final, workerRun exampleProcess exampleRefused = some final ∧
      final.underWay = 0 := ⟨_, rfl, rfl⟩
  obtain ⟨final, run, idle⟩ := run
  have accounted := admissions_accounted run
  have ended : tally (step exampleProcess) (ends exampleProcess) WorkerState.initial
      exampleRefused = 1 := by decide +kernel
  exact ⟨final, run, idle, by omega⟩

end ServiceNetwork.ServiceWorker
