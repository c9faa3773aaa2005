/-
Keepalives are neither multiplied nor silently dropped, in every run of a
deployment.

Each attempt of a worker is under way, lost or received once; each receipt is
answered once; each message enqueued at a broker is queued or handled once.
And no answer of a broker is a failure to the worker that reads it, whatever
else goes wrong on the way.
-/

import Mathlib.Data.List.Perm.Basic
import ServiceNetwork.Pipeline.TableProvenance

namespace ServiceNetwork.Pipeline

open ServiceNetwork.Replay
open ServiceNetwork.ServiceBroker
open ServiceNetwork.ServiceWorker

variable {deployment : Deployment} {taken events : List Event} {state next : DeploymentState}
  {event : Event}

/-! ### What the steps count for -/

def isKeepalive : LocalWorkerManagerChannelMessage → Bool
  | .receivedKeepAlive _ => true
  | .shouldCheckPeerHealth => false

/-- The request at the position is the worker's. -/
def requestOf (worker : Nat) (state : DeploymentState) (position : Nat) : Nat :=
  (state.requests[position]?.toList).countP (·.worker == worker)

def replyOf (worker : Nat) (state : DeploymentState) (position : Nat) : Nat :=
  (state.replies[position]?.toList).countP (·.worker == worker)

def requestsReceived (worker : Nat) (state : DeploymentState) : Event → Nat
  | .requestReceived position _ => requestOf worker state position
  | _ => 0

def requestsLost (worker : Nat) (state : DeploymentState) : Event → Nat
  | .requestLost position => requestOf worker state position
  | _ => 0

def repliesLost (worker : Nat) (state : DeploymentState) : Event → Nat
  | .replyLost position => replyOf worker state position
  | _ => 0

def repliesRead (worker : Nat) (state : DeploymentState) : Event → Nat
  | .replyRead position => replyOf worker state position
  | _ => 0

/-- The requests that a broker received. -/
def receivedBy (broker : Nat) (_state : DeploymentState) : Event → Nat
  | .requestReceived _ other => if other = broker then 1 else 0
  | _ => 0

/-! ### What the steps keep balanced -/

theorem countP_eraseIdx {Value : Type} {list : List Value} {position : Nat} {value : Value}
    (present : list[position]? = some value) (kind : Value → Bool) :
    (list.eraseIdx position).countP kind + [value].countP kind = list.countP kind := by
  obtain ⟨within, rfl⟩ := List.getElem?_eq_some_iff.mp present
  rw [Nat.add_comm, ← List.countP_append, List.singleton_append]
  exact (List.getElem_cons_eraseIdx_perm within).countP_eq kind

theorem newRequests_count {process : WorkerProcess} {before after : WorkerState} {action : Action}
    (stepped : step process before action = some after) (index connection worker : Nat) :
    (newRequests index connection after action).countP (·.worker == worker) =
      (if index = worker then [action] else []).countP opensConnection := by
  by_cases mine : index = worker
  · subst mine
    cases step_outcome stepped <;> simp [newRequests, opensConnection]
  · cases step_outcome stepped <;> simp [newRequests, mine]

/-- A worker's requests under way come from its attempts, and leave by being
received or lost. -/
theorem requests_balanced (worker : Nat)
    (stepped : deploymentStep deployment state event = some next) :
    next.requests.countP (·.worker == worker) +
        (requestsLost worker state event + requestsReceived worker state event) =
      state.requests.countP (·.worker == worker) +
        (workerStep deployment worker state event).countP opensConnection := by
  cases deploymentStep_outcome stepped with
  | worker index action after unanswered took =>
      have opened := newRequests_count took index
        (if opensConnection action then state.connections index + 1 else state.connections index)
        worker
      simp only [DeploymentState.workerTook, List.countP_append, opened, requestsLost,
        requestsReceived, workerStep, Nat.add_zero]
  | requestReceived position broker request messages response present addressed served =>
      have erased := countP_eraseIdx present (·.worker == worker)
      simp only [requestsLost, requestsReceived, requestOf, present, Option.toList_some, workerStep,
        List.countP_nil]
      omega
  | requestLost position request present =>
      have erased := countP_eraseIdx present (·.worker == worker)
      simp only [requestsLost, requestsReceived, requestOf, present, Option.toList_some, workerStep,
        List.countP_nil]
      omega
  | replyRead position reply after present awaited took =>
      have closed : (workerStep deployment worker state (.replyRead position)).countP
          opensConnection = 0 := by
        simp only [workerStep, present]
        split <;> simp [opensConnection]
      rw [closed]
      rfl
  | replyLost | checkDue | managerTurn => rfl

/-- The answers to a worker come from its requests received, and leave by being
read or lost. -/
theorem replies_balanced (worker : Nat)
    (stepped : deploymentStep deployment state event = some next) :
    next.replies.countP (·.worker == worker) +
        (repliesLost worker state event + repliesRead worker state event) =
      state.replies.countP (·.worker == worker) + requestsReceived worker state event := by
  cases deploymentStep_outcome stepped with
  | requestReceived position broker request messages response present addressed served =>
      simp only [List.countP_append, repliesLost, repliesRead, requestsReceived, requestOf, present,
        Option.toList_some, List.countP_singleton, Nat.add_zero]
  | replyRead position reply after present awaited took =>
      have erased := countP_eraseIdx present (·.worker == worker)
      simp only [repliesLost, repliesRead, requestsReceived, replyOf, present, Option.toList_some]
      omega
  | replyLost position reply present =>
      have erased := countP_eraseIdx present (·.worker == worker)
      simp only [repliesLost, repliesRead, requestsReceived, replyOf, present, Option.toList_some]
      omega
  | worker | requestLost | checkDue | managerTurn => rfl

/-- The keepalives that a step enqueues at a broker. -/
def enqueuedAt (deployment : Deployment) (broker : Nat) (state : DeploymentState) : Event → Nat
  | .requestReceived position other =>
      if other = broker then
        (state.requests[position]?.toList.flatMap fun request =>
          (deployment.serve broker request.body).1).countP isKeepalive
      else 0
  | _ => 0

theorem inbox_balanced (broker : Nat)
    (stepped : deploymentStep deployment state event = some next) :
    (next.inboxes broker).countP isKeepalive +
        (managerTurn broker state event).countP isKeepalive =
      (state.inboxes broker).countP isKeepalive + enqueuedAt deployment broker state event := by
  cases deploymentStep_outcome stepped with
  | requestReceived position other request messages response present addressed served =>
      by_cases mine : other = broker
      · subst mine
        simp [managerTurn, enqueuedAt, present, served]
      · simp [managerTurn, enqueuedAt, mine, Function.update_of_ne (Ne.symm mine)]
  | checkDue other =>
      by_cases mine : other = broker
      · subst mine
        simp [managerTurn, enqueuedAt, isKeepalive]
      · simp [managerTurn, enqueuedAt, Function.update_of_ne (Ne.symm mine)]
  | managerTurn other message rest after head took =>
      by_cases mine : other = broker
      · subst mine
        simp only [managerTurn, if_true, head, enqueuedAt, Function.update_self, Nat.add_zero,
          List.take_succ_cons, List.take_zero, List.countP_cons, List.countP_nil]
        omega
      · simp [managerTurn, enqueuedAt, mine, Function.update_of_ne (Ne.symm mine)]
  | worker | requestLost | replyRead | replyLost => rfl

/-! ### What brokers can read, workers can read the answer to -/

theorem FromLock.readable {worker : Nat} {url body : String}
    (locked : FromLock deployment taken worker url body) :
    ∃ lw, deployment.serdeJson.readIdentity body = some lw := by
  obtain ⟨_, _, _, _, _, _, identity, _, _, _, _, rfl⟩ := locked
  rw [deployment.sharedJson worker]
  exact ⟨identity, deployment.serdeJson.read_write identity⟩

theorem serve_readable {broker : Nat} {body : String} {lw : LocalWorkerIdentity}
    (read : deployment.serdeJson.readIdentity body = some lw) :
    (deployment.serve broker body).1.countP isKeepalive = 1 ∧
      deployment.keepaliveOutcome (deployment.serve broker body).2 = .ok () := by
  unfold Deployment.serve Deployment.keepaliveOutcome
  rw [read]
  refine ⟨rfl, ?_⟩
  simp only [handleKeepalive, BrokerProcess.myId, deployment.myIdentityJson.read_write]

/-- Every answer under way is one that its worker takes for success. -/
def Answered (deployment : Deployment) (state : DeploymentState) : Prop :=
  ∀ reply ∈ state.replies, deployment.keepaliveOutcome reply.response = .ok ()

theorem run_answered (run : deploymentRun deployment events = some state) :
    Answered deployment state := by
  refine @replay_holds DeploymentState Event (deploymentStep deployment)
    (fun _ state => Answered deployment state) DeploymentState.initial ?_ ?_ events state run
  · intro reply impossible
    cases impossible
  · intro before current event next reached answered stepped reply member
    cases deploymentStep_outcome stepped with
    | requestReceived position broker request messages response present addressed served =>
        rcases List.mem_append.mp member with earlier | new
        · exact answered reply earlier
        · have locked := (run_traced reached).requests request (List.mem_of_getElem? present)
          obtain ⟨lw, read⟩ := locked.readable
          have success := (@serve_readable deployment broker _ _ read).2
          rw [served] at success
          rw [List.mem_singleton.mp new]
          exact success
    | replyRead | replyLost => exact answered reply (List.mem_of_mem_eraseIdx member)
    | worker | requestLost | checkDue | managerTurn => exact answered reply member

theorem acknowledges_iff_read (worker : Nat) (answered : Answered deployment state)
    (stepped : deploymentStep deployment state event = some next) :
    repliesRead worker state event =
      (workerStep deployment worker state event).countP acknowledges := by
  cases deploymentStep_outcome stepped with
  | worker index action after unanswered took =>
      simp only [repliesRead, workerStep]
      split
      · simp [unanswered]
      · rfl
  | replyRead position reply after present awaited took =>
      have success := answered reply (List.mem_of_getElem? present)
      simp only [repliesRead, replyOf, workerStep, present, success, Option.toList_some]
      by_cases mine : reply.worker = worker
      · simp [mine, acknowledges]
      · simp [mine]
  | requestReceived | requestLost | replyLost | checkDue | managerTurn => rfl

/-! ### Whole runs -/

/-- How often a run did what is counted. -/
def timesIn (deployment : Deployment) (events : List Event)
    (count : DeploymentState → Event → Nat) : Nat :=
  tally (deploymentStep deployment) count DeploymentState.initial events

structure KeepalivesAccounted (deployment : Deployment) (events : List Event)
    (state : DeploymentState) : Prop where
  attempts : ∀ worker, (workerActions deployment worker events).countP opensConnection =
    state.requests.countP (·.worker == worker) +
      timesIn deployment events (requestsLost worker) +
      timesIn deployment events (requestsReceived worker)
  answers : ∀ worker, timesIn deployment events (requestsReceived worker) =
    state.replies.countP (·.worker == worker) +
      timesIn deployment events (repliesLost worker) +
      (workerActions deployment worker events).countP acknowledges
  messages : ∀ broker, timesIn deployment events (receivedBy broker) =
    (state.inboxes broker).countP isKeepalive +
      (handledMessages deployment broker events).countP isKeepalive
  failures : ∀ worker error,
    .keepaliveAnswered (.error error) ∈ workerActions deployment worker events →
      .worker worker (.keepaliveAnswered (.error error)) ∈ events

/-- Every keepalive is accounted for, from the attempt of the worker to the turn
of the manager, and so is every answer; no attempt fails over the answer of a
broker. -/
theorem keepalives_accounted (deployment : Deployment) (events : List Event)
    (state : DeploymentState) (run : deploymentRun deployment events = some state) :
    KeepalivesAccounted deployment events state where
  attempts := by
    intro worker
    have balance := @tally_balanced _ _ (deploymentStep deployment) _ _ _
      (fun state event => requestsLost worker state event + requestsReceived worker state event)
      (fun state event => (workerStep deployment worker state event).countP opensConnection)
      (fun state => state.requests.countP (·.worker == worker))
      (fun _ _ _ stepped => requests_balanced worker stepped) run
    rw [tally_add _ _ run, tally_ownSteps _ run] at balance
    change _ = 0 + (workerActions deployment worker events).countP opensConnection at balance
    unfold timesIn
    omega
  answers := by
    intro worker
    have acknowledged : tally (deploymentStep deployment) (repliesRead worker)
        DeploymentState.initial events =
          (workerActions deployment worker events).countP acknowledges := by
      unfold workerActions
      rw [← tally_ownSteps _ run]
      apply tally_congr _ run
      intro before current event next reached stepped
      exact acknowledges_iff_read worker (run_answered reached) stepped
    have balance := @tally_balanced _ _ (deploymentStep deployment) _ _ _
      (fun state event => repliesLost worker state event + repliesRead worker state event)
      (requestsReceived worker) (fun state => state.replies.countP (·.worker == worker))
      (fun _ _ _ stepped => replies_balanced worker stepped) run
    rw [tally_add _ _ run, acknowledged] at balance
    change _ = 0 + _ at balance
    unfold timesIn
    omega
  messages := by
    intro broker
    have enqueued : timesIn deployment events (receivedBy broker) =
        timesIn deployment events (enqueuedAt deployment broker) := by
      apply tally_congr _ run
      intro before current event next reached stepped
      cases deploymentStep_outcome stepped with
      | requestReceived position other request messages response present addressed served =>
          have locked := (run_traced reached).requests request (List.mem_of_getElem? present)
          obtain ⟨lw, read⟩ := locked.readable
          have once := (@serve_readable deployment broker _ _ read).1
          simp only [receivedBy, enqueuedAt, present, Option.toList_some, List.flatMap_cons,
            List.flatMap_nil, List.append_nil, once]
      | worker | requestLost | replyRead | replyLost | checkDue | managerTurn => rfl
    have balance := @tally_balanced _ _ (deploymentStep deployment) _ _ _
      (fun state event => (managerTurn broker state event).countP isKeepalive)
      (enqueuedAt deployment broker) (fun state => (state.inboxes broker).countP isKeepalive)
      (fun _ _ _ stepped => inbox_balanced broker stepped) run
    rw [tally_ownSteps _ run] at balance
    change _ + (handledMessages deployment broker events).countP isKeepalive = 0 + _ at balance
    rw [enqueued]
    unfold timesIn
    omega
  failures := by
    intro worker error member
    obtain ⟨before, event, after, current, rfl, reached, own⟩ := mem_ownSteps run member
    rcases mem_workerStep own with rfl | ⟨position, reply, _, present, _, same⟩
    · exact List.mem_append_right _ List.mem_cons_self
    · rw [run_answered reached reply (List.mem_of_getElem? present)] at same
      cases same

theorem exampleEvents_accounted :
    ∃ state, deploymentRun exampleDeployment exampleEvents = some state ∧
      KeepalivesAccounted exampleDeployment exampleEvents state ∧
      (workerActions exampleDeployment 0 exampleEvents).countP acknowledges = 1 ∧
      (handledMessages exampleDeployment 0 exampleEvents).countP isKeepalive = 1 := by
  have ran : (deploymentRun exampleDeployment exampleEvents).isSome = true := by decide +kernel
  obtain ⟨state, run⟩ := Option.isSome_iff_exists.mp ran
  exact ⟨state, run, keepalives_accounted exampleDeployment exampleEvents state run,
    by decide +kernel, by decide +kernel⟩

end ServiceNetwork.Pipeline
