/-
A whole deployment: worker processes, broker processes, and the keepalives and
answers on their way between them.

Any process may take its next step at any moment, and what is under way may be
received late, out of order, after its sender gave up on it, or not at all.  An
answer is read only by the attempt it answers; a stale one can only get lost.
What a broker's table says of a key is traced through the network to one lock
of one worker, and from there to the announcement of the broker it locked.
-/

import Mathlib.Logic.Function.Basic
import ServiceNetwork.Library.Projection
import ServiceNetwork.Pipeline.WorkerIdentity
import ServiceNetwork.ServiceBroker.Management
import ServiceNetwork.ServiceWorker.BrokerDiscovery

namespace ServiceNetwork.Pipeline

open ServiceNetwork.Heartbeat
open ServiceNetwork.Peer
open ServiceNetwork.Replay
open ServiceNetwork.ServiceBroker
open ServiceNetwork.ServiceWorker

/-! ### The joint machine -/

/-- The processes by their starts.  `rejection` is what the web framework
answers to a body that it cannot read. -/
structure Deployment where
  workers : Nat → WorkerProcess
  brokers : Nat → BrokerProcess
  serdeJson : SerdeJson
  sharedJson : ∀ index, (workers index).json = serdeJson
  myIdentityJson : MyIdentityJson
  rejection : String → HttpResponse

structure KeepaliveRequest where
  worker : Nat
  connection : Nat
  url : String
  body : String
  deriving DecidableEq, Repr

structure KeepaliveReply where
  worker : Nat
  connection : Nat
  response : HttpResponse
  deriving DecidableEq, Repr

/-- `connections` counts the attempts that each worker has made. -/
structure DeploymentState where
  workers : Nat → WorkerState
  connections : Nat → Nat
  brokers : Nat → LocalWorkerManager
  inboxes : Nat → List LocalWorkerManagerChannelMessage
  requests : List KeepaliveRequest
  replies : List KeepaliveReply

def DeploymentState.initial : DeploymentState :=
  { workers := fun _ => WorkerState.initial
    connections := fun _ => 0
    brokers := fun _ => LocalWorkerManager.initial
    inboxes := fun _ => []
    requests := []
    replies := [] }

inductive Event where
  | worker (index : Nat) (action : Action)
  | requestReceived (position broker : Nat)
  | requestLost (position : Nat)
  | replyRead (position : Nat)
  | replyLost (position : Nat)
  | checkDue (broker : Nat)
  | managerTurn (broker : Nat)

/-- An attempt succeeds only with an answer, so not by a step of the worker
alone. -/
def acknowledges : Action → Bool
  | .keepaliveAnswered (.ok ()) => true
  | _ => false

/-- The request that a worker has put under way with this action. -/
def newRequests (index connection : Nat) (next : WorkerState) : Action → List KeepaliveRequest
  | .keepaliveRead =>
      match next.keepalive with
      | .sending url body =>
          [{ worker := index, connection := connection, url := url, body := body }]
      | _ => []
  | _ => []

def opensConnection : Action → Bool
  | .keepaliveRead => true
  | _ => false

def DeploymentState.workerTook (state : DeploymentState) (index : Nat) (action : Action)
    (next : WorkerState) : DeploymentState :=
  let connection :=
    if opensConnection action then state.connections index + 1 else state.connections index
  { state with
    workers := Function.update state.workers index next
    connections := Function.update state.connections index connection
    requests := state.requests ++ newRequests index connection next action }

/-- What a worker makes of an answer, whatever its status. -/
def Deployment.keepaliveOutcome (deployment : Deployment) (response : HttpResponse) :
    Except String Unit :=
  match deployment.myIdentityJson.read response.body with
  | .ok _ => .ok ()
  | .error error => .error error

/-- The answer to a request, and the message to the manager if its body could
be read. -/
def Deployment.serve (deployment : Deployment) (broker : Nat) (body : String) :
    List LocalWorkerManagerChannelMessage × HttpResponse :=
  match deployment.serdeJson.readIdentity body with
  | none => ([], deployment.rejection body)
  | some lwi =>
      let (message, response) :=
        handleKeepalive ((deployment.brokers broker).myId deployment.myIdentityJson) lwi
      ([message], response)

def deploymentStep (deployment : Deployment) (state : DeploymentState) :
    Event → Option DeploymentState
  | .worker index action =>
      if acknowledges action then none
      else
        match step (deployment.workers index) (state.workers index) action with
        | none => none
        | some next => some (state.workerTook index action next)
  | .requestReceived position broker =>
      match state.requests[position]? with
      | none => none
      | some request =>
          if request.url ∈ (deployment.brokers broker).keepaliveUrls then
            let (messages, response) := deployment.serve broker request.body
            some
              { state with
                inboxes := Function.update state.inboxes broker (state.inboxes broker ++ messages)
                requests := state.requests.eraseIdx position
                replies := state.replies ++
                  [{ worker := request.worker
                     connection := request.connection
                     response := response }] }
          else none
  | .requestLost position =>
      match state.requests[position]? with
      | none => none
      | some _ => some { state with requests := state.requests.eraseIdx position }
  | .replyRead position =>
      match state.replies[position]? with
      | none => none
      | some reply =>
          if reply.connection = state.connections reply.worker then
            match (state.workers reply.worker).keepaliveAnswered
                (deployment.keepaliveOutcome reply.response) with
            | none => none
            | some next =>
                some
                  { state with
                    workers := Function.update state.workers reply.worker next
                    replies := state.replies.eraseIdx position }
          else none
  | .replyLost position =>
      match state.replies[position]? with
      | none => none
      | some _ => some { state with replies := state.replies.eraseIdx position }
  | .checkDue broker =>
      some
        { state with
          inboxes := Function.update state.inboxes broker
            (state.inboxes broker ++ [.shouldCheckPeerHealth]) }
  | .managerTurn broker =>
      match state.inboxes broker with
      | [] => none
      | message :: rest =>
          match managerStep (deployment.brokers broker).profile
              (deployment.brokers broker).urlparse (state.brokers broker) message with
          | none => none
          | some next =>
              some
                { state with
                  brokers := Function.update state.brokers broker next
                  inboxes := Function.update state.inboxes broker rest }

def deploymentRun (deployment : Deployment) (events : List Event) : Option DeploymentState :=
  replay (deploymentStep deployment) DeploymentState.initial events

/-- What a step leaves, with the guards it passed. -/
inductive DeploymentOutcome (deployment : Deployment) (state : DeploymentState) :
    Event → DeploymentState → Prop where
  | worker (index : Nat) (action : Action) (next : WorkerState)
      (unanswered : acknowledges action = false)
      (taken : step (deployment.workers index) (state.workers index) action = some next) :
      DeploymentOutcome deployment state (.worker index action)
        (state.workerTook index action next)
  | requestReceived (position broker : Nat) (request : KeepaliveRequest)
      (messages : List LocalWorkerManagerChannelMessage) (response : HttpResponse)
      (present : state.requests[position]? = some request)
      (addressed : request.url ∈ (deployment.brokers broker).keepaliveUrls)
      (served : deployment.serve broker request.body = (messages, response)) :
      DeploymentOutcome deployment state (.requestReceived position broker)
        { state with
          inboxes := Function.update state.inboxes broker (state.inboxes broker ++ messages)
          requests := state.requests.eraseIdx position
          replies := state.replies ++
            [{ worker := request.worker
               connection := request.connection
               response := response }] }
  | requestLost (position : Nat) (request : KeepaliveRequest)
      (present : state.requests[position]? = some request) :
      DeploymentOutcome deployment state (.requestLost position)
        { state with requests := state.requests.eraseIdx position }
  | replyRead (position : Nat) (reply : KeepaliveReply) (next : WorkerState)
      (present : state.replies[position]? = some reply)
      (awaited : reply.connection = state.connections reply.worker)
      (taken : (state.workers reply.worker).keepaliveAnswered
        (deployment.keepaliveOutcome reply.response) = some next) :
      DeploymentOutcome deployment state (.replyRead position)
        { state with
          workers := Function.update state.workers reply.worker next
          replies := state.replies.eraseIdx position }
  | replyLost (position : Nat) (reply : KeepaliveReply)
      (present : state.replies[position]? = some reply) :
      DeploymentOutcome deployment state (.replyLost position)
        { state with replies := state.replies.eraseIdx position }
  | checkDue (broker : Nat) :
      DeploymentOutcome deployment state (.checkDue broker)
        { state with
          inboxes := Function.update state.inboxes broker
            (state.inboxes broker ++ [.shouldCheckPeerHealth]) }
  | managerTurn (broker : Nat) (message : LocalWorkerManagerChannelMessage)
      (rest : List LocalWorkerManagerChannelMessage) (next : LocalWorkerManager)
      (head : state.inboxes broker = message :: rest)
      (taken : managerStep (deployment.brokers broker).profile
        (deployment.brokers broker).urlparse (state.brokers broker) message = some next) :
      DeploymentOutcome deployment state (.managerTurn broker)
        { state with
          brokers := Function.update state.brokers broker next
          inboxes := Function.update state.inboxes broker rest }

variable {deployment : Deployment} {state next : DeploymentState} {event : Event}

theorem deploymentStep_outcome (taken : deploymentStep deployment state event = some next) :
    DeploymentOutcome deployment state event next := by
  cases event with
  | worker index action =>
      simp only [deploymentStep] at taken
      split at taken
      · cases taken
      · rename_i unanswered
        split at taken
        · cases taken
        · rename_i after stepped
          cases taken
          exact .worker index action after (Bool.eq_false_iff.mpr unanswered) stepped
  | requestReceived position broker =>
      simp only [deploymentStep] at taken
      split at taken
      · cases taken
      · rename_i request present
        split at taken
        · rename_i addressed
          cases taken
          exact .requestReceived position broker request _ _ present addressed rfl
        · cases taken
  | requestLost position =>
      simp only [deploymentStep] at taken
      split at taken
      · cases taken
      · rename_i request present
        cases taken
        exact .requestLost position request present
  | replyRead position =>
      simp only [deploymentStep] at taken
      split at taken
      · cases taken
      · rename_i reply present
        split at taken
        · rename_i awaited
          split at taken
          · cases taken
          · rename_i after answered
            cases taken
            exact .replyRead position reply after present awaited answered
        · cases taken
  | replyLost position =>
      simp only [deploymentStep] at taken
      split at taken
      · cases taken
      · rename_i reply present
        cases taken
        exact .replyLost position reply present
  | checkDue broker =>
      cases taken
      exact .checkDue broker
  | managerTurn broker =>
      simp only [deploymentStep] at taken
      split at taken
      · cases taken
      · rename_i message rest head
        split at taken
        · cases taken
        · rename_i after stepped
          cases taken
          exact .managerTurn broker message rest after head stepped

/-! ### The part of each process -/

def workerStep (deployment : Deployment) (index : Nat) (state : DeploymentState) :
    Event → List Action
  | .worker other action => if other = index then [action] else []
  | .replyRead position =>
      match state.replies[position]? with
      | none => []
      | some reply =>
          if reply.worker = index then
            [.keepaliveAnswered (deployment.keepaliveOutcome reply.response)]
          else []
  | _ => []

/-- The actions that a worker took in a run of the deployment. -/
def workerActions (deployment : Deployment) (index : Nat) (events : List Event) : List Action :=
  ownSteps (deploymentStep deployment) (workerStep deployment index) DeploymentState.initial events

def managerTurn (index : Nat) (state : DeploymentState) :
    Event → List LocalWorkerManagerChannelMessage
  | .managerTurn other => if other = index then (state.inboxes index).take 1 else []
  | _ => []

/-- The messages that a broker's manager handled in it. -/
def handledMessages (deployment : Deployment) (index : Nat) (events : List Event) :
    List LocalWorkerManagerChannelMessage :=
  ownSteps (deploymentStep deployment) (managerTurn index) DeploymentState.initial events

/-- A worker acts by itself, or by reading an answer. -/
theorem mem_workerStep {index : Nat} {action : Action}
    (acts : action ∈ workerStep deployment index state event) :
    event = .worker index action ∨
      ∃ position reply, event = .replyRead position ∧ state.replies[position]? = some reply ∧
        reply.worker = index ∧
        action = .keepaliveAnswered (deployment.keepaliveOutcome reply.response) := by
  unfold workerStep at acts
  split at acts
  · rename_i other does
    split at acts
    · rename_i mine
      rw [List.mem_singleton] at acts
      subst mine acts
      exact Or.inl rfl
    · cases acts
  · rename_i position
    split at acts
    · cases acts
    · rename_i reply present
      split at acts
      · rename_i mine
        exact Or.inr ⟨position, reply, rfl, present, mine, List.mem_singleton.mp acts⟩
      · cases acts
  · cases acts

theorem workerStep_simulates (index : Nat)
    (taken : deploymentStep deployment state event = some next) :
    replay (step (deployment.workers index)) (state.workers index)
      (workerStep deployment index state event) = some (next.workers index) := by
  cases deploymentStep_outcome taken with
  | worker other action after unanswered stepped =>
      by_cases mine : other = index
      · subst mine
        simp [workerStep, DeploymentState.workerTook, replay_cons, stepped]
      · simp [workerStep, DeploymentState.workerTook, mine, Function.update_of_ne (Ne.symm mine)]
  | replyRead position reply after present awaited answered =>
      by_cases mine : reply.worker = index
      · subst mine
        simp only [workerStep, present, if_true, replay_cons, step, answered, Option.bind_some,
          replay_nil, Function.update_self]
      · simp [workerStep, present, mine, Function.update_of_ne (Ne.symm mine)]
  | requestReceived | requestLost | replyLost | checkDue | managerTurn => rfl

/-- Each worker of a deployment runs as it would by itself. -/
theorem workerRun_of_deploymentRun {events : List Event}
    (run : deploymentRun deployment events = some state) (index : Nat) :
    workerRun (deployment.workers index) (workerActions deployment index events) =
      some (state.workers index) :=
  @replay_ownSteps _ _ _ _ _ (step (deployment.workers index)) (workerStep deployment index)
    DeploymentState.initial state events (fun state => state.workers index)
    (fun _ _ _ taken => workerStep_simulates index taken) run

theorem managerTurn_simulates (index : Nat)
    (taken : deploymentStep deployment state event = some next) :
    replay (managerStep (deployment.brokers index).profile (deployment.brokers index).urlparse)
      (state.brokers index) (managerTurn index state event) = some (next.brokers index) := by
  cases deploymentStep_outcome taken with
  | managerTurn other message rest after head stepped =>
      by_cases mine : other = index
      · subst mine
        simp [managerTurn, head, replay_cons, stepped]
      · simp [managerTurn, mine, Function.update_of_ne (Ne.symm mine)]
  | worker | requestReceived | requestLost | replyRead | replyLost | checkDue => rfl

/-- So does each broker's manager, on the messages it handled. -/
theorem localWorkerManager_of_deploymentRun {events : List Event}
    (run : deploymentRun deployment events = some state) (index : Nat) :
    localWorkerManager (deployment.brokers index).profile (deployment.brokers index).urlparse
      (handledMessages deployment index events) = some (state.brokers index) :=
  @replay_ownSteps _ _ _ _ _
    (managerStep (deployment.brokers index).profile (deployment.brokers index).urlparse)
    (managerTurn index) DeploymentState.initial state events (fun state => state.brokers index)
    (fun _ _ _ taken => managerTurn_simulates index taken) run

/-! ### One worker on one broker -/

def exampleBrokerConfig : BrokerConfig :=
  { outboundBindAddresses := ["10.0.0.1:1981"]
    inboundHttpServerBindAddress := ["0.0.0.0:19810"]
    inboundHttpServerAccessibleAddressPrefix := "http://broker:19810"
    cost := 10 }

def exampleBrokerProcess : BrokerProcess :=
  { config :=
      { role := .prBroker (some exampleBrokerConfig)
        instanceId := "b1"
        common := { instanceName := "broker", mgmtPort := 1919 } }
    profile := .release
    urlparse := exampleUrlparse
    interfaces := [⟨.v4 ⟨10, 0, 0, 1⟩⟩]
    registered :=
      { properties :=
          [("in", "broker"), ("i", "b1"), ("c", "10"), ("mp", "1919"), ("oa", "10.0.0.1:1981"),
            ("o", "http://broker:19810")]
        addresses := [⟨10, 0, 0, 1⟩]
        port := 1919 }
    registers := rfl }

/-- Copies of one worker and of one broker. -/
def exampleDeployment : Deployment :=
  { workers := fun _ => exampleProcess
    brokers := fun _ => exampleBrokerProcess
    serdeJson := plainJson
    sharedJson := fun _ => rfl
    myIdentityJson := plainMyIdentityJson
    rejection := fun _ => { status := 400, body := [] } }

/-- The first worker hears of the first broker, locks it, and its first
keepalive is received, handled and answered. -/
def exampleEvents : List Event :=
  List.flatten
    [[.pruntimeAnswered (exampleInfo "0a"), .handled exampleOutside, .handled exampleOutside,
        .brokerAnnounced exampleBrokerProcess.registered].map (Event.worker 0),
      List.replicate 5 (.worker 0 (.waiterTurn 0)),
      List.replicate 3 (.worker 0 (.handled exampleOutside)),
      [.worker 0 .keepaliveChecked, .worker 0 .keepaliveRead, .requestReceived 0 0,
        .managerTurn 0, .replyRead 0]]

end ServiceNetwork.Pipeline
