/-
The run in which a worker is served for ever.

Seven events lead a settled worker with nothing under way back to where it was:
an info is recorded, and a keepalive is checked, read, received, handled and
answered.  So what the availability of a worker was shown under can be kept up
from any such state on.
-/

import ServiceNetwork.Pipeline.Availability

namespace ServiceNetwork.Pipeline

open Filter
open ServiceNetwork.Heartbeat
open ServiceNetwork.Peer
open ServiceNetwork.Replay
open ServiceNetwork.ServiceBroker
open ServiceNetwork.ServiceWorker

/-- A worker that uses the peer, and a broker that serves the peer's URL and can
read the address in the worker's keepalives. -/
structure ServingRound (deployment : Deployment) where
  index : Nat
  broker : Nat
  peer : BrokerPeer
  lw : LocalWorkerIdentity
  info : PhactoryInfo
  outside : Outside
  addressed : peer.mgmtAddr ++ rV0LocalWorkerKeepalive ∈
    (deployment.brokers broker).keepaliveUrls
  parses : Parses (deployment.brokers broker).urlparse lw.addressString
  serviceable : Serviceable (deployment.workers index) info
  cooperates : Cooperates (deployment.workers index) (.handled outside)

namespace ServingRound

variable {deployment : Deployment}

def event (round : ServingRound deployment) (n : Nat) : Event :=
  match n % 7 with
  | 0 => .worker round.index (.pruntimeAnswered round.info)
  | 1 => .worker round.index (.handled round.outside)
  | 2 => .worker round.index .keepaliveChecked
  | 3 => .worker round.index .keepaliveRead
  | 4 => .requestReceived 0 round.broker
  | 5 => .managerTurn round.broker
  | _ => .replyRead 0

def url (round : ServingRound deployment) : String :=
  round.peer.mgmtAddr ++ rV0LocalWorkerKeepalive

def body (round : ServingRound deployment) : String :=
  deployment.serdeJson.writeIdentity round.lw

def request (round : ServingRound deployment) (state : DeploymentState) : KeepaliveRequest :=
  { worker := round.index
    connection := state.connections round.index
    url := round.url
    body := round.body }

def reply (round : ServingRound deployment) (state : DeploymentState) : KeepaliveReply :=
  { worker := round.index
    connection := state.connections round.index
    response := (deployment.serve round.broker round.body).2 }

/-- The state before each event of the round. -/
structure At (round : ServingRound deployment) (phase : Nat) (state : DeploymentState) :
    Prop where
  reached : ∃ events, deploymentRun deployment events = some state
  settled : Settled (state.workers round.index)
  uses : Uses (state.workers round.index).runtime round.peer round.body
  queue : (state.workers round.index).queue =
    if phase = 1 then [.shouldUpdateInfo round.info] else []
  loop : (state.workers round.index).keepalive =
    if phase ≤ 2 then .idle else if phase = 3 then .checked else .sending round.url round.body
  requests : state.requests = if phase = 4 then [round.request state] else []
  inbox : state.inboxes round.broker =
    if phase = 5 then [.receivedKeepAlive round.lw] else []
  replies : state.replies = if phase = 5 ∨ phase = 6 then [round.reply state] else []

variable {round : ServingRound deployment} {state next : DeploymentState} {phase : Nat}

theorem reached_next {event : Event}
    (reached : ∃ events, deploymentRun deployment events = some state)
    (stepped : deploymentStep deployment state event = some next) :
    ∃ events, deploymentRun deployment events = some next := by
  obtain ⟨events, run⟩ := reached
  refine ⟨events ++ [event], ?_⟩
  unfold deploymentRun at run ⊢
  rw [replay_concat, run]
  exact stepped

theorem deploymentStep_worker {index : Nat} {action : Action} {after : WorkerState}
    (alone : acknowledges action = false)
    (taken : step (deployment.workers index) (state.workers index) action = some after) :
    deploymentStep deployment state (.worker index action) =
      some (state.workerTook index action after) := by
  simp only [deploymentStep, alone, Bool.false_eq_true, if_false, taken]

theorem workers_workerTook (state : DeploymentState) (index : Nat) (action : Action)
    (after : WorkerState) : (state.workerTook index action after).workers index = after :=
  Function.update_self _ _ _

/-- A step of the worker alone leads on if it leaves its queue and its loop so,
and puts what is asked for under way. -/
theorem At.worker (now : round.At phase state) (early : phase < 4) {action : Action}
    {after : WorkerState} (alone : acknowledges action = false)
    (cooperates : Cooperates (deployment.workers round.index) action)
    (taken : step (deployment.workers round.index) (state.workers round.index) action =
      some after)
    (queue : after.queue = if phase + 1 = 1 then [.shouldUpdateInfo round.info] else [])
    (loop : after.keepalive = if phase + 1 ≤ 2 then .idle
      else if phase + 1 = 3 then .checked else .sending round.url round.body)
    (requests : (state.workerTook round.index action after).requests =
      if phase + 1 = 4 then [round.request (state.workerTook round.index action after)] else []) :
    ∃ next, deploymentStep deployment state (.worker round.index action) = some next ∧
      round.At (phase + 1) next := by
  have stepped := deploymentStep_worker alone taken
  have own := workers_workerTook state round.index action after
  refine ⟨_, stepped, reached_next now.reached stepped, ?_, ?_, ?_, ?_, requests, ?_, ?_⟩
  · rw [own]
    exact now.settled.step cooperates taken
  · rw [own]
    exact now.uses.step now.settled taken
  · rw [own]
    exact queue
  · rw [own]
    exact loop
  · change state.inboxes round.broker = _
    rw [now.inbox, if_neg (by omega), if_neg (by omega)]
  · change state.replies = _
    rw [now.replies, if_neg (by omega), if_neg (by omega)]

/-- What a worker does but for the start of an attempt puts nothing under way. -/
theorem At.requests_workerTook (now : round.At phase state) (early : phase < 3)
    {action : Action} (after : WorkerState) (closed : opensConnection action = false) :
    (state.workerTook round.index action after).requests = [] := by
  have none : ∀ connection, newRequests round.index connection after action = [] := by
    intro connection
    cases action with
    | keepaliveRead => cases closed
    | _ => rfl
  simp only [DeploymentState.workerTook, none, List.append_nil]
  rw [now.requests, if_neg (by omega)]

theorem At.asks (now : round.At 0 state) :
    ∃ next, deploymentStep deployment state (round.event 0) = some next ∧ round.At 1 next := by
  refine now.worker (by omega) rfl round.serviceable rfl ?_ now.loop ?_
  · change (state.workers round.index).queue ++ [.shouldUpdateInfo round.info] = _
    rw [now.queue]
    rfl
  · exact now.requests_workerTook (by omega) _ rfl

theorem At.records (now : round.At 1 state) :
    ∃ next, deploymentStep deployment state (round.event 1) = some next ∧ round.At 2 next := by
  have queued : (state.workers round.index).queue = [.shouldUpdateInfo round.info] := now.queue
  have later : (state.workers round.index).runtime.status ≠ .starting := by
    rw [now.settled.started]
    exact nofun
  have handled : ∃ after, (state.workers round.index).handle (deployment.workers round.index)
      round.outside = some after := by
    unfold WorkerState.handle
    simp only [queued, handleRuntimeEvent, handleUpdateInfo_later later]
    exact ⟨_, rfl⟩
  obtain ⟨after, taken⟩ := handled
  obtain ⟨info, rest, head, rfl⟩ := now.settled.handled taken
  rw [queued] at head
  cases head
  refine now.worker (by omega) rfl round.cooperates taken rfl now.loop ?_
  exact now.requests_workerTook (by omega) _ rfl

theorem At.checks (now : round.At 2 state) :
    ∃ next, deploymentStep deployment state (round.event 2) = some next ∧ round.At 3 next := by
  have taken : step (deployment.workers round.index) (state.workers round.index)
      .keepaliveChecked = some { state.workers round.index with keepalive := .checked } := by
    have idle : (state.workers round.index).keepalive = .idle := now.loop
    simp only [step, WorkerState.keepaliveChecked, idle, now.settled.started, provisioned, if_true]
  refine now.worker (by omega) rfl trivial taken now.queue rfl ?_
  exact now.requests_workerTook (by omega) _ rfl

theorem At.reads (now : round.At 3 state) :
    ∃ next, deploymentStep deployment state (round.event 3) = some next ∧ round.At 4 next := by
  have taken : step (deployment.workers round.index) (state.workers round.index) .keepaliveRead =
      some { state.workers round.index with keepalive := .sending round.url round.body } := by
    have checked : (state.workers round.index).keepalive = .checked := now.loop
    simp only [step, WorkerState.keepaliveRead, checked, now.uses.read]
    rfl
  refine now.worker (by omega) rfl trivial taken now.queue rfl ?_
  have none : state.requests = [] := now.requests
  simp only [DeploymentState.workerTook, none, newRequests, opensConnection, if_true,
    List.nil_append, request, Function.update_self]

theorem At.receives (now : round.At 4 state) :
    ∃ next, deploymentStep deployment state (round.event 4) = some next ∧ round.At 5 next := by
  have under : state.requests = [round.request state] := now.requests
  have inbox : state.inboxes round.broker = [] := now.inbox
  have replies : state.replies = [] := now.replies
  have served : deployment.serve round.broker round.body =
      ([.receivedKeepAlive round.lw], (deployment.serve round.broker round.body).2) := by
    unfold Deployment.serve body
    rw [deployment.serdeJson.read_write]
    rfl
  have stepped : deploymentStep deployment state (.requestReceived 0 round.broker) =
      some
        { state with
          inboxes := Function.update state.inboxes round.broker [.receivedKeepAlive round.lw]
          requests := []
          replies := [round.reply state] } := by
    have addressed : (round.request state).url ∈ (deployment.brokers round.broker).keepaliveUrls :=
      round.addressed
    have sent : (round.request state).body = round.body := rfl
    simp only [deploymentStep, under, List.getElem?_cons_zero, addressed, if_true, sent, inbox,
      replies, List.nil_append, List.eraseIdx_cons_zero]
    rw [served]
    rfl
  refine ⟨_, stepped, reached_next now.reached stepped, now.settled, now.uses, now.queue, now.loop,
    rfl, ?_, rfl⟩
  exact Function.update_self _ _ _

theorem At.manages (now : round.At 5 state) :
    ∃ next, deploymentStep deployment state (round.event 5) = some next ∧ round.At 6 next := by
  have inbox : state.inboxes round.broker = [.receivedKeepAlive round.lw] := now.inbox
  obtain ⟨events, run⟩ := now.reached
  have tracks := localWorkerManager_tracks (localWorkerManager_of_deploymentRun run round.broker)
  have accepted : ∃ manager, managerStep (deployment.brokers round.broker).profile
      (deployment.brokers round.broker).urlparse (state.brokers round.broker)
      (.receivedKeepAlive round.lw) = some manager := by
    rcases tracks.step (deployment.brokers round.broker).profile (.receivedKeepAlive round.lw) with
      ⟨manager, taken, _⟩ | ⟨lw, same, refused, _⟩
    · exact ⟨manager, taken⟩
    · cases same
      exact absurd (Or.inr ((seatFor_isSome_iff round.lw).mpr round.parses)) refused
  obtain ⟨manager, handled⟩ := accepted
  have stepped : deploymentStep deployment state (.managerTurn round.broker) =
      some
        { state with
          brokers := Function.update state.brokers round.broker manager
          inboxes := Function.update state.inboxes round.broker [] } := by
    simp only [deploymentStep, inbox, handled]
  refine ⟨_, stepped, reached_next now.reached stepped, now.settled, now.uses, now.queue, now.loop,
    now.requests, ?_, now.replies⟩
  exact Function.update_self _ _ _

theorem keepaliveOutcome_reply (round : ServingRound deployment) (state : DeploymentState) :
    deployment.keepaliveOutcome (round.reply state).response = .ok () := by
  have answered : (round.reply state).response =
      (handleKeepalive ((deployment.brokers round.broker).myId deployment.myIdentityJson)
        round.lw).2 := by
    unfold reply Deployment.serve body
    rw [deployment.serdeJson.read_write]
  rw [answered]
  unfold Deployment.keepaliveOutcome handleKeepalive BrokerProcess.myId
  simp only [deployment.myIdentityJson.read_write]

theorem At.answers (now : round.At 6 state) :
    ∃ next, deploymentStep deployment state (round.event 6) = some next ∧ round.At 0 next := by
  have under : state.replies = [round.reply state] := now.replies
  have taken : step (deployment.workers round.index) (state.workers round.index)
      (.keepaliveAnswered (.ok ())) =
        some { state.workers round.index with keepalive := .idle } := by
    have sending : (state.workers round.index).keepalive = .sending round.url round.body := now.loop
    simp only [step, WorkerState.keepaliveAnswered, sending]
  have cooperates : Cooperates (deployment.workers round.index) (.keepaliveAnswered (.ok ())) := rfl
  have stepped : deploymentStep deployment state (.replyRead 0) =
      some
        { state with
          workers := Function.update state.workers round.index
            { state.workers round.index with keepalive := .idle }
          replies := [] } := by
    have awaited : (round.reply state).connection = state.connections round.index := rfl
    have mine : (round.reply state).worker = round.index := rfl
    change (state.workers round.index).keepaliveAnswered (.ok ()) = _ at taken
    simp only [deploymentStep, under, List.getElem?_cons_zero, awaited, if_true,
      keepaliveOutcome_reply, mine, taken, List.eraseIdx_cons_zero]
  refine ⟨_, stepped, reached_next now.reached stepped, ?_, ?_, ?_, ?_, now.requests, now.inbox,
    rfl⟩
  · simp only [Function.update_self]
    exact now.settled.step cooperates taken
  · simp only [Function.update_self]
    exact now.uses
  · simp only [Function.update_self]
    exact now.queue
  · simp only [Function.update_self]
    rfl

/-- Each event of the round is possible, and leads to the next. -/
theorem At.step {n : Nat} (now : round.At (n % 7) state) :
    ∃ next, deploymentStep deployment state (round.event n) = some next ∧
      round.At ((n + 1) % 7) next := by
  have phases : ∀ phase, n % 7 = phase → round.event n = round.event phase ∧
      (n + 1) % 7 = (phase + 1) % 7 := by
    intro phase here
    have small : phase % 7 = phase := by omega
    refine ⟨?_, by omega⟩
    unfold event
    rw [here, small]
  rcases (by omega : n % 7 = 0 ∨ n % 7 = 1 ∨ n % 7 = 2 ∨ n % 7 = 3 ∨ n % 7 = 4 ∨ n % 7 = 5 ∨
    n % 7 = 6) with here | here | here | here | here | here | here
  all_goals
    obtain ⟨event, next⟩ := phases _ here
    rw [event, next]
    rw [here] at now
  · exact now.asks
  · exact now.records
  · exact now.checks
  · exact now.reads
  · exact now.receives
  · exact now.manages
  · exact now.answers

/-! ### The run -/

/-- What the worker does in the round. -/
def action (round : ServingRound deployment) (n : Nat) : Option Action :=
  match n % 7 with
  | 0 => some (.pruntimeAnswered round.info)
  | 1 => some (.handled round.outside)
  | 2 => some .keepaliveChecked
  | 3 => some .keepaliveRead
  | 6 => some (.keepaliveAnswered (.ok ()))
  | _ => none

/-- The round is gone through for ever. -/
structure Repeats (round : ServingRound deployment) (run : Behavior (deploymentStep deployment)) :
    Prop where
  events : run.action = round.event
  phases : ∀ n, round.At (n % 7) (run.state n)

theorem exists_repeats (round : ServingRound deployment) {state : DeploymentState}
    (resting : round.At 0 state) :
    ∃ run : Behavior (deploymentStep deployment), run.state 0 = state ∧ round.Repeats run := by
  obtain ⟨run, start, events, phases⟩ := @exists_behavior _ _ (deploymentStep deployment)
    round.event (fun n state => round.At (n % 7) state) (fun _ _ now => now.step) state resting
  exact ⟨run, start, events, phases⟩

variable {run : Behavior (deploymentStep deployment)}

theorem Repeats.acts (repeats : round.Repeats run) (n : Nat) :
    workerActs run round.index n = round.action n := by
  have now := repeats.phases n
  unfold workerActs action
  rw [repeats.events]
  unfold event
  rcases (by omega : n % 7 = 0 ∨ n % 7 = 1 ∨ n % 7 = 2 ∨ n % 7 = 3 ∨ n % 7 = 4 ∨ n % 7 = 5 ∨
    n % 7 = 6) with here | here | here | here | here | here | here
  all_goals
    rw [here] at now ⊢
    simp only [workerStep, if_true, List.head?_cons, List.head?_nil]
  have under : (run.state n).replies = [round.reply (run.state n)] := now.replies
  have mine : (round.reply (run.state n)).worker = round.index := rfl
  simp only [under, List.getElem?_cons_zero, mine, if_true, keepaliveOutcome_reply, List.head?_cons]

theorem Repeats.attended (repeats : round.Repeats run) : Attended run round.index := by
  have acts : ∀ n phase, phase < 7 →
      ∃ m, n ≤ m ∧ workerActs run round.index m = round.action phase := by
    intro n phase small
    refine ⟨7 * n + phase, by omega, ?_⟩
    rw [repeats.acts]
    unfold action
    rw [Nat.mul_add_mod]
  refine ⟨?_, ?_, ?_, ?_, ?_, ?_⟩
  · intro n _
    obtain ⟨m, later, does⟩ := acts n 1 (by omega)
    exact ⟨m, later, round.outside, does⟩
  · intro n live
    exact absurd (repeats.phases n).settled.noWaiters live
  · refine frequently_atTop.mpr ?_
    intro n
    obtain ⟨m, later, does⟩ := acts n 0 (by omega)
    exact ⟨m, later, round.info, does⟩
  · exact fun n _ => acts n 2 (by omega)
  · exact fun n _ => acts n 3 (by omega)
  · intro n _ _ _
    obtain ⟨m, later, does⟩ := acts n 6 (by omega)
    exact ⟨m, later, .ok (), does⟩

theorem cooperates_action {n : Nat} {action : Action} (does : round.action n = some action) :
    Cooperates (deployment.workers round.index) action ∧
      ∀ waiter, action ≠ .waiterPanicked waiter := by
  unfold ServingRound.action at does
  split at does
  · cases does
    exact ⟨round.serviceable, nofun⟩
  · cases does
    exact ⟨round.cooperates, nofun⟩
  · cases does
    exact ⟨trivial, nofun⟩
  · cases does
    exact ⟨trivial, nofun⟩
  · cases does
    exact ⟨rfl, nofun⟩
  · cases does

theorem Repeats.leftAlone (repeats : round.Repeats run) {events : List Event}
    (kept : ∀ waiter, .waiterPanicked waiter ∉ workerActions deployment round.index events)
    (known : BrokerKnown ((run.state 0).workers round.index)) :
    LeftAlone deployment events run round.index := by
  refine ⟨kept, ?_, Eventually.of_forall ?_, 0, known⟩
  · intro n waiter panics
    rw [repeats.acts] at panics
    exact (cooperates_action panics).2 waiter rfl
  · intro n action does
    rw [repeats.acts] at does
    exact (cooperates_action does).1

theorem Repeats.managersMove (repeats : round.Repeats run) : ManagersMove run := by
  refine Eventually.of_forall ?_
  intro n position broker received k later _
  have only : broker = round.broker := by
    rw [repeats.events] at received
    unfold event at received
    split at received <;> cases received
    rfl
  refine ⟨7 * k + 5, by omega, ?_⟩
  rw [only, repeats.events]
  unfold event
  rw [Nat.mul_add_mod]
  rfl

end ServingRound

/-- After any events that have left a worker settled, and with nothing under way
or queued between it and a broker that serves its peer's URL, the worker can be
attended to and left alone for ever. -/
theorem exists_serving_run {deployment : Deployment} (round : ServingRound deployment)
    {events : List Event} {state : DeploymentState} (resting : round.At 0 state)
    (kept : ∀ waiter, .waiterPanicked waiter ∉ workerActions deployment round.index events)
    (known : BrokerKnown (state.workers round.index)) :
    ∃ run : Behavior (deploymentStep deployment), run.state 0 = state ∧
      Attended run round.index ∧ LeftAlone deployment events run round.index ∧
      ManagersMove run := by
  obtain ⟨run, rfl, repeats⟩ := round.exists_repeats resting
  exact ⟨run, rfl, repeats.attended, repeats.leftAlone kept known, repeats.managersMove⟩

/-! ### One worker on one broker -/

def exampleRound : ServingRound exampleDeployment where
  index := 0
  broker := 0
  peer := (BrokerPeer.new 10 "broker" "b1" exampleBrokerProcess.registered
    "http://10.0.0.1:1919").startLifeCheck
  lw := exampleIdentity "b1"
  info := exampleInfo "0a"
  outside := exampleOutside
  addressed := by decide
  parses := by decide
  serviceable := by decide
  cooperates := ⟨⟨_, _, rfl, rfl⟩, fun _ => rfl⟩

/-- The worker's first keepalive is answered, and nothing else is to be done. -/
theorem exampleEvents_resting :
    ∃ state, deploymentRun exampleDeployment exampleEvents = some state ∧
      exampleRound.At 0 state ∧ BrokerKnown (state.workers 0) := by
  have observed : (deploymentRun exampleDeployment exampleEvents).any (fun state =>
      decide ((state.workers 0).runtime.status = .started ∧ (state.workers 0).waiters = [] ∧
        (state.workers 0).queue = [] ∧ (state.workers 0).keepalive = .idle ∧
        (state.workers 0).runtime.bestBroker = some exampleRound.peer ∧
        (state.workers 0).runtime.keepaliveContent = some exampleRound.body ∧
        state.requests = [] ∧ state.inboxes 0 = [] ∧ state.replies = [] ∧
        (state.workers 0).peers.map["broker"]?.isSome = true)) = true := by
    decide +kernel
  obtain ⟨state, run, observed⟩ := (Option.any_eq_true _ _).mp observed
  obtain ⟨started, noWaiters, queue, loop, broker, content, requests, inbox, replies, known⟩ :=
    of_decide_eq_true observed
  obtain ⟨peer, known⟩ := Option.isSome_iff_exists.mp known
  refine ⟨state, run, ⟨⟨_, run⟩, ⟨started, noWaiters, ?_⟩, ⟨broker, content⟩, queue, loop,
    requests, inbox, replies⟩, "broker", peer, known⟩
  intro message member
  change message ∈ (state.workers 0).queue at member
  rw [queue] at member
  cases member

theorem exampleEvents_served_forever :
    ∃ run : Behavior (deploymentStep exampleDeployment),
      deploymentRun exampleDeployment exampleEvents = some (run.state 0) ∧
      ∃ peer lw,
        (∀ᶠ n in atTop, Settled ((run.state n).workers 0) ∧
          Uses ((run.state n).workers 0).runtime peer (plainJson.writeIdentity lw)) ∧
        ∃ᶠ n in atTop, ∃ broker,
          peer.mgmtAddr ++ rV0LocalWorkerKeepalive ∈ exampleBrokerProcess.keepaliveUrls ∧
          ∀ method body, ∃ request,
            forwarder ((run.state n).brokers broker).lwMap lw.publicKey method body =
              .send request := by
  obtain ⟨state, reached, resting, known⟩ := exampleEvents_resting
  have kept : ∀ waiter,
      .waiterPanicked waiter ∉ workerActions exampleDeployment 0 exampleEvents := by
    intro waiter member
    obtain ⟨before, event, after, current, split, _, own⟩ := mem_ownSteps reached member
    have taken : event ∈ exampleEvents := by
      rw [split]
      exact List.mem_append_right _ List.mem_cons_self
    rcases mem_workerStep own with rfl | ⟨_, _, _, _, _, impossible⟩
    · simp [exampleEvents] at taken
    · cases impossible
  obtain ⟨run, rfl, attended, alone, managers⟩ := exists_serving_run exampleRound resting kept known
  exact ⟨run, reached, queries_sent_again_and_again exampleDeployment exampleEvents run 0 reached
    attended alone managers⟩

end ServiceNetwork.Pipeline
