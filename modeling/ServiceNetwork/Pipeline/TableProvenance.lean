/-
Where the entries of a broker's table come from, in every run of a deployment.

Each step of a keepalive on its way (written at a lock, sent by the keepalive
loop, received by a broker, handled by the manager) keeps what the step before
established, so an entry leads back to a lock that a worker took with a key of
its own.  If the workers hear nothing but what the brokers registered, the
locked peer in turn leads back to a broker with the same management URL.
-/

import ServiceNetwork.Pipeline.Deployment

namespace ServiceNetwork.Pipeline

open ServiceNetwork.Heartbeat
open ServiceNetwork.Peer
open ServiceNetwork.Replay
open ServiceNetwork.ServiceBroker
open ServiceNetwork.ServiceWorker

/-! ### A keepalive and the lock it was written at -/

/-- The keepalive goes to the peer at whose lock its body was written. -/
theorem sending_to_lockedPeer {process : WorkerProcess} {actions : List Action}
    {state : WorkerState} (run : workerRun process actions = some state) {url body : String}
    (sending : state.keepalive = .sending url body) :
    ∃ peer, url = peer.mgmtAddr ++ rV0LocalWorkerKeepalive ∧
      WrittenAtLock process actions peer body := by
  refine @replay_holds WorkerState Action (step process)
    (fun taken current => ∀ url body, current.keepalive = .sending url body →
      ∃ peer, url = peer.mgmtAddr ++ rV0LocalWorkerKeepalive ∧
        WrittenAtLock process taken peer body)
    WorkerState.initial ?_ ?_ actions state run url body sending
  · intro url body impossible
    cases impossible
  · intro before current action next reached written taken url body sending
    rcases step_sending taken sending with already | read
    · obtain ⟨peer, addressed, written⟩ := written url body already
      exact ⟨peer, addressed, written.concat action⟩
    · unfold checkCurrentBrokerHealth at read
      obtain ⟨broker, brokerAt, read⟩ := bind_eq_ok.mp read
      obtain ⟨content, contentAt, read⟩ := bind_eq_ok.mp read
      rw [unwrap_eq_ok] at brokerAt contentAt
      cases read
      obtain ⟨_, locking, locked, outside, peer, identity, latest, head, built, best, _, _,
        stored⟩ := (recorded_of_run reached).broker (by rw [brokerAt]; rfl)
      rw [contentAt] at stored
      rw [brokerAt] at best
      cases stored
      cases best
      obtain ⟨⟨after, split⟩, reachedLock, _⟩ := latest.occurred
      have written : WrittenAtLock process before broker (process.json.writeIdentity identity) :=
        ⟨locking, outside, after, locked, identity, split, reachedLock, head, built, rfl⟩
      exact ⟨broker, rfl, written.concat action⟩

theorem WrittenAtLock.append {process : WorkerProcess} {actions : List Action}
    {peer : BrokerPeer} {body : String} (written : WrittenAtLock process actions peer body)
    (later : List Action) : WrittenAtLock process (actions ++ later) peer body := by
  obtain ⟨before, outside, after, current, identity, split, reached, head, built, same⟩ := written
  exact ⟨before, outside, after ++ later, current, identity, by rw [split]; simp, reached, head,
    built, same⟩

variable {deployment : Deployment} {taken events : List Event} {state next : DeploymentState}
  {event : Event}

/-- The worker wrote the body at a lock of the peer that the URL belongs to. -/
def FromLock (deployment : Deployment) (taken : List Event) (worker : Nat) (url body : String) :
    Prop :=
  ∃ peer, url = peer.mgmtAddr ++ rV0LocalWorkerKeepalive ∧
    WrittenAtLock (deployment.workers worker) (workerActions deployment worker taken) peer body

/-- The identity reached the broker under one of its URLs, from such a lock. -/
def Arrived (deployment : Deployment) (taken : List Event) (broker : Nat)
    (lw : LocalWorkerIdentity) : Prop :=
  ∃ worker url body, FromLock deployment taken worker url body ∧
    deployment.serdeJson.readIdentity body = some lw ∧
    url ∈ (deployment.brokers broker).keepaliveUrls

theorem FromLock.concat (reached : deploymentRun deployment taken = some state)
    (stepped : deploymentStep deployment state event = some next) {worker : Nat}
    {url body : String} (locked : FromLock deployment taken worker url body) :
    FromLock deployment (taken ++ [event]) worker url body := by
  obtain ⟨peer, addressed, written⟩ := locked
  refine ⟨peer, addressed, ?_⟩
  unfold workerActions
  rw [ownSteps_concat reached stepped]
  exact written.append _

theorem Arrived.concat (reached : deploymentRun deployment taken = some state)
    (stepped : deploymentStep deployment state event = some next) {broker : Nat}
    {lw : LocalWorkerIdentity} (arrived : Arrived deployment taken broker lw) :
    Arrived deployment (taken ++ [event]) broker lw := by
  obtain ⟨worker, url, body, locked, read, addressed⟩ := arrived
  exact ⟨worker, url, body, locked.concat reached stepped, read, addressed⟩

/-! ### Everything under way or received has a lock behind it -/

structure Traced (deployment : Deployment) (taken : List Event) (state : DeploymentState) :
    Prop where
  requests : ∀ request ∈ state.requests,
    FromLock deployment taken request.worker request.url request.body
  inboxes : ∀ broker lw, .receivedKeepAlive lw ∈ state.inboxes broker →
    Arrived deployment taken broker lw
  handled : ∀ broker lw, .receivedKeepAlive lw ∈ handledMessages deployment broker taken →
    Arrived deployment taken broker lw

theorem mem_newRequests {index connection : Nat} {after : WorkerState} {action : Action}
    {request : KeepaliveRequest}
    (opened : request ∈ newRequests index connection after action) :
    request.worker = index ∧ after.keepalive = .sending request.url request.body := by
  unfold newRequests at opened
  split at opened
  · split at opened
    · rename_i url body sending
      rw [List.mem_singleton] at opened
      subst opened
      exact ⟨rfl, sending⟩
    · cases opened
  · cases opened

theorem mem_serve {broker : Nat} {body : String} {lw : LocalWorkerIdentity}
    {messages : List LocalWorkerManagerChannelMessage} {response : HttpResponse}
    (served : deployment.serve broker body = (messages, response))
    (member : .receivedKeepAlive lw ∈ messages) :
    deployment.serdeJson.readIdentity body = some lw := by
  unfold Deployment.serve at served
  cases read : deployment.serdeJson.readIdentity body with
  | none =>
      rw [read] at served
      cases served
      cases member
  | some lwi =>
      rw [read] at served
      cases served
      rw [List.mem_singleton] at member
      cases member
      rfl

theorem mem_update {Value : Type} {lists : Nat → List Value} {index other : Nat}
    {list : List Value} {value : Value}
    (member : value ∈ Function.update lists index list other) :
    (other = index ∧ value ∈ list) ∨ value ∈ lists other := by
  by_cases same : other = index
  · subst same
    rw [Function.update_self] at member
    exact Or.inl ⟨rfl, member⟩
  · rw [Function.update_of_ne same] at member
    exact Or.inr member

theorem Traced.step (reached : deploymentRun deployment taken = some state)
    (traced : Traced deployment taken state)
    (stepped : deploymentStep deployment state event = some next) :
    Traced deployment (taken ++ [event]) next := by
  have requests : ∀ request ∈ state.requests,
      FromLock deployment (taken ++ [event]) request.worker request.url request.body :=
    fun request member => (traced.requests request member).concat reached stepped
  have inboxes : ∀ broker lw, .receivedKeepAlive lw ∈ state.inboxes broker →
      Arrived deployment (taken ++ [event]) broker lw :=
    fun broker lw member => (traced.inboxes broker lw member).concat reached stepped
  have handled : ∀ broker lw,
      .receivedKeepAlive lw ∈ handledMessages deployment broker (taken ++ [event]) →
      Arrived deployment (taken ++ [event]) broker lw := by
    intro broker lw member
    unfold handledMessages at member
    rw [ownSteps_concat reached stepped, List.mem_append] at member
    rcases member with earlier | now
    · exact (traced.handled broker lw earlier).concat reached stepped
    · apply inboxes broker lw
      unfold managerTurn at now
      split at now
      · split at now
        · exact List.mem_of_mem_take now
        · cases now
      · cases now
  have outcome := deploymentStep_outcome stepped
  refine ⟨?_, ?_, handled⟩
  · intro request member
    cases outcome with
    | worker index action after unanswered took =>
        rcases List.mem_append.mp member with before | opened
        · exact requests request before
        · obtain ⟨sender, sending⟩ := mem_newRequests opened
          have restricted := workerRun_of_deploymentRun
            (show deploymentRun deployment (taken ++ [.worker index action]) = some _ by
              unfold deploymentRun at reached ⊢
              rw [replay_concat, reached]
              exact stepped) index
          simp only [DeploymentState.workerTook, Function.update_self] at restricted
          unfold FromLock
          rw [sender]
          exact sending_to_lockedPeer restricted sending
    | requestReceived | requestLost => exact requests request (List.mem_of_mem_eraseIdx member)
    | replyRead | replyLost | checkDue | managerTurn => exact requests request member
  · intro broker lw member
    cases outcome with
    | requestReceived position other request messages response present addressed served =>
        rcases mem_update member with ⟨rfl, appended⟩ | before
        · rcases List.mem_append.mp appended with before | new
          · exact inboxes _ lw before
          · exact ⟨request.worker, request.url, request.body,
              requests request (List.mem_of_getElem? present), mem_serve served new, addressed⟩
        · exact inboxes broker lw before
    | checkDue other =>
        rcases mem_update member with ⟨rfl, appended⟩ | before
        · rcases List.mem_append.mp appended with before | new
          · exact inboxes _ lw before
          · rw [List.mem_singleton] at new
            cases new
        · exact inboxes broker lw before
    | managerTurn other message rest after head took =>
        rcases mem_update member with ⟨rfl, left⟩ | before
        · apply inboxes _ lw
          rw [head]
          exact List.mem_cons_of_mem message left
        · exact inboxes broker lw before
    | worker | requestLost | replyRead | replyLost => exact inboxes broker lw member

theorem run_traced (run : deploymentRun deployment events = some state) :
    Traced deployment events state := by
  refine @replay_holds DeploymentState Event (deploymentStep deployment)
    (fun taken state => Traced deployment taken state) DeploymentState.initial ?_ ?_ events state
    run
  · refine ⟨?_, ?_, ?_⟩
    · intro request impossible
      cases impossible
    · intro broker lw impossible
      cases impossible
    · intro broker lw impossible
      cases impossible
  · intro before current event next reached traced stepped
    exact traced.step reached stepped

/-! ### What an entry says, and where its queries go -/

/-- The worker held the key as its own when it locked the peer, in this run. -/
def LockedWithKey (deployment : Deployment) (events : List Event) (worker : Nat)
    (outside : Outside) (peer : BrokerPeer) (key : String) : Prop :=
  ∃ before after current,
    workerActions deployment worker events = before ++ .handled outside :: after ∧
    workerRun (deployment.workers worker) before = some current ∧
    handledMessage current (.handled outside) = some (.shouldLockBroker peer) ∧
    current.runtime.publicKey = some key

theorem Arrived.lock {broker : Nat} {lw : LocalWorkerIdentity}
    (arrived : Arrived deployment events broker lw) :
    ∃ worker outside peer, LockedWithKey deployment events worker outside peer lw.publicKey ∧
      forwarderAddress (deployment.workers worker).localWorker outside.interfaces =
        .ok lw.addressString ∧
      lw.instanceName = peer.instanceName ∧ lw.instanceId = peer.id ∧
      peer.mgmtAddr ++ rV0LocalWorkerKeepalive ∈
        (deployment.brokers broker).keepaliveUrls := by
  obtain ⟨worker, url, body, ⟨peer, rfl, written⟩, read, addressed⟩ := arrived
  obtain ⟨before, outside, after, current, identity, split, reached, head, built, same⟩ := written
  rw [same, deployment.sharedJson worker, SerdeJson.read_write] at read
  cases read
  obtain ⟨_, _, key, address, _, _, keyAt, formed, rfl⟩ := keepaliveIdentity_eq_ok.mp built
  exact ⟨worker, outside, peer, ⟨before, after, current, split, reached, head, keyAt⟩, formed,
    rfl, rfl, addressed⟩

theorem leaseFor_latest_mem {profile : BuildProfile} {urlparse : String → Uri}
    {messages : List LocalWorkerManagerChannelMessage} {manager : LocalWorkerManager}
    (run : localWorkerManager profile urlparse messages = some manager) {key : String}
    {lease : WorkerLease urlparse} (held : leaseFor urlparse messages key = some lease) :
    .receivedKeepAlive lease.latest ∈ messages := by
  have heard : ¬ Silent key messages := by
    intro silent
    rw [leaseFor_silent silent] at held
    cases held
  obtain ⟨before, lw, after, rfl, rfl, silent⟩ := split_at_last_keepalive heard
  obtain ⟨latest, heldLatest, carries⟩ := leaseFor_latest run silent
  rw [held] at heldLatest
  cases heldLatest
  rw [carries]
  exact List.mem_append_right _ List.mem_cons_self

/-- The keepalives that opened and last renewed the entry of a key arrived. -/
theorem entry_arrived (run : deploymentRun deployment events = some state) {broker : Nat}
    {key : String} {klw : KnownLocalWorker}
    (found : (state.brokers broker).lwMap[key]? = some klw) :
    ∃ lease : WorkerLease (deployment.brokers broker).urlparse, klw = entry lease ∧
      lease.seat.identity.publicKey = key ∧
      Arrived deployment events broker lease.seat.identity ∧
      Arrived deployment events broker lease.latest := by
  have managed := localWorkerManager_of_deploymentRun run broker
  have tracks := localWorkerManager_tracks managed
  rw [tracks.entries] at found
  obtain ⟨lease, held, rfl⟩ := Option.map_eq_some_iff.mp found
  obtain ⟨opened, mine⟩ := leaseFor_seat_mem held
  have traced := run_traced run
  exact ⟨lease, rfl, mine, traced.handled broker _ opened,
    traced.handled broker _ (leaseFor_latest_mem managed held)⟩

/-- No query goes astray: whatever a broker forwards for a key, it forwards to
the address that a worker announced when it locked this broker, holding the key
as its own. -/
theorem query_sent_to_key_holder (deployment : Deployment) (events : List Event)
    (state : DeploymentState) (run : deploymentRun deployment events = some state)
    (broker : Nat) (key method : String) (body : Bytes) (request : HttpRequest)
    (sent : forwarder (state.brokers broker).lwMap key method body = .send request) :
    ∃ worker outside peer address hostname port,
      LockedWithKey deployment events worker outside peer key ∧
      peer.mgmtAddr ++ rV0LocalWorkerKeepalive ∈ (deployment.brokers broker).keepaliveUrls ∧
      forwarderAddress (deployment.workers worker).localWorker outside.interfaces =
        .ok address ∧
      ((deployment.brokers broker).urlparse address).hostname = some hostname ∧
      ((deployment.brokers broker).urlparse address).port = some port ∧
      request.url = "http://" ++ hostname ++ ":" ++ toString port ++ "/" ++ method := by
  obtain ⟨klw, found, _, rfl⟩ := forwarder_eq_send sent
  obtain ⟨lease, rfl, rfl, arrived, _⟩ := entry_arrived run found
  obtain ⟨worker, outside, peer, locked, formed, _, _, addressed⟩ := arrived.lock
  exact ⟨worker, outside, peer, lease.seat.identity.addressString, lease.seat.hostname,
    lease.seat.port, locked, addressed, formed, lease.seat.parsedHost, lease.seat.parsedPort, rfl⟩

theorem exampleEvents_query :
    ∃ state request, deploymentRun exampleDeployment exampleEvents = some state ∧
      forwarder (state.brokers 0).lwMap "0a" "GetInfo" [] = .send request ∧
      ∃ worker outside peer address hostname port,
        LockedWithKey exampleDeployment exampleEvents worker outside peer "0a" ∧
        peer.mgmtAddr ++ rV0LocalWorkerKeepalive ∈ exampleBrokerProcess.keepaliveUrls ∧
        forwarderAddress (exampleDeployment.workers worker).localWorker outside.interfaces =
          .ok address ∧
        (exampleUrlparse address).hostname = some hostname ∧
        (exampleUrlparse address).port = some port ∧
        request.url = "http://" ++ hostname ++ ":" ++ toString port ++ "/" ++ "GetInfo" := by
  have sent : (deploymentRun exampleDeployment exampleEvents).map
      (fun state => forwarder (state.brokers 0).lwMap "0a" "GetInfo" []) =
        some (.send
          { url := "http://10.0.0.2:1982/GetInfo"
            contentType := contentTypeBin
            body := [] }) := by
    decide +kernel
  obtain ⟨state, run, sent⟩ := Option.map_eq_some_iff.mp sent
  exact ⟨state, _, run, sent,
    query_sent_to_key_holder exampleDeployment exampleEvents state run 0 "0a" "GetInfo" [] _ sent⟩

/-! ### Brokers that announce themselves -/

/-- The workers hear nothing but what the brokers registered. -/
def Truthful (deployment : Deployment) (events : List Event) : Prop :=
  ∀ index info, .worker index (.brokerAnnounced info) ∈ events →
    ∃ source, Resolves (deployment.brokers source).registered info

theorem announced_of_heard (run : deploymentRun deployment events = some state) {worker : Nat}
    {info : ServiceInfo}
    (heard : info ∈ announcements (workerActions deployment worker events)) :
    .worker worker (.brokerAnnounced info) ∈ events := by
  obtain ⟨action, member, announces⟩ := List.mem_filterMap.mp heard
  obtain ⟨before, event, after, current, rfl, _, own⟩ := mem_ownSteps run member
  rcases mem_workerStep own with rfl | ⟨_, _, _, _, _, rfl⟩
  · cases action with
    | brokerAnnounced other =>
        cases announces
        exact List.mem_append_right _ List.mem_cons_self
    | _ => cases announces
  · cases announces

/-- A locked peer is one of the brokers, under a URL that is that broker's. -/
theorem lockedPeer_is_broker (run : deploymentRun deployment events = some state)
    (truthful : Truthful deployment events) {worker : Nat} {outside : Outside}
    {peer : BrokerPeer} {key : String}
    (locked : LockedWithKey deployment events worker outside peer key) :
    ∃ source, peer.instanceName = (deployment.brokers source).config.common.instanceName ∧
      peer.id = (deployment.brokers source).config.instanceId ∧
      peer.mgmtAddr ++ rV0LocalWorkerKeepalive ∈
        (deployment.brokers source).keepaliveUrls := by
  obtain ⟨before, after, current, split, reached, head, _⟩ := locked
  have queued : .shouldLockBroker peer ∈ current.queue := List.mem_of_mem_head? head
  have stored := (run_locksStored reached).locks peer (Or.inl queued)
  rw [run_peers reached, discovered_getElem?] at stored
  obtain ⟨info, heard, announced⟩ := List.mem_filterMap.mp (List.mem_of_find?_eq_some stored)
  have heardInRun : info ∈ announcements (workerActions deployment worker events) := by
    unfold announcements at heard ⊢
    rw [split, List.filterMap_append]
    exact List.mem_append_left _ heard
  obtain ⟨source, resolves⟩ := truthful worker info (announced_of_heard run heardInRun)
  exact ⟨source, announcedPeer_of_resolved resolves announced⟩

/-- In a deployment of truthful brokers in which only starts of one broker share
a management URL, every entry of a broker's table bears that broker's own name
and the id of one of its starts. -/
theorem table_names_broker (deployment : Deployment) (events : List Event)
    (state : DeploymentState) (run : deploymentRun deployment events = some state)
    (truthful : Truthful deployment events)
    (separate : ∀ one other url, url ∈ (deployment.brokers one).keepaliveUrls →
      url ∈ (deployment.brokers other).keepaliveUrls →
      (deployment.brokers one).config.common = (deployment.brokers other).config.common)
    (broker : Nat) (key : String) (klw : KnownLocalWorker)
    (found : (state.brokers broker).lwMap[key]? = some klw) :
    klw.instanceName = (deployment.brokers broker).config.common.instanceName ∧
      ∃ start, (deployment.brokers start).config.common =
          (deployment.brokers broker).config.common ∧
        klw.instanceId = (deployment.brokers start).config.instanceId := by
  obtain ⟨lease, rfl, _, opened, renewed⟩ := entry_arrived run found
  constructor
  · obtain ⟨worker, outside, peer, locked, _, name, _, addressed⟩ := opened.lock
    obtain ⟨source, sourceName, _, sourceUrl⟩ := lockedPeer_is_broker run truthful locked
    rw [← separate broker source _ addressed sourceUrl] at sourceName
    exact name.trans sourceName
  · obtain ⟨worker, outside, peer, locked, _, _, id, addressed⟩ := renewed.lock
    obtain ⟨source, _, sourceId, sourceUrl⟩ := lockedPeer_is_broker run truthful locked
    exact ⟨source, (separate broker source _ addressed sourceUrl).symm, id.trans sourceId⟩

/-- A broker at another address. -/
def secondBrokerProcess : BrokerProcess :=
  { config :=
      { role := .prBroker (some exampleBrokerConfig)
        instanceId := "b2"
        common := { instanceName := "second", mgmtPort := 1919 } }
    profile := .release
    urlparse := exampleUrlparse
    interfaces := [⟨.v4 ⟨10, 0, 0, 5⟩⟩]
    registered :=
      { properties :=
          [("in", "second"), ("i", "b2"), ("c", "10"), ("mp", "1919"), ("oa", "10.0.0.1:1981"),
            ("o", "http://broker:19810")]
        addresses := [⟨10, 0, 0, 5⟩]
        port := 1919 }
    registers := rfl }

def twoBrokers : Deployment :=
  { exampleDeployment with
    brokers := fun start => if start = 0 then exampleBrokerProcess else secondBrokerProcess }

/-- A worker hears of some brokers, locks one of them, and that one handles its
first keepalive. -/
def servedBy (worker : Nat) (heard : List ServiceInfo) (broker : Nat) : List Event :=
  List.flatten
    [[.pruntimeAnswered (exampleInfo "0a"), .handled exampleOutside, .handled exampleOutside].map
        (Event.worker worker),
      heard.map fun info => .worker worker (.brokerAnnounced info),
      List.replicate 5 (.worker worker (.waiterTurn 0)),
      List.replicate 3 (.worker worker (.handled exampleOutside)),
      [.worker worker .keepaliveChecked, .worker worker .keepaliveRead,
        .requestReceived 0 broker, .managerTurn broker, .replyRead 0]]

/-- Two workers on two brokers; the first hears of both. -/
def twoBrokersEvents : List Event :=
  servedBy 0 [secondBrokerProcess.registered, exampleBrokerProcess.registered] 0 ++
    servedBy 1 [secondBrokerProcess.registered] 1

theorem twoBrokersEvents_truthful : Truthful twoBrokers twoBrokersEvents := by
  intro index info member
  have either : info = exampleBrokerProcess.registered ∨ info = secondBrokerProcess.registered := by
    simp [twoBrokersEvents, servedBy] at member
    tauto
  rcases either with rfl | rfl
  · exact ⟨0, Resolves.refl _⟩
  · exact ⟨1, Resolves.refl _⟩

theorem twoBrokers_separate (one other : Nat) (url : String)
    (mine : url ∈ (twoBrokers.brokers one).keepaliveUrls)
    (shared : url ∈ (twoBrokers.brokers other).keepaliveUrls) :
    (twoBrokers.brokers one).config.common = (twoBrokers.brokers other).config.common := by
  have apart : List.Disjoint exampleBrokerProcess.keepaliveUrls
      secondBrokerProcess.keepaliveUrls := by
    have one : exampleBrokerProcess.keepaliveUrls =
        ["http://10.0.0.1:1919" ++ rV0LocalWorkerKeepalive] := by decide
    rw [one, List.singleton_disjoint]
    decide
  by_cases first : one = 0
  · by_cases firstToo : other = 0
    · rw [first, firstToo]
    · simp only [twoBrokers, if_pos first, if_neg firstToo] at mine shared
      exact absurd shared (apart mine)
  · by_cases firstToo : other = 0
    · simp only [twoBrokers, if_neg first, if_pos firstToo] at mine shared
      exact absurd mine (apart shared)
    · simp only [twoBrokers, if_neg first, if_neg firstToo]

theorem twoBrokersEvents_table :
    ∃ state klw, deploymentRun twoBrokers twoBrokersEvents = some state ∧
      (state.brokers 1).lwMap["0a"]? = some klw ∧ klw.instanceName = "second" ∧
      klw.instanceId = "b2" := by
  have stored : ((deploymentRun twoBrokers twoBrokersEvents).bind
      fun state => (state.brokers 1).lwMap["0a"]?).isSome = true := by
    decide +kernel
  obtain ⟨klw, stored⟩ := Option.isSome_iff_exists.mp stored
  obtain ⟨state, run, found⟩ := Option.bind_eq_some_iff.mp stored
  obtain ⟨name, start, sameConfig, id⟩ := table_names_broker twoBrokers twoBrokersEvents state run
    twoBrokersEvents_truthful twoBrokers_separate 1 "0a" klw found
  refine ⟨state, klw, run, found, name, ?_⟩
  have second : start ≠ 0 := by
    rintro rfl
    exact absurd sameConfig (by decide)
  rw [id]
  simp only [twoBrokers, if_neg second]
  rfl

end ServiceNetwork.Pipeline
