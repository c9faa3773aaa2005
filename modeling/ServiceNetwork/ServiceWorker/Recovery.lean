/-
From wherever the worker has got to, it can be started again.

What is queued is handled first, whatever it is; then a reported failure and two
infos bring the worker back to waiting, whatever status that left, and a fresh
waiting task locks a broker.  Old waiting tasks need not move.
-/

import ServiceNetwork.Library.Reach
import ServiceNetwork.ServiceWorker.Accounting
import ServiceNetwork.ServiceWorker.Admission
import ServiceNetwork.ServiceWorker.Liveness
import ServiceNetwork.ServiceWorker.NetworkData
import ServiceNetwork.ServiceWorker.OutboundProxy

namespace ServiceNetwork.ServiceWorker

open ServiceNetwork.Peer
open ServiceNetwork.Register
open ServiceNetwork.Replay

/-- Nothing that is queued or known makes the event loop or a fresh waiting task
panic. -/
structure Unblocked (process : WorkerProcess) (state : WorkerState) : Prop where
  safe : LockSafe state
  versions : ∀ info, .shouldUpdateInfo info ∈ state.queue →
    (process.versionSupported info.version).isSome
  brokers : ∀ (name : String) (peer : BrokerPeer), state.peers.map[name]? = some peer →
    HasProxyItem peer.serviceInfo

/-- A step that puts nothing in the way: an info that drops the network data finds
no way to a lock behind it, the versions that pRuntime reports parse, and each
broker announces an outbound address with a port. -/
structure Sensible (process : WorkerProcess) (state : WorkerState) (action : Action)
    (next : WorkerState) : Prop where
  quiet : DropsQuietly process state action next
  version : ∀ info, action = .pruntimeAnswered info →
    (process.versionSupported info.version).isSome
  proxied : ∀ info, action = .brokerAnnounced info → HasProxyItem info

/-- An outside that lets every turn of the event loop return. -/
structure Obliges (process : WorkerProcess) (outside : Outside) : Prop where
  hosted : (process.urlparse process.localWorker.pruntimeAddress).hostname.isSome
  cooperates : Cooperates process (.handled outside)
  addressed : ∃ address, forwarderAddress process.localWorker outside.interfaces = .ok address
  stopped : outside.stopBrowse = .ok ()

variable {process : WorkerProcess} {outside : Outside} {state next : WorkerState}
  {action : Action}

theorem Unblocked.step (unblocked : Unblocked process state)
    (sensible : Sensible process state action next)
    (taken : step process state action = some next) : Unblocked process next where
  safe := unblocked.safe.step sensible.quiet taken
  versions := by
    intro info queued
    by_cases handles : ∃ outside, action = .handled outside
    · obtain ⟨outside, rfl⟩ := handles
      obtain ⟨message, rest, handled, head, returned, rfl⟩ := handle_eq_some taken
      rcases List.mem_append.mp queued with before | sent
      · exact unblocked.versions info (by rw [head]; exact List.mem_cons_of_mem message before)
      · have reply := handleRuntimeEvent_reply returned
        generalize handled.sent = messages at reply sent
        generalize handled.spawned = spawned at reply
        generalize handled.runtime.status = after at reply
        generalize state.runtime.status = before at reply
        cases reply <;> simp at sent
    · obtain ⟨sent, grown, arrived⟩ :=
        step_arrives taken (fun outside same => handles ⟨outside, same⟩)
      rw [grown] at queued
      rcases List.mem_append.mp queued with before | new
      · exact unblocked.versions info before
      · have arrives := arrived _ new
        cases arrives with
        | info => exact sensible.version info rfl
  brokers := by
    intro name peer stored
    rw [step_peers taken] at stored
    cases action with
    | brokerAnnounced info =>
        change (state.peers.announced process.atoi info).map[name]? = some peer at stored
        rw [announced_map] at stored
        cases announced : announcedPeer process.atoi info with
        | none =>
            rw [announced] at stored
            exact unblocked.brokers name peer stored
        | some other =>
            rw [announced] at stored
            simp only [keepFirst_getElem?] at stored
            cases known : state.peers.map[name]? with
            | some first =>
                rw [known] at stored
                cases stored
                exact unblocked.brokers name peer known
            | none =>
                rw [known, Option.none_or] at stored
                split at stored
                · cases stored
                  rw [announcedPeer_serviceInfo announced]
                  exact sensible.proxied info rfl
                · cases stored
    | _ => exact unblocked.brokers name peer stored

/-! ### The queue can be emptied -/

theorem proxy_of_locked {actions : List Action} (run : workerRun process actions = some state)
    {peer : BrokerPeer} (locked : state.runtime.bestBroker = some peer) :
    (∃ allProxy, outboundProxy peer = .ok allProxy) ↔ HasProxyItem peer.serviceInfo := by
  have stored := (run_locksStored run).locks peer (Or.inr locked)
  rw [run_peers run] at stored
  exact outboundProxy_returns_iff (addressed_of_announced stored)

theorem proxy_of_bestBroker {actions : List Action} (run : workerRun process actions = some state)
    (unblocked : Unblocked process state) {peer : BrokerPeer}
    (locked : state.runtime.bestBroker = some peer) :
    ∃ allProxy, outboundProxy peer = .ok allProxy := by
  have stored := (run_locksStored run).locks peer (Or.inr locked)
  exact (proxy_of_locked run locked).mpr (unblocked.brokers _ peer stored)

theorem provisions_of_obliges (obliges : Obliges process outside) {wr : WorkerRuntime}
    {peer : BrokerPeer} {allProxy : String} (locked : wr.bestBroker = some peer)
    (decoded : outboundProxy peer = .ok allProxy) :
    wr.handleUpdateStatus outside .pendingProvision =
      .ok ⟨{ wr with status := .pendingProvision }, [.shouldUpdateStatus .started], 0⟩ := by
  simp only [WorkerRuntime.handleUpdateStatus, obliges.stopped, locked, unwrap_some,
    setPruntimeNetworkWithPeer, decoded, obliges.cooperates.2 allProxy, bind, Except.bind]
  rfl

theorem turn_returns (obliges : Obliges process outside) {actions : List Action}
    (run : workerRun process actions = some state) (unblocked : Unblocked process state)
    {message : WorkerRuntimeChannelMessage} {rest : List WorkerRuntimeChannelMessage}
    (head : state.queue = message :: rest) :
    ∃ handled, handleRuntimeEvent process outside state.runtime message = .ok handled := by
  have member : message ∈ state.queue := by
    rw [head]
    exact List.mem_cons_self
  cases message with
  | shouldUpdateInfo info =>
      by_cases starting : state.runtime.status = .starting
      · exact (handleUpdateInfo_returns_iff starting obliges.hosted).mpr
          (unblocked.versions info member)
      · exact ⟨_, handleUpdateInfo_later starting⟩
  | shouldSetPRuntimeFailed msg => exact ⟨_, rfl⟩
  | shouldSetBrokerFailed msg => exact ⟨_, rfl⟩
  | shouldLockBroker peer =>
      obtain ⟨address, addressed⟩ := obliges.addressed
      exact (unblocked.safe.known_of_head head rfl).locks addressed peer
  | shouldUpdateStatus status =>
      cases status with
      | pendingProvision =>
          cases locked : state.runtime.bestBroker with
          | none => exact absurd .provision ((brokerFirst_of_run run locked).queue _ member)
          | some peer =>
              obtain ⟨allProxy, decoded⟩ := proxy_of_bestBroker run unblocked locked
              exact ⟨_, provisions_of_obliges obliges locked decoded⟩
      | starting => exact ⟨_, rfl⟩
      | waitingForBroker => exact ⟨_, rfl⟩
      | started => exact ⟨_, rfl⟩
      | failed reason => exact ⟨_, rfl⟩

/-- A reachable state of the process in which nothing is blocked. -/
structure Healthy (process : WorkerProcess) (state : WorkerState) : Prop where
  reached : ∃ actions, workerRun process actions = some state
  unblocked : Unblocked process state

theorem Healthy.step (healthy : Healthy process state)
    (sensible : Sensible process state action next)
    (taken : step process state action = some next) : Healthy process next where
  reached := by
    obtain ⟨actions, run⟩ := healthy.reached
    refine ⟨actions ++ [action], ?_⟩
    unfold workerRun at run ⊢
    rw [replay_concat, run]
    exact taken
  unblocked := healthy.unblocked.step sensible taken

/-- A turn in which pRuntime answers with a port drops nothing. -/
theorem sensible_turn (obliges : Obliges process outside) :
    Sensible process state (.handled outside) next where
  quiet := by
    intro other info rest same head starting drops
    cases same
    obtain ⟨config, rpcPort, answered, port⟩ := obliges.cooperates.1
    exact absurd port (drops.2.2 config rpcPort answered)
  version := nofun
  proxied := nofun

/-- What is left once the message at the head is handled. -/
def WorkerState.left (state : WorkerState) (rest : List WorkerRuntimeChannelMessage)
    (handled : Handled) : WorkerState :=
  { state with
    runtime := handled.runtime
    queue := rest ++ handled.sent
    waiters := state.waiters ++ List.replicate handled.spawned 0 }

theorem Healthy.left (healthy : Healthy process state) (obliges : Obliges process outside)
    {message : WorkerRuntimeChannelMessage} {rest : List WorkerRuntimeChannelMessage}
    {handled : Handled} (head : state.queue = message :: rest)
    (returned : handleRuntimeEvent process outside state.runtime message = .ok handled) :
    ServiceWorker.step process state (.handled outside) = some (state.left rest handled) ∧
      Healthy process (state.left rest handled) := by
  have taken : ServiceWorker.step process state (.handled outside) =
      some (state.left rest handled) := by
    simp only [ServiceWorker.step, WorkerState.handle, head, returned, WorkerState.left]
  exact ⟨taken, healthy.step (sensible_turn obliges) taken⟩

/-- The queue can be emptied by the event loop alone. -/
theorem Healthy.drain (healthy : Healthy process state) (obliges : Obliges process outside) :
    ∃ final, CanReach (ServiceWorker.step process) state final ∧ Healthy process final ∧
      final.queue = [] := by
  refine @reach_of_nearer _ _ _ (Healthy process) (fun state => state.queue = [])
    WorkerState.turnsAhead ?_ state healthy
  intro current healthy busy
  obtain ⟨message, rest, head⟩ := List.exists_cons_of_ne_nil busy
  obtain ⟨actions, run⟩ := healthy.reached
  obtain ⟨handled, returned⟩ := turn_returns obliges run healthy.unblocked head
  obtain ⟨taken, healthyNext⟩ := healthy.left obliges head returned
  refine ⟨_, .single taken, healthyNext, ?_⟩
  have paid := step_paid taken
  change (current.left rest handled).turnsAhead + 1 ≤ current.turnsAhead + 0 at paid
  omega

/-! ### The way back -/

/-- A healthy state that can be reached from the given one, with an empty queue. -/
structure Regains (process : WorkerProcess) (state final : WorkerState) : Prop where
  reaches : CanReach (step process) state final
  healthy : Healthy process final
  idle : final.queue = []

theorem Healthy.arrive (healthy : Healthy process state) (obliges : Obliges process outside)
    (idle : state.queue = []) {message : WorkerRuntimeChannelMessage} {handled : Handled}
    (sensible : Sensible process state action (state.enqueue message))
    (arrives : ServiceWorker.step process state action = some (state.enqueue message))
    (returned : handleRuntimeEvent process outside state.runtime message = .ok handled) :
    CanReach (ServiceWorker.step process) state (state.left [] handled) ∧
      Healthy process (state.left [] handled) := by
  have head : (state.enqueue message).queue = [message] := by
    simp only [WorkerState.enqueue, idle, List.nil_append]
  obtain ⟨taken, healthyNext⟩ := (healthy.step sensible arrives).left obliges head returned
  exact ⟨(CanReach.single arrives).then taken, healthyNext⟩

theorem sensible_report {error : String} :
    Sensible process state (.pruntimeFailed error) next :=
  ⟨nofun, nofun, nofun⟩

theorem sensible_info {info : PhactoryInfo} (serviceable : Serviceable process info) :
    Sensible process state (.pruntimeAnswered info) next where
  quiet := nofun
  version := by
    intro other same
    cases same
    rw [serviceable.1]
    rfl
  proxied := nofun

theorem Healthy.fails (healthy : Healthy process state) (obliges : Obliges process outside)
    (idle : state.queue = []) :
    ∃ final reason, Regains process state final ∧ final.runtime.status = .failed reason := by
  obtain ⟨reaches, reported⟩ := @Healthy.arrive process outside state _ healthy obliges idle
    (.shouldSetPRuntimeFailed "") _ sensible_report rfl rfl
  have reply := handlePruntimeFailure_reply state.runtime ""
  generalize sends : state.runtime.handlePruntimeFailure "" = sent at reply reaches reported
  generalize status : state.runtime.status = before at reply
  cases reply with
  | failureNoted _ reason =>
      obtain ⟨taken, failed⟩ := @Healthy.left process outside _ reported obliges
        (.shouldUpdateStatus (.failed reason)) [] _ rfl rfl
      exact ⟨_, reason, ⟨reaches.then taken, failed, rfl⟩, rfl⟩
  | failureKnown _ reason => exact ⟨_, reason, ⟨reaches, reported, rfl⟩, status⟩

theorem Healthy.resets (healthy : Healthy process state) (obliges : Obliges process outside)
    {info : PhactoryInfo} (serviceable : Serviceable process info) (idle : state.queue = [])
    {reason : WorkerRuntimeFailReason} (failed : state.runtime.status = .failed reason) :
    ∃ final, Regains process state final ∧ final.runtime.status = .starting := by
  have later : state.runtime.status ≠ .starting := by
    rw [failed]
    exact nofun
  obtain ⟨reaches, recovering⟩ := @Healthy.arrive process outside state _ healthy obliges idle
    (.shouldUpdateInfo info) _ (sensible_info serviceable) rfl (handleUpdateInfo_later later)
  have recovers : state.runtime.recoverFromFailure = [.shouldUpdateStatus .starting] := by
    simp only [WorkerRuntime.recoverFromFailure, failed]
  rw [recovers] at reaches recovering
  obtain ⟨taken, reset⟩ := @Healthy.left process outside _ recovering obliges
    (.shouldUpdateStatus .starting) [] _ rfl rfl
  exact ⟨_, ⟨reaches.then taken, reset, rfl⟩, rfl⟩

/-- The worker waits for a broker with a fresh task behind the old ones. -/
structure FreshlyWaiting (front : List UInt8) (loopNum : UInt8) (state : WorkerState) : Prop where
  status : state.runtime.status = .waitingForBroker
  browsing : state.runtime.peerBrowserStarted = true
  waiters : state.waiters = front ++ [loopNum]

theorem Healthy.admits (healthy : Healthy process state) (obliges : Obliges process outside)
    {info : PhactoryInfo} (serviceable : Serviceable process info) (idle : state.queue = [])
    (starting : state.runtime.status = .starting) :
    ∃ final, Regains process state final ∧ FreshlyWaiting state.waiters 0 final := by
  have supported : (process.versionSupported info.version).isSome := by
    rw [serviceable.1]
    rfl
  obtain ⟨handled, returned⟩ :=
    (handleUpdateInfo_returns_iff starting obliges.hosted).mpr supported
  obtain ⟨reaches, admitted⟩ := @Healthy.arrive process outside state _ healthy obliges idle
    (.shouldUpdateInfo info) _ (sensible_info serviceable) rfl returned
  have sent := admitted_of_cooperates obliges.cooperates serviceable starting returned
  have spawned : handled.spawned = 0 := by
    obtain ⟨_, _, outcome⟩ := handleUpdateInfo_starting starting returned
    cases outcome <;> rfl
  have head : (state.left [] handled).queue = [.shouldUpdateStatus .waitingForBroker] := by
    simp only [WorkerState.left, sent, List.nil_append]
  obtain ⟨taken, waiting⟩ := @Healthy.left process outside _ admitted obliges
    (.shouldUpdateStatus .waitingForBroker) [] _ head rfl
  refine ⟨_, ⟨reaches.then taken, waiting, rfl⟩, rfl, rfl, ?_⟩
  simp [WorkerState.left, spawned]

theorem announcement_taken (browsing : state.runtime.peerBrowserStarted = true)
    (info : ServiceInfo) :
    ∃ next, step process state (.brokerAnnounced info) = some next ∧
      next.runtime = state.runtime ∧ next.queue = state.queue ∧ next.waiters = state.waiters := by
  cases updated : state.peers.updatePeerWithServiceInfo process.atoi info with
  | error panic =>
      refine ⟨state, ?_, rfl, rfl, rfl⟩
      simp only [step, browsing, if_true, updated]
  | ok result =>
      refine ⟨{ state with peers := result.2 }, ?_, rfl, rfl, rfl⟩
      simp only [step, browsing, if_true, updated]

theorem Healthy.hears (healthy : Healthy process state) {broker : ServiceInfo}
    (admitted : (announcedPeer process.atoi broker).isSome) (proxied : HasProxyItem broker)
    (idle : state.queue = []) {front : List UInt8} {loopNum : UInt8}
    (waiting : FreshlyWaiting front loopNum state) :
    ∃ final, Regains process state final ∧ FreshlyWaiting front loopNum final ∧
      BrokerKnown final := by
  obtain ⟨peer, announced⟩ := Option.isSome_iff_exists.mp admitted
  obtain ⟨next, taken, sameRuntime, sameQueue, sameWaiters⟩ :=
    @announcement_taken process state waiting.browsing broker
  have sensible : Sensible process state (.brokerAnnounced broker) next := by
    refine ⟨nofun, nofun, ?_⟩
    intro info same
    cases same
    exact proxied
  refine ⟨next, ⟨.single taken, healthy.step sensible taken, sameQueue.trans idle⟩, ?_, ?_⟩
  · exact ⟨by rw [sameRuntime]; exact waiting.status, by rw [sameRuntime]; exact waiting.browsing,
      by rw [sameWaiters]; exact waiting.waiters⟩
  · refine ⟨peer.instanceName, ?_⟩
    rw [step_peers taken]
    change ∃ stored,
      (state.peers.announced process.atoi broker).map[peer.instanceName]? = some stored
    rw [announced_map, announced]
    simp only [keepFirst_getElem?, if_true]
    cases state.peers.map[peer.instanceName]? with
    | none => exact ⟨peer, rfl⟩
    | some first => exact ⟨first, rfl⟩

theorem Healthy.sees (healthy : Healthy process state) (known : BrokerKnown state) :
    ∃ peer, Sees state.peers (some peer) := by
  obtain ⟨actions, run⟩ := healthy.reached
  have keyed : Keyed BrokerPeer.instanceName state.peers.map := by
    rw [run_peers run]
    exact discovered_keyed process.atoi _
  have usable : ∀ (name : String) (peer : BrokerPeer), state.peers.map[name]? = some peer →
      (peer.serviceInfo.getProperty "oa").isSome := by
    intro name peer stored
    obtain ⟨oa, announced, _⟩ := healthy.unblocked.brokers name peer stored
    rw [announced]
    rfl
  obtain ⟨name, peer, stored⟩ := known
  rcases verifyBestInstance_of_keyed keyed usable with ⟨empty, _⟩ | ⟨best, _, verified⟩
  · have member := (mem_values_iff state.peers.map peer).mpr ⟨name, stored⟩
    rw [empty] at member
    cases member
  · exact ⟨best, _, verified⟩

/-- The fresh task takes a turn: it counts to four, and locks with the fifth. -/
theorem Healthy.waiterTurn (healthy : Healthy process state) {front : List UInt8} {loopNum : UInt8}
    (waiting : FreshlyWaiting front loopNum state) (known : BrokerKnown state)
    (early : loopNum.toNat ≤ 4) :
    ∃ next, ServiceWorker.step process state (.waiterTurn front.length) = some next ∧
      Healthy process next ∧ BrokerKnown next ∧
      if loopNum.toNat < 4 then
        next.queue = state.queue ∧ FreshlyWaiting front (loopNum + 1) next
      else ∃ peer, next.queue = state.queue ++ [.shouldLockBroker peer] := by
  obtain ⟨peer, seen⟩ := healthy.sees known
  have counted : u8AddOne process.profile loopNum = .ok (loopNum + 1) :=
    u8AddOne_of_lt process.profile (by omega)
  obtain ⟨after, turn⟩ := waitForBrokerPeer_some seen counted
  have live : state.waiters[front.length]? = some loopNum := by
    rw [waiting.waiters, List.getElem?_append_right (Nat.le_refl _), Nat.sub_self]
    rfl
  have next : (loopNum + 1).toNat = loopNum.toNat + 1 := by
    rw [UInt8.toNat_add]
    exact Nat.mod_eq_of_lt (by change loopNum.toNat + 1 < 256; omega)
  have sensible : ∀ next, Sensible process state (.waiterTurn front.length) next :=
    fun next => ⟨nofun, nofun, nofun⟩
  have keeps : ∀ next, ServiceWorker.step process state (.waiterTurn front.length) = some next →
      BrokerKnown next := by
    intro next taken
    obtain ⟨name, stored, present⟩ := known
    exact ⟨name, stored, step_keeps_entry taken present⟩
  by_cases few : loopNum.toNat < 4
  · have short : ¬ 5 ≤ loopNum + 1 := by
      rw [UInt8.le_iff_toNat_le, next]
      change ¬ 5 ≤ loopNum.toNat + 1
      omega
    rw [if_neg short] at turn
    have taken : ServiceWorker.step process state (.waiterTurn front.length) =
        some { state with waiters := front ++ [loopNum + 1], peers := after } := by
      simp [ServiceWorker.step, WorkerState.waiterTurn, waiting.status, turn, waiting.waiters]
    refine ⟨_, taken, healthy.step (sensible _) taken, keeps _ taken, ?_⟩
    rw [if_pos few]
    exact ⟨rfl, waiting.status, waiting.browsing, rfl⟩
  · have full : 5 ≤ loopNum + 1 := by
      rw [UInt8.le_iff_toNat_le, next]
      change 5 ≤ loopNum.toNat + 1
      omega
    rw [if_pos full] at turn
    have taken : ServiceWorker.step process state (.waiterTurn front.length) =
        some
          { state with
            queue := state.queue ++ [.shouldLockBroker peer]
            waiters := state.waiters.eraseIdx front.length
            peers := after } := by
      simp only [ServiceWorker.step, WorkerState.waiterTurn, live, waiting.status, turn]
    refine ⟨_, taken, healthy.step (sensible _) taken, keeps _ taken, ?_⟩
    rw [if_neg few]
    exact ⟨peer, rfl⟩

theorem Healthy.locks (healthy : Healthy process state) (idle : state.queue = [])
    {front : List UInt8} {loopNum : UInt8} (waiting : FreshlyWaiting front loopNum state)
    (known : BrokerKnown state) (early : loopNum.toNat ≤ 4) :
    ∃ final peer, CanReach (ServiceWorker.step process) state final ∧ Healthy process final ∧
      final.queue = [.shouldLockBroker peer] := by
  generalize left : 4 - loopNum.toNat = turns
  induction turns generalizing state loopNum with
  | zero =>
      obtain ⟨next, taken, healthyNext, _, locked⟩ := healthy.waiterTurn waiting known early
      rw [if_neg (by omega), idle] at locked
      obtain ⟨peer, queued⟩ := locked
      exact ⟨next, peer, .single taken, healthyNext, queued⟩
  | succ turns ih =>
      obtain ⟨next, taken, healthyNext, knownNext, counted⟩ :=
        healthy.waiterTurn waiting known early
      rw [if_pos (by omega), idle] at counted
      obtain ⟨idleNext, waitingNext⟩ := counted
      have one : (loopNum + 1).toNat = loopNum.toNat + 1 := by
        rw [UInt8.toNat_add]
        exact Nat.mod_eq_of_lt (by change loopNum.toNat + 1 < 256; omega)
      obtain ⟨final, peer, reaches, healthyFinal, queued⟩ :=
        ih healthyNext idleNext waitingNext knownNext (by omega) (by omega)
      exact ⟨final, peer, (CanReach.single taken).trans reaches, healthyFinal, queued⟩

theorem Healthy.starts (healthy : Healthy process state) (obliges : Obliges process outside)
    {peer : BrokerPeer} (queued : state.queue = [.shouldLockBroker peer]) :
    ∃ final, Regains process state final ∧ final.runtime.status = .started := by
  obtain ⟨actions, run⟩ := healthy.reached
  obtain ⟨handled, returned⟩ := turn_returns obliges run healthy.unblocked queued
  obtain ⟨identity, _, rfl⟩ := handleLockPeer_eq_ok.mp returned
  obtain ⟨lockTaken, locked⟩ := healthy.left obliges queued returned
  obtain ⟨actions, run⟩ := locked.reached
  obtain ⟨allProxy, decoded⟩ := proxy_of_bestBroker run locked.unblocked rfl
  obtain ⟨provisionTaken, provisioned⟩ := @Healthy.left process outside _ locked obliges
    (.shouldUpdateStatus .pendingProvision) [] _ rfl (provisions_of_obliges obliges rfl decoded)
  obtain ⟨startTaken, started⟩ := @Healthy.left process outside _ provisioned obliges
    (.shouldUpdateStatus .started) [] _ rfl rfl
  exact ⟨_, ⟨((CanReach.single lockTaken).then provisionTaken).then startTaken, started, rfl⟩, rfl⟩

theorem Regains.trans {current final : WorkerState} (first : Regains process state current)
    (second : Regains process current final) : Regains process state final :=
  ⟨first.reaches.trans second.reaches, second.healthy, second.idle⟩

/-- After every run whose steps put nothing in the way, whatever the status, the
queue and the waiting tasks are, the worker can be brought to `Started` with an
empty queue, by an outside that obliges, an info that is serviceable and a broker
that can be admitted. -/
theorem worker_can_restart {actions : List Action} (run : workerRun process actions = some state)
    (sensible : AtEveryStep (step process) WorkerState.initial (Sensible process) actions)
    (obliges : Obliges process outside) {info : PhactoryInfo}
    (serviceable : Serviceable process info) {broker : ServiceInfo}
    (admitted : (announcedPeer process.atoi broker).isSome) (proxied : HasProxyItem broker) :
    ∃ more final, workerRun process (actions ++ more) = some final ∧
      final.runtime.status = .started ∧ final.queue = [] := by
  have initially : Unblocked process WorkerState.initial := by
    refine ⟨Or.inr ⟨nofun, nofun⟩, nofun, ?_⟩
    intro name peer stored
    simp [WorkerState.initial, BrokerPeerManager.new] at stored
  have unblocked : Unblocked process state := by
    refine replay_preserves_atEveryStep initially ?_ run sensible
    intro current action next unblocked sensible taken
    exact unblocked.step sensible taken
  have healthy : Healthy process state := ⟨⟨actions, run⟩, unblocked⟩
  obtain ⟨drained, drains, healthyDrained, idle⟩ := healthy.drain obliges
  obtain ⟨failed, reason, fails, failedStatus⟩ := healthyDrained.fails obliges idle
  obtain ⟨reset, resets, starting⟩ :=
    fails.healthy.resets obliges serviceable fails.idle failedStatus
  obtain ⟨waiting, admits, fresh⟩ := resets.healthy.admits obliges serviceable resets.idle starting
  obtain ⟨hearing, hears, stillFresh, known⟩ :=
    admits.healthy.hears admitted proxied admits.idle fresh
  obtain ⟨locking, peer, locks, healthyLocking, queued⟩ :=
    hears.healthy.locks hears.idle stillFresh known (by decide)
  obtain ⟨final, starts, started⟩ := healthyLocking.starts obliges queued
  have whole := ((((fails.trans resets).trans admits).trans hears).reaches.trans locks).trans
    starts.reaches
  obtain ⟨more, replayed⟩ := drains.trans whole
  refine ⟨more, final, ?_, started, starts.idle⟩
  unfold workerRun at run ⊢
  rw [replay_append, run]
  exact replayed

/-- The worker whose proxy was refused is started again. -/
theorem exampleRefused_can_restart :
    ∃ more final, workerRun exampleProcess (exampleRefused ++ more) = some final ∧
      final.runtime.status = .started ∧ final.queue = [] := by
  have run : ∃ state, workerRun exampleProcess exampleRefused = some state := ⟨_, rfl⟩
  obtain ⟨state, run⟩ := run
  have known : ∀ action ∈ exampleRefused, action = .pruntimeAnswered (exampleInfo "0a") ∨
      action = .handled exampleOutside ∨ action = .handled refusingOutside ∨
      action = .brokerAnnounced exampleBroker ∨ action = .waiterTurn 0 := by
    intro action member
    simp only [exampleRefused, exampleLocking, List.flatten_cons, List.flatten_nil,
      List.mem_append, List.mem_cons, List.not_mem_nil, or_false, List.mem_replicate] at member
    rcases member with ((h | h | h | h) | ⟨_, h⟩) | (h | h) | ⟨_, h⟩ <;> simp [h]
  have proxied : HasProxyItem exampleBroker := ⟨"10.0.0.1:1981", rfl, by decide⟩
  have configured : ∀ outside, .handled outside ∈ exampleRefused →
      ∃ config rpcPort, outside.networkConfig = .ok config ∧
        config.publicRpcPort = some rpcPort := by
    intro outside member
    have same : outside = exampleOutside ∨ outside = refusingOutside := by
      simpa using known _ member
    rcases same with rfl | rfl <;> exact ⟨_, _, rfl, rfl⟩
  refine @worker_can_restart exampleProcess exampleOutside state exampleRefused run ?_
    ⟨rfl, ⟨⟨_, _, rfl, rfl⟩, fun _ => rfl⟩, ⟨_, rfl⟩, rfl⟩ (exampleInfo "0a") ⟨rfl, rfl, rfl⟩
    exampleBroker rfl proxied
  intro before action after current next split reached taken
  have member := known action (by rw [split]; simp)
  refine ⟨dropsQuietly_of_configured configured before action after current next split reached
    taken, ?_, ?_⟩
  · rintro info rfl
    have same : info = exampleInfo "0a" := by simpa using member
    rw [same]
    rfl
  · rintro info rfl
    have same : info = exampleBroker := by simpa using member
    rw [same]
    exact proxied

end ServiceNetwork.ServiceWorker
