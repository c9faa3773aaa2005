/-
Whether a worker knows, chooses and locks its brokers as they announced
themselves last.

The map keeps the first announcement of a name and is never cleared.  It is
current exactly while no broker has changed what it announces, and a recovery
from a failure changes nothing about that.
-/

import ServiceNetwork.Peer.Selection
import ServiceNetwork.ServiceWorker.StatusProtocol

namespace ServiceNetwork.ServiceWorker

open Std
open ServiceNetwork.Peer
open ServiceNetwork.Register
open ServiceNetwork.Replay

/-- The peer of the most recent valid announcement of the name. -/
def lastAnnounced (atoi : String → Option UInt8) (infos : List ServiceInfo) (name : String) :
    Option BrokerPeer :=
  (infos.filterMap (announcedPeer atoi)).reverse.find? fun peer => peer.instanceName = name

/-- The stored peers carry what their names announced last, and the selection
goes by the costs announced last. -/
structure DiscoveryCurrent (atoi : String → Option UInt8) (infos : List ServiceInfo)
    (manager : BrokerPeerManager) : Prop where
  entries : ∀ (name : String) (peer : BrokerPeer), manager.map[name]? = some peer →
    ∃ latest, lastAnnounced atoi infos name = some latest ∧ peer.id = latest.id ∧
      peer.cost = latest.cost ∧ peer.mgmtAddr = latest.mgmtAddr ∧
      peer.serviceInfo = latest.serviceInfo
  selection : ∀ peer after, manager.verifyBestInstance = .ok (some peer, after) →
    ∃ latest, lastAnnounced atoi infos peer.instanceName = some latest ∧
      ∀ name other, lastAnnounced atoi infos name = some other → latest.cost ≤ other.cost

/-- No name has changed what it announces since it was first heard of. -/
def Steady (atoi : String → Option UInt8) (infos : List ServiceInfo) : Prop :=
  ∀ name, firstAnnounced atoi infos name = lastAnnounced atoi infos name

variable {atoi : String → Option UInt8} {infos : List ServiceInfo} {manager : BrokerPeerManager}

theorem lastAnnounced_announced {name : String} {peer : BrokerPeer}
    (last : lastAnnounced atoi infos name = some peer) :
    announcedPeer atoi peer.serviceInfo = some peer := by
  have member := List.mem_reverse.mp (List.mem_of_find?_eq_some last)
  obtain ⟨info, _, announced⟩ := List.mem_filterMap.mp member
  rw [announcedPeer_serviceInfo announced]
  exact announced

theorem lastAnnounced_isSome (name : String) :
    (lastAnnounced atoi infos name).isSome = (firstAnnounced atoi infos name).isSome := by
  unfold lastAnnounced firstAnnounced
  rw [Bool.eq_iff_iff, List.find?_isSome, List.find?_isSome]
  simp only [List.mem_reverse]

/-- What announcements have stored is current exactly when every name is steady. -/
theorem discoveryCurrent_iff (same : manager.map = (discovered atoi infos).map) :
    DiscoveryCurrent atoi infos manager ↔ Steady atoi infos := by
  have stored : ∀ name, manager.map[name]? = firstAnnounced atoi infos name := by
    intro name
    rw [same, discovered_getElem?]
  constructor
  · intro current name
    cases first : firstAnnounced atoi infos name with
    | none =>
        have absent : (lastAnnounced atoi infos name).isSome =
            (firstAnnounced atoi infos name).isSome := lastAnnounced_isSome name
        rw [first] at absent
        exact (Option.not_isSome_iff_eq_none.mp (by rw [absent]; exact Bool.false_ne_true)).symm
    | some peer =>
        have present := stored name
        rw [first] at present
        obtain ⟨latest, last, _, _, _, sameInfo⟩ := current.entries name peer present
        -- a peer is determined by its announcement
        have announced := lastAnnounced_announced last
        rw [same] at present
        obtain ⟨info, _, announcedFirst, rfl⟩ := announced_of_discovered present
        rw [← sameInfo, announcedFirst] at announced
        rw [last, announced]
  · intro steady
    constructor
    · intro name peer present
      rw [stored, steady] at present
      exact ⟨peer, present, rfl, rfl, rfl, rfl⟩
    · intro peer after verified
      have keyed : Keyed BrokerPeer.instanceName manager.map := by
        rw [same]
        exact discovered_keyed atoi infos
      obtain ⟨present, least⟩ := least_of_verified keyed verified
      rw [stored, steady] at present
      refine ⟨peer, present, ?_⟩
      intro name other last
      rw [← steady, ← stored] at last
      rcases least name other last with cheaper | ⟨sameCost, _⟩
      · exact Std.le_of_lt cheaper
      · exact Std.le_of_eq sameCost

/-! ### Runs of the worker -/

def announcement : Action → Option ServiceInfo
  | .brokerAnnounced info => some info
  | _ => none

/-- The announcements heard in a run. -/
def announcements (actions : List Action) : List ServiceInfo :=
  actions.filterMap announcement

/-- Every broker that is locked, or whose lock is queued, is locked at the
address it announced last. -/
structure LocksLatest (atoi : String → Option UInt8) (infos : List ServiceInfo)
    (state : WorkerState) : Prop where
  locks : ∀ peer, .shouldLockBroker peer ∈ state.queue ∨ state.runtime.bestBroker = some peer →
    ∃ latest, lastAnnounced atoi infos peer.instanceName = some latest ∧
      peer.mgmtAddr = latest.mgmtAddr
  url : state.runtime.bestBrokerMgmtUrl = state.runtime.bestBroker.map BrokerPeer.mgmtAddr

/-- Every such broker is stored as it is. -/
structure LocksStored (state : WorkerState) : Prop where
  locks : ∀ peer, .shouldLockBroker peer ∈ state.queue ∨ state.runtime.bestBroker = some peer →
    state.peers.map[peer.instanceName]? = some peer
  url : state.runtime.bestBrokerMgmtUrl = state.runtime.bestBroker.map BrokerPeer.mgmtAddr

variable {process : WorkerProcess} {state next : WorkerState} {action : Action}

/-- A turn leaves the map alone, and locks what the selection returned. -/
theorem waitForBrokerPeer_verified {profile : BuildProfile} {status : WorkerRuntimeStatus}
    {peers after : BrokerPeerManager} {loopNum : UInt8} {turn : WaiterTurn}
    (returned : waitForBrokerPeer profile status peers loopNum = .ok (turn, after)) :
    after.map = peers.map ∧
      ∀ peer, turn = .locks peer → peers.verifyBestInstance = .ok (some peer, after) := by
  unfold waitForBrokerPeer at returned
  cases status with
  | waitingForBroker =>
      obtain ⟨⟨selected, verifiedPeers⟩, verified, returned⟩ := bind_eq_ok.mp returned
      have same := (verifyBestInstance_ok verified).2
      cases selected with
      | none =>
          obtain ⟨count, _, returned⟩ := bind_eq_ok.mp returned
          cases returned
          exact ⟨same, nofun⟩
      | some peer =>
          obtain ⟨count, _, returned⟩ := bind_eq_ok.mp returned
          split at returned
          · cases returned
            refine ⟨same, ?_⟩
            intro other locks
            cases locks
            exact verified
          · cases returned
            exact ⟨same, nofun⟩
  | starting | pendingProvision | started | failed reason =>
      cases returned
      exact ⟨rfl, nofun⟩

theorem step_peers (taken : step process state action = some next) :
    next.peers.map =
      ((announcement action).elim state.peers
        fun info => state.peers.announced process.atoi info).map := by
  cases step_outcome taken with
  | brokerIgnored info browsing panic panics =>
      simp only [announcement, Option.elim_some, BrokerPeerManager.announced, panics]
  | brokerAnnounced info browsing result peers updated =>
      simp only [announcement, Option.elim_some, BrokerPeerManager.announced, updated]
  | waiterLocks index loopNum live peer peers turn => exact (waitForBrokerPeer_verified turn).1
  | waiterWaits index loopNum live count peers turn => exact (waitForBrokerPeer_verified turn).1
  | _ => rfl

theorem run_peers {actions : List Action} (run : workerRun process actions = some state) :
    state.peers.map = (discovered process.atoi (announcements actions)).map := by
  refine @replay_holds _ _ (step process)
    (fun actions state =>
      state.peers.map = (discovered process.atoi (announcements actions)).map)
    WorkerState.initial rfl ?_ actions state run
  intro before current action next _ stored taken
  rw [step_peers taken]
  unfold announcements at stored ⊢
  rw [List.filterMap_append]
  cases heard : announcement action with
  | none => simp [heard, stored]
  | some info =>
      rw [List.filterMap_cons_some heard, List.filterMap_nil, discovered_concat, Option.elim_some,
        announced_map, announced_map, stored]

theorem step_keeps_entry (taken : step process state action = some next) {name : String}
    {peer : BrokerPeer} (present : state.peers.map[name]? = some peer) :
    next.peers.map[name]? = some peer := by
  rw [step_peers taken]
  cases announcement action with
  | none => exact present
  | some info =>
      rw [Option.elim_some, announced_map]
      cases announcedPeer process.atoi info with
      | none => exact present
      | some other => rw [keepFirst_getElem?, present, Option.some_or]

theorem Reply.sendsNoLock {status after : WorkerRuntimeStatus}
    {message : WorkerRuntimeChannelMessage} {sent : List WorkerRuntimeChannelMessage}
    {spawned : Nat} (reply : Reply status message after sent spawned) (peer : BrokerPeer) :
    .shouldLockBroker peer ∉ sent := by
  cases reply <;> simp

theorem EventOutcome.broker {outside : Outside} {wr : WorkerRuntime}
    {message : WorkerRuntimeChannelMessage} {handled : Handled}
    (outcome : EventOutcome process outside wr message handled) :
    (∃ peer, message = .shouldLockBroker peer ∧ handled.runtime.bestBroker = some peer ∧
      handled.runtime.bestBrokerMgmtUrl = some peer.mgmtAddr) ∨
      (handled.runtime.bestBroker = wr.bestBroker ∧
        handled.runtime.bestBrokerMgmtUrl = wr.bestBrokerMgmtUrl) := by
  cases outcome with
  | locked peer identity built => exact Or.inl ⟨peer, rfl, rfl, rfl⟩
  | infoInStarting info hostname starting parsed outcome =>
      right
      cases outcome <;> exact ⟨rfl, rfl⟩
  | status newStatus outcome =>
      right
      cases outcome <;> exact ⟨rfl, rfl⟩
  | failure | infoLater => exact Or.inr ⟨rfl, rfl⟩

theorem LocksStored.enqueue (stored : LocksStored state) {message : WorkerRuntimeChannelMessage}
    (noLock : ∀ peer, message ≠ .shouldLockBroker peer) :
    LocksStored (state.enqueue message) := by
  refine ⟨?_, stored.url⟩
  rintro peer (queued | best)
  · rcases List.mem_append.mp queued with before | last
    · exact stored.locks peer (Or.inl before)
    · exact absurd (List.mem_singleton.mp last).symm (noLock peer)
  · exact stored.locks peer (Or.inr best)

theorem LocksStored.step (stored : LocksStored state)
    (keyed : Keyed BrokerPeer.instanceName state.peers.map)
    (taken : step process state action = some next) : LocksStored next := by
  have keeps : ∀ peer, .shouldLockBroker peer ∈ state.queue ∨
      state.runtime.bestBroker = some peer → next.peers.map[peer.instanceName]? = some peer :=
    fun peer locked => step_keeps_entry taken (stored.locks peer locked)
  cases step_outcome taken with
  | pruntimeAnswered | pruntimeFailed => exact stored.enqueue nofun
  | keepaliveRefused =>
      have idle : LocksStored { state with keepalive := .idle } := ⟨stored.locks, stored.url⟩
      exact idle.enqueue nofun
  | keepaliveSkipped | keepaliveChecked | keepaliveRead | keepaliveAccepted | brokerIgnored
  | brokerAnnounced | forwarderRefused | forwarderPassed | forwarderSent | waiterWaits
  | waiterEnds | waiterPanicked => exact ⟨keeps, stored.url⟩
  | waiterLocks index loopNum live peer peers turn =>
      obtain ⟨_, verified⟩ := waitForBrokerPeer_verified turn
      refine ⟨?_, stored.url⟩
      rintro other (queued | best)
      · rcases List.mem_append.mp queued with before | last
        · exact keeps other (Or.inl before)
        · cases List.mem_singleton.mp last
          exact step_keeps_entry taken (least_of_verified keyed (verified peer rfl)).1
      · exact keeps other (Or.inr best)
  | handled outside message rest handled head returned =>
      have queued : ∀ peer, .shouldLockBroker peer ∈ rest ++ handled.sent →
          .shouldLockBroker peer ∈ state.queue := by
        intro peer member
        rw [head]
        rcases List.mem_append.mp member with before | sent
        · exact List.mem_cons_of_mem message before
        · exact absurd sent ((handleRuntimeEvent_reply returned).sendsNoLock peer)
      rcases (handleRuntimeEvent_outcome returned).broker with
        ⟨peer, rfl, locked, url⟩ | ⟨sameBroker, sameUrl⟩
      · constructor
        · rintro other (member | best)
          · exact keeps other (Or.inl (queued other member))
          · change handled.runtime.bestBroker = some other at best
            rw [locked] at best
            cases best
            exact keeps peer (Or.inl (by rw [head]; exact List.mem_cons_self))
        · change handled.runtime.bestBrokerMgmtUrl = handled.runtime.bestBroker.map _
          rw [locked, url]
          rfl
      · constructor
        · rintro other (member | best)
          · exact keeps other (Or.inl (queued other member))
          · exact keeps other (Or.inr (sameBroker.symm.trans best))
        · change handled.runtime.bestBrokerMgmtUrl = handled.runtime.bestBroker.map _
          rw [sameBroker, sameUrl]
          exact stored.url

theorem run_locksStored {actions : List Action} (run : workerRun process actions = some state) :
    LocksStored state := by
  refine @replay_holds _ _ (ServiceWorker.step process) (fun _ state => LocksStored state)
    WorkerState.initial ⟨?_, rfl⟩ ?_ actions state run
  · rintro peer (queued | best)
    · cases queued
    · cases best
  · intro before current action next reached stored taken
    refine stored.step ?_ taken
    rw [run_peers reached]
    exact discovered_keyed process.atoi (announcements before)

/-- The discovery is current exactly when every name is steady: after any list of
announcements, and in every state of the worker after the announcements heard
until then, whose locks then lead to the addresses announced last. -/
theorem broker_discovery_current_iff (process : WorkerProcess) :
    (∀ infos, DiscoveryCurrent process.atoi infos (discovered process.atoi infos) ↔
      Steady process.atoi infos) ∧
    ∀ actions state, workerRun process actions = some state →
      ((DiscoveryCurrent process.atoi (announcements actions) state.peers ∧
        LocksLatest process.atoi (announcements actions) state) ↔
        Steady process.atoi (announcements actions)) := by
  refine ⟨fun infos => discoveryCurrent_iff rfl, ?_⟩
  intro actions state run
  have same := run_peers run
  rw [discoveryCurrent_iff same]
  refine and_iff_left_of_imp ?_
  intro steady
  have stored := run_locksStored run
  refine ⟨?_, stored.url⟩
  intro peer locked
  have present := stored.locks peer locked
  rw [same, discovered_getElem?, steady] at present
  exact ⟨peer, present, rfl⟩

def otherBroker : ServiceInfo :=
  { properties :=
      [("in", "other"), ("i", "b2"), ("c", "10"), ("mp", "1919"), ("oa", "10.0.0.5:1981")]
    addresses := [⟨10, 0, 0, 5⟩]
    port := 1919 }

/-- With a lock queued the worker hears of another broker, and once more of the
one it has chosen. -/
def exampleRepeating : List Action :=
  exampleLocking ++
    [.brokerAnnounced otherBroker, .brokerAnnounced exampleBroker, .handled exampleOutside]

theorem exampleRepeating_steady :
    Steady exampleProcess.atoi [exampleBroker, otherBroker, exampleBroker] := by
  intro name
  have valid : ∃ broker other, announcedPeer exampleProcess.atoi exampleBroker = some broker ∧
      announcedPeer exampleProcess.atoi otherBroker = some other ∧
      broker.instanceName = "broker" ∧ other.instanceName = "other" :=
    ⟨_, _, rfl, rfl, rfl, rfl⟩
  obtain ⟨broker, other, announced, announcedOther, named, namedOther⟩ := valid
  have peers : [exampleBroker, otherBroker, exampleBroker].filterMap
      (announcedPeer exampleProcess.atoi) = [broker, other, broker] := by
    simp [announced, announcedOther]
  unfold firstAnnounced lastAnnounced
  rw [peers]
  by_cases first : "broker" = name
  · simp [named, first]
  · simp [named, first]

/-- Two brokers, one of them heard of twice, and a lock at the address it gave. -/
theorem exampleRepeating_current :
    ∃ state, workerRun exampleProcess exampleRepeating = some state ∧
      state.runtime.bestBrokerName = some "broker" ∧
      LocksLatest exampleProcess.atoi (announcements exampleRepeating) state := by
  have run : ∃ state, workerRun exampleProcess exampleRepeating = some state ∧
      state.runtime.bestBrokerName = some "broker" := ⟨_, rfl, rfl⟩
  obtain ⟨state, run, locked⟩ := run
  exact ⟨state, run, locked,
    (((broker_discovery_current_iff exampleProcess).2 exampleRepeating state run).mpr
      exampleRepeating_steady).2⟩

/-- The broker after a restart at another address. -/
def movedBroker : ServiceInfo :=
  { exampleBroker with addresses := [⟨10, 0, 0, 9⟩] }

/-- The worker locks the broker and is started; the broker moves and says so, the
keepalive fails, and the worker recovers and locks again. -/
def exampleRelocking : List Action :=
  List.flatten
    [exampleLocking,
      List.replicate 3 (.handled exampleOutside),
      [.brokerAnnounced movedBroker, .keepaliveChecked, .keepaliveRead,
        .keepaliveAnswered (.error "gone"), .handled exampleOutside, .handled exampleOutside,
        .pruntimeAnswered (exampleInfo "0a"), .handled exampleOutside, .handled exampleOutside,
        .pruntimeAnswered (exampleInfo "0a"), .handled exampleOutside, .handled exampleOutside],
      List.replicate 5 (.waiterTurn 0),
      [.handled exampleOutside]]

theorem movedBroker_not_current :
    (∀ info ∈ [exampleBroker, movedBroker], (announcedPeer exampleProcess.atoi info).isSome) ∧
    ¬ DiscoveryCurrent exampleProcess.atoi [exampleBroker, movedBroker]
      (discovered exampleProcess.atoi [exampleBroker, movedBroker]) ∧
    ∃ state latest, workerRun exampleProcess exampleRelocking = some state ∧
      announcements exampleRelocking = [exampleBroker, movedBroker] ∧
      lastAnnounced exampleProcess.atoi [exampleBroker, movedBroker] "broker" = some latest ∧
      latest.mgmtAddr = "http://10.0.0.9:1919" ∧
      state.runtime.bestBrokerName = some "broker" ∧
      state.runtime.bestBrokerMgmtUrl = some "http://10.0.0.1:1919" := by
  refine ⟨?_, ?_, ?_⟩
  · intro info member
    simp only [List.mem_cons, List.not_mem_nil, or_false] at member
    rcases member with rfl | rfl <;> rfl
  · intro current
    obtain ⟨latest, last, _, _, _, sameInfo⟩ := current.entries "broker" _ rfl
    cases last
    cases sameInfo
  · have locked : (workerRun exampleProcess exampleRelocking).map
        (fun state => (state.runtime.bestBrokerName, state.runtime.bestBrokerMgmtUrl)) =
          some (some "broker", some "http://10.0.0.1:1919") := by decide +kernel
    obtain ⟨state, run, same⟩ := Option.map_eq_some_iff.mp locked
    obtain ⟨name, url⟩ := Prod.mk.inj same
    exact ⟨state, _, run, rfl, rfl, rfl, name, url⟩

end ServiceNetwork.ServiceWorker
