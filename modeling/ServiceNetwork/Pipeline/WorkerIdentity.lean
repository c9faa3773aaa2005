/-
The identity in a keepalive, from the worker that sends it to the broker's
table.

A keepalive is what some worker process sends in a reachable state of its own;
the broker sees only its body.  The name and the id in the body are those of
the broker peer that the process had locked, so what the table says of a worker
depends on that peer and not on the process.
-/

import ServiceNetwork.ServiceBroker.QueryForwarder
import ServiceNetwork.ServiceWorker.Provisioning

namespace ServiceNetwork.Pipeline

open Std
open ServiceNetwork.Heartbeat
open ServiceNetwork.Peer
open ServiceNetwork.Replay
open ServiceNetwork.ServiceBroker
open ServiceNetwork.ServiceWorker

/-! ### Keepalives as worker processes send them -/

/-- The body was written when the process locked this peer. -/
def WrittenAtLock (process : WorkerProcess) (actions : List Action) (peer : BrokerPeer)
    (body : String) : Prop :=
  ∃ before outside after current identity, actions = before ++ .handled outside :: after ∧
    workerRun process before = some current ∧
    handledMessage current (.handled outside) = some (.shouldLockBroker peer) ∧
    current.runtime.keepaliveIdentity process outside peer = .ok identity ∧
    body = process.json.writeIdentity identity

theorem WrittenAtLock.concat {process : WorkerProcess} {actions : List Action}
    {peer : BrokerPeer} {body : String} (written : WrittenAtLock process actions peer body)
    (action : Action) : WrittenAtLock process (actions ++ [action]) peer body := by
  obtain ⟨before, outside, after, current, identity, split, reached, head, built, same⟩ := written
  exact ⟨before, outside, after ++ [action], current, identity, by rw [split]; simp, reached,
    head, built, same⟩

/-- A step that leaves a keepalive under way found it so, or read its body. -/
theorem step_sending {process : WorkerProcess} {state next : WorkerState} {action : Action}
    (taken : step process state action = some next) {url body : String}
    (sending : next.keepalive = .sending url body) :
    state.keepalive = .sending url body ∨
      checkCurrentBrokerHealth state.runtime = .ok (url, body) := by
  cases step_outcome taken with
  | keepaliveChecked | keepaliveAccepted | keepaliveRefused => cases sending
  | keepaliveRead checked url body read =>
      cases sending
      exact Or.inr read
  | _ => exact Or.inl sending

/-- Every keepalive body was written at a lock. -/
theorem sending_writtenAtLock {process : WorkerProcess} {actions : List Action}
    {state : WorkerState} (run : workerRun process actions = some state) {url body : String}
    (sending : state.keepalive = .sending url body) :
    ∃ peer, WrittenAtLock process actions peer body := by
  refine @replay_holds WorkerState Action (step process)
    (fun taken current => ∀ url body, current.keepalive = .sending url body →
      ∃ peer, WrittenAtLock process taken peer body)
    WorkerState.initial ?_ ?_ actions state run url body sending
  · intro url body impossible
    cases impossible
  · intro before current action next reached written taken url body sending
    rcases step_sending taken sending with already | read
    · obtain ⟨peer, written⟩ := written url body already
      exact ⟨peer, written.concat action⟩
    · unfold checkCurrentBrokerHealth at read
      obtain ⟨broker, brokerAt, read⟩ := bind_eq_ok.mp read
      obtain ⟨content, contentAt, read⟩ := bind_eq_ok.mp read
      rw [unwrap_eq_ok] at brokerAt contentAt
      cases read
      obtain ⟨_, locking, locked, outside, peer, identity, latest, head, built, _, _, _,
        stored⟩ := (recorded_of_run reached).broker (by rw [brokerAt]; rfl)
      rw [contentAt] at stored
      cases stored
      obtain ⟨⟨after, split⟩, reachedLock, _⟩ := latest.occurred
      have written : WrittenAtLock process before peer (process.json.writeIdentity identity) :=
        ⟨locking, outside, after, locked, identity, split, reachedLock, head, built, rfl⟩
      exact ⟨peer, written.concat action⟩

/-- A keepalive under way.  Each start of a worker process has its own number;
`starts` gives the process of each. -/
structure SentKeepalive (starts : Nat → WorkerProcess) where
  start : Nat
  actions : List Action
  state : WorkerState
  run : workerRun (starts start) actions = some state
  url : String
  body : String
  sending : state.keepalive = .sending url body
  peer : BrokerPeer
  written : WrittenAtLock (starts start) actions peer body
  identity : LocalWorkerIdentity
  decoded : (starts start).json.readIdentity body = some identity

variable {starts : Nat → WorkerProcess} {urlparse : String → Uri}

theorem exists_sentKeepalive (start : Nat) {actions : List Action} {state : WorkerState}
    (run : workerRun (starts start) actions = some state) {url body : String}
    (sending : state.keepalive = .sending url body) :
    ∃ sent : SentKeepalive starts, sent.start = start ∧ sent.state = state ∧ sent.url = url ∧
      sent.body = body := by
  obtain ⟨peer, written⟩ := sending_writtenAtLock run sending
  obtain ⟨before, outside, after, current, identity, split, reached, head, built, same⟩ := written
  refine ⟨⟨start, actions, state, run, url, body, sending, peer, ?_, identity, ?_⟩, rfl, rfl, rfl,
    rfl⟩
  · exact ⟨before, outside, after, current, identity, split, reached, head, built, same⟩
  · rw [same]
    exact (starts start).json.read_write identity

/-- The name and the id in a keepalive are those of the locked peer. -/
theorem SentKeepalive.identity_of_peer (sent : SentKeepalive starts) :
    sent.identity.instanceName = sent.peer.instanceName ∧
      sent.identity.instanceId = sent.peer.id := by
  obtain ⟨before, outside, after, current, identity, split, reached, head, built, same⟩ :=
    sent.written
  have decoded := sent.decoded
  rw [same, SerdeJson.read_write] at decoded
  cases decoded
  obtain ⟨name, id, _⟩ := keepaliveIdentity_ok built
  exact ⟨name, id⟩

/-! ### What the broker makes of them -/

inductive BrokerEvent (starts : Nat → WorkerProcess) where
  | healthCheck
  | keepalive (sent : SentKeepalive starts)

def BrokerEvent.message : BrokerEvent starts → LocalWorkerManagerChannelMessage
  | .healthCheck => .shouldCheckPeerHealth
  | .keepalive sent => .receivedKeepAlive sent.identity

def messagesOf (events : List (BrokerEvent starts)) : List LocalWorkerManagerChannelMessage :=
  events.map BrokerEvent.message

/-- No keepalive for `key` is among the events. -/
def Quiet (key : String) (events : List (BrokerEvent starts)) : Prop :=
  ∀ sent, .keepalive sent ∈ events → sent.identity.publicKey ≠ key

/-- `sent` is the most recent keepalive for `key`. -/
def LastFrom (events : List (BrokerEvent starts)) (key : String) (sent : SentKeepalive starts) :
    Prop :=
  ∃ before after, events = before ++ .keepalive sent :: after ∧
    sent.identity.publicKey = key ∧ Quiet key after

/-- `opening` opened the current lease of `key`. -/
def OpenedBy (urlparse : String → Uri) (events : List (BrokerEvent starts)) (key : String)
    (opening : SentKeepalive starts) : Prop :=
  .keepalive opening ∈ events ∧
    ∃ lease, leaseFor urlparse (messagesOf events) key = some lease ∧
      lease.seat.identity = opening.identity

/-- `second` is the next keepalive for its key after `first`. -/
def Consecutive (events : List (BrokerEvent starts)) (before between : List (BrokerEvent starts))
    (first second : SentKeepalive starts) : Prop :=
  (∃ after, events = before ++ .keepalive first :: between ++ .keepalive second :: after) ∧
    first.identity.publicKey = second.identity.publicKey ∧
    Quiet second.identity.publicKey between

/-- The keepalive takes the branch that notices a changed instance id. -/
def NoticesChangedId (profile : BuildProfile) (urlparse : String → Uri)
    (manager : LocalWorkerManager) (lw : LocalWorkerIdentity) : Prop :=
  ∃ next notices, handleMessage profile urlparse manager (.receivedKeepAlive lw) =
      .ok (next, notices) ∧ .changedInstanceId lw.instanceName ∈ notices

theorem changedInstanceId_mem_iff (klw : KnownLocalWorker) (lw : LocalWorkerIdentity) :
    .changedInstanceId lw.instanceName ∈ (updateLocalWorker klw lw).2 ↔
      lw.instanceId ≠ klw.instanceId := by
  unfold updateLocalWorker
  by_cases sameId : lw.instanceId = klw.instanceId <;>
    by_cases sameAddress : lw.addressString = klw.addressString <;>
      by_cases sameKey : lw.publicKey = klw.publicKey <;>
        cases klw.status <;> simp [sameId, sameAddress, sameKey]

/-- The branch is only reached by way of a live entry, and taken when the id
differs from the stored one. -/
theorem noticesChangedId_iff (profile : BuildProfile) {manager : LocalWorkerManager}
    {lw : LocalWorkerIdentity} :
    NoticesChangedId profile urlparse manager lw ↔
      ∃ klw, manager.lwMap[lw.publicKey]? = some klw ∧ klw.status ≠ .dead ∧
        lw.instanceId ≠ klw.instanceId := by
  unfold NoticesChangedId
  by_cases live : ∃ klw, manager.lwMap[lw.publicKey]? = some klw ∧ klw.status ≠ .dead
  · obtain ⟨klw, found, alive⟩ := live
    rw [handleMessage_updates profile found alive]
    constructor
    · rintro ⟨next, notices, handled, noticed⟩
      cases handled
      exact ⟨klw, found, alive, (changedInstanceId_mem_iff klw lw).mp noticed⟩
    · rintro ⟨other, foundOther, _, different⟩
      rw [found] at foundOther
      cases foundOther
      exact ⟨_, _, rfl, (changedInstanceId_mem_iff klw lw).mpr different⟩
  · have notLive : ∀ klw, manager.lwMap[lw.publicKey]? = some klw → klw.status = .dead := by
      intro klw found
      by_contra alive
      exact live ⟨klw, found, alive⟩
    rw [handleMessage_creates profile notLive]
    constructor
    · rintro ⟨next, notices, created, noticed⟩
      cases seated : seatFor urlparse lw with
      | none =>
          have unparsed : ¬ Parses urlparse lw.addressString := by
            rw [← seatFor_isSome_iff, seated]
            exact Bool.false_ne_true
          rw [createLocalWorker_panics unparsed] at created
          cases created
      | some seat =>
          rw [createLocalWorker_fresh seated] at created
          cases created
          simp at noticed
    · rintro ⟨klw, found, alive, _⟩
      exact absurd (notLive klw found) alive

theorem Quiet.silent {key : String} {events : List (BrokerEvent starts)}
    (quiet : Quiet key events) : Silent key (messagesOf events) := by
  intro lw member
  obtain ⟨event, inEvents, same⟩ := List.mem_map.mp member
  cases event with
  | healthCheck => cases same
  | keepalive sent =>
      cases same
      exact quiet sent inEvents

theorem leaseFor_seat_mem {messages : List LocalWorkerManagerChannelMessage} {key : String}
    {lease : WorkerLease urlparse} (held : leaseFor urlparse messages key = some lease) :
    .receivedKeepAlive lease.seat.identity ∈ messages ∧ lease.seat.identity.publicKey = key := by
  induction messages using List.reverseRecOn generalizing lease with
  | nil => cases held
  | append_singleton messages message ih =>
      rw [leaseFor_concat] at held
      have kept {earlier : WorkerLease urlparse} (before : leaseFor urlparse messages key =
          some earlier) (same : earlier.seat = lease.seat) :
          .receivedKeepAlive lease.seat.identity ∈ messages ++ [message] ∧
            lease.seat.identity.publicKey = key := by
        obtain ⟨member, mine⟩ := ih before
        rw [← same]
        exact ⟨List.mem_append_left _ member, mine⟩
      cases message with
      | shouldCheckPeerHealth =>
          obtain ⟨earlier, before, rfl⟩ := Option.map_eq_some_iff.mp held
          exact kept before rfl
      | receivedKeepAlive lw =>
          by_cases mine : lw.publicKey = key
          · simp only [advance, signalFor, if_pos mine, observe] at held
            rcases beatOn_seat (seatFor urlparse) leaseExpiry held with
              ⟨earlier, before, same⟩ | given
            · exact kept before same
            · rw [seatFor_identity given]
              exact ⟨List.mem_append_right _ List.mem_cons_self, mine⟩
          · simp only [advance, signalFor, if_neg mine] at held
            exact kept held rfl

theorem leaseFor_latest {profile : BuildProfile}
    {before after : List LocalWorkerManagerChannelMessage} {lw : LocalWorkerIdentity}
    {manager : LocalWorkerManager}
    (run : localWorkerManager profile urlparse (before ++ .receivedKeepAlive lw :: after) =
      some manager) (silent : Silent lw.publicKey after) :
    ∃ lease, leaseFor urlparse (before ++ .receivedKeepAlive lw :: after) lw.publicKey =
      some lease ∧ lease.latest = lw := by
  obtain ⟨lease, held, latest, _⟩ := leaseFor_last_keepalive rfl silent (accepted_of_run run)
  exact ⟨lease, held, latest⟩

/-! ### Whose identity the table carries -/

/-- The entry of a key carries the name and the id of the process whose
keepalive came last, and the branch for a changed id is taken exactly when two
consecutive keepalives come from different processes. -/
structure TracksProcesses (starts : Nat → WorkerProcess) (profile : BuildProfile)
    (urlparse : String → Uri) (events : List (BrokerEvent starts))
    (manager : LocalWorkerManager) : Prop where
  entries : ∀ key klw (last : SentKeepalive starts), manager.lwMap[key]? = some klw →
    LastFrom events key last →
    klw.instanceName = (starts last.start).config.common.instanceName ∧
      klw.instanceId = (starts last.start).config.instanceId
  restarts : ∀ before between first second state, Consecutive events before between first second →
    localWorkerManager profile urlparse (messagesOf (before ++ .keepalive first :: between)) =
      some state →
    (NoticesChangedId profile urlparse state second.identity ↔ first.start ≠ second.start)

/-- The locked peers stand for the processes: the peer of an opening keepalive
bears the process's name, that of the last one its id, and the peers of two
consecutive keepalives for a live entry differ in their ids as the processes
do. -/
structure PeersNameProcesses (starts : Nat → WorkerProcess) (profile : BuildProfile)
    (urlparse : String → Uri) (events : List (BrokerEvent starts)) : Prop where
  entries : ∀ key (opening last : SentKeepalive starts), OpenedBy urlparse events key opening →
    LastFrom events key last →
    opening.peer.instanceName = (starts last.start).config.common.instanceName ∧
      last.peer.id = (starts last.start).config.instanceId
  restarts : ∀ before between first second state, Consecutive events before between first second →
    localWorkerManager profile urlparse (messagesOf (before ++ .keepalive first :: between)) =
      some state →
    ((∃ klw, state.lwMap[second.identity.publicKey]? = some klw ∧ klw.status ≠ .dead) ∧
      first.peer.id ≠ second.peer.id ↔ first.start ≠ second.start)

theorem messagesOf_split (before : List (BrokerEvent starts)) (sent : SentKeepalive starts)
    (after : List (BrokerEvent starts)) :
    messagesOf (before ++ .keepalive sent :: after) =
      messagesOf before ++ .receivedKeepAlive sent.identity :: messagesOf after := by
  unfold messagesOf
  rw [List.map_append]
  rfl

theorem OpenedBy.sameName {events : List (BrokerEvent starts)} {key : String}
    {opening other : SentKeepalive starts} (opened : OpenedBy urlparse events key opening)
    (openedOther : OpenedBy urlparse events key other) :
    opening.peer.instanceName = other.peer.instanceName := by
  obtain ⟨_, lease, held, seat⟩ := opened
  obtain ⟨_, leaseOther, heldOther, seatOther⟩ := openedOther
  rw [held] at heldOther
  cases heldOther
  rw [← opening.identity_of_peer.1, ← other.identity_of_peer.1, ← seat, ← seatOther]

/-- The entry of a key has the name of the peer that opened its lease and the
id of the peer of its last keepalive. -/
theorem entry_of_peers {profile : BuildProfile} {events : List (BrokerEvent starts)}
    {manager : LocalWorkerManager}
    (run : localWorkerManager profile urlparse (messagesOf events) = some manager)
    {key : String} {last : SentKeepalive starts} (isLast : LastFrom events key last) :
    ∃ opening klw, OpenedBy urlparse events key opening ∧ manager.lwMap[key]? = some klw ∧
      klw.instanceName = opening.peer.instanceName ∧ klw.instanceId = last.peer.id := by
  obtain ⟨before, after, rfl, rfl, quiet⟩ := isLast
  rw [messagesOf_split] at run
  obtain ⟨lease, held, latest⟩ := leaseFor_latest run quiet.silent
  obtain ⟨member, _⟩ := leaseFor_seat_mem held
  have tracks := localWorkerManager_tracks run
  rw [← messagesOf_split] at held member
  obtain ⟨event, inEvents, same⟩ := List.mem_map.mp member
  cases event with
  | healthCheck => cases same
  | keepalive opening =>
      have openingIdentity : opening.identity = lease.seat.identity :=
        LocalWorkerManagerChannelMessage.receivedKeepAlive.inj same
      refine ⟨opening, entry lease, ⟨inEvents, lease, held, openingIdentity.symm⟩, ?_, ?_, ?_⟩
      · rw [tracks.entries, ← messagesOf_split, held]
        rfl
      · change lease.seat.identity.instanceName = _
        rw [← openingIdentity]
        exact opening.identity_of_peer.1
      · change lease.latest.instanceId = _
        rw [latest]
        exact last.identity_of_peer.2

/-- Between two consecutive keepalives the branch is taken when the entry is
still live and the locked peers have different ids. -/
theorem consecutive_noticed_iff {profile : BuildProfile}
    {before between : List (BrokerEvent starts)} {first second : SentKeepalive starts}
    {state : LocalWorkerManager} (sameKey : first.identity.publicKey = second.identity.publicKey)
    (quiet : Quiet second.identity.publicKey between)
    (reached : localWorkerManager profile urlparse
      (messagesOf (before ++ .keepalive first :: between)) = some state) :
    NoticesChangedId profile urlparse state second.identity ↔
      (∃ klw, state.lwMap[second.identity.publicKey]? = some klw ∧ klw.status ≠ .dead) ∧
        first.peer.id ≠ second.peer.id := by
  obtain ⟨_, stored, _, found, _, id⟩ :=
    entry_of_peers reached ⟨before, between, rfl, sameKey, quiet⟩
  rw [noticesChangedId_iff, second.identity_of_peer.2, ← id]
  constructor
  · rintro ⟨klw, foundHere, alive, different⟩
    rw [found] at foundHere
    cases foundHere
    exact ⟨⟨stored, found, alive⟩, different.symm⟩
  · rintro ⟨⟨klw, foundHere, alive⟩, different⟩
    rw [found] at foundHere
    cases foundHere
    exact ⟨stored, found, alive, different.symm⟩

/-- In every run of the broker, the table tracks the worker processes exactly
when the peers they locked name them. -/
theorem tracksProcesses_iff {profile : BuildProfile} {events : List (BrokerEvent starts)}
    {manager : LocalWorkerManager}
    (run : localWorkerManager profile urlparse (messagesOf events) = some manager) :
    TracksProcesses starts profile urlparse events manager ↔
      PeersNameProcesses starts profile urlparse events := by
  have restarts : ∀ before between (first second : SentKeepalive starts) state,
      Consecutive events before between first second →
      localWorkerManager profile urlparse (messagesOf (before ++ .keepalive first :: between)) =
        some state →
      (NoticesChangedId profile urlparse state second.identity ↔
        (∃ klw, state.lwMap[second.identity.publicKey]? = some klw ∧ klw.status ≠ .dead) ∧
          first.peer.id ≠ second.peer.id) := by
    rintro before between first second state ⟨_, sameKey, quiet⟩ reached
    exact consecutive_noticed_iff sameKey quiet reached
  constructor
  · intro tracks
    refine ⟨?_, ?_⟩
    · intro key opening last opened isLast
      obtain ⟨other, stored, openedOther, found, name, id⟩ := entry_of_peers run isLast
      obtain ⟨sameName, sameId⟩ := tracks.entries key stored last found isLast
      rw [opened.sameName openedOther, ← name, ← id]
      exact ⟨sameName, sameId⟩
    · intro before between first second state consecutive reached
      rw [← restarts before between first second state consecutive reached]
      exact tracks.restarts before between first second state consecutive reached
  · intro peers
    refine ⟨?_, ?_⟩
    · intro key klw last found isLast
      obtain ⟨opening, stored, opened, foundHere, name, id⟩ := entry_of_peers run isLast
      rw [found] at foundHere
      cases foundHere
      obtain ⟨sameName, sameId⟩ := peers.entries key opening last opened isLast
      exact ⟨name.trans sameName, id.trans sameId⟩
    · intro before between first second state consecutive reached
      rw [restarts before between first second state consecutive reached]
      exact peers.restarts before between first second state consecutive reached

/-! ### One worker on a broker named "broker" with the id "b1" -/

/-- The concrete process under another name and id. -/
def exampleProcessAs (instanceName instanceId : String) : WorkerProcess :=
  { exampleProcess with
    config :=
      { role := .prLocalWorker (some exampleLocalWorker)
        instanceId := instanceId
        common := { instanceName := instanceName, mgmtPort := 1919 } }
    built := ⟨instanceId, .ok { instanceName := instanceName, mgmtPort := 1919 }, .error "", rfl⟩ }

/-- The broker of the examples after a restart: the same name, a new id. -/
def restartedBroker : ServiceInfo :=
  { exampleBroker with
    properties :=
      [("in", "broker"), ("i", "b2"), ("c", "10"), ("mp", "1919"), ("oa", "10.0.0.1:1981")] }

/-- From the start to a keepalive under way, with one broker heard of. -/
def exampleSending (announced : ServiceInfo) : List Action :=
  [.pruntimeAnswered (exampleInfo "0a"), .handled exampleOutside, .handled exampleOutside,
      .brokerAnnounced announced] ++
    List.replicate 5 (.waiterTurn 0) ++ List.replicate 3 (.handled exampleOutside) ++
    [.keepaliveChecked, .keepaliveRead]

def exampleIdentity (instanceId : String) : LocalWorkerIdentity :=
  { instanceName := "broker"
    instanceId := instanceId
    addressString := "http://10.0.0.2:1982"
    publicPort := 8001
    publicKey := "0a" }

theorem exists_sent {start : Nat} {actions : List Action} {identity : LocalWorkerIdentity}
    (under : ∃ state url body, workerRun (starts start) actions = some state ∧
      state.keepalive = .sending url body ∧ body = (starts start).json.writeIdentity identity) :
    ∃ sent : SentKeepalive starts, sent.start = start ∧ sent.identity = identity := by
  obtain ⟨state, url, body, run, sending, written⟩ := under
  obtain ⟨sent, rfl, _, _, sameBody⟩ := exists_sentKeepalive start run sending
  refine ⟨sent, rfl, ?_⟩
  have decoded := sent.decoded
  rw [sameBody, written, SerdeJson.read_write] at decoded
  exact (Option.some.inj decoded).symm

/-- Two starts of a worker that bears the broker's name, each behind the start of
the broker that bears its id. -/
def namesakeStarts (start : Nat) : WorkerProcess :=
  exampleProcessAs "broker" (if start = 0 then "b1" else "b2")

/-- A worker that bears the name and the ids of its brokers is tracked over a
restart. -/
theorem namesake_worker_tracked :
    ∃ (first second : SentKeepalive namesakeStarts) (manager : LocalWorkerManager),
      first.start = 0 ∧ second.start = 1 ∧
      localWorkerManager .release exampleUrlparse
        (messagesOf [.keepalive first, .keepalive second]) = some manager ∧
      TracksProcesses namesakeStarts .release exampleUrlparse
        [.keepalive first, .keepalive second] manager := by
  obtain ⟨first, firstStart, firstIdentity⟩ :=
    @exists_sent namesakeStarts 0 (exampleSending exampleBroker) (exampleIdentity "b1")
      ⟨_, _, _, rfl, rfl, rfl⟩
  obtain ⟨second, secondStart, secondIdentity⟩ :=
    @exists_sent namesakeStarts 1 (exampleSending restartedBroker) (exampleIdentity "b2")
      ⟨_, _, _, rfl, rfl, rfl⟩
  have messages : messagesOf [.keepalive first, .keepalive second] =
      [.receivedKeepAlive (exampleIdentity "b1"), .receivedKeepAlive (exampleIdentity "b2")] := by
    rw [← firstIdentity, ← secondIdentity]
    rfl
  have run : ∃ manager, localWorkerManager .release exampleUrlparse
      (messagesOf [.keepalive first, .keepalive second]) = some manager := by
    rw [messages]
    exact ⟨_, rfl⟩
  obtain ⟨manager, run⟩ := run
  refine ⟨first, second, manager, firstStart, secondStart, run,
    (tracksProcesses_iff run).mpr ⟨?_, ?_⟩⟩
  · intro key opening last opened isLast
    have named : opening.peer.instanceName = "broker" := by
      rw [← opening.identity_of_peer.1]
      have either : opening = first ∨ opening = second := by simpa using opened.1
      rcases either with rfl | rfl
      · rw [firstIdentity]
        rfl
      · rw [secondIdentity]
        rfl
    have isSecond : last = second := by
      obtain ⟨before, after, split, mine, quiet⟩ := isLast
      match before, split with
      | [], split =>
          simp only [List.nil_append, List.cons.injEq, BrokerEvent.keepalive.injEq] at split
          obtain ⟨rfl, rfl⟩ := split
          refine absurd ?_ (quiet second (by simp))
          rw [← mine, firstIdentity, secondIdentity]
          rfl
      | [_], split =>
          simp only [List.cons_append, List.nil_append, List.cons.injEq,
            BrokerEvent.keepalive.injEq] at split
          exact split.2.1.symm
      | _ :: _ :: _, split => simp at split
    rw [named, isSecond, ← second.identity_of_peer.2, secondIdentity, secondStart]
    exact ⟨rfl, rfl⟩
  · intro before between one other state consecutive reached
    obtain ⟨⟨after, split⟩, _⟩ := consecutive
    match before, between, split with
    | [], [], split =>
        simp only [List.nil_append, List.cons_append, List.cons.injEq,
          BrokerEvent.keepalive.injEq] at split
        obtain ⟨rfl, rfl, _⟩ := split
        have message : messagesOf [.keepalive first] =
            [.receivedKeepAlive (exampleIdentity "b1")] := by
          rw [← firstIdentity]
          rfl
        rw [← first.identity_of_peer.2, ← second.identity_of_peer.2, firstIdentity,
          secondIdentity, firstStart, secondStart]
        rw [List.nil_append, message] at reached
        cases reached
        exact iff_of_true ⟨⟨_, rfl, by decide⟩, by decide⟩ (by decide)
    | [], _ :: _, split => simp at split
    | _ :: _, between, split =>
        have lengths := congrArg List.length split
        simp only [List.length_append, List.length_cons, List.length_nil] at lengths
        omega

theorem worker_entry_carries_broker_identity :
    ∃ (sent : SentKeepalive fun _ => exampleProcess) (manager : LocalWorkerManager)
      (klw : KnownLocalWorker),
      localWorkerManager .release exampleUrlparse (messagesOf [.keepalive sent]) = some manager ∧
      exampleProcess.config.common.instanceName = "worker" ∧
      exampleProcess.config.instanceId = "w1" ∧
      manager.lwMap["0a"]? = some klw ∧ klw.instanceName = "broker" ∧ klw.instanceId = "b1" ∧
      ¬ TracksProcesses (fun _ => exampleProcess) .release exampleUrlparse [.keepalive sent]
        manager := by
  obtain ⟨sent, _, identity⟩ :=
    @exists_sent (fun _ => exampleProcess) 0 (exampleSending exampleBroker) (exampleIdentity "b1")
      ⟨_, _, _, rfl, rfl, rfl⟩
  have message : messagesOf [.keepalive sent] = [.receivedKeepAlive (exampleIdentity "b1")] := by
    rw [← identity]
    rfl
  have received : ∃ manager klw, localWorkerManager .release exampleUrlparse
      (messagesOf [.keepalive sent]) = some manager ∧ manager.lwMap["0a"]? = some klw ∧
      klw.instanceName = "broker" ∧ klw.instanceId = "b1" := by
    rw [message]
    exact ⟨_, _, rfl, rfl, rfl, rfl⟩
  obtain ⟨manager, klw, run, found, name, id⟩ := received
  have isLast : LastFrom [.keepalive sent] "0a" sent := by
    refine ⟨[], [], rfl, ?_, ?_⟩
    · rw [identity]
      rfl
    · intro other impossible
      cases impossible
  refine ⟨sent, manager, klw, run, rfl, rfl, found, name, id, ?_⟩
  intro tracks
  have own : klw.instanceName = "worker" := (tracks.entries "0a" klw sent found isLast).1
  rw [name] at own
  exact absurd own (by decide)

end ServiceNetwork.Pipeline
