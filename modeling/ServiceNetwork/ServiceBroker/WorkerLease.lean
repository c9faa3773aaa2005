/-
The worker table as one lease per public key.

The abstract side keeps, for each key, the heartbeat lease of the keepalives
with that key; it knows nothing of maps, key caches or counters.  `Tracks` ties
it to the manager's state: every stored entry is the projection of its lease,
and every running lease is in the cached key list.  Each message that does not
panic preserves it.
-/

import ServiceNetwork.Library.Heartbeat
import ServiceNetwork.ServiceBroker.LocalWorker

namespace ServiceNetwork.ServiceBroker

open Std
open ServiceNetwork.Heartbeat
open ServiceNetwork.Replay
open ServiceNetwork.Sweep

/-- An opening keepalive with the host and port its address yields. -/
structure ParsedKeepalive (urlparse : String → Uri) where
  identity : LocalWorkerIdentity
  hostname : String
  port : UInt16
  parsedHost : (urlparse identity.addressString).hostname = some hostname
  parsedPort : (urlparse identity.addressString).port = some port

abbrev WorkerLease (urlparse : String → Uri) :=
  Lease LocalWorkerIdentity (ParsedKeepalive urlparse)

variable {urlparse : String → Uri}

def seatFor (urlparse : String → Uri) (lw : LocalWorkerIdentity) :
    Option (ParsedKeepalive urlparse) :=
  match host : (urlparse lw.addressString).hostname with
  | none => none
  | some hostname =>
      match port : (urlparse lw.addressString).port with
      | none => none
      | some forwarderPort =>
          some
            { identity := lw
              hostname := hostname
              port := forwarderPort
              parsedHost := host
              parsedPort := port }

theorem seatFor_isSome_iff (lw : LocalWorkerIdentity) :
    (seatFor urlparse lw).isSome ↔ Parses urlparse lw.addressString := by
  unfold seatFor Parses
  split
  · rename_i hostAt
    simp [hostAt]
  · rename_i hostname hostAt
    split
    · rename_i portAt
      simp [portAt]
    · rename_i port portAt
      simp [hostAt, portAt]

theorem seatFor_identity {lw : LocalWorkerIdentity} {seat : ParsedKeepalive urlparse}
    (admitted : seatFor urlparse lw = some seat) : seat.identity = lw := by
  unfold seatFor at admitted
  split at admitted
  · cases admitted
  · split at admitted
    · cases admitted
    · cases admitted
      rfl

/-- The number of missed checks after which an entry is dead. -/
def leaseExpiry : Nat := 12

def phase (misses : Nat) : KnownLocalWorkerStatus :=
  if misses ≤ 4 then .active else if misses ≤ 11 then .lost else .dead

theorem phase_active_iff (misses : Nat) : phase misses = .active ↔ misses ≤ 4 := by
  unfold phase
  by_cases first : misses ≤ 4
  · simp [first]
  · by_cases second : misses ≤ 11 <;> simp [first, second]

theorem phase_lost_iff (misses : Nat) : phase misses = .lost ↔ 5 ≤ misses ∧ misses ≤ 11 := by
  unfold phase
  by_cases first : misses ≤ 4
  · simp [first]
    omega
  · by_cases second : misses ≤ 11
    · simp [first, second]
      omega
    · simp [first, second]

theorem phase_dead_iff (misses : Nat) : phase misses = .dead ↔ leaseExpiry ≤ misses := by
  unfold phase leaseExpiry
  by_cases first : misses ≤ 4
  · simp [first]
    omega
  · by_cases second : misses ≤ 11
    · simp [first, second]
      omega
    · simp [first, second]
      omega

/-- The stored entry a lease stands for. -/
def entry (lease : WorkerLease urlparse) : KnownLocalWorker :=
  { status := phase lease.misses
    hostname := lease.seat.hostname
    forwarderPort := lease.seat.port
    addressString := lease.seat.identity.addressString
    publicPort := lease.seat.identity.publicPort
    publicKey := lease.seat.identity.publicKey
    instanceName := lease.seat.identity.instanceName
    instanceId := lease.latest.instanceId
    lostCount := UInt8.ofNat (min lease.misses leaseExpiry)
    lostMark := decide (0 < lease.misses) }

theorem lostCount_toNat (lease : WorkerLease urlparse) :
    (entry lease).lostCount.toNat = min lease.misses leaseExpiry := by
  change (UInt8.ofNat (min lease.misses leaseExpiry)).toNat = _
  rw [UInt8.toNat_ofNat']
  apply Nat.mod_eq_of_lt
  have bounded : min lease.misses leaseExpiry ≤ 12 := Nat.min_le_right _ _
  omega

theorem isLive_entry (lease : WorkerLease urlparse) :
    isLive (entry lease) = true ↔ lease.misses < leaseExpiry := by
  have dead := phase_dead_iff lease.misses
  have held : (entry lease).status = phase lease.misses := rfl
  unfold isLive
  rw [held]
  cases status : phase lease.misses with
  | dead =>
      rw [status] at dead
      simpa using dead
  | active | lost =>
      rw [status] at dead
      simpa using dead

/-! ### One health check -/

private theorem lostCount_above (lease : WorkerLease urlparse) (bound : UInt8) :
    (entry lease).lostCount > bound ↔ bound.toNat < min lease.misses leaseExpiry := by
  rw [← lostCount_toNat lease]
  exact UInt8.lt_iff_toNat_lt

private theorem lostCount_next (lease : WorkerLease urlparse)
    (running : lease.misses < leaseExpiry) :
    (entry lease).lostCount + 1 = (entry lease.miss).lostCount := by
  apply UInt8.toNat_inj.mp
  rw [UInt8.toNat_add, lostCount_toNat, lostCount_toNat]
  change (min lease.misses leaseExpiry + 1) % 2 ^ 8 = min (lease.misses + 1) leaseExpiry
  unfold leaseExpiry at *
  omega

private theorem lostCount_increments (profile : BuildProfile) (lease : WorkerLease urlparse)
    (running : lease.misses < leaseExpiry) :
    u8AddOne profile (entry lease).lostCount = .ok (entry lease.miss).lostCount := by
  rw [← lostCount_next lease running]
  apply u8AddOne_of_lt
  rw [lostCount_toNat]
  unfold leaseExpiry
  omega

private theorem status_after_active (lease : WorkerLease urlparse) (within : lease.misses ≤ 4) :
    (if (entry lease).lostMark ∧ (entry lease).lostCount > brokerPeerLostCount
      then KnownLocalWorkerStatus.lost else .active) = phase (lease.misses + 1) := by
  by_cases last : lease.misses = 4
  · have marked : (entry lease).lostMark = true := by simp [entry, last]
    have above : (entry lease).lostCount > brokerPeerLostCount := by
      rw [lostCount_above, last]
      decide
    rw [if_pos ⟨marked, above⟩, last]
    rfl
  · have below : ¬ (entry lease).lostCount > brokerPeerLostCount := by
      rw [lostCount_above]
      change ¬ 3 < min lease.misses leaseExpiry
      omega
    rw [if_neg fun both => below both.2]
    exact ((phase_active_iff _).mpr (by omega)).symm

private theorem status_after_lost (lease : WorkerLease urlparse)
    (within : 5 ≤ lease.misses ∧ lease.misses ≤ 11) :
    (if (entry lease).lostCount > brokerPeerDeadCount
      then KnownLocalWorkerStatus.dead else .lost) = phase (lease.misses + 1) := by
  by_cases last : lease.misses = 11
  · have above : (entry lease).lostCount > brokerPeerDeadCount := by
      rw [lostCount_above, last]
      decide
    rw [if_pos above, last]
    rfl
  · have below : ¬ (entry lease).lostCount > brokerPeerDeadCount := by
      rw [lostCount_above]
      change ¬ 10 < min lease.misses leaseExpiry
      omega
    rw [if_neg below]
    exact ((phase_lost_iff _).mpr (by omega)).symm

private theorem entry_miss_of_expired (lease : WorkerLease urlparse)
    (expired : leaseExpiry ≤ lease.misses) : entry lease.miss = entry lease := by
  have dead : phase lease.misses = .dead := (phase_dead_iff _).mpr expired
  have nextDead : phase (lease.misses + 1) = .dead :=
    (phase_dead_iff _).mpr (Nat.le_succ_of_le expired)
  have count : min (lease.misses + 1) leaseExpiry = min lease.misses leaseExpiry := by
    omega
  have positive : 0 < lease.misses := Nat.lt_of_lt_of_le (by decide) expired
  unfold entry Lease.miss
  simp only [nextDead, dead, count, positive, Nat.zero_lt_succ, decide_true]

/-- The loop body counts one more missed check, in either build profile: the
counter stops below overflow because a dead entry is left alone. -/
theorem checkPeer_entry (profile : BuildProfile) (lease : WorkerLease urlparse) :
    checkPeer profile (entry lease) = .ok (entry lease.miss) := by
  have marked : (entry lease.miss).lostMark = true := by
    change decide (0 < lease.misses + 1) = true
    simp
  cases status : phase lease.misses with
  | active =>
      have within := (phase_active_iff lease.misses).mp status
      have running : lease.misses < leaseExpiry := by
        unfold leaseExpiry
        omega
      have here : (entry lease).status = .active := status
      unfold checkPeer
      rw [here]
      simp only
      rw [status_after_active lease within, lostCount_increments profile lease running,
        ← marked]
      rfl
  | lost =>
      have within := (phase_lost_iff lease.misses).mp status
      have running : lease.misses < leaseExpiry := by
        unfold leaseExpiry
        omega
      have here : (entry lease).status = .lost := status
      unfold checkPeer
      rw [here]
      simp only
      rw [status_after_lost lease within, lostCount_increments profile lease running,
        ← marked]
      rfl
  | dead =>
      have expired := (phase_dead_iff lease.misses).mp status
      have here : (entry lease).status = .dead := status
      unfold checkPeer
      rw [here, entry_miss_of_expired lease expired]
      rfl

/-! ### One keepalive -/

/-- Refreshing the entry of a running lease renews the lease: only the instance
id and the liveness fields are written. -/
theorem updateLocalWorker_entry (lease : WorkerLease urlparse) (lw : LocalWorkerIdentity)
    (running : lease.misses < leaseExpiry) :
    (updateLocalWorker (entry lease) lw).1 = entry (lease.renew lw) := by
  cases status : phase lease.misses with
  | active =>
      simp only [updateLocalWorker, entry, status, Lease.renew]
      rfl
  | lost =>
      simp only [updateLocalWorker, entry, status, Lease.renew]
      rfl
  | dead =>
      have expired := (phase_dead_iff lease.misses).mp status
      exact absurd running (Nat.not_lt.mpr expired)

/-- A fresh lease projects to the entry that `createLocalWorker` builds. -/
theorem createLocalWorker_fresh {lwMap : LocalWorkerMap} {lw : LocalWorkerIdentity}
    {seat : ParsedKeepalive urlparse} (admitted : seatFor urlparse lw = some seat) :
    createLocalWorker urlparse lwMap lw =
      .ok
        ({ lwMap := lwMap.insert lw.publicKey (entry (Lease.fresh seat lw))
           lwVecKeys := keysWhere isLive
             (lwMap.insert lw.publicKey (entry (Lease.fresh seat lw))) },
          [.helloNewWorker lw.instanceName lw.publicKey]) := by
  have identity := seatFor_identity admitted
  rw [createLocalWorker_ok (identity ▸ seat.parsedHost) (identity ▸ seat.parsedPort)]
  subst identity
  rfl

/-! ### The table tracks its leases -/

/-- The message as the lease of one key sees it. -/
def signalFor (key : String) :
    LocalWorkerManagerChannelMessage → Option (Signal LocalWorkerIdentity)
  | .shouldCheckPeerHealth => some .check
  | .receivedKeepAlive lw => if lw.publicKey = key then some (.beat lw) else none

def signalsFor (key : String) (messages : List LocalWorkerManagerChannelMessage) :
    List (Signal LocalWorkerIdentity) :=
  messages.filterMap (signalFor key)

def leaseFor (urlparse : String → Uri) (messages : List LocalWorkerManagerChannelMessage)
    (key : String) : Option (WorkerLease urlparse) :=
  observeAll (seatFor urlparse) leaseExpiry (signalsFor key messages)

def advance (leases : String → Option (WorkerLease urlparse))
    (message : LocalWorkerManagerChannelMessage) (key : String) : Option (WorkerLease urlparse) :=
  match signalFor key message with
  | none => leases key
  | some signal => observe (seatFor urlparse) leaseExpiry (leases key) signal

theorem leaseFor_concat (messages : List LocalWorkerManagerChannelMessage)
    (message : LocalWorkerManagerChannelMessage) :
    leaseFor urlparse (messages ++ [message]) = advance (leaseFor urlparse messages) message := by
  funext key
  unfold leaseFor advance signalsFor
  rw [List.filterMap_append]
  cases signal : signalFor key message with
  | none => simp [signal]
  | some observed =>
      simp only [List.filterMap_cons, List.filterMap_nil, signal]
      exact observeAll_concat _ _ _ _

structure Tracks (manager : LocalWorkerManager)
    (leases : String → Option (WorkerLease urlparse)) : Prop where
  entries : ∀ key, manager.lwMap[key]? = (leases key).map entry
  distinct : manager.lwVecKeys.Nodup
  cached : ∀ key lease, leases key = some lease → lease.misses < leaseExpiry →
    key ∈ manager.lwVecKeys

theorem tracks_initial :
    Tracks LocalWorkerManager.initial (fun _ => (none : Option (WorkerLease urlparse))) where
  entries := fun key => by simp [LocalWorkerManager.initial]
  distinct := List.nodup_nil
  cached := fun key lease impossible => by cases impossible

/-- A health check rewrites every cached entry it finds; the entries it does
not find or does not list are those of expired leases. -/
theorem Tracks.check {manager : LocalWorkerManager}
    {leases : String → Option (WorkerLease urlparse)} (tracks : Tracks manager leases)
    (profile : BuildProfile) :
    ∃ lwMap, checkPeerHealth profile manager.lwMap manager.lwVecKeys = .ok lwMap ∧
      Tracks { manager with lwMap := lwMap } (advance leases .shouldCheckPeerHealth) := by
  let missed (lw : KnownLocalWorker) : KnownLocalWorker :=
    match checkPeer profile lw with
    | .ok next => next
    | .error _ => lw
  have missed_entry (lease : WorkerLease urlparse) : missed (entry lease) = entry lease.miss := by
    simp only [missed, checkPeer_entry profile lease]
  have succeeds : ∀ key ∈ manager.lwVecKeys, ∀ lw, manager.lwMap[key]? = some lw →
      checkPeer profile lw = .ok (missed lw) := by
    intro key _ lw found
    rw [tracks.entries key] at found
    obtain ⟨lease, _, rfl⟩ := Option.map_eq_some_iff.mp found
    rw [missed_entry]
    exact checkPeer_entry profile lease
  obtain ⟨swept, swept_eq, lookup⟩ :=
    sweep_pointwise (checkPeer profile) missed manager.lwMap manager.lwVecKeys
      tracks.distinct succeeds
  refine ⟨swept, swept_eq, ?_, tracks.distinct, ?_⟩
  · intro key
    change swept[key]? = ((leases key).map Lease.miss).map entry
    rw [lookup, tracks.entries key]
    cases held : leases key with
    | none => simp
    | some lease =>
        by_cases listed : key ∈ manager.lwVecKeys
        · rw [if_pos listed]
          simp only [Option.map_some, missed_entry]
        · have expired : leaseExpiry ≤ lease.misses :=
            Nat.le_of_not_lt fun running => listed (tracks.cached key lease held running)
          rw [if_neg listed]
          simp only [Option.map_some, entry_miss_of_expired lease expired]
  · intro key lease missedAt running
    change (leases key).map Lease.miss = some lease at missedAt
    obtain ⟨before, held, rfl⟩ := Option.map_eq_some_iff.mp missedAt
    exact tracks.cached key before held (Nat.lt_of_succ_lt running)

theorem Tracks.renew {manager : LocalWorkerManager}
    {leases : String → Option (WorkerLease urlparse)} (tracks : Tracks manager leases)
    (profile : BuildProfile) {lw : LocalWorkerIdentity} {lease : WorkerLease urlparse}
    (held : leases lw.publicKey = some lease) (running : lease.misses < leaseExpiry) :
    ∃ next, handleMessage profile urlparse manager (.receivedKeepAlive lw) =
        .ok (next, (updateLocalWorker (entry lease) lw).2) ∧
      Tracks next (advance leases (.receivedKeepAlive lw)) := by
  have found : manager.lwMap[lw.publicKey]? = some (entry lease) := by
    rw [tracks.entries, held]
    rfl
  have alive : (entry lease).status ≠ .dead := by
    intro dead
    exact absurd running (Nat.not_lt.mpr ((phase_dead_iff lease.misses).mp dead))
  refine ⟨{ manager with
    lwMap := manager.lwMap.insert lw.publicKey (entry (lease.renew lw)) }, ?_, ?_, ?_, ?_⟩
  · rw [← updateLocalWorker_entry lease lw running]
    exact handleMessage_updates profile found alive
  · intro key
    by_cases same : lw.publicKey = key
    · subst same
      rw [getElem?_insert_self]
      simp only [advance, signalFor, if_pos, held, observe,
        beatOn_of_running (seatFor urlparse) leaseExpiry running lw, Option.map_some]
    · rw [getElem?_insert_ne manager.lwMap _ same, tracks.entries key]
      simp only [advance, signalFor, if_neg same]
  · exact tracks.distinct
  · intro key other heldAfter runningAfter
    by_cases same : lw.publicKey = key
    · subst same
      exact tracks.cached _ lease held running
    · simp only [advance, signalFor, if_neg same] at heldAfter
      exact tracks.cached key other heldAfter runningAfter

/-- A parseable keepalive for an unknown or dead key opens a fresh lease and
rebuilds the key cache. -/
theorem Tracks.openLease {manager : LocalWorkerManager}
    {leases : String → Option (WorkerLease urlparse)} (tracks : Tracks manager leases)
    (profile : BuildProfile) {lw : LocalWorkerIdentity} {seat : ParsedKeepalive urlparse}
    (stopped : ∀ lease, leases lw.publicKey = some lease → leaseExpiry ≤ lease.misses)
    (admitted : seatFor urlparse lw = some seat) :
    ∃ next, handleMessage profile urlparse manager (.receivedKeepAlive lw) =
        .ok (next, [.helloNewWorker lw.instanceName lw.publicKey]) ∧
      Tracks next (advance leases (.receivedKeepAlive lw)) := by
  have opened :
      advance leases (.receivedKeepAlive lw) lw.publicKey = some (Lease.fresh seat lw) := by
    simp only [advance, signalFor, if_pos, observe]
    exact beatOn_of_admitted (seatFor urlparse) leaseExpiry stopped admitted
  have kept {key : String} (other : lw.publicKey ≠ key) :
      advance leases (.receivedKeepAlive lw) key = leases key := by
    simp only [advance, signalFor, if_neg other]
  have entriesAfter (key : String) :
      (manager.lwMap.insert lw.publicKey (entry (Lease.fresh seat lw)))[key]? =
        (advance leases (.receivedKeepAlive lw) key).map entry := by
    by_cases same : lw.publicKey = key
    · subst same
      rw [getElem?_insert_self, opened]
      rfl
    · rw [getElem?_insert_ne manager.lwMap _ same, kept same]
      exact tracks.entries key
  have notLive : ∀ klw, manager.lwMap[lw.publicKey]? = some klw → klw.status = .dead := by
    intro klw found
    rw [tracks.entries] at found
    obtain ⟨lease, held, rfl⟩ := Option.map_eq_some_iff.mp found
    exact (phase_dead_iff lease.misses).mpr (stopped lease held)
  refine ⟨_, (handleMessage_creates profile notLive).trans (createLocalWorker_fresh admitted),
    entriesAfter, keysWhere_nodup _ _, ?_⟩
  · intro key lease held running
    rw [mem_keysWhere]
    refine ⟨entry lease, ?_, (isLive_entry lease).mpr running⟩
    rw [entriesAfter, held]
    rfl

/-- A keepalive that neither meets a running lease nor parses panics the task. -/
theorem Tracks.refuse {manager : LocalWorkerManager}
    {leases : String → Option (WorkerLease urlparse)} (tracks : Tracks manager leases)
    (profile : BuildProfile) {lw : LocalWorkerIdentity}
    (refused : ¬ Accepts (seatFor urlparse) leaseExpiry (leases lw.publicKey) lw) :
    handleMessage profile urlparse manager (.receivedKeepAlive lw) = .error .unwrapNone := by
  have unparsed : ¬ Parses urlparse lw.addressString := by
    rw [← seatFor_isSome_iff]
    exact fun parses => refused (Or.inr parses)
  have notLive : ∀ klw, manager.lwMap[lw.publicKey]? = some klw → klw.status = .dead := by
    intro klw found
    rw [tracks.entries] at found
    obtain ⟨lease, held, rfl⟩ := Option.map_eq_some_iff.mp found
    apply (phase_dead_iff lease.misses).mpr
    exact Nat.le_of_not_lt fun running => refused (Or.inl ⟨lease, held, running⟩)
  rw [handleMessage_creates profile notLive]
  exact createLocalWorker_panics unparsed

/-! ### Whole runs -/

theorem managerStep_eq_some {profile : BuildProfile} {manager next : LocalWorkerManager}
    {message : LocalWorkerManagerChannelMessage} :
    managerStep profile urlparse manager message = some next ↔
      ∃ notices, handleMessage profile urlparse manager message = .ok (next, notices) := by
  unfold managerStep
  cases handled : handleMessage profile urlparse manager message with
  | error panic => simp
  | ok result =>
      obtain ⟨state, notices⟩ := result
      simp

/-- Every message is either handled, and then tracked, or it is a keepalive
that no lease accepts, and then it panics. -/
theorem Tracks.step {manager : LocalWorkerManager}
    {leases : String → Option (WorkerLease urlparse)} (tracks : Tracks manager leases)
    (profile : BuildProfile) (message : LocalWorkerManagerChannelMessage) :
    (∃ next, managerStep profile urlparse manager message = some next ∧
      Tracks next (advance leases message)) ∨
    (∃ lw, message = .receivedKeepAlive lw ∧
      ¬ Accepts (seatFor urlparse) leaseExpiry (leases lw.publicKey) lw ∧
      managerStep profile urlparse manager message = none) := by
  cases message with
  | shouldCheckPeerHealth =>
      obtain ⟨lwMap, checked, after⟩ := tracks.check profile
      refine Or.inl ⟨_, managerStep_eq_some.mpr ⟨[], ?_⟩, after⟩
      simp only [handleMessage, checked]
      rfl
  | receivedKeepAlive lw =>
      by_cases running : ∃ lease, leases lw.publicKey = some lease ∧ lease.misses < leaseExpiry
      · obtain ⟨lease, held, within⟩ := running
        obtain ⟨next, handled, after⟩ := tracks.renew profile held within
        exact Or.inl ⟨next, managerStep_eq_some.mpr ⟨_, handled⟩, after⟩
      · have stopped : ∀ lease, leases lw.publicKey = some lease → leaseExpiry ≤ lease.misses :=
          fun lease held => Nat.le_of_not_lt fun within => running ⟨lease, held, within⟩
        cases seat : seatFor urlparse lw with
        | some seat =>
            obtain ⟨next, handled, after⟩ := tracks.openLease profile stopped seat
            exact Or.inl ⟨next, managerStep_eq_some.mpr ⟨_, handled⟩, after⟩
        | none =>
            have refused : ¬ Accepts (seatFor urlparse) leaseExpiry (leases lw.publicKey) lw := by
              rintro (accepted | parsed)
              · exact running accepted
              · rw [seat] at parsed
                cases parsed
            refine Or.inr ⟨lw, rfl, refused, ?_⟩
            simp only [managerStep, tracks.refuse profile refused]

/-- A run that never panicked left the table tracking its leases. -/
theorem localWorkerManager_tracks {profile : BuildProfile}
    {messages : List LocalWorkerManagerChannelMessage} {manager : LocalWorkerManager}
    (run : localWorkerManager profile urlparse messages = some manager) :
    Tracks manager (leaseFor urlparse messages) := by
  refine @replay_holds _ _ (managerStep profile urlparse)
    (fun handled state => Tracks state (leaseFor urlparse handled))
    LocalWorkerManager.initial tracks_initial ?_ messages manager run
  intro before current message next _ tracks stepped
  rw [leaseFor_concat]
  rcases tracks.step profile message with ⟨other, taken, after⟩ | ⟨_, _, _, refused⟩
  · rw [stepped] at taken
    cases taken
    exact after
  · rw [stepped] at refused
    cases refused

/-- A keepalive that was handled was accepted by the lease of its key. -/
theorem accepted_of_run {profile : BuildProfile}
    {before after : List LocalWorkerManagerChannelMessage} {lw : LocalWorkerIdentity}
    {manager : LocalWorkerManager}
    (run : localWorkerManager profile urlparse (before ++ .receivedKeepAlive lw :: after) =
      some manager) :
    Accepts (seatFor urlparse) leaseExpiry (leaseFor urlparse before lw.publicKey) lw := by
  obtain ⟨current, next, reached, stepped, _⟩ := replay_split run
  by_contra refused
  have panics := (localWorkerManager_tracks reached).refuse profile refused
  obtain ⟨notices, handled⟩ := managerStep_eq_some.mp stepped
  rw [panics] at handled
  cases handled

/-- A run in which every keepalive parses never panics. -/
theorem localWorkerManager_runs (profile : BuildProfile)
    (messages : List LocalWorkerManagerChannelMessage)
    (parseable : ∀ lw, .receivedKeepAlive lw ∈ messages → Parses urlparse lw.addressString) :
    ∃ manager, localWorkerManager profile urlparse messages = some manager ∧
      Tracks manager (leaseFor urlparse messages) := by
  induction messages using List.reverseRecOn with
  | nil => exact ⟨LocalWorkerManager.initial, rfl, tracks_initial⟩
  | append_singleton before message ih =>
      obtain ⟨manager, run, tracks⟩ :=
        ih fun lw member => parseable lw (List.mem_append_left _ member)
      rcases tracks.step profile message with ⟨next, taken, after⟩ | ⟨lw, rfl, refused, _⟩
      · refine ⟨next, ?_, ?_⟩
        · unfold localWorkerManager at run ⊢
          rw [replay_concat, run]
          exact taken
        · rw [leaseFor_concat]
          exact after
      · exfalso
        apply refused
        exact Or.inr ((seatFor_isSome_iff lw).mpr
          (parseable lw (List.mem_append_right _ List.mem_cons_self)))

end ServiceNetwork.ServiceBroker
