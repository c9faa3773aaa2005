/-
How much of its past a broker needs.

What the table says of a worker's liveness is settled by its last keepalive, and
an expired entry answers as an absent one.  So brokers that have received the
same messages for long enough answer alike, whatever they received before; only
the address that a lease was opened with reaches further back.
-/

import ServiceNetwork.Pipeline.WorkerIdentity
import ServiceNetwork.ServiceBroker.QueryForwarder

namespace ServiceNetwork.Pipeline

open ServiceNetwork.Heartbeat
open ServiceNetwork.ServiceBroker

/-- All keepalives for a key name one address. -/
def Stationary (messages : List LocalWorkerManagerChannelMessage) : Prop :=
  ∀ lw other, .receivedKeepAlive lw ∈ messages → .receivedKeepAlive other ∈ messages →
    lw.publicKey = other.publicKey → lw.addressString = other.addressString

/-- The entries agree on everything but where the worker is. -/
structure SameLiveness (one other : KnownLocalWorker) : Prop where
  status : one.status = other.status
  lostCount : one.lostCount = other.lostCount
  lostMark : one.lostMark = other.lostMark
  instanceId : one.instanceId = other.instanceId

/-- There is no entry for the key, or a dead one. -/
def Gone (lwMap : LocalWorkerMap) (key : String) : Prop :=
  ∀ lw, lwMap[key]? = some lw → lw.status = .dead

variable {urlparse : String → Uri} {profile : BuildProfile}
  {before other after : List LocalWorkerManagerChannelMessage} {key : String}

theorem forwarder_gone {lwMap : LocalWorkerMap} (gone : Gone lwMap key) (method : String)
    (body : Bytes) : forwarder lwMap key method body = .respond { status := 404, body := [] } := by
  unfold forwarder
  cases found : lwMap[key]? with
  | none => rfl
  | some lw => simp only [gone lw found]

theorem forwarder_congr {one two : LocalWorkerMap} {lw other : KnownLocalWorker}
    (found : one[key]? = some lw) (foundToo : two[key]? = some other)
    (status : lw.status = other.status) (hostname : lw.hostname = other.hostname)
    (port : lw.forwarderPort = other.forwarderPort) (method : String) (body : Bytes) :
    forwarder one key method body = forwarder two key method body := by
  simp only [forwarder, found, foundToo, status, hostname, port]

/-- After a common keepalive that both managers handled the leases carry it, and
count the same checks. -/
theorem leases_agree {one two : LocalWorkerManager}
    (run : localWorkerManager profile urlparse (before ++ after) = some one)
    (runToo : localWorkerManager profile urlparse (other ++ after) = some two)
    (heard : ¬ Silent key after) :
    ∃ lease later, leaseFor urlparse (before ++ after) key = some lease ∧
      leaseFor urlparse (other ++ after) key = some later ∧
      lease.latest = later.latest ∧ lease.misses = later.misses := by
  obtain ⟨earlier, lw, rest, rfl, mine, silent⟩ := split_at_last_keepalive heard
  subst mine
  rw [← List.append_assoc] at run runToo
  obtain ⟨lease, held, latest, misses⟩ :=
    leaseFor_last_keepalive rfl silent (accepted_of_run run)
  obtain ⟨later, heldToo, latestToo, missesToo⟩ :=
    leaseFor_last_keepalive rfl silent (accepted_of_run runToo)
  rw [List.append_assoc] at held heldToo
  exact ⟨lease, later, held, heldToo, latest.trans latestToo.symm, misses.trans missesToo.symm⟩

theorem expired_of_silent (silent : Silent key after)
    (settled : leaseExpiry ≤ after.count .shouldCheckPeerHealth)
    {lease : WorkerLease urlparse} (held : leaseFor urlparse (before ++ after) key = some lease) :
    leaseExpiry ≤ lease.misses := by
  have quiet : ∀ signal ∈ signalsFor key after, signal = .check := by
    rw [signalsFor_silent silent]
    intro signal member
    exact List.eq_of_mem_replicate member
  have checks : (signalsFor key after).length = after.count .shouldCheckPeerHealth := by
    rw [signalsFor_silent silent, List.length_replicate]
  have split : signalsFor key (before ++ after) =
      signalsFor key before ++ signalsFor key after := List.filterMap_append
  unfold leaseFor at held
  rw [split, observeAll_append] at held
  cases earlier : observeAll (seatFor urlparse) leaseExpiry (signalsFor key before) with
  | none =>
      rw [earlier, checks_absent _ _ _ quiet] at held
      cases held
  | some opened =>
      rw [earlier, checks_count _ _ _ _ quiet] at held
      cases held
      change leaseExpiry ≤ opened.misses + (signalsFor key after).length
      omega

theorem gone_of_expired {manager : LocalWorkerManager}
    {messages : List LocalWorkerManagerChannelMessage}
    (tracks : Tracks manager (leaseFor urlparse messages))
    (expired : ∀ lease, leaseFor urlparse messages key = some lease →
      leaseExpiry ≤ lease.misses) : Gone manager.lwMap key := by
  intro lw found
  rw [tracks.entries] at found
  obtain ⟨lease, held, rfl⟩ := Option.map_eq_some_iff.mp found
  exact (phase_dead_iff lease.misses).mpr (expired lease held)

theorem seats_agree {messages : List LocalWorkerManagerChannelMessage}
    (stationary : Stationary messages) (beforeIn : before ⊆ messages) (otherIn : other ⊆ messages)
    {lease later : WorkerLease urlparse} (held : leaseFor urlparse before key = some lease)
    (heldToo : leaseFor urlparse other key = some later) :
    lease.seat.hostname = later.seat.hostname ∧ lease.seat.port = later.seat.port := by
  obtain ⟨opened, mine⟩ := leaseFor_seat_mem held
  obtain ⟨openedToo, mineToo⟩ := leaseFor_seat_mem heldToo
  have address := stationary _ _ (beforeIn opened) (otherIn openedToo) (mine.trans mineToo.symm)
  have host := lease.seat.parsedHost
  have port := lease.seat.parsedPort
  rw [address, later.seat.parsedHost] at host
  rw [address, later.seat.parsedPort] at port
  exact ⟨(Option.some.inj host).symm, (Option.some.inj port).symm⟩

/-- Two brokers with any two pasts that then receive the same messages, and whose
managers have not panicked, agree on the liveness of every worker heard of
since.  Once those messages hold enough checks for what is silent to expire, and
if no worker has moved, they answer every query alike; a restarted broker is one
with an empty past. -/
theorem brokers_converge (profile : BuildProfile) (urlparse : String → Uri)
    (before other after : List LocalWorkerManagerChannelMessage) (one two : LocalWorkerManager)
    (run : localWorkerManager profile urlparse (before ++ after) = some one)
    (runToo : localWorkerManager profile urlparse (other ++ after) = some two) :
    (∀ key, ¬ Silent key after → ∃ lw latter, one.lwMap[key]? = some lw ∧
      two.lwMap[key]? = some latter ∧ SameLiveness lw latter) ∧
    (Stationary (before ++ other ++ after) →
      leaseExpiry ≤ after.count .shouldCheckPeerHealth →
      ∀ key method body,
        forwarder one.lwMap key method body = forwarder two.lwMap key method body) := by
  have beforeIn : before ++ after ⊆ before ++ other ++ after := by
    intro message member
    rcases List.mem_append.mp member with past | common <;> simp [*]
  have otherIn : other ++ after ⊆ before ++ other ++ after := by
    intro message member
    rcases List.mem_append.mp member with past | common <;> simp [*]
  have tracks := localWorkerManager_tracks run
  have tracksToo := localWorkerManager_tracks runToo
  constructor
  · intro key heard
    obtain ⟨lease, later, held, heldToo, latest, misses⟩ := leases_agree run runToo heard
    refine ⟨entry lease, entry later, ?_, ?_, ?_⟩
    · rw [tracks.entries, held]
      rfl
    · rw [tracksToo.entries, heldToo]
      rfl
    · constructor <;> simp only [entry, latest, misses]
  · intro stationary settled key method body
    by_cases silent : Silent key after
    · have gone := gone_of_expired tracks fun lease held => expired_of_silent silent settled held
      have goneToo :=
        gone_of_expired tracksToo fun lease held => expired_of_silent silent settled held
      rw [forwarder_gone gone, forwarder_gone goneToo]
    · obtain ⟨lease, later, held, heldToo, _, misses⟩ := leases_agree run runToo silent
      obtain ⟨hostname, port⟩ := seats_agree stationary beforeIn otherIn held heldToo
      refine @forwarder_congr key one.lwMap two.lwMap (entry lease) (entry later) ?_ ?_ ?_ hostname
        port method body
      · rw [tracks.entries, held]
        rfl
      · rw [tracksToo.entries, heldToo]
        rfl
      · simp only [entry, misses]

/-- What both brokers receive: enough checks, then a keepalive and a check. -/
def exampleCommon : List LocalWorkerManagerChannelMessage :=
  List.replicate 12 .shouldCheckPeerHealth ++
    [.receivedKeepAlive (exampleKeepalive "0a" "http://10.0.0.2:1982"), .shouldCheckPeerHealth]

/-- A restarted broker answers for a worker as the one that never stopped. -/
theorem restarted_broker_converges :
    ∃ one two, localWorkerManager .release exampleUrlparse
        ([.receivedKeepAlive (exampleKeepalive "0a" "http://10.0.0.2:1982")] ++ exampleCommon) =
          some one ∧
      localWorkerManager .release exampleUrlparse ([] ++ exampleCommon) = some two ∧
      forwarder one.lwMap "0a" "GetInfo" [] = forwarder two.lwMap "0a" "GetInfo" [] := by
  have only : ∀ lw, .receivedKeepAlive lw ∈
      [.receivedKeepAlive (exampleKeepalive "0a" "http://10.0.0.2:1982")] ++ [] ++ exampleCommon →
        lw = exampleKeepalive "0a" "http://10.0.0.2:1982" := by
    intro lw member
    simpa [exampleCommon] using member
  have stationary : Stationary
      ([.receivedKeepAlive (exampleKeepalive "0a" "http://10.0.0.2:1982")] ++ [] ++
        exampleCommon) := by
    intro lw other member memberToo _
    rw [only lw member, only other memberToo]
  obtain ⟨_, alike⟩ := brokers_converge .release exampleUrlparse
    [.receivedKeepAlive (exampleKeepalive "0a" "http://10.0.0.2:1982")] [] exampleCommon _ _ rfl rfl
  exact ⟨_, _, rfl, rfl, alike stationary (by decide) "0a" "GetInfo" []⟩

end ServiceNetwork.Pipeline
