/-
The broker as a failure detector, in real time.

`checkPeerHealthLoop` sleeps for the check interval, or longer, before each
check it sends.  So a worker is routed to for four intervals after its last
keepalive however the checks fall, and once the loop is known to be late by no
more than some slack, a silent worker is dropped within five of its turns and
forgotten within twelve.
-/

import ServiceNetwork.Library.Timing
import ServiceNetwork.ServiceBroker.QueryForwarder

namespace ServiceNetwork.ServiceBroker

open ServiceNetwork.Heartbeat
open ServiceNetwork.Timing

/-- The moments at which the loop sends its checks, when started at `start`;
`delays` says how much later than due each of them is. -/
def checkPeerHealthLoop (start : Nat) (delays : List Nat) : List Nat :=
  ticksFrom brokerHealthCheckInterval start delays

def isCheck (message : LocalWorkerManagerChannelMessage) : Bool :=
  message == .shouldCheckPeerHealth

/-- What the manager's channel has carried, each message with the moment at
which it was sent; the checks among them are the loop's. -/
structure ChannelHistory where
  start : Nat
  delays : List Nat
  timed : List (Nat × LocalWorkerManagerChannelMessage)
  ordered : Ordered timed
  checks : momentsOf isCheck timed = checkPeerHealthLoop start delays

def ChannelHistory.messages (history : ChannelHistory) :
    List LocalWorkerManagerChannelMessage :=
  history.timed.map Prod.snd

/-- `lw` was sent at `sent`, and nothing for its key since. -/
structure LastHeard (history : ChannelHistory) (sent : Nat) (lw : LocalWorkerIdentity)
    (after : List (Nat × LocalWorkerManagerChannelMessage)) : Prop where
  split : ∃ before, history.timed = before ++ (sent, .receivedKeepAlive lw) :: after
  silent : Silent lw.publicKey (after.map Prod.snd)

variable {urlparse : String → Uri}

theorem counted_since {profile : BuildProfile} {history : ChannelHistory}
    {manager : LocalWorkerManager}
    (run : localWorkerManager profile urlparse history.messages = some manager) {sent : Nat}
    {lw : LocalWorkerIdentity} {after : List (Nat × LocalWorkerManagerChannelMessage)}
    (heard : LastHeard history sent lw after) :
    ∃ klw, manager.lwMap[lw.publicKey]? = some klw ∧
      CountedSince (momentsOf isCheck after).length klw ∧ klw.instanceId = lw.instanceId := by
  obtain ⟨before, split⟩ := heard.split
  have messages : history.messages =
      before.map Prod.snd ++ .receivedKeepAlive lw :: after.map Prod.snd := by
    unfold ChannelHistory.messages
    rw [split, List.map_append, List.map_cons]
  rw [messages] at run
  obtain ⟨lease, held, latest, misses⟩ :=
    leaseFor_last_keepalive rfl heard.silent (accepted_of_run run)
  have counted : lease.misses = (momentsOf isCheck after).length := by
    rw [misses, momentsOf_length]
    rfl
  refine ⟨entry lease, ?_, ?_, ?_⟩
  · rw [(localWorkerManager_tracks run).entries, held]
    rfl
  · rw [← counted]
    exact countedSince_entry lease
  · change lease.latest.instanceId = lw.instanceId
    rw [latest]

/-- Only `n` checks have been sent within `n` intervals of a keepalive. -/
theorem ChannelHistory.checks_since_le {history : ChannelHistory} {sent n : Nat}
    {lw : LocalWorkerIdentity} {after : List (Nat × LocalWorkerManagerChannelMessage)}
    (heard : LastHeard history sent lw after)
    (within : ∀ moment ∈ momentsOf isCheck after,
      moment < sent + n * brokerHealthCheckInterval) :
    (momentsOf isCheck after).length ≤ n := by
  obtain ⟨before, split⟩ := heard.split
  have ordered := history.ordered
  have checks := history.checks
  rw [split] at ordered checks
  exact ticks_after_le ordered checks within

/-- A loop that keeps its times has sent `n` checks after `n` of its turns. -/
theorem ChannelHistory.checks_since_ge {history : ChannelHistory} {sent n slack now : Nat}
    {lw : LocalWorkerIdentity} {after : List (Nat × LocalWorkerManagerChannelMessage)}
    (heard : LastHeard history sent lw after)
    (prompt : Prompt brokerHealthCheckInterval slack history.start history.delays now)
    (started : history.start ≤ sent)
    (passed : sent + n * (brokerHealthCheckInterval + slack) ≤ now) :
    n ≤ (momentsOf isCheck after).length := by
  obtain ⟨before, split⟩ := heard.split
  have ordered := history.ordered
  have checks := history.checks
  rw [split] at ordered checks
  exact ticks_after_ge ordered checks prompt started passed

/-- Accuracy: as long as the manager runs, with every check so far sent within
four intervals of a worker's last keepalive, queries are sent to the worker, and
within eleven it is known. -/
theorem recent_worker_routed (profile : BuildProfile) (urlparse : String → Uri)
    (history : ChannelHistory) (manager : LocalWorkerManager)
    (run : localWorkerManager profile urlparse history.messages = some manager) (sent : Nat)
    (lw : LocalWorkerIdentity) (after : List (Nat × LocalWorkerManagerChannelMessage))
    (heard : LastHeard history sent lw after) :
    ∃ klw, manager.lwMap[lw.publicKey]? = some klw ∧ klw.instanceId = lw.instanceId ∧
      ((∀ moment ∈ momentsOf isCheck after, moment < sent + 4 * brokerHealthCheckInterval) →
        ∀ method body, forwarder manager.lwMap lw.publicKey method body =
          .send
            { url := "http://" ++ klw.hostname ++ ":" ++ toString klw.forwarderPort ++ "/" ++ method
              contentType := contentTypeBin
              body := body }) ∧
      ((∀ moment ∈ momentsOf isCheck after, moment < sent + 11 * brokerHealthCheckInterval) →
        klw.status ≠ .dead) := by
  obtain ⟨klw, found, counted, sameId⟩ := counted_since run heard
  refine ⟨klw, found, sameId, ?_, ?_⟩
  · intro within method body
    have active : klw.status = .active := counted.active.mpr (history.checks_since_le heard within)
    exact forwarder_active found active method body
  · intro within dead
    have many := counted.dead.mp dead
    have few := history.checks_since_le heard within
    omega

def exampleHeard : LocalWorkerManagerChannelMessage :=
  .receivedKeepAlive (exampleKeepalive "0a" "http://10.0.0.2:1982")

/-- Four checks on time, after a keepalive in the first second. -/
def exampleRecent : ChannelHistory where
  start := 0
  delays := [0, 0, 0, 0]
  timed := [(1000, exampleHeard), (20000, .shouldCheckPeerHealth),
    (40000, .shouldCheckPeerHealth), (60000, .shouldCheckPeerHealth),
    (80000, .shouldCheckPeerHealth)]
  ordered := by unfold Ordered; decide
  checks := by decide

theorem exampleRecent_routed :
    ∃ manager, ∃ klw : KnownLocalWorker,
      localWorkerManager .debug exampleUrlparse exampleRecent.messages = some manager ∧
      ∀ method body, forwarder manager.lwMap "0a" method body =
        .send
          { url := "http://" ++ klw.hostname ++ ":" ++ toString klw.forwarderPort ++ "/" ++ method
            contentType := contentTypeBin
            body := body } := by
  obtain ⟨klw, _, _, sends, _⟩ := recent_worker_routed .debug exampleUrlparse exampleRecent _ rfl
    1000 (exampleKeepalive "0a" "http://10.0.0.2:1982") _
    ⟨⟨[], rfl⟩, by intro lw member; simp at member⟩
  exact ⟨_, klw, rfl, sends (by decide)⟩

/-- Completeness: once five turns of a loop that keeps its times have passed
since a worker's last keepalive, which came after the loop's start, queries for
it are refused, and from the twelfth turn on the worker is as good as unknown. -/
theorem silent_worker_dropped (profile : BuildProfile) (urlparse : String → Uri)
    (history : ChannelHistory) (manager : LocalWorkerManager)
    (run : localWorkerManager profile urlparse history.messages = some manager) (slack now : Nat)
    (prompt : Prompt brokerHealthCheckInterval slack history.start history.delays now)
    (sent : Nat) (lw : LocalWorkerIdentity)
    (after : List (Nat × LocalWorkerManagerChannelMessage))
    (heard : LastHeard history sent lw after) (started : history.start ≤ sent) :
    (sent + 5 * (brokerHealthCheckInterval + slack) ≤ now →
      ∀ method body, ∃ status, (status = 502 ∨ status = 404) ∧
        forwarder manager.lwMap lw.publicKey method body =
          .respond { status := status, body := [] }) ∧
    (sent + 12 * (brokerHealthCheckInterval + slack) ≤ now →
      ∀ method body, forwarder manager.lwMap lw.publicKey method body =
        .respond { status := 404, body := [] }) := by
  obtain ⟨klw, found, counted, _⟩ := counted_since run heard
  constructor
  · intro passed method body
    have five := history.checks_since_ge heard prompt started passed
    cases status : klw.status with
    | active =>
        have few := counted.active.mp status
        omega
    | lost =>
        refine ⟨502, Or.inl rfl, ?_⟩
        simp only [forwarder, found, status]
    | dead =>
        refine ⟨404, Or.inr rfl, ?_⟩
        simp only [forwarder, found, status]
  · intro passed method body
    have twelve := history.checks_since_ge heard prompt started passed
    have dead : klw.status = .dead := counted.dead.mpr twelve
    simp only [forwarder, found, dead]

/-- The same keepalive, and twelve checks on time. -/
def exampleSilence : ChannelHistory where
  start := 0
  delays := List.replicate 12 0
  timed := (1000, exampleHeard) ::
    (checkPeerHealthLoop 0 (List.replicate 12 0)).map fun moment =>
      (moment, .shouldCheckPeerHealth)
  ordered := by unfold Ordered; decide
  checks := by decide

theorem exampleSilence_dropped :
    ∃ manager, localWorkerManager .debug exampleUrlparse exampleSilence.messages = some manager ∧
      ∀ method body, forwarder manager.lwMap "0a" method body =
        .respond { status := 404, body := [] } := by
  obtain ⟨_, forgotten⟩ := silent_worker_dropped .debug exampleUrlparse exampleSilence _ rfl 0
    250000 ⟨by decide, by decide⟩ 1000 (exampleKeepalive "0a" "http://10.0.0.2:1982") _
    ⟨⟨[], rfl⟩, by intro lw member; simp at member⟩ (by decide)
  exact ⟨_, rfl, forgotten (by decide)⟩

end ServiceNetwork.ServiceBroker
