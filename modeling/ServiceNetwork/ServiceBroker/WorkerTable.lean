/-
What the worker table holds after any sequence of messages.

The counters and the status of an entry are functions of the number of health
checks since the last keepalive for its key, and the whole entry depends on no
other worker's keepalives.
-/

import Mathlib.Data.List.Nodup
import ServiceNetwork.ServiceBroker.WorkerLease

namespace ServiceNetwork.ServiceBroker

open Std
open ServiceNetwork.Heartbeat

variable {urlparse : String → Uri}

/-- The messages that are health checks or keepalives for `key`. -/
def concerns (key : String) : LocalWorkerManagerChannelMessage → Bool
  | .shouldCheckPeerHealth => true
  | .receivedKeepAlive lw => lw.publicKey == key

/-- No keepalive for `key` is among the messages. -/
def Silent (key : String) (messages : List LocalWorkerManagerChannelMessage) : Prop :=
  ∀ lw, .receivedKeepAlive lw ∈ messages → lw.publicKey ≠ key

@[simp] theorem signalsFor_check (key : String)
    (rest : List LocalWorkerManagerChannelMessage) :
    signalsFor key (.shouldCheckPeerHealth :: rest) = .check :: signalsFor key rest := rfl

theorem signalsFor_own {key : String} {lw : LocalWorkerIdentity}
    (rest : List LocalWorkerManagerChannelMessage) (mine : lw.publicKey = key) :
    signalsFor key (.receivedKeepAlive lw :: rest) = .beat lw :: signalsFor key rest := by
  simp only [signalsFor, List.filterMap_cons, signalFor, if_pos mine]

theorem signalsFor_other {key : String} {lw : LocalWorkerIdentity}
    (rest : List LocalWorkerManagerChannelMessage) (other : lw.publicKey ≠ key) :
    signalsFor key (.receivedKeepAlive lw :: rest) = signalsFor key rest := by
  simp only [signalsFor, List.filterMap_cons, signalFor, if_neg other]

theorem signalsFor_silent {key : String} {messages : List LocalWorkerManagerChannelMessage}
    (silent : Silent key messages) :
    signalsFor key messages =
      List.replicate (messages.count .shouldCheckPeerHealth) .check := by
  induction messages with
  | nil => rfl
  | cons message rest ih =>
      have restSilent : Silent key rest :=
        fun lw member => silent lw (List.mem_cons_of_mem _ member)
      cases message with
      | shouldCheckPeerHealth =>
          rw [signalsFor_check, ih restSilent, List.count_cons_self, List.replicate_succ]
      | receivedKeepAlive lw =>
          have other : lw.publicKey ≠ key := silent lw List.mem_cons_self
          have different : LocalWorkerManagerChannelMessage.receivedKeepAlive lw ≠
              .shouldCheckPeerHealth := by
            intro impossible
            cases impossible
          rw [signalsFor_other rest other, ih restSilent, List.count_cons_of_ne different]

theorem signalsFor_split (key : String) (before : List LocalWorkerManagerChannelMessage)
    (lw : LocalWorkerIdentity) (after : List LocalWorkerManagerChannelMessage)
    (mine : lw.publicKey = key) :
    signalsFor key (before ++ .receivedKeepAlive lw :: after) =
      signalsFor key before ++ .beat lw :: signalsFor key after := by
  rw [← signalsFor_own after mine]
  unfold signalsFor
  exact List.filterMap_append

theorem signalsFor_filter (key : String) (messages : List LocalWorkerManagerChannelMessage) :
    signalsFor key (messages.filter (concerns key)) = signalsFor key messages := by
  unfold signalsFor
  rw [List.filterMap_filter]
  congr 1
  funext message
  cases message with
  | shouldCheckPeerHealth => rfl
  | receivedKeepAlive lw =>
      by_cases mine : lw.publicKey = key
      · simp [concerns, mine]
      · simp [concerns, mine, signalFor]

theorem split_at_last_keepalive {key : String}
    {messages : List LocalWorkerManagerChannelMessage} (heard : ¬ Silent key messages) :
    ∃ before lw after, messages = before ++ .receivedKeepAlive lw :: after ∧
      lw.publicKey = key ∧ Silent key after := by
  induction messages with
  | nil =>
      exfalso
      apply heard
      intro lw impossible
      cases impossible
  | cons message rest ih =>
      by_cases later : Silent key rest
      · cases message with
        | shouldCheckPeerHealth =>
            exfalso
            apply heard
            intro lw member
            rcases List.mem_cons.mp member with impossible | inRest
            · cases impossible
            · exact later lw inRest
        | receivedKeepAlive lw =>
            refine ⟨[], lw, rest, rfl, ?_, later⟩
            by_contra other
            apply heard
            intro candidate member
            rcases List.mem_cons.mp member with same | inRest
            · cases same
              exact other
            · exact later candidate inRest
      · obtain ⟨before, lw, after, rfl, mine, silent⟩ := ih later
        exact ⟨message :: before, lw, after, rfl, mine, silent⟩

theorem leaseFor_silent {key : String} {messages : List LocalWorkerManagerChannelMessage}
    (silent : Silent key messages) : leaseFor urlparse messages key = none := by
  unfold leaseFor
  apply observeAll_no_beat
  rw [signalsFor_silent silent]
  intro signal member
  exact List.eq_of_mem_replicate member

/-- After an accepted keepalive and none since, the lease carries it and counts
the health checks since. -/
theorem leaseFor_last_keepalive {key : String}
    {before after : List LocalWorkerManagerChannelMessage} {lw : LocalWorkerIdentity}
    (mine : lw.publicKey = key) (silent : Silent key after)
    (accepted : Accepts (seatFor urlparse) leaseExpiry (leaseFor urlparse before key) lw) :
    ∃ lease, leaseFor urlparse (before ++ .receivedKeepAlive lw :: after) key = some lease ∧
      lease.latest = lw ∧ lease.misses = after.count .shouldCheckPeerHealth := by
  have quiet : ∀ signal ∈ signalsFor key after, signal = .check := by
    rw [signalsFor_silent silent]
    intro signal member
    exact List.eq_of_mem_replicate member
  obtain ⟨lease, held, latest, misses⟩ :=
    observeAll_last_beat (seatFor urlparse) leaseExpiry accepted quiet
  refine ⟨lease, ?_, latest, ?_⟩
  · unfold leaseFor
    rw [signalsFor_split key before lw after mine]
    exact held
  · rw [misses, signalsFor_silent silent, List.length_replicate]

/-- The liveness fields of an entry, `checks` health checks after its last
keepalive. -/
structure CountedSince (checks : Nat) (klw : KnownLocalWorker) : Prop where
  active : klw.status = .active ↔ checks ≤ 4
  lost : klw.status = .lost ↔ 5 ≤ checks ∧ checks ≤ 11
  dead : klw.status = .dead ↔ 12 ≤ checks
  count : klw.lostCount.toNat = min checks 12
  mark : klw.lostMark = decide (0 < checks)

theorem countedSince_entry (lease : WorkerLease urlparse) :
    CountedSince lease.misses (entry lease) where
  active := phase_active_iff lease.misses
  lost := phase_lost_iff lease.misses
  dead := phase_dead_iff lease.misses
  count := lostCount_toNat lease
  mark := rfl

/-- In every run the cached keys visit each live entry exactly once. -/
theorem Tracks.visits_once {manager : LocalWorkerManager}
    {leases : String → Option (WorkerLease urlparse)} (tracks : Tracks manager leases)
    {key : String} {klw : KnownLocalWorker} (found : manager.lwMap[key]? = some klw)
    (live : klw.status ≠ .dead) : manager.lwVecKeys.count key = 1 := by
  rw [tracks.entries] at found
  obtain ⟨lease, held, rfl⟩ := Option.map_eq_some_iff.mp found
  have running : lease.misses < leaseExpiry :=
    Nat.lt_of_not_le fun expired => live ((phase_dead_iff lease.misses).mpr expired)
  exact List.count_eq_one_of_mem tracks.distinct (tracks.cached key lease held running)

/-- The broker's worker table, characterised for every run from the empty
table, in either build profile. -/
theorem workerTable_of_run (profile : BuildProfile) (urlparse : String → Uri)
    (messages : List LocalWorkerManagerChannelMessage)
    (parseable : ∀ lw, .receivedKeepAlive lw ∈ messages → Parses urlparse lw.addressString) :
    ∃ manager, localWorkerManager profile urlparse messages = some manager ∧
      ∀ key,
        (manager.lwMap[key]? = none ↔ Silent key messages) ∧
        (∀ before lw after, messages = before ++ .receivedKeepAlive lw :: after →
          lw.publicKey = key → Silent key after →
          ∃ klw, manager.lwMap[key]? = some klw ∧
            CountedSince (after.count .shouldCheckPeerHealth) klw ∧
            klw.instanceId = lw.instanceId) ∧
        (∀ klw, manager.lwMap[key]? = some klw → klw.status ≠ .dead →
          manager.lwVecKeys.count key = 1) ∧
        (∃ projected,
          localWorkerManager profile urlparse (messages.filter (concerns key)) = some projected ∧
          projected.lwMap[key]? = manager.lwMap[key]?) := by
  obtain ⟨manager, run, tracks⟩ := localWorkerManager_runs profile messages parseable
  have lastEntry : ∀ key before lw after, messages = before ++ .receivedKeepAlive lw :: after →
      lw.publicKey = key → Silent key after →
      ∃ klw, manager.lwMap[key]? = some klw ∧
        CountedSince (after.count .shouldCheckPeerHealth) klw ∧
        klw.instanceId = lw.instanceId := by
    intro key before lw after split mine silent
    have parses : Parses urlparse lw.addressString := by
      apply parseable lw
      rw [split]
      exact List.mem_append_right _ List.mem_cons_self
    have accepted : Accepts (seatFor urlparse) leaseExpiry (leaseFor urlparse before key) lw :=
      Or.inr ((seatFor_isSome_iff lw).mpr parses)
    obtain ⟨lease, held, latest, misses⟩ := leaseFor_last_keepalive mine silent accepted
    refine ⟨entry lease, ?_, ?_, ?_⟩
    · rw [tracks.entries, split, held]
      rfl
    · rw [← misses]
      exact countedSince_entry lease
    · change lease.latest.instanceId = lw.instanceId
      rw [latest]
  refine ⟨manager, run, fun key => ⟨?_, lastEntry key, ?_, ?_⟩⟩
  · constructor
    · intro absent
      by_contra heard
      obtain ⟨before, lw, after, split, mine, silent⟩ := split_at_last_keepalive heard
      obtain ⟨klw, present, _⟩ := lastEntry key before lw after split mine silent
      rw [absent] at present
      cases present
    · intro silent
      rw [tracks.entries, leaseFor_silent silent]
      rfl
  · intro klw found live
    exact tracks.visits_once found live
  · obtain ⟨projected, projectedRun, projectedTracks⟩ :=
      localWorkerManager_runs profile (messages.filter (concerns key))
        (fun lw member => parseable lw (List.mem_of_mem_filter member))
    refine ⟨projected, projectedRun, ?_⟩
    rw [projectedTracks.entries, tracks.entries]
    unfold leaseFor
    rw [signalsFor_filter]

/-- The address parser on the addresses of the concrete runs below. -/
def exampleUrlparse (addressString : String) : Uri :=
  if addressString = "http://10.0.0.2:1982" then
    { hostname := some "10.0.0.2", port := some 1982 }
  else if addressString = "http://10.0.0.3:1982" then
    { hostname := some "10.0.0.3", port := some 1982 }
  else
    { hostname := none, port := none }

def exampleKeepalive (publicKey addressString : String) : LocalWorkerIdentity :=
  { instanceName := "worker"
    instanceId := "a"
    addressString := addressString
    publicPort := 8000
    publicKey := publicKey }

theorem workerTable_of_example_run :
    ∃ manager, localWorkerManager .debug exampleUrlparse
        (.receivedKeepAlive (exampleKeepalive "0a" "http://10.0.0.2:1982") ::
          List.replicate 5 .shouldCheckPeerHealth) = some manager ∧
      ∃ klw, manager.lwMap["0a"]? = some klw ∧ klw.status = .lost ∧ klw.lostCount.toNat = 5 := by
  obtain ⟨manager, run, table⟩ := workerTable_of_run .debug exampleUrlparse
    (.receivedKeepAlive (exampleKeepalive "0a" "http://10.0.0.2:1982") ::
      List.replicate 5 .shouldCheckPeerHealth)
    (by
      intro lw member
      rcases List.mem_cons.mp member with same | impossible
      · cases same
        decide
      · cases List.eq_of_mem_replicate impossible)
  obtain ⟨klw, present, counted, _⟩ := (table "0a").2.1 []
    (exampleKeepalive "0a" "http://10.0.0.2:1982") (List.replicate 5 .shouldCheckPeerHealth)
    rfl rfl (fun lw impossible => by cases List.eq_of_mem_replicate impossible)
  exact ⟨manager, run, klw, present, counted.lost.mpr (by decide), counted.count⟩

end ServiceNetwork.ServiceBroker
