/-
The broker's query forwarder and the address it sends queries to.

The forwarder reads the stored host and port, which only `createLocalWorker`
writes.  They agree with the last keepalive exactly when that keepalive repeats
the address of the one that opened the entry's current lease.
-/

import ServiceNetwork.ServiceBroker.WorkerTable
import ServiceNetwork.Utils

namespace ServiceNetwork.ServiceBroker

open Std
open ServiceNetwork.Heartbeat

def forwarder (lwMap : LocalWorkerMap) (prPublicKey method : String) (body : Bytes) :
    Forwarding :=
  match lwMap[prPublicKey]? with
  | none => .respond { status := 404, body := [] }
  | some lw =>
      match lw.status with
      | .active =>
          .send
            { url := "http://" ++ lw.hostname ++ ":" ++ toString lw.forwarderPort ++ "/" ++ method
              contentType := contentTypeBin
              body := body }
      | .lost => .respond { status := 502, body := [] }
      | .dead => .respond { status := 404, body := [] }

/-- The answer to the query once the worker has replied or failed to. -/
def forwarderReply : Except String HttpResponse → HttpResponse
  | .ok response => response
  | .error _ => { status := 502, body := [] }

theorem forwarder_active {lwMap : LocalWorkerMap} {prPublicKey : String} {lw : KnownLocalWorker}
    (found : lwMap[prPublicKey]? = some lw) (active : lw.status = .active)
    (method : String) (body : Bytes) :
    forwarder lwMap prPublicKey method body =
      .send
        { url := "http://" ++ lw.hostname ++ ":" ++ toString lw.forwarderPort ++ "/" ++ method
          contentType := contentTypeBin
          body := body } := by
  simp only [forwarder, found, active]

theorem forwarder_inactive {lwMap : LocalWorkerMap} {prPublicKey : String}
    (inactive : ∀ lw, lwMap[prPublicKey]? = some lw → lw.status ≠ .active)
    (method : String) (body : Bytes) :
    ∃ response, forwarder lwMap prPublicKey method body = .respond response := by
  unfold forwarder
  cases found : lwMap[prPublicKey]? with
  | none => exact ⟨_, rfl⟩
  | some lw =>
      cases status : lw.status with
      | active => exact absurd status (inactive lw found)
      | lost => exact ⟨_, by simp only [status]; rfl⟩
      | dead => exact ⟨_, by simp only [status]; rfl⟩

theorem forwarder_eq_send {lwMap : LocalWorkerMap} {prPublicKey method : String} {body : Bytes}
    {request : HttpRequest} (sent : forwarder lwMap prPublicKey method body = .send request) :
    ∃ lw, lwMap[prPublicKey]? = some lw ∧ lw.status = .active ∧
      request =
        { url := "http://" ++ lw.hostname ++ ":" ++ toString lw.forwarderPort ++ "/" ++ method
          contentType := contentTypeBin
          body := body } := by
  unfold forwarder at sent
  split at sent
  · cases sent
  · rename_i lw found
    split at sent
    · rename_i active
      cases sent
      exact ⟨lw, found, active, rfl⟩
    · cases sent
    · cases sent

/-- Queries for `key` go to the host and port of the keepalive's address, and
the entry's address, host and port are all that keepalive's. -/
def RoutedBy (urlparse : String → Uri) (lwMap : LocalWorkerMap) (key : String)
    (klw : KnownLocalWorker) (lw : LocalWorkerIdentity) : Prop :=
  klw.addressString = lw.addressString ∧
  (urlparse lw.addressString).hostname = some klw.hostname ∧
  (urlparse lw.addressString).port = some klw.forwarderPort ∧
  ∀ method body, ∃ hostname port,
    (urlparse lw.addressString).hostname = some hostname ∧
    (urlparse lw.addressString).port = some port ∧
    forwarder lwMap key method body =
      .send
        { url := "http://" ++ hostname ++ ":" ++ toString port ++ "/" ++ method
          contentType := contentTypeBin
          body := body }

/-- The address in the keepalive that opened the current lease of `key`. -/
def openingAddress (urlparse : String → Uri) (messages : List LocalWorkerManagerChannelMessage)
    (key : String) : Option String :=
  (leaseFor urlparse messages key).map fun lease => lease.seat.identity.addressString

/-- `lw` is the most recent keepalive for `key`. -/
def LastKeepalive (messages : List LocalWorkerManagerChannelMessage) (key : String)
    (lw : LocalWorkerIdentity) : Prop :=
  ∃ before after, messages = before ++ .receivedKeepAlive lw :: after ∧
    lw.publicKey = key ∧ Silent key after

/-- The stored address is the opening one, and the stored host and port are
parsed from it. -/
theorem Tracks.stored_address {urlparse : String → Uri} {manager : LocalWorkerManager}
    {messages : List LocalWorkerManagerChannelMessage}
    (tracks : Tracks manager (leaseFor urlparse messages)) {key : String}
    {klw : KnownLocalWorker} (found : manager.lwMap[key]? = some klw) :
    openingAddress urlparse messages key = some klw.addressString ∧
      (urlparse klw.addressString).hostname = some klw.hostname ∧
      (urlparse klw.addressString).port = some klw.forwarderPort := by
  rw [tracks.entries] at found
  obtain ⟨lease, held, rfl⟩ := Option.map_eq_some_iff.mp found
  refine ⟨?_, lease.seat.parsedHost, lease.seat.parsedPort⟩
  unfold openingAddress
  rw [held]
  rfl

/-- In every run, an active entry routes to its last keepalive exactly when
that keepalive carries the address its lease was opened with. -/
theorem routedBy_last_keepalive_iff (profile : BuildProfile) (urlparse : String → Uri)
    (messages : List LocalWorkerManagerChannelMessage)
    (parseable : ∀ lw, .receivedKeepAlive lw ∈ messages → Parses urlparse lw.addressString) :
    ∃ manager, localWorkerManager profile urlparse messages = some manager ∧
      ∀ key klw lw, manager.lwMap[key]? = some klw → klw.status = .active →
        LastKeepalive messages key lw →
        (RoutedBy urlparse manager.lwMap key klw lw ↔
          openingAddress urlparse messages key = some lw.addressString) := by
  obtain ⟨manager, run, tracks⟩ := localWorkerManager_runs profile messages parseable
  refine ⟨manager, run, ?_⟩
  intro key klw lw found active _last
  obtain ⟨opening, host, port⟩ := tracks.stored_address found
  rw [opening]
  constructor
  · intro routed
    rw [routed.1]
  · intro same
    have sameAddress : klw.addressString = lw.addressString := Option.some.inj same
    rw [sameAddress] at host port
    exact ⟨sameAddress, host, port, fun method body =>
      ⟨klw.hostname, klw.forwarderPort, host, port, forwarder_active found active method body⟩⟩

theorem routedBy_of_stationary_worker :
    ∃ manager klw, localWorkerManager .release exampleUrlparse
        [.receivedKeepAlive (exampleKeepalive "0a" "http://10.0.0.2:1982"),
          .shouldCheckPeerHealth,
          .receivedKeepAlive (exampleKeepalive "0a" "http://10.0.0.2:1982")] = some manager ∧
      RoutedBy exampleUrlparse manager.lwMap "0a" klw
        (exampleKeepalive "0a" "http://10.0.0.2:1982") := by
  obtain ⟨manager, run, routed⟩ := routedBy_last_keepalive_iff .release exampleUrlparse
    [.receivedKeepAlive (exampleKeepalive "0a" "http://10.0.0.2:1982"),
      .shouldCheckPeerHealth,
      .receivedKeepAlive (exampleKeepalive "0a" "http://10.0.0.2:1982")]
    (by
      intro lw member
      simp only [List.mem_cons, List.not_mem_nil, or_false,
        LocalWorkerManagerChannelMessage.receivedKeepAlive.injEq, reduceCtorEq, false_or,
        or_self] at member
      rw [member]
      decide)
  obtain ⟨klw, found, active⟩ :
      ∃ klw, manager.lwMap["0a"]? = some klw ∧ klw.status = .active := by
    cases run
    exact ⟨_, rfl, rfl⟩
  refine ⟨manager, klw, run, (routed "0a" klw _ found active ?_).mpr rfl⟩
  exact ⟨[.receivedKeepAlive (exampleKeepalive "0a" "http://10.0.0.2:1982"),
    .shouldCheckPeerHealth], [], rfl, rfl, fun lw impossible => by cases impossible⟩

/-- A worker that moves while its entry is active keeps its old route. -/
theorem moved_worker_keeps_old_route :
    ∃ manager klw, localWorkerManager .release exampleUrlparse
        [.receivedKeepAlive (exampleKeepalive "0a" "http://10.0.0.2:1982"),
          .receivedKeepAlive (exampleKeepalive "0a" "http://10.0.0.3:1982")] = some manager ∧
      manager.lwMap["0a"]? = some klw ∧ klw.status = .active ∧
      LastKeepalive
        [.receivedKeepAlive (exampleKeepalive "0a" "http://10.0.0.2:1982"),
          .receivedKeepAlive (exampleKeepalive "0a" "http://10.0.0.3:1982")] "0a"
        (exampleKeepalive "0a" "http://10.0.0.3:1982") ∧
      forwarder manager.lwMap "0a" "GetInfo" [] =
        .send
          { url := "http://10.0.0.2:1982/GetInfo"
            contentType := contentTypeBin
            body := [] } ∧
      ¬ RoutedBy exampleUrlparse manager.lwMap "0a" klw
        (exampleKeepalive "0a" "http://10.0.0.3:1982") := by
  refine ⟨_, _, rfl, rfl, rfl, ?_, ?_, ?_⟩
  · exact ⟨[.receivedKeepAlive (exampleKeepalive "0a" "http://10.0.0.2:1982")], [], rfl, rfl,
      fun lw impossible => by cases impossible⟩
  · rfl
  · intro routed
    have impossible : "http://10.0.0.2:1982" = "http://10.0.0.3:1982" := routed.1
    exact absurd impossible (by decide)

end ServiceNetwork.ServiceBroker
