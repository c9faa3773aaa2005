/-
The answer to a query, from pRuntime back to the client.

Both forwarders turn what goes wrong into statuses without a text, and the
worker's drops the text of every status but two.  Composed with the way there,
a client reads a text only if pRuntime wrote it in answer to this very query,
or if the web framework of the worker refused the path.
-/

import ServiceNetwork.Pipeline.QueryMethod

namespace ServiceNetwork.Pipeline

open ServiceNetwork.ServiceBroker
open ServiceNetwork.ServiceWorker

/-- What answers depend on besides the two programs.  A text that breaks off on
the way is replaced by the empty one, its status kept. -/
structure Surroundings where
  http : HttpLibraries
  network : Network
  pruntime : HttpRequest → Except String HttpResponse
  decodes : Bytes → Bool
  unrouted : Bytes → HttpResponse
  receive : HttpResponse → Except String HttpResponse
  receive_ok : ∀ sent received, receive sent = .ok received →
    received = sent ∨ received = { status := sent.status, body := [] }

def Surroundings.received (around : Surroundings) :
    Except String HttpResponse → Except String HttpResponse
  | .error error => .error error
  | .ok response => around.receive response

/-- The worker's router and forwarder on one request. -/
def workerAnswer (around : Surroundings) (worker : ServingWorker) (path body : Bytes) :
    HttpResponse :=
  match around.http.methodParam path with
  | none => around.unrouted path
  | some method =>
      match ServiceWorker.forwarder worker.checked worker.current method body with
      | .respond response => response
      | .send request =>
          ServiceWorker.forwarderReply around.decodes (around.received (around.pruntime request))

/-- The outcome of the request that the broker sends on. -/
def workerOutcome (around : Surroundings) (request : HttpRequest) : Except String HttpResponse :=
  match around.http.request request.url with
  | none => .error "builder error"
  | some (destination, path) =>
      match around.network destination with
      | none => .error "error sending request"
      | some worker =>
          around.received
            (.ok (workerAnswer around worker (around.http.redirected path) request.body))

def answer (around : Surroundings) (lwMap : LocalWorkerMap) (prPublicKey method : String)
    (body : Bytes) : HttpResponse :=
  match ServiceBroker.forwarder lwMap prPublicKey method body with
  | .respond response => response
  | .send request => ServiceBroker.forwarderReply (workerOutcome around request)

/-! ### A text survives a hop as it is -/

variable {around : Surroundings}

theorem received_text {outcome : Except String HttpResponse} {response : HttpResponse}
    (read : around.received outcome = .ok response) (text : response.body ≠ []) :
    outcome = .ok response := by
  cases outcome with
  | error error => cases read
  | ok sent =>
      rcases around.receive_ok sent response read with same | emptied
      · rw [same]
      · rw [emptied] at text
        exact absurd rfl text

/-- The worker passes on a text with a success, or a bad request that decodes. -/
theorem worker_forwarderReply_text {decodes : Bytes → Bool}
    {outcome : Except String HttpResponse}
    (text : (ServiceWorker.forwarderReply decodes outcome).body ≠ []) :
    ∃ response, outcome = .ok response ∧
      ServiceWorker.forwarderReply decodes outcome = response ∧
      (response.status = 200 ∨ response.status = 400 ∧ decodes response.body = true) := by
  cases outcome with
  | error error => exact absurd rfl text
  | ok response =>
      refine ⟨response, rfl, ?_⟩
      unfold ServiceWorker.forwarderReply at text ⊢
      by_cases success : response.status = 200
      · simp only [if_pos success]
        exact ⟨trivial, Or.inl success⟩
      · simp only [if_neg success] at text ⊢
        by_cases badRequest : response.status = 400
        · simp only [if_pos badRequest] at text ⊢
          by_cases readable : decodes response.body = true
          · rw [if_pos readable]
            exact ⟨rfl, Or.inr ⟨badRequest, readable⟩⟩
          · rw [if_neg readable] at text
            exact absurd rfl text
        · rw [if_neg badRequest] at text
          exact absurd rfl text

theorem broker_forwarderReply_text {outcome : Except String HttpResponse}
    (text : (ServiceBroker.forwarderReply outcome).body ≠ []) :
    outcome = .ok (ServiceBroker.forwarderReply outcome) := by
  cases outcome with
  | error error => exact absurd rfl text
  | ok response => rfl

theorem worker_forwarder_refusal {checked current : WorkerRuntime} {method : String}
    {body : Bytes} {response : HttpResponse}
    (refused : ServiceWorker.forwarder checked current method body = .respond response) :
    response.body = [] := by
  unfold ServiceWorker.forwarder forwarderRefusal at refused
  cases status : checked.status with
  | started =>
      rw [status] at refused
      by_cases allowed : allowedMethods.contains method = true
      · simp only [allowed, if_true] at refused
        cases refused
      · simp only [allowed] at refused
        cases refused
        rfl
  | starting | waitingForBroker | pendingProvision | failed =>
      rw [status] at refused
      cases refused
      rfl

theorem broker_forwarder_refusal {lwMap : LocalWorkerMap} {prPublicKey method : String}
    {body : Bytes} {response : HttpResponse}
    (refused : ServiceBroker.forwarder lwMap prPublicKey method body = .respond response) :
    response.body = [] := by
  unfold ServiceBroker.forwarder at refused
  split at refused
  · cases refused
    rfl
  · split at refused <;> cases refused <;> rfl

/-- A text from a worker is pRuntime's or its web framework's. -/
theorem workerAnswer_text {worker : ServingWorker} {path body : Bytes}
    (text : (workerAnswer around worker path body).body ≠ []) :
    (around.http.methodParam path = none ∧
      workerAnswer around worker path body = around.unrouted path) ∨
    ∃ method response, around.http.methodParam path = some method ∧
      worker.checked.status = .started ∧ method ∈ allowedMethods ∧
      around.pruntime (forwarderRequest worker.current method body) = .ok response ∧
      workerAnswer around worker path body = response ∧
      (response.status = 200 ∨ response.status = 400 ∧ around.decodes response.body = true) := by
  unfold workerAnswer at text ⊢
  cases routed : around.http.methodParam path with
  | none => exact Or.inl ⟨rfl, rfl⟩
  | some method =>
      right
      refine ⟨method, ?_⟩
      rw [routed] at text
      simp only at text ⊢
      cases sent : ServiceWorker.forwarder worker.checked worker.current method body with
      | respond response =>
          rw [sent] at text
          exact absurd (worker_forwarder_refusal sent) text
      | send request =>
          rw [sent] at text
          obtain ⟨started, allowed, rfl⟩ := (forwarder_sends_iff _ _ _ _ _).mp sent
          obtain ⟨response, read, passed, status⟩ := worker_forwarderReply_text text
          simp only [passed] at text
          exact ⟨response, trivial, started, allowed, received_text read text, passed, status⟩

/-- A text from a worker is the worker's answer. -/
theorem workerOutcome_text {request : HttpRequest} {response : HttpResponse}
    (outcome : workerOutcome around request = .ok response) (text : response.body ≠ []) :
    ∃ destination path worker, around.http.request request.url = some (destination, path) ∧
      around.network destination = some worker ∧
      workerAnswer around worker (around.http.redirected path) request.body = response := by
  unfold workerOutcome at outcome
  split at outcome
  · cases outcome
  · rename_i destination path asked
    split at outcome
    · cases outcome
    · rename_i worker listens
      have same := Except.ok.inj (received_text outcome text)
      exact ⟨destination, path, worker, asked, listens, same⟩

/-- Whatever the table, the workers and the network do, a text that a client
reads is the text, with the status, of pRuntime's answer to the query it sent,
through an active entry and a started worker; or the worker's web framework
wrote it about the path that the query ended up with. -/
theorem answer_text_from_pruntime (around : Surroundings) (lwMap : LocalWorkerMap)
    (prPublicKey method : String) (body : Bytes)
    (text : (answer around lwMap prPublicKey method body).body ≠ []) :
    ∃ lw destination path worker, lwMap[prPublicKey]? = some lw ∧ lw.status = .active ∧
      around.http.request ("http://" ++ lw.hostname ++ ":" ++ toString lw.forwarderPort ++ "/" ++
        method) = some (destination, path) ∧
      around.network destination = some worker ∧
      ((around.http.methodParam (around.http.redirected path) = none ∧
          answer around lwMap prPublicKey method body =
            around.unrouted (around.http.redirected path)) ∨
        ∃ routed response, around.http.methodParam (around.http.redirected path) = some routed ∧
          worker.checked.status = .started ∧ routed ∈ allowedMethods ∧
          around.pruntime (forwarderRequest worker.current routed body) = .ok response ∧
          answer around lwMap prPublicKey method body = response ∧
          (response.status = 200 ∨
            response.status = 400 ∧ around.decodes response.body = true)) := by
  unfold answer at text ⊢
  cases sent : ServiceBroker.forwarder lwMap prPublicKey method body with
  | respond response =>
      rw [sent] at text
      exact absurd (broker_forwarder_refusal sent) text
  | send request =>
      rw [sent] at text
      simp only at text ⊢
      have passed := broker_forwarderReply_text text
      generalize ServiceBroker.forwarderReply (workerOutcome around request) = response at *
      obtain ⟨lw, found, active, rfl⟩ := forwarder_eq_send sent
      obtain ⟨destination, path, worker, asked, listens, same⟩ := workerOutcome_text passed text
      have written :
          (workerAnswer around worker (around.http.redirected path) body).body ≠ [] := by
        rw [same]
        exact text
      refine ⟨lw, destination, path, worker, found, active, asked, listens, ?_⟩
      rw [← same]
      exact workerAnswer_text written

/-- A query with an allowed method, through the worker of an active entry, is
answered by what the two forwarders leave of pRuntime's answer. -/
theorem answer_started {lwMap : LocalWorkerMap} {prPublicKey method : String} {body : Bytes}
    {lw : KnownLocalWorker} {worker : ServingWorker} (found : lwMap[prPublicKey]? = some lw)
    (active : lw.status = .active) (located : WorkerAt around.http around.network lw worker)
    (started : worker.checked.status = .started) (allowed : method ∈ allowedMethods) :
    answer around lwMap prPublicKey method body =
      ServiceBroker.forwarderReply (around.receive
        (ServiceWorker.forwarderReply around.decodes
          (around.received (around.pruntime (forwarderRequest worker.current method body))))) := by
  obtain ⟨plain, destination, path, connected, listens⟩ := located
  have url : "http://" ++ lw.hostname ++ ":" ++ toString lw.forwarderPort ++ "/" ++ method =
      "http://" ++ authority lw ++ "/" ++ method := by
    unfold authority
    simp only [String.append_assoc]
  unfold answer workerOutcome workerAnswer
  rw [forwarder_active found active]
  simp only [url, around.http.request_eq (authority lw) method plain, connected, Option.map_some,
    methodParam_pathBytes, listens, routedMethod_of_allowed allowed, forwarder_started started,
    if_pos allowed]
  rfl

/-- pRuntime answers every query with the same text. -/
def exampleSurroundings (worker : ServingWorker) : Surroundings :=
  { http := exampleHttp
    network := exampleNetwork worker
    pruntime := fun _ => .ok { status := 200, body := [1, 2, 3] }
    decodes := fun _ => false
    unrouted := fun _ => { status := 404, body := [] }
    receive := fun response => .ok response
    receive_ok := by
      intro sent received same
      cases same
      exact Or.inl rfl }

theorem getInfo_text_from_pruntime :
    ∃ manager state, localWorkerManager .release exampleUrlparse
        [.receivedKeepAlive (exampleKeepalive "0a" "http://10.0.0.2:1982")] = some manager ∧
      workerRun exampleProcess exampleServing = some state ∧
      answer (exampleSurroundings ⟨state.runtime, state.runtime⟩) manager.lwMap "0a" "GetInfo" [] =
        { status := 200, body := [1, 2, 3] } ∧
      ∃ lw, manager.lwMap["0a"]? = some lw ∧ lw.status = .active := by
  obtain ⟨manager, klw, state, broker, found, active, address, worker, started⟩ :=
    example_active_and_started
  have answered := @answer_started (exampleSurroundings ⟨state.runtime, state.runtime⟩)
    manager.lwMap "0a" "GetInfo" [] klw ⟨state.runtime, state.runtime⟩ found active
    (example_workerAt _ address) started (by decide)
  have text : answer (exampleSurroundings ⟨state.runtime, state.runtime⟩) manager.lwMap "0a"
      "GetInfo" [] = { status := 200, body := [1, 2, 3] } := answered
  obtain ⟨lw, _, _, _, present, isActive, _⟩ := answer_text_from_pruntime
    (exampleSurroundings ⟨state.runtime, state.runtime⟩) manager.lwMap "0a" "GetInfo" []
    (by rw [text]; decide)
  exact ⟨manager, state, broker, worker, text, lw, present, isActive⟩

end ServiceNetwork.Pipeline
