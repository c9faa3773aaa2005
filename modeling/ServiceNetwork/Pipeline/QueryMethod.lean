/-
The method of a query, from the broker's route to pRuntime.

The broker's forwarder writes the decoded method into the URL of the worker as
it is; the HTTP libraries read that URL again, the worker's router redirects a
slash at the end, and its route decodes what is left.  The libraries and the
network are arguments: of the URL only its standard's rules for the path are
assumed, of the redirect that the client follows it with the same request.
-/

import ServiceNetwork.Library.UrlPath
import ServiceNetwork.ServiceBroker.QueryForwarder
import ServiceNetwork.ServiceWorker.Provisioning

namespace ServiceNetwork.Pipeline

open ServiceNetwork.ServiceBroker
open ServiceNetwork.ServiceWorker
open ServiceNetwork.UrlPath

/-- None of the characters that end the authority of a URL. -/
def PlainAuthority (authority : String) : Prop :=
  ∀ byte ∈ asBytes authority, isSlash byte = false ∧ endsPath byte = false

/-- What is used of the HTTP libraries.  `request` is where the client connects
for a URL and the path it asks for there, `redirected` the one that it ends up
with; `methodParam` is the parameter that the route `/:method` and its extractor
find in a path. -/
structure HttpLibraries where
  request : String → Option (Bytes × Bytes)
  redirected : Bytes → Bytes
  methodParam : Bytes → Option String
  request_eq : ∀ authority text, PlainAuthority authority →
    request ("http://" ++ authority ++ "/" ++ text) =
      (request ("http://" ++ authority ++ "/")).map fun (destination, _) =>
        (destination, pathBytes (asBytes text))
  redirected_eq : ∀ path, singleSegment (redirected path) = singleSegment (followed path)
  methodParam_eq : ∀ path, methodParam path =
    (singleSegment path).bind fun segment => fromUtf8 (percentDecode segment)

/-- The runtime of a worker at the two moments its forwarder reads it. -/
structure ServingWorker where
  checked : WorkerRuntime
  current : WorkerRuntime

/-- The workers that listen at the destinations. -/
abbrev Network := Bytes → Option ServingWorker

/-- What one query leads to: the method the worker's forwarder is invoked with,
if it is, and the requests that pRuntime receives. -/
structure Delivery where
  invoked : Option String
  received : List HttpRequest
  deriving DecidableEq, Repr

def deliver (http : HttpLibraries) (network : Network) (lwMap : LocalWorkerMap)
    (prPublicKey method : String) (body : Bytes) : Delivery :=
  match ServiceBroker.forwarder lwMap prPublicKey method body with
  | .respond _ => { invoked := none, received := [] }
  | .send request =>
      match http.request request.url with
      | none => { invoked := none, received := [] }
      | some (destination, path) =>
          match network destination, http.methodParam (http.redirected path) with
          | some worker, some method =>
              match ServiceWorker.forwarder worker.checked worker.current method request.body with
              | .respond _ => { invoked := some method, received := [] }
              | .send request => { invoked := some method, received := [request] }
          | _, _ => { invoked := none, received := [] }

def authority (lw : KnownLocalWorker) : String :=
  lw.hostname ++ ":" ++ toString lw.forwarderPort

/-- The worker is the one that listens at the entry's address. -/
def WorkerAt (http : HttpLibraries) (network : Network) (lw : KnownLocalWorker)
    (worker : ServingWorker) : Prop :=
  PlainAuthority (authority lw) ∧ ∃ destination path,
    http.request ("http://" ++ authority lw ++ "/") = some (destination, path) ∧
    network destination = some worker

/-- The query reaches the worker's forwarder with its own method if at all, and
pRuntime receives exactly what that method allows. -/
structure MethodFaithful (lwMap : LocalWorkerMap) (worker : ServingWorker)
    (prPublicKey method : String) (body : Bytes) (delivery : Delivery) : Prop where
  served : (∃ lw, lwMap[prPublicKey]? = some lw ∧ lw.status = .active) →
    worker.checked.status = .started →
    (∀ invoked, delivery.invoked = some invoked → invoked = method) ∧
      delivery.received =
        if method ∈ allowedMethods then
          [{ url := worker.current.pruntimeRpcPrefix ++ "/prpc/PhactoryAPI." ++ method
             contentType := contentTypeBin
             body := body }]
        else []
  unserved : ¬ ((∃ lw, lwMap[prPublicKey]? = some lw ∧ lw.status = .active) ∧
    worker.checked.status = .started) → delivery.received = []

/-- The method as the worker's route reads it back from the URL. -/
def routedMethod (method : String) : Option String :=
  (segmentName (asBytes method)).bind fromUtf8

theorem routedMethod_eq_iff {method routed : String} (found : routedMethod method = some routed) :
    routed = method ↔ Verbatim (asBytes method) := by
  obtain ⟨name, named, read⟩ := Option.bind_eq_some_iff.mp found
  have bytes := asBytes_of_fromUtf8 read
  rw [← segmentName_eq_text_iff named, ← bytes]
  constructor
  · intro same
    rw [same]
  · intro same
    exact asBytes_injective same

theorem routedMethod_of_allowed {method : String} (allowed : method ∈ allowedMethods) :
    routedMethod method = some method := by
  have named : segmentName (asBytes method) = some (asBytes method) := by
    unfold allowedMethods at allowed
    rcases List.mem_cons.mp allowed with rfl | allowed
    · decide
    · rw [List.mem_singleton.mp allowed]
      decide
  unfold routedMethod
  rw [named]
  exact fromUtf8_asBytes method

example : segmentName (asBytes "GetInfo/") = some (asBytes "GetInfo") := by
  decide

theorem methodParam_pathBytes (http : HttpLibraries) (method : String) :
    http.methodParam (http.redirected (pathBytes (asBytes method))) = routedMethod method := by
  rw [http.methodParam_eq, http.redirected_eq]
  unfold routedMethod segmentName
  cases singleSegment (followed (pathBytes (asBytes method))) <;> rfl

theorem deliver_active {http : HttpLibraries} {network : Network} {lwMap : LocalWorkerMap}
    {prPublicKey : String} {lw : KnownLocalWorker} {worker : ServingWorker}
    (found : lwMap[prPublicKey]? = some lw) (active : lw.status = .active)
    (located : WorkerAt http network lw worker) (method : String) (body : Bytes) :
    deliver http network lwMap prPublicKey method body =
      match routedMethod method with
      | none => { invoked := none, received := [] }
      | some routed =>
          match ServiceWorker.forwarder worker.checked worker.current routed body with
          | .respond _ => { invoked := some routed, received := [] }
          | .send request => { invoked := some routed, received := [request] } := by
  obtain ⟨plain, destination, path, connected, listens⟩ := located
  have url : "http://" ++ lw.hostname ++ ":" ++ toString lw.forwarderPort ++ "/" ++ method =
      "http://" ++ authority lw ++ "/" ++ method := by
    unfold authority
    simp only [String.append_assoc]
  unfold deliver
  rw [forwarder_active found active]
  simp only [url, http.request_eq (authority lw) method plain, connected, Option.map_some,
    methodParam_pathBytes, listens]
  cases routedMethod method <;> rfl

theorem deliver_inactive {http : HttpLibraries} {network : Network} {lwMap : LocalWorkerMap}
    {prPublicKey : String}
    (inactive : ¬ ∃ lw, lwMap[prPublicKey]? = some lw ∧ lw.status = .active)
    (method : String) (body : Bytes) :
    deliver http network lwMap prPublicKey method body = { invoked := none, received := [] } := by
  obtain ⟨response, answered⟩ := forwarder_inactive
    (fun lw found active => inactive ⟨lw, found, active⟩) method body
  unfold deliver
  rw [answered]

theorem forwarder_started {checked current : WorkerRuntime} (started : checked.status = .started)
    (method : String) (body : Bytes) :
    ServiceWorker.forwarder checked current method body =
      if method ∈ allowedMethods then .send (forwarderRequest current method body)
      else .respond { status := 404, body := [] } := by
  unfold ServiceWorker.forwarder forwarderRefusal
  rw [started]
  by_cases allowed : method ∈ allowedMethods <;> simp [allowed]

theorem forwarder_not_started {checked current : WorkerRuntime}
    (notStarted : checked.status ≠ .started) (method : String) (body : Bytes) :
    ∃ response, ServiceWorker.forwarder checked current method body = .respond response := by
  cases answered : ServiceWorker.forwarder checked current method body with
  | respond response => exact ⟨response, rfl⟩
  | send request =>
      have started := ((forwarder_sends_iff checked current method body request).mp answered).1
      exact absurd started notStarted

theorem deliver_started {http : HttpLibraries} {network : Network} {lwMap : LocalWorkerMap}
    {prPublicKey : String} {lw : KnownLocalWorker} {worker : ServingWorker}
    (found : lwMap[prPublicKey]? = some lw) (active : lw.status = .active)
    (located : WorkerAt http network lw worker) (started : worker.checked.status = .started)
    (method : String) (body : Bytes) :
    deliver http network lwMap prPublicKey method body =
      match routedMethod method with
      | none => { invoked := none, received := [] }
      | some routed =>
          { invoked := some routed
            received :=
              if routed ∈ allowedMethods then [forwarderRequest worker.current routed body]
              else [] } := by
  rw [deliver_active found active located]
  cases routedMethod method with
  | none => rfl
  | some routed =>
      simp only [forwarder_started started]
      by_cases allowed : routed ∈ allowedMethods
      · simp only [if_pos allowed]
      · simp only [if_neg allowed]

/-- A query is faithful to its method exactly when it is not served at all, or
its method is verbatim, or no worker route matches what the URL makes of it. -/
theorem methodFaithful_iff {http : HttpLibraries} {network : Network} {lwMap : LocalWorkerMap}
    {prPublicKey : String} {worker : ServingWorker}
    (located : ∀ lw, lwMap[prPublicKey]? = some lw → lw.status = .active →
      WorkerAt http network lw worker) (method : String) (body : Bytes) :
    MethodFaithful lwMap worker prPublicKey method body
        (deliver http network lwMap prPublicKey method body) ↔
      ¬ (∃ lw, lwMap[prPublicKey]? = some lw ∧ lw.status = .active) ∨
        worker.checked.status ≠ .started ∨ Verbatim (asBytes method) ∨
        routedMethod method = none := by
  by_cases active : ∃ lw, lwMap[prPublicKey]? = some lw ∧ lw.status = .active
  · by_cases started : worker.checked.status = .started
    · obtain ⟨lw, found, isActive⟩ := active
      have delivered := deliver_started found isActive (located lw found isActive) started method
        body
      rw [delivered]
      constructor
      · intro faithful
        obtain ⟨own, _⟩ := faithful.served ⟨lw, found, isActive⟩ started
        cases routing : routedMethod method with
        | none => exact Or.inr (Or.inr (Or.inr rfl))
        | some routed =>
            rw [routing] at own
            have same := own routed rfl
            exact Or.inr (Or.inr (Or.inl ((routedMethod_eq_iff routing).mp same)))
      · intro condition
        refine ⟨?_, fun unserved => absurd ⟨⟨lw, found, isActive⟩, started⟩ unserved⟩
        intro _ _
        cases routing : routedMethod method with
        | none =>
            have refused : method ∉ allowedMethods := by
              intro allowed
              rw [routedMethod_of_allowed allowed] at routing
              cases routing
            rw [if_neg refused]
            exact ⟨by simp, rfl⟩
        | some routed =>
            have verbatim : Verbatim (asBytes method) := by
              rcases condition with inactive | notStarted | verbatim | unrouted
              · exact absurd ⟨lw, found, isActive⟩ inactive
              · exact absurd started notStarted
              · exact verbatim
              · rw [routing] at unrouted
                cases unrouted
            have same := (routedMethod_eq_iff routing).mpr verbatim
            rw [same]
            refine ⟨?_, rfl⟩
            intro invoked isInvoked
            exact (Option.some.inj isInvoked).symm
    · refine iff_of_true ⟨fun _ impossible => absurd impossible started, ?_⟩
        (Or.inr (Or.inl started))
      intro _
      obtain ⟨lw, found, isActive⟩ := active
      rw [deliver_active found isActive (located lw found isActive)]
      cases routedMethod method with
      | none => rfl
      | some routed =>
          obtain ⟨response, answered⟩ := @forwarder_not_started worker.checked worker.current
            started routed body
          simp only [answered]
  · rw [deliver_inactive active]
    exact iff_of_true ⟨fun impossible => absurd impossible active, fun _ => rfl⟩ (Or.inl active)

/-! ### A client that follows the rules -/

def endsAuthority (byte : UInt8) : Bool :=
  isSlash byte || endsPath byte

def exampleRequest (url : String) : Option (Bytes × Bytes) :=
  let scheme := asBytes "http://"
  if scheme.isPrefixOf (asBytes url) then
    let rest := (asBytes url).drop scheme.length
    let destination := rest.takeWhile fun byte => !endsAuthority byte
    match rest.dropWhile fun byte => !endsAuthority byte with
    | [] => some (destination, pathBytes [])
    | first :: text => some (destination, pathBytes (if isSlash first then text else []))
  else none

theorem exampleRequest_plain {authority : String} (plain : PlainAuthority authority)
    (text : String) :
    exampleRequest ("http://" ++ authority ++ "/" ++ text) =
      some (asBytes authority, pathBytes (asBytes text)) := by
  have within : ∀ byte ∈ asBytes authority, (!endsAuthority byte) = true := by
    intro byte member
    obtain ⟨noSlash, noEnd⟩ := plain byte member
    simp [endsAuthority, noSlash, noEnd]
  have bytes : asBytes ("http://" ++ authority ++ "/" ++ text) =
      asBytes "http://" ++ (asBytes authority ++ 0x2F :: asBytes text) := by
    simp only [asBytes_append, List.append_assoc]
    rfl
  have scheme : (asBytes "http://").isPrefixOf
      (asBytes "http://" ++ (asBytes authority ++ 0x2F :: asBytes text)) = true :=
    List.isPrefixOf_iff_prefix.mpr (List.prefix_append _ _)
  unfold exampleRequest
  simp only [bytes, scheme, if_true, List.drop_left, List.takeWhile_append_of_pos within,
    List.dropWhile_append_of_pos within]
  simp [endsAuthority, isSlash]

def exampleHttp : HttpLibraries :=
  { request := exampleRequest
    redirected := followed
    methodParam := fun path =>
      (singleSegment path).bind fun segment => fromUtf8 (percentDecode segment)
    request_eq := by
      intro authority text plain
      have base := exampleRequest_plain plain ""
      rw [String.append_empty] at base
      rw [exampleRequest_plain plain text, base]
      rfl
    redirected_eq := fun _ => rfl
    methodParam_eq := fun _ => rfl }

/-- One worker listens, at 10.0.0.2:1982. -/
def exampleNetwork (worker : ServingWorker) : Network := fun destination =>
  if destination = asBytes "10.0.0.2:1982" then some worker else none

theorem example_workerAt {lw : KnownLocalWorker} (worker : ServingWorker)
    (address : authority lw = "10.0.0.2:1982") :
    WorkerAt exampleHttp (exampleNetwork worker) lw worker := by
  have plain : PlainAuthority "10.0.0.2:1982" := by
    have all : (asBytes "10.0.0.2:1982").all
        (fun byte => !isSlash byte && !endsPath byte) = true := rfl
    intro byte member
    simpa using List.all_eq_true.mp all byte member
  unfold WorkerAt
  rw [address]
  refine ⟨plain, asBytes "10.0.0.2:1982", pathBytes [], ?_, if_pos rfl⟩
  have base := exampleRequest_plain plain ""
  rw [String.append_empty] at base
  exact base

/-- A table with one active entry, and the runtime of the worker behind it. -/
theorem example_active_and_started :
    ∃ manager klw state, localWorkerManager .release exampleUrlparse
        [.receivedKeepAlive (exampleKeepalive "0a" "http://10.0.0.2:1982")] = some manager ∧
      manager.lwMap["0a"]? = some klw ∧ klw.status = .active ∧
      authority klw = "10.0.0.2:1982" ∧
      workerRun exampleProcess exampleServing = some state ∧ state.runtime.status = .started :=
  ⟨_, _, _, rfl, rfl, rfl, rfl, rfl, rfl⟩

theorem getInfo_query_faithful :
    ∃ manager state, localWorkerManager .release exampleUrlparse
        [.receivedKeepAlive (exampleKeepalive "0a" "http://10.0.0.2:1982")] = some manager ∧
      workerRun exampleProcess exampleServing = some state ∧
      MethodFaithful manager.lwMap ⟨state.runtime, state.runtime⟩ "0a" "GetInfo" []
        (deliver exampleHttp (exampleNetwork ⟨state.runtime, state.runtime⟩) manager.lwMap "0a"
          "GetInfo" []) := by
  obtain ⟨manager, klw, state, broker, found, active, address, worker, started⟩ :=
    example_active_and_started
  refine ⟨manager, state, broker, worker, (methodFaithful_iff ?_ "GetInfo" []).mpr ?_⟩
  · intro lw foundHere _
    rw [found] at foundHere
    cases foundHere
    exact example_workerAt _ address
  · have routed := @routedMethod_of_allowed "GetInfo" (by decide)
    exact Or.inr (Or.inr (Or.inl ((routedMethod_eq_iff routed).mp rfl)))

/-- The text behind a question mark is lost on the way, and what is left is on
the list of allowed methods. -/
theorem query_with_question_mark_becomes_getInfo :
    ∃ manager state, localWorkerManager .release exampleUrlparse
        [.receivedKeepAlive (exampleKeepalive "0a" "http://10.0.0.2:1982")] = some manager ∧
      workerRun exampleProcess exampleServing = some state ∧
      "GetInfo?x" ∉ allowedMethods ∧
      deliver exampleHttp (exampleNetwork ⟨state.runtime, state.runtime⟩) manager.lwMap "0a"
          "GetInfo?x" [] =
        { invoked := some "GetInfo"
          received := [forwarderRequest state.runtime "GetInfo" []] } ∧
      ¬ MethodFaithful manager.lwMap ⟨state.runtime, state.runtime⟩ "0a" "GetInfo?x" []
        (deliver exampleHttp (exampleNetwork ⟨state.runtime, state.runtime⟩) manager.lwMap "0a"
          "GetInfo?x" []) := by
  obtain ⟨manager, klw, state, broker, found, active, address, worker, started⟩ :=
    example_active_and_started
  have named : segmentName (asBytes "GetInfo?x") = some (asBytes "GetInfo") := by decide
  have routed : routedMethod "GetInfo?x" = some "GetInfo" := by
    unfold routedMethod
    rw [named]
    exact fromUtf8_asBytes "GetInfo"
  have delivered := deliver_started found active (example_workerAt ⟨state.runtime, state.runtime⟩
    address) started "GetInfo?x" []
  rw [routed] at delivered
  simp only [if_pos (show "GetInfo" ∈ allowedMethods by decide)] at delivered
  refine ⟨manager, state, broker, worker, by decide, delivered, ?_⟩
  intro faithful
  have own := (faithful.served ⟨klw, found, active⟩ started).1
  rw [delivered] at own
  exact absurd (own "GetInfo" rfl) (by decide)

end ServiceNetwork.Pipeline
