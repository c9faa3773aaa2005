/-
The worker's public forwarder.

A request reads the runtime twice, taking the lock anew each time: first the
status, then the prefix of the pRuntime address.  The status may have changed
in between, so the two reads are separate definitions.
-/

import ServiceNetwork.ServiceWorker.Runtime
import ServiceNetwork.Utils

namespace ServiceNetwork.ServiceWorker

def allowedMethods : List String := ["GetInfo", "ContractQuery"]

/-- The first read: the answer that ends the request, if it ends here. -/
def forwarderRefusal (status : WorkerRuntimeStatus) (method : String) : Option HttpResponse :=
  match status with
  | .started =>
      if allowedMethods.contains method then none else some { status := 404, body := [] }
  | _ => some { status := 502, body := [] }

/-- The second read: the request sent to pRuntime. -/
def forwarderRequest (wr : WorkerRuntime) (method : String) (body : Bytes) : HttpRequest :=
  { url := wr.pruntimeRpcPrefix ++ "/prpc/PhactoryAPI." ++ method
    contentType := contentTypeBin
    body := body }

/-- `checked` and `current` are the runtime at the first and the second read. -/
def forwarder (checked current : WorkerRuntime) (method : String) (body : Bytes) : Forwarding :=
  match forwarderRefusal checked.status method with
  | some response => .respond response
  | none => .send (forwarderRequest current method body)

/-- The answer to the caller once pRuntime has replied or failed to; a bad
request is passed on only if it carries a readable error. -/
def forwarderReply (decodes : Bytes → Bool) : Except String HttpResponse → HttpResponse
  | .ok response =>
      if response.status = 200 then response
      else if response.status = 400 then
        if decodes response.body then response else { status := 400, body := [] }
      else { status := response.status, body := [] }
  | .error _ => { status := 502, body := [] }

theorem forwarderRefusal_eq_none {status : WorkerRuntimeStatus} {method : String} :
    forwarderRefusal status method = none ↔ status = .started ∧ method ∈ allowedMethods := by
  unfold forwarderRefusal
  cases status with
  | started => simp
  | starting | waitingForBroker | pendingProvision | failed => simp

theorem forwarder_sends_iff (checked current : WorkerRuntime) (method : String) (body : Bytes)
    (request : HttpRequest) :
    forwarder checked current method body = .send request ↔
      checked.status = .started ∧ method ∈ allowedMethods ∧
        request = forwarderRequest current method body := by
  rw [← and_assoc, ← forwarderRefusal_eq_none]
  unfold forwarder
  cases forwarderRefusal checked.status method with
  | some response => simp
  | none => simp [eq_comm]

end ServiceNetwork.ServiceWorker
