/-
The HTTP vocabulary shared by the two forwarders, and how a process ends.
-/

import ServiceNetwork.Library.Joining
import ServiceNetwork.Rust

namespace ServiceNetwork

open ServiceNetwork.Joining

def contentTypeBin : String := "application/octet-stream"

structure HttpRequest where
  url : String
  contentType : String
  body : Bytes
  deriving DecidableEq, Repr

structure HttpResponse where
  status : Nat
  body : Bytes
  deriving DecidableEq, Repr

/-- What a forwarder does with one request: answer it, or send it on first. -/
inductive Forwarding where
  | respond (response : HttpResponse)
  | send (request : HttpRequest)
  deriving DecidableEq, Repr

/-- The exit code of the process, once it has one. -/
def joinHandles (handles : List Fate) : Option Nat :=
  match tryJoinAll handles with
  | .running => none
  | .ended => some 0
  | .panicked => some 100

theorem joinHandles_eq_failure {handles : List Fate} :
    joinHandles handles = some 100 ↔ tryJoinAll handles = .panicked := by
  unfold joinHandles
  cases tryJoinAll handles <;> simp

theorem joinHandles_eq_success {handles : List Fate} :
    joinHandles handles = some 0 ↔ tryJoinAll handles = .ended := by
  unfold joinHandles
  cases tryJoinAll handles <;> simp

end ServiceNetwork
