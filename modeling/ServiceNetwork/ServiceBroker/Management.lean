/-
The broker's management interface: one broker process, the keepalive handler
and the identity it answers with.

The handler answers every identity it could read with the broker's own, under a
status that the worker never looks at; a body that it cannot read is answered
by the web framework.
-/

import ServiceNetwork.ServiceBroker.LocalWorker
import ServiceNetwork.ServiceBroker.Registration
import ServiceNetwork.Utils

namespace ServiceNetwork.ServiceBroker

open ServiceNetwork.Peer
open ServiceNetwork.Quoting

structure MyIdentity where
  instanceName : String
  instanceId : String
  deriving DecidableEq, Repr

/-- The JSON library on the answer to a keepalive, which the worker reads from
the bytes it received. -/
structure MyIdentityJson where
  write : MyIdentity → String
  read : Bytes → Except String MyIdentity
  read_write : ∀ identity, read (asBytes (write identity)) = .ok identity

/-- One start of a broker, with the service that it registered. -/
structure BrokerProcess where
  config : PeerConfig
  profile : BuildProfile
  urlparse : String → Uri
  interfaces : List NetInterface
  registered : ServiceInfo
  registers : registerService config interfaces = .ok registered

/-- The text that `startServer` shares with the handlers. -/
def BrokerProcess.myId (json : MyIdentityJson) (broker : BrokerProcess) : String :=
  json.write
    { instanceName := broker.config.common.instanceName
      instanceId := broker.config.instanceId }

/-- The message to the manager, and the answer. -/
def handleKeepalive (myId : String) (lwi : LocalWorkerIdentity) :
    LocalWorkerManagerChannelMessage × HttpResponse :=
  (.receivedKeepAlive lwi, { status := 418, body := asBytes myId })

/-- The URLs under which the keepalive handler is reached from other hosts: the
management port is bound on every interface. -/
def BrokerProcess.keepaliveUrls (broker : BrokerProcess) : List String :=
  (myIpv4Interfaces broker.interfaces).map fun addr =>
    "http://" ++ addr.toString ++ ":" ++ toString broker.config.common.mgmtPort ++
      rV0LocalWorkerKeepalive

/-- A peer that a worker read from what it resolved of a broker is that broker:
its name, its id and a management address that it serves. -/
theorem announcedPeer_of_resolved {atoi : String → Option UInt8} {broker : BrokerProcess}
    {resolved : ServiceInfo} {peer : BrokerPeer} (resolves : Resolves broker.registered resolved)
    (announced : announcedPeer atoi resolved = some peer) :
    peer.instanceName = broker.config.common.instanceName ∧
      peer.id = broker.config.instanceId ∧
      peer.mgmtAddr ++ rV0LocalWorkerKeepalive ∈ broker.keepaliveUrls := by
  obtain ⟨config, isBroker, registered⟩ := registerService_eq_ok.mp broker.registers
  obtain ⟨name, id, _, _⟩ := resolved_properties isBroker broker.registers resolves
  have members := mem_resolved_addresses broker.registers resolves
  have port : resolved.port = broker.config.common.mgmtPort := by
    rw [resolves.port, registered]
  obtain ⟨readName, readId, costText, cost, addr, rest, named, _, identified, _, _, _, addresses,
    described⟩ := announcedPeer_eq_some announced
  rw [name] at named
  rw [id] at identified
  cases named
  cases identified
  rw [described]
  refine ⟨rfl, rfl, List.mem_map.mpr ⟨addr, ?_, ?_⟩⟩
  · rw [← members, addresses]
    exact List.mem_cons_self
  · rw [← port]
    rfl

/-! ### The answer, for texts without control characters -/

def plainMyIdentity (identity : MyIdentity) : List Char :=
  jsonField "\x7b" "instance_name" ++ (quoted identity.instanceName.toList ++
    (jsonField "," "instance_id" ++ (quoted identity.instanceId.toList ++ ['\x7d'])))

def readPlainMyIdentity (input : List Char) : Option MyIdentity := do
  let input ← expect (jsonField "\x7b" "instance_name") input
  let (instanceName, input) ← readQuoted input
  let input ← expect (jsonField "," "instance_id") input
  let (instanceId, _) ← readQuoted input
  return {
    instanceName := String.ofList instanceName
    instanceId := String.ofList instanceId }

theorem readPlainMyIdentity_plainMyIdentity (identity : MyIdentity) :
    readPlainMyIdentity (plainMyIdentity identity) = some identity := by
  simp only [readPlainMyIdentity, plainMyIdentity, expect_append, readQuoted_quoted,
    Option.bind_eq_bind, Option.bind_some, String.ofList_toList]
  rfl

def plainMyIdentityJson : MyIdentityJson :=
  { write := fun identity => String.ofList (plainMyIdentity identity)
    read := fun bytes =>
      match (fromUtf8 bytes).bind fun text => readPlainMyIdentity text.toList with
      | some identity => .ok identity
      | none => .error "error decoding response body"
    read_write := by
      intro identity
      rw [fromUtf8_asBytes, Option.bind_some, String.toList_ofList,
        readPlainMyIdentity_plainMyIdentity] }

end ServiceNetwork.ServiceBroker
