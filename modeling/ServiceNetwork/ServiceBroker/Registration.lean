/-
The broker's announcement of itself.

`registerService` writes the configuration into the text properties of the
service and gives it the addresses of the interfaces.  The service daemon is
outside the repository; what a browser resolves has the same properties, and
the same addresses in some order.
-/

import ServiceNetwork.Config
import ServiceNetwork.Peer.Discovery
import ServiceNetwork.SocketAddr

namespace ServiceNetwork.ServiceBroker

open ServiceNetwork.Peer

/-- The properties, in the source's order. -/
def brokerProperties (config : PeerConfig) (broker : BrokerConfig) : List (String × String) :=
  [("in", config.common.instanceName),
    ("i", config.instanceId),
    ("c", toString broker.cost),
    ("mp", toString config.common.mgmtPort),
    ("oa", ",".intercalate broker.outboundBindAddresses),
    ("o", broker.inboundHttpServerAccessibleAddressPrefix)]

/-- The service that the daemon is given to announce. -/
def registerService (config : PeerConfig) (interfaces : List NetInterface) :
    Except Panic ServiceInfo := do
  let broker ← config.broker
  return {
    properties := brokerProperties config broker
    addresses := myIpv4Interfaces interfaces
    port := config.common.mgmtPort }

/-- What a browser resolves for a registered service. -/
structure Resolves (registered resolved : ServiceInfo) : Prop where
  properties : ∀ key, resolved.getProperty key = registered.getProperty key
  addresses : ∀ addr, addr ∈ resolved.addresses ↔ addr ∈ registered.addresses
  port : resolved.port = registered.port

theorem Resolves.refl (registered : ServiceInfo) : Resolves registered registered :=
  ⟨fun _ => rfl, fun _ => Iff.rfl, rfl⟩

theorem registerService_eq_ok {config : PeerConfig} {interfaces : List NetInterface}
    {registered : ServiceInfo} :
    registerService config interfaces = .ok registered ↔
      ∃ broker, config.broker = .ok broker ∧ registered =
        { properties := brokerProperties config broker
          addresses := myIpv4Interfaces interfaces
          port := config.common.mgmtPort } := by
  unfold registerService
  constructor
  · intro returned
    obtain ⟨broker, isBroker, returned⟩ := bind_eq_ok.mp returned
    cases returned
    exact ⟨broker, isBroker, rfl⟩
  · rintro ⟨broker, isBroker, rfl⟩
    rw [isBroker]
    rfl

theorem resolved_properties {config : PeerConfig} {broker : BrokerConfig}
    {interfaces : List NetInterface} {registered resolved : ServiceInfo}
    (isBroker : config.broker = .ok broker)
    (registers : registerService config interfaces = .ok registered)
    (resolves : Resolves registered resolved) :
    resolved.getProperty "in" = some config.common.instanceName ∧
      resolved.getProperty "i" = some config.instanceId ∧
      resolved.getProperty "c" = some (toString broker.cost) ∧
      resolved.getProperty "oa" = some (",".intercalate broker.outboundBindAddresses) := by
  obtain ⟨other, same, rfl⟩ := registerService_eq_ok.mp registers
  rw [isBroker] at same
  cases same
  simp only [resolves.properties]
  exact ⟨rfl, rfl, rfl, rfl⟩

theorem mem_resolved_addresses {config : PeerConfig} {interfaces : List NetInterface}
    {registered resolved : ServiceInfo}
    (registers : registerService config interfaces = .ok registered)
    (resolves : Resolves registered resolved) (addr : Ipv4Addr) :
    addr ∈ resolved.addresses ↔ addr ∈ myIpv4Interfaces interfaces := by
  obtain ⟨_, _, rfl⟩ := registerService_eq_ok.mp registers
  exact resolves.addresses addr

end ServiceNetwork.ServiceBroker
