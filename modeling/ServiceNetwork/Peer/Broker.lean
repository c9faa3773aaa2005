/-
Broker peers as the worker discovers them, and the choice of the best one.

A peer is stored behind a shared mutex, but nothing writes a stored peer again,
so the model keeps it by value.  The mDNS record is outside the repository: it
is its TXT properties, its port and its address set in iteration order.
-/

import Mathlib.Data.List.Sort
import ServiceNetwork.Rust

namespace ServiceNetwork.Peer

open Std

structure ServiceInfo where
  properties : List (String × String)
  addresses : List Ipv4Addr
  port : UInt16
  deriving DecidableEq, Repr

def ServiceInfo.getProperty (info : ServiceInfo) (key : String) : Option String :=
  info.properties.lookup key

inductive PeerStatus where
  | init
  | start
  | alive
  | aiding
  | dead
  deriving DecidableEq, Repr

structure BrokerPeer where
  cost : UInt8
  serviceInfo : ServiceInfo
  instanceName : String
  id : String
  status : PeerStatus
  mgmtAddr : String
  deriving DecidableEq, Repr

def BrokerPeer.new (cost : UInt8) (instanceName id : String) (serviceInfo : ServiceInfo)
    (mgmtAddr : String) : BrokerPeer :=
  { cost := cost
    instanceName := instanceName
    id := id
    serviceInfo := serviceInfo
    mgmtAddr := mgmtAddr
    status := .init }

def BrokerPeer.startLifeCheck (peer : BrokerPeer) : BrokerPeer :=
  { peer with status := .start }

structure BrokerPeerManager where
  map : TreeMap String BrokerPeer
  bestInstanceName : Option String

def BrokerPeerManager.new : BrokerPeerManager :=
  { map := ∅
    bestInstanceName := none }

/-- An announcement: the outer error is a panic, the inner one the `Err` that
the browser drops.  `atoi` is the third-party reader of the cost. -/
def BrokerPeerManager.updatePeerWithServiceInfo (atoi : String → Option UInt8)
    (manager : BrokerPeerManager) (serviceInfo : ServiceInfo) :
    Except Panic (Except String Unit × BrokerPeerManager) := do
  let instanceName ← unwrap (serviceInfo.getProperty "in")
  if instanceName.utf8ByteSize = 0 then
    return (.error "Invalid instance name", manager)
  let id ← unwrap (serviceInfo.getProperty "i")
  if id.utf8ByteSize = 0 then
    return (.error "Unexpected empty instance id", manager)
  let cost ← unwrap (serviceInfo.getProperty "c")
  match atoi cost with
  | none =>
      return (.error ("Peer candidate " ++ instanceName ++ ":" ++ id ++ " has invalid cost"),
        manager)
  | some cost =>
      let mgmtAddr ← unwrap serviceInfo.addresses.head?
      let mgmtAddr := "http://" ++ mgmtAddr.toString ++ ":" ++ toString serviceInfo.port
      if manager.map.contains instanceName then
        return (.ok (), manager)
      let newPeer := (BrokerPeer.new cost instanceName id serviceInfo mgmtAddr).startLifeCheck
      return (.ok (), { manager with map := manager.map.insert instanceName newPeer })

/-- Names and costs in map order, sorted by cost alone, the first name looked up
again as a key. -/
def BrokerPeerManager.getBestInstance (manager : BrokerPeerManager) :
    Except Panic (Option BrokerPeer) :=
  let values := manager.map.values
  if values.length = 0 then .ok none
  else
    let byCost := (values.map fun peer => (peer.instanceName, peer.cost)).insertionSort
      fun left right => left.2 ≤ right.2
    match byCost with
    | [] => .ok none
    | (name, _) :: _ => (unwrap manager.map[name]?).map some

def BrokerPeerManager.verifyBestInstance (manager : BrokerPeerManager) :
    Except Panic (Option BrokerPeer × BrokerPeerManager) := do
  match ← manager.getBestInstance with
  | some peer =>
      let _ ← unwrap (peer.serviceInfo.getProperty "oa")
      return (some peer, { manager with bestInstanceName := some peer.instanceName })
  | none => return (none, manager)

end ServiceNetwork.Peer
