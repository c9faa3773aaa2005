/-
The forwarder address, from the socket address the worker binds to the host and
the port in the broker's table.

Three readers take the same text.  The forwarder parses a socket address, the
lock cuts the text at its colons, and the broker parses a URL.  They agree
exactly on IPv4 with a port of its own: the second colon of an IPv6 address ends
the lock's port, and for port 0 the system binds a port that the text lacks.
-/

import ServiceNetwork.ServiceBroker.LocalWorker
import ServiceNetwork.ServiceWorker.NetworkData
import ServiceNetwork.SocketAddr

namespace ServiceNetwork.Pipeline

open Std
open ServiceNetwork.Numeral
open ServiceNetwork.Peer
open ServiceNetwork.ServiceBroker
open ServiceNetwork.ServiceWorker
open ServiceNetwork.Sweep

/-- The URL parser takes `host:port` apart for a dotted host and a decimal port
other than 0, for which it may name none but no other port; and the host it
names for an ASCII authority is a part of it, up to letter case. -/
structure SplitsAuthority (urlparse : String → Uri) : Prop where
  dotted : ∀ (ip : Ipv4Addr) (portText : String) (port : UInt16), IsPortText portText port →
    port ≠ 0 → urlparse ("http://" ++ (ip.toString ++ ":" ++ portText)) =
      { hostname := some ip.toString, port := some port }
  zero : ∀ (ip : Ipv4Addr) (portText : String) (port : UInt16), IsPortText portText 0 →
    (urlparse ("http://" ++ (ip.toString ++ ":" ++ portText))).port = some port → port = 0
  part : ∀ authority hostname, (∀ character ∈ authority.toList, character.toNat < 128) →
    (urlparse ("http://" ++ authority)).hostname = some hostname →
      hostname.toList <:+: authority.toList ∨
        hostname.toList <:+: authority.toList.map Char.toLower

/-- The host reaches what is bound: the address, or the first interface when the
address is unspecified. -/
def Reaches (interfaces : List Ipv4Addr) (host : String) (ip : IpAddr) : Prop :=
  if ip.isUnspecified then ∃ first rest, interfaces = first :: rest ∧ host = first.toString
  else NamesIp host ip

/-- The port that the system binds for an address: its own, or for port 0 one
that the system chooses. -/
def Binds (addr : SocketAddr) (boundPort : UInt16) : Prop :=
  if addr.port = 0 then boundPort ≠ 0 else boundPort = addr.port

/-- A lock sends an address that the broker's table then has as the bound port
and a host that reaches what is bound. -/
def RoundTrips (process : WorkerProcess) (outside : Outside) (urlparse : String → Uri)
    (wr : WorkerRuntime) (peer : BrokerPeer) (addr : SocketAddr) (boundPort : UInt16) : Prop :=
  ∃ identity, wr.keepaliveIdentity process outside peer = .ok identity ∧
    ∀ lwMap, ∃ manager notices lw,
      createLocalWorker urlparse lwMap identity = .ok (manager, notices) ∧
      manager.lwMap[identity.publicKey]? = some lw ∧
      lw.forwarderPort = boundPort ∧ Reaches outside.interfaces lw.hostname addr.ip

variable {process : WorkerProcess} {outside : Outside} {urlparse : String → Uri}

theorem createLocalWorker_of_parsed (identity : LocalWorkerIdentity) {hostname : String}
    {port : UInt16}
    (parsed : urlparse identity.addressString =
      { hostname := some hostname, port := some port }) (lwMap : LocalWorkerMap) :
    ∃ manager notices lw, createLocalWorker urlparse lwMap identity = .ok (manager, notices) ∧
      manager.lwMap[identity.publicKey]? = some lw ∧ lw.forwarderPort = port ∧
      lw.hostname = hostname := by
  unfold createLocalWorker
  rw [parsed]
  exact ⟨_, _, _, rfl, getElem?_insert_self _ _ _, rfl, rfl⟩

theorem createLocalWorker_stored {identity : LocalWorkerIdentity} {lwMap : LocalWorkerMap}
    {manager : LocalWorkerManager} {notices : List Notice} {lw : KnownLocalWorker}
    (created : createLocalWorker urlparse lwMap identity = .ok (manager, notices))
    (stored : manager.lwMap[identity.publicKey]? = some lw) :
    (urlparse identity.addressString).hostname = some lw.hostname ∧
      (urlparse identity.addressString).port = some lw.forwarderPort := by
  obtain ⟨hostname, host, created⟩ := bind_eq_ok.mp created
  obtain ⟨forwarderPort, port, created⟩ := bind_eq_ok.mp created
  cases created
  change (lwMap.insert _ _)[_]? = _ at stored
  rw [getElem?_insert_self] at stored
  cases stored
  exact ⟨(unwrap_eq_ok _ _).mp host, (unwrap_eq_ok _ _).mp port⟩

/-- The sent address of a text cut at its first two colons. -/
theorem forwarderAddress_of_pieces {localWorker : LocalWorkerConfig} {interfaces : List Ipv4Addr}
    {first host port concrete : String} {rest pieces : List String}
    (binds : localWorker.forwarderBindAddresses = first :: rest)
    (cut : splitChar ':' first = host :: port :: pieces)
    (chosen : concreteHost interfaces host = .ok concrete) :
    forwarderAddress localWorker interfaces = .ok ("http://" ++ (concrete ++ ":" ++ port)) := by
  unfold forwarderAddress
  rw [binds]
  simp only [List.head?_cons, unwrap_some, bind, Except.bind, cut, List.getElem?_cons_succ,
    List.getElem?_cons_zero, chosen]
  simp [pure, Except.pure, String.append_assoc]

/-! ### IPv4 -/

theorem unspecified_v4 (ip : Ipv4Addr) :
    (IpAddr.v4 ip).isUnspecified = true ↔ ip.toString = "0.0.0.0" := by
  have zeros : (⟨0, 0, 0, 0⟩ : Ipv4Addr).toString = "0.0.0.0" := by decide
  simp only [IpAddr.isUnspecified, beq_iff_eq]
  constructor
  · rintro rfl
    exact zeros
  · intro same
    exact Ipv4Addr.toString_injective (same.trans zeros.symm)

/-- What a lock sends for an IPv4 address: its port text behind a host that
reaches what is bound. -/
theorem forwarderAddress_of_v4 {localWorker : LocalWorkerConfig} {interfaces : List Ipv4Addr}
    {first : String} {rest : List String}
    (binds : localWorker.forwarderBindAddresses = first :: rest) {addr : SocketAddr}
    {ip : Ipv4Addr} (accepted : SocketAddr.parse first = some addr) (isV4 : addr.ip = .v4 ip)
    (reachable : interfaces ≠ []) :
    ∃ (host : Ipv4Addr) (portText : String), IsPortText portText addr.port ∧
      forwarderAddress localWorker interfaces =
        .ok ("http://" ++ (host.toString ++ ":" ++ portText)) ∧
      Reaches interfaces host.toString addr.ip := by
  obtain ⟨portText, isPort, split⟩ := parse_v4_sound accepted isV4
  have cut : splitChar ':' first = [ip.toString, portText] := by
    rw [split]
    exact (splitChar_append ip.noColon portText).trans
      (by rw [splitChar_of_absent (isPort.absent (by decide))])
  have hosted : ∃ host : Ipv4Addr, concreteHost interfaces ip.toString = .ok host.toString ∧
      Reaches interfaces host.toString addr.ip := by
    unfold concreteHost Reaches
    rw [isV4]
    by_cases unspecified : ip.toString = "0.0.0.0"
    · simp only [if_pos unspecified, if_pos ((unspecified_v4 ip).mpr unspecified)]
      obtain ⟨interface, others, same⟩ := List.exists_cons_of_ne_nil reachable
      rw [same]
      exact ⟨interface, rfl, interface, others, rfl, rfl⟩
    · simp only [if_neg unspecified, if_neg (mt (unspecified_v4 ip).mp unspecified)]
      exact ⟨ip, rfl, rfl⟩
  obtain ⟨host, chosen, reaches⟩ := hosted
  exact ⟨host, portText, isPort, forwarderAddress_of_pieces binds cut chosen, reaches⟩

theorem roundTrips_of_v4 (splits : SplitsAuthority urlparse) {first : String} {rest : List String}
    (binds : process.localWorker.forwarderBindAddresses = first :: rest) {addr : SocketAddr}
    {ip : Ipv4Addr} (accepted : SocketAddr.parse first = some addr) (isV4 : addr.ip = .v4 ip)
    (own : addr.port ≠ 0) (reachable : outside.interfaces ≠ []) {wr : WorkerRuntime}
    (known : DataKnown wr) (peer : BrokerPeer) :
    RoundTrips process outside urlparse wr peer addr addr.port := by
  obtain ⟨host, portText, isPort, addressed, reaches⟩ :=
    forwarderAddress_of_v4 binds accepted isV4 reachable
  obtain ⟨⟨config, rpcPort, configAt, portAt⟩, publicKey, keyAt⟩ := known
  let identity : LocalWorkerIdentity :=
    { instanceName := peer.instanceName
      instanceId := peer.id
      addressString := "http://" ++ (host.toString ++ ":" ++ portText)
      publicPort := rpcPort.toUInt16
      publicKey := publicKey }
  refine ⟨identity, keepaliveIdentity_eq_ok.mpr
    ⟨config, rpcPort, publicKey, _, configAt, portAt, keyAt, addressed, rfl⟩, ?_⟩
  intro lwMap
  obtain ⟨manager, notices, lw, created, stored, port, hostname⟩ :=
    createLocalWorker_of_parsed identity (splits.dotted host portText addr.port isPort own) lwMap
  refine ⟨manager, notices, lw, created, stored, port, ?_⟩
  rw [hostname]
  exact reaches

/-- Port 0 is no port that is bound. -/
theorem not_roundTrips_of_zero (splits : SplitsAuthority urlparse) {first : String}
    {rest : List String} (binds : process.localWorker.forwarderBindAddresses = first :: rest)
    {addr : SocketAddr} {ip : Ipv4Addr} (accepted : SocketAddr.parse first = some addr)
    (isV4 : addr.ip = .v4 ip) (zero : addr.port = 0) {boundPort : UInt16}
    (bound : boundPort ≠ 0) (reachable : outside.interfaces ≠ []) (wr : WorkerRuntime)
    (peer : BrokerPeer) :
    ¬ RoundTrips process outside urlparse wr peer addr boundPort := by
  obtain ⟨host, portText, isPort, addressed, _⟩ :=
    forwarderAddress_of_v4 binds accepted isV4 reachable
  rintro ⟨identity, built, roundTrips⟩
  obtain ⟨manager, notices, lw, created, stored, same, _⟩ := roundTrips ∅
  obtain ⟨_, _, _, address, _, _, _, sent, rfl⟩ := keepaliveIdentity_eq_ok.mp built
  rw [addressed] at sent
  cases sent
  rw [zero] at isPort
  have named := splits.zero host portText _ isPort (createLocalWorker_stored created stored).2
  exact bound (same.symm.trans named)

/-! ### IPv6 -/

theorem toLower_eq_iff {character : Char} (low : character.toNat < 65) (other : Char) :
    other.toLower = character ↔ other = character := by
  unfold Char.toLower
  split
  · rename_i upper
    have atLeast : 65 ≤ other.toNat := UInt32.le_iff_toNat_le.mp upper.1
    have atMost : other.toNat ≤ 90 := UInt32.le_iff_toNat_le.mp upper.2
    refine iff_of_false ?_ ?_
    · rintro rfl
      have moved : (other.val + ('a'.val - 'A'.val)).toNat = other.toNat + 32 := by
        rw [UInt32.toNat_add]
        exact Nat.mod_eq_of_lt (by change other.toNat + 32 < 4294967296; omega)
      change (other.val + ('a'.val - 'A'.val)).toNat < 65 at low
      omega
    · rintro rfl
      omega
  · exact Iff.rfl

theorem count_toLower {character : Char} (low : character.toNat < 65) (text : List Char) :
    (text.map Char.toLower).count character = text.count character := by
  induction text with
  | nil => rfl
  | cons other rest ih =>
      rw [List.map_cons, List.count_cons, List.count_cons, ih]
      simp only [beq_iff_eq, toLower_eq_iff low]

/-- A part of an authority has no more of such a character. -/
theorem count_of_part {hostname authority : List Char} {character : Char}
    (low : character.toNat < 65)
    (part : hostname <:+: authority ∨ hostname <:+: authority.map Char.toLower) :
    hostname.count character ≤ authority.count character := by
  rcases part with part | part
  · exact part.sublist.count_le character
  · have bound := part.sublist.count_le character
    rw [count_toLower low] at bound
    exact bound

/-- No part of an authority with one colon and no dot names an IPv6 address or an
interface. -/
theorem not_reaches_v6 {interfaces : List Ipv4Addr} {host : String} {ip : Ipv6Addr}
    {authority : List Char} (colons : authority.count ':' = 1) (dots : authority.count '.' = 0)
    (part : host.toList <:+: authority ∨ host.toList <:+: authority.map Char.toLower) :
    ¬ Reaches interfaces host (.v6 ip) := by
  intro reaches
  unfold Reaches at reaches
  split at reaches
  · obtain ⟨interface, _, _, rfl⟩ := reaches
    have dot := List.count_pos_iff.mpr interface.dot_mem_toString
    have bound := count_of_part (by decide : '.'.toNat < 65) part
    omega
  · have two := NamesIp.colons reaches
    have bound := count_of_part (by decide : ':'.toNat < 65) part
    omega

theorem not_roundTrips_of_v6 (splits : SplitsAuthority urlparse) {first : String}
    {rest : List String} (binds : process.localWorker.forwarderBindAddresses = first :: rest)
    {addr : SocketAddr} {ip : Ipv6Addr} (accepted : SocketAddr.parse first = some addr)
    (isV6 : addr.ip = .v6 ip) (wr : WorkerRuntime) (peer : BrokerPeer) (boundPort : UInt16) :
    ¬ RoundTrips process outside urlparse wr peer addr boundPort := by
  obtain ⟨host, port, after, split, ⟨hostColon, hostDot⟩, portColon, portDot⟩ :=
    parse_v6_cut accepted isV6
  have cut : splitChar ':' first = host :: port :: splitChar ':' after := by
    rw [split]
    exact (splitChar_append hostColon _).trans
      (congrArg (host :: ·) (splitChar_append portColon _))
  have chosen : concreteHost outside.interfaces host = .ok host := by
    refine if_neg ?_
    rintro rfl
    exact absurd hostDot (by decide)
  have addressed := forwarderAddress_of_pieces binds cut chosen
  rintro ⟨identity, built, roundTrips⟩
  obtain ⟨manager, notices, lw, created, stored, _, reaches⟩ := roundTrips ∅
  obtain ⟨_, _, _, address, _, _, _, sent, rfl⟩ := keepaliveIdentity_eq_ok.mp built
  rw [addressed] at sent
  cases sent
  have ascii : ∀ character ∈ (host ++ ":" ++ port).toList, character.toNat < 128 := by
    intro character member
    refine isAddressCharacter_ascii (parse_characters accepted character ?_)
    simp only [split, String.toList_append, List.mem_append] at member ⊢
    tauto
  have part := splits.part _ _ ascii (createLocalWorker_stored created stored).1
  rw [isV6] at reaches
  have colonCount : (host ++ ":" ++ port).toList.count ':' = 1 := by
    simp [List.count_eq_zero.mpr hostColon, List.count_eq_zero.mpr portColon]
  have dotCount : (host ++ ":" ++ port).toList.count '.' = 0 := by
    simp [List.count_eq_zero.mpr hostDot, List.count_eq_zero.mpr portDot]
  exact not_reaches_v6 colonCount dotCount part reaches

/-- The address of any lock reaches the broker's table as what the forwarder
binds exactly when the bound address is IPv4 and has a port of its own. -/
theorem forwarderAddress_roundTrips_iff (process : WorkerProcess) (outside : Outside)
    (urlparse : String → Uri) (splits : SplitsAuthority urlparse) (first : String)
    (rest : List String) (binds : process.localWorker.forwarderBindAddresses = first :: rest)
    (addr : SocketAddr) (accepted : SocketAddr.parse first = some addr) (boundPort : UInt16)
    (bound : Binds addr boundPort) (interfaces : List NetInterface)
    (mine : outside.interfaces = myIpv4Interfaces interfaces)
    (reachable : myIpv4Interfaces interfaces ≠ []) (wr : WorkerRuntime) (known : DataKnown wr)
    (peer : BrokerPeer) :
    RoundTrips process outside urlparse wr peer addr boundPort ↔
      (∃ ip, addr.ip = .v4 ip) ∧ addr.port ≠ 0 := by
  rw [← mine] at reachable
  unfold Binds at bound
  constructor
  · intro roundTrips
    cases version : addr.ip with
    | v4 ip =>
        refine ⟨⟨ip, rfl⟩, ?_⟩
        intro zero
        rw [if_pos zero] at bound
        exact not_roundTrips_of_zero splits binds accepted version zero bound reachable wr peer
          roundTrips
    | v6 ip =>
        exact absurd roundTrips
          (not_roundTrips_of_v6 splits binds accepted version wr peer boundPort)
  · rintro ⟨⟨ip, isV4⟩, own⟩
    rw [if_neg own] at bound
    rw [bound]
    exact roundTrips_of_v4 splits binds accepted isV4 own reachable known peer

/-! ### A concrete URL parser and fixed addresses -/

/-- Host and port of `http://host:port`; 0 is no port. -/
def splitHostPort (text : String) : Uri :=
  match splitChar ':' (String.ofList (text.toList.drop 7)) with
  | host :: portText :: _ =>
      { hostname := some host
        port :=
          ((readNumber portFormat portText.toList).map fun (port, _) => UInt16.ofNat port).filter
            fun port => port != 0 }
  | [host] => { hostname := some host, port := none }
  | [] => { hostname := none, port := none }

theorem splitHostPort_splitsAuthority : SplitsAuthority splitHostPort := by
  have dropped : ∀ authority : String,
      String.ofList (("http://" ++ authority).toList.drop 7) = authority := by
    intro authority
    apply String.toList_inj.mp
    simp
  have cut : ∀ (ip : Ipv4Addr) {portText : String} {port : UInt16}, IsPortText portText port →
      splitChar ':' (ip.toString ++ ":" ++ portText) = [ip.toString, portText] := by
    intro ip portText port isPort
    exact (splitChar_append ip.noColon portText).trans
      (by rw [splitChar_of_absent (isPort.absent (by decide))])
  constructor
  · intro ip portText port isPort own
    unfold splitHostPort
    rw [dropped, cut ip isPort]
    simp [isPort.read, own]
  · intro ip portText port isPort named
    unfold splitHostPort at named
    rw [dropped, cut ip isPort] at named
    simp [isPort.read] at named
    exact named.1.symm
  · intro authority hostname _ named
    left
    unfold splitHostPort at named
    rw [dropped] at named
    split at named
    · rename_i host portText later cut
      cases named
      exact (splitChar_head cut).isInfix
    · rename_i host cut
      cases named
      exact (splitChar_head cut).isInfix
    · cases named

def exampleInterfaces : List NetInterface :=
  [⟨.v4 ⟨127, 0, 0, 1⟩⟩, ⟨.v6 ⟨#v[0xfe80, 0, 0, 0, 0, 0, 0, 1]⟩⟩, ⟨.v4 ⟨10, 0, 0, 2⟩⟩]

def exampleKnown : WorkerRuntime :=
  { WorkerRuntime.new with
    networkStatus := some { publicRpcPort := some 8001 }
    publicKey := some "0a" }

def examplePeer : BrokerPeer :=
  BrokerPeer.new 10 "broker" "b1" exampleBroker "http://10.0.0.1:1919"

theorem exampleKnown_known : DataKnown exampleKnown :=
  ⟨⟨_, _, rfl, rfl⟩, _, rfl⟩

theorem exampleProcess_roundTrips :
    RoundTrips exampleProcess exampleOutside splitHostPort exampleKnown examplePeer
      ⟨.v4 ⟨10, 0, 0, 2⟩, 1982⟩ 1982 :=
  (forwarderAddress_roundTrips_iff exampleProcess exampleOutside splitHostPort
    splitHostPort_splitsAuthority "10.0.0.2:1982" [] rfl ⟨.v4 ⟨10, 0, 0, 2⟩, 1982⟩ (by decide)
    1982 rfl exampleInterfaces rfl (by decide) exampleKnown exampleKnown_known examplePeer).mpr
    ⟨⟨_, rfl⟩, by decide⟩

/-- The process of a worker whose forwarder binds the IPv6 loopback address. -/
def loopbackProcess : WorkerProcess :=
  { exampleProcess with
    config :=
      { exampleProcess.config with
        role := .prLocalWorker
          (some { exampleLocalWorker with forwarderBindAddresses := ["[::1]:1982"] }) }
    localWorker := { exampleLocalWorker with forwarderBindAddresses := ["[::1]:1982"] }
    built := ⟨"w1", .ok exampleProcess.config.common, .error "", rfl⟩ }

/-- The forwarder accepts the address, and the keepalive says `http://[:`. -/
theorem loopbackProcess_not_roundTrips :
    SocketAddr.parse "[::1]:1982" = some ⟨.v6 ⟨#v[0, 0, 0, 0, 0, 0, 0, 1]⟩, 1982⟩ ∧
    forwarderAddress loopbackProcess.localWorker exampleOutside.interfaces = .ok "http://[:" ∧
    ¬ RoundTrips loopbackProcess exampleOutside splitHostPort exampleKnown examplePeer
        ⟨.v6 ⟨#v[0, 0, 0, 0, 0, 0, 0, 1]⟩, 1982⟩ 1982 := by
  have parsed : SocketAddr.parse "[::1]:1982" =
      some ⟨.v6 ⟨#v[0, 0, 0, 0, 0, 0, 0, 1]⟩, 1982⟩ := by decide
  refine ⟨parsed, by decide, ?_⟩
  exact not_roundTrips_of_v6 splitHostPort_splitsAuthority rfl parsed rfl exampleKnown examplePeer
    1982

end ServiceNetwork.Pipeline
