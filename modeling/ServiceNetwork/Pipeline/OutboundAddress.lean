/-
The outbound address, from the list a broker binds to the proxy a worker gives
its pRuntime.

The broker joins the list with commas.  The worker takes the first item and
what stands before and after its first colon, which is the host and the port
unless the host is an IPv6 address.
-/

import ServiceNetwork.Pipeline.ForwarderAddress
import ServiceNetwork.ServiceBroker.Registration
import ServiceNetwork.ServiceWorker.OutboundProxy

namespace ServiceNetwork.Pipeline

open ServiceNetwork.Numeral
open ServiceNetwork.Peer
open ServiceNetwork.ServiceBroker
open ServiceNetwork.ServiceWorker

/-- A host name has no colon, no comma and no white space. -/
def IsHostName (name : String) : Prop :=
  ∀ character ∈ name.toList, character ≠ ':' ∧ character ≠ ',' ∧ isWhiteSpace character = false

def IsBindHost : BindHost → Prop
  | .ip _ => True
  | .name name => IsHostName name

/-- The text is the host, or an announced address when the host is the
unspecified address. -/
def ServesAs (announced : List Ipv4Addr) (text : String) : BindHost → Prop
  | .ip ip =>
      if ip.isUnspecified then ∃ addr ∈ announced, text = addr.toString else NamesIp text ip
  | .name name => text = name

/-- The decoding of the peer's announcement names the host, and the port as the
item does. -/
def DecodesTo (announced : List Ipv4Addr) (peer : BrokerPeer) (item : String) (host : BindHost)
    (port : UInt16) : Prop :=
  ∃ hostText portText,
    outboundProxy peer = .ok ("socks5://" ++ hostText ++ ":" ++ portText) ∧
    ServesAs announced hostText host ∧ parseU16 portText = some port ∧
    ":".toList ++ portText.toList <:+ item.toList

/-! ### The first item of a joined list -/

theorem splitChar_join {item : String} (noComma : ',' ∉ item.toList) (rest : List String) :
    (splitChar ',' (",".intercalate (item :: rest))).headD "" = item := by
  cases rest with
  | nil =>
      rw [String.intercalate_singleton, splitChar_of_absent noComma]
      rfl
  | cons next others =>
      rw [String.intercalate_cons_cons]
      exact congrArg (·.headD "") (splitChar_append noComma _)

/-- An item without commas and white space is read back from the front of any
list. -/
theorem firstItem_join {item : String}
    (plain : ∀ character ∈ item.toList, character ≠ ',' ∧ isWhiteSpace character = false)
    (rest : List String) : firstItem (",".intercalate (item :: rest)) = item := by
  have noComma : ',' ∉ item.toList := fun member => (plain ',' member).1 rfl
  unfold firstItem
  rw [splitChar_join noComma]
  exact trim_of_plain fun character member => (plain character member).2

theorem plain_of_code {character : Char} (least : 45 ≤ character.toNat)
    (most : character.toNat < 128) : character ≠ ',' ∧ isWhiteSpace character = false := by
  constructor
  · rintro rfl
    exact absurd least (by decide)
  · simp only [isWhiteSpace, Bool.or_eq_false_iff, Bool.and_eq_false_iff, decide_eq_false_iff_not,
      beq_eq_false_iff_ne]
    omega

theorem plain_of_isDigit {character : Char} (digit : character.isDigit = true) :
    character ≠ ',' ∧ isWhiteSpace character = false := by
  obtain ⟨least, most⟩ := code_of_isDigitIn (by decide) (isDigitIn_ten digit)
  exact plain_of_code (by omega) most

theorem plain_of_isAddressCharacter {character : Char}
    (allowed : isAddressCharacter character = true) :
    character ≠ ',' ∧ isWhiteSpace character = false := by
  rcases Bool.or_eq_true_iff.mp allowed with hex | listed
  · obtain ⟨least, most⟩ := code_of_isDigitIn (by decide) hex
    exact plain_of_code (by omega) most
  · have member := of_decide_eq_true listed
    simp only [List.mem_cons, List.not_mem_nil, or_false] at member
    rcases member with rfl | rfl | rfl | rfl | rfl <;> decide

/-- The items that can be bound are read back from the front of any list. -/
theorem firstItem_of_shape {address : String} {host : BindHost} {port : UInt16}
    (shape : BindShape address host port) (proper : IsBindHost host) (rest : List String) :
    firstItem (",".intercalate (address :: rest)) = address := by
  have portPlain : ∀ {portText}, parseU16 portText = some port →
      ∀ character ∈ portText.toList, character ≠ ',' ∧ isWhiteSpace character = false := by
    intro portText parsed character member
    rcases parseU16_characters parsed character member with rfl | digit
    · decide
    · exact plain_of_isDigit digit
  have colonPlain : ∀ character ∈ ":".toList, character ≠ ',' ∧ isWhiteSpace character = false := by
    intro character member
    cases List.mem_singleton.mp member
    decide
  apply firstItem_join
  intro character member
  cases shape with
  | v4 ip portText port parsed =>
      simp only [String.toList_append, List.mem_append] at member
      rcases member with (inIp | colon) | inPort
      · rcases ip.mem_toString inIp with digit | rfl
        · exact plain_of_isDigit digit
        · decide
      · exact colonPlain character colon
      · exact portPlain parsed character inPort
  | v6 address ip port parsed =>
      exact plain_of_isAddressCharacter (parse_characters parsed character member)
  | name name portText port parsed notUnspecified =>
      simp only [String.toList_append, List.mem_append] at member
      rcases member with (inName | colon) | inPort
      · exact (proper character inName).2
      · exact colonPlain character colon
      · exact portPlain parsed character inPort

/-! ### One colon -/

theorem parseU16_noColon {portText : String} {port : UInt16}
    (parsed : parseU16 portText = some port) : ':' ∉ portText.toList := by
  intro member
  rcases parseU16_characters parsed ':' member with plus | digit
  · exact absurd plus (by decide)
  · exact absurd digit (by decide)

theorem outboundProxy_of_sides {peer : BrokerPeer} {oa hostText portText : String} {port : UInt16}
    (announced : peer.serviceInfo.getProperty "oa" = some oa)
    (item : firstItem oa = hostText ++ ":" ++ portText) (noColon : ':' ∉ hostText.toList)
    (parsed : parseU16 portText = some port) {concrete : String}
    (chosen : concreteHost peer.serviceInfo.addresses hostText = .ok concrete) :
    outboundProxy peer = .ok ("socks5://" ++ concrete ++ ":" ++ portText) := by
  rw [outboundProxy_of_cut announced item noColon, chosen,
    splitChar_of_absent (parseU16_noColon parsed)]
  rfl

/-! ### Two colons -/

/-- An IPv6 host is decoded to its first group, which names nothing. -/
theorem not_decodesTo_v6 {announced : List Ipv4Addr} {peer : BrokerPeer} {oa address : String}
    {ip : Ipv6Addr} {port : UInt16}
    (property : peer.serviceInfo.getProperty "oa" = some oa) (item : firstItem oa = address)
    (parsed : SocketAddr.parse address = some ⟨.v6 ip, port⟩) :
    ¬ DecodesTo announced peer address (.ip (.v6 ip)) port := by
  obtain ⟨first, second, after, split, ⟨firstColon, firstDot⟩, secondColon, secondDot⟩ :=
    parse_v6_cut parsed rfl
  have chosen : concreteHost peer.serviceInfo.addresses first = .ok first := by
    refine if_neg ?_
    rintro rfl
    exact absurd firstDot (by decide)
  have pieces : splitChar ':' (second ++ ":" ++ after) = second :: splitChar ':' after :=
    splitChar_append secondColon after
  have decoded : outboundProxy peer = .ok ("socks5://" ++ first ++ ":" ++ second) := by
    rw [outboundProxy_of_cut property (item.trans split) firstColon, chosen, pieces]
    rfl
  rintro ⟨hostText, portText, other, serves, _⟩
  have same := congrArg String.toList (Except.ok.inj (decoded.symm.trans other))
  have colons := congrArg (List.count ':') same
  have dots := congrArg (List.count '.') same
  simp only [String.toList_append, List.count_append, List.count_eq_zero.mpr firstColon,
    List.count_eq_zero.mpr secondColon] at colons
  simp only [String.toList_append, List.count_append, List.count_eq_zero.mpr firstDot,
    List.count_eq_zero.mpr secondDot] at dots
  simp only [ServesAs] at serves
  split at serves
  · obtain ⟨addr, _, rfl⟩ := serves
    have dot := List.count_pos_iff.mpr addr.dot_mem_toString
    have noDots : (":".toList).count '.' = 0 := rfl
    omega
  · have two := NamesIp.colons serves
    omega

/-! ### The round trip -/

theorem port_suffix (hostText portText : String) :
    ":".toList ++ portText.toList <:+ (hostText ++ ":" ++ portText).toList := by
  refine ⟨hostText.toList, ?_⟩
  simp only [String.toList_append, List.append_assoc]

theorem decodesTo_of_v4 {announced : List Ipv4Addr} {peer : BrokerPeer} {oa : String}
    {ip : Ipv4Addr} {portText : String} {port : UInt16}
    (property : peer.serviceInfo.getProperty "oa" = some oa)
    (item : firstItem oa = ip.toString ++ ":" ++ portText)
    (parsed : parseU16 portText = some port)
    (members : ∀ addr, addr ∈ peer.serviceInfo.addresses ↔ addr ∈ announced)
    (reachable : ip = ⟨0, 0, 0, 0⟩ → announced ≠ []) :
    DecodesTo announced peer (firstItem oa) (.ip (.v4 ip)) port := by
  have itsPort := port_suffix ip.toString portText
  rw [← item] at itsPort
  by_cases unspecified : (IpAddr.v4 ip).isUnspecified = true
  · have zeros : ip.toString = "0.0.0.0" := (unspecified_v4 ip).mp unspecified
    obtain ⟨first, others, same⟩ :=
      List.exists_cons_of_ne_nil (reachable (beq_iff_eq.mp unspecified))
    have inPeer : first ∈ peer.serviceInfo.addresses := by
      rw [members, same]
      exact List.mem_cons_self
    obtain ⟨addr, rest, addresses⟩ := List.exists_cons_of_ne_nil (List.ne_nil_of_mem inPeer)
    have chosen : concreteHost peer.serviceInfo.addresses ip.toString = .ok addr.toString := by
      rw [zeros, addresses]
      rfl
    refine ⟨addr.toString, portText, outboundProxy_of_sides property item ip.noColon parsed chosen,
      ?_, parsed, itsPort⟩
    simp only [ServesAs, if_pos unspecified]
    refine ⟨addr, (members addr).mp ?_, rfl⟩
    rw [addresses]
    exact List.mem_cons_self
  · have chosen : concreteHost peer.serviceInfo.addresses ip.toString = .ok ip.toString :=
      if_neg (mt (unspecified_v4 ip).mpr unspecified)
    refine ⟨ip.toString, portText, outboundProxy_of_sides property item ip.noColon parsed chosen,
      ?_, parsed, itsPort⟩
    simp only [ServesAs, if_neg unspecified]
    rfl

theorem decodesTo_of_name {announced : List Ipv4Addr} {peer : BrokerPeer}
    {oa name portText : String} {port : UInt16}
    (property : peer.serviceInfo.getProperty "oa" = some oa)
    (item : firstItem oa = name ++ ":" ++ portText) (proper : IsHostName name)
    (parsed : parseU16 portText = some port) (notUnspecified : name ≠ "0.0.0.0") :
    DecodesTo announced peer (firstItem oa) (.name name) port := by
  have itsPort := port_suffix name portText
  rw [← item] at itsPort
  have noColon : ':' ∉ name.toList := fun member => (proper ':' member).1 rfl
  have chosen : concreteHost peer.serviceInfo.addresses name = .ok name := if_neg notUnspecified
  exact ⟨name, portText, outboundProxy_of_sides property item noColon parsed chosen, rfl, parsed,
    itsPort⟩

/-- Whatever a broker binds first is decoded by the workers that resolve its
service exactly when it is no IPv6 address, and an address is announced for the
unspecified one. -/
theorem outboundAddress_roundTrips_iff (config : PeerConfig) (broker : BrokerConfig)
    (isBroker : config.broker = .ok broker) (first : String) (rest : List String)
    (binds : broker.outboundBindAddresses = first :: rest) (host : BindHost) (port : UInt16)
    (target : bindTarget first = some (host, port)) (proper : IsBindHost host)
    (interfaces : List NetInterface) (registered : ServiceInfo)
    (registers : registerService config interfaces = .ok registered) (peer : BrokerPeer)
    (resolves : Resolves registered peer.serviceInfo) :
    DecodesTo (myIpv4Interfaces interfaces) peer first host port ↔
      (∀ ip, host ≠ .ip (.v6 ip)) ∧
      (host = .ip (.v4 ⟨0, 0, 0, 0⟩) → myIpv4Interfaces interfaces ≠ []) := by
  have shape := bindTarget_shape target
  obtain ⟨_, _, _, property⟩ := resolved_properties isBroker registers resolves
  have item := firstItem_of_shape shape proper rest
  rw [← binds] at item
  have members := mem_resolved_addresses registers resolves
  constructor
  · intro decodes
    constructor
    · rintro ip rfl
      cases shape with
      | v6 _ _ _ parsed => exact not_decodesTo_v6 property item parsed decodes
    · rintro rfl
      obtain ⟨hostText, _, _, ⟨addr, announced, _⟩, _⟩ := decodes
      exact List.ne_nil_of_mem announced
  · rintro ⟨notV6, reachable⟩
    rw [← item]
    cases shape with
    | v4 ip portText port parsed =>
        refine decodesTo_of_v4 property item parsed members ?_
        rintro rfl
        exact reachable rfl
    | v6 _ ip _ parsed => exact absurd rfl (notV6 ip)
    | name name portText port parsed notUnspecified =>
        exact decodesTo_of_name property item proper parsed notUnspecified

/-! ### Fixed addresses -/

def outboundConfig (outboundBindAddresses : List String) : BrokerConfig :=
  { outboundBindAddresses := outboundBindAddresses
    inboundHttpServerBindAddress := ["0.0.0.0:8080"]
    inboundHttpServerAccessibleAddressPrefix := "http://10.0.0.2:8080"
    cost := 10 }

def outboundPeerConfig (outboundBindAddresses : List String) : PeerConfig :=
  { role := .prBroker (some (outboundConfig outboundBindAddresses))
    instanceId := "b1"
    common := { instanceName := "broker", mgmtPort := 1919 } }

def outboundInfo (outboundBindAddresses : List String) : ServiceInfo :=
  { properties := brokerProperties (outboundPeerConfig outboundBindAddresses)
      (outboundConfig outboundBindAddresses)
    addresses := myIpv4Interfaces exampleInterfaces
    port := 1919 }

def outboundPeer (outboundBindAddresses : List String) : BrokerPeer :=
  BrokerPeer.new 10 "broker" "b1" (outboundInfo outboundBindAddresses) "http://10.0.0.2:1919"

theorem outboundPeer_decodesTo_announced :
    DecodesTo (myIpv4Interfaces exampleInterfaces) (outboundPeer ["0.0.0.0:1081", "[::]:1081"])
      "0.0.0.0:1081" (.ip (.v4 ⟨0, 0, 0, 0⟩)) 1081 :=
  (outboundAddress_roundTrips_iff (outboundPeerConfig ["0.0.0.0:1081", "[::]:1081"])
    (outboundConfig ["0.0.0.0:1081", "[::]:1081"]) rfl "0.0.0.0:1081" ["[::]:1081"] rfl
    (.ip (.v4 ⟨0, 0, 0, 0⟩)) 1081 (by decide) trivial exampleInterfaces
    (outboundInfo ["0.0.0.0:1081", "[::]:1081"]) rfl (outboundPeer ["0.0.0.0:1081", "[::]:1081"])
    (Resolves.refl _)).mpr ⟨nofun, fun _ => by decide⟩

/-- A broker that binds the IPv6 loopback address is decoded to `[:`. -/
theorem loopbackBroker_not_decodesTo :
    bindTarget "[::1]:1081" = some (.ip (.v6 ⟨#v[0, 0, 0, 0, 0, 0, 0, 1]⟩), 1081) ∧
    registerService (outboundPeerConfig ["[::1]:1081"]) exampleInterfaces =
      .ok (outboundPeer ["[::1]:1081"]).serviceInfo ∧
    outboundProxy (outboundPeer ["[::1]:1081"]) = .ok "socks5://[:" ∧
    ¬ DecodesTo (myIpv4Interfaces exampleInterfaces) (outboundPeer ["[::1]:1081"]) "[::1]:1081"
        (.ip (.v6 ⟨#v[0, 0, 0, 0, 0, 0, 0, 1]⟩)) 1081 := by
  have parsed : SocketAddr.parse "[::1]:1081" =
      some ⟨.v6 ⟨#v[0, 0, 0, 0, 0, 0, 0, 1]⟩, 1081⟩ := by decide
  refine ⟨by decide, rfl, by decide, ?_⟩
  have property : (outboundPeer ["[::1]:1081"]).serviceInfo.getProperty "oa" =
      some "[::1]:1081" := by decide
  have item : firstItem "[::1]:1081" = "[::1]:1081" := by decide
  exact not_decodesTo_v6 property item parsed

end ServiceNetwork.Pipeline
