/-
How the proxy address is decoded from a peer's announcement, and which admitted
peers can be taken through to the end.

Admission never looks at `oa`.  The waiter unwraps its presence and the event
loop the port of its first item; the address both may need was checked.
-/

import ServiceNetwork.Peer.Selection
import ServiceNetwork.ServiceWorker.Runtime

namespace ServiceNetwork.ServiceWorker

open ServiceNetwork.Peer

/-- The first of the comma-separated outbound addresses, trimmed. -/
def firstItem (oa : String) : String :=
  trim ((splitChar ',' oa).headD "")

/-- The announcement names an outbound address with a port part. -/
def HasProxyItem (info : ServiceInfo) : Prop :=
  ∃ oa, info.getProperty "oa" = some oa ∧ ':' ∈ (firstItem oa).toList

/-- The proxy has the host before the first colon of the peer's item, or an
address of the peer in place of `0.0.0.0`, and the port up to the next colon. -/
def DerivesProxy (peer : BrokerPeer) (proxy : String) : Prop :=
  ∃ oa host port rest concrete, peer.serviceInfo.getProperty "oa" = some oa ∧
    splitChar ':' (firstItem oa) = host :: port :: rest ∧
    (if host = "0.0.0.0" then ∃ addr ∈ peer.serviceInfo.addresses, concrete = addr.toString
      else concrete = host) ∧
    proxy = "socks5://" ++ concrete ++ ":" ++ port

/-- The waiter can choose the peer, and the event loop derives a proxy from it
that pRuntime accepts, or else returns an error. -/
def Usable (peer : BrokerPeer) : Prop :=
  (∀ manager : BrokerPeerManager, manager.getBestInstance = .ok (some peer) →
    ∃ verified, manager.verifyBestInstance = .ok verified) ∧
  ∃ proxy, DerivesProxy peer proxy ∧ ∀ outside, setPruntimeNetworkWithPeer outside peer =
    .ok ((outside.configNetwork proxy).mapError ("Failed to configure pRuntime network" ++ ·))

theorem firstItem_eq (oa : String) : ((splitChar ',' oa).map trim)[0]? = some (firstItem oa) := by
  unfold firstItem
  cases items : splitChar ',' oa with
  | nil => exact absurd items (splitChar_ne_nil ',' oa)
  | cons first rest => rfl

theorem outboundProxy_of_cut {peer : BrokerPeer} {oa host rest : String}
    (announced : peer.serviceInfo.getProperty "oa" = some oa)
    (cut : firstItem oa = host ++ ":" ++ rest) (noColon : ':' ∉ host.toList) :
    outboundProxy peer =
      (concreteHost peer.serviceInfo.addresses host).map fun host =>
        "socks5://" ++ host ++ ":" ++ (splitChar ':' rest).headD "" := by
  have pieces : splitChar ':' (firstItem oa) = host :: splitChar ':' rest := by
    rw [cut]
    exact splitChar_append noColon rest
  unfold outboundProxy
  rw [announced, unwrap_some]
  simp only [bind, Except.bind, firstItem_eq, unwrap_some, pieces]
  cases ports : splitChar ':' rest with
  | nil => exact absurd ports (splitChar_ne_nil ':' rest)
  | cons port later =>
      simp only [List.getElem?_cons_succ, List.getElem?_cons_zero, unwrap_some, List.headD_cons]
      cases concreteHost peer.serviceInfo.addresses host <;> rfl

theorem outboundProxy_of_colonless {peer : BrokerPeer} {oa : String}
    (announced : peer.serviceInfo.getProperty "oa" = some oa)
    (noColon : ':' ∉ (firstItem oa).toList) : outboundProxy peer = .error .unwrapNone := by
  unfold outboundProxy
  rw [announced, unwrap_some]
  simp only [bind, Except.bind, firstItem_eq, unwrap_some, splitChar_of_absent noColon]
  rfl

theorem concreteHost_derived {addresses : List Ipv4Addr} {host concrete : String}
    (chosen : concreteHost addresses host = .ok concrete) :
    if host = "0.0.0.0" then ∃ addr ∈ addresses, concrete = addr.toString else concrete = host := by
  unfold concreteHost at chosen
  split at chosen
  · rename_i unspecified
    rw [if_pos unspecified]
    cases addresses with
    | nil => cases chosen
    | cons addr rest =>
        cases chosen
        exact ⟨addr, List.mem_cons_self, rfl⟩
  · rename_i other
    rw [if_neg other]
    cases chosen
    rfl

theorem concreteHost_of_nonempty {addresses : List Ipv4Addr} (nonempty : addresses ≠ [])
    (host : String) : ∃ concrete, concreteHost addresses host = .ok concrete := by
  unfold concreteHost
  split
  · cases addresses with
    | nil => exact absurd rfl nonempty
    | cons addr rest => exact ⟨addr.toString, rfl⟩
  · exact ⟨host, rfl⟩

/-- With an address at hand, the decoding returns exactly on an announcement
with a proxy item. -/
theorem outboundProxy_returns_iff {peer : BrokerPeer}
    (addressed : peer.serviceInfo.addresses ≠ []) :
    (∃ proxy, outboundProxy peer = .ok proxy) ↔ HasProxyItem peer.serviceInfo := by
  constructor
  · rintro ⟨proxy, decoded⟩
    obtain ⟨oa, announced, _⟩ := bind_eq_ok.mp decoded
    rw [unwrap_eq_ok] at announced
    refine ⟨oa, announced, ?_⟩
    by_contra noColon
    rw [outboundProxy_of_colonless announced noColon] at decoded
    cases decoded
  · rintro ⟨oa, announced, colon⟩
    obtain ⟨host, rest, cut, noColon⟩ := exists_cut colon
    obtain ⟨concrete, chosen⟩ := concreteHost_of_nonempty addressed host
    rw [outboundProxy_of_cut announced cut noColon, chosen]
    exact ⟨_, rfl⟩

theorem derivesProxy_of_decoded {peer : BrokerPeer} {proxy : String}
    (decoded : outboundProxy peer = .ok proxy) : DerivesProxy peer proxy := by
  obtain ⟨oa, announced, decoded⟩ := bind_eq_ok.mp decoded
  obtain ⟨item, itemAt, decoded⟩ := bind_eq_ok.mp decoded
  obtain ⟨port, portAt, decoded⟩ := bind_eq_ok.mp decoded
  obtain ⟨host, hostAt, decoded⟩ := bind_eq_ok.mp decoded
  obtain ⟨concrete, chosen, returned⟩ := bind_eq_ok.mp decoded
  have proxied : "socks5://" ++ concrete ++ ":" ++ port = proxy := Except.ok.inj returned
  rw [unwrap_eq_ok] at announced itemAt portAt hostAt
  rw [firstItem_eq] at itemAt
  cases Option.some.inj itemAt
  refine ⟨oa, host, port, (splitChar ':' (firstItem oa)).drop 2, concrete, announced, ?_,
    concreteHost_derived chosen, proxied.symm⟩
  cases pieces : splitChar ':' (firstItem oa) with
  | nil =>
      rw [pieces] at hostAt
      cases hostAt
  | cons first others =>
      rw [pieces] at hostAt portAt
      cases others with
      | nil => cases portAt
      | cons second later =>
          cases hostAt
          cases portAt
          rfl

theorem setPruntimeNetworkWithPeer_of_decoded {peer : BrokerPeer} {proxy : String}
    (decoded : outboundProxy peer = .ok proxy) (outside : Outside) :
    setPruntimeNetworkWithPeer outside peer =
      .ok ((outside.configNetwork proxy).mapError
        ("Failed to configure pRuntime network" ++ ·)) := by
  unfold setPruntimeNetworkWithPeer
  simp only [decoded, bind, Except.bind]
  cases outside.configNetwork proxy <;> rfl

theorem setPruntimeNetworkWithPeer_returns_iff {outside : Outside} {peer : BrokerPeer} :
    (∃ result, setPruntimeNetworkWithPeer outside peer = .ok result) ↔
      ∃ proxy, outboundProxy peer = .ok proxy := by
  constructor
  · rintro ⟨result, returned⟩
    obtain ⟨proxy, decoded, _⟩ := bind_eq_ok.mp returned
    exact ⟨proxy, decoded⟩
  · rintro ⟨proxy, decoded⟩
    exact ⟨_, setPruntimeNetworkWithPeer_of_decoded decoded outside⟩

/-- The usable peers with an address are those that announced a proxy item. -/
theorem usable_iff {peer : BrokerPeer} (addressed : peer.serviceInfo.addresses ≠ []) :
    Usable peer ↔ HasProxyItem peer.serviceInfo := by
  rw [← outboundProxy_returns_iff addressed]
  constructor
  · rintro ⟨_, proxy, _, returns⟩
    exact setPruntimeNetworkWithPeer_returns_iff.mp ⟨_, returns
      { networkConfig := .error "", interfaces := [], stopBrowse := .ok (),
        configNetwork := fun _ => .ok () }⟩
  · rintro ⟨proxy, decoded⟩
    refine ⟨?_, proxy, derivesProxy_of_decoded decoded,
      setPruntimeNetworkWithPeer_of_decoded decoded⟩
    intro manager best
    obtain ⟨oa, announced, _⟩ := (outboundProxy_returns_iff addressed).mp ⟨proxy, decoded⟩
    unfold BrokerPeerManager.verifyBestInstance
    rw [best]
    simp only [bind, Except.bind, announced, unwrap_some]
    exact ⟨_, rfl⟩

theorem addressed_of_announced {atoi : String → Option UInt8} {infos : List ServiceInfo}
    {name : String} {peer : BrokerPeer}
    (stored : (discovered atoi infos).map[name]? = some peer) :
    peer.serviceInfo.addresses ≠ [] := by
  obtain ⟨info, _, announced, _⟩ := announced_of_discovered stored
  obtain ⟨_, _, _, _, addr, rest, _, _, _, _, _, _, addressed, rfl⟩ :=
    announcedPeer_eq_some announced
  change info.addresses ≠ []
  rw [addressed]
  exact List.cons_ne_nil addr rest

/-- After any announcements, the admitted peers are all usable exactly when the
first valid announcement of each name has a proxy item. -/
theorem admitted_usable_iff (atoi : String → Option UInt8) (infos : List ServiceInfo) :
    (∀ (name : String) (peer : BrokerPeer),
      (discovered atoi infos).map[name]? = some peer → Usable peer) ↔
      ∀ name peer, firstAnnounced atoi infos name = some peer →
        HasProxyItem peer.serviceInfo := by
  refine forall_congr' fun name => forall_congr' fun peer => ?_
  rw [discovered_getElem?]
  refine imp_congr_right fun first => ?_
  have stored : (discovered atoi infos).map[name]? = some peer := by
    rw [discovered_getElem?]
    exact first
  exact usable_iff (addressed_of_announced stored)

def proxylessInfo (outbound : List (String × String)) : ServiceInfo :=
  { properties := [("in", "broker"), ("i", "b1"), ("c", "10")] ++ outbound
    addresses := [⟨10, 0, 0, 1⟩]
    port := 1919 }

/-- A broker that announces no outbound address is admitted, and ends the waiting
task that chooses it; one that announces it without a port ends the event loop. -/
theorem proxylessInfo_admitted_not_usable :
    (∃ peer, (discovered (fun _ => some 10) [proxylessInfo []]).map["broker"]? = some peer ∧
      (discovered (fun _ => some 10) [proxylessInfo []]).getBestInstance = .ok (some peer) ∧
      (discovered (fun _ => some 10) [proxylessInfo []]).verifyBestInstance =
        .error .unwrapNone ∧ ¬ Usable peer) ∧
    ∃ peer, (discovered (fun _ => some 10) [proxylessInfo [("oa", "10.0.0.1")]]).map["broker"]? =
        some peer ∧
      (∀ outside, setPruntimeNetworkWithPeer outside peer = .error .unwrapNone) ∧
      ¬ Usable peer := by
  constructor
  · refine ⟨_, rfl, rfl, rfl, ?_⟩
    rw [usable_iff (List.cons_ne_nil _ _)]
    rintro ⟨oa, announced, _⟩
    cases announced
  · refine ⟨_, rfl, fun outside => rfl, ?_⟩
    rw [usable_iff (List.cons_ne_nil _ _)]
    rintro ⟨oa, announced, colon⟩
    cases announced
    exact absurd colon (by decide)

end ServiceNetwork.ServiceWorker
