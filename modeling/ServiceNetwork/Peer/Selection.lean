/-
The choice of the best broker, as a function of the announcements alone.

The code sorts by cost and looks the winning name up again.  What it finds is
the least peer by cost and name, so the order of the announcements is lost.
-/

import ServiceNetwork.Peer.Discovery

namespace ServiceNetwork.Peer

open Std
open ServiceNetwork.Register

/-- The peer is stored under its name, and costs less than every other stored
peer or as little with a lesser name. -/
def BrokerPeerManager.Least (manager : BrokerPeerManager) (peer : BrokerPeer) : Prop :=
  manager.map[peer.instanceName]? = some peer ∧
    ∀ (name : String) (other : BrokerPeer), manager.map[name]? = some other →
      peer.cost < other.cost ∨
        (peer.cost = other.cost ∧ peer.instanceName ≤ other.instanceName)

theorem BrokerPeerManager.Least.unique {manager : BrokerPeerManager} {peer other : BrokerPeer}
    (least : manager.Least peer) (leastToo : manager.Least other) : peer = other := by
  have sameName : peer.instanceName = other.instanceName := by
    rcases least.2 _ _ leastToo.1 with cheaper | ⟨sameCost, before⟩
    · rcases leastToo.2 _ _ least.1 with dearer | ⟨sameCost, _⟩
      · exact absurd dearer (Std.not_gt_of_lt cheaper)
      · rw [sameCost] at cheaper
        exact absurd cheaper Std.lt_irrefl
    · rcases leastToo.2 _ _ least.1 with dearer | ⟨_, after⟩
      · rw [sameCost] at dearer
        exact absurd dearer Std.lt_irrefl
      · exact Std.le_antisymm before after
  have stored := least.1
  rw [sameName, leastToo.1] at stored
  exact (Option.some.inj stored).symm

/-- The selection in a keyed manager: nothing from an empty map, otherwise the
least peer. -/
theorem getBestInstance_of_keyed {manager : BrokerPeerManager}
    (keyed : Keyed BrokerPeer.instanceName manager.map) :
    (manager.map.values = [] ∧ manager.getBestInstance = .ok none) ∨
      ∃ peer, manager.Least peer ∧ manager.getBestInstance = .ok (some peer) := by
  have isStored : ∀ peer, peer ∈ manager.map.values →
      manager.map[peer.instanceName]? = some peer := by
    intro peer member
    obtain ⟨name, present⟩ := (mem_values_iff manager.map peer).mp member
    rw [keyed name peer present]
    exact present
  have named : (manager.map.values.map fun peer => (peer.instanceName, peer.cost)).Pairwise
      fun left right => compare left.1 right.1 = .lt :=
    List.Pairwise.map _ (fun _ _ before => before) keyed.values_ordered
  unfold BrokerPeerManager.getBestInstance
  cases byCost : (manager.map.values.map fun peer =>
      (peer.instanceName, peer.cost)).insertionSort fun left right => left.2 ≤ right.2 with
  | nil =>
      have empty : manager.map.values = [] := by
        have same := congrArg List.length byCost
        rw [List.length_insertionSort, List.length_map] at same
        exact List.eq_nil_of_length_eq_zero same
      refine Or.inl ⟨empty, ?_⟩
      rw [empty]
      rfl
  | cons best rest =>
      obtain ⟨member, least⟩ := insertionSort_head_least named
        (fun _ before => by rw [ReflOrd.compare_self] at before; cases before) byCost
      obtain ⟨peer, stored, rfl⟩ := List.mem_map.mp member
      refine Or.inr ⟨peer, ⟨isStored peer stored, ?_⟩, ?_⟩
      · intro name other present
        have otherStored : other ∈ manager.map.values :=
          (mem_values_iff manager.map other).mpr ⟨name, present⟩
        by_cases same : (other.instanceName, other.cost) = (peer.instanceName, peer.cost)
        · obtain ⟨sameName, sameCost⟩ := Prod.mk.inj same
          exact Or.inr ⟨sameCost.symm, Std.le_of_eq sameName.symm⟩
        · rcases least _ (List.mem_map_of_mem otherStored) same with cheaper | ⟨sameCost, before⟩
          · exact Or.inl cheaper
          · exact Or.inr ⟨sameCost, Std.le_of_lt (compareOfLessAndEq_eq_lt.mp before)⟩
      · have nonempty : ¬ manager.map.values.length = 0 :=
          List.length_pos_iff_ne_nil.mpr (List.ne_nil_of_mem stored) |>.ne'
        simp only [if_neg nonempty, byCost, isStored peer stored]
        rfl

theorem verifyBestInstance_of_keyed {manager : BrokerPeerManager}
    (keyed : Keyed BrokerPeer.instanceName manager.map)
    (usable : ∀ (name : String) (peer : BrokerPeer), manager.map[name]? = some peer →
      (peer.serviceInfo.getProperty "oa").isSome) :
    (manager.map.values = [] ∧ manager.verifyBestInstance = .ok (none, manager)) ∨
      ∃ peer, manager.Least peer ∧ manager.verifyBestInstance =
        .ok (some peer, { manager with bestInstanceName := some peer.instanceName }) := by
  unfold BrokerPeerManager.verifyBestInstance
  rcases getBestInstance_of_keyed keyed with ⟨empty, selected⟩ | ⟨peer, least, selected⟩
  · refine Or.inl ⟨empty, ?_⟩
    rw [selected]
    rfl
  · refine Or.inr ⟨peer, least, ?_⟩
    obtain ⟨oa, present⟩ := Option.isSome_iff_exists.mp (usable _ _ least.1)
    rw [selected]
    simp only [bind, Except.bind, present, unwrap_some]
    rfl

theorem verifyBestInstance_ok {manager after : BrokerPeerManager} {selected : Option BrokerPeer}
    (verified : manager.verifyBestInstance = .ok (selected, after)) :
    manager.getBestInstance = .ok selected ∧ after.map = manager.map := by
  obtain ⟨best, found, verified⟩ := bind_eq_ok.mp verified
  cases best with
  | none =>
      cases verified
      exact ⟨found, rfl⟩
  | some peer =>
      obtain ⟨oa, _, verified⟩ := bind_eq_ok.mp verified
      cases verified
      exact ⟨found, rfl⟩

theorem least_of_verified {manager after : BrokerPeerManager} {peer : BrokerPeer}
    (keyed : Keyed BrokerPeer.instanceName manager.map)
    (verified : manager.verifyBestInstance = .ok (some peer, after)) : manager.Least peer := by
  have found := (verifyBestInstance_ok verified).1
  rcases getBestInstance_of_keyed keyed with ⟨_, empty⟩ | ⟨best, least, selected⟩
  · rw [found] at empty
    cases empty
  · rw [found] at selected
    cases selected
    exact least

theorem announced_of_discovered {atoi : String → Option UInt8} {infos : List ServiceInfo}
    {name : String} {peer : BrokerPeer} (present : (discovered atoi infos).map[name]? = some peer) :
    ∃ info ∈ infos, announcedPeer atoi info = some peer ∧ peer.serviceInfo = info := by
  rw [discovered_getElem?, firstAnnounced] at present
  obtain ⟨info, member, announced⟩ := List.mem_filterMap.mp (List.mem_of_find?_eq_some present)
  exact ⟨info, member, announced, announcedPeer_serviceInfo announced⟩

theorem discovered_of_announced {atoi : String → Option UInt8} {infos : List ServiceInfo}
    {info : ServiceInfo} {peer : BrokerPeer} (member : info ∈ infos)
    (announced : announcedPeer atoi info = some peer) :
    ∃ stored, (discovered atoi infos).map[peer.instanceName]? = some stored := by
  rw [← Option.isSome_iff_exists, discovered_getElem?, firstAnnounced, List.find?_isSome]
  exact ⟨peer, List.mem_filterMap.mpr ⟨info, member, announced⟩, decide_eq_true rfl⟩

/-- Distinct names are stored alike whatever the order of the announcements. -/
theorem discovered_getElem?_of_perm {atoi : String → Option UInt8} {infos others : List ServiceInfo}
    (perm : infos.Perm others)
    (distinct : ((infos.filterMap (announcedPeer atoi)).map BrokerPeer.instanceName).Nodup)
    (name : String) :
    (discovered atoi infos).map[name]? = (discovered atoi others).map[name]? := by
  rw [discovered_getElem?, discovered_getElem?]
  exact find?_of_perm distinct (perm.filterMap _) name

/-- Each valid announcement has an outbound address. -/
def Outbound (infos : List ServiceInfo) : Prop :=
  ∀ info ∈ infos, (info.getProperty "oa").isSome

theorem discovered_outbound {atoi : String → Option UInt8} {infos : List ServiceInfo}
    (outbound : Outbound infos) (name : String) (peer : BrokerPeer)
    (present : (discovered atoi infos).map[name]? = some peer) :
    (peer.serviceInfo.getProperty "oa").isSome := by
  obtain ⟨info, member, _, same⟩ := announced_of_discovered present
  rw [same]
  exact outbound info member

/-- The two outcomes of the selection after valid announcements with an outbound
address. -/
theorem verifyBestInstance_discovered {atoi : String → Option UInt8} {infos : List ServiceInfo}
    (valid : ∀ info ∈ infos, (announcedPeer atoi info).isSome) (outbound : Outbound infos) :
    (infos = [] ∧
      (discovered atoi infos).verifyBestInstance = .ok (none, discovered atoi infos)) ∨
      ∃ peer, (discovered atoi infos).Least peer ∧
        (discovered atoi infos).verifyBestInstance =
          .ok (some peer,
            { discovered atoi infos with bestInstanceName := some peer.instanceName }) := by
  rcases verifyBestInstance_of_keyed (discovered_keyed atoi infos)
    (discovered_outbound outbound) with ⟨empty, selected⟩ | best
  · refine Or.inl ⟨?_, selected⟩
    cases infos with
    | nil => rfl
    | cons info rest =>
        obtain ⟨peer, announced⟩ := Option.isSome_iff_exists.mp (valid info List.mem_cons_self)
        obtain ⟨stored, present⟩ := discovered_of_announced List.mem_cons_self announced
        have member := (mem_values_iff _ stored).mpr ⟨_, present⟩
        rw [empty] at member
        cases member
  · exact Or.inr best

/-- The least peer does not depend on the order of announcements with distinct
names. -/
theorem least_of_perm {atoi : String → Option UInt8} {infos others : List ServiceInfo}
    {peer : BrokerPeer} (perm : infos.Perm others)
    (distinct : ((infos.filterMap (announcedPeer atoi)).map BrokerPeer.instanceName).Nodup)
    (least : (discovered atoi infos).Least peer) : (discovered atoi others).Least peer := by
  unfold BrokerPeerManager.Least
  simp only [← discovered_getElem?_of_perm perm distinct]
  exact least

theorem least_nonempty {atoi : String → Option UInt8} {infos : List ServiceInfo} {peer : BrokerPeer}
    (least : (discovered atoi infos).Least peer) : infos ≠ [] := by
  obtain ⟨info, member, _⟩ := announced_of_discovered least.1
  exact List.ne_nil_of_mem member

/-- After any valid announcements with an outbound address the selection returns,
with nothing exactly when there were none and otherwise with the least stored
peer; it notes that peer's name and leaves the map alone.  Distinct names give
the same selection in every order. -/
theorem verifyBestInstance_least (atoi : String → Option UInt8) (infos : List ServiceInfo)
    (valid : ∀ info ∈ infos, (announcedPeer atoi info).isSome) (outbound : Outbound infos) :
    (∃ selected after,
      (discovered atoi infos).verifyBestInstance = .ok (selected, after) ∧
      after.map = (discovered atoi infos).map ∧ (selected = none ↔ infos = []) ∧
      ∀ peer, selected = some peer →
        (discovered atoi infos).Least peer ∧ after.bestInstanceName = some peer.instanceName) ∧
    ∀ others, infos.Perm others →
      ((infos.filterMap (announcedPeer atoi)).map BrokerPeer.instanceName).Nodup →
      ∃ selected after afterOthers,
        (discovered atoi infos).verifyBestInstance = .ok (selected, after) ∧
        (discovered atoi others).verifyBestInstance = .ok (selected, afterOthers) := by
  rcases verifyBestInstance_discovered valid outbound with ⟨rfl, selected⟩ | ⟨peer, least, selected⟩
  · refine ⟨⟨none, _, selected, rfl, iff_of_true rfl rfl, nofun⟩, ?_⟩
    intro others perm _
    rw [perm.nil_eq] at selected
    exact ⟨none, _, _, perm.nil_eq ▸ selected, selected⟩
  · constructor
    · refine ⟨some peer, _, selected, rfl, iff_of_false nofun (least_nonempty least), ?_⟩
      intro other same
      cases same
      exact ⟨least, rfl⟩
    · intro others perm distinct
      have leastHere := least_of_perm perm distinct least
      have validOthers : ∀ info ∈ others, (announcedPeer atoi info).isSome :=
        fun info member => valid info (perm.mem_iff.mpr member)
      have outboundOthers : Outbound others :=
        fun info member => outbound info (perm.mem_iff.mpr member)
      rcases verifyBestInstance_discovered validOthers outboundOthers with
        ⟨empty, _⟩ | ⟨other, leastToo, selectedToo⟩
      · exact absurd empty (least_nonempty leastHere)
      · rw [leastToo.unique leastHere] at selectedToo
        exact ⟨some peer, _, _, selected, selectedToo⟩

def namedInfo (instanceName cost : String) : ServiceInfo :=
  { properties := [("in", instanceName), ("i", "b1"), ("c", cost), ("oa", "10.0.0.1:1981")]
    addresses := [⟨10, 0, 0, 1⟩]
    port := 1919 }

def tiedInfos : List ServiceInfo := [namedInfo "c" "10", namedInfo "a" "20", namedInfo "b" "10"]

def readTens (text : String) : Option UInt8 :=
  if text = "10" then some 10 else if text = "20" then some 20 else none

/-- Of three brokers the two cheap ones tie, and the lesser name wins in both
orders. -/
theorem verifyBestInstance_least_tiedInfos :
    ∃ selected after afterOthers, selected.map BrokerPeer.instanceName = some "b" ∧
      (discovered readTens tiedInfos).verifyBestInstance = .ok (selected, after) ∧
      (discovered readTens tiedInfos.reverse).verifyBestInstance = .ok (selected, afterOthers) := by
  have computed : (discovered readTens tiedInfos).verifyBestInstance.map
      (fun result => result.1.map BrokerPeer.instanceName) = .ok (some "b") := rfl
  have valid : (tiedInfos.all fun info => (announcedPeer readTens info).isSome) = true := rfl
  have outbound : (tiedInfos.all fun info => (info.getProperty "oa").isSome) = true := rfl
  obtain ⟨selected, after, afterOthers, here, there⟩ :=
    (verifyBestInstance_least readTens tiedInfos (List.all_eq_true.mp valid)
      (List.all_eq_true.mp outbound)).2 tiedInfos.reverse (List.reverse_perm tiedInfos).symm
      (by decide)
  rw [here] at computed
  exact ⟨selected, after, afterOthers, Except.ok.inj computed, here, there⟩

end ServiceNetwork.Peer
