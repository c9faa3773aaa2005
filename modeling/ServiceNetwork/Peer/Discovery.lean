/-
What one announcement does, and what a run of them leaves in the broker map.

A name keeps the peer of its first valid announcement.  Later announcements of
the name return early.
-/

import ServiceNetwork.Library.Register
import ServiceNetwork.Peer.Broker

namespace ServiceNetwork.Peer

open Std
open ServiceNetwork.Register

/-- The peer that a valid announcement describes. -/
def announcedPeer (atoi : String → Option UInt8) (info : ServiceInfo) : Option BrokerPeer := do
  let instanceName ← info.getProperty "in"
  let id ← info.getProperty "i"
  let cost ← info.getProperty "c"
  let cost ← atoi cost
  let addr ← info.addresses.head?
  if instanceName = "" ∨ id = "" then none
  else
    some (BrokerPeer.new cost instanceName id info
      ("http://" ++ addr.toString ++ ":" ++ toString info.port)).startLifeCheck

/-- The outcomes of an announcement, in the order of the checks. -/
inductive AnnouncementOutcome (atoi : String → Option UInt8) (manager : BrokerPeerManager)
    (info : ServiceInfo) : Except Panic (Except String Unit × BrokerPeerManager) → Prop where
  | nameless (missing : info.getProperty "in" = none) :
      AnnouncementOutcome atoi manager info (.error .unwrapNone)
  | emptyName (empty : info.getProperty "in" = some "") :
      AnnouncementOutcome atoi manager info (.ok (.error "Invalid instance name", manager))
  | idless (name : String) (named : info.getProperty "in" = some name) (nonempty : name ≠ "")
      (missing : info.getProperty "i" = none) :
      AnnouncementOutcome atoi manager info (.error .unwrapNone)
  | emptyId (name : String) (named : info.getProperty "in" = some name) (nonempty : name ≠ "")
      (empty : info.getProperty "i" = some "") :
      AnnouncementOutcome atoi manager info
        (.ok (.error "Unexpected empty instance id", manager))
  | costless (name id : String) (named : info.getProperty "in" = some name) (nonempty : name ≠ "")
      (identified : info.getProperty "i" = some id) (nonemptyId : id ≠ "")
      (missing : info.getProperty "c" = none) :
      AnnouncementOutcome atoi manager info (.error .unwrapNone)
  | badCost (name id costText : String) (named : info.getProperty "in" = some name)
      (nonempty : name ≠ "") (identified : info.getProperty "i" = some id) (nonemptyId : id ≠ "")
      (priced : info.getProperty "c" = some costText) (rejected : atoi costText = none) :
      AnnouncementOutcome atoi manager info
        (.ok (.error ("Peer candidate " ++ name ++ ":" ++ id ++ " has invalid cost"), manager))
  | addressless (name id costText : String) (cost : UInt8)
      (named : info.getProperty "in" = some name) (nonempty : name ≠ "")
      (identified : info.getProperty "i" = some id) (nonemptyId : id ≠ "")
      (priced : info.getProperty "c" = some costText) (read : atoi costText = some cost)
      (missing : info.addresses = []) :
      AnnouncementOutcome atoi manager info (.error .unwrapNone)
  | known (peer : BrokerPeer) (announced : announcedPeer atoi info = some peer)
      (taken : manager.map.contains peer.instanceName = true) :
      AnnouncementOutcome atoi manager info (.ok (.ok (), manager))
  | admitted (peer : BrokerPeer) (announced : announcedPeer atoi info = some peer)
      (free : manager.map.contains peer.instanceName = false) :
      AnnouncementOutcome atoi manager info
        (.ok (.ok (), { manager with map := manager.map.insert peer.instanceName peer }))

theorem announcedPeer_of_items {atoi : String → Option UInt8} {info : ServiceInfo}
    {name id costText : String} {cost : UInt8} {addr : Ipv4Addr} {rest : List Ipv4Addr}
    (named : info.getProperty "in" = some name) (nonempty : name ≠ "")
    (identified : info.getProperty "i" = some id) (nonemptyId : id ≠ "")
    (priced : info.getProperty "c" = some costText) (read : atoi costText = some cost)
    (addressed : info.addresses = addr :: rest) :
    announcedPeer atoi info =
      some (BrokerPeer.new cost name id info
        ("http://" ++ addr.toString ++ ":" ++ toString info.port)).startLifeCheck := by
  unfold announcedPeer
  rw [named, identified, priced, addressed]
  simp [read, nonempty, nonemptyId]

theorem announcedPeer_eq_some {atoi : String → Option UInt8} {info : ServiceInfo}
    {peer : BrokerPeer} (announced : announcedPeer atoi info = some peer) :
    ∃ name id costText cost addr rest,
      info.getProperty "in" = some name ∧ name ≠ "" ∧
      info.getProperty "i" = some id ∧ id ≠ "" ∧
      info.getProperty "c" = some costText ∧ atoi costText = some cost ∧
      info.addresses = addr :: rest ∧
      peer = (BrokerPeer.new cost name id info
        ("http://" ++ addr.toString ++ ":" ++ toString info.port)).startLifeCheck := by
  unfold announcedPeer at announced
  obtain ⟨name, named, announced⟩ := Option.bind_eq_some_iff.mp announced
  obtain ⟨id, identified, announced⟩ := Option.bind_eq_some_iff.mp announced
  obtain ⟨costText, priced, announced⟩ := Option.bind_eq_some_iff.mp announced
  obtain ⟨cost, read, announced⟩ := Option.bind_eq_some_iff.mp announced
  obtain ⟨addr, addressed, announced⟩ := Option.bind_eq_some_iff.mp announced
  obtain ⟨rest, addressed⟩ := List.head?_eq_some_iff.mp addressed
  split at announced
  · cases announced
  · rename_i nonempty
    rw [not_or] at nonempty
    cases announced
    exact ⟨name, id, costText, cost, addr, rest, named, nonempty.1, identified, nonempty.2,
      priced, read, addressed, rfl⟩

theorem announcedPeer_serviceInfo {atoi : String → Option UInt8} {info : ServiceInfo}
    {peer : BrokerPeer} (announced : announcedPeer atoi info = some peer) :
    peer.serviceInfo = info := by
  obtain ⟨_, _, _, _, _, _, _, _, _, _, _, _, _, rfl⟩ := announcedPeer_eq_some announced
  rfl

theorem updatePeerWithServiceInfo_outcome (atoi : String → Option UInt8)
    (manager : BrokerPeerManager) (info : ServiceInfo) :
    AnnouncementOutcome atoi manager info (manager.updatePeerWithServiceInfo atoi info) := by
  unfold BrokerPeerManager.updatePeerWithServiceInfo
  cases named : info.getProperty "in" with
  | none => exact .nameless named
  | some name =>
      by_cases emptyName : name = ""
      · subst emptyName
        exact .emptyName named
      · have namePresent : ¬ name.utf8ByteSize = 0 :=
          mt String.utf8ByteSize_eq_zero_iff.mp emptyName
        simp only [unwrap_some, bind, Except.bind, if_neg namePresent]
        cases identified : info.getProperty "i" with
        | none => exact .idless name named emptyName identified
        | some id =>
            by_cases emptyId : id = ""
            · subst emptyId
              exact .emptyId name named emptyName identified
            · have idPresent : ¬ id.utf8ByteSize = 0 :=
                mt String.utf8ByteSize_eq_zero_iff.mp emptyId
              simp only [unwrap_some, if_neg idPresent]
              cases priced : info.getProperty "c" with
              | none => exact .costless name id named emptyName identified emptyId priced
              | some costText =>
                  simp only [unwrap_some]
                  cases read : atoi costText with
                  | none =>
                      exact .badCost name id costText named emptyName identified emptyId priced read
                  | some cost =>
                      cases addressed : info.addresses with
                      | nil =>
                          exact .addressless name id costText cost named emptyName identified
                            emptyId priced read addressed
                      | cons addr rest =>
                          have announced := announcedPeer_of_items named emptyName identified
                            emptyId priced read addressed
                          simp only [List.head?_cons, unwrap_some]
                          split
                          · rename_i taken
                            exact .known _ announced taken
                          · rename_i free
                            exact .admitted _ announced (Bool.eq_false_iff.mpr free)

/-! ### The map after a run of announcements -/

/-- The manager after one announcement; a panic ends the call, not the manager. -/
def BrokerPeerManager.announced (atoi : String → Option UInt8) (manager : BrokerPeerManager)
    (info : ServiceInfo) : BrokerPeerManager :=
  match manager.updatePeerWithServiceInfo atoi info with
  | .error _ => manager
  | .ok (_, manager) => manager

def discovered (atoi : String → Option UInt8) (infos : List ServiceInfo) : BrokerPeerManager :=
  infos.foldl (BrokerPeerManager.announced atoi) BrokerPeerManager.new

theorem announcedPeer_eq_none {atoi : String → Option UInt8} {info : ServiceInfo} {name : String}
    (named : info.getProperty "in" = some name)
    (refused : name = "" ∨ info.getProperty "i" = none ∨ info.getProperty "i" = some "" ∨
      (info.getProperty "c").bind atoi = none ∨ info.addresses = []) :
    announcedPeer atoi info = none := by
  cases announced : announcedPeer atoi info with
  | none => rfl
  | some peer =>
      obtain ⟨_, id, costText, cost, addr, rest, namedToo, nonempty, identified, nonemptyId, priced,
        read, addressed, _⟩ := announcedPeer_eq_some announced
      rw [named] at namedToo
      cases namedToo
      simp [nonempty, identified, nonemptyId, priced, read, addressed] at refused

theorem announced_map (atoi : String → Option UInt8) (manager : BrokerPeerManager)
    (info : ServiceInfo) :
    (manager.announced atoi info).map =
      match announcedPeer atoi info with
      | none => manager.map
      | some peer => keepFirst BrokerPeer.instanceName manager.map peer := by
  have outcome := updatePeerWithServiceInfo_outcome atoi manager info
  unfold BrokerPeerManager.announced
  generalize manager.updatePeerWithServiceInfo atoi info = result at outcome
  cases outcome with
  | nameless missing => simp [announcedPeer, missing]
  | emptyName empty => rw [announcedPeer_eq_none empty (by simp)]
  | idless name named _ missing => rw [announcedPeer_eq_none named (by simp [missing])]
  | emptyId name named _ empty => rw [announcedPeer_eq_none named (by simp [empty])]
  | costless name id named _ _ _ missing =>
      rw [announcedPeer_eq_none named (by simp [missing])]
  | badCost name id costText named _ _ _ priced rejected =>
      rw [announcedPeer_eq_none named (by simp [priced, rejected])]
  | addressless name id costText cost named _ _ _ _ _ missing =>
      rw [announcedPeer_eq_none named (by simp [missing])]
  | known peer announced taken =>
      rw [announced]
      simp only [keepFirst, taken, if_true]
  | admitted peer announced free =>
      rw [announced]
      simp [keepFirst, free]

/-- Announcements one after another keep the first peer of each name. -/
theorem foldl_announced_map (atoi : String → Option UInt8) (infos : List ServiceInfo)
    (manager : BrokerPeerManager) :
    (infos.foldl (BrokerPeerManager.announced atoi) manager).map =
      (infos.filterMap (announcedPeer atoi)).foldl (keepFirst BrokerPeer.instanceName)
        manager.map := by
  induction infos generalizing manager with
  | nil => rfl
  | cons info rest ih =>
      rw [List.foldl_cons, ih, announced_map]
      cases announced : announcedPeer atoi info with
      | none => rw [List.filterMap_cons_none announced]
      | some peer => rw [List.filterMap_cons_some announced, List.foldl_cons]

/-- The peer of the first valid announcement of the name. -/
def firstAnnounced (atoi : String → Option UInt8) (infos : List ServiceInfo) (name : String) :
    Option BrokerPeer :=
  (infos.filterMap (announcedPeer atoi)).find? fun peer => peer.instanceName = name

theorem discovered_getElem? (atoi : String → Option UInt8) (infos : List ServiceInfo)
    (name : String) : (discovered atoi infos).map[name]? = firstAnnounced atoi infos name := by
  unfold discovered firstAnnounced
  rw [foldl_announced_map, foldl_keepFirst_getElem?]
  change (∅ : TreeMap String BrokerPeer)[name]?.or _ = _
  rw [TreeMap.getElem?_emptyc, Option.none_or]

theorem discovered_concat (atoi : String → Option UInt8) (infos : List ServiceInfo)
    (info : ServiceInfo) :
    discovered atoi (infos ++ [info]) = (discovered atoi infos).announced atoi info := by
  unfold discovered
  rw [List.foldl_append]
  rfl

theorem discovered_keyed (atoi : String → Option UInt8) (infos : List ServiceInfo) :
    Keyed BrokerPeer.instanceName (discovered atoi infos).map := by
  intro name peer present
  rw [discovered_getElem?] at present
  have named := List.find?_some present
  exact of_decide_eq_true named

end ServiceNetwork.Peer
