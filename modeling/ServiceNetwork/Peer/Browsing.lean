/-
When the announcement handler returns, and what that means for the browse loop.

Each item is read by an `unwrap` and then checked by an early `Err`.  An absent
item therefore ends the browsing task, and an empty or unreadable one does not.
-/

import ServiceNetwork.Peer.Discovery

namespace ServiceNetwork.Peer

open ServiceNetwork.Register

/-- The events of the mDNS receiver, as far as the loop tells them apart. -/
inductive ServiceEvent where
  | serviceResolved (info : ServiceInfo)
  | searchStopped
  | otherEvent
  deriving DecidableEq, Repr

/-- The loop over the events received until the channel closes. -/
def browseBrokers (atoi : String → Option UInt8) (manager : BrokerPeerManager) :
    List ServiceEvent → Except Panic BrokerPeerManager
  | [] => .ok manager
  | .serviceResolved info :: events => do
      let (_, manager) ← manager.updatePeerWithServiceInfo atoi info
      browseBrokers atoi manager events
  | .searchStopped :: _ => .ok manager
  | .otherEvent :: events => browseBrokers atoi manager events

/-- The announcements that the loop gets to see. -/
def resolvedInfos : List ServiceEvent → List ServiceInfo
  | [] => []
  | .serviceResolved info :: events => info :: resolvedInfos events
  | .searchStopped :: _ => []
  | .otherEvent :: events => resolvedInfos events

/-- A required item is missing, empty or rejected. -/
def Malformed (atoi : String → Option UInt8) (info : ServiceInfo) : Prop :=
  (info.getProperty "in" = none ∨ info.getProperty "in" = some "") ∨
    (info.getProperty "i" = none ∨ info.getProperty "i" = some "") ∨
    (info.getProperty "c").bind atoi = none ∨ info.addresses = []

/-- The items are present as far as the checks get. -/
def Readable (atoi : String → Option UInt8) (info : ServiceInfo) : Prop :=
  ∃ name, info.getProperty "in" = some name ∧ (name ≠ "" →
    ∃ id, info.getProperty "i" = some id ∧ (id ≠ "" →
      ∃ costText, info.getProperty "c" = some costText ∧ (atoi costText ≠ none →
        info.addresses ≠ [])))

/-- What is asked of one announcement: it returns, with `Err` exactly on a
malformed one and then with the map as it was; on `Ok` the map has an entry for
the name, the other entries are as they were, and each lies under its name. -/
def HandledTotally (atoi : String → Option UInt8) (manager : BrokerPeerManager)
    (info : ServiceInfo) : Prop :=
  ∃ result after, manager.updatePeerWithServiceInfo atoi info = .ok (result, after) ∧
    ((∃ error, result = .error error) ↔ Malformed atoi info) ∧
    ((∃ error, result = .error error) → after.map = manager.map) ∧
    (result = .ok () →
      (∃ name, info.getProperty "in" = some name ∧ after.map.contains name = true ∧
        ∀ other, other ≠ name → after.map[other]? = manager.map[other]?) ∧
      Keyed BrokerPeer.instanceName after.map)

theorem announcedPeer_named {atoi : String → Option UInt8} {info : ServiceInfo} {peer : BrokerPeer}
    (announced : announcedPeer atoi info = some peer) :
    info.getProperty "in" = some peer.instanceName := by
  obtain ⟨name, id, costText, cost, addr, rest, named, _, _, _, _, _, _, rfl⟩ :=
    announcedPeer_eq_some announced
  exact named

theorem not_malformed_of_announced {atoi : String → Option UInt8} {info : ServiceInfo}
    {peer : BrokerPeer} (announced : announcedPeer atoi info = some peer) :
    ¬ Malformed atoi info := by
  obtain ⟨name, id, costText, cost, addr, rest, named, nonempty, identified, nonemptyId, priced,
    read, addressed, _⟩ := announcedPeer_eq_some announced
  unfold Malformed
  simp [named, nonempty, identified, nonemptyId, priced, read, addressed]

theorem readable_of_announced {atoi : String → Option UInt8} {info : ServiceInfo}
    {peer : BrokerPeer} (announced : announcedPeer atoi info = some peer) :
    Readable atoi info := by
  obtain ⟨name, id, costText, cost, addr, rest, named, _, identified, _, priced, _, addressed, _⟩ :=
    announcedPeer_eq_some announced
  refine ⟨name, named, fun _ => ⟨id, identified, fun _ => ⟨costText, priced, fun _ => ?_⟩⟩⟩
  rw [addressed]
  exact List.cons_ne_nil addr rest

/-- The handler returns exactly on the readable announcements. -/
theorem updatePeerWithServiceInfo_returns_iff (atoi : String → Option UInt8)
    (manager : BrokerPeerManager) (info : ServiceInfo) :
    (∃ returned, manager.updatePeerWithServiceInfo atoi info = .ok returned) ↔
      Readable atoi info := by
  have outcome := updatePeerWithServiceInfo_outcome atoi manager info
  generalize manager.updatePeerWithServiceInfo atoi info = result at outcome
  cases outcome with
  | nameless missing => simp [Readable, missing]
  | emptyName empty => simp [Readable, empty]
  | idless name named nonempty missing => simp [Readable, named, nonempty, missing]
  | emptyId name named _ empty => simp [Readable, named, empty]
  | costless name id named nonempty identified nonemptyId missing =>
      simp [Readable, named, nonempty, identified, nonemptyId, missing]
  | badCost name id costText named _ identified _ priced rejected =>
      simp [Readable, named, identified, priced, rejected]
  | addressless name id costText cost named nonempty identified nonemptyId priced read missing =>
      simp [Readable, named, nonempty, identified, nonemptyId, priced, read, missing]
  | known peer announced taken =>
      exact iff_of_true ⟨_, rfl⟩ (readable_of_announced announced)
  | admitted peer announced free =>
      exact iff_of_true ⟨_, rfl⟩ (readable_of_announced announced)

theorem announced_of_returned {atoi : String → Option UInt8} {manager after : BrokerPeerManager}
    {info : ServiceInfo} {result : Except String Unit}
    (returned : manager.updatePeerWithServiceInfo atoi info = .ok (result, after)) :
    manager.announced atoi info = after := by
  unfold BrokerPeerManager.announced
  rw [returned]

/-- A refusal is a malformed announcement, and changes nothing. -/
theorem updatePeerWithServiceInfo_refuses {atoi : String → Option UInt8}
    {manager after : BrokerPeerManager} {info : ServiceInfo} {error : String}
    (returned : manager.updatePeerWithServiceInfo atoi info = .ok (.error error, after)) :
    Malformed atoi info ∧ after = manager := by
  have outcome := updatePeerWithServiceInfo_outcome atoi manager info
  rw [returned] at outcome
  cases outcome with
  | emptyName empty => exact ⟨Or.inl (Or.inr empty), rfl⟩
  | emptyId name named nonempty empty => exact ⟨Or.inr (Or.inl (Or.inr empty)), rfl⟩
  | badCost name id costText named nonempty identified nonemptyId priced rejected =>
      refine ⟨Or.inr (Or.inr (Or.inl ?_)), rfl⟩
      rw [priced]
      exact rejected

/-- An acceptance is a valid announcement, whose name then has an entry. -/
theorem updatePeerWithServiceInfo_accepts {atoi : String → Option UInt8}
    {manager after : BrokerPeerManager} {info : ServiceInfo}
    (returned : manager.updatePeerWithServiceInfo atoi info = .ok (.ok (), after)) :
    ∃ peer, announcedPeer atoi info = some peer ∧
      after.map.contains peer.instanceName = true ∧
      ∀ other, other ≠ peer.instanceName → after.map[other]? = manager.map[other]? := by
  have outcome := updatePeerWithServiceInfo_outcome atoi manager info
  rw [returned] at outcome
  cases outcome with
  | known peer announced taken => exact ⟨peer, announced, taken, fun _ _ => rfl⟩
  | admitted peer announced free =>
      refine ⟨peer, announced, Std.TreeMap.contains_insert_self, ?_⟩
      intro other different
      exact Sweep.getElem?_insert_ne manager.map peer different.symm

/-- The entries are keyed afterwards exactly when they were before. -/
theorem announced_keyed_iff (atoi : String → Option UInt8) (manager : BrokerPeerManager)
    (info : ServiceInfo) :
    Keyed BrokerPeer.instanceName (manager.announced atoi info).map ↔
      Keyed BrokerPeer.instanceName manager.map := by
  rw [announced_map]
  cases announcedPeer atoi info with
  | none => exact Iff.rfl
  | some peer => exact keyed_keepFirst_iff manager.map peer

/-- The browse loop ends by itself exactly when every announcement it sees is
readable. -/
theorem browseBrokers_returns_iff (atoi : String → Option UInt8) (manager : BrokerPeerManager)
    (events : List ServiceEvent) :
    (∃ final, browseBrokers atoi manager events = .ok final) ↔
      ∀ info ∈ resolvedInfos events, Readable atoi info := by
  induction events generalizing manager with
  | nil => exact iff_of_true ⟨manager, rfl⟩ (by simp [resolvedInfos])
  | cons event events ih =>
      cases event with
      | searchStopped => exact iff_of_true ⟨manager, rfl⟩ (by simp [resolvedInfos])
      | otherEvent => exact ih manager
      | serviceResolved info =>
          rw [resolvedInfos, List.forall_mem_cons,
            ← updatePeerWithServiceInfo_returns_iff atoi manager info]
          constructor
          · rintro ⟨final, browsed⟩
            obtain ⟨returned, updated, browsed⟩ := bind_eq_ok.mp browsed
            exact ⟨⟨returned, updated⟩, (ih returned.2).mp ⟨final, browsed⟩⟩
          · rintro ⟨⟨returned, updated⟩, readable⟩
            obtain ⟨final, browsed⟩ := (ih returned.2).mpr readable
            exact ⟨final, bind_eq_ok.mpr ⟨returned, updated, browsed⟩⟩

theorem browseBrokers_eq {atoi : String → Option UInt8} {manager final : BrokerPeerManager}
    {events : List ServiceEvent} (browsed : browseBrokers atoi manager events = .ok final) :
    final = (resolvedInfos events).foldl (BrokerPeerManager.announced atoi) manager := by
  induction events generalizing manager with
  | nil =>
      cases browsed
      rfl
  | cons event events ih =>
      cases event with
      | searchStopped =>
          cases browsed
          rfl
      | otherEvent => exact ih browsed
      | serviceResolved info =>
          obtain ⟨returned, updated, browsed⟩ := bind_eq_ok.mp browsed
          rw [resolvedInfos, List.foldl_cons, announced_of_returned updated]
          exact ih browsed

/-- An announcement is handled totally and atomically exactly when its items are
present as far as the checks get, and the entries of a manager that accepts it
were keyed before. -/
theorem handledTotally_iff (atoi : String → Option UInt8) (manager : BrokerPeerManager)
    (info : ServiceInfo) :
    HandledTotally atoi manager info ↔
      Readable atoi info ∧
        (¬ Malformed atoi info → Keyed BrokerPeer.instanceName manager.map) := by
  rw [← updatePeerWithServiceInfo_returns_iff atoi manager info]
  constructor
  · rintro ⟨result, after, returned, refused, _, accepted⟩
    refine ⟨⟨_, returned⟩, ?_⟩
    intro valid
    cases result with
    | error error => exact absurd (refused.mp ⟨error, rfl⟩) valid
    | ok _ =>
        have keyed := (accepted rfl).2
        rw [← announced_of_returned returned, announced_keyed_iff] at keyed
        exact keyed
  · rintro ⟨⟨⟨result, after⟩, returned⟩, keyed⟩
    refine ⟨result, after, returned, ?_⟩
    cases result with
    | error error =>
        obtain ⟨malformed, same⟩ := updatePeerWithServiceInfo_refuses returned
        exact ⟨iff_of_true ⟨error, rfl⟩ malformed, fun _ => congrArg _ same, nofun⟩
    | ok _ =>
        obtain ⟨peer, announced, present, frame⟩ := updatePeerWithServiceInfo_accepts returned
        have valid := not_malformed_of_announced announced
        refine ⟨iff_of_false nofun valid, nofun, fun _ => ⟨?_, ?_⟩⟩
        · exact ⟨peer.instanceName, announcedPeer_named announced, present, frame⟩
        · rw [← announced_of_returned returned, announced_keyed_iff]
          exact keyed valid

/-- In a state that announcements have led to, only the items matter; and one
announcement ends the browsing task exactly when it is not readable, while a
browse that ends by itself has left what its announcements lead to. -/
theorem announcements_handledTotally (atoi : String → Option UInt8) :
    (∀ manager info, HandledTotally atoi manager info ↔
      Readable atoi info ∧
        (¬ Malformed atoi info → Keyed BrokerPeer.instanceName manager.map)) ∧
    (∀ infos info, HandledTotally atoi (discovered atoi infos) info ↔ Readable atoi info) ∧
    ∀ manager events,
      ((∃ final, browseBrokers atoi manager events = .ok final) ↔
        ∀ info ∈ resolvedInfos events, Readable atoi info) ∧
      ∀ final, browseBrokers atoi manager events = .ok final →
        final = (resolvedInfos events).foldl (BrokerPeerManager.announced atoi) manager := by
  refine ⟨handledTotally_iff atoi, ?_, fun manager events =>
    ⟨browseBrokers_returns_iff atoi manager events, fun _ => browseBrokers_eq⟩⟩
  intro infos info
  rw [handledTotally_iff]
  exact and_iff_left fun _ => discovered_keyed atoi infos

def namelessInfo : ServiceInfo :=
  { properties := [("i", "b1"), ("c", "10"), ("oa", "10.0.0.1:1981")]
    addresses := [⟨10, 0, 0, 1⟩]
    port := 1919 }

/-- An announcement without a name is malformed, and instead of an `Err` it ends
the browsing task. -/
theorem namelessInfo_ends_browsing :
    Malformed (fun _ => some 10) namelessInfo ∧
    ¬ HandledTotally (fun _ => some 10) BrokerPeerManager.new namelessInfo ∧
    browseBrokers (fun _ => some 10) BrokerPeerManager.new [.serviceResolved namelessInfo] =
      .error .unwrapNone := by
  refine ⟨Or.inl (Or.inl rfl), ?_, rfl⟩
  rintro ⟨result, after, returned, _⟩
  cases returned

end ServiceNetwork.Peer
