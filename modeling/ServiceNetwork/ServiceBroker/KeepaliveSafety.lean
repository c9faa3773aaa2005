/-
When a keepalive can end the broker.

`createLocalWorker` unwraps the host and the port of the address; nothing in
front of it looks at the address.  A keepalive is harmless when its address
parses, or when its key is live and it repeats what a freshly renewed entry
already holds.
-/

import ServiceNetwork.ServiceBroker.WorkerTable

namespace ServiceNetwork.ServiceBroker

open Std
open ServiceNetwork.Heartbeat
open ServiceNetwork.Replay
open ServiceNetwork.Sweep

variable {urlparse : String → Uri}

/-- The two states hold the same entries and the same cached keys. -/
def SameTable (before after : LocalWorkerManager) : Prop :=
  (∀ key : String, after.lwMap[key]? = before.lwMap[key]?) ∧ after.lwVecKeys = before.lwVecKeys

/-- The entry as a keepalive with this instance id leaves it. -/
def Renewed (instanceId : String) (klw : KnownLocalWorker) : Prop :=
  klw.status = .active ∧ klw.lostCount = 0 ∧ klw.lostMark = false ∧ klw.instanceId = instanceId

/-- The condition under which a keepalive neither panics nor, when its address
does not parse, changes the table. -/
def Harmless (urlparse : String → Uri) (manager : LocalWorkerManager)
    (lw : LocalWorkerIdentity) : Prop :=
  Parses urlparse lw.addressString ∨
    ∃ klw, manager.lwMap[lw.publicKey]? = some klw ∧ Renewed lw.instanceId klw

theorem updateLocalWorker_fixed_iff (klw : KnownLocalWorker) (lw : LocalWorkerIdentity)
    (live : klw.status ≠ .dead) :
    (updateLocalWorker klw lw).1 = klw ↔ Renewed lw.instanceId klw := by
  obtain ⟨status, hostname, port, address, publicPort, key, name, id, count, mark⟩ := klw
  cases status with
  | active =>
      simp only [updateLocalWorker, Renewed, KnownLocalWorker.mk.injEq, true_and]
      constructor
      · rintro ⟨sameId, sameCount, sameMark⟩
        exact ⟨sameCount.symm, sameMark.symm, sameId.symm⟩
      · rintro ⟨sameCount, sameMark, sameId⟩
        exact ⟨sameId.symm, sameCount.symm, sameMark.symm⟩
  | lost =>
      simp [updateLocalWorker, Renewed]
  | dead => exact absurd rfl live

theorem sameTable_insert_iff (manager : LocalWorkerManager) {key : String}
    {klw next : KnownLocalWorker} (found : manager.lwMap[key]? = some klw) :
    SameTable manager { manager with lwMap := manager.lwMap.insert key next } ↔ next = klw := by
  constructor
  · rintro ⟨sameEntries, _⟩
    have here := sameEntries key
    change (manager.lwMap.insert key next)[key]? = _ at here
    rw [getElem?_insert_self, found] at here
    exact Option.some.inj here
  · rintro rfl
    refine ⟨?_, rfl⟩
    intro other
    by_cases same : key = other
    · subst same
      exact (getElem?_insert_self _ _ _).trans found.symm
    · exact getElem?_insert_ne _ _ same

/-- One keepalive, from any state: it is handled, and leaves the table alone
when its address does not parse, exactly when it is harmless. -/
theorem keepalive_handled_iff (profile : BuildProfile) (manager : LocalWorkerManager)
    (lw : LocalWorkerIdentity) :
    (∃ next, managerStep profile urlparse manager (.receivedKeepAlive lw) = some next ∧
      (¬ Parses urlparse lw.addressString → SameTable manager next)) ↔
    Harmless urlparse manager lw := by
  by_cases live : ∃ klw, manager.lwMap[lw.publicKey]? = some klw ∧ klw.status ≠ .dead
  · obtain ⟨klw, found, alive⟩ := live
    have handled := @handleMessage_updates profile urlparse manager lw klw found alive
    have stepped : managerStep profile urlparse manager (.receivedKeepAlive lw) =
        some { manager with
          lwMap := manager.lwMap.insert lw.publicKey (updateLocalWorker klw lw).1 } :=
      managerStep_eq_some.mpr ⟨_, handled⟩
    rw [stepped]
    constructor
    · rintro ⟨next, taken, unchanged⟩
      cases taken
      by_cases parses : Parses urlparse lw.addressString
      · exact Or.inl parses
      · have fixed := (sameTable_insert_iff manager found).mp (unchanged parses)
        exact Or.inr ⟨klw, found, (updateLocalWorker_fixed_iff klw lw alive).mp fixed⟩
    · intro harmless
      refine ⟨_, rfl, ?_⟩
      intro unparsed
      rcases harmless with parses | ⟨other, foundOther, renewed⟩
      · exact absurd parses unparsed
      · rw [found] at foundOther
        cases foundOther
        apply (sameTable_insert_iff manager found).mpr
        exact (updateLocalWorker_fixed_iff klw lw alive).mpr renewed
  · have notLive : ∀ klw, manager.lwMap[lw.publicKey]? = some klw → klw.status = .dead := by
      intro klw found
      by_contra alive
      exact live ⟨klw, found, alive⟩
    have creates := @handleMessage_creates profile urlparse manager lw notLive
    constructor
    · rintro ⟨next, taken, _⟩
      by_cases parses : Parses urlparse lw.addressString
      · exact Or.inl parses
      · obtain ⟨notices, handled⟩ := managerStep_eq_some.mp taken
        rw [creates, createLocalWorker_panics parses] at handled
        cases handled
    · rintro (parses | ⟨klw, found, renewed⟩)
      · obtain ⟨hostname, hostAt⟩ := Option.isSome_iff_exists.mp parses.1
        obtain ⟨port, portAt⟩ := Option.isSome_iff_exists.mp parses.2
        refine ⟨_, managerStep_eq_some.mpr ⟨_, creates.trans (createLocalWorker_ok hostAt portAt)⟩,
          ?_⟩
        intro unparsed
        exact absurd parses unparsed
      · have dead := notLive klw found
        rw [renewed.1] at dead
        cases dead

/-- Every keepalive of the messages was handled at its turn, and left the table
alone when its address does not parse. -/
def SurvivesKeepalives (profile : BuildProfile) (urlparse : String → Uri)
    (messages : List LocalWorkerManagerChannelMessage) : Prop :=
  (∃ final, localWorkerManager profile urlparse messages = some final) ∧
    ∀ before lw after, messages = before ++ .receivedKeepAlive lw :: after →
      ∀ manager next, localWorkerManager profile urlparse before = some manager →
        managerStep profile urlparse manager (.receivedKeepAlive lw) = some next →
        ¬ Parses urlparse lw.addressString → SameTable manager next

/-- The manager survives a run of messages, ignoring the keepalives it cannot
use, exactly when every keepalive is harmless in the state it meets. -/
theorem survivesKeepalives_iff (profile : BuildProfile) (urlparse : String → Uri)
    (messages : List LocalWorkerManagerChannelMessage) :
    SurvivesKeepalives profile urlparse messages ↔
      ∀ before lw after, messages = before ++ .receivedKeepAlive lw :: after →
        ∀ manager, localWorkerManager profile urlparse before = some manager →
          Harmless urlparse manager lw := by
  constructor
  · rintro ⟨⟨final, run⟩, ignored⟩ before lw after split manager reached
    rw [split] at run
    obtain ⟨current, next, reached', stepped, _⟩ := replay_split run
    unfold localWorkerManager at reached
    rw [reached] at reached'
    cases reached'
    apply (keepalive_handled_iff profile manager lw).mp
    exact ⟨next, stepped, ignored before lw after split manager next reached stepped⟩
  · intro harmless
    refine ⟨?_, ?_⟩
    · induction messages using List.reverseRecOn with
      | nil => exact ⟨LocalWorkerManager.initial, rfl⟩
      | append_singleton before message ih =>
          obtain ⟨manager, reached⟩ := ih fun earlier lw after split =>
            harmless earlier lw (after ++ [message]) (by rw [split]; simp)
          have continues : ∃ next, managerStep profile urlparse manager message = some next := by
            cases message with
            | shouldCheckPeerHealth =>
                rcases (localWorkerManager_tracks reached).step profile .shouldCheckPeerHealth with
                  ⟨next, stepped, _⟩ | ⟨lw, impossible, _⟩
                · exact ⟨next, stepped⟩
                · cases impossible
            | receivedKeepAlive lw =>
                obtain ⟨next, stepped, _⟩ := (keepalive_handled_iff profile manager lw).mpr
                  (harmless before lw [] rfl manager reached)
                exact ⟨next, stepped⟩
          obtain ⟨next, stepped⟩ := continues
          refine ⟨next, ?_⟩
          unfold localWorkerManager at reached ⊢
          rw [replay_concat, reached]
          exact stepped
    · intro before lw after split manager next reached stepped unparsed
      obtain ⟨handled, taken, unchanged⟩ := (keepalive_handled_iff profile manager lw).mpr
        (harmless before lw after split manager reached)
      rw [stepped] at taken
      cases taken
      exact unchanged unparsed

/-- One keepalive with an address that names no host ends the broker, and with
it the tracking of the worker that was there before. -/
theorem keepalive_without_host_ends_broker :
    (∃ manager, localWorkerManager .release exampleUrlparse
      [.receivedKeepAlive (exampleKeepalive "0a" "http://10.0.0.2:1982")] = some manager) ∧
    ¬ SurvivesKeepalives .release exampleUrlparse
      [.receivedKeepAlive (exampleKeepalive "0a" "http://10.0.0.2:1982"),
        .receivedKeepAlive (exampleKeepalive "0b" "")] := by
  constructor
  · exact ⟨_, rfl⟩
  · rintro ⟨⟨final, run⟩, _⟩
    have ended : localWorkerManager .release exampleUrlparse
        [.receivedKeepAlive (exampleKeepalive "0a" "http://10.0.0.2:1982"),
          .receivedKeepAlive (exampleKeepalive "0b" "")] = none := by
      rfl
    rw [ended] at run
    cases run

end ServiceNetwork.ServiceBroker
