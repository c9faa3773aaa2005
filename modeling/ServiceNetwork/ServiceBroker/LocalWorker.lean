/-
The broker's table of local workers and the task that owns it.

`localWorkerManager` handles two messages: a periodic health check over the
cached key list, and a keepalive, which creates an entry for an unknown or dead
key and refreshes the entry of a live one.  The cached key list is rebuilt only
when an entry is created.
-/

import ServiceNetwork.Config
import ServiceNetwork.Library.Replay
import ServiceNetwork.Library.Sweep

namespace ServiceNetwork.ServiceBroker

open Std
open ServiceNetwork.Replay
open ServiceNetwork.Sweep

inductive KnownLocalWorkerStatus where
  | active
  | lost
  | dead
  deriving DecidableEq, Repr

structure KnownLocalWorker where
  status : KnownLocalWorkerStatus
  hostname : String
  forwarderPort : UInt16
  addressString : String
  publicPort : UInt16
  publicKey : String
  instanceName : String
  instanceId : String
  lostCount : UInt8
  lostMark : Bool
  deriving DecidableEq, Repr

abbrev LocalWorkerMap := TreeMap String KnownLocalWorker

inductive LocalWorkerManagerChannelMessage where
  | shouldCheckPeerHealth
  | receivedKeepAlive (lw : LocalWorkerIdentity)
  deriving DecidableEq, Repr

/-- The log lines of the two update paths, with the name they are about. -/
inductive Notice where
  | helloNewWorker (instanceName publicKey : String)
  | changedInstanceId (instanceName : String)
  | changedAddress (instanceName : String)
  | changedPublicKey (instanceName : String)
  | recoveredFromLost (instanceName : String)
  | updateRanForDead (instanceName : String)
  deriving DecidableEq, Repr

structure LocalWorkerManager where
  lwMap : LocalWorkerMap
  lwVecKeys : List String

def LocalWorkerManager.initial : LocalWorkerManager :=
  { lwMap := ∅
    lwVecKeys := [] }

def isLive (lw : KnownLocalWorker) : Bool :=
  match lw.status with
  | .dead => false
  | _ => true

def createLocalWorker (urlparse : String → Uri) (lwMap : LocalWorkerMap)
    (lw : LocalWorkerIdentity) : Except Panic (LocalWorkerManager × List Notice) := do
  let uri := urlparse lw.addressString
  let hostname ← unwrap uri.hostname
  let forwarderPort ← unwrap uri.port
  let ret : KnownLocalWorker :=
    { status := .active
      hostname := hostname
      forwarderPort := forwarderPort
      instanceName := lw.instanceName
      instanceId := lw.instanceId
      addressString := lw.addressString
      publicKey := lw.publicKey
      publicPort := lw.publicPort
      lostCount := 0
      lostMark := false }
  let lwMap := lwMap.insert lw.publicKey ret
  return ({ lwMap := lwMap, lwVecKeys := keysWhere isLive lwMap },
    [.helloNewWorker lw.instanceName lw.publicKey])

/-- The comparisons against the stored entry only log; the instance id is the
one identity field that is stored again. -/
def updateLocalWorker (klw : KnownLocalWorker) (lw : LocalWorkerIdentity) :
    KnownLocalWorker × List Notice :=
  let instanceNotice :=
    if lw.instanceId = klw.instanceId then [] else [Notice.changedInstanceId lw.instanceName]
  let klw := { klw with instanceId := lw.instanceId }
  let addressNotice :=
    if lw.addressString = klw.addressString then [] else [Notice.changedAddress lw.instanceName]
  let keyNotice :=
    if lw.publicKey = klw.publicKey then [] else [Notice.changedPublicKey lw.instanceName]
  let notices := instanceNotice ++ addressNotice ++ keyNotice
  match klw.status with
  | .active => ({ klw with lostMark := false, lostCount := 0 }, notices)
  | .lost =>
      ({ klw with status := .active, lostCount := 0, lostMark := false },
        notices ++ [.recoveredFromLost lw.instanceName])
  | .dead => (klw, notices ++ [.updateRanForDead lw.instanceName])

/-- The body of the health-check loop for one entry it finds. -/
def checkPeer (profile : BuildProfile) (lw : KnownLocalWorker) : Except Panic KnownLocalWorker :=
  match lw.status with
  | .active => do
      let status :=
        if lw.lostMark ∧ lw.lostCount > brokerPeerLostCount then .lost else lw.status
      let lostCount ← u8AddOne profile lw.lostCount
      return { lw with status := status, lostMark := true, lostCount := lostCount }
  | .lost => do
      let status := if lw.lostCount > brokerPeerDeadCount then .dead else lw.status
      let lostCount ← u8AddOne profile lw.lostCount
      return { lw with status := status, lostMark := true, lostCount := lostCount }
  | .dead => return lw

def checkPeerHealth (profile : BuildProfile) (lwMap : LocalWorkerMap) (lwVecKeys : List String) :
    Except Panic LocalWorkerMap :=
  sweep (checkPeer profile) lwMap lwVecKeys

/-- One turn of the receive loop, with the log lines of the keepalive paths. -/
def handleMessage (profile : BuildProfile) (urlparse : String → Uri)
    (manager : LocalWorkerManager) :
    LocalWorkerManagerChannelMessage → Except Panic (LocalWorkerManager × List Notice)
  | .shouldCheckPeerHealth => do
      let lwMap ← checkPeerHealth profile manager.lwMap manager.lwVecKeys
      return ({ manager with lwMap := lwMap }, [])
  | .receivedKeepAlive lw =>
      match manager.lwMap[lw.publicKey]? with
      | none => createLocalWorker urlparse manager.lwMap lw
      | some klw =>
          match klw.status with
          | .dead => createLocalWorker urlparse manager.lwMap lw
          | _ =>
              let (klw, notices) := updateLocalWorker klw lw
              .ok ({ manager with lwMap := manager.lwMap.insert lw.publicKey klw }, notices)

/-- The state left by one turn; a panic of the task ends the broker process. -/
def managerStep (profile : BuildProfile) (urlparse : String → Uri)
    (manager : LocalWorkerManager) (message : LocalWorkerManagerChannelMessage) :
    Option LocalWorkerManager :=
  match handleMessage profile urlparse manager message with
  | .ok (next, _) => some next
  | .error _ => none

/-- `localWorkerManager` from its empty start over the messages it receives. -/
def localWorkerManager (profile : BuildProfile) (urlparse : String → Uri)
    (messages : List LocalWorkerManagerChannelMessage) : Option LocalWorkerManager :=
  replay (managerStep profile urlparse) LocalWorkerManager.initial messages

/-- The address yields both components that `createLocalWorker` unwraps. -/
def Parses (urlparse : String → Uri) (addressString : String) : Prop :=
  (urlparse addressString).hostname.isSome ∧ (urlparse addressString).port.isSome

instance (urlparse : String → Uri) (addressString : String) :
    Decidable (Parses urlparse addressString) :=
  inferInstanceAs (Decidable (_ ∧ _))

theorem createLocalWorker_ok {urlparse : String → Uri} {lwMap : LocalWorkerMap}
    {lw : LocalWorkerIdentity} {hostname : String} {port : UInt16}
    (parsedHost : (urlparse lw.addressString).hostname = some hostname)
    (parsedPort : (urlparse lw.addressString).port = some port) :
    createLocalWorker urlparse lwMap lw =
      .ok
        (let created := lwMap.insert lw.publicKey
          { status := .active, hostname := hostname, forwarderPort := port,
            addressString := lw.addressString, publicPort := lw.publicPort,
            publicKey := lw.publicKey, instanceName := lw.instanceName,
            instanceId := lw.instanceId, lostCount := 0, lostMark := false }
        ({ lwMap := created, lwVecKeys := keysWhere isLive created },
          [.helloNewWorker lw.instanceName lw.publicKey])) := by
  simp only [createLocalWorker, parsedHost, parsedPort, unwrap_some]
  rfl

theorem createLocalWorker_panics {urlparse : String → Uri} {lwMap : LocalWorkerMap}
    {lw : LocalWorkerIdentity} (unparsed : ¬ Parses urlparse lw.addressString) :
    createLocalWorker urlparse lwMap lw = .error .unwrapNone := by
  cases hostAt : (urlparse lw.addressString).hostname with
  | none =>
      simp only [createLocalWorker, hostAt, unwrap_none]
      rfl
  | some hostname =>
      cases portAt : (urlparse lw.addressString).port with
      | none =>
          simp only [createLocalWorker, hostAt, portAt, unwrap_some, unwrap_none]
          rfl
      | some port =>
          exfalso
          apply unparsed
          unfold Parses
          rw [hostAt, portAt]
          exact ⟨rfl, rfl⟩

theorem handleMessage_creates (profile : BuildProfile) {urlparse : String → Uri}
    {manager : LocalWorkerManager} {lw : LocalWorkerIdentity}
    (notLive : ∀ klw, manager.lwMap[lw.publicKey]? = some klw → klw.status = .dead) :
    handleMessage profile urlparse manager (.receivedKeepAlive lw) =
      createLocalWorker urlparse manager.lwMap lw := by
  simp only [handleMessage]
  cases found : manager.lwMap[lw.publicKey]? with
  | none => rfl
  | some klw => simp only [notLive klw found]

theorem handleMessage_updates (profile : BuildProfile) {urlparse : String → Uri}
    {manager : LocalWorkerManager} {lw : LocalWorkerIdentity} {klw : KnownLocalWorker}
    (found : manager.lwMap[lw.publicKey]? = some klw) (live : klw.status ≠ .dead) :
    handleMessage profile urlparse manager (.receivedKeepAlive lw) =
      .ok ({ manager with
          lwMap := manager.lwMap.insert lw.publicKey (updateLocalWorker klw lw).1 },
        (updateLocalWorker klw lw).2) := by
  simp only [handleMessage, found]

end ServiceNetwork.ServiceBroker
