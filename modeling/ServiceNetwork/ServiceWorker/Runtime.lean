/-
The worker runtime and the handlers of its event loop.

Every handler reads and writes one `WorkerRuntime` under its lock and appends
messages to the one queue the event loop reads.  What a handler learns from
outside (pRuntime, mDNS, the network interfaces) is an argument, `Outside`.
Sleeps and log lines are left out; a full channel is not modelled.
-/

import ServiceNetwork.Config
import ServiceNetwork.Peer.Broker

namespace ServiceNetwork.ServiceWorker

open ServiceNetwork.Peer

structure PhactoryInfo where
  version : String
  initialized : Bool
  publicKey : Option String
  deriving DecidableEq, Repr

structure NetworkConfigResponse where
  publicRpcPort : Option UInt32
  deriving DecidableEq, Repr

structure WorkerRuntimeFailReason where
  broker : Option String
  pr : Option String
  deriving DecidableEq, Repr

inductive WorkerRuntimeStatus where
  | starting
  | waitingForBroker
  | pendingProvision
  | started
  | failed (reason : WorkerRuntimeFailReason)
  deriving DecidableEq, Repr

inductive WorkerRuntimeChannelMessage where
  | shouldUpdateInfo (info : PhactoryInfo)
  | shouldSetPRuntimeFailed (msg : String)
  | shouldSetBrokerFailed (msg : String)
  | shouldUpdateStatus (status : WorkerRuntimeStatus)
  | shouldLockBroker (peer : BrokerPeer)
  deriving DecidableEq, Repr

structure WorkerRuntime where
  status : WorkerRuntimeStatus
  initialInfo : Option PhactoryInfo
  lastInfo : Option PhactoryInfo
  prRpcPort : UInt32
  pruntimeHostname : String
  pruntimeRpcPrefix : String
  peerBrowserStarted : Bool
  publicKey : Option String
  bestBroker : Option BrokerPeer
  bestBrokerName : Option String
  bestBrokerMgmtUrl : Option String
  keepaliveContent : Option String
  networkStatus : Option NetworkConfigResponse
  deriving DecidableEq, Repr

def WorkerRuntime.new : WorkerRuntime :=
  { status := .starting
    initialInfo := none
    lastInfo := none
    prRpcPort := 0
    pruntimeHostname := ""
    pruntimeRpcPrefix := ""
    peerBrowserStarted := false
    publicKey := none
    bestBroker := none
    bestBrokerName := none
    bestBrokerMgmtUrl := none
    keepaliveContent := none
    networkStatus := none }

/-- One worker process: its configuration, and the libraries it links.
`versionSupported` is `none` on a string that is not a version, and otherwise
whether the version satisfies `>=2.0.0`. -/
structure WorkerProcess where
  config : PeerConfig
  localWorker : LocalWorkerConfig
  built : ∃ sample commonEnv brokerEnv, PeerConfig.buildFromEnv sample commonEnv brokerEnv
    (.ok localWorker) (.prLocalWorker none) = .ok config
  profile : BuildProfile
  urlparse : String → Uri
  versionSupported : String → Option Bool
  atoi : String → Option UInt8
  json : SerdeJson

theorem WorkerProcess.localWorker_eq (process : WorkerProcess) :
    process.config.localWorker = .ok process.localWorker := by
  obtain ⟨sample, commonEnv, brokerEnv, built⟩ := process.built
  obtain ⟨_, _, worker, same, has⟩ := PeerConfig.localWorker_of_buildFromEnv built
  cases same
  exact has

/-- What one handler call learns from outside the process. -/
structure Outside where
  networkConfig : Except String NetworkConfigResponse
  interfaces : List Ipv4Addr
  stopBrowse : Except String Unit
  configNetwork : String → Except String Unit

/-- What one handler call leaves: the runtime, the messages it sent in order,
and the number of `waitForBrokerPeer` tasks it spawned. -/
structure Handled where
  runtime : WorkerRuntime
  sent : List WorkerRuntimeChannelMessage
  spawned : Nat
  deriving DecidableEq, Repr

def WorkerRuntime.recoverFromFailure (wr : WorkerRuntime) : List WorkerRuntimeChannelMessage :=
  match wr.status with
  | .failed _ => [.shouldUpdateStatus .starting]
  | _ => []

def WorkerRuntime.handleUpdateInfo (process : WorkerProcess) (outside : Outside)
    (wr : WorkerRuntime) (info : PhactoryInfo) : Except Panic Handled :=
  match wr.status with
  | .starting => do
      let localWorker ← process.config.localWorker
      let pruntimeHostname ← unwrap (process.urlparse localWorker.pruntimeAddress).hostname
      let wr := { wr with pruntimeHostname := pruntimeHostname }
      let supported ← unwrap (process.versionSupported info.version)
      if !supported then
        return ⟨wr, [.shouldSetPRuntimeFailed "pRuntime version unsupported!"], 0⟩
      if !info.initialized then
        return ⟨wr, [.shouldSetPRuntimeFailed "pRuntime not initialized!"], 0⟩
      match outside.networkConfig with
      | .error error =>
          return ⟨{ wr with networkStatus := none }, [.shouldSetPRuntimeFailed error], 0⟩
      | .ok networkStatus =>
          let wr := { wr with networkStatus := some networkStatus }
          match networkStatus.publicRpcPort with
          | none =>
              return ⟨{ wr with prRpcPort := 0 },
                [.shouldSetPRuntimeFailed "Public port not enabled in pRuntime!"], 0⟩
          | some prRpcPort =>
              let wr :=
                { wr with
                  prRpcPort := prRpcPort
                  pruntimeRpcPrefix :=
                    "http://" ++ wr.pruntimeHostname ++ ":" ++ toString prRpcPort }
              match info.publicKey with
              | none =>
                  return ⟨wr, [.shouldSetPRuntimeFailed "pRuntime has invalid public key!"], 0⟩
              | some publicKey =>
                  return ⟨{ wr with
                      publicKey := some publicKey
                      initialInfo := some info
                      lastInfo := some info },
                    [.shouldUpdateStatus .waitingForBroker], 0⟩
  | .failed _ => .ok ⟨{ wr with lastInfo := some info }, wr.recoverFromFailure, 0⟩
  | _ => .ok ⟨{ wr with lastInfo := some info }, [], 0⟩

/-- The host itself, or the first of the addresses when it is `0.0.0.0`. -/
def concreteHost (addresses : List Ipv4Addr) (host : String) : Except Panic String :=
  if host = "0.0.0.0" then (unwrap addresses.head?).map Ipv4Addr.toString else .ok host

/-- The identity that `handleLockPeer` serialises into the keepalive. -/
def WorkerRuntime.keepaliveIdentity (process : WorkerProcess) (outside : Outside)
    (wr : WorkerRuntime) (peer : BrokerPeer) : Except Panic LocalWorkerIdentity := do
  let networkStatus ← unwrap wr.networkStatus
  let publicRpcPort ← unwrap networkStatus.publicRpcPort
  let localWorker ← process.config.localWorker
  let fa ← unwrap localWorker.forwarderBindAddresses.head?
  let fa := splitChar ':' fa
  let fap ← unwrap fa[1]?
  let fa ← unwrap fa[0]?
  let fa ← concreteHost outside.interfaces fa
  let publicKey ← unwrap wr.publicKey
  return {
    instanceName := peer.instanceName
    instanceId := peer.id
    addressString := "http://" ++ fa ++ ":" ++ fap
    publicPort := publicRpcPort.toUInt16
    publicKey := publicKey }

def WorkerRuntime.handleLockPeer (process : WorkerProcess) (outside : Outside)
    (wr : WorkerRuntime) (peer : BrokerPeer) : Except Panic Handled := do
  let keepaliveContent ← wr.keepaliveIdentity process outside peer
  return ⟨{ wr with
      bestBroker := some peer
      bestBrokerName := some peer.instanceName
      bestBrokerMgmtUrl := some peer.mgmtAddr
      keepaliveContent := some (process.json.writeIdentity keepaliveContent) },
    [.shouldUpdateStatus .pendingProvision], 0⟩

/-- The proxy address read from a peer's announcement. -/
def outboundProxy (peer : BrokerPeer) : Except Panic String := do
  let oa ← unwrap (peer.serviceInfo.getProperty "oa")
  let oa ← unwrap ((splitChar ',' oa).map trim)[0]?
  let oa := splitChar ':' oa
  let oap ← unwrap oa[1]?
  let oa ← unwrap oa[0]?
  let oa ← concreteHost peer.serviceInfo.addresses oa
  return "socks5://" ++ oa ++ ":" ++ oap

def setPruntimeNetworkWithPeer (outside : Outside) (peer : BrokerPeer) :
    Except Panic (Except String Unit) := do
  let allProxy ← outboundProxy peer
  match outside.configNetwork allProxy with
  | .ok () => return .ok ()
  | .error error => return .error ("Failed to configure pRuntime network" ++ error)

def WorkerRuntime.handleUpdateStatus (outside : Outside) (wr : WorkerRuntime)
    (newStatus : WorkerRuntimeStatus) : Except Panic Handled :=
  match newStatus with
  | .starting => .ok ⟨{ wr with status := newStatus }, [], 0⟩
  | .waitingForBroker =>
      .ok ⟨{ wr with peerBrowserStarted := true, status := newStatus }, [], 1⟩
  | .pendingProvision =>
      match outside.stopBrowse with
      | .error error => .error (.message ("Failed to stop broker browsing: " ++ error))
      | .ok () => do
          let bestBroker ← unwrap wr.bestBroker
          match ← setPruntimeNetworkWithPeer outside bestBroker with
          | .error error =>
              return ⟨{ wr with status := newStatus }, [.shouldSetBrokerFailed error], 0⟩
          | .ok () =>
              return ⟨{ wr with status := newStatus }, [.shouldUpdateStatus .started], 0⟩
  | .started => .ok ⟨{ wr with status := newStatus }, [], 0⟩
  | .failed _ => .ok ⟨{ wr with status := newStatus }, [], 0⟩

def WorkerRuntime.handleBrokerFailure (wr : WorkerRuntime) (msg : String) :
    List WorkerRuntimeChannelMessage :=
  match wr.status with
  | .failed reason =>
      if reason.broker = some msg then []
      else [.shouldUpdateStatus (.failed { reason with broker := some msg })]
  | _ => [.shouldUpdateStatus (.failed { pr := none, broker := some msg })]

def WorkerRuntime.handlePruntimeFailure (wr : WorkerRuntime) (msg : String) :
    List WorkerRuntimeChannelMessage :=
  match wr.status with
  | .failed reason =>
      if reason.pr = some msg then []
      else [.shouldUpdateStatus (.failed { reason with pr := some msg })]
  | _ => [.shouldUpdateStatus (.failed { broker := none, pr := some msg })]

/-- One turn of the event loop on the message it received. -/
def handleRuntimeEvent (process : WorkerProcess) (outside : Outside) (wr : WorkerRuntime) :
    WorkerRuntimeChannelMessage → Except Panic Handled
  | .shouldSetPRuntimeFailed msg => .ok ⟨wr, wr.handlePruntimeFailure msg, 0⟩
  | .shouldSetBrokerFailed msg => .ok ⟨wr, wr.handleBrokerFailure msg, 0⟩
  | .shouldUpdateInfo info => wr.handleUpdateInfo process outside info
  | .shouldUpdateStatus status => wr.handleUpdateStatus outside status
  | .shouldLockBroker peer => wr.handleLockPeer process outside peer

/-! ### What each handler can leave -/

/-- The outcomes of an info handled in `Starting`, in the order of the checks.
Each refusal keeps what the checks before it have written. -/
inductive StartingOutcome (process : WorkerProcess) (outside : Outside) (wr : WorkerRuntime)
    (info : PhactoryInfo) (hostname : String) : Handled → Prop where
  | unsupported (supported : process.versionSupported info.version = some false) :
      StartingOutcome process outside wr info hostname
        ⟨{ wr with pruntimeHostname := hostname },
          [.shouldSetPRuntimeFailed "pRuntime version unsupported!"], 0⟩
  | uninitialized (supported : process.versionSupported info.version = some true)
      (initialized : info.initialized = false) :
      StartingOutcome process outside wr info hostname
        ⟨{ wr with pruntimeHostname := hostname },
          [.shouldSetPRuntimeFailed "pRuntime not initialized!"], 0⟩
  | unconfigured (supported : process.versionSupported info.version = some true)
      (initialized : info.initialized = true) (error : String)
      (answered : outside.networkConfig = .error error) :
      StartingOutcome process outside wr info hostname
        ⟨{ wr with pruntimeHostname := hostname, networkStatus := none },
          [.shouldSetPRuntimeFailed error], 0⟩
  | portless (supported : process.versionSupported info.version = some true)
      (initialized : info.initialized = true) (config : NetworkConfigResponse)
      (answered : outside.networkConfig = .ok config) (port : config.publicRpcPort = none) :
      StartingOutcome process outside wr info hostname
        ⟨{ wr with pruntimeHostname := hostname, networkStatus := some config, prRpcPort := 0 },
          [.shouldSetPRuntimeFailed "Public port not enabled in pRuntime!"], 0⟩
  | keyless (supported : process.versionSupported info.version = some true)
      (initialized : info.initialized = true) (config : NetworkConfigResponse)
      (answered : outside.networkConfig = .ok config) (rpcPort : UInt32)
      (port : config.publicRpcPort = some rpcPort) (key : info.publicKey = none) :
      StartingOutcome process outside wr info hostname
        ⟨{ wr with
            pruntimeHostname := hostname
            networkStatus := some config
            prRpcPort := rpcPort
            pruntimeRpcPrefix := "http://" ++ hostname ++ ":" ++ toString rpcPort },
          [.shouldSetPRuntimeFailed "pRuntime has invalid public key!"], 0⟩
  | admitted (supported : process.versionSupported info.version = some true)
      (initialized : info.initialized = true) (config : NetworkConfigResponse)
      (answered : outside.networkConfig = .ok config) (rpcPort : UInt32)
      (port : config.publicRpcPort = some rpcPort) (publicKey : String)
      (key : info.publicKey = some publicKey) :
      StartingOutcome process outside wr info hostname
        ⟨{ wr with
            pruntimeHostname := hostname
            networkStatus := some config
            prRpcPort := rpcPort
            pruntimeRpcPrefix := "http://" ++ hostname ++ ":" ++ toString rpcPort
            publicKey := some publicKey
            initialInfo := some info
            lastInfo := some info },
          [.shouldUpdateStatus .waitingForBroker], 0⟩

theorem handleUpdateInfo_starting {process : WorkerProcess} {outside : Outside}
    {wr : WorkerRuntime} {info : PhactoryInfo} {handled : Handled}
    (starting : wr.status = .starting)
    (returned : wr.handleUpdateInfo process outside info = .ok handled) :
    ∃ hostname,
      (process.urlparse process.localWorker.pruntimeAddress).hostname = some hostname ∧
      StartingOutcome process outside wr info hostname handled := by
  obtain ⟨status, _, _, _, _, _, _, _, _, _, _, _, _⟩ := wr
  cases starting
  obtain ⟨localWorker, configured, returned⟩ := bind_eq_ok.mp returned
  rw [process.localWorker_eq] at configured
  cases configured
  obtain ⟨hostname, hostAt, returned⟩ := bind_eq_ok.mp returned
  refine ⟨hostname, (unwrap_eq_ok _ _).mp hostAt, ?_⟩
  obtain ⟨supported, supportedAt, returned⟩ := bind_eq_ok.mp returned
  rw [unwrap_eq_ok] at supportedAt
  cases supported with
  | false =>
      cases returned
      exact .unsupported supportedAt
  | true =>
      cases initialized : info.initialized with
      | false =>
          simp only [initialized] at returned
          cases returned
          exact .uninitialized supportedAt initialized
      | true =>
          simp only [initialized] at returned
          cases answered : outside.networkConfig with
          | error error =>
              rw [answered] at returned
              cases returned
              exact .unconfigured supportedAt initialized error answered
          | ok config =>
              rw [answered] at returned
              cases port : config.publicRpcPort with
              | none =>
                  simp only [port] at returned
                  cases returned
                  exact .portless supportedAt initialized config answered port
              | some rpcPort =>
                  simp only [port] at returned
                  cases key : info.publicKey with
                  | none =>
                      rw [key] at returned
                      cases returned
                      exact .keyless supportedAt initialized config answered rpcPort port key
                  | some publicKey =>
                      rw [key] at returned
                      cases returned
                      exact .admitted supportedAt initialized config answered rpcPort port
                        publicKey key

/-- Outside `Starting` an info is only recorded, and a failed worker asks to be
reset. -/
theorem handleUpdateInfo_later {process : WorkerProcess} {outside : Outside}
    {wr : WorkerRuntime} {info : PhactoryInfo} (later : wr.status ≠ .starting) :
    wr.handleUpdateInfo process outside info =
      .ok ⟨{ wr with lastInfo := some info }, wr.recoverFromFailure, 0⟩ := by
  unfold WorkerRuntime.handleUpdateInfo WorkerRuntime.recoverFromFailure
  cases status : wr.status with
  | starting => exact absurd status later
  | waitingForBroker | pendingProvision | started | failed reason => rfl

theorem handleLockPeer_eq_ok {process : WorkerProcess} {outside : Outside}
    {wr : WorkerRuntime} {peer : BrokerPeer} {handled : Handled} :
    wr.handleLockPeer process outside peer = .ok handled ↔
      ∃ identity, wr.keepaliveIdentity process outside peer = .ok identity ∧
        handled =
          ⟨{ wr with
              bestBroker := some peer
              bestBrokerName := some peer.instanceName
              bestBrokerMgmtUrl := some peer.mgmtAddr
              keepaliveContent := some (process.json.writeIdentity identity) },
            [.shouldUpdateStatus .pendingProvision], 0⟩ := by
  unfold WorkerRuntime.handleLockPeer
  rw [bind_eq_ok]
  constructor
  · rintro ⟨identity, built, returned⟩
    cases returned
    exact ⟨identity, built, rfl⟩
  · rintro ⟨identity, built, rfl⟩
    exact ⟨identity, built, rfl⟩

/-- The forwarder address in the keepalive, which the runtime state has no part
in. -/
def forwarderAddress (localWorker : LocalWorkerConfig) (interfaces : List Ipv4Addr) :
    Except Panic String := do
  let fa ← unwrap localWorker.forwarderBindAddresses.head?
  let fa := splitChar ':' fa
  let fap ← unwrap fa[1]?
  let fa ← unwrap fa[0]?
  let fa ← concreteHost interfaces fa
  return "http://" ++ fa ++ ":" ++ fap

/-- A keepalive identity is built exactly from a known key, a public port and a
forwarder address. -/
theorem keepaliveIdentity_eq_ok {process : WorkerProcess} {outside : Outside}
    {wr : WorkerRuntime} {peer : BrokerPeer} {identity : LocalWorkerIdentity} :
    wr.keepaliveIdentity process outside peer = .ok identity ↔
      ∃ config rpcPort publicKey address, wr.networkStatus = some config ∧
        config.publicRpcPort = some rpcPort ∧ wr.publicKey = some publicKey ∧
        forwarderAddress process.localWorker outside.interfaces = .ok address ∧
        identity =
          { instanceName := peer.instanceName
            instanceId := peer.id
            addressString := address
            publicPort := rpcPort.toUInt16
            publicKey := publicKey } := by
  constructor
  · intro built
    obtain ⟨config, configAt, built⟩ := bind_eq_ok.mp built
    obtain ⟨rpcPort, portAt, built⟩ := bind_eq_ok.mp built
    obtain ⟨localWorker, configured, built⟩ := bind_eq_ok.mp built
    rw [process.localWorker_eq] at configured
    cases configured
    obtain ⟨first, firstAt, built⟩ := bind_eq_ok.mp built
    obtain ⟨forwarderPort, forwarderPortAt, built⟩ := bind_eq_ok.mp built
    obtain ⟨host, hostAt, built⟩ := bind_eq_ok.mp built
    obtain ⟨concrete, concreteAt, built⟩ := bind_eq_ok.mp built
    obtain ⟨publicKey, keyAt, built⟩ := bind_eq_ok.mp built
    cases built
    refine ⟨config, rpcPort, publicKey, _, (unwrap_eq_ok _ _).mp configAt,
      (unwrap_eq_ok _ _).mp portAt, (unwrap_eq_ok _ _).mp keyAt, ?_, rfl⟩
    simp only [forwarderAddress, firstAt, forwarderPortAt, hostAt, concreteAt, bind, Except.bind]
    rfl
  · rintro ⟨config, rpcPort, publicKey, address, configAt, portAt, keyAt, addressed, rfl⟩
    obtain ⟨first, firstAt, addressed⟩ := bind_eq_ok.mp addressed
    obtain ⟨forwarderPort, forwarderPortAt, addressed⟩ := bind_eq_ok.mp addressed
    obtain ⟨host, hostAt, addressed⟩ := bind_eq_ok.mp addressed
    obtain ⟨concrete, concreteAt, addressed⟩ := bind_eq_ok.mp addressed
    cases addressed
    simp only [WorkerRuntime.keepaliveIdentity, configAt, portAt, process.localWorker_eq, firstAt,
      forwarderPortAt, hostAt, concreteAt, keyAt, unwrap_some, bind, Except.bind]
    rfl

/-- A keepalive identity is only built from a known key and a public port, and
its name and id are those of the peer. -/
theorem keepaliveIdentity_ok {process : WorkerProcess} {outside : Outside}
    {wr : WorkerRuntime} {peer : BrokerPeer} {identity : LocalWorkerIdentity}
    (built : wr.keepaliveIdentity process outside peer = .ok identity) :
    identity.instanceName = peer.instanceName ∧ identity.instanceId = peer.id ∧
      wr.publicKey = some identity.publicKey ∧
      ∃ config rpcPort, wr.networkStatus = some config ∧ config.publicRpcPort = some rpcPort := by
  obtain ⟨config, rpcPort, publicKey, address, configAt, portAt, keyAt, _, rfl⟩ :=
    keepaliveIdentity_eq_ok.mp built
  exact ⟨rfl, rfl, keyAt, config, rpcPort, configAt, portAt⟩

/-- A status update that returns wrote the new status, and the other fields but
for the browser flag are untouched. -/
inductive StatusOutcome (wr : WorkerRuntime) : WorkerRuntimeStatus → Handled → Prop where
  | starting :
      StatusOutcome wr .starting ⟨{ wr with status := .starting }, [], 0⟩
  | waitingForBroker :
      StatusOutcome wr .waitingForBroker
        ⟨{ wr with peerBrowserStarted := true, status := .waitingForBroker }, [], 1⟩
  | provisioned (peer : BrokerPeer) (locked : wr.bestBroker = some peer) :
      StatusOutcome wr .pendingProvision
        ⟨{ wr with status := .pendingProvision }, [.shouldUpdateStatus .started], 0⟩
  | unprovisioned (peer : BrokerPeer) (locked : wr.bestBroker = some peer) (error : String) :
      StatusOutcome wr .pendingProvision
        ⟨{ wr with status := .pendingProvision }, [.shouldSetBrokerFailed error], 0⟩
  | started :
      StatusOutcome wr .started ⟨{ wr with status := .started }, [], 0⟩
  | failed (reason : WorkerRuntimeFailReason) :
      StatusOutcome wr (.failed reason) ⟨{ wr with status := .failed reason }, [], 0⟩

theorem handleUpdateStatus_outcome {outside : Outside} {wr : WorkerRuntime}
    {newStatus : WorkerRuntimeStatus} {handled : Handled}
    (returned : wr.handleUpdateStatus outside newStatus = .ok handled) :
    StatusOutcome wr newStatus handled := by
  unfold WorkerRuntime.handleUpdateStatus at returned
  cases newStatus with
  | starting =>
      cases returned
      exact .starting
  | waitingForBroker =>
      cases returned
      exact .waitingForBroker
  | pendingProvision =>
      simp only at returned
      split at returned
      · cases returned
      · obtain ⟨peer, locked, returned⟩ := bind_eq_ok.mp returned
        rw [unwrap_eq_ok] at locked
        obtain ⟨outcome, _, returned⟩ := bind_eq_ok.mp returned
        cases outcome with
        | error error =>
            cases returned
            exact .unprovisioned peer locked error
        | ok _ =>
            cases returned
            exact .provisioned peer locked
  | started =>
      cases returned
      exact .started
  | failed reason =>
      cases returned
      exact .failed reason

end ServiceNetwork.ServiceWorker
