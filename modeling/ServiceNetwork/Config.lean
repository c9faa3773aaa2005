/-
Peer configuration, the liveness constants, and the records of the management
interface.

The environment readers and the random sample are outside the repository, so
`buildFromEnv` takes their outcomes as arguments.
-/

import ServiceNetwork.Library.Quoting
import ServiceNetwork.Rust

namespace ServiceNetwork

open ServiceNetwork.Quoting

/-- In milliseconds. -/
def brokerHealthCheckInterval : Nat := 20000

def brokerPeerLostCount : UInt8 := 3

def brokerPeerDeadCount : UInt8 := 10

structure LocalWorkerConfig where
  pruntimeAddress : String
  forwarderBindAddresses : List String
  deriving DecidableEq, Repr

structure BrokerConfig where
  outboundBindAddresses : List String
  inboundHttpServerBindAddress : List String
  inboundHttpServerAccessibleAddressPrefix : String
  cost : UInt8
  deriving DecidableEq, Repr

inductive PeerRole where
  | prUndefined
  | prLocalWorker (config : Option LocalWorkerConfig)
  | prRemoteWorker
  | prBroker (config : Option BrokerConfig)
  deriving DecidableEq, Repr

structure CommonConfig where
  instanceName : String
  mgmtPort : UInt16
  deriving DecidableEq, Repr

structure PeerConfig where
  role : PeerRole
  instanceId : String
  common : CommonConfig
  deriving DecidableEq, Repr

/-- `sample` is the sixteen-character random string drawn at process start. -/
def PeerConfig.buildFromEnv (sample : String)
    (commonEnv : Except String CommonConfig)
    (brokerEnv : Except String BrokerConfig)
    (localWorkerEnv : Except String LocalWorkerConfig)
    (role : PeerRole) : Except Panic PeerConfig :=
  match commonEnv with
  | .error error => .error (.message ("Error while parsing common config: " ++ error))
  | .ok common =>
      match role with
      | .prBroker _ =>
          match brokerEnv with
          | .ok config =>
              .ok { role := .prBroker (some config), instanceId := sample, common := common }
          | .error error => .error (.message ("Error while parsing broker config: " ++ error))
      | .prLocalWorker _ =>
          match localWorkerEnv with
          | .ok config =>
              .ok { role := .prLocalWorker (some config), instanceId := sample, common := common }
          | .error error =>
              .error (.message ("Error while parsing local worker config: " ++ error))
      | _ => .error (.message "Invalid role!")

def PeerConfig.broker (config : PeerConfig) : Except Panic BrokerConfig :=
  match config.role with
  | .prBroker config => unwrap config
  | _ => .error (.message "Current peer is not a broker!")

def PeerConfig.localWorker (config : PeerConfig) : Except Panic LocalWorkerConfig :=
  match config.role with
  | .prLocalWorker config => unwrap config
  | _ => .error (.message "Current peer is not a broker!")

theorem PeerConfig.localWorker_of_buildFromEnv
    {sample : String} {commonEnv : Except String CommonConfig}
    {brokerEnv : Except String BrokerConfig} {localWorkerEnv : Except String LocalWorkerConfig}
    {given : Option LocalWorkerConfig} {config : PeerConfig}
    (built : buildFromEnv sample commonEnv brokerEnv localWorkerEnv (.prLocalWorker given) =
      .ok config) :
    config.instanceId = sample ∧ commonEnv = .ok config.common ∧
      ∃ worker, localWorkerEnv = .ok worker ∧ config.localWorker = .ok worker := by
  unfold buildFromEnv at built
  cases commonEnv with
  | error error => cases built
  | ok common =>
      cases localWorkerEnv with
      | error error => cases built
      | ok worker =>
          cases built
          exact ⟨rfl, rfl, worker, rfl, rfl⟩

structure LocalWorkerIdentity where
  instanceName : String
  instanceId : String
  addressString : String
  publicPort : UInt16
  publicKey : String
  deriving DecidableEq, Repr

def rV0LocalWorkerKeepalive : String := "/v0/local_worker/keepalive"

/-- The JSON library, used on both sides of the keepalive: reading back what
was written yields the identity that was written. -/
structure SerdeJson where
  writeIdentity : LocalWorkerIdentity → String
  readIdentity : String → Option LocalWorkerIdentity
  read_write : ∀ identity, readIdentity (writeIdentity identity) = some identity

/-! ### A writer for texts without control characters -/

def jsonField (opening name : String) : List Char :=
  opening.toList ++ quoted name.toList ++ [':']

def plainIdentity (identity : LocalWorkerIdentity) : List Char :=
  jsonField "\x7b" "instance_name" ++ (quoted identity.instanceName.toList ++
    (jsonField "," "instance_id" ++ (quoted identity.instanceId.toList ++
      (jsonField "," "address_string" ++ (quoted identity.addressString.toList ++
        (jsonField "," "public_port" ++ (identity.publicPort.toNat.repr.toList ++
          (jsonField "," "public_key" ++ (quoted identity.publicKey.toList ++
            ['\x7d'])))))))))

def readPlainIdentity (input : List Char) : Option LocalWorkerIdentity := do
  let input ← expect (jsonField "\x7b" "instance_name") input
  let (instanceName, input) ← readQuoted input
  let input ← expect (jsonField "," "instance_id") input
  let (instanceId, input) ← readQuoted input
  let input ← expect (jsonField "," "address_string") input
  let (addressString, input) ← readQuoted input
  let input ← expect (jsonField "," "public_port") input
  let (publicPort, input) ← readNat input
  let input ← expect (jsonField "," "public_key") input
  let (publicKey, _) ← readQuoted input
  return {
    instanceName := String.ofList instanceName
    instanceId := String.ofList instanceId
    addressString := String.ofList addressString
    publicPort := UInt16.ofNat publicPort
    publicKey := String.ofList publicKey }

theorem readPlainIdentity_plainIdentity (identity : LocalWorkerIdentity) :
    readPlainIdentity (plainIdentity identity) = some identity := by
  have afterPort : ∀ character,
      (jsonField "," "public_key" ++ (quoted identity.publicKey.toList ++ ['\x7d'])).head? =
        some character → character.isDigit = false := by
    intro character first
    cases first
    decide
  simp only [readPlainIdentity, plainIdentity, expect_append, readQuoted_quoted,
    readNat_repr _ afterPort, Option.bind_eq_bind, Option.bind_some, String.ofList_toList,
    UInt16.ofNat_toNat]
  rfl

/-- The record as `serde_json` writes it, for texts that need no other escape
than those of the quote and the backslash. -/
def plainJson : SerdeJson :=
  { writeIdentity := fun identity => String.ofList (plainIdentity identity)
    readIdentity := fun text => readPlainIdentity text.toList
    read_write := by
      intro identity
      rw [String.toList_ofList, readPlainIdentity_plainIdentity] }

end ServiceNetwork
