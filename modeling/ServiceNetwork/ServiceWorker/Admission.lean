/-
The admission of a pRuntime by an info handled in `Starting`.

The state may carry what earlier attempts left behind: every theorem here is
about an arbitrary runtime with the status `Starting`.
-/

import ServiceNetwork.ServiceWorker.System

namespace ServiceNetwork.ServiceWorker

variable {process : WorkerProcess} {outside : Outside} {wr : WorkerRuntime} {info : PhactoryInfo}

/-- The info and the configuration pass every check, with this port and key. -/
def Admissible (process : WorkerProcess) (outside : Outside) (info : PhactoryInfo)
    (config : NetworkConfigResponse) (rpcPort : UInt32) (publicKey : String) : Prop :=
  process.versionSupported info.version = some true ∧ info.initialized = true ∧
    outside.networkConfig = .ok config ∧ config.publicRpcPort = some rpcPort ∧
    info.publicKey = some publicKey

/-- What is asked of an info handled in `Starting`: it returns with one message,
the status update exactly when the info is admissible and otherwise the failure
report; on the status update the runtime holds the data of this attempt. -/
def AdmitsProperly (process : WorkerProcess) (outside : Outside) (wr : WorkerRuntime)
    (info : PhactoryInfo) : Prop :=
  ∃ handled message, wr.handleUpdateInfo process outside info = .ok handled ∧
    handled.sent = [message] ∧
    (message = .shouldUpdateStatus .waitingForBroker ↔
      ∃ config rpcPort publicKey, Admissible process outside info config rpcPort publicKey) ∧
    (message ≠ .shouldUpdateStatus .waitingForBroker →
      ∃ msg, message = .shouldSetPRuntimeFailed msg) ∧
    ∀ config rpcPort publicKey, Admissible process outside info config rpcPort publicKey →
      ∃ hostname,
        (process.urlparse process.localWorker.pruntimeAddress).hostname = some hostname ∧
        handled.runtime.networkStatus = some config ∧ handled.runtime.prRpcPort = rpcPort ∧
        handled.runtime.pruntimeRpcPrefix = "http://" ++ hostname ++ ":" ++ toString rpcPort ∧
        handled.runtime.publicKey = some publicKey ∧ handled.runtime.initialInfo = some info

theorem Admissible.unique {config other : NetworkConfigResponse} {rpcPort otherPort : UInt32}
    {publicKey otherKey : String}
    (admissible : Admissible process outside info config rpcPort publicKey)
    (admissibleToo : Admissible process outside info other otherPort otherKey) :
    config = other ∧ rpcPort = otherPort ∧ publicKey = otherKey := by
  obtain ⟨_, _, answered, port, key⟩ := admissible
  obtain ⟨_, _, answeredToo, portToo, keyToo⟩ := admissibleToo
  rw [answered] at answeredToo
  cases answeredToo
  rw [port] at portToo
  rw [key] at keyToo
  exact ⟨rfl, Option.some.inj portToo, Option.some.inj keyToo⟩

/-- In `Starting`, with a host to talk to, the handler returns exactly on a
version that parses. -/
theorem handleUpdateInfo_returns_iff (starting : wr.status = .starting)
    (hosted : (process.urlparse process.localWorker.pruntimeAddress).hostname.isSome) :
    (∃ handled, wr.handleUpdateInfo process outside info = .ok handled) ↔
      (process.versionSupported info.version).isSome := by
  obtain ⟨hostname, parsed⟩ := Option.isSome_iff_exists.mp hosted
  constructor
  · rintro ⟨handled, returned⟩
    obtain ⟨_, _, outcome⟩ := handleUpdateInfo_starting starting returned
    cases outcome with
    | unsupported supported | uninitialized supported | unconfigured supported
    | portless supported | keyless supported | admitted supported => rw [supported]; rfl
  · intro versioned
    obtain ⟨supported, read⟩ := Option.isSome_iff_exists.mp versioned
    unfold WorkerRuntime.handleUpdateInfo
    simp only [starting, process.localWorker_eq, parsed, read, unwrap_some, bind, Except.bind]
    cases supported with
    | false => exact ⟨_, rfl⟩
    | true =>
        cases info.initialized with
        | false => exact ⟨_, rfl⟩
        | true =>
            cases outside.networkConfig with
            | error error => exact ⟨_, rfl⟩
            | ok config =>
                obtain ⟨port⟩ := config
                cases port with
                | none => exact ⟨_, rfl⟩
                | some rpcPort => cases info.publicKey <;> exact ⟨_, rfl⟩

/-- An outcome that refuses sends its report, and the info was not admissible. -/
theorem admitsProperly_of_refused {handled : Handled} {msg : String}
    (returned : wr.handleUpdateInfo process outside info = .ok handled)
    (reported : handled.sent = [.shouldSetPRuntimeFailed msg])
    (refused : ∀ config rpcPort publicKey,
      ¬ Admissible process outside info config rpcPort publicKey) :
    AdmitsProperly process outside wr info := by
  refine ⟨handled, _, returned, reported, iff_of_false nofun ?_, fun _ => ⟨msg, rfl⟩, ?_⟩
  · rintro ⟨config, rpcPort, publicKey, admissible⟩
    exact refused config rpcPort publicKey admissible
  · intro config rpcPort publicKey admissible
    exact absurd admissible (refused config rpcPort publicKey)

theorem admitsProperly_of_returned (starting : wr.status = .starting) {handled : Handled}
    (returned : wr.handleUpdateInfo process outside info = .ok handled) :
    AdmitsProperly process outside wr info := by
  obtain ⟨hostname, parsed, outcome⟩ := handleUpdateInfo_starting starting returned
  cases outcome with
  | unsupported unsupported =>
      refine admitsProperly_of_refused returned rfl ?_
      rintro config rpcPort publicKey ⟨supported, _⟩
      rw [unsupported] at supported
      cases supported
  | uninitialized _ uninitialized =>
      refine admitsProperly_of_refused returned rfl ?_
      rintro config rpcPort publicKey ⟨_, initialized, _⟩
      rw [uninitialized] at initialized
      cases initialized
  | unconfigured _ _ error unanswered =>
      refine admitsProperly_of_refused returned rfl ?_
      rintro config rpcPort publicKey ⟨_, _, answered, _⟩
      rw [unanswered] at answered
      cases answered
  | portless _ _ config answered portless =>
      refine admitsProperly_of_refused returned rfl ?_
      rintro other rpcPort publicKey ⟨_, _, answeredToo, port, _⟩
      rw [answered] at answeredToo
      cases answeredToo
      rw [portless] at port
      cases port
  | keyless _ _ config answered rpcPort port keyless =>
      refine admitsProperly_of_refused returned rfl ?_
      rintro other otherPort publicKey ⟨_, _, _, _, key⟩
      rw [keyless] at key
      cases key
  | admitted supported initialized config answered rpcPort port publicKey key =>
      have admissible : Admissible process outside info config rpcPort publicKey :=
        ⟨supported, initialized, answered, port, key⟩
      refine ⟨_, _, returned, rfl, iff_of_true rfl ⟨config, rpcPort, publicKey, admissible⟩,
        fun other => absurd rfl other, ?_⟩
      intro other otherPort otherKey admissibleToo
      obtain ⟨rfl, rfl, rfl⟩ := admissible.unique admissibleToo
      exact ⟨hostname, parsed, rfl, rfl, rfl, rfl, rfl⟩

/-- An info handled in `Starting` is admitted or refused properly exactly when
its version parses. -/
theorem admitsProperly_iff (process : WorkerProcess) (outside : Outside) (wr : WorkerRuntime)
    (info : PhactoryInfo) (starting : wr.status = .starting)
    (hosted : (process.urlparse process.localWorker.pruntimeAddress).hostname.isSome) :
    AdmitsProperly process outside wr info ↔
      (process.versionSupported info.version).isSome := by
  rw [← handleUpdateInfo_returns_iff starting hosted]
  constructor
  · rintro ⟨handled, message, returned, _⟩
    exact ⟨handled, returned⟩
  · rintro ⟨handled, returned⟩
    exact admitsProperly_of_returned starting returned

theorem admitsProperly_iff_fresh :
    AdmitsProperly exampleProcess exampleOutside WorkerRuntime.new (exampleInfo "0a") :=
  (admitsProperly_iff exampleProcess exampleOutside WorkerRuntime.new (exampleInfo "0a") rfl
    rfl).mpr rfl

/-- An old pRuntime that reports no version ends the worker instead of being
reported as failed. -/
theorem emptyVersion_not_admitsProperly :
    WorkerRuntime.new.handleUpdateInfo exampleProcess exampleOutside
        { version := "", initialized := true, publicKey := some "0a" } = .error .unwrapNone ∧
    ¬ AdmitsProperly exampleProcess exampleOutside WorkerRuntime.new
        { version := "", initialized := true, publicKey := some "0a" } := by
  have panics : WorkerRuntime.new.handleUpdateInfo exampleProcess exampleOutside
      { version := "", initialized := true, publicKey := some "0a" } = .error .unwrapNone := rfl
  refine ⟨panics, ?_⟩
  rintro ⟨handled, message, returned, _⟩
  rw [panics] at returned
  cases returned

end ServiceNetwork.ServiceWorker
