/-
What one process of a deployment can do to end another.

A broker's manager panics only on an address that a worker formed when it locked
that broker, and a worker's event loop, but for faults of its own, only on the
outbound addresses that a broker was configured with.  A broker itself never
looks at them again once their listeners have been started.
-/

import ServiceNetwork.Pipeline.OutboundAddress
import ServiceNetwork.Pipeline.TableProvenance
import ServiceNetwork.ServiceBroker.Process
import ServiceNetwork.ServiceWorker.Process

namespace ServiceNetwork.Pipeline

open ServiceNetwork.Peer
open ServiceNetwork.Replay
open ServiceNetwork.ServiceBroker
open ServiceNetwork.ServiceWorker

/-- The first outbound address of the broker's configuration has a port. -/
def NamesProxyPort (config : BrokerConfig) : Prop :=
  ':' ∈ (firstItem (",".intercalate config.outboundBindAddresses)).toList

instance (config : BrokerConfig) : Decidable (NamesProxyPort config) :=
  inferInstanceAs (Decidable (_ ∈ _))

variable {deployment : Deployment} {events : List Event} {state : DeploymentState}

theorem hasProxyItem_iff {process : BrokerProcess} {config : BrokerConfig} {info : ServiceInfo}
    (isBroker : process.config.broker = .ok config)
    (resolves : Resolves process.registered info) :
    HasProxyItem info ↔ NamesProxyPort config := by
  obtain ⟨_, _, _, announced⟩ := resolved_properties isBroker process.registers resolves
  constructor
  · rintro ⟨oa, same, colon⟩
    rw [announced] at same
    cases same
    exact colon
  · intro colon
    exact ⟨_, announced, colon⟩

theorem managerTurn_refused {broker : Nat} {message : LocalWorkerManagerChannelMessage}
    {rest : List LocalWorkerManagerChannelMessage}
    (head : state.inboxes broker = message :: rest) :
    deploymentStep deployment state (.managerTurn broker) = none ↔
      managerStep (deployment.brokers broker).profile (deployment.brokers broker).urlparse
        (state.brokers broker) message = none := by
  constructor
  · intro refused
    cases handled : managerStep (deployment.brokers broker).profile
      (deployment.brokers broker).urlparse (state.brokers broker) message with
    | none => rfl
    | some next =>
        simp only [deploymentStep, head, handled] at refused
        cases refused
  · intro panics
    simp only [deploymentStep, head, panics]

theorem workerTurn_refused {index : Nat} {outside : Outside}
    {message : WorkerRuntimeChannelMessage} {rest : List WorkerRuntimeChannelMessage}
    (head : (state.workers index).queue = message :: rest) :
    deploymentStep deployment state (.worker index (.handled outside)) = none ↔
      ∃ panic, handleRuntimeEvent (deployment.workers index) outside
        (state.workers index).runtime message = .error panic := by
  constructor
  · intro refused
    cases returned : handleRuntimeEvent (deployment.workers index) outside
      (state.workers index).runtime message with
    | error panic => exact ⟨panic, rfl⟩
    | ok handled =>
        simp only [deploymentStep, acknowledges, Bool.false_eq_true, if_false, step,
          WorkerState.handle, head, returned] at refused
        cases refused
  · rintro ⟨panic, panics⟩
    simp only [deploymentStep, acknowledges, Bool.false_eq_true, if_false, step,
      WorkerState.handle, head, panics]

/-- A locked broker is one of the deployment's, as it registered itself. -/
theorem bestBroker_registered (run : deploymentRun deployment events = some state)
    (truthful : Truthful deployment events) {index : Nat} {peer : BrokerPeer}
    (locked : (state.workers index).runtime.bestBroker = some peer) :
    ∃ source, Resolves (deployment.brokers source).registered peer.serviceInfo := by
  have own := workerRun_of_deploymentRun run index
  have stored := (run_locksStored own).locks peer (Or.inr locked)
  rw [run_peers own, discovered_getElem?] at stored
  obtain ⟨info, heard, announced⟩ := List.mem_filterMap.mp (List.mem_of_find?_eq_some stored)
  rw [announcedPeer_serviceInfo announced]
  exact truthful index info (announced_of_heard run heard)

/-- The message makes the manager panic, and was formed at a lock of this broker
by a worker with the key as its own. -/
def EndedByWorker (deployment : Deployment) (events : List Event) (state : DeploymentState)
    (broker : Nat) (message : LocalWorkerManagerChannelMessage) : Prop :=
  ∃ lw worker outside peer, message = .receivedKeepAlive lw ∧
    NotLive (state.brokers broker) lw.publicKey ∧
    ¬ Parses (deployment.brokers broker).urlparse lw.addressString ∧
    LockedWithKey deployment events worker outside peer lw.publicKey ∧
    peer.mgmtAddr ++ rV0LocalWorkerKeepalive ∈ (deployment.brokers broker).keepaliveUrls ∧
    forwarderAddress (deployment.workers worker).localWorker outside.interfaces =
      .ok lw.addressString

/-- The message provisions the worker with a broker whose configuration names
no port in its first outbound address. -/
def EndedByBroker (deployment : Deployment) (state : DeploymentState) (index : Nat)
    (message : WorkerRuntimeChannelMessage) : Prop :=
  message = .shouldUpdateStatus .pendingProvision ∧
    ∃ source config peer, (state.workers index).runtime.bestBroker = some peer ∧
      Resolves (deployment.brokers source).registered peer.serviceInfo ∧
      (deployment.brokers source).config.broker = .ok config ∧ ¬ NamesProxyPort config

theorem manager_panics_iff (run : deploymentRun deployment events = some state) {broker : Nat}
    {message : LocalWorkerManagerChannelMessage} {rest : List LocalWorkerManagerChannelMessage}
    (head : state.inboxes broker = message :: rest) :
    deploymentStep deployment state (.managerTurn broker) = none ↔
      EndedByWorker deployment events state broker message := by
  rw [managerTurn_refused head,
    managerStep_panics_iff (localWorkerManager_of_deploymentRun run broker)]
  constructor
  · rintro ⟨lw, rfl, notLive, unparsed⟩
    have arrived := (run_traced run).inboxes broker lw (by rw [head]; exact List.mem_cons_self)
    obtain ⟨worker, outside, peer, locked, formed, _, _, addressed⟩ := arrived.lock
    exact ⟨lw, worker, outside, peer, rfl, notLive, unparsed, locked, addressed, formed⟩
  · rintro ⟨lw, _, _, _, rfl, notLive, unparsed, _⟩
    exact ⟨lw, rfl, notLive, unparsed⟩

theorem eventLoop_panics_iff (run : deploymentRun deployment events = some state)
    (truthful : Truthful deployment events) {index : Nat} {outside : Outside}
    {message : WorkerRuntimeChannelMessage} {rest : List WorkerRuntimeChannelMessage}
    (head : (state.workers index).queue = message :: rest) :
    deploymentStep deployment state (.worker index (.handled outside)) = none ↔
      OwnFault (deployment.workers index) outside (state.workers index).runtime message ∨
        EndedByBroker deployment state index message := by
  rw [workerTurn_refused head, handleRuntimeEvent_panics_iff (workerRun_of_deploymentRun run index)
    (by rw [head]; exact List.mem_cons_self)]
  constructor
  · intro panics
    cases panics with
    | own fault => exact Or.inl fault
    | proxyless peer locked unannounced =>
        obtain ⟨source, resolves⟩ := bestBroker_registered run truthful locked
        obtain ⟨config, isBroker, _⟩ :=
          registerService_eq_ok.mp (deployment.brokers source).registers
        rw [hasProxyItem_iff isBroker resolves] at unannounced
        exact Or.inr ⟨rfl, source, config, peer, locked, resolves, isBroker, unannounced⟩
  · rintro (fault | ⟨rfl, source, config, peer, locked, resolves, isBroker, portless⟩)
    · exact .own fault
    · refine .proxyless peer locked ?_
      rw [hasProxyItem_iff isBroker resolves]
      exact portless

/-- In every run of a deployment of truthful brokers, the next message of a
broker's manager ends the broker exactly when a worker formed its address at a
lock and the address is of no use; the next message of a worker ends it exactly
by a fault of its own, or by the configuration of the broker it has locked. -/
theorem deployment_faults (deployment : Deployment) (events : List Event)
    (state : DeploymentState) (run : deploymentRun deployment events = some state)
    (truthful : Truthful deployment events) :
    (∀ broker message rest, state.inboxes broker = message :: rest →
      (deploymentStep deployment state (.managerTurn broker) = none ↔
        EndedByWorker deployment events state broker message)) ∧
    ∀ index outside message rest, (state.workers index).queue = message :: rest →
      (deploymentStep deployment state (.worker index (.handled outside)) = none ↔
        OwnFault (deployment.workers index) outside (state.workers index).runtime message ∨
          EndedByBroker deployment state index message) :=
  ⟨fun _ _ _ head => manager_panics_iff run head,
    fun _ _ _ _ head => eventLoop_panics_iff run truthful head⟩

def portlessBrokerConfig : BrokerConfig :=
  { exampleBrokerConfig with outboundBindAddresses := ["10.0.0.1"] }

def portlessBrokerProcess : BrokerProcess :=
  { config :=
      { role := .prBroker (some portlessBrokerConfig)
        instanceId := "b1"
        common := { instanceName := "broker", mgmtPort := 1919 } }
    profile := .release
    urlparse := exampleUrlparse
    interfaces := [⟨.v4 ⟨10, 0, 0, 1⟩⟩]
    registered :=
      { properties := brokerProperties
          { role := .prBroker (some portlessBrokerConfig)
            instanceId := "b1"
            common := { instanceName := "broker", mgmtPort := 1919 } } portlessBrokerConfig
        addresses := [⟨10, 0, 0, 1⟩]
        port := 1919 }
    registers := rfl }

def portlessDeployment : Deployment :=
  { exampleDeployment with brokers := fun _ => portlessBrokerProcess }

/-- Up to the provisioning of a worker with the broker that names no port. -/
def portlessEvents : List Event :=
  [.worker 0 (.pruntimeAnswered (exampleInfo "0a")), .worker 0 (.handled exampleOutside),
      .worker 0 (.handled exampleOutside),
      .worker 0 (.brokerAnnounced portlessBrokerProcess.registered)] ++
    List.replicate 5 (.worker 0 (.waiterTurn 0)) ++ [.worker 0 (.handled exampleOutside)]

theorem portlessEvents_truthful : Truthful portlessDeployment portlessEvents := by
  intro index info member
  simp only [portlessEvents, List.mem_append, List.mem_cons, List.not_mem_nil, List.mem_replicate,
    Event.worker.injEq, reduceCtorEq, and_false, or_false, false_or,
    Action.brokerAnnounced.injEq] at member
  rw [member.2]
  exact ⟨0, Resolves.refl _⟩

theorem portlessEvents_end_worker :
    ∃ state, deploymentRun portlessDeployment portlessEvents = some state ∧
      EndedByBroker portlessDeployment state 0 (.shouldUpdateStatus .pendingProvision) ∧
      deploymentStep portlessDeployment state (.worker 0 (.handled exampleOutside)) = none := by
  have provisioning : (deploymentRun portlessDeployment portlessEvents).map (fun state =>
      ((state.workers 0).queue,
        (state.workers 0).runtime.bestBroker.map BrokerPeer.serviceInfo)) =
      some ([.shouldUpdateStatus .pendingProvision], some portlessBrokerProcess.registered) := by
    decide +kernel
  obtain ⟨state, run, found⟩ := Option.map_eq_some_iff.mp provisioning
  obtain ⟨head, best⟩ := Prod.mk.inj found
  obtain ⟨peer, locked, announced⟩ := Option.map_eq_some_iff.mp best
  have ended :
      EndedByBroker portlessDeployment state 0 (.shouldUpdateStatus .pendingProvision) := by
    refine ⟨rfl, 0, portlessBrokerConfig, peer, locked, ?_, rfl, by decide⟩
    rw [announced]
    exact Resolves.refl _
  exact ⟨state, run, ended,
    ((deployment_faults portlessDeployment portlessEvents state run portlessEvents_truthful).2 0
      exampleOutside _ [] head).mpr (Or.inr ended)⟩

end ServiceNetwork.Pipeline
