/-
Which proxy pRuntime holds when the worker is started.

pRuntime keeps the proxy it accepted last, which is no part of the worker's
state.  A lock of another broker writes the broker at once and the proxy only
with the update it queues, so the two agree where no such update is queued.
-/

import ServiceNetwork.Library.History
import ServiceNetwork.ServiceWorker.BrokerDiscovery

namespace ServiceNetwork.ServiceWorker

open ServiceNetwork.Peer
open ServiceNetwork.Replay

/-- The proxy that pRuntime accepts in this step. -/
def configuredProxy (state : WorkerState) : Action → Option String
  | .handled outside =>
      match state.queue with
      | .shouldUpdateStatus .pendingProvision :: _ => do
          let bestBroker ← state.runtime.bestBroker
          let allProxy ← (outboundProxy bestBroker).toOption
          match outside.configNetwork allProxy with
          | .ok () => some allProxy
          | .error _ => none
      | _ => none
  | _ => none

/-- The proxy that pRuntime accepted last in a run. -/
def acceptedProxy (process : WorkerProcess) (actions : List Action) : Option String :=
  chronicle (step process)
    (fun state action accepted => (configuredProxy state action).or accepted)
    WorkerState.initial none actions

/-- pRuntime holds the proxy of the locked broker. -/
def Proxied (accepted : Option String) (wr : WorkerRuntime) : Prop :=
  ∃ broker allProxy, wr.bestBroker = some broker ∧ outboundProxy broker = .ok allProxy ∧
    accepted = some allProxy

abbrev provisionUpdate : WorkerRuntimeChannelMessage := .shouldUpdateStatus .pendingProvision

abbrev startUpdate : WorkerRuntimeChannelMessage := .shouldUpdateStatus .started

/-- The start of a worker, handled or queued, stands on the proxy of the locked
broker or has the next provisioning behind it. -/
structure ProxySettled (accepted : Option String) (state : WorkerState) : Prop where
  started : state.runtime.status = .started →
    provisionUpdate ∈ state.queue ∨ Proxied accepted state.runtime
  queued : ∀ before after, state.queue = before ++ startUpdate :: after →
    provisionUpdate ∈ after ∨ Proxied accepted state.runtime

variable {process : WorkerProcess} {outside : Outside} {state next : WorkerState}
  {accepted : Option String}

theorem start_of_appended {queue sent before after : List WorkerRuntimeChannelMessage}
    (noStart : startUpdate ∉ sent) (split : queue ++ sent = before ++ startUpdate :: after) :
    ∃ behind, queue = before ++ startUpdate :: behind ∧ after = behind ++ sent := by
  rcases List.append_eq_append_iff.mp split with ⟨more, rfl, rest⟩ | ⟨more, rfl, rest⟩
  · exact absurd (by rw [rest]; simp) noStart
  · cases more with
    | nil =>
        exact absurd (by rw [← List.nil_append sent, ← rest]; simp) noStart
    | cons first behind =>
        obtain ⟨rfl, rfl⟩ := List.cons.inj rest
        exact ⟨behind, rfl, rfl⟩

theorem Proxied.sameBroker {wr after : WorkerRuntime} (proxied : Proxied accepted wr)
    (same : after.bestBroker = wr.bestBroker) : Proxied accepted after := by
  obtain ⟨broker, allProxy, locked, decoded, holds⟩ := proxied
  exact ⟨broker, allProxy, same.trans locked, decoded, holds⟩

theorem ProxySettled.grow (settled : ProxySettled accepted state)
    {sent : List WorkerRuntimeChannelMessage} (noStart : startUpdate ∉ sent)
    (sameRuntime : next.runtime = state.runtime) (grown : next.queue = state.queue ++ sent) :
    ProxySettled accepted next := by
  constructor
  · intro started
    rw [sameRuntime] at started ⊢
    rw [grown]
    exact (settled.started started).imp_left (List.mem_append_left sent)
  · intro before after split
    rw [grown] at split
    obtain ⟨behind, within, rfl⟩ := start_of_appended noStart split
    rw [sameRuntime]
    exact (settled.queued before behind within).imp_left (List.mem_append_left sent)

theorem ProxySettled.pass (settled : ProxySettled accepted state)
    {message : WorkerRuntimeChannelMessage} {rest sent : List WorkerRuntimeChannelMessage}
    {runtime : WorkerRuntime} {waiters : List UInt8}
    (head : state.queue = message :: rest) (noStart : startUpdate ∉ sent)
    (sameBroker : runtime.bestBroker = state.runtime.bestBroker)
    (moved : runtime.status = .started →
      message = startUpdate ∨ state.runtime.status = .started ∧ message ≠ provisionUpdate) :
    ProxySettled accepted
      { state with runtime := runtime, queue := rest ++ sent, waiters := waiters } := by
  constructor
  · intro started
    rcases moved started with rfl | ⟨startedBefore, other⟩
    · rcases settled.queued [] rest head with behind | proxied
      · exact Or.inl (List.mem_append_left sent behind)
      · exact Or.inr (proxied.sameBroker sameBroker)
    · rcases settled.started startedBefore with queued | proxied
      · rw [head] at queued
        rcases List.mem_cons.mp queued with same | behind
        · exact absurd same.symm other
        · exact Or.inl (List.mem_append_left sent behind)
      · exact Or.inr (proxied.sameBroker sameBroker)
  · intro before after split
    obtain ⟨behind, within, rfl⟩ := start_of_appended noStart split
    have whole : state.queue = (message :: before) ++ startUpdate :: behind := by
      rw [head, within]
      rfl
    rcases settled.queued (message :: before) behind whole with queued | proxied
    · exact Or.inl (List.mem_append_left sent queued)
    · exact Or.inr (proxied.sameBroker sameBroker)

theorem ProxySettled.lock {rest : List WorkerRuntimeChannelMessage} {runtime : WorkerRuntime}
    {waiters : List UInt8} :
    ProxySettled accepted
      { state with
        runtime := runtime
        queue := rest ++ [provisionUpdate]
        waiters := waiters } := by
  constructor
  · intro _
    exact Or.inl (List.mem_append_right rest List.mem_cons_self)
  · intro before after split
    obtain ⟨behind, _, rfl⟩ := start_of_appended (by simp) split
    exact Or.inl (List.mem_append_right behind List.mem_cons_self)

/-- pRuntime has just accepted the proxy of the locked broker. -/
theorem ProxySettled.provision (proxied : Proxied accepted state.runtime) :
    ProxySettled accepted state :=
  ⟨fun _ => Or.inr proxied, fun _ _ _ => Or.inr proxied⟩

theorem setPruntimeNetworkWithPeer_cases {peer : BrokerPeer} {result : Except String Unit}
    (returned : setPruntimeNetworkWithPeer outside peer = .ok result) :
    ∃ allProxy, outboundProxy peer = .ok allProxy ∧
      ((outside.configNetwork allProxy = .ok () ∧ result = .ok ()) ∨
        ∃ error, outside.configNetwork allProxy = .error error ∧
          result = .error ("Failed to configure pRuntime network" ++ error)) := by
  obtain ⟨allProxy, decoded, returned⟩ := bind_eq_ok.mp returned
  refine ⟨allProxy, decoded, ?_⟩
  cases answered : outside.configNetwork allProxy with
  | ok accepted =>
      rw [answered] at returned
      cases returned
      exact Or.inl ⟨rfl, rfl⟩
  | error error =>
      rw [answered] at returned
      cases returned
      exact Or.inr ⟨error, rfl, rfl⟩

/-- A provisioning leaves its proxy accepted, or reports that it was refused. -/
theorem provisioning_cases {rest : List WorkerRuntimeChannelMessage} {handled : Handled}
    (head : state.queue = provisionUpdate :: rest)
    (returned : state.runtime.handleUpdateStatus outside .pendingProvision = .ok handled) :
    handled.runtime = { state.runtime with status := .pendingProvision } ∧
      ((∃ error, handled.sent = [.shouldSetBrokerFailed error] ∧
        configuredProxy state (.handled outside) = none) ∨
        Proxied (configuredProxy state (.handled outside)) state.runtime) := by
  unfold WorkerRuntime.handleUpdateStatus at returned
  simp only at returned
  split at returned
  · cases returned
  · obtain ⟨peer, locked, returned⟩ := bind_eq_ok.mp returned
    rw [unwrap_eq_ok] at locked
    obtain ⟨result, configured, returned⟩ := bind_eq_ok.mp returned
    obtain ⟨allProxy, decoded, ⟨answered, rfl⟩ | ⟨error, answered, rfl⟩⟩ :=
      setPruntimeNetworkWithPeer_cases configured
    · cases returned
      refine ⟨rfl, Or.inr ⟨peer, allProxy, locked, decoded, ?_⟩⟩
      simp only [configuredProxy, head, locked, decoded, Except.toOption, bind, Option.bind,
        answered]
    · cases returned
      refine ⟨rfl, Or.inl ⟨_, rfl, ?_⟩⟩
      simp only [configuredProxy, head, locked, decoded, Except.toOption, bind, Option.bind,
        answered]

theorem configuredProxy_other {message : WorkerRuntimeChannelMessage}
    {rest : List WorkerRuntimeChannelMessage} (head : state.queue = message :: rest)
    (other : message ≠ provisionUpdate) : configuredProxy state (.handled outside) = none := by
  unfold configuredProxy
  simp only [head]
  split
  · rename_i same
    exact absurd (List.cons.inj same).1 other
  · rfl

theorem ProxySettled.handled (settled : ProxySettled accepted state)
    {message : WorkerRuntimeChannelMessage} {rest : List WorkerRuntimeChannelMessage}
    {handled : Handled} (head : state.queue = message :: rest)
    (returned : handleRuntimeEvent process outside state.runtime message = .ok handled) :
    ProxySettled ((configuredProxy state (.handled outside)).or accepted)
      { state with
        runtime := handled.runtime
        queue := rest ++ handled.sent
        waiters := state.waiters ++ List.replicate handled.spawned 0 } := by
  by_cases provisioning : message = provisionUpdate
  · subst provisioning
    obtain ⟨runtime, ⟨error, sent, refused⟩ | proxied⟩ := provisioning_cases head returned
    · rw [refused, Option.none_or, sent, runtime]
      exact settled.pass head (by simp) rfl nofun
    · obtain ⟨broker, allProxy, locked, decoded, configured⟩ := proxied
      rw [configured, runtime]
      exact ProxySettled.provision ⟨broker, allProxy, locked, decoded, rfl⟩
  · rw [configuredProxy_other head provisioning, Option.none_or]
    cases handleRuntimeEvent_outcome returned with
    | failure reported sent fails =>
        refine settled.pass head ?_ rfl (fun started => Or.inr ⟨started, provisioning⟩)
        intro member
        obtain ⟨reason, same⟩ := fails _ member
        cases same
    | infoInStarting info hostname starting parsed outcome =>
        cases outcome <;>
          exact settled.pass head (by simp) rfl
            (fun started => absurd (starting.symm.trans started) nofun)
    | infoLater info later =>
        refine settled.pass head ?_ rfl (fun started => Or.inr ⟨started, provisioning⟩)
        unfold WorkerRuntime.recoverFromFailure
        cases state.runtime.status <;> simp
    | status newStatus outcome =>
        cases outcome with
        | starting => exact settled.pass head (by simp) rfl nofun
        | waitingForBroker => exact settled.pass head (by simp) rfl nofun
        | provisioned peer locked => exact absurd rfl provisioning
        | unprovisioned peer locked error => exact absurd rfl provisioning
        | started => exact settled.pass head (by simp) rfl (fun _ => Or.inl rfl)
        | failed reason => exact settled.pass head (by simp) rfl nofun
    | locked peer identity built => exact ProxySettled.lock

theorem ProxySettled.step {action : Action} (settled : ProxySettled accepted state)
    (taken : step process state action = some next) :
    ProxySettled ((configuredProxy state action).or accepted) next := by
  cases step_outcome taken with
  | pruntimeAnswered | pruntimeFailed | keepaliveRefused => exact settled.grow (by simp) rfl rfl
  | waiterLocks index loopNum live peer peers turn => exact settled.grow (by simp) rfl rfl
  | keepaliveSkipped | keepaliveChecked | keepaliveRead | keepaliveAccepted | brokerIgnored
  | brokerAnnounced | forwarderRefused | forwarderPassed | forwarderSent | waiterWaits
  | waiterEnds | waiterPanicked => exact ⟨settled.started, settled.queued⟩
  | handled outside message rest handled head returned => exact settled.handled head returned

theorem run_proxySettled {actions : List Action} (run : workerRun process actions = some state) :
    ProxySettled (acceptedProxy process actions) state := by
  refine @replay_holds_chronicle _ _ _ (ServiceWorker.step process)
    (fun state action accepted => (configuredProxy state action).or accepted)
    WorkerState.initial state none actions ProxySettled ?_ ?_ run
  · exact ⟨nofun, fun before after split => by cases before <;> cases split⟩
  · intro accepted current action next settled taken
    exact settled.step taken

/-- In every run, when the worker is started and no provisioning is queued, the
proxy that pRuntime accepted last is that of the broker which is locked and which
the keepalives go to. -/
theorem started_worker_proxied (process : WorkerProcess) {actions : List Action}
    {state : WorkerState} (run : workerRun process actions = some state)
    (started : state.runtime.status = .started) (settled : provisionUpdate ∉ state.queue) :
    ∃ broker allProxy, state.runtime.bestBroker = some broker ∧
      state.runtime.bestBrokerMgmtUrl = some broker.mgmtAddr ∧
      outboundProxy broker = .ok allProxy ∧ acceptedProxy process actions = some allProxy := by
  rcases (run_proxySettled run).started started with queued | proxied
  · exact absurd queued settled
  · obtain ⟨broker, allProxy, locked, decoded, accepted⟩ := proxied
    refine ⟨broker, allProxy, locked, ?_, decoded, accepted⟩
    rw [(run_locksStored run).url, locked]
    rfl

/-- The run to `Started`. -/
def exampleStarted : List Action :=
  exampleLocking ++ List.replicate 3 (.handled exampleOutside)

theorem exampleStarted_proxied :
    ∃ state, workerRun exampleProcess exampleStarted = some state ∧
      state.runtime.bestBrokerMgmtUrl = some "http://10.0.0.1:1919" ∧
      acceptedProxy exampleProcess exampleStarted = some "socks5://10.0.0.1:1981" := by
  have run : ∃ state broker, workerRun exampleProcess exampleStarted = some state ∧
      state.runtime.status = .started ∧ state.queue = [] ∧
      state.runtime.bestBroker = some broker ∧ broker.mgmtAddr = "http://10.0.0.1:1919" ∧
      outboundProxy broker = .ok "socks5://10.0.0.1:1981" := ⟨_, _, rfl, rfl, rfl, rfl, rfl, rfl⟩
  obtain ⟨state, broker, run, started, idle, locked, address, decodes⟩ := run
  obtain ⟨other, allProxy, sameBroker, url, decoded, accepted⟩ :=
    started_worker_proxied exampleProcess run started (by rw [idle]; exact List.not_mem_nil)
  rw [locked] at sameBroker
  cases sameBroker
  rw [decodes] at decoded
  cases decoded
  exact ⟨state, run, by rw [url, address], accepted⟩

end ServiceNetwork.ServiceWorker
