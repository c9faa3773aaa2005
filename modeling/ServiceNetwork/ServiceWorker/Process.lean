/-
How a worker process ends.

`main` joins the event loop, the public forwarder and the two polling loops, and
exits when one of them panics.  The waiting tasks and the browser are spawned
apart, so a panic of theirs ends nothing.  What the other tasks still do between
a panic and the exit is left out, and the statics of the program are taken as
built.
-/

import ServiceNetwork.Server
import ServiceNetwork.ServiceWorker.NetworkData
import ServiceNetwork.ServiceWorker.Recovery
import ServiceNetwork.Utils

namespace ServiceNetwork.ServiceWorker

open ServiceNetwork.Joining
open ServiceNetwork.Peer
open ServiceNetwork.Replay

/-! ### The joined tasks -/

/-- A worker with the fates of the tasks that `main` joins.  The loop that asks
pRuntime has no way to end, and no fate of its own here. -/
structure WorkerTasks where
  worker : WorkerState
  eventLoop : Fate
  servers : List Fate
  keepaliveLoop : Fate

def WorkerTasks.initial (process : WorkerProcess) : WorkerTasks :=
  { worker := WorkerState.initial
    eventLoop := .running
    servers := process.localWorker.forwarderBindAddresses.map fun _ => .running
    keepaliveLoop := .running }

def startPublicForwarder (servers : List Fate) : Fate :=
  tryJoinAll servers

def WorkerTasks.handles (tasks : WorkerTasks) : List Fate :=
  [tasks.eventLoop, startPublicForwarder tasks.servers, .running, tasks.keepaliveLoop]

def WorkerTasks.exitCode (tasks : WorkerTasks) : Option Nat :=
  joinHandles tasks.handles

inductive ProcessEvent where
  | acts (action : Action)
  | serves (event : ServerEvent)

/-- The panic of the event loop or of the keepalive loop in an action that the
worker cannot take. -/
def WorkerTasks.panics (process : WorkerProcess) (tasks : WorkerTasks) :
    Action → Option WorkerTasks
  | .handled outside =>
      match tasks.worker.queue with
      | [] => none
      | message :: _ =>
          match handleRuntimeEvent process outside tasks.worker.runtime message with
          | .error _ => some { tasks with eventLoop := .panicked }
          | .ok _ => none
  | .keepaliveRead =>
      match tasks.worker.keepalive with
      | .checked =>
          match checkCurrentBrokerHealth tasks.worker.runtime with
          | .error _ => some { tasks with keepaliveLoop := .panicked }
          | .ok _ => none
      | _ => none
  | _ => none

def tasksStep (process : WorkerProcess) (tasks : WorkerTasks) : ProcessEvent → Option WorkerTasks
  | .acts action =>
      match step process tasks.worker action with
      | some worker => some { tasks with worker := worker }
      | none => tasks.panics process action
  | .serves event =>
      match serverStep process.localWorker.forwarderBindAddresses tasks.servers event with
      | none => none
      | some servers => some { tasks with servers := servers }

/-- A run of the process from its start, which goes no further than its exit. -/
def processRun (process : WorkerProcess) (events : List ProcessEvent) : Option WorkerTasks :=
  replay (whileRunning WorkerTasks.handles (tasksStep process)) (WorkerTasks.initial process) events

/-! ### What makes a task panic -/

/-- The first forwarder address, if there is one, has no port, or is the
unspecified host with no interface to stand for it. -/
def Addressless (localWorker : LocalWorkerConfig) (interfaces : List Ipv4Addr) : Prop :=
  ∀ addr, localWorker.forwarderBindAddresses.head? = some addr →
    ':' ∉ addr.toList ∨ interfaces = [] ∧ ∃ rest, addr = "0.0.0.0" ++ ":" ++ rest

/-- The worker's own surroundings make its event loop panic on the message:
pRuntime is configured without a host or reports no version, a lock finds no
public port or no address of the worker's own, or the browser does not stop. -/
inductive OwnFault (process : WorkerProcess) (outside : Outside) (wr : WorkerRuntime) :
    WorkerRuntimeChannelMessage → Prop where
  | hostless (info : PhactoryInfo) (starting : wr.status = .starting)
      (unnamed : (process.urlparse process.localWorker.pruntimeAddress).hostname = none) :
      OwnFault process outside wr (.shouldUpdateInfo info)
  | unversioned (info : PhactoryInfo) (starting : wr.status = .starting)
      (unread : process.versionSupported info.version = none) :
      OwnFault process outside wr (.shouldUpdateInfo info)
  | portless (peer : BrokerPeer)
      (dropped : (wr.networkStatus.bind NetworkConfigResponse.publicRpcPort) = none) :
      OwnFault process outside wr (.shouldLockBroker peer)
  | addressless (peer : BrokerPeer)
      (unaddressed : Addressless process.localWorker outside.interfaces) :
      OwnFault process outside wr (.shouldLockBroker peer)
  | browsing (error : String) (refused : outside.stopBrowse = .error error) :
      OwnFault process outside wr (.shouldUpdateStatus .pendingProvision)

/-- The event loop panics on the message by a fault of the worker's own, or
because the locked broker has announced no outbound address with a port. -/
inductive Panics (process : WorkerProcess) (outside : Outside) (wr : WorkerRuntime) :
    WorkerRuntimeChannelMessage → Prop where
  | own {message : WorkerRuntimeChannelMessage} (fault : OwnFault process outside wr message) :
      Panics process outside wr message
  | proxyless (peer : BrokerPeer) (locked : wr.bestBroker = some peer)
      (unannounced : ¬ HasProxyItem peer.serviceInfo) :
      Panics process outside wr (.shouldUpdateStatus .pendingProvision)

/-- The event ends the process: the event loop panics on its next message, or a
forwarder address cannot be served. -/
inductive Fatal (process : WorkerProcess) (tasks : WorkerTasks) : ProcessEvent → Prop where
  | eventLoop (outside : Outside) (message : WorkerRuntimeChannelMessage)
      (rest : List WorkerRuntimeChannelMessage) (head : tasks.worker.queue = message :: rest)
      (panics : Panics process outside tasks.worker.runtime message) :
      Fatal process tasks (.acts (.handled outside))
  | unserved (event : ServerEvent)
      (unserved : Unserved process.localWorker.forwarderBindAddresses event) :
      Fatal process tasks (.serves event)

variable {process : WorkerProcess} {outside : Outside} {state next : WorkerState}

/-! ### A lock ahead means a known key -/

/-- The key is known, or no lock lies ahead. -/
def KeySafe (state : WorkerState) : Prop :=
  state.runtime.publicKey.isSome ∨ NoLockAhead state

theorem EventOutcome.keeps_key {wr : WorkerRuntime} {message : WorkerRuntimeChannelMessage}
    {handled : Handled} (outcome : EventOutcome process outside wr message handled)
    (known : wr.publicKey.isSome) : handled.runtime.publicKey.isSome := by
  cases outcome with
  | failure | infoLater | locked => exact known
  | infoInStarting info hostname starting parsed outcome =>
      cases outcome with
      | admitted => rfl
      | unsupported | uninitialized | unconfigured | portless | keyless => exact known
  | status newStatus outcome => cases outcome <;> exact known

/-- With no lock ahead, a turn of the event loop opens no way to one unless it
admits an info, whose key is then known. -/
theorem NoLockAhead.turn (closed : NoLockAhead state) {message : WorkerRuntimeChannelMessage}
    {rest : List WorkerRuntimeChannelMessage} {handled : Handled}
    (head : state.queue = message :: rest)
    (returned : handleRuntimeEvent process outside state.runtime message = .ok handled)
    (waiters : List UInt8) :
    KeySafe
      { state with
        runtime := handled.runtime
        queue := rest ++ handled.sent
        waiters := waiters } := by
  by_cases admission : ∃ info, message = .shouldUpdateInfo info ∧ state.runtime.status = .starting
  · obtain ⟨info, rfl, starting⟩ := admission
    obtain ⟨hostname, _, outcome⟩ := handleUpdateInfo_starting starting returned
    cases outcome with
    | admitted => exact Or.inl rfl
    | unsupported | uninitialized | unconfigured | portless | keyless =>
        exact Or.inr (closed.handled head (Or.inl rfl) (by simp [leadsToLock]))
  · have harmless := closed.2 message (by rw [head]; exact List.mem_cons_self)
    obtain ⟨moved, quiet⟩ := (handleRuntimeEvent_reply returned).opensNoWay
      (fun info isInfo starting => admission ⟨info, isInfo, starting⟩) harmless
    exact Or.inr (closed.handled head moved quiet)

theorem KeySafe.step {action : Action} (safe : KeySafe state)
    (taken : step process state action = some next) : KeySafe next := by
  have enqueued : ∀ {current : WorkerState} {message : WorkerRuntimeChannelMessage},
      KeySafe current → leadsToLock message = false → KeySafe (current.enqueue message) := by
    intro current message safe harmless
    rcases safe with known | ⟨idle, none⟩
    · exact Or.inl known
    · refine Or.inr ⟨idle, ?_⟩
      intro other member
      rcases List.mem_append.mp member with before | last
      · exact none other before
      · rw [List.mem_singleton.mp last]
        exact harmless
  cases step_outcome taken with
  | pruntimeAnswered | pruntimeFailed => exact enqueued safe rfl
  | keepaliveRefused =>
      have idle : KeySafe { state with keepalive := .idle } := safe
      exact enqueued idle rfl
  | keepaliveSkipped | keepaliveChecked | keepaliveRead | keepaliveAccepted | brokerIgnored
  | brokerAnnounced | forwarderRefused | forwarderPassed | forwarderSent | waiterWaits
  | waiterEnds | waiterPanicked => exact safe
  | waiterLocks index loopNum live peer peers turn =>
      -- a task sends a lock only in a status that an admitted info has led to
      rcases safe with known | ⟨idle, _⟩
      · exact Or.inl known
      · rcases waitForBrokerPeer_cases turn with ⟨waiting, _⟩ | ⟨_, impossible, _⟩
        · exact absurd waiting idle
        · cases impossible
  | handled outside message rest handled head returned =>
      rcases safe with known | closed
      · exact Or.inl ((handleRuntimeEvent_outcome returned).keeps_key known)
      · exact closed.turn head returned _

theorem keySafe_of_run {actions : List Action} (run : workerRun process actions = some state) :
    KeySafe state := by
  refine @replay_preserves WorkerState Action (step process) KeySafe WorkerState.initial
    (Or.inr ⟨nofun, nofun⟩) ?_ actions state run
  intro current action next safe taken
  exact safe.step taken

/-! ### What a reachable worker panics on -/

theorem concreteHost_returns_iff {addresses : List Ipv4Addr} {host : String} :
    (∃ concrete, concreteHost addresses host = .ok concrete) ↔
      ¬ (addresses = [] ∧ host = "0.0.0.0") := by
  constructor
  · rintro ⟨concrete, chosen⟩ ⟨rfl, rfl⟩
    cases chosen
  · intro possible
    by_cases unspecified : host = "0.0.0.0"
    · exact concreteHost_of_nonempty (fun none => possible ⟨none, unspecified⟩) host
    · exact ⟨host, if_neg unspecified⟩

/-- An address with a colon in it is of no use exactly when its host is the
unspecified one and nothing stands for it. -/
theorem addressless_of_cut {interfaces : List Ipv4Addr} {host rest : String}
    (noColon : ':' ∉ host.toList) :
    (':' ∉ (host ++ ":" ++ rest).toList ∨
        interfaces = [] ∧ ∃ other, host ++ ":" ++ rest = "0.0.0.0" ++ ":" ++ other) ↔
      interfaces = [] ∧ host = "0.0.0.0" := by
  constructor
  · rintro (absent | ⟨none, other, same⟩)
    · exact absurd (by simp) absent
    · refine ⟨none, ?_⟩
      have pieces := congrArg (splitChar ':') same
      change splitChar ':' (host ++ String.singleton ':' ++ rest) =
        splitChar ':' ("0.0.0.0" ++ String.singleton ':' ++ other) at pieces
      rw [splitChar_append noColon, splitChar_append (by decide)] at pieces
      exact (List.cons.inj pieces).1
  · rintro ⟨none, rfl⟩
    exact Or.inr ⟨none, rest, rfl⟩

/-- The worker has an address to give to its broker, or is addressless. -/
theorem forwarderAddress_returns_iff {localWorker : LocalWorkerConfig}
    {interfaces : List Ipv4Addr} :
    (∃ address, forwarderAddress localWorker interfaces = .ok address) ↔
      ¬ Addressless localWorker interfaces := by
  unfold forwarderAddress Addressless
  cases first : localWorker.forwarderBindAddresses.head? with
  | none =>
      refine iff_of_false ?_ (fun addressed => addressed nofun)
      rintro ⟨address, impossible⟩
      cases impossible
  | some addr =>
      simp only [Option.some.injEq, forall_eq', unwrap_some, bind, Except.bind]
      by_cases colon : ':' ∈ addr.toList
      · obtain ⟨host, rest, rfl, noColon⟩ := exists_cut colon
        obtain ⟨port, later, ports⟩ := List.exists_cons_of_ne_nil (splitChar_ne_nil ':' rest)
        rw [show String.singleton ':' = ":" from rfl, addressless_of_cut noColon,
          ← concreteHost_returns_iff]
        have pieces : splitChar ':' (host ++ ":" ++ rest) = host :: port :: later := by
          change splitChar ':' (host ++ String.singleton ':' ++ rest) = _
          rw [splitChar_append noColon, ports]
        simp only [pieces, List.getElem?_cons_succ, List.getElem?_cons_zero, unwrap_some]
        cases concreteHost interfaces host with
        | error panic => exact iff_of_false nofun nofun
        | ok concrete => exact iff_of_true ⟨_, rfl⟩ ⟨concrete, rfl⟩
      · simp only [splitChar_of_absent colon, List.getElem?_cons_succ, List.getElem?_nil,
          unwrap_none]
        refine iff_of_false nofun ?_
        intro addressed
        exact addressed (Or.inl colon)

theorem panics_iff_not_returns {Value : Type} {call : Except Panic Value} :
    (∃ panic, call = .error panic) ↔ ¬ ∃ value, call = .ok value := by
  cases call with
  | error panic => exact iff_of_true ⟨panic, rfl⟩ nofun
  | ok value => exact iff_of_false nofun (fun refused => refused ⟨value, rfl⟩)

theorem handleUpdateInfo_panics_iff {wr : WorkerRuntime} {info : PhactoryInfo} :
    (∃ panic, wr.handleUpdateInfo process outside info = .error panic) ↔
      OwnFault process outside wr (.shouldUpdateInfo info) := by
  rw [panics_iff_not_returns]
  by_cases starting : wr.status = .starting
  · cases named : (process.urlparse process.localWorker.pruntimeAddress).hostname with
    | none =>
        refine iff_of_true ?_ (.hostless info starting named)
        rintro ⟨handled, returned⟩
        obtain ⟨hostname, other, _⟩ := handleUpdateInfo_starting starting returned
        rw [named] at other
        cases other
    | some hostname =>
        have hosted : (process.urlparse process.localWorker.pruntimeAddress).hostname.isSome := by
          rw [named]
          rfl
        rw [handleUpdateInfo_returns_iff starting hosted, Option.not_isSome_iff_eq_none]
        constructor
        · exact .unversioned info starting
        · intro fault
          cases fault with
          | hostless _ _ unnamed =>
              rw [named] at unnamed
              cases unnamed
          | unversioned _ _ unread => exact unread
  · refine iff_of_false (fun panics => panics ⟨_, handleUpdateInfo_later starting⟩) ?_
    intro fault
    cases fault with
    | hostless _ there | unversioned _ there => exact starting there

/-- In a reachable state a queued lock fails for want of a public port or of an
address, never for want of a key. -/
theorem handleLockPeer_panics_iff {actions : List Action}
    (run : workerRun process actions = some state) {peer : BrokerPeer}
    (queued : .shouldLockBroker peer ∈ state.queue) :
    (∃ panic, state.runtime.handleLockPeer process outside peer = .error panic) ↔
      OwnFault process outside state.runtime (.shouldLockBroker peer) := by
  have key : state.runtime.publicKey.isSome := by
    rcases keySafe_of_run run with known | ⟨_, none⟩
    · exact known
    · cases none _ queued
  obtain ⟨publicKey, keyAt⟩ := Option.isSome_iff_exists.mp key
  rw [panics_iff_not_returns]
  constructor
  · intro refused
    by_cases unaddressed : Addressless process.localWorker outside.interfaces
    · exact .addressless peer unaddressed
    · obtain ⟨address, addressed⟩ := forwarderAddress_returns_iff.mpr unaddressed
      refine .portless peer ?_
      by_contra present
      obtain ⟨rpcPort, portAt⟩ := Option.ne_none_iff_exists'.mp present
      obtain ⟨config, configAt, portAt⟩ := Option.bind_eq_some_iff.mp portAt
      exact refused (DataKnown.locks ⟨⟨config, rpcPort, configAt, portAt⟩, publicKey, keyAt⟩
        addressed peer)
  · rintro fault ⟨handled, returned⟩
    obtain ⟨identity, built, _⟩ := handleLockPeer_eq_ok.mp returned
    obtain ⟨config, rpcPort, _, address, configAt, portAt, _, addressed, _⟩ :=
      keepaliveIdentity_eq_ok.mp built
    cases fault with
    | portless _ dropped =>
        rw [configAt] at dropped
        exact absurd (dropped.symm.trans portAt) nofun
    | addressless _ unaddressed =>
        exact forwarderAddress_returns_iff.mp ⟨address, addressed⟩ unaddressed

theorem provision_returns_iff {wr : WorkerRuntime} {peer : BrokerPeer}
    (locked : wr.bestBroker = some peer) :
    (∃ handled, wr.handleUpdateStatus outside .pendingProvision = .ok handled) ↔
      outside.stopBrowse = .ok () ∧
        ∃ outcome, setPruntimeNetworkWithPeer outside peer = .ok outcome := by
  constructor
  · rintro ⟨handled, returned⟩
    unfold WorkerRuntime.handleUpdateStatus at returned
    simp only at returned
    split at returned
    · cases returned
    · rename_i stopped
      obtain ⟨other, lockedToo, returned⟩ := bind_eq_ok.mp returned
      rw [unwrap_eq_ok, locked] at lockedToo
      cases lockedToo
      obtain ⟨outcome, configured, _⟩ := bind_eq_ok.mp returned
      exact ⟨stopped, outcome, configured⟩
  · rintro ⟨stopped, outcome, configured⟩
    cases outcome with
    | error error =>
        refine ⟨⟨{ wr with status := .pendingProvision }, [.shouldSetBrokerFailed error], 0⟩, ?_⟩
        simp only [WorkerRuntime.handleUpdateStatus, stopped, locked, unwrap_some, bind,
          Except.bind, configured]
        rfl
    | ok _ =>
        refine ⟨⟨{ wr with status := .pendingProvision }, [.shouldUpdateStatus .started], 0⟩, ?_⟩
        simp only [WorkerRuntime.handleUpdateStatus, stopped, locked, unwrap_some, bind,
          Except.bind, configured]
        rfl

/-- In a reachable state a queued provisioning fails on the browser or on the
announcement of the locked broker, never for want of a broker or of its address. -/
theorem provision_panics_iff {actions : List Action}
    (run : workerRun process actions = some state)
    (queued : .shouldUpdateStatus .pendingProvision ∈ state.queue) :
    (∃ panic, state.runtime.handleUpdateStatus outside .pendingProvision = .error panic) ↔
      Panics process outside state.runtime (.shouldUpdateStatus .pendingProvision) := by
  cases locked : state.runtime.bestBroker with
  | none => exact absurd .provision ((brokerFirst_of_run run locked).queue _ queued)
  | some peer =>
      have proxied := proxy_of_locked run locked
      rw [panics_iff_not_returns, provision_returns_iff locked,
        setPruntimeNetworkWithPeer_returns_iff, proxied]
      constructor
      · intro refused
        cases stopped : outside.stopBrowse with
        | error error => exact .own (.browsing error stopped)
        | ok _ => exact .proxyless peer locked fun announced => refused ⟨stopped, announced⟩
      · rintro panics ⟨stopped, announced⟩
        cases panics with
        | own fault =>
            cases fault with
            | browsing error refused =>
                rw [stopped] at refused
                cases refused
        | proxyless other lockedToo unannounced =>
            rw [locked] at lockedToo
            cases lockedToo
            exact unannounced announced

theorem panics_iff_own {wr : WorkerRuntime} {message : WorkerRuntimeChannelMessage}
    (other : message ≠ .shouldUpdateStatus .pendingProvision) :
    Panics process outside wr message ↔ OwnFault process outside wr message := by
  constructor
  · intro panics
    cases panics with
    | own fault => exact fault
    | proxyless => exact absurd rfl other
  · exact .own

/-- A message at the head of the queue makes the event loop of a reachable
worker panic exactly for the reasons listed. -/
theorem handleRuntimeEvent_panics_iff {actions : List Action}
    (run : workerRun process actions = some state) {message : WorkerRuntimeChannelMessage}
    (queued : message ∈ state.queue) :
    (∃ panic, handleRuntimeEvent process outside state.runtime message = .error panic) ↔
      Panics process outside state.runtime message := by
  by_cases provisions : message = .shouldUpdateStatus .pendingProvision
  · subst provisions
    exact provision_panics_iff run queued
  · rw [panics_iff_own provisions]
    cases message with
    | shouldUpdateInfo info => exact handleUpdateInfo_panics_iff
    | shouldSetPRuntimeFailed msg | shouldSetBrokerFailed msg => exact iff_of_false nofun nofun
    | shouldLockBroker peer => exact handleLockPeer_panics_iff run queued
    | shouldUpdateStatus status =>
        cases status with
        | pendingProvision => exact absurd rfl provisions
        | starting | waitingForBroker | started | failed reason => exact iff_of_false nofun nofun

/-! ### Runs of the process -/

/-- What a step of the process leaves. -/
inductive TasksOutcome (process : WorkerProcess) (tasks : WorkerTasks) :
    ProcessEvent → WorkerTasks → Prop where
  | acted (action : Action) (worker : WorkerState)
      (taken : step process tasks.worker action = some worker) :
      TasksOutcome process tasks (.acts action) { tasks with worker := worker }
  | eventLoop (outside : Outside) (message : WorkerRuntimeChannelMessage)
      (rest : List WorkerRuntimeChannelMessage) (panic : Panic)
      (head : tasks.worker.queue = message :: rest)
      (panics : handleRuntimeEvent process outside tasks.worker.runtime message = .error panic) :
      TasksOutcome process tasks (.acts (.handled outside)) { tasks with eventLoop := .panicked }
  | keepaliveLoop (panic : Panic) (checked : tasks.worker.keepalive = .checked)
      (panics : checkCurrentBrokerHealth tasks.worker.runtime = .error panic) :
      TasksOutcome process tasks (.acts .keepaliveRead) { tasks with keepaliveLoop := .panicked }
  | serves (event : ServerEvent) (servers : List Fate)
      (taken : serverStep process.localWorker.forwarderBindAddresses tasks.servers event =
        some servers) :
      TasksOutcome process tasks (.serves event) { tasks with servers := servers }

theorem tasksStep_outcome {tasks after : WorkerTasks} {event : ProcessEvent}
    (taken : tasksStep process tasks event = some after) :
    TasksOutcome process tasks event after := by
  cases event with
  | acts action =>
      simp only [tasksStep] at taken
      split at taken
      · rename_i worker stepped
        cases taken
        exact .acted action worker stepped
      · cases action with
        | handled outside =>
            simp only [WorkerTasks.panics] at taken
            split at taken
            · cases taken
            · rename_i message rest head
              split at taken
              · rename_i panic panics
                cases taken
                exact .eventLoop outside message rest panic head panics
              · cases taken
        | keepaliveRead =>
            simp only [WorkerTasks.panics] at taken
            split at taken
            · rename_i checked
              split at taken
              · rename_i panic panics
                cases taken
                exact .keepaliveLoop panic checked panics
              · cases taken
            · cases taken
        | _ => cases taken
  | serves event =>
      simp only [tasksStep] at taken
      split at taken
      · cases taken
      · rename_i servers served
        cases taken
        exact .serves event servers served

/-- What every step of the process keeps: its worker is a reachable one, and
each configured address has its server. -/
structure Underway (process : WorkerProcess) (tasks : WorkerTasks) : Prop where
  reached : ∃ actions, workerRun process actions = some tasks.worker
  servers : tasks.servers.length = process.localWorker.forwarderBindAddresses.length

theorem Underway.step {tasks after : WorkerTasks} {event : ProcessEvent}
    (underway : Underway process tasks) (taken : tasksStep process tasks event = some after) :
    Underway process after := by
  cases tasksStep_outcome taken with
  | acted action worker stepped =>
      refine ⟨?_, underway.servers⟩
      obtain ⟨actions, run⟩ := underway.reached
      refine ⟨actions ++ [action], ?_⟩
      unfold workerRun at run ⊢
      rw [replay_concat, run]
      exact stepped
  | eventLoop | keepaliveLoop => exact ⟨underway.reached, underway.servers⟩
  | serves event servers served =>
      exact ⟨underway.reached, (serverStep_length served).trans underway.servers⟩

theorem keepalive_reads {actions : List Action} (run : workerRun process actions = some state)
    (checked : state.keepalive = .checked) :
    ∃ request, checkCurrentBrokerHealth state.runtime = .ok request := by
  have busy : state.keepalive ≠ .idle := by
    rw [checked]
    exact nofun
  have present : state.runtime.bestBroker.isSome := by
    by_contra absent
    exact busy (brokerFirst_of_run run (Option.not_isSome_iff_eq_none.mp absent)).keepalive
  obtain ⟨peer, content, _, _, read⟩ := (equipped_of_broker run present).usesSafely.keepalive
  exact ⟨_, read⟩

theorem panicked_mem_handles {tasks : WorkerTasks} :
    .panicked ∈ tasks.handles ↔
      tasks.eventLoop = .panicked ∨ .panicked ∈ tasks.servers ∨
        tasks.keepaliveLoop = .panicked := by
  simp only [WorkerTasks.handles, startPublicForwarder, List.mem_cons, List.not_mem_nil, or_false,
    @eq_comm _ Fate.panicked, tryJoinAll_eq_panicked, reduceCtorEq, false_or]

/-- A step of the running process makes one of its tasks panic exactly when it
is fatal. -/
theorem Underway.panics_iff {tasks after : WorkerTasks} {event : ProcessEvent}
    (underway : Underway process tasks) (running : tryJoinAll tasks.handles = .running)
    (taken : tasksStep process tasks event = some after) :
    tryJoinAll after.handles = .panicked ↔ Fatal process tasks event := by
  have unharmed : .panicked ∉ tasks.handles := by
    intro panicked
    rw [tryJoinAll_eq_panicked.mpr panicked] at running
    cases running
  rw [panicked_mem_handles] at unharmed
  obtain ⟨noLoop, noServer, noKeepalive⟩ := not_or.mp unharmed |>.imp_right not_or.mp
  obtain ⟨actions, run⟩ := underway.reached
  rw [tryJoinAll_eq_panicked, panicked_mem_handles]
  cases tasksStep_outcome taken with
  | acted action worker stepped =>
      refine iff_of_false unharmed ?_
      intro fatal
      cases fatal with
      | eventLoop outside message rest head panics =>
          obtain ⟨panic, refused⟩ := (handleRuntimeEvent_panics_iff run
            (by rw [head]; exact List.mem_cons_self)).mpr panics
          obtain ⟨other, _, handled, headToo, returned, _⟩ := handle_eq_some stepped
          rw [head] at headToo
          cases headToo
          rw [refused] at returned
          cases returned
  | eventLoop outside message rest panic head panics =>
      refine iff_of_true (Or.inl rfl) (.eventLoop outside message rest head ?_)
      exact (handleRuntimeEvent_panics_iff run (by rw [head]; exact List.mem_cons_self)).mp
        ⟨panic, panics⟩
  | keepaliveLoop panic checked panics =>
      obtain ⟨request, read⟩ := keepalive_reads run checked
      rw [panics] at read
      cases read
  | serves event servers served =>
      rw [or_iff_right noLoop, or_iff_left noKeepalive,
        serverStep_panics_iff noServer underway.servers served]
      constructor
      · exact .unserved event
      · intro fatal
        cases fatal with
        | unserved _ unserved => exact unserved

theorem WorkerTasks.handles_initial (process : WorkerProcess) :
    tryJoinAll (WorkerTasks.initial process).handles = .running := by
  cases fate : tryJoinAll (WorkerTasks.initial process).handles with
  | running => rfl
  | ended => exact absurd fate (tryJoinAll_ne_ended (by simp [WorkerTasks.handles]))
  | panicked =>
      rw [tryJoinAll_eq_panicked, panicked_mem_handles] at fate
      simp [WorkerTasks.initial] at fate

/-- A worker process never exits with success.  It exits with 100 exactly with a
step that leaves a forwarder address unserved, or in which the event loop panics
for one of the listed reasons; no other task and no other state of the runtime
ends it. -/
theorem worker_exits_iff {events : List ProcessEvent} {tasks : WorkerTasks}
    (run : processRun process events = some tasks) :
    tasks.exitCode ≠ some 0 ∧
      (tasks.exitCode = some 100 ↔
        ∃ before event current, events = before ++ [event] ∧
          processRun process before = some current ∧ Fatal process current event) := by
  constructor
  · unfold WorkerTasks.exitCode
    rw [ne_eq, joinHandles_eq_success]
    exact tryJoinAll_ne_ended (by simp [WorkerTasks.handles])
  · unfold WorkerTasks.exitCode
    rw [joinHandles_eq_failure]
    refine @fails_iff_last _ _ WorkerTasks.handles (tasksStep process) (WorkerTasks.initial process)
      tasks events (Underway process) (Fatal process) (WorkerTasks.handles_initial process) ?_ ?_ ?_
      run
    · exact ⟨⟨[], rfl⟩, List.length_map _⟩
    · intro current event next underway taken
      exact underway.step taken
    · intro current event next underway running taken
      exact underway.panics_iff running taken

def versionlessInfo : PhactoryInfo :=
  { version := ""
    initialized := true
    publicKey := none }

/-- A pRuntime that reports no version ends the process. -/
theorem versionless_worker_exits :
    ∃ tasks, processRun exampleProcess
        [.acts (.pruntimeAnswered versionlessInfo), .acts (.handled exampleOutside)] =
          some tasks ∧
      tasks.exitCode = some 100 := by
  have run : ∃ tasks, processRun exampleProcess
      [.acts (.pruntimeAnswered versionlessInfo), .acts (.handled exampleOutside)] =
        some tasks := ⟨_, rfl⟩
  obtain ⟨tasks, run⟩ := run
  refine ⟨tasks, run, (worker_exits_iff run).2.mpr ?_⟩
  refine ⟨[.acts (.pruntimeAnswered versionlessInfo)], .acts (.handled exampleOutside), _, rfl,
    rfl, ?_⟩
  exact .eventLoop exampleOutside (.shouldUpdateInfo versionlessInfo) [] rfl
    (.own (.unversioned versionlessInfo rfl rfl))

end ServiceNetwork.ServiceWorker
