/-
What a provisioned worker holds, and where it came from.

The broker and the keepalive are written when a broker is locked, the key and
the prefix when an info is handled in `Starting`, and the status that licenses
their use arrives later, by message.  Each field is traced to the most recent
step that wrote it, and nothing takes a written field away.
-/

import ServiceNetwork.ServiceWorker.StatusProtocol

namespace ServiceNetwork.ServiceWorker

open ServiceNetwork.Peer
open ServiceNetwork.Replay

/-! ### Events -/

/-- The message that this step handles. -/
def handledMessage (state : WorkerState) : Action → Option WorkerRuntimeChannelMessage
  | .handled _ => state.queue.head?
  | _ => none

def LocksBroker (state : WorkerState) (action : Action) : Prop :=
  ∃ peer, handledMessage state action = some (.shouldLockBroker peer)

/-- The checks in `Starting` up to the public port that pRuntime reports. -/
structure PassesChecks (process : WorkerProcess) (outside : Outside) (info : PhactoryInfo)
    (port : UInt32) : Prop where
  supported : process.versionSupported info.version = some true
  initialized : info.initialized = true
  answered : ∃ config, outside.networkConfig = .ok config ∧ config.publicRpcPort = some port

/-- An info handled in `Starting` passes the checks with this port. -/
def ReportsPort (process : WorkerProcess) (port : UInt32) (state : WorkerState)
    (action : Action) : Prop :=
  ∃ outside info, action = .handled outside ∧
    handledMessage state action = some (.shouldUpdateInfo info) ∧
    state.runtime.status = .starting ∧ PassesChecks process outside info port

/-- Such an info that also carries a key. -/
def AdmitsInfo (process : WorkerProcess) (info : PhactoryInfo) (state : WorkerState)
    (action : Action) : Prop :=
  handledMessage state action = some (.shouldUpdateInfo info) ∧ info.publicKey.isSome ∧
    ∃ port, ReportsPort process port state action

section History

variable (process : WorkerProcess)

abbrev LatestLock (actions before : List Action) (current : WorkerState) (outside : Outside) :
    Prop :=
  MostRecent (step process) WorkerState.initial LocksBroker actions before current
    (.handled outside)

abbrev LatestPort (actions before : List Action) (current : WorkerState) (action : Action) :
    Prop :=
  MostRecent (step process) WorkerState.initial
    (fun state action => ∃ port, ReportsPort process port state action) actions before current
    action

abbrev LatestAdmission (actions before : List Action) (current : WorkerState)
    (action : Action) : Prop :=
  MostRecent (step process) WorkerState.initial
    (fun state action => ∃ info, AdmitsInfo process info state action) actions before current
    action

/-- The prefix is formed from the configured host and the port reported last. -/
def PrefixReported (actions : List Action) (wr : WorkerRuntime) : Prop :=
  (process.urlparse process.localWorker.pruntimeAddress).hostname = some wr.pruntimeHostname ∧
    ∃ before current action port, LatestPort process actions before current action ∧
      ReportsPort process port current action ∧
      wr.pruntimeRpcPrefix = "http://" ++ wr.pruntimeHostname ++ ":" ++ toString port

/-- The key is that of the info admitted last. -/
def KeyAdmitted (actions : List Action) (wr : WorkerRuntime) : Prop :=
  ∃ before current action info, LatestAdmission process actions before current action ∧
    AdmitsInfo process info current action ∧ wr.publicKey = info.publicKey ∧
    wr.initialInfo = some info

/-- The broker fields and the keepalive are those of the lock handled last. -/
def BrokerLocked (actions : List Action) (wr : WorkerRuntime) : Prop :=
  ∃ before current outside peer identity, LatestLock process actions before current outside ∧
    handledMessage current (.handled outside) = some (.shouldLockBroker peer) ∧
    current.runtime.keepaliveIdentity process outside peer = .ok identity ∧
    wr.bestBroker = some peer ∧ wr.bestBrokerName = some peer.instanceName ∧
    wr.bestBrokerMgmtUrl = some peer.mgmtAddr ∧
    wr.keepaliveContent = some (process.json.writeIdentity identity)

/-- What is known of the written fields after any run. -/
structure Recorded (actions : List Action) (wr : WorkerRuntime) : Prop where
  key : wr.publicKey.isSome → PrefixReported process actions wr ∧ KeyAdmitted process actions wr
  broker : wr.bestBroker.isSome → wr.publicKey.isSome ∧ BrokerLocked process actions wr

variable {process}

theorem PrefixReported.later {actions : List Action} {state : WorkerState} {action : Action}
    {wr next : WorkerRuntime} (reported : PrefixReported process actions wr)
    (reached : workerRun process actions = some state)
    (silent : ∀ port, ¬ ReportsPort process port state action)
    (sameHost : next.pruntimeHostname = wr.pruntimeHostname)
    (samePrefix : next.pruntimeRpcPrefix = wr.pruntimeRpcPrefix) :
    PrefixReported process (actions ++ [action]) next := by
  obtain ⟨parsed, before, current, reporting, port, latest, reports, formed⟩ := reported
  rw [← sameHost] at parsed formed
  rw [← samePrefix] at formed
  refine ⟨parsed, before, current, reporting, port, ?_, reports, formed⟩
  exact .later reached (fun ⟨port, event⟩ => silent port event) latest

theorem KeyAdmitted.later {actions : List Action} {state : WorkerState} {action : Action}
    {wr next : WorkerRuntime} (admitted : KeyAdmitted process actions wr)
    (reached : workerRun process actions = some state)
    (silent : ∀ info, ¬ AdmitsInfo process info state action)
    (sameKey : next.publicKey = wr.publicKey) (sameInfo : next.initialInfo = wr.initialInfo) :
    KeyAdmitted process (actions ++ [action]) next := by
  obtain ⟨before, current, admitting, info, latest, admits, key, initial⟩ := admitted
  rw [← sameKey] at key
  rw [← sameInfo] at initial
  refine ⟨before, current, admitting, info, ?_, admits, key, initial⟩
  exact .later reached (fun ⟨info, event⟩ => silent info event) latest

theorem BrokerLocked.later {actions : List Action} {state : WorkerState} {action : Action}
    {wr next : WorkerRuntime} (locked : BrokerLocked process actions wr)
    (reached : workerRun process actions = some state) (silent : ¬ LocksBroker state action)
    (sameBroker : next.bestBroker = wr.bestBroker)
    (sameName : next.bestBrokerName = wr.bestBrokerName)
    (sameUrl : next.bestBrokerMgmtUrl = wr.bestBrokerMgmtUrl)
    (sameContent : next.keepaliveContent = wr.keepaliveContent) :
    BrokerLocked process (actions ++ [action]) next := by
  obtain ⟨before, current, outside, peer, identity, latest, head, built, broker, name, url,
    content⟩ := locked
  rw [← sameBroker] at broker
  rw [← sameName] at name
  rw [← sameUrl] at url
  rw [← sameContent] at content
  exact ⟨before, current, outside, peer, identity, .later reached silent latest, head, built,
    broker, name, url, content⟩

/-- The fields of the record are the same, but that the configured host may
have been written. -/
structure KeepsRecord (process : WorkerProcess) (wr next : WorkerRuntime) : Prop where
  host : next.pruntimeHostname = wr.pruntimeHostname ∨
    (process.urlparse process.localWorker.pruntimeAddress).hostname = some next.pruntimeHostname
  rpcPrefix : next.pruntimeRpcPrefix = wr.pruntimeRpcPrefix
  key : next.publicKey = wr.publicKey
  initial : next.initialInfo = wr.initialInfo
  broker : next.bestBroker = wr.bestBroker
  name : next.bestBrokerName = wr.bestBrokerName
  url : next.bestBrokerMgmtUrl = wr.bestBrokerMgmtUrl
  content : next.keepaliveContent = wr.keepaliveContent

theorem PrefixReported.sameHost {actions : List Action} {wr next : WorkerRuntime}
    (reported : PrefixReported process actions wr)
    (host : next.pruntimeHostname = wr.pruntimeHostname ∨
      (process.urlparse process.localWorker.pruntimeAddress).hostname =
        some next.pruntimeHostname) : next.pruntimeHostname = wr.pruntimeHostname := by
  rcases host with same | parsed
  · exact same
  · rw [reported.1] at parsed
    exact (Option.some.inj parsed).symm

theorem Recorded.silent {actions : List Action} {state : WorkerState} {action : Action}
    {wr next : WorkerRuntime} (recorded : Recorded process actions wr)
    (reached : workerRun process actions = some state)
    (noPort : ∀ port, ¬ ReportsPort process port state action)
    (noLock : ¬ LocksBroker state action) (keeps : KeepsRecord process wr next) :
    Recorded process (actions ++ [action]) next := by
  have noAdmission : ∀ info, ¬ AdmitsInfo process info state action := by
    intro info admits
    obtain ⟨_, _, port, reports⟩ := admits
    exact noPort port reports
  refine ⟨?_, ?_⟩
  · intro present
    rw [keeps.key] at present
    obtain ⟨reported, admitted⟩ := recorded.key present
    exact ⟨reported.later reached noPort (reported.sameHost keeps.host) keeps.rpcPrefix,
      admitted.later reached noAdmission keeps.key keeps.initial⟩
  · intro present
    rw [keeps.broker] at present
    obtain ⟨key, locked⟩ := recorded.broker present
    rw [keeps.key]
    exact ⟨key, locked.later reached noLock keeps.broker keeps.name keeps.url keeps.content⟩

theorem handledMessage_handled {state : WorkerState} {outside : Outside}
    {message : WorkerRuntimeChannelMessage} {rest : List WorkerRuntimeChannelMessage}
    (head : state.queue = message :: rest) :
    handledMessage state (.handled outside) = some message := by
  unfold handledMessage
  rw [head]
  rfl

/-- A message other than an info that passes the checks reports no port. -/
theorem not_reportsPort_of_head {state : WorkerState} {outside : Outside}
    {message : WorkerRuntimeChannelMessage} {rest : List WorkerRuntimeChannelMessage}
    (head : state.queue = message :: rest)
    (refused : ∀ info port, message = .shouldUpdateInfo info →
      state.runtime.status = .starting → ¬ PassesChecks process outside info port) :
    ∀ port, ¬ ReportsPort process port state (.handled outside) := by
  rintro port ⟨other, info, sameOutside, handled, starting, passes⟩
  cases sameOutside
  rw [handledMessage_handled head] at handled
  exact refused info port (Option.some.inj handled) starting passes

theorem not_locksBroker_of_head {state : WorkerState} {outside : Outside}
    {message : WorkerRuntimeChannelMessage} {rest : List WorkerRuntimeChannelMessage}
    (head : state.queue = message :: rest) (other : ∀ peer, message ≠ .shouldLockBroker peer) :
    ¬ LocksBroker state (.handled outside) := by
  rintro ⟨peer, handled⟩
  rw [handledMessage_handled head] at handled
  exact other peer (Option.some.inj handled)

/-- The outcomes of an info in `Starting` by what they record: the refusals
record nothing, and an info without a key leaves the prefix alone behind. -/
inductive AdmissionOutcome (process : WorkerProcess) (outside : Outside) (wr : WorkerRuntime)
    (info : PhactoryInfo) (hostname : String) : WorkerRuntime → Prop where
  | refused {next : WorkerRuntime} (fails : ∀ port, ¬ PassesChecks process outside info port)
      (keeps : KeepsRecord process wr next) (sameLast : next.lastInfo = wr.lastInfo) :
      AdmissionOutcome process outside wr info hostname next
  | keyless (config : NetworkConfigResponse) (rpcPort : UInt32)
      (passes : PassesChecks process outside info rpcPort) (key : info.publicKey = none) :
      AdmissionOutcome process outside wr info hostname
        { wr with
          pruntimeHostname := hostname
          networkStatus := some config
          prRpcPort := rpcPort
          pruntimeRpcPrefix := "http://" ++ hostname ++ ":" ++ toString rpcPort }
  | admitted (config : NetworkConfigResponse) (rpcPort : UInt32)
      (passes : PassesChecks process outside info rpcPort) (publicKey : String)
      (key : info.publicKey = some publicKey) :
      AdmissionOutcome process outside wr info hostname
        { wr with
          pruntimeHostname := hostname
          networkStatus := some config
          prRpcPort := rpcPort
          pruntimeRpcPrefix := "http://" ++ hostname ++ ":" ++ toString rpcPort
          publicKey := some publicKey
          initialInfo := some info
          lastInfo := some info }

theorem StartingOutcome.admission {outside : Outside} {wr : WorkerRuntime} {info : PhactoryInfo}
    {hostname : String} {handled : Handled}
    (parsed : (process.urlparse process.localWorker.pruntimeAddress).hostname = some hostname)
    (outcome : StartingOutcome process outside wr info hostname handled) :
    AdmissionOutcome process outside wr info hostname handled.runtime := by
  cases outcome with
  | unsupported unsupported =>
      refine .refused ?_ ⟨Or.inr parsed, rfl, rfl, rfl, rfl, rfl, rfl, rfl⟩ rfl
      rintro port ⟨supported, _, _⟩
      rw [unsupported] at supported
      cases supported
  | uninitialized _ uninitialized =>
      refine .refused ?_ ⟨Or.inr parsed, rfl, rfl, rfl, rfl, rfl, rfl, rfl⟩ rfl
      rintro port ⟨_, initialized, _⟩
      rw [uninitialized] at initialized
      cases initialized
  | unconfigured _ _ error unanswered =>
      refine .refused ?_ ⟨Or.inr parsed, rfl, rfl, rfl, rfl, rfl, rfl, rfl⟩ rfl
      rintro port ⟨_, _, config, answered, _⟩
      rw [unanswered] at answered
      cases answered
  | portless _ _ config answered port =>
      refine .refused ?_ ⟨Or.inr parsed, rfl, rfl, rfl, rfl, rfl, rfl, rfl⟩ rfl
      rintro rpcPort ⟨_, _, config', answered', reported⟩
      rw [answered] at answered'
      cases answered'
      rw [port] at reported
      cases reported
  | keyless supported initialized config answered rpcPort port key =>
      exact .keyless config rpcPort ⟨supported, initialized, config, answered, port⟩ key
  | admitted supported initialized config answered rpcPort port publicKey key =>
      exact .admitted config rpcPort ⟨supported, initialized, config, answered, port⟩ publicKey
        key

/-- An info handled in `Starting` records what its checks let through. -/
theorem Recorded.infoInStarting {actions : List Action} {state : WorkerState}
    {outside : Outside} {info : PhactoryInfo} {rest : List WorkerRuntimeChannelMessage}
    {hostname : String} {next : WorkerRuntime}
    (recorded : Recorded process actions state.runtime)
    (reached : workerRun process actions = some state)
    (head : state.queue = .shouldUpdateInfo info :: rest)
    (starting : state.runtime.status = .starting)
    (parsed : (process.urlparse process.localWorker.pruntimeAddress).hostname = some hostname)
    (outcome : AdmissionOutcome process outside state.runtime info hostname next) :
    Recorded process (actions ++ [.handled outside]) next := by
  have noLock : ¬ LocksBroker state (.handled outside) :=
    not_locksBroker_of_head head (by simp)
  have handled : handledMessage state (.handled outside) = some (.shouldUpdateInfo info) :=
    handledMessage_handled head
  cases outcome with
  | refused fails keeps _ =>
      refine recorded.silent reached (not_reportsPort_of_head head ?_) noLock keeps
      intro other port same _
      cases same
      exact fails port
  | keyless config rpcPort passes key =>
      have reports : ReportsPort process rpcPort state (.handled outside) :=
        ⟨outside, info, rfl, handled, starting, passes⟩
      refine ⟨?_, ?_⟩
      · intro present
        refine ⟨⟨parsed, actions, state, .handled outside, rpcPort, .here reached ⟨_, reports⟩,
          reports, rfl⟩, ?_⟩
        refine (recorded.key present).2.later reached ?_ rfl rfl
        rintro other ⟨admitted, present, _⟩
        rw [handled] at admitted
        cases admitted
        rw [key] at present
        cases present
      · intro present
        obtain ⟨known, locked⟩ := recorded.broker present
        exact ⟨known, locked.later reached noLock rfl rfl rfl rfl⟩
  | admitted config rpcPort passes publicKey key =>
      have reports : ReportsPort process rpcPort state (.handled outside) :=
        ⟨outside, info, rfl, handled, starting, passes⟩
      have admits : AdmitsInfo process info state (.handled outside) :=
        ⟨handled, by rw [key]; rfl, rpcPort, reports⟩
      refine ⟨?_, ?_⟩
      · intro _
        exact ⟨⟨parsed, actions, state, .handled outside, rpcPort, .here reached ⟨_, reports⟩,
          reports, rfl⟩, actions, state, .handled outside, info, .here reached ⟨_, admits⟩,
          admits, key.symm, rfl⟩
      · intro present
        obtain ⟨_, locked⟩ := recorded.broker present
        exact ⟨rfl, locked.later reached noLock rfl rfl rfl rfl⟩

/-- A status update writes the status, and no field of the record. -/
theorem StatusOutcome.keepsRecord {wr : WorkerRuntime} {newStatus : WorkerRuntimeStatus}
    {handled : Handled} (outcome : StatusOutcome wr newStatus handled) :
    KeepsRecord process wr handled.runtime := by
  cases outcome <;> exact ⟨Or.inl rfl, rfl, rfl, rfl, rfl, rfl, rfl, rfl⟩

theorem Recorded.step {actions : List Action} {state next : WorkerState} {action : Action}
    (recorded : Recorded process actions state.runtime)
    (reached : workerRun process actions = some state)
    (taken : step process state action = some next) :
    Recorded process (actions ++ [action]) next.runtime := by
  by_cases turn : ∃ outside, action = .handled outside
  · obtain ⟨outside, rfl⟩ := turn
    obtain ⟨message, rest, handled, head, returned, rfl⟩ := handle_eq_some taken
    change Recorded process (actions ++ [.handled outside]) handled.runtime
    cases handleRuntimeEvent_outcome returned with
    | failure reported sent _ =>
        refine recorded.silent reached (not_reportsPort_of_head head ?_)
          (not_locksBroker_of_head head ?_) ⟨Or.inl rfl, rfl, rfl, rfl, rfl, rfl, rfl, rfl⟩
        · intro info port same
          rw [same] at reported
          cases reported
        · intro peer same
          rw [same] at reported
          cases reported
    | infoInStarting info hostname starting parsed outcome =>
        exact recorded.infoInStarting reached head starting parsed (outcome.admission parsed)
    | infoLater info later =>
        refine recorded.silent reached (not_reportsPort_of_head head ?_)
          (not_locksBroker_of_head head (by simp))
          ⟨Or.inl rfl, rfl, rfl, rfl, rfl, rfl, rfl, rfl⟩
        intro other port _ starting
        exact absurd starting later
    | status newStatus outcome =>
        exact recorded.silent reached (not_reportsPort_of_head head (by simp))
          (not_locksBroker_of_head head (by simp)) outcome.keepsRecord
    | locked peer identity built =>
        have locks : LocksBroker state (.handled outside) :=
          ⟨peer, handledMessage_handled head⟩
        have noPort : ∀ port, ¬ ReportsPort process port state (.handled outside) :=
          not_reportsPort_of_head head (by simp)
        refine ⟨?_, ?_⟩
        · intro present
          obtain ⟨reported, admitted⟩ := recorded.key present
          refine ⟨reported.later reached noPort rfl rfl, admitted.later reached ?_ rfl rfl⟩
          rintro info ⟨_, _, port, reports⟩
          exact noPort port reports
        · intro _
          obtain ⟨_, _, known, _⟩ := keepaliveIdentity_ok built
          refine ⟨by rw [known]; rfl, ?_⟩
          exact ⟨actions, state, outside, peer, identity, .here reached locks,
            handledMessage_handled head, built, rfl, rfl, rfl, rfl⟩
  · have noTurn : ∀ outside, action ≠ .handled outside :=
      fun outside same => turn ⟨outside, same⟩
    have unhandled : handledMessage state action = none := by
      unfold handledMessage
      cases action with
      | handled outside => exact absurd rfl (noTurn outside)
      | _ => rfl
    rw [step_keeps_runtime taken noTurn]
    refine recorded.silent reached ?_ ?_ ⟨Or.inl rfl, rfl, rfl, rfl, rfl, rfl, rfl, rfl⟩
    · rintro port ⟨outside, _, same, _⟩
      exact noTurn outside same
    · rintro ⟨peer, handled⟩
      rw [unhandled] at handled
      cases handled

theorem recorded_of_run {actions : List Action} {state : WorkerState}
    (run : workerRun process actions = some state) : Recorded process actions state.runtime := by
  refine @replay_holds WorkerState Action (ServiceWorker.step process)
    (fun taken current => Recorded process taken current.runtime) WorkerState.initial ?_ ?_
    actions state run
  · refine ⟨?_, ?_⟩ <;> intro impossible <;> cases impossible
  · intro before current action next reached recorded taken
    exact recorded.step reached taken

end History

/-! ### Who may use the record -/

/-- The messages that license the use of the broker while they are queued. -/
inductive IsLicence : WorkerRuntimeChannelMessage → Prop where
  | provision : IsLicence (.shouldUpdateStatus .pendingProvision)
  | start : IsLicence (.shouldUpdateStatus .started)

/-- Neither the status, nor a queued update, nor a task that saw such a status
licenses the use of the broker. -/
structure Unlicensed (state : WorkerState) : Prop where
  status : provisioned state.runtime.status = false
  queue : ∀ message ∈ state.queue, ¬ IsLicence message
  keepalive : state.keepalive = .idle
  forwards : state.forwards = []

/-- Without a locked broker nothing licenses its use. -/
def BrokerFirst (state : WorkerState) : Prop :=
  state.runtime.bestBroker = none → Unlicensed state

theorem Unlicensed.enqueue {state : WorkerState} {message : WorkerRuntimeChannelMessage}
    (unlicensed : Unlicensed state) (harmless : ¬ IsLicence message) :
    Unlicensed (state.enqueue message) := by
  refine ⟨unlicensed.status, ?_, unlicensed.keepalive, unlicensed.forwards⟩
  intro queued member
  rcases List.mem_append.mp member with old | new
  · exact unlicensed.queue queued old
  · rw [List.mem_singleton.mp new]
    exact harmless

theorem Unlicensed.same {state next : WorkerState} (unlicensed : Unlicensed state)
    (sameRuntime : next.runtime = state.runtime) (sameQueue : next.queue = state.queue)
    (sameKeepalive : next.keepalive = state.keepalive)
    (sameForwards : next.forwards = state.forwards) : Unlicensed next := by
  refine ⟨?_, ?_, ?_, ?_⟩
  · rw [sameRuntime]
    exact unlicensed.status
  · rw [sameQueue]
    exact unlicensed.queue
  · rw [sameKeepalive]
    exact unlicensed.keepalive
  · rw [sameForwards]
    exact unlicensed.forwards

/-- A handled message that leaves no broker locked leaves no licence. -/
theorem EventOutcome.unlicensed {process : WorkerProcess} {outside : Outside}
    {wr : WorkerRuntime} {message : WorkerRuntimeChannelMessage} {handled : Handled}
    (outcome : EventOutcome process outside wr message handled)
    (unlocked : handled.runtime.bestBroker = none)
    (before : wr.bestBroker = none → provisioned wr.status = false ∧ ¬ IsLicence message) :
    wr.bestBroker = none ∧ provisioned handled.runtime.status = false ∧
      ∀ sent ∈ handled.sent, ¬ IsLicence sent := by
  cases outcome with
  | failure reported sent fails =>
      refine ⟨unlocked, (before unlocked).1, ?_⟩
      intro update member licence
      obtain ⟨reason, rfl⟩ := fails update member
      cases licence
  | infoInStarting info hostname starting parsed outcome =>
      have same : wr.bestBroker = none ∧ handled.runtime.status = wr.status := by
        cases outcome <;> exact ⟨unlocked, rfl⟩
      rw [same.2]
      refine ⟨same.1, (before same.1).1, ?_⟩
      intro sent member licence
      cases outcome <;> rw [List.mem_singleton.mp member] at licence <;> cases licence
  | infoLater info later =>
      refine ⟨unlocked, (before unlocked).1, ?_⟩
      intro sent member licence
      unfold WorkerRuntime.recoverFromFailure at member
      split at member
      · rw [List.mem_singleton.mp member] at licence
        cases licence
      · cases member
  | status newStatus outcome =>
      have none : wr.bestBroker = none := by cases outcome <;> exact unlocked
      have refused := (before none).2
      refine ⟨none, ?_⟩
      cases outcome with
      | starting | waitingForBroker | failed => exact ⟨rfl, by simp⟩
      | provisioned peer locked | unprovisioned peer locked =>
          rw [none] at locked
          cases locked
      | started => exact absurd .start refused
  | locked peer identity built => cases unlocked

theorem step_keeps_brokerFirst {process : WorkerProcess} {state next : WorkerState}
    {action : Action} (first : BrokerFirst state) (taken : step process state action = some next) :
    BrokerFirst next := by
  intro unlocked
  cases step_outcome taken with
  | pruntimeAnswered info => exact (first unlocked).enqueue (by rintro ⟨⟩)
  | pruntimeFailed error => exact (first unlocked).enqueue (by rintro ⟨⟩)
  | keepaliveSkipped | brokerIgnored | forwarderRefused => exact first unlocked
  | keepaliveChecked idle used =>
      rw [(first unlocked).status] at used
      cases used
  | keepaliveRead checked =>
      rw [(first unlocked).keepalive] at checked
      cases checked
  | keepaliveAccepted url body sending | keepaliveRefused url body sending =>
      rw [(first unlocked).keepalive] at sending
      cases sending
  | brokerAnnounced | waiterWaits | waiterEnds | waiterPanicked =>
      exact (first unlocked).same rfl rfl rfl rfl
  | waiterLocks index loopNum live peer =>
      have locks : ¬ IsLicence (.shouldLockBroker peer) := by
        rintro ⟨⟩
      exact ((first unlocked).enqueue locks).same rfl rfl rfl rfl
  | forwarderPassed method body passed =>
      have unprovisioned := (first unlocked).status
      rw [(forwarderRefusal_eq_none.mp passed).1] at unprovisioned
      cases unprovisioned
  | forwarderSent index request waiting =>
      rw [(first unlocked).forwards] at waiting
      cases waiting
  | handled outside message rest handled head returned =>
      have none := (handleRuntimeEvent_outcome returned).unlicensed unlocked (by
        intro none
        exact ⟨(first none).status, (first none).queue message (by rw [head]; simp)⟩)
      obtain ⟨none, status, sent⟩ := none
      refine ⟨status, ?_, (first none).keepalive, (first none).forwards⟩
      intro queued member
      rcases List.mem_append.mp member with old | new
      · exact (first none).queue queued (by rw [head]; exact List.mem_cons_of_mem _ old)
      · exact sent queued new

theorem brokerFirst_of_run {process : WorkerProcess} {actions : List Action}
    {state : WorkerState} (run : workerRun process actions = some state) : BrokerFirst state := by
  refine @replay_preserves WorkerState Action (step process) BrokerFirst WorkerState.initial ?_ ?_
    actions state run
  · intro _
    refine ⟨rfl, ?_, rfl, rfl⟩
    intro message member
    cases member
  · intro current action next first taken
    exact step_keeps_brokerFirst first taken

/-! ### A provisioned worker is equipped -/

/-- What the keepalive, the provisioning and the forwarder rely on. -/
structure Equipped (process : WorkerProcess) (actions : List Action) (wr : WorkerRuntime) :
    Prop where
  key : wr.publicKey.isSome
  broker : ∃ peer, wr.bestBroker = some peer ∧ wr.bestBrokerName = some peer.instanceName ∧
    wr.bestBrokerMgmtUrl = some peer.mgmtAddr
  content : ∃ before current outside peer identity,
    LatestLock process actions before current outside ∧
    handledMessage current (.handled outside) = some (.shouldLockBroker peer) ∧
    wr.bestBroker = some peer ∧ current.runtime.publicKey = some identity.publicKey ∧
    wr.keepaliveContent = some (process.json.writeIdentity identity)
  rpcPrefix : PrefixReported process actions wr

/-- Each use finds what it unwraps, and the forwarder a prefix that was formed. -/
structure UsesSafely (wr : WorkerRuntime) : Prop where
  keepalive : ∃ peer content, wr.bestBroker = some peer ∧ wr.keepaliveContent = some content ∧
    checkCurrentBrokerHealth wr = .ok (peer.mgmtAddr ++ rV0LocalWorkerKeepalive, content)
  provisioning : ∀ outside, outside.stopBrowse = .ok () →
    ∃ peer, wr.bestBroker = some peer ∧
      wr.handleUpdateStatus outside .pendingProvision =
        (setPruntimeNetworkWithPeer outside peer).map fun outcome =>
          match outcome with
          | .ok () => ⟨{ wr with status := .pendingProvision }, [.shouldUpdateStatus .started], 0⟩
          | .error error =>
              ⟨{ wr with status := .pendingProvision }, [.shouldSetBrokerFailed error], 0⟩
  forwarder : ∃ port : UInt32, ∀ method body,
    (forwarderRequest wr method body).url =
      "http://" ++ wr.pruntimeHostname ++ ":" ++ toString port ++ "/prpc/PhactoryAPI." ++ method

theorem Equipped.usesSafely {process : WorkerProcess} {actions : List Action}
    {wr : WorkerRuntime} (equipped : Equipped process actions wr) : UsesSafely wr := by
  obtain ⟨_, ⟨peer, broker, _, _⟩, ⟨_, _, _, _, identity, _, _, _, _, content⟩, _, _, _, _, port,
    _, _, formed⟩ := equipped
  refine ⟨⟨peer, _, broker, content, ?_⟩, ?_, port, ?_⟩
  · simp only [checkCurrentBrokerHealth, broker, content, unwrap_some]
    rfl
  · intro outside stopped
    refine ⟨peer, broker, ?_⟩
    simp only [WorkerRuntime.handleUpdateStatus, stopped, broker, unwrap_some]
    cases configured : setPruntimeNetworkWithPeer outside peer with
    | error panic =>
        change (setPruntimeNetworkWithPeer outside peer >>= _) = _
        rw [configured]
        rfl
    | ok outcome =>
        change (setPruntimeNetworkWithPeer outside peer >>= _) = _
        rw [configured]
        cases outcome <;> rfl
  · intro method body
    unfold forwarderRequest
    rw [formed]

theorem broker_of_provisioned {process : WorkerProcess} {actions : List Action}
    {state : WorkerState} (run : workerRun process actions = some state)
    (used : provisioned state.runtime.status = true) : state.runtime.bestBroker.isSome := by
  by_contra absent
  have refused := (brokerFirst_of_run run (Option.not_isSome_iff_eq_none.mp absent)).status
  rw [used] at refused
  cases refused

theorem equipped_of_broker {process : WorkerProcess} {actions : List Action}
    {state : WorkerState} (run : workerRun process actions = some state)
    (present : state.runtime.bestBroker.isSome) : Equipped process actions state.runtime := by
  have recorded := recorded_of_run run
  obtain ⟨key, before, current, outside, peer, identity, latest, head, built, broker, name, url,
    content⟩ := recorded.broker present
  exact
    { key := key
      broker := ⟨peer, broker, name, url⟩
      content := ⟨before, current, outside, peer, identity, latest, head, broker,
        (keepaliveIdentity_ok built).2.2.1, content⟩
      rpcPrefix := (recorded.key key).1 }

/-- In every reachable state in which the broker's use is licensed, by the
status, by a queued update or by a task under way, the worker is equipped. -/
theorem provisioned_worker_equipped {process : WorkerProcess} {actions : List Action}
    {state : WorkerState} (run : workerRun process actions = some state)
    (licensed : state.runtime.status = .pendingProvision ∨ state.runtime.status = .started ∨
      .shouldUpdateStatus .pendingProvision ∈ state.queue ∨
      .shouldUpdateStatus .started ∈ state.queue ∨
      state.keepalive ≠ .idle ∨ state.forwards ≠ []) :
    Equipped process actions state.runtime ∧ UsesSafely state.runtime := by
  have present : state.runtime.bestBroker.isSome := by
    by_contra absent
    have unlicensed := brokerFirst_of_run run (Option.not_isSome_iff_eq_none.mp absent)
    rcases licensed with status | status | queued | queued | keepalive | forwards
    · exact absent (broker_of_provisioned run (by rw [status]; rfl))
    · exact absent (broker_of_provisioned run (by rw [status]; rfl))
    · exact unlicensed.queue _ queued .provision
    · exact unlicensed.queue _ queued .start
    · exact keepalive unlicensed.keepalive
    · exact forwards unlicensed.forwards
  have equipped := equipped_of_broker run present
  exact ⟨equipped, equipped.usesSafely⟩

/-- The run to `Started`, with a keepalive attempt and a forwarded request under
way. -/
def exampleServing : List Action :=
  exampleLocking ++ List.replicate 3 (.handled exampleOutside) ++
    [.keepaliveChecked, .forwarderChecked "GetInfo" []]

theorem exampleServing_equipped :
    ∃ state, workerRun exampleProcess exampleServing = some state ∧
      state.runtime.status = .started ∧
      Equipped exampleProcess exampleServing state.runtime ∧ UsesSafely state.runtime := by
  have serving : ∃ state, workerRun exampleProcess exampleServing = some state ∧
      state.runtime.status = .started := ⟨_, rfl, rfl⟩
  obtain ⟨state, run, started⟩ := serving
  exact ⟨state, run, started, provisioned_worker_equipped run (Or.inr (Or.inl started))⟩

end ServiceNetwork.ServiceWorker
