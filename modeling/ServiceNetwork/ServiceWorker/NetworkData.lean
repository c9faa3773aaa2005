/-
Whether the network data is there when a broker lock is handled.

An info handled in `Starting` may drop the data that an earlier info recorded.
That is harmless unless the earlier one has already queued a way to a lock: its
status update, or the lock that a task sent after it.
-/

import ServiceNetwork.ServiceWorker.StatusProtocol

namespace ServiceNetwork.ServiceWorker

open ServiceNetwork.Peer
open ServiceNetwork.Replay

/-- What `handleLockPeer` unwraps in the runtime. -/
def DataKnown (wr : WorkerRuntime) : Prop :=
  (∃ config rpcPort, wr.networkStatus = some config ∧ config.publicRpcPort = some rpcPort) ∧
    ∃ publicKey, wr.publicKey = some publicKey

/-- The message is a broker lock or lets the tasks send one. -/
def leadsToLock : WorkerRuntimeChannelMessage → Bool
  | .shouldLockBroker _ => true
  | .shouldUpdateStatus .waitingForBroker => true
  | _ => false

/-- The info passes the first two checks, and then pRuntime fails to answer with
a public port. -/
def DropsData (process : WorkerProcess) (outside : Outside) (info : PhactoryInfo) : Prop :=
  process.versionSupported info.version = some true ∧ info.initialized = true ∧
    ∀ config rpcPort, outside.networkConfig = .ok config → config.publicRpcPort ≠ some rpcPort

/-- An info that drops the data finds no way to a lock behind it. -/
def DropsQuietly (process : WorkerProcess) (state : WorkerState) (action : Action)
    (_ : WorkerState) : Prop :=
  ∀ outside info rest, action = .handled outside → state.queue = .shouldUpdateInfo info :: rest →
    state.runtime.status = .starting → DropsData process outside info →
    ∀ message ∈ rest, leadsToLock message = false

/-- No lock is queued, and none can be sent before the status is updated. -/
def NoLockAhead (state : WorkerState) : Prop :=
  state.runtime.status ≠ .waitingForBroker ∧ ∀ message ∈ state.queue, leadsToLock message = false

def LockSafe (state : WorkerState) : Prop :=
  DataKnown state.runtime ∨ NoLockAhead state

variable {process : WorkerProcess} {outside : Outside} {state next : WorkerState}

theorem LockSafe.enqueue (safe : LockSafe state) {message : WorkerRuntimeChannelMessage}
    (harmless : leadsToLock message = false) : LockSafe (state.enqueue message) := by
  rcases safe with known | ⟨idle, none⟩
  · exact Or.inl known
  · refine Or.inr ⟨idle, ?_⟩
    intro other member
    rcases List.mem_append.mp member with before | last
    · exact none other before
    · rw [List.mem_singleton.mp last]
      exact harmless

theorem LockSafe.known_of_head (safe : LockSafe state) {message : WorkerRuntimeChannelMessage}
    {rest : List WorkerRuntimeChannelMessage} (head : state.queue = message :: rest)
    (leads : leadsToLock message = true) : DataKnown state.runtime := by
  rcases safe with known | ⟨_, none⟩
  · exact known
  · have harmless := none message (by rw [head]; exact List.mem_cons_self)
    rw [leads] at harmless
    cases harmless

/-- Apart from an info in `Starting`, no handler writes the data. -/
theorem handleRuntimeEvent_keeps {wr : WorkerRuntime} {message : WorkerRuntimeChannelMessage}
    {handled : Handled} (returned : handleRuntimeEvent process outside wr message = .ok handled)
    (later : ∀ info, message = .shouldUpdateInfo info → wr.status ≠ .starting) :
    handled.runtime.networkStatus = wr.networkStatus ∧
      handled.runtime.publicKey = wr.publicKey := by
  cases handleRuntimeEvent_outcome returned with
  | infoInStarting info hostname starting => exact absurd starting (later info rfl)
  | status newStatus outcome => cases outcome <;> exact ⟨rfl, rfl⟩
  | failure | infoLater | locked => exact ⟨rfl, rfl⟩

/-- Apart from an info in `Starting` and the ways to a lock themselves, no
message opens a way to a lock. -/
theorem Reply.opensNoWay {status after : WorkerRuntimeStatus}
    {message : WorkerRuntimeChannelMessage} {sent : List WorkerRuntimeChannelMessage}
    {spawned : Nat} (reply : Reply status message after sent spawned)
    (later : ∀ info, message = .shouldUpdateInfo info → status ≠ .starting)
    (harmless : leadsToLock message = false) :
    (after = status ∨ after ≠ .waitingForBroker) ∧
      ∀ other ∈ sent, leadsToLock other = false := by
  cases reply with
  | infoRefused info msg => exact absurd rfl (later info rfl)
  | infoAccepted info => exact absurd rfl (later info rfl)
  | waits => cases harmless
  | locks peer => cases harmless
  | failureNoted | failureKnown | infoRecovers | infoRecorded =>
      exact ⟨Or.inl rfl, by simp [leadsToLock]⟩
  | resets | provisions | provisionFails | starts | fails =>
      exact ⟨Or.inr nofun, by simp [leadsToLock]⟩

theorem NoLockAhead.handled {message : WorkerRuntimeChannelMessage}
    {rest sent : List WorkerRuntimeChannelMessage} {runtime : WorkerRuntime} {waiters : List UInt8}
    (closed : NoLockAhead state) (head : state.queue = message :: rest)
    (moved : runtime.status = state.runtime.status ∨ runtime.status ≠ .waitingForBroker)
    (harmless : ∀ other ∈ sent, leadsToLock other = false) :
    NoLockAhead { state with runtime := runtime, queue := rest ++ sent, waiters := waiters } := by
  obtain ⟨idle, none⟩ := closed
  refine ⟨?_, ?_⟩
  · change runtime.status ≠ .waitingForBroker
    rcases moved with same | moved
    · rw [same]
      exact idle
    · exact moved
  · intro other member
    rcases List.mem_append.mp member with before | last
    · exact none other (by rw [head]; exact List.mem_cons_of_mem message before)
    · exact harmless other last

/-- A report from `Starting` is safe where no way to a lock is behind it. -/
theorem lockSafe_of_reported {rest : List WorkerRuntimeChannelMessage} {runtime : WorkerRuntime}
    {waiters : List UInt8} {msg : String} (starting : runtime.status = .starting)
    (quiet : ∀ message ∈ rest, leadsToLock message = false) :
    LockSafe
      { state with
        runtime := runtime
        queue := rest ++ [.shouldSetPRuntimeFailed msg]
        waiters := waiters } := by
  refine Or.inr ⟨by simp [starting], ?_⟩
  intro message member
  rcases List.mem_append.mp member with behind | last
  · exact quiet message behind
  · rw [List.mem_singleton.mp last]
    rfl

/-- An info handled in `Starting` leaves the data known, or drops it where no
lock lies ahead, or is refused with the data as it was. -/
theorem LockSafe.infoInStarting (safe : LockSafe state) {info : PhactoryInfo}
    {rest : List WorkerRuntimeChannelMessage} {handled : Handled}
    (head : state.queue = .shouldUpdateInfo info :: rest)
    (starting : state.runtime.status = .starting)
    (returned : state.runtime.handleUpdateInfo process outside info = .ok handled)
    (quiet : DropsData process outside info → ∀ message ∈ rest, leadsToLock message = false) :
    LockSafe
      { state with
        runtime := handled.runtime
        queue := rest ++ handled.sent
        waiters := state.waiters ++ List.replicate handled.spawned 0 } := by
  obtain ⟨hostname, _, outcome⟩ := handleUpdateInfo_starting starting returned
  cases outcome with
  | unsupported | uninitialized =>
      rcases safe with known | closed
      · exact Or.inl known
      · exact Or.inr (closed.handled head (Or.inl rfl) (by simp [leadsToLock]))
  | unconfigured supported initialized error answered =>
      have dropped : DropsData process outside info := by
        refine ⟨supported, initialized, ?_⟩
        intro config rpcPort answeredToo
        rw [answered] at answeredToo
        cases answeredToo
      exact lockSafe_of_reported starting (quiet dropped)
  | portless supported initialized config answered port =>
      have dropped : DropsData process outside info := by
        refine ⟨supported, initialized, ?_⟩
        intro other rpcPort answeredToo
        rw [answered] at answeredToo
        cases answeredToo
        rw [port]
        exact nofun
      exact lockSafe_of_reported starting (quiet dropped)
  | keyless supported initialized config answered rpcPort port key =>
      rcases safe with ⟨_, keyKnown⟩ | closed
      · exact Or.inl ⟨⟨config, rpcPort, rfl, port⟩, keyKnown⟩
      · exact Or.inr (closed.handled head (Or.inl rfl) (by simp [leadsToLock]))
  | admitted supported initialized config answered rpcPort port publicKey key =>
      exact Or.inl ⟨⟨config, rpcPort, rfl, port⟩, publicKey, rfl⟩

theorem LockSafe.step {action : Action} (safe : LockSafe state)
    (quiet : DropsQuietly process state action next)
    (taken : step process state action = some next) : LockSafe next := by
  cases step_outcome taken with
  | pruntimeAnswered | pruntimeFailed => exact safe.enqueue rfl
  | keepaliveRefused =>
      have idle : LockSafe { state with keepalive := .idle } := safe
      exact idle.enqueue rfl
  | keepaliveSkipped | keepaliveChecked | keepaliveRead | keepaliveAccepted | brokerIgnored
  | brokerAnnounced | forwarderRefused | forwarderPassed | forwarderSent | waiterWaits
  | waiterEnds | waiterPanicked => exact safe
  | waiterLocks index loopNum live peer peers turn =>
      -- a task sends a lock only while the status promises the data
      rcases safe with known | ⟨idle, _⟩
      · exact Or.inl known
      · rcases waitForBrokerPeer_cases turn with ⟨waiting, _⟩ | ⟨_, impossible, _⟩
        · exact absurd waiting idle
        · cases impossible
  | handled outside message rest handled head returned =>
      by_cases admission : ∃ info, message = .shouldUpdateInfo info ∧
          state.runtime.status = .starting
      · obtain ⟨info, rfl, starting⟩ := admission
        exact safe.infoInStarting head starting returned
          (quiet outside info rest rfl head starting)
      · have later : ∀ info, message = .shouldUpdateInfo info → state.runtime.status ≠ .starting :=
          fun info isInfo starting => admission ⟨info, isInfo, starting⟩
        obtain ⟨sameConfig, sameKey⟩ := handleRuntimeEvent_keeps returned later
        have keeps : DataKnown state.runtime → DataKnown handled.runtime := by
          intro known
          unfold DataKnown
          rw [sameConfig, sameKey]
          exact known
        cases leads : leadsToLock message with
        | true => exact Or.inl (keeps (safe.known_of_head head leads))
        | false =>
            rcases safe with known | closed
            · exact Or.inl (keeps known)
            · obtain ⟨moved, harmless⟩ :=
                (handleRuntimeEvent_reply returned).opensNoWay later leads
              exact Or.inr (closed.handled head moved harmless)

/-- With the data known, only the worker's own address can keep a lock from being
handled. -/
theorem DataKnown.locks {wr : WorkerRuntime} (known : DataKnown wr) {address : String}
    (addressed : forwarderAddress process.localWorker outside.interfaces = .ok address)
    (peer : BrokerPeer) : ∃ handled, wr.handleLockPeer process outside peer = .ok handled := by
  obtain ⟨⟨config, rpcPort, configAt, portAt⟩, publicKey, keyAt⟩ := known
  have built : wr.keepaliveIdentity process outside peer = .ok _ :=
    keepaliveIdentity_eq_ok.mpr
      ⟨config, rpcPort, publicKey, address, configAt, portAt, keyAt, addressed, rfl⟩
  exact ⟨_, handleLockPeer_eq_ok.mpr ⟨_, built, rfl⟩⟩

/-- In every run in which no info drops the data ahead of a way to a lock, each
lock that comes up for handling finds the data. -/
theorem locks_find_data {actions : List Action} {state : WorkerState}
    (run : workerRun process actions = some state)
    (quiet : AtEveryStep (step process) WorkerState.initial (DropsQuietly process) actions)
    {peer : BrokerPeer} {rest : List WorkerRuntimeChannelMessage}
    (head : state.queue = .shouldLockBroker peer :: rest) :
    DataKnown state.runtime ∧
      ∀ outside address, forwarderAddress process.localWorker outside.interfaces = .ok address →
        ∃ handled, handleRuntimeEvent process outside state.runtime (.shouldLockBroker peer) =
          .ok handled := by
  have initially : LockSafe WorkerState.initial := Or.inr ⟨nofun, nofun⟩
  have safe : LockSafe state := by
    refine replay_preserves_atEveryStep initially ?_ run quiet
    intro current action next safe quiet taken
    exact safe.step quiet taken
  have known := safe.known_of_head head rfl
  exact ⟨known, fun outside address addressed => known.locks addressed peer⟩

/-- Where pRuntime always answers with a public port, nothing is dropped. -/
theorem dropsQuietly_of_configured {actions : List Action}
    (configured : ∀ outside, .handled outside ∈ actions →
      ∃ config rpcPort, outside.networkConfig = .ok config ∧ config.publicRpcPort = some rpcPort) :
    AtEveryStep (step process) WorkerState.initial (DropsQuietly process) actions := by
  intro before action after current next split _ _ outside info rest isHandled _ _ dropped
  obtain ⟨config, rpcPort, answered, port⟩ := configured outside (by rw [split, isHandled]; simp)
  exact absurd port (dropped.2.2 config rpcPort answered)

theorem exampleLocking_finds_data :
    ∃ state, workerRun exampleProcess exampleLocking = some state ∧ DataKnown state.runtime := by
  have run : ∃ state peer, workerRun exampleProcess exampleLocking = some state ∧
      state.queue = [.shouldLockBroker peer] := ⟨_, _, rfl, rfl⟩
  obtain ⟨state, peer, run, head⟩ := run
  have quiet : AtEveryStep (step exampleProcess) WorkerState.initial (DropsQuietly exampleProcess)
      exampleLocking := by
    refine dropsQuietly_of_configured ?_
    intro outside member
    have same : outside = exampleOutside := by simpa [exampleLocking] using member
    rw [same]
    exact ⟨_, _, rfl, rfl⟩
  exact ⟨state, run, (locks_find_data run quiet head).1⟩

def unconfiguredOutside : Outside :=
  { exampleOutside with networkConfig := .error "timeout" }

/-- Two infos are queued in `Starting`.  The first is accepted and the second
drops its data; the accepted one still starts the waiting, and the task's lock
comes up after it. -/
def exampleDropping : List Action :=
  List.flatten
    [[.pruntimeAnswered (exampleInfo "0a"), .pruntimeAnswered (exampleInfo "0a"),
        .handled exampleOutside, .handled unconfiguredOutside, .handled exampleOutside,
        .brokerAnnounced exampleBroker],
      List.replicate 5 (.waiterTurn 0),
      [.handled exampleOutside]]

theorem dropped_data_missed_by_lock :
    ∃ state peer rest, workerRun exampleProcess exampleDropping = some state ∧
      state.queue = .shouldLockBroker peer :: rest ∧ state.runtime.networkStatus = none ∧
      handleRuntimeEvent exampleProcess exampleOutside state.runtime (.shouldLockBroker peer) =
        .error .unwrapNone ∧
      step exampleProcess state (.handled exampleOutside) = none :=
  ⟨_, _, _, rfl, rfl, rfl, rfl, rfl⟩

end ServiceNetwork.ServiceWorker
