/-
One worker process: the event loop, the queue, and the tasks around them.

`step` takes one turn of one task.  The health loop may enqueue at any moment.
The keepalive loop and each forwarded request check the status and take the
lock again later, so both carry what they saw.  A `waitForBrokerPeer` task holds
its read lock from the status check to the send, which makes a turn atomic, and
its panic ends that task alone; a panic of the event loop or of the keepalive
loop ends the process and is refused.
-/

import ServiceNetwork.Library.Replay
import ServiceNetwork.ServiceWorker.PublicForwarder

namespace ServiceNetwork.ServiceWorker

open ServiceNetwork.Peer
open ServiceNetwork.Replay

inductive KeepaliveLoop where
  | idle
  | checked
  | sending (url body : String)
  deriving DecidableEq, Repr

structure ForwardedRequest where
  method : String
  body : Bytes
  deriving DecidableEq, Repr

structure WorkerState where
  runtime : WorkerRuntime
  queue : List WorkerRuntimeChannelMessage
  waiters : List UInt8
  keepalive : KeepaliveLoop
  forwards : List ForwardedRequest
  peers : BrokerPeerManager

def WorkerState.initial : WorkerState :=
  { runtime := WorkerRuntime.new
    queue := []
    waiters := []
    keepalive := .idle
    forwards := []
    peers := BrokerPeerManager.new }

inductive Action where
  | pruntimeAnswered (info : PhactoryInfo)
  | pruntimeFailed (error : String)
  | keepaliveChecked
  | keepaliveRead
  | keepaliveAnswered (outcome : Except String Unit)
  | brokerAnnounced (info : ServiceInfo)
  | waiterTurn (index : Nat)
  | waiterPanicked (index : Nat)
  | forwarderChecked (method : String) (body : Bytes)
  | forwarderSent (index : Nat)
  | handled (outside : Outside)

def WorkerState.enqueue (state : WorkerState) (message : WorkerRuntimeChannelMessage) :
    WorkerState :=
  { state with queue := state.queue ++ [message] }

/-- One iteration of `waitForBrokerPeer`. -/
inductive WaiterTurn where
  | locks (peer : BrokerPeer)
  | waits (loopNum : UInt8)
  | ends
  deriving DecidableEq, Repr

def waitForBrokerPeer (profile : BuildProfile) (status : WorkerRuntimeStatus)
    (peers : BrokerPeerManager) (loopNum : UInt8) :
    Except Panic (WaiterTurn × BrokerPeerManager) :=
  match status with
  | .waitingForBroker => do
      let (peer, peers) ← peers.verifyBestInstance
      match peer with
      | some peer =>
          let loopNum ← u8AddOne profile loopNum
          if loopNum ≥ 5 then return (.locks peer, peers) else return (.waits loopNum, peers)
      | none =>
          let loopNum ← u8AddOne profile loopNum
          return (.waits loopNum, peers)
  | _ => .ok (.ends, peers)

/-- The URL and the body of one keepalive attempt. -/
def checkCurrentBrokerHealth (wr : WorkerRuntime) : Except Panic (String × String) := do
  let broker ← unwrap wr.bestBroker
  let body ← unwrap wr.keepaliveContent
  return (broker.mgmtAddr ++ rV0LocalWorkerKeepalive, body)

/-- The statuses in which the keepalive loop makes an attempt. -/
def provisioned : WorkerRuntimeStatus → Bool
  | .pendingProvision => true
  | .started => true
  | _ => false

def WorkerState.handle (process : WorkerProcess) (outside : Outside) (state : WorkerState) :
    Option WorkerState :=
  match state.queue with
  | [] => none
  | message :: rest =>
      match handleRuntimeEvent process outside state.runtime message with
      | .error _ => none
      | .ok handled =>
          some
            { state with
              runtime := handled.runtime
              queue := rest ++ handled.sent
              waiters := state.waiters ++ List.replicate handled.spawned 0 }

def WorkerState.waiterTurn (process : WorkerProcess) (index : Nat) (state : WorkerState) :
    Option WorkerState :=
  match state.waiters[index]? with
  | none => none
  | some loopNum =>
      match waitForBrokerPeer process.profile state.runtime.status state.peers loopNum with
      | .error _ => none
      | .ok (.locks peer, peers) =>
          some
            { state with
              queue := state.queue ++ [.shouldLockBroker peer]
              waiters := state.waiters.eraseIdx index
              peers := peers }
      | .ok (.waits loopNum, peers) =>
          some { state with waiters := state.waiters.set index loopNum, peers := peers }
      | .ok (.ends, _) => some { state with waiters := state.waiters.eraseIdx index }

def WorkerState.waiterPanicked (process : WorkerProcess) (index : Nat) (state : WorkerState) :
    Option WorkerState :=
  match state.waiters[index]? with
  | none => none
  | some loopNum =>
      match waitForBrokerPeer process.profile state.runtime.status state.peers loopNum with
      | .error _ => some { state with waiters := state.waiters.eraseIdx index }
      | .ok _ => none

def WorkerState.keepaliveChecked (state : WorkerState) : Option WorkerState :=
  match state.keepalive with
  | .idle =>
      if provisioned state.runtime.status then some { state with keepalive := .checked }
      else some state
  | _ => none

def WorkerState.keepaliveRead (state : WorkerState) : Option WorkerState :=
  match state.keepalive with
  | .checked =>
      match checkCurrentBrokerHealth state.runtime with
      | .error _ => none
      | .ok (url, body) => some { state with keepalive := .sending url body }
  | _ => none

def WorkerState.keepaliveAnswered (outcome : Except String Unit) (state : WorkerState) :
    Option WorkerState :=
  match state.keepalive with
  | .sending _ _ =>
      match outcome with
      | .ok () => some { state with keepalive := .idle }
      | .error error =>
          some ({ state with keepalive := .idle }.enqueue (.shouldSetBrokerFailed error))
  | _ => none

def step (process : WorkerProcess) (state : WorkerState) : Action → Option WorkerState
  | .pruntimeAnswered info => some (state.enqueue (.shouldUpdateInfo info))
  | .pruntimeFailed error => some (state.enqueue (.shouldSetPRuntimeFailed error))
  | .keepaliveChecked => state.keepaliveChecked
  | .keepaliveRead => state.keepaliveRead
  | .keepaliveAnswered outcome => state.keepaliveAnswered outcome
  | .brokerAnnounced info =>
      if state.runtime.peerBrowserStarted then
        match state.peers.updatePeerWithServiceInfo process.atoi info with
        | .error _ => some state
        | .ok (_, peers) => some { state with peers := peers }
      else none
  | .waiterTurn index => state.waiterTurn process index
  | .waiterPanicked index => state.waiterPanicked process index
  | .forwarderChecked method body =>
      match forwarderRefusal state.runtime.status method with
      | some _ => some state
      | none => some { state with forwards := state.forwards ++ [⟨method, body⟩] }
  | .forwarderSent index =>
      match state.forwards[index]? with
      | none => none
      | some _ => some { state with forwards := state.forwards.eraseIdx index }
  | .handled outside => state.handle process outside

/-- A run of the process from its start. -/
def workerRun (process : WorkerProcess) (actions : List Action) : Option WorkerState :=
  replay (step process) WorkerState.initial actions

/-! ### What one step can do -/

theorem handle_eq_some {process : WorkerProcess} {outside : Outside}
    {state next : WorkerState} (taken : state.handle process outside = some next) :
    ∃ message rest handled, state.queue = message :: rest ∧
      handleRuntimeEvent process outside state.runtime message = .ok handled ∧
      next =
        { state with
          runtime := handled.runtime
          queue := rest ++ handled.sent
          waiters := state.waiters ++ List.replicate handled.spawned 0 } := by
  unfold WorkerState.handle at taken
  split at taken
  · cases taken
  · rename_i message rest head
    split at taken
    · cases taken
    · rename_i handled returned
      cases taken
      exact ⟨message, rest, handled, head, returned, rfl⟩

/-- What a step leaves, with the guards it passed. -/
inductive StepOutcome (process : WorkerProcess) (state : WorkerState) :
    Action → WorkerState → Prop where
  | pruntimeAnswered (info : PhactoryInfo) :
      StepOutcome process state (.pruntimeAnswered info) (state.enqueue (.shouldUpdateInfo info))
  | pruntimeFailed (error : String) :
      StepOutcome process state (.pruntimeFailed error)
        (state.enqueue (.shouldSetPRuntimeFailed error))
  | keepaliveSkipped (idle : state.keepalive = .idle)
      (unused : provisioned state.runtime.status = false) :
      StepOutcome process state .keepaliveChecked state
  | keepaliveChecked (idle : state.keepalive = .idle)
      (used : provisioned state.runtime.status = true) :
      StepOutcome process state .keepaliveChecked { state with keepalive := .checked }
  | keepaliveRead (checked : state.keepalive = .checked) (url body : String)
      (read : checkCurrentBrokerHealth state.runtime = .ok (url, body)) :
      StepOutcome process state .keepaliveRead { state with keepalive := .sending url body }
  | keepaliveAccepted (url body : String) (sending : state.keepalive = .sending url body) :
      StepOutcome process state (.keepaliveAnswered (.ok ())) { state with keepalive := .idle }
  | keepaliveRefused (url body : String) (sending : state.keepalive = .sending url body)
      (error : String) :
      StepOutcome process state (.keepaliveAnswered (.error error))
        ({ state with keepalive := .idle }.enqueue (.shouldSetBrokerFailed error))
  | brokerIgnored (info : ServiceInfo) (browsing : state.runtime.peerBrowserStarted = true)
      (panic : Panic)
      (panics : state.peers.updatePeerWithServiceInfo process.atoi info = .error panic) :
      StepOutcome process state (.brokerAnnounced info) state
  | brokerAnnounced (info : ServiceInfo) (browsing : state.runtime.peerBrowserStarted = true)
      (result : Except String Unit) (peers : BrokerPeerManager)
      (updated : state.peers.updatePeerWithServiceInfo process.atoi info = .ok (result, peers)) :
      StepOutcome process state (.brokerAnnounced info) { state with peers := peers }
  | waiterLocks (index : Nat) (loopNum : UInt8) (live : state.waiters[index]? = some loopNum)
      (peer : BrokerPeer) (peers : BrokerPeerManager)
      (turn : waitForBrokerPeer process.profile state.runtime.status state.peers loopNum =
        .ok (.locks peer, peers)) :
      StepOutcome process state (.waiterTurn index)
        { state with
          queue := state.queue ++ [.shouldLockBroker peer]
          waiters := state.waiters.eraseIdx index
          peers := peers }
  | waiterWaits (index : Nat) (loopNum : UInt8) (live : state.waiters[index]? = some loopNum)
      (count : UInt8) (peers : BrokerPeerManager)
      (turn : waitForBrokerPeer process.profile state.runtime.status state.peers loopNum =
        .ok (.waits count, peers)) :
      StepOutcome process state (.waiterTurn index)
        { state with waiters := state.waiters.set index count, peers := peers }
  | waiterEnds (index : Nat) (loopNum : UInt8) (live : state.waiters[index]? = some loopNum)
      (peers : BrokerPeerManager)
      (turn : waitForBrokerPeer process.profile state.runtime.status state.peers loopNum =
        .ok (.ends, peers)) :
      StepOutcome process state (.waiterTurn index)
        { state with waiters := state.waiters.eraseIdx index }
  | waiterPanicked (index : Nat) (loopNum : UInt8) (live : state.waiters[index]? = some loopNum)
      (panic : Panic)
      (turn : waitForBrokerPeer process.profile state.runtime.status state.peers loopNum =
        .error panic) :
      StepOutcome process state (.waiterPanicked index)
        { state with waiters := state.waiters.eraseIdx index }
  | forwarderRefused (method : String) (body : Bytes) (response : HttpResponse)
      (refused : forwarderRefusal state.runtime.status method = some response) :
      StepOutcome process state (.forwarderChecked method body) state
  | forwarderPassed (method : String) (body : Bytes)
      (passed : forwarderRefusal state.runtime.status method = none) :
      StepOutcome process state (.forwarderChecked method body)
        { state with forwards := state.forwards ++ [⟨method, body⟩] }
  | forwarderSent (index : Nat) (request : ForwardedRequest)
      (waiting : state.forwards[index]? = some request) :
      StepOutcome process state (.forwarderSent index)
        { state with forwards := state.forwards.eraseIdx index }
  | handled (outside : Outside) (message : WorkerRuntimeChannelMessage)
      (rest : List WorkerRuntimeChannelMessage) (handled : Handled)
      (head : state.queue = message :: rest)
      (returned : handleRuntimeEvent process outside state.runtime message = .ok handled) :
      StepOutcome process state (.handled outside)
        { state with
          runtime := handled.runtime
          queue := rest ++ handled.sent
          waiters := state.waiters ++ List.replicate handled.spawned 0 }

theorem step_outcome {process : WorkerProcess} {state next : WorkerState} {action : Action}
    (taken : step process state action = some next) : StepOutcome process state action next := by
  cases action with
  | pruntimeAnswered info =>
      cases taken
      exact .pruntimeAnswered info
  | pruntimeFailed error =>
      cases taken
      exact .pruntimeFailed error
  | keepaliveChecked =>
      simp only [step, WorkerState.keepaliveChecked] at taken
      split at taken
      · rename_i idle
        split at taken
        · rename_i used
          cases taken
          exact .keepaliveChecked idle used
        · rename_i unused
          cases taken
          exact .keepaliveSkipped idle (Bool.eq_false_iff.mpr unused)
      · cases taken
  | keepaliveRead =>
      simp only [step, WorkerState.keepaliveRead] at taken
      split at taken
      · rename_i checked
        split at taken
        · cases taken
        · rename_i url body read
          cases taken
          exact .keepaliveRead checked url body read
      · cases taken
  | keepaliveAnswered outcome =>
      simp only [step, WorkerState.keepaliveAnswered] at taken
      split at taken
      · rename_i url body sending
        cases outcome with
        | ok accepted =>
            cases taken
            exact .keepaliveAccepted url body sending
        | error error =>
            cases taken
            exact .keepaliveRefused url body sending error
      · cases taken
  | brokerAnnounced info =>
      simp only [step] at taken
      split at taken
      · rename_i browsing
        split at taken
        · rename_i panic panics
          cases taken
          exact .brokerIgnored info browsing panic panics
        · rename_i result peers updated
          cases taken
          exact .brokerAnnounced info browsing result peers updated
      · cases taken
  | waiterTurn index =>
      simp only [step, WorkerState.waiterTurn] at taken
      split at taken
      · cases taken
      · rename_i loopNum live
        split at taken
        · cases taken
        · rename_i peer peers turn
          cases taken
          exact .waiterLocks index loopNum live peer peers turn
        · rename_i count peers turn
          cases taken
          exact .waiterWaits index loopNum live count peers turn
        · rename_i peers turn
          cases taken
          exact .waiterEnds index loopNum live peers turn
  | waiterPanicked index =>
      simp only [step, WorkerState.waiterPanicked] at taken
      split at taken
      · cases taken
      · rename_i loopNum live
        split at taken
        · rename_i panic turn
          cases taken
          exact .waiterPanicked index loopNum live panic turn
        · cases taken
  | forwarderChecked method body =>
      simp only [step] at taken
      split at taken
      · rename_i response refused
        cases taken
        exact .forwarderRefused method body response refused
      · rename_i passed
        cases taken
        exact .forwarderPassed method body passed
  | forwarderSent index =>
      simp only [step] at taken
      split at taken
      · cases taken
      · rename_i request waiting
        cases taken
        exact .forwarderSent index request waiting
  | handled outside =>
      obtain ⟨message, rest, handled, head, returned, rfl⟩ := handle_eq_some taken
      exact .handled outside message rest handled head returned

/-! ### A concrete process for runs on fixed inputs -/

def exampleLocalWorker : LocalWorkerConfig :=
  { pruntimeAddress := "http://127.0.0.1:8000"
    forwarderBindAddresses := ["10.0.0.2:1982"] }

def exampleProcess : WorkerProcess :=
  { config :=
      { role := .prLocalWorker (some exampleLocalWorker)
        instanceId := "w1"
        common := { instanceName := "worker", mgmtPort := 1919 } }
    localWorker := exampleLocalWorker
    built := ⟨"w1", .ok { instanceName := "worker", mgmtPort := 1919 }, .error "", rfl⟩
    profile := .release
    urlparse := fun address =>
      if address = "http://127.0.0.1:8000" then
        { hostname := some "127.0.0.1", port := some 8000 }
      else { hostname := none, port := none }
    versionSupported := fun version => if version = "2.0.0" then some true else none
    atoi := fun text => if text = "10" then some 10 else none
    json := plainJson }

def exampleInfo (publicKey : String) : PhactoryInfo :=
  { version := "2.0.0"
    initialized := true
    publicKey := some publicKey }

def exampleOutside : Outside :=
  { networkConfig := .ok { publicRpcPort := some 8001 }
    interfaces := [⟨10, 0, 0, 2⟩]
    stopBrowse := .ok ()
    configNetwork := fun _ => .ok () }

def exampleBroker : ServiceInfo :=
  { properties :=
      [("in", "broker"), ("i", "b1"), ("c", "10"), ("mp", "1919"), ("oa", "10.0.0.1:1981")]
    addresses := [⟨10, 0, 0, 1⟩]
    port := 1919 }

/-- From the start to a queued broker lock: an info is accepted, a broker is
announced, and the waiting task takes its five turns. -/
def exampleLocking : List Action :=
  [.pruntimeAnswered (exampleInfo "0a"), .handled exampleOutside, .handled exampleOutside,
    .brokerAnnounced exampleBroker] ++ List.replicate 5 (.waiterTurn 0)

end ServiceNetwork.ServiceWorker
