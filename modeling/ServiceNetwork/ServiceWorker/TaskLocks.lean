/-
The locks that the tasks of a worker take, await by await.

Each section is what one turn of a task awaits, in the order of the source: the
runtime lock, the lock of the peer manager, the locks of single peers, the sends
to the event loop, and a pause where pRuntime, a broker, mDNS or a timer has to
answer.  What a turn sends is what its handler in the model sends.
-/

import ServiceNetwork.Library.Starvation
import ServiceNetwork.ServiceWorker.System

namespace ServiceNetwork.ServiceWorker

open Function
open ServiceNetwork.Locking
open ServiceNetwork.Peer
open ServiceNetwork.Replay

inductive WorkerLock where
  | wr
  | broker
  | peer (instanceName : String)
  deriving DecidableEq, Repr

/-- The order in which the source nests the locks. -/
def WorkerLock.rank : WorkerLock → Nat
  | .wr => 0
  | .broker => 1
  | .peer _ => 2

inductive WorkerTask where
  | eventLoop
  | pruntimeHealth
  | brokerHealth
  | waiter (index : Nat)
  | browser (index : Nat)
  | forwarder (index : Nat)
  deriving DecidableEq, Repr

abbrev WorkerOp := Op WorkerLock WorkerRuntimeChannelMessage

/-- A peer is locked only to be read. -/
def readPeer (peer : BrokerPeer) : List WorkerOp :=
  [.acquire (.peer peer.instanceName) .exclusive, .release (.peer peer.instanceName)]

/-- A failure is handled under the read lock. -/
def handlerMode : WorkerRuntimeChannelMessage → Mode
  | .shouldSetPRuntimeFailed _ => .shared
  | .shouldSetBrokerFailed _ => .shared
  | .shouldUpdateInfo _ => .exclusive
  | .shouldUpdateStatus _ => .exclusive
  | .shouldLockBroker _ => .exclusive

/-- What a handler awaits before it sends. -/
def handlerAwaits (process : WorkerProcess) (wr : WorkerRuntime) :
    WorkerRuntimeChannelMessage → List WorkerOp
  | .shouldSetPRuntimeFailed _ => []
  | .shouldSetBrokerFailed _ => []
  | .shouldUpdateInfo info =>
      match wr.status with
      | .starting =>
          if process.versionSupported info.version = some true ∧ info.initialized then [.pause]
          else []
      | .failed _ => [.pause]
      | _ => []
  | .shouldUpdateStatus .waitingForBroker => [.pause]
  | .shouldUpdateStatus .pendingProvision =>
      wr.bestBroker.toList.flatMap readPeer ++ [.pause]
  | .shouldUpdateStatus _ => []
  | .shouldLockBroker peer => readPeer peer

/-- One turn of the event loop, once it has received the message. -/
def handleRuntimeEventOps (process : WorkerProcess) (wr : WorkerRuntime)
    (message : WorkerRuntimeChannelMessage) (handled : Handled) : List WorkerOp :=
  .acquire .wr (handlerMode message) ::
    (handlerAwaits process wr message ++ handled.sent.map .send ++ [.release .wr])

def pruntimeReport : Except String PhactoryInfo → WorkerRuntimeChannelMessage
  | .ok info => .shouldUpdateInfo info
  | .error error => .shouldSetPRuntimeFailed error

/-- One turn of `check_pruntime_health`: the status for the delay, then the call. -/
def checkPruntimeHealthOps (answer : Except String PhactoryInfo) : List WorkerOp :=
  [.acquire .wr .shared, .release .wr, .pause, .acquire .wr .shared, .pause, .release .wr,
    .send (pruntimeReport answer)]

def brokerReport : Except String Unit → List WorkerRuntimeChannelMessage
  | .ok () => []
  | .error error => [.shouldSetBrokerFailed error]

/-- The attempt reads the broker's URL under its lock and the runtime's. -/
def checkCurrentBrokerHealthOps (wr : WorkerRuntime) (answer : Except String Unit) :
    List WorkerOp :=
  .acquire .wr .shared ::
    (wr.bestBroker.toList.flatMap readPeer ++ [.release .wr, .pause] ++
      (brokerReport answer).map .send)

/-- One turn of `check_current_broker_health_loop`. -/
def checkCurrentBrokerHealthLoopOps (checked current : WorkerRuntime)
    (answer : Except String Unit) : List WorkerOp :=
  [.acquire .wr .shared, .release .wr] ++
    (if provisioned checked.status then checkCurrentBrokerHealthOps current answer else []) ++
    [.pause]

/-- The peers are read for their costs in whatever order their locks come, then
the best of them once more. -/
def verifyBestInstanceOps (peers : BrokerPeerManager) (order : List BrokerPeer) : List WorkerOp :=
  .acquire .broker .exclusive ::
    (order.flatMap readPeer ++
      (match peers.getBestInstance with
        | .ok (some best) => readPeer best
        | _ => []) ++ [.release .broker])

/-- The end of a turn of `wait_for_broker_peer`: it locks the broker, or sleeps,
or returns or panics. -/
def waiterTurnOps : Except Panic (WaiterTurn × BrokerPeerManager) → List WorkerOp
  | .ok (.locks peer, _) => [.send (.shouldLockBroker peer)]
  | .ok (.waits _, _) => [.pause]
  | .ok (.ends, _) => []
  | .error _ => []

/-- One turn of `wait_for_broker_peer`.  It sleeps with the read lock in its
hands, and a panic drops what it holds. -/
def waitForBrokerPeerOps (profile : BuildProfile) (status : WorkerRuntimeStatus)
    (peers : BrokerPeerManager) (order : List BrokerPeer) (loopNum : UInt8) : List WorkerOp :=
  .acquire .wr .shared ::
    ((if status = .waitingForBroker then verifyBestInstanceOps peers order else []) ++
      waiterTurnOps (waitForBrokerPeer profile status peers loopNum) ++ [.release .wr])

/-- One announcement that `browse_brokers` takes in. -/
def browseBrokersOps : List WorkerOp :=
  [.acquire .broker .exclusive, .release .broker]

/-- One forwarded request; the runtime is read a second time if it is sent on. -/
def forwarderOps (checked current : WorkerRuntime) (method : String) (body : Bytes) :
    List WorkerOp :=
  [.acquire .wr .shared, .release .wr] ++
    (match forwarder checked current method body with
      | .respond _ => []
      | .send _ => [.acquire .wr .shared, .release .wr, .pause])

/-- The sections of a worker's tasks, for whatever the runtime and the peers are
when they are read and whatever comes back from outside. -/
inductive WorkerSection (process : WorkerProcess) :
    WorkerTask → Option WorkerRuntimeChannelMessage → List WorkerOp → Prop where
  | handleRuntimeEvent (wr : WorkerRuntime) (outside : Outside)
      (message : WorkerRuntimeChannelMessage) (handled : Handled)
      (returned : handleRuntimeEvent process outside wr message = .ok handled) :
      WorkerSection process .eventLoop (some message)
        (handleRuntimeEventOps process wr message handled)
  | checkPruntimeHealth (answer : Except String PhactoryInfo) :
      WorkerSection process .pruntimeHealth none (checkPruntimeHealthOps answer)
  | checkCurrentBrokerHealth (checked current : WorkerRuntime) (answer : Except String Unit)
      (read : provisioned checked.status = true →
        ∃ request, checkCurrentBrokerHealth current = .ok request) :
      WorkerSection process .brokerHealth none
        (checkCurrentBrokerHealthLoopOps checked current answer)
  | waitForBrokerPeer (index : Nat) (status : WorkerRuntimeStatus) (peers : BrokerPeerManager)
      (order : List BrokerPeer) (all : order.Perm peers.map.values) (loopNum : UInt8) :
      WorkerSection process (.waiter index) none
        (waitForBrokerPeerOps process.profile status peers order loopNum)
  | browseBrokers (index : Nat) :
      WorkerSection process (.browser index) none browseBrokersOps
  | forwarder (index : Nat) (checked current : WorkerRuntime) (method : String) (body : Bytes) :
      WorkerSection process (.forwarder index) none (forwarderOps checked current method body)

/-! ### The locks are nested upward -/

theorem WorkerLock.rank_le (lock : WorkerLock) : lock.rank ≤ 2 := by
  cases lock with
  | wr => exact Nat.zero_le 2
  | broker => exact Nat.le_succ 1
  | peer => exact Nat.le_refl 2

/-- The event loop and the waiting tasks send with the runtime lock in hand, the
others with none. -/
def SendsUnder : WorkerTask → List WorkerLock → Prop
  | .eventLoop, held => .wr ∈ held
  | .waiter _, held => .wr ∈ held
  | _, held => held = []

section

variable {condition : List WorkerLock → Prop} {held : List WorkerLock} {ops : List WorkerOp}

theorem orderly_readPeer (peer : BrokerPeer) (below : ∀ other ∈ held, other.rank < 2)
    (after : Orderly WorkerLock.rank condition held ops) :
    Orderly WorkerLock.rank condition held (readPeer peer ++ ops) :=
  .acquires .exclusive below (.releases after)

theorem orderly_readPeers (peers : List BrokerPeer) (below : ∀ other ∈ held, other.rank < 2)
    (after : Orderly WorkerLock.rank condition held ops) :
    Orderly WorkerLock.rank condition held (peers.flatMap readPeer ++ ops) := by
  induction peers with
  | nil => exact after
  | cons peer peers ih =>
      rw [List.flatMap_cons, List.append_assoc]
      exact orderly_readPeer peer below ih

theorem below_peers : ∀ other ∈ [WorkerLock.wr], other.rank < 2 := by
  intro other member
  rw [List.mem_singleton.mp member]
  exact Nat.two_pos

theorem below_peers_of_broker : ∀ other ∈ [WorkerLock.broker, WorkerLock.wr], other.rank < 2 := by
  intro other member
  rcases List.mem_cons.mp member with rfl | member
  · exact Nat.one_lt_two
  · exact below_peers other member

theorem orderly_handlerAwaits (process : WorkerProcess) (wr : WorkerRuntime)
    (message : WorkerRuntimeChannelMessage)
    (after : Orderly WorkerLock.rank condition [.wr] ops) :
    Orderly WorkerLock.rank condition [.wr] (handlerAwaits process wr message ++ ops) := by
  cases message with
  | shouldSetPRuntimeFailed msg | shouldSetBrokerFailed msg => exact after
  | shouldUpdateInfo info =>
      unfold handlerAwaits
      cases wr.status with
      | starting =>
          simp only
          split
          · exact after.pauses
          · exact after
      | failed reason => exact after.pauses
      | waitingForBroker | pendingProvision | started => exact after
  | shouldUpdateStatus status =>
      cases status with
      | pendingProvision =>
          unfold handlerAwaits
          rw [List.append_assoc]
          exact orderly_readPeers _ below_peers after.pauses
      | waitingForBroker => exact after.pauses
      | starting | started | failed => exact after
  | shouldLockBroker peer => exact orderly_readPeer peer below_peers after

theorem orderly_verifyBestInstance (peers : BrokerPeerManager) (order : List BrokerPeer)
    (after : Orderly WorkerLock.rank condition [.wr] ops) :
    Orderly WorkerLock.rank condition [.wr] (verifyBestInstanceOps peers order ++ ops) := by
  unfold verifyBestInstanceOps
  rw [List.cons_append, List.append_assoc, List.append_assoc]
  refine .acquires .exclusive ?_ (orderly_readPeers order below_peers_of_broker ?_)
  · intro other member
    rw [List.mem_singleton.mp member]
    exact Nat.one_pos
  · split
    · exact orderly_readPeer _ below_peers_of_broker after.releases
    · exact after.releases

end

theorem orderly_checkCurrentBrokerHealth (wr : WorkerRuntime) (answer : Except String Unit) :
    Orderly WorkerLock.rank (SendsUnder .brokerHealth) []
      (checkCurrentBrokerHealthOps wr answer ++ [.pause]) := by
  unfold checkCurrentBrokerHealthOps
  rw [List.cons_append, List.append_assoc, List.append_assoc]
  refine .acquires .shared nofun (orderly_readPeers _ below_peers (.releases (.pauses ?_)))
  exact .sends_all _ rfl (.pauses .ends)

theorem orderly_waiterTurn (index : Nat)
    (turn : Except Panic (WaiterTurn × BrokerPeerManager)) :
    Orderly WorkerLock.rank (SendsUnder (.waiter index)) [.wr]
      (waiterTurnOps turn ++ [.release .wr]) := by
  rcases turn with panic | ⟨turn, peers⟩
  · exact .releases .ends
  · cases turn with
    | locks peer => exact .sends _ List.mem_cons_self (.releases .ends)
    | waits loopNum => exact .pauses (.releases .ends)
    | ends => exact .releases .ends

theorem orderly_waitForBrokerPeer (index : Nat) (profile : BuildProfile)
    (status : WorkerRuntimeStatus) (peers : BrokerPeerManager) (order : List BrokerPeer)
    (loopNum : UInt8) :
    Orderly WorkerLock.rank (SendsUnder (.waiter index)) []
      (waitForBrokerPeerOps profile status peers order loopNum) := by
  unfold waitForBrokerPeerOps
  rw [List.append_assoc]
  refine .acquires .shared nofun ?_
  have turn := orderly_waiterTurn index (waitForBrokerPeer profile status peers loopNum)
  split
  · exact orderly_verifyBestInstance peers order turn
  · exact turn

/-- Every section of a worker nests its locks upward and sends in its place. -/
theorem workerSection_orderly {process : WorkerProcess} (task : WorkerTask)
    (received : Option WorkerRuntimeChannelMessage) (ops : List WorkerOp)
    (begins : WorkerSection process task received ops) :
    Orderly WorkerLock.rank (SendsUnder task) [] ops := by
  cases begins with
  | handleRuntimeEvent wr outside message handled =>
      refine .acquires (handlerMode message) nofun ?_
      rw [List.append_assoc]
      refine orderly_handlerAwaits process wr message ?_
      exact .sends_all handled.sent List.mem_cons_self (.releases .ends)
  | checkPruntimeHealth answer =>
      refine .acquires .shared nofun (.releases (.pauses ?_))
      exact .acquires .shared nofun (.pauses (.releases (.sends _ rfl .ends)))
  | checkCurrentBrokerHealth checked current answer =>
      unfold checkCurrentBrokerHealthLoopOps
      rw [List.append_assoc]
      refine .acquires .shared nofun (.releases ?_)
      split
      · exact orderly_checkCurrentBrokerHealth current answer
      · exact .pauses .ends
  | waitForBrokerPeer index status peers order all loopNum =>
      exact orderly_waitForBrokerPeer index process.profile status peers order loopNum
  | browseBrokers index => exact .acquires .exclusive nofun (.releases .ends)
  | forwarder index checked current method body =>
      refine .acquires .shared nofun (.releases ?_)
      split
      · exact .ends
      · exact .acquires .shared nofun (.releases (.pauses .ends))

/-! ### Deadlock -/

abbrev WorkerLocks := Locking.State WorkerTask WorkerLock WorkerRuntimeChannelMessage

abbrev WorkerEvent := Locking.Event WorkerTask WorkerLock WorkerRuntimeChannelMessage

/-- A run of a worker await by await, over a channel of this capacity. -/
def lockRun (capacity : Nat) (events : List WorkerEvent) : Option WorkerLocks :=
  replay (Locking.step capacity) State.initial events

/-- A section is under way, none can go on, and the event loop has nothing to
receive, or is itself in a section. -/
structure Deadlocked (capacity : Nat) (state : WorkerLocks) : Prop where
  busy : ∃ task, state.ops task ≠ []
  stuck : Stuck capacity state
  deaf : state.ops .eventLoop = [] → state.channel = []

variable {process : WorkerProcess} {capacity : Nat} {events : List WorkerEvent}
  {state : WorkerLocks}

theorem lockRun_inOrder (legal : ∀ event ∈ events, Legal (WorkerSection process) event)
    (reached : lockRun capacity events = some state) :
    InOrder WorkerLock.rank SendsUnder state :=
  @holds_of_legal _ _ _ _ _ capacity _ _ _ (InOrder WorkerLock.rank SendsUnder)
    (fun _ _ _ inOrder legal taken => inOrder.step workerSection_orderly legal taken)
    initial_inOrder events legal state reached

/-- A worker is only ever deadlocked by its own channel: it is full, the event
loop is in the middle of a turn, and the event loop or a waiting task sends into
it with the runtime lock in hand. -/
theorem worker_deadlock (positive : 0 < capacity)
    (legal : ∀ event ∈ events, Legal (WorkerSection process) event)
    (reached : lockRun capacity events = some state) (deadlocked : Deadlocked capacity state) :
    capacity ≤ state.channel.length ∧ state.ops .eventLoop ≠ [] ∧
      ∃ task message rest, (task = .eventLoop ∨ ∃ index, task = .waiter index) ∧
        state.ops task = .send message :: rest ∧ .wr ∈ state.held task := by
  have inOrder := lockRun_inOrder legal reached
  obtain ⟨⟨task, busy⟩, stuck, deaf⟩ := deadlocked
  have full : capacity ≤ state.channel.length := by
    obtain ⟨_, _, _, _, full, _⟩ := inOrder.sound.full_of_stuck WorkerLock.rank_le stuck busy
    exact full
  have turning : state.ops .eventLoop ≠ [] := by
    intro idle
    rw [deaf idle] at full
    exact absurd positive (Nat.not_lt.mpr full)
  obtain ⟨sender, message, rest, ahead, _, whose⟩ :=
    inOrder.sound.full_of_stuck WorkerLock.rank_le stuck turning
  have allowed := inOrder.allowed ahead
  refine ⟨full, turning, sender, message, rest, ?_⟩
  cases sender with
  | eventLoop => exact ⟨Or.inl rfl, ahead, allowed⟩
  | waiter index => exact ⟨Or.inr ⟨index, rfl⟩, ahead, allowed⟩
  | pruntimeHealth | brokerHealth | browser index | forwarder index =>
      rcases whose with same | burdened
      · cases same
      · exact absurd allowed burdened

/-! ### A full channel -/

/-- Every task is idle and every lock free. -/
def resting (channel : List WorkerRuntimeChannelMessage) : WorkerLocks :=
  { State.initial with channel := channel }

/-- The health loop is about to report. -/
def reporting (report : WorkerRuntimeChannelMessage)
    (channel : List WorkerRuntimeChannelMessage) : WorkerLocks :=
  { resting channel with ops := update (fun _ => []) .pruntimeHealth [.send report] }

/-- The event loop has the runtime and is about to send, and nobody else is at
work. -/
def turning (sent : WorkerRuntimeChannelMessage) (channel : List WorkerRuntimeChannelMessage) :
    WorkerLocks :=
  { resting channel with
    ops := update (fun _ => []) .eventLoop [.send sent, .release .wr]
    held := update (fun _ => []) .eventLoop [.wr]
    holders := update (fun _ => .readers []) .wr (.writer .eventLoop) }

def checkPruntimeHealthEvents (answer : Except String PhactoryInfo) : List WorkerEvent :=
  [.begins .pruntimeHealth (checkPruntimeHealthOps answer), .moves .pruntimeHealth, .grants .wr,
    .moves .pruntimeHealth, .moves .pruntimeHealth, .moves .pruntimeHealth, .grants .wr,
    .moves .pruntimeHealth, .moves .pruntimeHealth]

/-- The event loop takes an info up to the point where it sends. -/
def refuseInfoEvents (info : PhactoryInfo) (sent : WorkerRuntimeChannelMessage) :
    List WorkerEvent :=
  [.receives .eventLoop (.shouldUpdateInfo info)
      [.acquire .wr .exclusive, .send sent, .release .wr],
    .moves .eventLoop, .grants .wr]

variable {channel : List WorkerRuntimeChannelMessage}

theorem checkPruntimeHealth_reporting (answer : Except String PhactoryInfo) :
    replay (Locking.step capacity) (resting channel) (checkPruntimeHealthEvents answer) =
      some (reporting (pruntimeReport answer) channel) := by
  simp [replay, checkPruntimeHealthEvents, Locking.step, State.begins, State.moves, State.grants,
    resting, reporting, State.initial, checkPruntimeHealthOps, Holders.enter, Holders.leave]

theorem reported (report : WorkerRuntimeChannelMessage) (room : channel.length < capacity) :
    Locking.step capacity (reporting report channel) (.moves .pruntimeHealth) =
      some (resting (channel ++ [report])) := by
  simp [Locking.step, State.moves, resting, reporting, State.initial, room]

theorem reports_pile_up (answer : Except String PhactoryInfo) {count : Nat}
    (room : count ≤ capacity) :
    replay (Locking.step capacity) (resting [])
        (List.replicate count (checkPruntimeHealthEvents answer ++
          [.moves .pruntimeHealth])).flatten =
      some (resting (List.replicate count (pruntimeReport answer))) := by
  induction count with
  | zero => rfl
  | succ count ih =>
      rw [List.replicate_succ', List.flatten_append, replay_append, ih (by omega),
        Option.bind_some, List.flatten_singleton, replay_concat, checkPruntimeHealth_reporting,
        Option.bind_some, reported _ (by rw [List.length_replicate]; omega), List.replicate_succ']

theorem refused_turning (info : PhactoryInfo) (sent report : WorkerRuntimeChannelMessage)
    (room : channel.length < capacity) :
    replay (Locking.step capacity) (reporting report (.shouldUpdateInfo info :: channel))
        (refuseInfoEvents info sent ++ [.moves .pruntimeHealth]) =
      some (turning sent (channel ++ [report])) := by
  simp [replay, refuseInfoEvents, Locking.step, State.begins, State.moves, State.grants,
    resting, reporting, turning, State.initial, Holders.enter, room]
  rw [update_comm (by decide), update_idem]
  exact congrArg (fun ops => update ops _ _) (update_eq_self WorkerTask.pruntimeHealth fun _ => [])

/-- With the channel full, the event loop's send is a deadlock. -/
theorem turning_deadlocked (sent : WorkerRuntimeChannelMessage)
    (full : capacity ≤ channel.length) : Deadlocked capacity (turning sent channel) where
  busy := ⟨.eventLoop, by simp [turning]⟩
  stuck := by
    constructor
    · intro task
      by_cases same : task = .eventLoop
      · subst same
        simp [turning, State.moves, resting, full]
      · simp [turning, State.moves, same]
    · intro lock
      rfl
  deaf idle := by simp [turning] at idle

theorem turning_wedged (sent : WorkerRuntimeChannelMessage) (full : capacity ≤ channel.length) :
    Wedged capacity .eventLoop .wr (turning sent channel) where
  sends := ⟨sent, [.release .wr], by simp [turning]⟩
  full := full
  holds := by simp [turning]

/-- A run that ends in the event loop's send of a failure into the full channel:
the health loop reports until the channel is full and is about to report once
more, and the event loop then refuses the first of the infos. -/
def fillingEvents (capacity : Nat) (info : PhactoryInfo) : List WorkerEvent :=
  (List.replicate capacity
      (checkPruntimeHealthEvents (.ok info) ++ [.moves .pruntimeHealth])).flatten ++
    (checkPruntimeHealthEvents (.ok info) ++
      (refuseInfoEvents info (.shouldSetPRuntimeFailed "pRuntime not initialized!") ++
        [.moves .pruntimeHealth]))

theorem filling_turning (positive : 0 < capacity) (info : PhactoryInfo) :
    lockRun capacity (fillingEvents capacity info) =
      some (turning (.shouldSetPRuntimeFailed "pRuntime not initialized!")
        (List.replicate capacity (.shouldUpdateInfo info))) := by
  obtain ⟨others, rfl⟩ := Nat.exists_eq_succ_of_ne_zero (Nat.ne_of_gt positive)
  have filled := @reports_pile_up (others + 1) (.ok info) (others + 1) (Nat.le_refl _)
  have once := @checkPruntimeHealth_reporting (others + 1)
    (List.replicate (others + 1) (.shouldUpdateInfo info)) (.ok info)
  have refused := @refused_turning (others + 1)
    (List.replicate others (.shouldUpdateInfo info)) info
    (.shouldSetPRuntimeFailed "pRuntime not initialized!") (.shouldUpdateInfo info)
    (by rw [List.length_replicate]; exact Nat.lt_succ_self others)
  unfold lockRun fillingEvents
  rw [replay_append, show (State.initial : WorkerLocks) = resting [] from rfl, filled,
    Option.bind_some, replay_append]
  change (replay _ (resting (List.replicate (others + 1) (.shouldUpdateInfo info))) _).bind _ = _
  rw [once, Option.bind_some, List.replicate_succ]
  change replay _ (reporting (.shouldUpdateInfo info) _) _ = _
  rw [refused, ← List.replicate_succ', List.replicate_succ]

theorem checkPruntimeHealth_legal (answer : Except String PhactoryInfo) :
    ∀ event ∈ checkPruntimeHealthEvents answer ++ [.moves .pruntimeHealth],
      Legal (WorkerSection process) event := by
  intro event member
  simp only [checkPruntimeHealthEvents, List.cons_append, List.nil_append, List.mem_cons,
    List.not_mem_nil, or_false] at member
  rcases member with rfl | rfl | rfl | rfl | rfl | rfl | rfl | rfl | rfl | rfl
  · exact .checkPruntimeHealth answer
  all_goals trivial

/-- The first info that the event loop ever handles may be of a pRuntime that is
not initialized. -/
theorem refuseInfo_legal {info : PhactoryInfo} {hostname : String}
    (addressed :
      (process.urlparse process.localWorker.pruntimeAddress).hostname = some hostname)
    (supported : process.versionSupported info.version = some true)
    (uninitialized : info.initialized = false) :
    ∀ event ∈ refuseInfoEvents info (.shouldSetPRuntimeFailed "pRuntime not initialized!") ++
      [.moves .pruntimeHealth], Legal (WorkerSection process) event := by
  have returned :
      handleRuntimeEvent process exampleOutside WorkerRuntime.new (.shouldUpdateInfo info) =
        .ok ⟨{ WorkerRuntime.new with pruntimeHostname := hostname },
          [.shouldSetPRuntimeFailed "pRuntime not initialized!"], 0⟩ := by
    simp only [handleRuntimeEvent, WorkerRuntime.handleUpdateInfo, WorkerRuntime.new,
      process.localWorker_eq, addressed, supported, uninitialized, unwrap_some, bind, Except.bind]
    rfl
  have begins := WorkerSection.handleRuntimeEvent _ exampleOutside _ _ returned
  have ops : handleRuntimeEventOps process WorkerRuntime.new (.shouldUpdateInfo info)
      ⟨{ WorkerRuntime.new with pruntimeHostname := hostname },
        [.shouldSetPRuntimeFailed "pRuntime not initialized!"], 0⟩ =
      [.acquire .wr .exclusive, .send (.shouldSetPRuntimeFailed "pRuntime not initialized!"),
        .release .wr] := by
    simp [handleRuntimeEventOps, handlerMode, handlerAwaits, WorkerRuntime.new, uninitialized]
  rw [ops] at begins
  intro event member
  simp only [refuseInfoEvents, List.cons_append, List.nil_append, List.mem_cons,
    List.not_mem_nil, or_false] at member
  rcases member with rfl | rfl | rfl | rfl
  · exact begins
  all_goals trivial

theorem filling_legal {info : PhactoryInfo} {hostname : String}
    (addressed :
      (process.urlparse process.localWorker.pruntimeAddress).hostname = some hostname)
    (supported : process.versionSupported info.version = some true)
    (uninitialized : info.initialized = false) :
    ∀ event ∈ fillingEvents capacity info, Legal (WorkerSection process) event := by
  intro event member
  have reports := @checkPruntimeHealth_legal process (.ok info) event
  unfold fillingEvents at member
  rcases List.mem_append.mp member with piled | member
  · obtain ⟨turn, same, inTurn⟩ := List.mem_flatten.mp piled
    rw [List.eq_of_mem_replicate same] at inTurn
    exact reports inTurn
  · rcases List.mem_append.mp member with once | refused
    · exact reports (List.mem_append_left _ once)
    · exact refuseInfo_legal addressed supported uninitialized event refused

/-- Whatever its capacity, the channel can be full when the event loop sends into
it with the runtime lock in hand.  That is a deadlock, and in whatever follows
the event loop stays at its send and nobody else gets the lock. -/
theorem worker_wedges {info : PhactoryInfo} {hostname : String}
    (addressed :
      (process.urlparse process.localWorker.pruntimeAddress).hostname = some hostname)
    (supported : process.versionSupported info.version = some true)
    (uninitialized : info.initialized = false) (positive : 0 < capacity) :
    ∃ events state, (∀ event ∈ events, Legal (WorkerSection process) event) ∧
      lockRun capacity events = some state ∧ Deadlocked capacity state ∧
      ∀ after final, (∀ event ∈ after, Legal (WorkerSection process) event) →
        replay (Locking.step capacity) state after = some final →
        Wedged capacity .eventLoop .wr final := by
  have legal := @filling_legal process capacity _ _ addressed supported uninitialized
  have reached := filling_turning positive info
  have full : capacity ≤ (List.replicate capacity
      (WorkerRuntimeChannelMessage.shouldUpdateInfo info)).length :=
    Nat.le_of_eq List.length_replicate.symm
  refine ⟨_, _, legal, reached, turning_deadlocked _ full, ?_⟩
  have receives : ∀ task message ops, WorkerSection process task (some message) ops →
      task = .eventLoop := by
    intro task message ops begins
    cases begins
    rfl
  intro after final legalAfter replayed
  have preserved : ∀ (current : WorkerLocks) event next,
      InOrder WorkerLock.rank SendsUnder current ∧ Wedged capacity .eventLoop .wr current →
      Legal (WorkerSection process) event → Locking.step capacity current event = some next →
      InOrder WorkerLock.rank SendsUnder next ∧ Wedged capacity .eventLoop .wr next := by
    intro current event next holds legal taken
    exact ⟨holds.1.step workerSection_orderly legal taken,
      holds.2.step receives holds.1.sound legal taken⟩
  exact (holds_of_legal preserved ⟨lockRun_inOrder legal reached, turning_wedged _ full⟩ legalAfter
    replayed).2

def exampleStarting : PhactoryInfo :=
  { version := "2.0.0"
    initialized := false
    publicKey := none }

theorem exampleStarting_wedges :
    ∃ events state,
      (∀ event ∈ events, Legal (WorkerSection exampleProcess) event) ∧
      lockRun 1024 events = some state ∧ Deadlocked 1024 state ∧
      ∀ after final, (∀ event ∈ after, Legal (WorkerSection exampleProcess) event) →
        replay (Locking.step 1024) state after = some final →
        Wedged 1024 .eventLoop .wr final :=
  @worker_wedges exampleProcess 1024 exampleStarting "127.0.0.1" (by decide) (by decide) rfl
    (by decide)

theorem exampleStarting_full :
    ∃ events state, (∀ event ∈ events, Legal (WorkerSection exampleProcess) event) ∧
      lockRun 1024 events = some state ∧ Deadlocked 1024 state ∧ 1024 ≤ state.channel.length := by
  have legal : ∀ event ∈ fillingEvents 1024 exampleStarting,
      Legal (WorkerSection exampleProcess) event :=
    @filling_legal exampleProcess 1024 exampleStarting "127.0.0.1" (by decide) (by decide) rfl
  have reached := @filling_turning 1024 (by decide) exampleStarting
  have deadlocked := @turning_deadlocked 1024
    (List.replicate 1024 (.shouldUpdateInfo exampleStarting))
    (.shouldSetPRuntimeFailed "pRuntime not initialized!")
    (Nat.le_of_eq List.length_replicate.symm)
  exact ⟨_, _, legal, reached, deadlocked,
    (worker_deadlock (by decide) legal reached deadlocked).1⟩

/-! ### Starvation -/

/-- If the channel has room again and again, and every await on the outside ends,
every section ends: however the waiting tasks overlap with the runtime lock in
their hands, the event loop gets it, and so does every forwarded request. -/
theorem worker_sections_end {run : Behavior (@Locking.step WorkerTask WorkerLock
      WorkerRuntimeChannelMessage _ _ _ capacity)}
    (started : run.state 0 = State.initial)
    (legal : ∀ n, Legal (WorkerSection process) (run.action n)) (fair : Locking.Fair run)
    (room : Roomy run) (task : WorkerTask) (n : Nat) :
    ∃ m, n ≤ m ∧ (run.state m).ops task = [] := by
  have inOrder : ∀ n, InOrder WorkerLock.rank SendsUnder (run.state n) :=
    holds_always (fun _ _ _ inOrder legal taken => inOrder.step workerSection_orderly legal taken)
      (by rw [started]; exact initial_inOrder) legal
  exact section_ends (fun n => (inOrder n).sound) fair (fun _ _ _ _ _ _ => room) WorkerLock.rank_le
    task n (fun _ _ => room)

/-- pRuntime is asked, and the event loop records the answer. -/
def exampleRecording : List WorkerEvent :=
  checkPruntimeHealthEvents (.ok (exampleInfo "0a")) ++
    [.moves .pruntimeHealth,
      .receives .eventLoop (.shouldUpdateInfo (exampleInfo "0a"))
        [.acquire .wr .exclusive, .release .wr],
      .moves .eventLoop, .grants .wr, .moves .eventLoop]

theorem exampleRecording_replayed :
    replay (Locking.step 1024) State.initial exampleRecording = some State.initial := by
  unfold exampleRecording
  rw [show (State.initial : WorkerLocks) = resting [] from rfl, replay_append,
    checkPruntimeHealth_reporting, Option.bind_some, replay_cons, reported _ (by decide),
    Option.bind_some]
  simp [replay, Locking.step, State.begins, State.moves, State.grants, resting, State.initial,
    pruntimeReport, Holders.enter, Holders.leave]

theorem exampleRecording_legal :
    ∀ event ∈ exampleRecording, Legal (WorkerSection exampleProcess) event := by
  intro event member
  have returned : handleRuntimeEvent exampleProcess exampleOutside
      { WorkerRuntime.new with status := .started } (.shouldUpdateInfo (exampleInfo "0a")) =
      .ok ⟨{ WorkerRuntime.new with status := .started, lastInfo := some (exampleInfo "0a") }, [],
        0⟩ := rfl
  rcases List.mem_append.mp member with asked | recorded
  · exact checkPruntimeHealth_legal _ event (List.mem_append_left _ asked)
  · simp only [List.mem_cons, List.not_mem_nil, or_false] at recorded
    rcases recorded with rfl | rfl | rfl | rfl | rfl
    · trivial
    · exact .handleRuntimeEvent _ exampleOutside _ _ returned
    all_goals trivial

/-- The worker records one answer after another, for ever. -/
def exampleRecordings :
    Behavior (@Locking.step WorkerTask WorkerLock WorkerRuntimeChannelMessage _ _ _ 1024) :=
  .cycle (by decide) exampleRecording_replayed

theorem exampleRecordings_rests (rounds : Nat) :
    exampleRecordings.state (14 * rounds) = State.initial :=
  Behavior.cycle_state (by decide) exampleRecording_replayed rounds

theorem exampleRecordings_fair : Locking.Fair exampleRecordings := by
  apply cycle_fair
  intro event member task
  simp only [exampleRecording, checkPruntimeHealthEvents, List.cons_append, List.nil_append,
    List.mem_cons, List.not_mem_nil, or_false] at member
  rcases member with rfl | rfl | rfl | rfl | rfl | rfl | rfl | rfl | rfl | rfl | rfl | rfl | rfl |
    rfl <;> rintro ⟨⟩ <;> simp [exampleRecording, checkPruntimeHealthEvents]

theorem exampleRecordings_end :
    (exampleRecordings.state 11).ops .eventLoop ≠ [] ∧
      ∃ m, 11 ≤ m ∧ (exampleRecordings.state m).ops .eventLoop = [] :=
  ⟨by decide, @worker_sections_end exampleProcess 1024 exampleRecordings
    (exampleRecordings_rests 0) (fun n => exampleRecording_legal _ (List.get_mem _ _))
    exampleRecordings_fair (fun n => ⟨14 * n, by omega, by rw [exampleRecordings_rests]; decide⟩)
    .eventLoop 11⟩

end ServiceNetwork.ServiceWorker
