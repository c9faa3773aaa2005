/-
How a broker process ends.

`main` joins six tasks and exits when one of them panics.  The one that
announces the broker ends after it has, the one behind the SOCKS listeners never
looks at what became of them, and the loop that sends the health checks has no
way to end.  The statics of the program are taken as built.
-/

import ServiceNetwork.Server
import ServiceNetwork.ServiceBroker.KeepaliveSafety
import ServiceNetwork.ServiceBroker.Management

namespace ServiceNetwork.ServiceBroker

open ServiceNetwork.Heartbeat
open ServiceNetwork.Joining
open ServiceNetwork.Replay

/-- A broker with the configuration that its servers read. -/
structure ServingBroker extends BrokerProcess where
  broker : BrokerConfig
  isBroker : config.broker = .ok broker

/-- Where the management interface is bound: on every interface. -/
def ServingBroker.managementAddress (serving : ServingBroker) : String :=
  "0.0.0.0:" ++ toString serving.config.common.mgmtPort

/-- What becomes of the task that announces the broker, by how the service
daemon answers. -/
def announce : Except String Unit → Fate
  | .error _ => .panicked
  | .ok () => .ended

/-- What becomes of a SOCKS listener when it starts. -/
def spawnServer (bind : String → Except String Unit) (addr : String) : Fate :=
  match bind addr with
  | .error _ => .panicked
  | .ok () => .running

/-- The worker table with the fates of the tasks that `main` joins. -/
structure BrokerTasks where
  manager : LocalWorkerManager
  announcement : Fate
  listeners : List Fate
  management : List Fate
  servers : List Fate
  localWorkerManager : Fate

def BrokerTasks.initial (serving : ServingBroker) : BrokerTasks :=
  { manager := LocalWorkerManager.initial
    announcement := .running
    listeners := serving.broker.outboundBindAddresses.map fun _ => .running
    management := [.running]
    servers := serving.broker.inboundHttpServerBindAddress.map fun _ => .running
    localWorkerManager := .running }

def startOutbound (listeners : List Fate) : Fate :=
  joinAll listeners

def startManagement (management : List Fate) : Fate :=
  tryJoinAll management

def startQueryForwarder (servers : List Fate) : Fate :=
  tryJoinAll servers

def BrokerTasks.handles (tasks : BrokerTasks) : List Fate :=
  [tasks.announcement, startOutbound tasks.listeners, startManagement tasks.management,
    startQueryForwarder tasks.servers, tasks.localWorkerManager, .running]

def BrokerTasks.exitCode (tasks : BrokerTasks) : Option Nat :=
  joinHandles tasks.handles

inductive ProcessEvent where
  | announces (daemon : Except String Unit)
  | listens (index : Nat) (bind : String → Except String Unit)
  | listened (index : Nat)
  | manages (event : ServerEvent)
  | serves (event : ServerEvent)
  | handles (message : LocalWorkerManagerChannelMessage)

def tasksStep (serving : ServingBroker) (tasks : BrokerTasks) : ProcessEvent → Option BrokerTasks
  | .announces daemon => some { tasks with announcement := announce daemon }
  | .listens index bind =>
      match serving.broker.outboundBindAddresses[index]? with
      | none => none
      | some addr =>
          some { tasks with listeners := tasks.listeners.set index (spawnServer bind addr) }
  | .listened index => some { tasks with listeners := tasks.listeners.set index .ended }
  | .manages event =>
      match serverStep [serving.managementAddress] tasks.management event with
      | none => none
      | some management => some { tasks with management := management }
  | .serves event =>
      match serverStep serving.broker.inboundHttpServerBindAddress tasks.servers event with
      | none => none
      | some servers => some { tasks with servers := servers }
  | .handles message =>
      match managerStep serving.profile serving.urlparse tasks.manager message with
      | none => some { tasks with localWorkerManager := .panicked }
      | some manager => some { tasks with manager := manager }

/-- A run of the process from its start, which goes no further than its exit. -/
def processRun (serving : ServingBroker) (events : List ProcessEvent) : Option BrokerTasks :=
  replay (whileRunning BrokerTasks.handles (tasksStep serving)) (BrokerTasks.initial serving) events

/-- The key is unknown, or its worker is given up for dead. -/
def NotLive (manager : LocalWorkerManager) (key : String) : Prop :=
  ∀ klw, manager.lwMap[key]? = some klw → klw.status = .dead

/-- The management port cannot be bound, or its server fails. -/
inductive Unmanaged (serving : ServingBroker) : ServerEvent → Prop where
  | unbound (bind : SocketAddr → Except String Unit) (error : String)
      (refused : bind ⟨.v4 ⟨0, 0, 0, 0⟩, serving.config.common.mgmtPort⟩ = .error error) :
      Unmanaged serving (.starts 0 bind)
  | failed (error : String) : Unmanaged serving (.stops 0 (.error error))

/-- The event ends the process: the service daemon fails, the management port or
an address for queries is not served, or a keepalive for a key that is not live
names no host and port. -/
inductive Fatal (serving : ServingBroker) (tasks : BrokerTasks) : ProcessEvent → Prop where
  | unannounced (error : String) : Fatal serving tasks (.announces (.error error))
  | unmanaged (event : ServerEvent) (unmanaged : Unmanaged serving event) :
      Fatal serving tasks (.manages event)
  | unserved (event : ServerEvent)
      (unserved : Unserved serving.broker.inboundHttpServerBindAddress event) :
      Fatal serving tasks (.serves event)
  | unparsed (lw : LocalWorkerIdentity) (notLive : NotLive tasks.manager lw.publicKey)
      (unparsed : ¬ Parses serving.urlparse lw.addressString) :
      Fatal serving tasks (.handles (.receivedKeepAlive lw))

variable {serving : ServingBroker} {tasks after : BrokerTasks} {event : ProcessEvent}

theorem unmanaged_iff {event : ServerEvent} :
    Unserved [serving.managementAddress] event ↔ Unmanaged serving event := by
  have only : ∀ {index : Nat} {addr : String}, [serving.managementAddress][index]? = some addr →
      index = 0 ∧ addr = serving.managementAddress := by
    intro index addr configured
    cases index with
    | zero =>
        cases configured
        exact ⟨rfl, rfl⟩
    | succ index => cases configured
  have reads : SocketAddr.parse serving.managementAddress =
      some ⟨.v4 ⟨0, 0, 0, 0⟩, serving.config.common.mgmtPort⟩ := parse_unspecified _
  constructor
  · intro unserved
    cases unserved with
    | unreadable index bind addr configured unread =>
        obtain ⟨_, rfl⟩ := only configured
        rw [reads] at unread
        cases unread
    | unbound index bind addr parsed error configured read refused =>
        obtain ⟨rfl, rfl⟩ := only configured
        rw [reads] at read
        cases read
        exact .unbound bind error refused
    | failed index error served =>
        obtain rfl : index = 0 := Nat.lt_one_iff.mp served
        exact .failed error
  · intro unmanaged
    cases unmanaged with
    | unbound bind error refused => exact .unbound 0 bind _ _ error rfl reads refused
    | failed error => exact .failed 0 error Nat.one_pos

/-- In a table reached by the messages so far, no health check panics, and a
keepalive does exactly for a key that is not live under an address of no use. -/
theorem managerStep_panics_iff {messages : List LocalWorkerManagerChannelMessage}
    {profile : BuildProfile} {urlparse : String → Uri} {manager : LocalWorkerManager}
    (run : localWorkerManager profile urlparse messages = some manager)
    (message : LocalWorkerManagerChannelMessage) :
    managerStep profile urlparse manager message = none ↔
      ∃ lw, message = .receivedKeepAlive lw ∧ NotLive manager lw.publicKey ∧
        ¬ Parses urlparse lw.addressString := by
  have tracks := localWorkerManager_tracks run
  constructor
  · intro panics
    rcases tracks.step profile message with ⟨next, taken, _⟩ | ⟨lw, rfl, refused, _⟩
    · rw [panics] at taken
      cases taken
    · refine ⟨lw, rfl, ?_, ?_⟩
      · intro klw found
        rw [tracks.entries] at found
        obtain ⟨lease, held, rfl⟩ := Option.map_eq_some_iff.mp found
        apply (phase_dead_iff lease.misses).mpr
        exact Nat.le_of_not_lt fun running => refused (Or.inl ⟨lease, held, running⟩)
      · intro parses
        exact refused (Or.inr ((seatFor_isSome_iff lw).mpr parses))
  · rintro ⟨lw, rfl, notLive, unparsed⟩
    simp only [managerStep, handleMessage_creates profile notLive,
      createLocalWorker_panics unparsed]

/-- What every step of the process keeps. -/
structure Underway (serving : ServingBroker) (tasks : BrokerTasks) : Prop where
  reached : ∃ messages, localWorkerManager serving.profile serving.urlparse messages =
    some tasks.manager
  management : tasks.management.length = 1
  servers : tasks.servers.length = serving.broker.inboundHttpServerBindAddress.length

theorem panicked_mem_handles {tasks : BrokerTasks} :
    .panicked ∈ tasks.handles ↔
      tasks.announcement = .panicked ∨ .panicked ∈ tasks.management ∨
        .panicked ∈ tasks.servers ∨ tasks.localWorkerManager = .panicked := by
  simp only [BrokerTasks.handles, startOutbound, startManagement, startQueryForwarder,
    List.mem_cons, List.not_mem_nil, or_false, @eq_comm _ Fate.panicked, tryJoinAll_eq_panicked,
    joinAll_ne_panicked, reduceCtorEq, false_or]

/-- What a step of the process leaves. -/
inductive TasksOutcome (serving : ServingBroker) (tasks : BrokerTasks) :
    ProcessEvent → BrokerTasks → Prop where
  | announced :
      TasksOutcome serving tasks (.announces (.ok ())) { tasks with announcement := .ended }
  | unannounced (error : String) :
      TasksOutcome serving tasks (.announces (.error error))
        { tasks with announcement := .panicked }
  | listens (index : Nat) (bind : String → Except String Unit) (listeners : List Fate) :
      TasksOutcome serving tasks (.listens index bind) { tasks with listeners := listeners }
  | listened (index : Nat) (listeners : List Fate) :
      TasksOutcome serving tasks (.listened index) { tasks with listeners := listeners }
  | manages (event : ServerEvent) (management : List Fate)
      (taken : serverStep [serving.managementAddress] tasks.management event = some management) :
      TasksOutcome serving tasks (.manages event) { tasks with management := management }
  | serves (event : ServerEvent) (servers : List Fate)
      (taken : serverStep serving.broker.inboundHttpServerBindAddress tasks.servers event =
        some servers) :
      TasksOutcome serving tasks (.serves event) { tasks with servers := servers }
  | handled (message : LocalWorkerManagerChannelMessage) (manager : LocalWorkerManager)
      (taken : managerStep serving.profile serving.urlparse tasks.manager message = some manager) :
      TasksOutcome serving tasks (.handles message) { tasks with manager := manager }
  | panicked (message : LocalWorkerManagerChannelMessage)
      (panics : managerStep serving.profile serving.urlparse tasks.manager message = none) :
      TasksOutcome serving tasks (.handles message) { tasks with localWorkerManager := .panicked }

theorem tasksStep_outcome (taken : tasksStep serving tasks event = some after) :
    TasksOutcome serving tasks event after := by
  cases event with
  | announces daemon =>
      cases daemon with
      | error error =>
          cases taken
          exact .unannounced error
      | ok =>
          cases taken
          exact .announced
  | listens index bind =>
      simp only [tasksStep] at taken
      split at taken
      · cases taken
      · cases taken
        exact .listens index bind _
  | listened index =>
      cases taken
      exact .listened index _
  | manages event =>
      simp only [tasksStep] at taken
      split at taken
      · cases taken
      · rename_i management managed
        cases taken
        exact .manages event management managed
  | serves event =>
      simp only [tasksStep] at taken
      split at taken
      · cases taken
      · rename_i servers served
        cases taken
        exact .serves event servers served
  | handles message =>
      simp only [tasksStep] at taken
      split at taken
      · rename_i panics
        cases taken
        exact .panicked message panics
      · rename_i manager handled
        cases taken
        exact .handled message manager handled

theorem Underway.step (underway : Underway serving tasks)
    (taken : tasksStep serving tasks event = some after) : Underway serving after := by
  obtain ⟨⟨messages, run⟩, management, servers⟩ := underway
  cases tasksStep_outcome taken with
  | announced | unannounced | listens | listened | panicked =>
      exact ⟨⟨messages, run⟩, management, servers⟩
  | manages event after managed =>
      exact ⟨⟨messages, run⟩, (serverStep_length managed).trans management, servers⟩
  | serves event after served =>
      exact ⟨⟨messages, run⟩, management, (serverStep_length served).trans servers⟩
  | handled message manager handled =>
      refine ⟨⟨messages ++ [message], ?_⟩, management, servers⟩
      unfold localWorkerManager at run ⊢
      rw [replay_concat, run]
      exact handled

/-- A step of the running process makes one of its tasks panic exactly when it
is fatal. -/
theorem Underway.panics_iff (underway : Underway serving tasks)
    (running : tryJoinAll tasks.handles = .running)
    (taken : tasksStep serving tasks event = some after) :
    tryJoinAll after.handles = .panicked ↔ Fatal serving tasks event := by
  have unharmed : .panicked ∉ tasks.handles := by
    intro panicked
    rw [tryJoinAll_eq_panicked.mpr panicked] at running
    cases running
  rw [panicked_mem_handles] at unharmed
  have separately := unharmed
  simp only [not_or] at separately
  obtain ⟨announced, managed, served, handling⟩ := separately
  obtain ⟨messages, run⟩ := underway.reached
  rw [tryJoinAll_eq_panicked, panicked_mem_handles]
  cases tasksStep_outcome taken with
  | announced => exact iff_of_false (by simp [managed, served, handling]) nofun
  | unannounced error => exact iff_of_true (Or.inl rfl) (.unannounced error)
  | listens | listened => exact iff_of_false unharmed nofun
  | manages event management stepped =>
      have started : tasks.management.length = [serving.managementAddress].length :=
        underway.management
      rw [or_iff_right announced, or_iff_left (not_or.mpr ⟨served, handling⟩),
        serverStep_panics_iff managed started stepped, unmanaged_iff]
      constructor
      · exact .unmanaged event
      · intro fatal
        cases fatal with
        | unmanaged _ unmanaged => exact unmanaged
  | serves event servers stepped =>
      rw [or_iff_right announced, or_iff_right managed, or_iff_left handling,
        serverStep_panics_iff served underway.servers stepped]
      constructor
      · exact .unserved event
      · intro fatal
        cases fatal with
        | unserved _ unserved => exact unserved
  | handled message manager stepped =>
      refine iff_of_false unharmed ?_
      intro fatal
      cases fatal with
      | unparsed lw notLive unparsed =>
          rw [(managerStep_panics_iff run _).mpr ⟨lw, rfl, notLive, unparsed⟩] at stepped
          cases stepped
  | panicked message panics =>
      obtain ⟨lw, rfl, notLive, unparsed⟩ := (managerStep_panics_iff run message).mp panics
      exact iff_of_true (Or.inr (Or.inr (Or.inr rfl))) (.unparsed lw notLive unparsed)

theorem BrokerTasks.handles_initial (serving : ServingBroker) :
    tryJoinAll (BrokerTasks.initial serving).handles = .running := by
  cases fate : tryJoinAll (BrokerTasks.initial serving).handles with
  | running => rfl
  | ended => exact absurd fate (tryJoinAll_ne_ended (by simp [BrokerTasks.handles]))
  | panicked =>
      rw [tryJoinAll_eq_panicked, panicked_mem_handles] at fate
      simp [BrokerTasks.initial] at fate

/-- A broker process never exits with success.  It exits with 100 exactly when
it cannot announce itself, when the management port or an address for queries
goes unserved, or on a keepalive without host and port for a key that is not
live; no health check and no SOCKS listener ends it. -/
theorem broker_exits_iff {events : List ProcessEvent}
    (run : processRun serving events = some tasks) :
    tasks.exitCode ≠ some 0 ∧
      (tasks.exitCode = some 100 ↔
        ∃ before event current, events = before ++ [event] ∧
          processRun serving before = some current ∧ Fatal serving current event) := by
  constructor
  · unfold BrokerTasks.exitCode
    rw [ne_eq, joinHandles_eq_success]
    exact tryJoinAll_ne_ended (by simp [BrokerTasks.handles])
  · unfold BrokerTasks.exitCode
    rw [joinHandles_eq_failure]
    refine @fails_iff_last _ _ BrokerTasks.handles (tasksStep serving) (BrokerTasks.initial serving)
      tasks events (Underway serving) (Fatal serving) (BrokerTasks.handles_initial serving) ?_ ?_ ?_
      run
    · exact ⟨⟨[], rfl⟩, rfl, List.length_map _⟩
    · intro current event next underway taken
      exact underway.step taken
    · intro current event next underway running taken
      exact underway.panics_iff running taken

def exampleServingBroker : ServingBroker :=
  { config :=
      { role := .prBroker (some
          { outboundBindAddresses := ["10.0.0.1:1981"]
            inboundHttpServerBindAddress := ["10.0.0.1:19810"]
            inboundHttpServerAccessibleAddressPrefix := ""
            cost := 10 })
        instanceId := "b1"
        common := { instanceName := "broker", mgmtPort := 1919 } }
    profile := .release
    urlparse := exampleUrlparse
    interfaces := []
    registered := _
    registers := rfl
    broker := _
    isBroker := rfl }

def exampleEnding : List ProcessEvent :=
  [.listens 0 fun _ => .error "in use", .handles (.receivedKeepAlive (exampleKeepalive "0b" ""))]

/-- The SOCKS listener that cannot be bound goes unnoticed, and the keepalive
without a host ends the process. -/
theorem exampleEnding_exits :
    (∃ tasks, processRun exampleServingBroker (exampleEnding.take 1) = some tasks ∧
      tasks.exitCode = none) ∧
    ∃ tasks, processRun exampleServingBroker exampleEnding = some tasks ∧
      tasks.exitCode = some 100 := by
  have listening : ∃ tasks, processRun exampleServingBroker (exampleEnding.take 1) = some tasks ∧
      tasks.exitCode = none ∧ tasks.manager = LocalWorkerManager.initial := ⟨_, rfl, rfl, rfl⟩
  obtain ⟨current, reached, unended, empty⟩ := listening
  have ended : ∃ tasks, processRun exampleServingBroker exampleEnding = some tasks := ⟨_, rfl⟩
  obtain ⟨tasks, run⟩ := ended
  refine ⟨⟨current, reached, unended⟩, tasks, run, (broker_exits_iff run).2.mpr
    ⟨exampleEnding.take 1, .handles (.receivedKeepAlive (exampleKeepalive "0b" "")), current, rfl,
      reached, .unparsed _ ?_ (by decide)⟩⟩
  rw [empty]
  intro klw found
  cases found

end ServiceNetwork.ServiceBroker
