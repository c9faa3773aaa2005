/-
The key a worker is served under.

An info is admitted in `Starting` alone; in every later status it is recorded
as the last info and looked at no further.  So the key in the keepalive is that
of an admitted info, whatever key the infos since then carry.
-/

import ServiceNetwork.ServiceWorker.Provisioning

namespace ServiceNetwork.ServiceWorker

open ServiceNetwork.Peer
open ServiceNetwork.Replay

/-- An info that becomes the last info: one handled outside `Starting`, or
admitted there. -/
def RecordsInfo (process : WorkerProcess) (info : PhactoryInfo) (state : WorkerState)
    (action : Action) : Prop :=
  handledMessage state action = some (.shouldUpdateInfo info) ∧
    (state.runtime.status = .starting → AdmitsInfo process info state action)

abbrev LatestInfo (process : WorkerProcess) (actions before : List Action)
    (current : WorkerState) (action : Action) : Prop :=
  MostRecent (step process) WorkerState.initial
    (fun state action => ∃ info, RecordsInfo process info state action) actions before current
    action

variable {process : WorkerProcess}

theorem AdmitsInfo.initialized {info : PhactoryInfo} {state : WorkerState} {action : Action}
    (admits : AdmitsInfo process info state action) : info.initialized = true := by
  obtain ⟨handled, _, port, outside, other, rfl, handledOther, _, passes⟩ := admits
  rw [handled] at handledOther
  cases handledOther
  exact passes.initialized

theorem RecordsInfo.unique {info other : PhactoryInfo} {state : WorkerState} {action : Action}
    (records : RecordsInfo process info state action)
    (recordsOther : RecordsInfo process other state action) : info = other := by
  have same := records.1.symm.trans recordsOther.1
  cases same
  rfl

/-- The last info is the one recorded last, and a known key comes with one. -/
structure InfoKept (process : WorkerProcess) (actions : List Action) (wr : WorkerRuntime) :
    Prop where
  present : wr.publicKey.isSome → wr.lastInfo.isSome
  latest : ∀ info, wr.lastInfo = some info →
    ∃ before current action, LatestInfo process actions before current action ∧
      RecordsInfo process info current action

theorem InfoKept.silent {actions : List Action} {state : WorkerState} {action : Action}
    {wr next : WorkerRuntime} (kept : InfoKept process actions wr)
    (reached : workerRun process actions = some state)
    (silent : ∀ info, ¬ RecordsInfo process info state action)
    (sameKey : next.publicKey = wr.publicKey) (sameLast : next.lastInfo = wr.lastInfo) :
    InfoKept process (actions ++ [action]) next := by
  refine ⟨?_, ?_⟩
  · rw [sameKey, sameLast]
    exact kept.present
  · rw [sameLast]
    intro info last
    obtain ⟨before, current, recording, latest, records⟩ := kept.latest info last
    exact ⟨before, current, recording,
      .later reached (fun ⟨info, event⟩ => silent info event) latest, records⟩

theorem InfoKept.recorded {actions : List Action} {state : WorkerState} {action : Action}
    {next : WorkerRuntime} {info : PhactoryInfo}
    (reached : workerRun process actions = some state)
    (records : RecordsInfo process info state action) (last : next.lastInfo = some info) :
    InfoKept process (actions ++ [action]) next := by
  refine ⟨?_, ?_⟩
  · intro _
    rw [last]
    rfl
  · intro other lastOther
    rw [last] at lastOther
    cases lastOther
    exact ⟨actions, state, action, .here reached ⟨info, records⟩, records⟩

theorem not_recordsInfo_of_head {state : WorkerState} {outside : Outside}
    {message : WorkerRuntimeChannelMessage} {rest : List WorkerRuntimeChannelMessage}
    (head : state.queue = message :: rest) (other : ∀ info, message ≠ .shouldUpdateInfo info) :
    ∀ info, ¬ RecordsInfo process info state (.handled outside) := by
  rintro info ⟨handled, _⟩
  rw [handledMessage_handled head] at handled
  exact other info (Option.some.inj handled)

/-- In `Starting` an info is recorded if it passes the checks and has a key. -/
theorem not_recordsInfo_of_refused {state : WorkerState} {outside : Outside}
    {info : PhactoryInfo} {rest : List WorkerRuntimeChannelMessage}
    (head : state.queue = .shouldUpdateInfo info :: rest)
    (starting : state.runtime.status = .starting)
    (refused : ∀ port, PassesChecks process outside info port → info.publicKey = none) :
    ∀ other, ¬ RecordsInfo process other state (.handled outside) := by
  intro other ⟨_, admits⟩
  obtain ⟨handled, key, port, another, passing, sameAction, handledToo, _, passes⟩ :=
    admits starting
  cases sameAction
  rw [handledMessage_handled head] at handled handledToo
  cases handled
  cases handledToo
  rw [refused port passes] at key
  cases key

theorem InfoKept.infoInStarting {actions : List Action} {state : WorkerState}
    {outside : Outside} {info : PhactoryInfo} {rest : List WorkerRuntimeChannelMessage}
    {hostname : String} {next : WorkerRuntime} (kept : InfoKept process actions state.runtime)
    (reached : workerRun process actions = some state)
    (head : state.queue = .shouldUpdateInfo info :: rest)
    (starting : state.runtime.status = .starting)
    (outcome : AdmissionOutcome process outside state.runtime info hostname next) :
    InfoKept process (actions ++ [.handled outside]) next := by
  cases outcome with
  | refused fails keeps sameLast =>
      refine kept.silent reached (not_recordsInfo_of_refused head starting ?_) keeps.key sameLast
      intro port passes
      exact absurd passes (fails port)
  | keyless config rpcPort passes key =>
      refine kept.silent reached (not_recordsInfo_of_refused head starting ?_) rfl rfl
      intro _ _
      exact key
  | admitted config rpcPort passes publicKey key =>
      have handled : handledMessage state (.handled outside) = some (.shouldUpdateInfo info) :=
        handledMessage_handled head
      have admits : AdmitsInfo process info state (.handled outside) :=
        ⟨handled, by rw [key]; rfl, rpcPort, outside, info, rfl, handled, starting, passes⟩
      exact .recorded reached ⟨handled, fun _ => admits⟩ rfl

theorem InfoKept.step {actions : List Action} {state next : WorkerState} {action : Action}
    (kept : InfoKept process actions state.runtime)
    (reached : workerRun process actions = some state)
    (taken : step process state action = some next) :
    InfoKept process (actions ++ [action]) next.runtime := by
  by_cases turn : ∃ outside, action = .handled outside
  · obtain ⟨outside, rfl⟩ := turn
    obtain ⟨message, rest, handled, head, returned, rfl⟩ := handle_eq_some taken
    change InfoKept process (actions ++ [.handled outside]) handled.runtime
    cases handleRuntimeEvent_outcome returned with
    | failure reported sent _ =>
        refine kept.silent reached (not_recordsInfo_of_head head ?_) rfl rfl
        intro info same
        rw [same] at reported
        cases reported
    | infoInStarting info hostname starting parsed outcome =>
        exact kept.infoInStarting reached head starting (outcome.admission parsed)
    | infoLater info later =>
        refine .recorded reached ⟨handledMessage_handled head, ?_⟩ rfl
        intro starting
        exact absurd starting later
    | status newStatus outcome =>
        refine kept.silent reached (not_recordsInfo_of_head head (by simp)) ?_ ?_ <;>
          cases outcome <;> rfl
    | locked peer identity built =>
        exact kept.silent reached (not_recordsInfo_of_head head (by simp)) rfl rfl
  · have noTurn : ∀ outside, action ≠ .handled outside :=
      fun outside same => turn ⟨outside, same⟩
    rw [step_keeps_runtime taken noTurn]
    refine kept.silent reached ?_ rfl rfl
    rintro info ⟨handled, _⟩
    cases action with
    | handled outside => exact noTurn outside rfl
    | _ => cases handled

theorem infoKept_of_run {actions : List Action} {state : WorkerState}
    (run : workerRun process actions = some state) : InfoKept process actions state.runtime := by
  refine @replay_holds WorkerState Action (ServiceWorker.step process)
    (fun taken current => InfoKept process taken current.runtime) WorkerState.initial ?_ ?_
    actions state run
  · refine ⟨?_, ?_⟩
    · intro impossible
      cases impossible
    · intro info impossible
      cases impossible
  · intro before current action next reached kept taken
    exact kept.step reached taken

/-! ### The keys of a started worker -/

/-- The keepalive, the runtime and the last info carry one key, and that info
is initialized. -/
def ServesNamedKey (json : SerdeJson) (wr : WorkerRuntime) : Prop :=
  ∃ content identity info, wr.keepaliveContent = some content ∧
    json.readIdentity content = some identity ∧ wr.lastInfo = some info ∧
    wr.publicKey = some identity.publicKey ∧ info.publicKey = some identity.publicKey ∧
    info.initialized = true

/-- Where the keys of a started worker come from. -/
structure KeysTraced (process : WorkerProcess) (actions : List Action) (wr : WorkerRuntime) :
    Prop where
  /-- The runtime's key is that of the initialized info admitted last. -/
  admitted : ∃ before current action info, LatestAdmission process actions before current action ∧
    AdmitsInfo process info current action ∧ info.initialized = true ∧
    wr.publicKey = info.publicKey ∧ wr.publicKey.isSome ∧ wr.initialInfo = some info
  /-- The keepalive's key is the one the runtime had at the latest lock, that of
  the initialized info admitted last before it. -/
  served : ∃ before current outside identity, LatestLock process actions before current outside ∧
    wr.keepaliveContent = some (process.json.writeIdentity identity) ∧
    current.runtime.publicKey = some identity.publicKey ∧
    ∃ earlier past action info, LatestAdmission process before earlier past action ∧
      AdmitsInfo process info past action ∧ info.initialized = true ∧
      info.publicKey = some identity.publicKey
  /-- The last info is the one recorded last, with no check outside `Starting`. -/
  last : ∃ before current action info, LatestInfo process actions before current action ∧
    RecordsInfo process info current action ∧ wr.lastInfo = some info
  /-- With no admission since the latest lock, the keepalive carries the runtime's
  key. -/
  agree : ∀ before current action locking locked outside,
    LatestAdmission process actions before current action →
    LatestLock process actions locking locked outside → before.length < locking.length →
    ∃ identity, wr.keepaliveContent = some (process.json.writeIdentity identity) ∧
      wr.publicKey = some identity.publicKey
  /-- Then only the last info can name another key. -/
  named : ∀ before current action locking locked outside,
    LatestAdmission process actions before current action →
    LatestLock process actions locking locked outside → before.length < locking.length →
    (ServesNamedKey process.json wr ↔
      ∃ info, wr.lastInfo = some info ∧ info.publicKey = wr.publicKey ∧ info.initialized = true)

theorem started_worker_keys_traced {actions : List Action} {state : WorkerState}
    (run : workerRun process actions = some state) (started : state.runtime.status = .started) :
    KeysTraced process actions state.runtime := by
  have equipped : Equipped process actions state.runtime :=
    equipped_of_broker run (broker_of_provisioned run (by rw [started]; rfl))
  obtain ⟨_, before, current, admitting, info, latest, admits, key, initial⟩ :=
    (recorded_of_run run).key equipped.key
  obtain ⟨locking, locked, outside, peer, identity, latestLock, _, _, keyThen, content⟩ :=
    equipped.content
  obtain ⟨⟨after, split⟩, reachedLock, _⟩ := latestLock.occurred
  obtain ⟨_, earlier, past, admittingThen, infoThen, latestThen, admitsThen, keyOfInfo, _⟩ :=
    (recorded_of_run reachedLock).key (by rw [keyThen]; rfl)
  rw [keyThen] at keyOfInfo
  obtain ⟨last, lastAt⟩ := Option.isSome_iff_exists.mp ((infoKept_of_run run).present equipped.key)
  obtain ⟨recording, recorded, recordingAction, latestInfo, records⟩ :=
    (infoKept_of_run run).latest last lastAt
  -- an admission before the latest lock is the one the lock has its key from
  have agrees : before.length < locking.length →
      state.runtime.publicKey = some identity.publicKey := by
    intro inOrder
    have within : LatestAdmission process locking before current admitting :=
      latest.within ⟨_, split.symm⟩ inOrder
    obtain ⟨_, rfl, rfl⟩ := within.unique latestThen
    have same := admits.1.symm.trans admitsThen.1
    cases same
    rw [key]
    exact keyOfInfo.symm
  refine
    { admitted := ⟨before, current, admitting, info, latest, admits, admits.initialized, key,
        equipped.key, initial⟩
      served := ⟨locking, locked, outside, identity, latestLock, content, keyThen, earlier, past,
        admittingThen, infoThen, latestThen, admitsThen, admitsThen.initialized, keyOfInfo.symm⟩
      last := ⟨recording, recorded, recordingAction, last, latestInfo, records, lastAt⟩
      agree := ?_
      named := ?_ }
  · intro before' current' action' locking' locked' outside' latest' latestLock' inOrder
    obtain ⟨rfl, rfl, rfl⟩ := latest.unique latest'
    obtain ⟨rfl, _, _⟩ := latestLock.unique latestLock'
    exact ⟨identity, content, agrees inOrder⟩
  · intro before' current' action' locking' locked' outside' latest' latestLock' inOrder
    obtain ⟨rfl, rfl, rfl⟩ := latest.unique latest'
    obtain ⟨rfl, _, _⟩ := latestLock.unique latestLock'
    constructor
    · rintro ⟨text, readBack, served, textAt, read, servedAt, runtimeKey, servedKey, initialized⟩
      exact ⟨served, servedAt, servedKey.trans runtimeKey.symm, initialized⟩
    · rintro ⟨served, servedAt, servedKey, initialized⟩
      exact ⟨_, identity, served, content, process.json.read_write identity, servedAt,
        agrees inOrder, servedKey.trans (agrees inOrder), initialized⟩

theorem exampleServing_keys_traced :
    ∃ state, workerRun exampleProcess exampleServing = some state ∧
      state.runtime.status = .started ∧
      KeysTraced exampleProcess exampleServing state.runtime := by
  have serving : ∃ state, workerRun exampleProcess exampleServing = some state ∧
      state.runtime.status = .started := ⟨_, rfl, rfl⟩
  obtain ⟨state, run, started⟩ := serving
  exact ⟨state, run, started, started_worker_keys_traced run started⟩

/-- pRuntime answers a started worker with another key. -/
def exampleReplacement : List Action :=
  exampleServing ++ [.pruntimeAnswered (exampleInfo "0b"), .handled exampleOutside]

theorem replaced_pruntime_served_under_old_key :
    ∃ state, workerRun exampleProcess exampleReplacement = some state ∧
      state.runtime.status = .started ∧ state.runtime.publicKey = some "0a" ∧
      state.runtime.lastInfo = some (exampleInfo "0b") ∧
      ¬ ServesNamedKey exampleProcess.json state.runtime := by
  have replaced : ∃ state, workerRun exampleProcess exampleReplacement = some state ∧
      state.runtime.status = .started ∧ state.runtime.publicKey = some "0a" ∧
      state.runtime.lastInfo = some (exampleInfo "0b") := ⟨_, rfl, rfl, rfl, rfl⟩
  obtain ⟨state, run, started, key, last⟩ := replaced
  refine ⟨state, run, started, key, last, ?_⟩
  rintro ⟨_, identity, info, _, _, lastAt, keyAt, infoKey, _⟩
  rw [last] at lastAt
  cases lastAt
  rw [key, ← infoKey] at keyAt
  exact absurd keyAt (by decide)

end ServiceNetwork.ServiceWorker
