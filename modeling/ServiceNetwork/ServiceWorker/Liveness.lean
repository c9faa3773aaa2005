/-
The worker is started in the end, and stays so.

In a run without end whose tasks all keep moving, and whose surroundings put
nothing in the way from some moment on, the reports of the past are used up one
kind after another: the failures, the resets, the admissions, the waiting tasks,
the locks.  What is then left of the statuses is `Started`.
-/

import ServiceNetwork.Library.Behavior
import ServiceNetwork.ServiceWorker.ProxyConfigured
import ServiceNetwork.ServiceWorker.StatusDrivers
import ServiceNetwork.ServiceWorker.WaitLoop

namespace ServiceNetwork.ServiceWorker

open Filter
open ServiceNetwork.Peer
open ServiceNetwork.Register
open ServiceNetwork.Replay

/-- The info passes the checks in `Starting` and carries a key. -/
def Serviceable (process : WorkerProcess) (info : PhactoryInfo) : Prop :=
  process.versionSupported info.version = some true ∧ info.initialized = true ∧
    info.publicKey.isSome

instance (process : WorkerProcess) (info : PhactoryInfo) : Decidable (Serviceable process info) :=
  inferInstanceAs (Decidable (_ ∧ _ ∧ _))

/-- An action in which pRuntime and the broker put nothing in the way. -/
def Cooperates (process : WorkerProcess) : Action → Prop
  | .pruntimeAnswered info => Serviceable process info
  | .pruntimeFailed _ => False
  | .keepaliveAnswered outcome => outcome = .ok ()
  | .handled outside =>
      (∃ config rpcPort, outside.networkConfig = .ok config ∧
        config.publicRpcPort = some rpcPort) ∧
      ∀ allProxy, outside.configNetwork allProxy = .ok ()
  | _ => True

/-- The event loop reads while there is a message, the waiting tasks take turns
while there is one, and pRuntime goes on answering the health loop. -/
structure Fair {process : WorkerProcess} (run : Behavior (step process)) : Prop where
  eventLoop : ∀ n, (run.state n).queue ≠ [] →
    ∃ m, n ≤ m ∧ ∃ outside, run.action m = .handled outside
  waiters : ∀ n, (run.state n).waiters ≠ [] →
    ∃ m, n ≤ m ∧ ∃ index, run.action m = .waiterTurn index
  health : ∃ᶠ n in atTop, ∃ info, run.action n = .pruntimeAnswered info

/-! ### The queue of a run -/

/-- The messages that tasks other than the event loop queue. -/
inductive Arrives : Action → WorkerRuntimeChannelMessage → Prop where
  | info (info : PhactoryInfo) : Arrives (.pruntimeAnswered info) (.shouldUpdateInfo info)
  | pruntime (error : String) : Arrives (.pruntimeFailed error) (.shouldSetPRuntimeFailed error)
  | broker (error : String) :
      Arrives (.keepaliveAnswered (.error error)) (.shouldSetBrokerFailed error)
  | lock (index : Nat) (peer : BrokerPeer) : Arrives (.waiterTurn index) (.shouldLockBroker peer)

variable {process : WorkerProcess} {state next : WorkerState} {action : Action}

/-- A task other than the event loop leaves the runtime, and queues what arrives. -/
theorem step_arrives (taken : step process state action = some next)
    (noTurn : ∀ outside, action ≠ .handled outside) :
    ∃ sent, next.queue = state.queue ++ sent ∧ ∀ message ∈ sent, Arrives action message := by
  cases step_outcome taken with
  | pruntimeAnswered info =>
      exact ⟨_, rfl, fun _ member => List.mem_singleton.mp member ▸ .info info⟩
  | pruntimeFailed error =>
      exact ⟨_, rfl, fun _ member => List.mem_singleton.mp member ▸ .pruntime error⟩
  | keepaliveRefused url body sending error =>
      exact ⟨_, rfl, fun _ member => List.mem_singleton.mp member ▸ .broker error⟩
  | waiterLocks index loopNum live peer peers turn =>
      exact ⟨_, rfl, fun _ member => List.mem_singleton.mp member ▸ .lock index peer⟩
  | handled outside => exact absurd rfl (noTurn outside)
  | _ => exact ⟨[], (List.append_nil _).symm, nofun⟩

/-- The event loop takes its turn. -/
def Serves (run : Behavior (step process)) (n : Nat) : Prop :=
  ∃ outside, run.action n = .handled outside

variable {run : Behavior (step process)}

theorem served_cases {n : Nat} (serves : Serves run n) :
    ∃ outside message rest handled, run.action n = .handled outside ∧
      (run.state n).queue = message :: rest ∧
      handleRuntimeEvent process outside (run.state n).runtime message = .ok handled ∧
      (run.state (n + 1)).runtime = handled.runtime ∧
      (run.state (n + 1)).queue = rest ++ handled.sent := by
  obtain ⟨outside, isTurn⟩ := serves
  have taken := run.taken n
  rw [isTurn] at taken
  obtain ⟨message, rest, handled, head, returned, left⟩ := handle_eq_some taken
  refine ⟨outside, message, rest, handled, isTurn, head, returned, ?_, ?_⟩ <;> rw [left]

theorem Fair.fifo (fair : Fair run) : Fifo (fun n => (run.state n).queue) (Serves run) where
  grows := by
    intro n idle
    obtain ⟨sent, grown, _⟩ := step_arrives (run.taken n) (fun outside same => idle ⟨outside, same⟩)
    exact ⟨sent, grown.symm⟩
  advances := by
    intro n serves
    obtain ⟨_, message, rest, handled, _, head, _, _, grown⟩ := served_cases serves
    refine ⟨handled.sent, ?_⟩
    simp only [head, grown, List.tail_cons]
  recurs := fair.eventLoop

theorem Fair.served (fair : Fair run) {n : Nat} {message : WorkerRuntimeChannelMessage}
    (queued : message ∈ (run.state n).queue) :
    ∃ m, n ≤ m ∧ Serves run m ∧ ∃ rest, (run.state m).queue = message :: rest :=
  fair.fifo.served queued

/-- What the queue weighs. -/
def WorkerState.weight (worth : WorkerRuntimeChannelMessage → Nat) (state : WorkerState) : Nat :=
  (state.queue.map worth).sum

/-- What a turn sends is worth less than what it handles, if that is worth
anything. -/
def WearsOff (worth : WorkerRuntimeChannelMessage → Nat) (run : Behavior (step process)) (n : Nat) :
    Prop :=
  ∀ outside message rest handled, run.action n = .handled outside →
    (run.state n).queue = message :: rest →
    handleRuntimeEvent process outside (run.state n).runtime message = .ok handled →
    (handled.sent.map worth).sum + min (worth message) 1 ≤ worth message

theorem weight_falls {worth : WorkerRuntimeChannelMessage → Nat} {n : Nat}
    (arriving : ∀ message, Arrives (run.action n) message → worth message = 0)
    (wearsOff : WearsOff worth run n) :
    (run.state (n + 1)).weight worth ≤ (run.state n).weight worth ∧
      ∀ message rest, Serves run n → (run.state n).queue = message :: rest → worth message ≠ 0 →
        (run.state (n + 1)).weight worth < (run.state n).weight worth := by
  by_cases serves : Serves run n
  · obtain ⟨outside, message, rest, handled, isTurn, head, returned, _, grown⟩ :=
      served_cases serves
    have paid := wearsOff outside message rest handled isTurn head returned
    simp only [WorkerState.weight, head, grown, List.map_append, List.sum_append, List.map_cons,
      List.sum_cons]
    refine ⟨by omega, ?_⟩
    intro other behind _ same worthy
    cases same
    omega
  · obtain ⟨sent, grown, arrived⟩ :=
      step_arrives (run.taken n) (fun outside same => serves ⟨outside, same⟩)
    have nothing : (sent.map worth).sum = 0 := by
      rw [List.sum_eq_zero_iff_forall_eq_nat]
      intro value member
      obtain ⟨message, queued, rfl⟩ := List.mem_map.mp member
      exact arriving message (arrived message queued)
    simp only [WorkerState.weight, grown, List.map_append, List.sum_append, nothing]
    exact ⟨Nat.le_refl _, fun _ _ served => absurd served serves⟩

/-- A kind of message that no longer arrives, and wears off when handled, is used
up. -/
theorem Fair.drains (fair : Fair run) {worth : WorkerRuntimeChannelMessage → Nat}
    (arriving : ∀ᶠ n in atTop, ∀ message, Arrives (run.action n) message → worth message = 0)
    (wearsOff : ∀ᶠ n in atTop, WearsOff worth run n) :
    ∀ᶠ n in atTop, ∀ message ∈ (run.state n).queue, worth message = 0 := by
  have falls := (arriving.and wearsOff).mono fun n both => weight_falls both.1 both.2
  obtain ⟨start, falling⟩ := eventually_atTop.mp falls
  have used : ∀ᶠ n in atTop, (run.state n).weight worth = 0 := by
    refine zero_of_falling (falls.mono fun n fall => fall.1) (eventually_atTop.mpr ⟨start, ?_⟩)
    intro n late weighs
    obtain ⟨message, queued, worthy⟩ : ∃ message ∈ (run.state n).queue, worth message ≠ 0 := by
      by_contra none
      apply weighs
      unfold WorkerState.weight
      rw [List.sum_eq_zero_iff_forall_eq_nat]
      intro value member
      obtain ⟨message, queued, rfl⟩ := List.mem_map.mp member
      by_contra worthy
      exact none ⟨message, queued, worthy⟩
    obtain ⟨m, later, serves, rest, head⟩ := fair.served queued
    exact ⟨m, later, (falling m (Nat.le_trans late later)).2 message rest serves head worthy⟩
  refine used.mono ?_
  intro n zero message queued
  exact List.sum_eq_zero_iff_forall_eq_nat.mp zero _ (List.mem_map_of_mem queued)

/-! ### Failures -/

/-- The failures that a message leads to by itself. -/
def failuresAhead (process : WorkerProcess) : WorkerRuntimeChannelMessage → Nat
  | .shouldUpdateInfo info => if Serviceable process info then 0 else 3
  | .shouldSetPRuntimeFailed _ => 2
  | .shouldSetBrokerFailed _ => 2
  | .shouldUpdateStatus (.failed _) => 1
  | _ => 0

theorem failuresAhead_arriving (cooperates : Cooperates process action)
    {message : WorkerRuntimeChannelMessage} (arrives : Arrives action message) :
    failuresAhead process message = 0 := by
  cases arrives with
  | info info => exact if_pos cooperates
  | pruntime error => exact absurd cooperates id
  | broker error => cases cooperates
  | lock index peer => rfl

/-- An info that nothing stands in the way of is admitted. -/
theorem admitted_of_cooperates {outside : Outside} {wr : WorkerRuntime} {info : PhactoryInfo}
    {handled : Handled} (cooperates : Cooperates process (.handled outside))
    (serviceable : Serviceable process info) (starting : wr.status = .starting)
    (returned : wr.handleUpdateInfo process outside info = .ok handled) :
    handled.sent = [.shouldUpdateStatus .waitingForBroker] := by
  obtain ⟨supported, initialized, keyed⟩ := serviceable
  obtain ⟨⟨config, rpcPort, answered, port⟩, _⟩ := cooperates
  obtain ⟨hostname, _, outcome⟩ := handleUpdateInfo_starting starting returned
  cases outcome with
  | unsupported unsupported =>
      rw [supported] at unsupported
      cases unsupported
  | uninitialized _ uninitialized =>
      rw [initialized] at uninitialized
      cases uninitialized
  | unconfigured _ _ error failed =>
      rw [answered] at failed
      cases failed
  | portless _ _ other answeredToo portless =>
      rw [answered] at answeredToo
      cases answeredToo
      rw [port] at portless
      cases portless
  | keyless _ _ other _ otherPort _ keyless =>
      rw [keyless] at keyed
      cases keyed
  | admitted => rfl

/-- A provisioning that nothing stands in the way of starts the worker. -/
theorem provisioned_of_cooperates {outside : Outside} {wr : WorkerRuntime} {handled : Handled}
    (cooperates : Cooperates process (.handled outside))
    (returned : wr.handleUpdateStatus outside .pendingProvision = .ok handled) :
    handled.sent = [.shouldUpdateStatus .started] := by
  unfold WorkerRuntime.handleUpdateStatus at returned
  simp only at returned
  split at returned
  · cases returned
  · obtain ⟨peer, _, returned⟩ := bind_eq_ok.mp returned
    obtain ⟨result, configured, returned⟩ := bind_eq_ok.mp returned
    obtain ⟨allProxy, _, ⟨_, rfl⟩ | ⟨error, refused, _⟩⟩ :=
      setPruntimeNetworkWithPeer_cases configured
    · cases returned
      rfl
    · rw [cooperates.2 allProxy] at refused
      cases refused

theorem failuresAhead_wearsOff {n : Nat} (cooperates : Cooperates process (run.action n)) :
    WearsOff (failuresAhead process) run n := by
  intro outside message rest handled isTurn head returned
  rw [isTurn] at cooperates
  have reply := handleRuntimeEvent_reply returned
  obtain ⟨runtime, sent, spawned⟩ := handled
  generalize status : (run.state n).runtime.status = before at reply
  generalize runtime.status = after at reply
  cases reply with
  | failureNoted reported reason => cases reported <;> simp [failuresAhead]
  | failureKnown reported reason => cases reported <;> simp [failuresAhead]
  | infoRefused info msg =>
      by_cases serviceable : Serviceable process info
      · cases admitted_of_cooperates cooperates serviceable status returned
      · simp [failuresAhead, serviceable]
  | infoAccepted info | infoRecovers info | infoRecorded info =>
      by_cases serviceable : Serviceable process info <;> simp [failuresAhead, serviceable]
  | provisionFails msg => cases provisioned_of_cooperates cooperates returned
  | resets | waits | provisions | starts | fails | locks => simp [failuresAhead]

/-- What holds from the moment on at which the failures of the past are used up. -/
structure Undisturbed (run : Behavior (step process)) (n : Nat) : Prop where
  cooperates : Cooperates process (run.action n)
  noFailure : ∀ message ∈ (run.state n).queue, failuresAhead process message = 0

theorem Fair.undisturbed (fair : Fair run)
    (cooperative : ∀ᶠ n in atTop, Cooperates process (run.action n)) :
    ∀ᶠ n in atTop, Undisturbed run n := by
  have drained : ∀ᶠ n in atTop, ∀ message ∈ (run.state n).queue,
      failuresAhead process message = 0 := by
    refine @Fair.drains process run fair (failuresAhead process) ?_ ?_
    · exact cooperative.mono fun n cooperates _ arrives => failuresAhead_arriving cooperates arrives
    · exact cooperative.mono fun n cooperates => failuresAhead_wearsOff cooperates
  exact (cooperative.and drained).mono fun n both => ⟨both.1, both.2⟩

/-! ### What can change the status -/

/-- Between two moments the status stays, or the update at the head is written. -/
theorem status_cases (run : Behavior (step process)) (n : Nat) :
    (run.state (n + 1)).runtime.status = (run.state n).runtime.status ∨
      .shouldUpdateStatus (run.state (n + 1)).runtime.status ∈ (run.state n).queue := by
  by_cases serves : Serves run n
  · obtain ⟨outside, message, rest, handled, _, head, returned, runtime, _⟩ := served_cases serves
    rw [runtime, head]
    have reply := handleRuntimeEvent_reply returned
    generalize (run.state n).runtime.status = before at reply ⊢
    generalize handled.runtime.status = after at reply ⊢
    generalize handled.sent = sent at reply
    generalize handled.spawned = spawned at reply
    cases reply with
    | failureNoted | failureKnown | infoRefused | infoAccepted | infoRecovers | infoRecorded
    | locks => exact Or.inl rfl
    | resets | waits | provisions | provisionFails | starts | fails =>
        exact Or.inr List.mem_cons_self
  · left
    rw [step_keeps_runtime (run.taken n) (fun outside same => serves ⟨outside, same⟩)]

theorem Fair.updates (fair : Fair run) {n : Nat} {status : WorkerRuntimeStatus}
    (queued : .shouldUpdateStatus status ∈ (run.state n).queue) :
    ∃ m, n ≤ m ∧ (run.state (m + 1)).runtime.status = status := by
  obtain ⟨m, later, serves, rest, head⟩ := fair.served queued
  obtain ⟨outside, message, _, handled, _, front, returned, runtime, _⟩ := served_cases serves
  rw [head] at front
  cases front
  refine ⟨m, later, ?_⟩
  rw [runtime]
  cases handleUpdateStatus_outcome returned <;> rfl

theorem Fair.infoServed (fair : Fair run) (start : Nat) :
    ∃ n info rest, start ≤ n ∧ Serves run n ∧
      (run.state n).queue = .shouldUpdateInfo info :: rest := by
  obtain ⟨n, late, info, answered⟩ := frequently_atTop.mp fair.health start
  have taken := run.taken n
  rw [answered] at taken
  have queued : .shouldUpdateInfo info ∈ (run.state (n + 1)).queue := by
    rw [← Option.some.inj taken]
    exact List.mem_append_right _ List.mem_cons_self
  obtain ⟨m, later, serves, rest, head⟩ := fair.served queued
  exact ⟨m, info, rest, by omega, serves, head⟩

/-- The event loop sends the message in this turn. -/
def Sends (run : Behavior (step process)) (n : Nat) (message : WorkerRuntimeChannelMessage) :
    Prop :=
  ∃ outside head rest handled, run.action n = .handled outside ∧
    (run.state n).queue = head :: rest ∧
    handleRuntimeEvent process outside (run.state n).runtime head = .ok handled ∧
    message ∈ handled.sent

theorem Sends.reply {n : Nat} {message : WorkerRuntimeChannelMessage}
    (sends : Sends run n message) :
    ∃ head after sent spawned, Reply (run.state n).runtime.status head after sent spawned ∧
      message ∈ sent := by
  obtain ⟨outside, head, rest, handled, _, _, returned, member⟩ := sends
  exact ⟨head, _, _, _, handleRuntimeEvent_reply returned, member⟩

theorem Fair.usedUp (fair : Fair run) {status : WorkerRuntimeStatus}
    (unsent : ∀ᶠ n in atTop, ¬ Sends run n (.shouldUpdateStatus status)) :
    ∀ᶠ n in atTop, .shouldUpdateStatus status ∉ (run.state n).queue := by
  have drained := @Fair.drains process run fair
    (fun message => if message = .shouldUpdateStatus status then 1 else 0) ?_ ?_
  · refine drained.mono ?_
    intro n none queued
    have impossible := none _ queued
    rw [if_pos rfl] at impossible
    cases impossible
  · refine Eventually.of_forall ?_
    intro n message arrives
    refine if_neg ?_
    rintro rfl
    generalize run.action n = action at arrives
    cases arrives
  · refine unsent.mono ?_
    intro n silent outside message rest handled isTurn head returned
    have nothing : (handled.sent.map fun message =>
        if message = .shouldUpdateStatus status then 1 else 0).sum = 0 := by
      rw [List.sum_eq_zero_iff_forall_eq_nat]
      intro value member
      obtain ⟨sent, isSent, rfl⟩ := List.mem_map.mp member
      refine if_neg ?_
      rintro rfl
      exact silent ⟨outside, message, rest, handled, isTurn, head, returned, isSent⟩
    rw [nothing, Nat.zero_add]
    exact Nat.min_le_left _ _

/-! ### The failures end -/

theorem Fair.notFailed (fair : Fair run) (undisturbed : ∀ᶠ n in atTop, Undisturbed run n) :
    ∀ᶠ n in atTop, ∀ reason, (run.state n).runtime.status ≠ .failed reason := by
  refine settled_of_stable (undisturbed.mono ?_) (recurs_of_refuted ?_)
  · intro n undisturbed running reason failed
    rcases status_cases run n with same | queued
    · exact running reason (same.symm.trans failed)
    · rw [failed] at queued
      cases undisturbed.noFailure _ queued
  · intro start failing
    -- an info handled while failed queues the reset
    obtain ⟨n, info, rest, late, serves, head⟩ := fair.infoServed start
    have failed : ∃ reason, (run.state n).runtime.status = .failed reason := by
      by_contra running
      exact failing n late fun reason failed => running ⟨reason, failed⟩
    obtain ⟨reason, failed⟩ := failed
    obtain ⟨outside, message, behind, handled, _, front, returned, _, grown⟩ := served_cases serves
    rw [head] at front
    cases front
    have later : (run.state n).runtime.status ≠ .starting := by
      rw [failed]
      exact nofun
    change (run.state n).runtime.handleUpdateInfo process outside info = _ at returned
    rw [handleUpdateInfo_later later] at returned
    cases returned
    have queued : .shouldUpdateStatus .starting ∈ (run.state (n + 1)).queue := by
      rw [grown]
      unfold WorkerRuntime.recoverFromFailure
      simp [failed]
    obtain ⟨m, after, reset⟩ := fair.updates queued
    refine failing (m + 1) (by omega) ?_
    intro reason failed
    rw [reset] at failed
    cases failed

theorem Fair.noReset (fair : Fair run) (undisturbed : ∀ᶠ n in atTop, Undisturbed run n) :
    ∀ᶠ n in atTop, .shouldUpdateStatus .starting ∉ (run.state n).queue := by
  refine fair.usedUp ((fair.notFailed undisturbed).mono ?_)
  intro n running sends
  obtain ⟨head, after, sent, spawned, reply, member⟩ := sends.reply
  generalize status : (run.state n).runtime.status = before at reply
  cases reply with
  | infoRecovers info reason => exact running reason status
  | failureNoted | failureKnown | infoRefused | infoAccepted | infoRecorded | resets | waits
  | provisions | provisionFails | starts | fails | locks => simp at member

theorem Fair.notStarting (fair : Fair run) (undisturbed : ∀ᶠ n in atTop, Undisturbed run n) :
    ∀ᶠ n in atTop, (run.state n).runtime.status ≠ .starting := by
  refine settled_of_stable ((fair.noReset undisturbed).mono ?_) (recurs_of_refuted ?_)
  · intro n noReset moved starting
    rcases status_cases run n with same | queued
    · exact moved (same.symm.trans starting)
    · rw [starting] at queued
      exact noReset queued
  · intro start idle
    obtain ⟨quiet, undisturbed⟩ := eventually_atTop.mp undisturbed
    -- an info handled while starting is admitted
    obtain ⟨n, info, rest, late, serves, head⟩ := fair.infoServed (max start quiet)
    have starting : (run.state n).runtime.status = .starting :=
      not_not.mp (idle n (Nat.le_trans (Nat.le_max_left _ _) late))
    have settled := undisturbed n (Nat.le_trans (Nat.le_max_right _ _) late)
    have serviceable : Serviceable process info := by
      have harmless := settled.noFailure (.shouldUpdateInfo info) (by rw [head]; simp)
      by_contra refused
      simp [failuresAhead, refused] at harmless
    obtain ⟨outside, message, behind, handled, isTurn, front, returned, _, grown⟩ :=
      served_cases serves
    rw [head] at front
    cases front
    have cooperates := settled.cooperates
    rw [isTurn] at cooperates
    have queued : .shouldUpdateStatus .waitingForBroker ∈ (run.state (n + 1)).queue := by
      rw [grown, admitted_of_cooperates cooperates serviceable starting returned]
      simp
    obtain ⟨m, after, waiting⟩ := fair.updates queued
    have impossible := not_not.mp (idle (m + 1) (by omega))
    rw [waiting] at impossible
    cases impossible

theorem Fair.noAdmission (fair : Fair run) (undisturbed : ∀ᶠ n in atTop, Undisturbed run n) :
    ∀ᶠ n in atTop, .shouldUpdateStatus .waitingForBroker ∉ (run.state n).queue := by
  refine fair.usedUp ((fair.notStarting undisturbed).mono ?_)
  intro n moved sends
  obtain ⟨head, after, sent, spawned, reply, member⟩ := sends.reply
  generalize status : (run.state n).runtime.status = before at reply
  cases reply with
  | infoAccepted info => exact moved status
  | failureNoted | failureKnown | infoRefused | infoRecovers | infoRecorded | resets | waits
  | provisions | provisionFails | starts | fails | locks => simp at member

/-! ### The waiting tasks end -/

theorem sum_eraseIdx {worth : UInt8 → Nat} {waiters : List UInt8} {index : Nat} {loopNum : UInt8}
    (live : waiters[index]? = some loopNum) :
    ((waiters.eraseIdx index).map worth).sum + worth loopNum = (waiters.map worth).sum := by
  induction waiters generalizing index with
  | nil => cases live
  | cons first rest ih =>
      cases index with
      | zero =>
          cases live
          simp only [List.eraseIdx_cons_zero, List.map_cons, List.sum_cons]
          omega
      | succ index =>
          have later := ih live
          simp only [List.eraseIdx_cons_succ, List.map_cons, List.sum_cons]
          omega

theorem sum_set {worth : UInt8 → Nat} {waiters : List UInt8} {index : Nat} {loopNum : UInt8}
    (live : waiters[index]? = some loopNum) (count : UInt8) :
    ((waiters.set index count).map worth).sum + worth loopNum =
      (waiters.map worth).sum + worth count := by
  induction waiters generalizing index with
  | nil => cases live
  | cons first rest ih =>
      cases index with
      | zero =>
          cases live
          simp only [List.set_cons_zero, List.map_cons, List.sum_cons]
          omega
      | succ index =>
          have later := ih live
          simp only [List.set_cons_succ, List.map_cons, List.sum_cons]
          omega

/-- The turns to the lock of a task that finds a peer in each.  A full counter
starts again in the release build. -/
def turnsLeft (loopNum : UInt8) : Nat :=
  if loopNum = 255 then 6 else 5 - min loopNum.toNat 4

theorem turnsLeft_pos (loopNum : UInt8) : 0 < turnsLeft loopNum := by
  unfold turnsLeft
  split <;> omega

theorem turnsLeft_counted {profile : BuildProfile} {loopNum count : UInt8}
    (counted : u8AddOne profile loopNum = .ok count) (early : ¬ count ≥ 5) :
    turnsLeft count < turnsLeft loopNum := by
  by_cases full : loopNum = 255
  · subst full
    cases profile with
    | debug => cases counted
    | release =>
        cases counted
        decide
  · have notFull : loopNum.toNat ≠ 255 := fun same => full (UInt8.toNat_inj.mp same)
    have bound := loopNum.toNat_lt
    rw [u8AddOne_of_lt profile (by omega)] at counted
    cases counted
    have next : (loopNum + 1).toNat = loopNum.toNat + 1 := by
      rw [UInt8.toNat_add]
      exact Nat.mod_eq_of_lt (by change loopNum.toNat + 1 < 256; omega)
    have few : ¬ 5 ≤ (loopNum + 1).toNat := fun many => early (UInt8.le_iff_toNat_le.mpr many)
    have small : loopNum + 1 ≠ 255 := by
      intro same
      rw [same] at few
      exact few (by decide)
    unfold turnsLeft
    rw [if_neg full, if_neg small]
    omega

theorem selects_of_known {peers after : BrokerPeerManager} {selected : Option BrokerPeer}
    (keyed : Keyed BrokerPeer.instanceName peers.map)
    (known : ∃ (name : String) (peer : BrokerPeer), peers.map[name]? = some peer)
    (verified : peers.verifyBestInstance = .ok (selected, after)) :
    ∃ peer, selected = some peer := by
  obtain ⟨name, peer, stored⟩ := known
  have best := (verifyBestInstance_ok verified).1
  rcases getBestInstance_of_keyed keyed with ⟨empty, _⟩ | ⟨least, _, selects⟩
  · have member := (mem_values_iff peers.map peer).mpr ⟨name, stored⟩
    rw [empty] at member
    cases member
  · rw [best] at selects
    cases selects
    exact ⟨least, rfl⟩

theorem turnsLeft_falls {profile : BuildProfile} {status : WorkerRuntimeStatus}
    {peers after : BrokerPeerManager} {loopNum count : UInt8}
    (keyed : Keyed BrokerPeer.instanceName peers.map)
    (known : ∃ (name : String) (peer : BrokerPeer), peers.map[name]? = some peer)
    (turn : waitForBrokerPeer profile status peers loopNum = .ok (.waits count, after)) :
    turnsLeft count < turnsLeft loopNum := by
  cases status with
  | waitingForBroker =>
      obtain ⟨⟨selected, verifiedPeers⟩, verified, turn⟩ := bind_eq_ok.mp turn
      obtain ⟨peer, rfl⟩ := selects_of_known keyed known verified
      obtain ⟨next, counted, turn⟩ := bind_eq_ok.mp turn
      split at turn
      · cases turn
      · rename_i early
        cases turn
        exact turnsLeft_counted counted early
  | starting | pendingProvision | started | failed reason => cases turn

/-- The turns that the waiting tasks have left. -/
def WorkerState.turnsLeft (state : WorkerState) : Nat :=
  (state.waiters.map ServiceWorker.turnsLeft).sum

/-- With a broker known and no admission queued, the waiting tasks only get fewer
turns, and each turn takes one. -/
theorem step_turnsLeft (keyed : Keyed BrokerPeer.instanceName state.peers.map)
    (known : ∃ (name : String) (peer : BrokerPeer), state.peers.map[name]? = some peer)
    (noAdmission : .shouldUpdateStatus .waitingForBroker ∉ state.queue)
    (taken : step process state action = some next) :
    next.turnsLeft ≤ state.turnsLeft ∧
      ∀ index, action = .waiterTurn index → next.turnsLeft < state.turnsLeft := by
  cases step_outcome taken with
  | waiterLocks index loopNum live peer peers turn | waiterEnds index loopNum live peers turn =>
      have erased := @sum_eraseIdx ServiceWorker.turnsLeft _ _ _ live
      have some := turnsLeft_pos loopNum
      simp only [WorkerState.turnsLeft]
      exact ⟨by omega, fun _ _ => by omega⟩
  | waiterPanicked index loopNum live panic turn =>
      have erased := @sum_eraseIdx ServiceWorker.turnsLeft _ _ _ live
      simp only [WorkerState.turnsLeft]
      exact ⟨by omega, nofun⟩
  | waiterWaits index loopNum live count peers turn =>
      have set := @sum_set ServiceWorker.turnsLeft _ _ _ live count
      have fewer := turnsLeft_falls keyed known turn
      simp only [WorkerState.turnsLeft]
      exact ⟨by omega, fun _ _ => by omega⟩
  | handled outside message rest handled head returned =>
      have spawned : handled.spawned = 0 := by
        have reply := handleRuntimeEvent_reply returned
        generalize handled.spawned = spawned at reply ⊢
        generalize handled.runtime.status = after at reply
        generalize handled.sent = sent at reply
        generalize state.runtime.status = before at reply
        cases reply with
        | waits => exact absurd (by rw [head]; exact List.mem_cons_self) noAdmission
        | _ => rfl
      simp only [WorkerState.turnsLeft, spawned, List.replicate_zero, List.append_nil]
      exact ⟨Nat.le_refl _, nofun⟩
  | _ => exact ⟨Nat.le_refl _, nofun⟩

/-- Some broker has been announced and admitted. -/
def BrokerKnown (state : WorkerState) : Prop :=
  ∃ (name : String) (peer : BrokerPeer), state.peers.map[name]? = some peer

section Reached

variable {actions : List Action} (reached : workerRun process actions = some (run.state 0))

include reached

theorem keyed_of_reached (n : Nat) : Keyed BrokerPeer.instanceName (run.state n).peers.map := by
  rw [run_peers (run.reached reached n)]
  exact discovered_keyed process.atoi _

theorem Fair.noWaiters (fair : Fair run) (undisturbed : ∀ᶠ n in atTop, Undisturbed run n)
    (known : ∃ n, BrokerKnown (run.state n)) : ∀ᶠ n in atTop, (run.state n).waiters = [] := by
  have knownOn : ∀ᶠ n in atTop, BrokerKnown (run.state n) := by
    obtain ⟨first, known⟩ := known
    refine eventually_atTop.mpr ⟨first, ?_⟩
    intro n later
    induction n, later using Nat.le_induction with
    | base => exact known
    | succ n later ih =>
        obtain ⟨name, peer, stored⟩ := ih
        exact ⟨name, peer, step_keeps_entry (run.taken n) stored⟩
  have falls := (knownOn.and (fair.noAdmission undisturbed)).mono fun n both =>
    step_turnsLeft (keyed_of_reached reached n) both.1 both.2 (run.taken n)
  have used : ∀ᶠ n in atTop, (run.state n).turnsLeft = 0 := by
    obtain ⟨start, falling⟩ := eventually_atTop.mp falls
    refine zero_of_falling (falls.mono fun n fall => fall.1) (eventually_atTop.mpr ⟨start, ?_⟩)
    intro n late left
    have live : (run.state n).waiters ≠ [] := by
      intro none
      apply left
      rw [WorkerState.turnsLeft, none]
      rfl
    obtain ⟨m, later, index, isTurn⟩ := fair.waiters n live
    exact ⟨m, later, (falling m (Nat.le_trans late later)).2 index isTurn⟩
  refine used.mono ?_
  intro n zero
  rw [List.eq_nil_iff_forall_not_mem]
  intro loopNum member
  have none := List.sum_eq_zero_iff_forall_eq_nat.mp zero _ (List.mem_map_of_mem member)
  exact absurd none (Nat.ne_of_gt (turnsLeft_pos loopNum))

end Reached

/-! ### The locks end -/

/-- The updates that a message on the way to `Started` leads to, its own included. -/
def updatesAhead : WorkerRuntimeChannelMessage → Nat
  | .shouldLockBroker _ => 3
  | .shouldUpdateStatus .pendingProvision => 2
  | .shouldUpdateStatus .started => 1
  | _ => 0

theorem updatesAhead_wearsOff (n : Nat) : WearsOff updatesAhead run n := by
  intro outside message rest handled _ _ returned
  have reply := handleRuntimeEvent_reply returned
  generalize handled.spawned = spawned at reply
  generalize handled.runtime.status = after at reply
  generalize handled.sent = sent at reply ⊢
  generalize (run.state n).runtime.status = before at reply
  cases reply with
  | failureNoted | failureKnown | infoRefused | infoAccepted | infoRecovers | infoRecorded
  | resets | waits | provisions | provisionFails | starts | fails | locks => simp [updatesAhead]

theorem Fair.noUpdate (fair : Fair run)
    (noWaiters : ∀ᶠ n in atTop, (run.state n).waiters = []) :
    ∀ᶠ n in atTop, ∀ message ∈ (run.state n).queue, updatesAhead message = 0 := by
  refine fair.drains (noWaiters.mono ?_) (Eventually.of_forall updatesAhead_wearsOff)
  intro n none message arrives
  have taken := run.taken n
  generalize run.action n = action at arrives taken
  cases arrives with
  | info | pruntime | broker => rfl
  | lock index peer =>
      simp only [step, WorkerState.waiterTurn, none, List.getElem?_nil] at taken
      cases taken

/-- A run that lost no waiting task left the protocol driven. -/
theorem driven_of_run {actions : List Action} (reached : workerRun process actions = some state)
    (kept : ∀ index, .waiterPanicked index ∉ actions) : state.protocol.Driven := by
  refine @replay_holds WorkerState Action (step process)
    (fun taken current => (∀ index, .waiterPanicked index ∉ taken) → current.protocol.Driven)
    WorkerState.initial ?_ ?_ actions state reached kept
  · exact fun _ => ⟨nofun, nofun⟩
  · intro before current action next _ driven taken kept
    obtain ⟨label, moved, _, panicked⟩ := step_refines taken
    apply (driven fun index member => kept index (List.mem_append_left _ member)).step moved
    intro lost
    obtain ⟨index, rfl⟩ := panicked lost
    exact kept index (by simp)

/-- Where nothing is left that fails, resets, admits, waits or locks, the worker
is started. -/
theorem started_of_settled {n : Nat} (driven : (run.state n).protocol.Driven)
    (undisturbed : Undisturbed run n)
    (notFailed : ∀ reason, (run.state n).runtime.status ≠ .failed reason)
    (notStarting : (run.state n).runtime.status ≠ .starting)
    (noWaiters : (run.state n).waiters = [])
    (noUpdate : ∀ message ∈ (run.state n).queue, updatesAhead message = 0) :
    (run.state n).runtime.status = .started := by
  cases status : (run.state n).runtime.status with
  | starting => exact absurd status notStarting
  | waitingForBroker =>
      rcases driven.waiting status with live | ⟨message, queued, moves⟩
      · change 0 < (run.state n).waiters.length at live
        rw [noWaiters] at live
        cases live
      · have none := noUpdate message queued
        cases moves <;> cases none
  | pendingProvision =>
      obtain ⟨message, queued, moves⟩ := driven.provisioning status
      cases moves with
      | start => cases noUpdate _ queued
      | brokerFailed msg => cases undisturbed.noFailure _ queued
      | fail reason => cases undisturbed.noFailure _ queued
  | started => rfl
  | failed reason => exact absurd status (notFailed reason)

/-- What a run settles in. -/
structure Settled (state : WorkerState) : Prop where
  started : state.runtime.status = .started
  noWaiters : state.waiters = []
  onlyInfos : ∀ message ∈ state.queue, ∃ info, message = .shouldUpdateInfo info

theorem Settled.handled (settled : Settled state) {outside : Outside}
    (taken : state.handle process outside = some next) :
    ∃ info rest, state.queue = .shouldUpdateInfo info :: rest ∧
      next = { state with
        runtime := { state.runtime with lastInfo := some info }
        queue := rest } := by
  obtain ⟨message, rest, handled, head, returned, rfl⟩ := handle_eq_some taken
  obtain ⟨info, rfl⟩ := settled.onlyInfos message (by rw [head]; exact List.mem_cons_self)
  have later : state.runtime.status ≠ .starting := by
    rw [settled.started]
    exact nofun
  have recovers : state.runtime.recoverFromFailure = [] := by
    unfold WorkerRuntime.recoverFromFailure
    rw [settled.started]
  change state.runtime.handleUpdateInfo process outside info = .ok handled at returned
  rw [handleUpdateInfo_later later, recovers] at returned
  cases returned
  refine ⟨info, rest, head, ?_⟩
  simp only [List.append_nil, List.replicate_zero]

theorem Settled.step (settled : Settled state) (cooperates : Cooperates process action)
    (taken : step process state action = some next) : Settled next := by
  cases step_outcome taken with
  | pruntimeAnswered info =>
      refine ⟨settled.started, settled.noWaiters, ?_⟩
      intro message member
      rcases List.mem_append.mp member with before | last
      · exact settled.onlyInfos message before
      · exact ⟨info, List.mem_singleton.mp last⟩
  | pruntimeFailed => cases cooperates
  | keepaliveRefused => cases cooperates
  | waiterWaits index loopNum live | waiterEnds index loopNum live
  | waiterLocks index loopNum live | waiterPanicked index loopNum live =>
      rw [settled.noWaiters] at live
      cases live
  | handled outside =>
      obtain ⟨info, rest, head, left⟩ := settled.handled taken
      rw [left]
      refine ⟨settled.started, settled.noWaiters, ?_⟩
      intro message member
      exact settled.onlyInfos message (by rw [head]; exact List.mem_cons_of_mem _ member)
  | _ => exact ⟨settled.started, settled.noWaiters, settled.onlyInfos⟩

theorem Fair.settled {actions : List Action} (fair : Fair run)
    (reached : workerRun process actions = some (run.state 0))
    (kept : ∀ index, .waiterPanicked index ∉ actions)
    (keeps : ∀ n index, run.action n ≠ .waiterPanicked index)
    (cooperative : ∀ᶠ n in atTop, Cooperates process (run.action n))
    (known : ∃ n, BrokerKnown (run.state n)) : ∀ᶠ n in atTop, Settled (run.state n) := by
  have undisturbed := fair.undisturbed cooperative
  have noWaiters := fair.noWaiters reached undisturbed known
  filter_upwards [undisturbed, fair.notFailed undisturbed, fair.notStarting undisturbed,
    fair.noReset undisturbed, fair.noAdmission undisturbed, noWaiters, fair.noUpdate noWaiters]
    with n undisturbed notFailed notStarting noReset noAdmission noWaiters noUpdate
  have driven : (run.state n).protocol.Driven := by
    refine driven_of_run (run.reached reached n) ?_
    intro index member
    rcases List.mem_append.mp member with before | since
    · exact kept index before
    · obtain ⟨m, _, same⟩ := List.mem_map.mp since
      exact keeps m index same
  refine ⟨started_of_settled driven undisturbed notFailed notStarting noWaiters noUpdate,
    noWaiters, ?_⟩
  intro message queued
  cases message with
  | shouldUpdateInfo info => exact ⟨info, rfl⟩
  | shouldSetPRuntimeFailed msg => cases undisturbed.noFailure _ queued
  | shouldSetBrokerFailed msg => cases undisturbed.noFailure _ queued
  | shouldLockBroker peer => cases noUpdate _ queued
  | shouldUpdateStatus status =>
      cases status with
      | starting => exact absurd queued noReset
      | waitingForBroker => exact absurd queued noAdmission
      | pendingProvision => cases noUpdate _ queued
      | started => cases noUpdate _ queued
      | failed reason => cases undisturbed.noFailure _ queued

/-- In every run without end that loses no waiting task, in which every task
keeps moving, some broker is admitted and pRuntime and the broker put nothing in
the way from some moment on, the worker is started from some moment on, with no
waiting task left and nothing but infos to handle. -/
theorem worker_started_for_good (process : WorkerProcess) {actions : List Action}
    (run : Behavior (step process)) (reached : workerRun process actions = some (run.state 0))
    (kept : ∀ index, .waiterPanicked index ∉ actions)
    (keeps : ∀ n index, run.action n ≠ .waiterPanicked index) (fair : Fair run)
    (cooperative : ∀ᶠ n in atTop, Cooperates process (run.action n))
    (known : ∃ n, BrokerKnown (run.state n)) :
    ∀ᶠ n in atTop, (run.state n).runtime.status = .started ∧ (run.state n).waiters = [] ∧
      ∀ message ∈ (run.state n).queue, ∃ info, message = .shouldUpdateInfo info := by
  refine (fair.settled reached kept keeps cooperative known).mono ?_
  intro n settled
  exact ⟨settled.started, settled.noWaiters, settled.onlyInfos⟩

/-! ### A run without end -/

/-- The worker once it is started, and while the next info is queued. -/
def exampleIdle : WorkerState :=
  (workerRun exampleProcess exampleStarted).getD WorkerState.initial

def exampleAnswered : WorkerState :=
  exampleIdle.enqueue (.shouldUpdateInfo (exampleInfo "0a"))

/-- The worker with an info admitted and a broker known. -/
def exampleWaiting : WorkerState :=
  (workerRun exampleProcess (exampleStarted.take 4)).getD WorkerState.initial

/-- pRuntime answers the health loop and the info is recorded, for ever. -/
def exampleHealth : Behavior (step exampleProcess) :=
  @Behavior.alternate _ _ _ exampleIdle exampleAnswered (.pruntimeAnswered (exampleInfo "0a"))
    (.handled exampleOutside) rfl rfl

/-- The waiting ends in a lock and the start of the worker, and then it idles. -/
def exampleForever : Behavior (step exampleProcess) :=
  @Behavior.after _ _ _ exampleHealth exampleWaiting (exampleStarted.drop 4) rfl

theorem exampleForever_action (n : Nat) :
    exampleForever.action (8 + n) = exampleHealth.action n :=
  exampleHealth.after_action rfl n

theorem exampleForever_state (n : Nat) :
    exampleForever.state (8 + n) = exampleHealth.state n :=
  exampleHealth.after_state rfl n

theorem exampleHealth_cases (n : Nat) :
    (exampleHealth.action n = .pruntimeAnswered (exampleInfo "0a") ∨
      exampleHealth.action n = .handled exampleOutside) ∧ (exampleHealth.state n).waiters = [] := by
  rcases Nat.mod_two_eq_zero_or_one n with even | odd
  · simp only [exampleHealth, Behavior.alternate, even, if_true, true_or, true_and]
    rfl
  · simp only [exampleHealth, Behavior.alternate, odd, Nat.one_ne_zero, if_false, or_true, true_and]
    rfl

theorem exampleForever_fair : Fair exampleForever where
  eventLoop := by
    intro n _
    refine ⟨8 + (2 * n + 1), by omega, exampleOutside, ?_⟩
    have odd : (2 * n + 1) % 2 ≠ 0 := by omega
    rw [exampleForever_action]
    exact if_neg odd
  waiters := by
    intro n live
    by_cases early : n < 5
    · exact ⟨4, by omega, 0, rfl⟩
    · exfalso
      apply live
      by_cases late : n < 8
      · obtain rfl | rfl | rfl : n = 5 ∨ n = 6 ∨ n = 7 := by omega
        · rfl
        · rfl
        · rfl
      · obtain ⟨k, rfl⟩ := Nat.exists_eq_add_of_le (Nat.le_of_not_lt late)
        rw [exampleForever_state]
        exact (exampleHealth_cases k).2
  health := by
    refine frequently_atTop.mpr ?_
    intro n
    refine ⟨8 + 2 * n, by omega, exampleInfo "0a", ?_⟩
    have even : 2 * n % 2 = 0 := by omega
    rw [exampleForever_action]
    exact if_pos even

theorem exampleForever_started :
    ∀ᶠ n in atTop, (exampleForever.state n).runtime.status = .started ∧
      (exampleForever.state n).waiters = [] ∧
      ∀ message ∈ (exampleForever.state n).queue, ∃ info, message = .shouldUpdateInfo info := by
  refine @worker_started_for_good exampleProcess (exampleStarted.take 4) exampleForever rfl ?_ ?_
    exampleForever_fair ?_ ?_
  · intro index member
    simp [exampleStarted, exampleLocking] at member
  · intro n index panics
    by_cases early : n < 8
    · have known : exampleForever.action n = .waiterTurn 0 ∨
          exampleForever.action n = .handled exampleOutside := by
        obtain rfl | rfl | rfl | rfl | rfl | rfl | rfl | rfl :
          n = 0 ∨ n = 1 ∨ n = 2 ∨ n = 3 ∨ n = 4 ∨ n = 5 ∨ n = 6 ∨ n = 7 := by omega
        iterate 5 exact Or.inl rfl
        iterate 3 exact Or.inr rfl
      rcases known with turn | handled
      · rw [turn] at panics
        cases panics
      · rw [handled] at panics
        cases panics
    · obtain ⟨k, rfl⟩ := Nat.exists_eq_add_of_le (Nat.le_of_not_lt early)
      rw [exampleForever_action] at panics
      rcases (exampleHealth_cases k).1 with answered | handled
      · rw [answered] at panics
        cases panics
      · rw [handled] at panics
        cases panics
  · refine eventually_atTop.mpr ⟨8, ?_⟩
    intro n late
    obtain ⟨k, rfl⟩ := Nat.exists_eq_add_of_le late
    rw [exampleForever_action]
    rcases (exampleHealth_cases k).1 with answered | handled
    · rw [answered]
      exact ⟨rfl, rfl, rfl⟩
    · rw [handled]
      exact ⟨⟨_, _, rfl, rfl⟩, fun _ => rfl⟩
  · exact ⟨0, "broker", _, rfl⟩

end ServiceNetwork.ServiceWorker
