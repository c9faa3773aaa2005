/-
A worker that is left alone is served through its broker again and again.

In a run of a deployment without end, the steps of one worker make up a run of
its own, and that one settles in `Started`.  From then on its keepalives carry
one body to one URL, each attempt that ends well was received by a broker under
that URL, and when the broker's manager gets to it, queries for the key are sent
on.  Nothing is assumed of the network but that an attempt ends and, from some
moment on, does not fail.
-/

import ServiceNetwork.Library.Party
import ServiceNetwork.Pipeline.KeepaliveDelivery
import ServiceNetwork.ServiceBroker.QueryForwarder
import ServiceNetwork.ServiceWorker.Liveness

namespace ServiceNetwork.Pipeline

open Filter
open ServiceNetwork.Heartbeat
open ServiceNetwork.Peer
open ServiceNetwork.Replay
open ServiceNetwork.ServiceBroker
open ServiceNetwork.ServiceWorker

variable {deployment : Deployment} {run : Behavior (deploymentStep deployment)} {index : Nat}

/-! ### One worker in a run without end -/

/-- What the worker does at a moment of the run. -/
def workerActs (run : Behavior (deploymentStep deployment)) (index n : Nat) : Option Action :=
  (workerStep deployment index (run.state n) (run.action n)).head?

/-- The worker's tasks keep moving: the event loop and the waiting tasks while
there is something to do, the loop that asks pRuntime, and the keepalive loop,
whose attempts end. -/
structure Attended (run : Behavior (deploymentStep deployment)) (index : Nat) : Prop where
  eventLoop : ∀ n, ((run.state n).workers index).queue ≠ [] →
    ∃ m, n ≤ m ∧ ∃ outside, workerActs run index m = some (.handled outside)
  waiters : ∀ n, ((run.state n).workers index).waiters ≠ [] →
    ∃ m, n ≤ m ∧ ∃ waiter, workerActs run index m = some (.waiterTurn waiter)
  health : ∃ᶠ n in atTop, ∃ info, workerActs run index n = some (.pruntimeAnswered info)
  checks : ∀ n, ((run.state n).workers index).keepalive = .idle →
    ∃ m, n ≤ m ∧ workerActs run index m = some .keepaliveChecked
  reads : ∀ n, ((run.state n).workers index).keepalive = .checked →
    ∃ m, n ≤ m ∧ workerActs run index m = some .keepaliveRead
  ends : ∀ n url body, ((run.state n).workers index).keepalive = .sending url body →
    ∃ m, n ≤ m ∧ ∃ outcome, workerActs run index m = some (.keepaliveAnswered outcome)

theorem workerStep_cases (index : Nat) (state : DeploymentState) (event : Event) :
    workerStep deployment index state event = [] ∨
      ∃ action, workerStep deployment index state event = [action] := by
  unfold workerStep
  split
  · split
    · exact Or.inr ⟨_, rfl⟩
    · exact Or.inl rfl
  · split
    · exact Or.inl rfl
    · split
      · exact Or.inr ⟨_, rfl⟩
      · exact Or.inl rfl
  · exact Or.inl rfl

theorem workerActs_idles {n : Nat} (idle : workerActs run index n = none) :
    (run.state (n + 1)).workers index = (run.state n).workers index := by
  have moved := workerStep_simulates index (run.taken n)
  rcases @workerStep_cases deployment index (run.state n) (run.action n) with none | ⟨action, one⟩
  · rw [none, replay_nil] at moved
    exact (Option.some.inj moved).symm
  · rw [workerActs, one] at idle
    cases idle

theorem workerActs_taken {n : Nat} {action : Action} (acts : workerActs run index n = some action) :
    step (deployment.workers index) ((run.state n).workers index) action =
      some ((run.state (n + 1)).workers index) := by
  have moved := workerStep_simulates index (run.taken n)
  rcases @workerStep_cases deployment index (run.state n) (run.action n) with none | ⟨other, one⟩
  · rw [workerActs, none] at acts
    cases acts
  · rw [workerActs, one] at acts
    cases acts
    rw [one, replay_cons] at moved
    obtain ⟨next, stepped, rest⟩ := Option.bind_eq_some_iff.mp moved
    cases rest
    exact stepped

/-- The worker as a party of the run. -/
def Attended.party (attended : Attended run index) :
    Party run (step (deployment.workers index)) where
  view state := state.workers index
  own := workerActs run index
  idles := fun _ idle => workerActs_idles idle
  acts := fun _ _ acts => workerActs_taken acts
  recurs := attended.health.mono fun _ ⟨_, acts⟩ => by rw [acts]; rfl

theorem Attended.fair (attended : Attended run index) : Fair attended.party.behavior where
  eventLoop := by
    intro turn queued
    obtain ⟨m, later, outside, acts⟩ := attended.eventLoop _ queued
    obtain ⟨k, after, same⟩ := attended.party.later_action later acts
    exact ⟨k, after, outside, same⟩
  waiters := by
    intro turn waiting
    obtain ⟨m, later, waiter, acts⟩ := attended.waiters _ waiting
    obtain ⟨k, after, same⟩ := attended.party.later_action later acts
    exact ⟨k, after, waiter, same⟩
  health := by
    refine frequently_atTop.mpr ?_
    intro turn
    obtain ⟨m, later, info, acts⟩ :=
      frequently_atTop.mp attended.health (attended.party.moment turn)
    obtain ⟨k, after, same⟩ := attended.party.later_action later acts
    exact ⟨k, after, info, same⟩

/-- What is asked of the run beside the progress of the worker's tasks: it loses
none of its waiting tasks, some broker is known to it in the end, and from some
moment on nothing is put in its way. -/
structure LeftAlone (deployment : Deployment) (events : List Event)
    (run : Behavior (deploymentStep deployment)) (index : Nat) : Prop where
  kept : ∀ waiter, .waiterPanicked waiter ∉ workerActions deployment index events
  keeps : ∀ n waiter, workerActs run index n ≠ some (.waiterPanicked waiter)
  cooperative : ∀ᶠ n in atTop, ∀ action, workerActs run index n = some action →
    Cooperates (deployment.workers index) action
  known : ∃ n, BrokerKnown ((run.state n).workers index)

variable {events : List Event}

theorem Attended.settles (attended : Attended run index)
    (alone : LeftAlone deployment events run index)
    (reached : deploymentRun deployment events = some (run.state 0)) :
    ∀ᶠ n in atTop, Settled ((run.state n).workers index) := by
  have start : attended.party.behavior.state 0 = (run.state 0).workers index := by
    have same := attended.party.behavior_state 0
    rw [Party.turn, Nat.count_zero] at same
    exact same
  have own := workerRun_of_deploymentRun reached index
  rw [← start] at own
  refine attended.party.eventually_view (attended.fair.settled own alone.kept ?_ ?_ ?_)
  · intro turn waiter same
    apply alone.keeps (attended.party.moment turn) waiter
    rw [← same]
    exact attended.party.own_moment turn
  · exact attended.party.eventually_action alone.cooperative
  · obtain ⟨n, known⟩ := alone.known
    refine ⟨attended.party.turn n, ?_⟩
    rw [attended.party.behavior_state]
    exact known

/-! ### What the keepalives of a settled worker carry -/

/-- The runtime's broker and the body of its keepalives. -/
structure Uses (wr : WorkerRuntime) (peer : BrokerPeer) (content : String) : Prop where
  broker : wr.bestBroker = some peer
  content : wr.keepaliveContent = some content

theorem Uses.read {wr : WorkerRuntime} {peer : BrokerPeer} {content : String}
    (uses : Uses wr peer content) :
    checkCurrentBrokerHealth wr = .ok (peer.mgmtAddr ++ rV0LocalWorkerKeepalive, content) := by
  unfold checkCurrentBrokerHealth
  rw [uses.broker, uses.content]
  rfl

theorem Uses.step {process : WorkerProcess} {state next : WorkerState} {action : Action}
    {peer : BrokerPeer} {content : String} (uses : Uses state.runtime peer content)
    (settled : Settled state) (taken : step process state action = some next) :
    Uses next.runtime peer content := by
  by_cases turn : ∃ outside, action = .handled outside
  · obtain ⟨outside, rfl⟩ := turn
    obtain ⟨info, rest, head, rfl⟩ := settled.handled taken
    exact ⟨uses.broker, uses.content⟩
  · rw [step_keeps_runtime taken fun outside same => turn ⟨outside, same⟩]
    exact uses

/-- From some moment on the worker is settled, nothing is put in its way, and its
keepalives carry one identity to one broker. -/
theorem Attended.uses (attended : Attended run index)
    (alone : LeftAlone deployment events run index)
    (reached : deploymentRun deployment events = some (run.state 0)) :
    ∃ peer lw, ∀ᶠ n in atTop, Settled ((run.state n).workers index) ∧
      (∀ action, workerActs run index n = some action →
        Cooperates (deployment.workers index) action) ∧
      Uses ((run.state n).workers index).runtime peer (deployment.serdeJson.writeIdentity lw) := by
  obtain ⟨start, settles⟩ := eventually_atTop.mp
    ((attended.settles alone reached).and alone.cooperative)
  have own := workerRun_of_deploymentRun (run.reached reached start) index
  have present := broker_of_provisioned own (by rw [(settles start (Nat.le_refl _)).1.started]; rfl)
  obtain ⟨_, _, _, peer, lw, _, _, broker, _, content⟩ := (equipped_of_broker own present).content
  rw [deployment.sharedJson] at content
  refine ⟨peer, lw, eventually_atTop.mpr ⟨start, ?_⟩⟩
  intro n late
  refine ⟨(settles n late).1, (settles n late).2, ?_⟩
  induction n, late using Nat.le_induction with
  | base => exact ⟨broker, content⟩
  | succ n late ih =>
      cases acts : workerActs run index n with
      | none =>
          rw [workerActs_idles acts]
          exact ih
      | some action => exact ih.step (settles n late).1 (workerActs_taken acts)

/-! ### One attempt -/

variable {state next : DeploymentState} {event : Event}

theorem connections_le (stepped : deploymentStep deployment state event = some next)
    (worker : Nat) : state.connections worker ≤ next.connections worker := by
  cases deploymentStep_outcome stepped with
  | worker other action after unanswered took =>
      by_cases mine : worker = other
      · subst mine
        simp only [DeploymentState.workerTook, Function.update_self]
        split <;> omega
      · simp only [DeploymentState.workerTook, Function.update_of_ne mine]
        exact Nat.le_refl _
  | requestReceived | requestLost | replyRead | replyLost | checkDue | managerTurn =>
      exact Nat.le_refl _

/-- Nothing under way is numbered beyond the attempts made. -/
structure Numbered (state : DeploymentState) : Prop where
  requests : ∀ request ∈ state.requests, request.connection ≤ state.connections request.worker
  replies : ∀ reply ∈ state.replies, reply.connection ≤ state.connections reply.worker

theorem newRequests_numbered {action : Action} {after : WorkerState}
    {request : KeepaliveRequest}
    (opened : request ∈ newRequests index
      (if opensConnection action then state.connections index + 1 else state.connections index)
      after action) :
    action = .keepaliveRead ∧ request.connection = state.connections index + 1 := by
  unfold newRequests at opened
  split at opened
  · split at opened
    · rw [List.mem_singleton] at opened
      subst opened
      exact ⟨rfl, rfl⟩
    · cases opened
  · cases opened

theorem workerTook_connections_self (state : DeploymentState) (action : Action)
    (after : WorkerState) :
    (state.workerTook index action after).connections index =
      if opensConnection action then state.connections index + 1 else state.connections index := by
  simp only [DeploymentState.workerTook, Function.update_self]

theorem Numbered.step (numbered : Numbered state)
    (stepped : deploymentStep deployment state event = some next) : Numbered next := by
  have grows := connections_le stepped
  have requestsKept : ∀ request ∈ state.requests,
      request.connection ≤ next.connections request.worker := fun request member =>
    Nat.le_trans (numbered.requests request member) (grows _)
  have repliesKept : ∀ reply ∈ state.replies,
      reply.connection ≤ next.connections reply.worker := fun reply member =>
    Nat.le_trans (numbered.replies reply member) (grows _)
  cases deploymentStep_outcome stepped with
  | worker other action after unanswered took =>
      refine ⟨?_, repliesKept⟩
      intro request member
      rcases List.mem_append.mp member with before | new
      · exact requestsKept request before
      · obtain ⟨rfl, numberedNext⟩ := newRequests_numbered new
        rw [(mem_newRequests new).1, workerTook_connections_self, numberedNext]
        exact Nat.le_refl _
  | requestReceived position broker request messages response present addressed served =>
      refine ⟨fun other member => requestsKept other (List.mem_of_mem_eraseIdx member), ?_⟩
      intro reply member
      rcases List.mem_append.mp member with before | new
      · exact repliesKept reply before
      · rw [List.mem_singleton.mp new]
        exact requestsKept request (List.mem_of_getElem? present)
  | requestLost position request present =>
      exact ⟨fun other member => requestsKept other (List.mem_of_mem_eraseIdx member), repliesKept⟩
  | replyRead position reply after present awaited took =>
      exact ⟨requestsKept, fun other member => repliesKept other (List.mem_of_mem_eraseIdx member)⟩
  | replyLost position reply present =>
      exact ⟨requestsKept, fun other member => repliesKept other (List.mem_of_mem_eraseIdx member)⟩
  | checkDue | managerTurn => exact ⟨requestsKept, repliesKept⟩

theorem run_numbered (reached : deploymentRun deployment events = some state) :
    Numbered state := by
  refine @replay_preserves DeploymentState Event (deploymentStep deployment) Numbered
    DeploymentState.initial ⟨nofun, nofun⟩ ?_ events state reached
  intro current event next numbered stepped
  exact numbered.step stepped

/-- The worker's attempt with this number has been made, and for this request. -/
structure Attempted (index connection : Nat) (url body : String) (state : DeploymentState) :
    Prop where
  made : connection ≤ state.connections index
  requests : ∀ request ∈ state.requests, request.worker = index →
    request.connection = connection → request.url = url ∧ request.body = body

theorem Attempted.step {connection : Nat} {url body : String}
    (attempted : Attempted index connection url body state)
    (stepped : deploymentStep deployment state event = some next) :
    Attempted index connection url body next := by
  refine ⟨Nat.le_trans attempted.made (connections_le stepped index), ?_⟩
  cases deploymentStep_outcome stepped with
  | worker other action after unanswered took =>
      intro request member mine numbered
      rcases List.mem_append.mp member with before | new
      · exact attempted.requests request before mine numbered
      · -- a later attempt has a higher number
        obtain ⟨_, higher⟩ := newRequests_numbered new
        have made := attempted.made
        rw [← mine, (mem_newRequests new).1] at made
        omega
  | requestReceived position broker request messages response present addressed served =>
      exact fun other member => attempted.requests other (List.mem_of_mem_eraseIdx member)
  | requestLost position request present =>
      exact fun other member => attempted.requests other (List.mem_of_mem_eraseIdx member)
  | replyRead | replyLost | checkDue | managerTurn => exact attempted.requests

theorem Attempted.later {connection n m : Nat} {url body : String}
    (attempted : Attempted index connection url body (run.state n)) (later : n ≤ m) :
    Attempted index connection url body (run.state m) := by
  induction m, later using Nat.le_induction with
  | base => exact attempted
  | succ m later ih => exact ih.step (run.taken m)

/-- No answer to the attempt is under way. -/
def Unanswered (index connection : Nat) (state : DeploymentState) : Prop :=
  ∀ reply ∈ state.replies, reply.worker = index → reply.connection ≠ connection

/-- The first answer to an attempt is put under way by the broker that receives
its request. -/
theorem received_of_answered {connection : Nat} {url body : String}
    (attempted : Attempted index connection url body state)
    (unanswered : Unanswered index connection state) (answered : ¬ Unanswered index connection next)
    (stepped : deploymentStep deployment state event = some next) :
    ∃ position broker, event = .requestReceived position broker ∧
      url ∈ (deployment.brokers broker).keepaliveUrls ∧
      next.inboxes broker = state.inboxes broker ++ (deployment.serve broker body).1 := by
  cases deploymentStep_outcome stepped with
  | requestReceived position broker request messages response present addressed served =>
      refine ⟨position, broker, rfl, ?_⟩
      have mine : request.worker = index ∧ request.connection = connection := by
        by_contra other
        apply answered
        intro reply member
        rcases List.mem_append.mp member with before | new
        · exact unanswered reply before
        · rw [List.mem_singleton.mp new]
          exact fun worker numbered => other ⟨worker, numbered⟩
      obtain ⟨rfl, rfl⟩ :=
        attempted.requests request (List.mem_of_getElem? present) mine.1 mine.2
      rw [served]
      exact ⟨addressed, Function.update_self _ _ _⟩
  | replyRead position reply after present awaited took =>
      exact absurd (fun other member => unanswered other (List.mem_of_mem_eraseIdx member)) answered
  | replyLost position reply present =>
      exact absurd (fun other member => unanswered other (List.mem_of_mem_eraseIdx member)) answered
  | worker | requestLost | checkDue | managerTurn => exact absurd unanswered answered

/-! ### From attempt to attempt -/

theorem workerActs_event {n : Nat} {action : Action} (acts : workerActs run index n = some action) :
    run.action n = .worker index action ∨
      ∃ position reply, run.action n = .replyRead position ∧
        (run.state n).replies[position]? = some reply ∧ reply.worker = index ∧
        action = .keepaliveAnswered (deployment.keepaliveOutcome reply.response) :=
  mem_workerStep (List.mem_of_mem_head? acts)

theorem connections_keep {n : Nat} (noRead : workerActs run index n ≠ some .keepaliveRead) :
    (run.state (n + 1)).connections index = (run.state n).connections index := by
  have stepped := run.taken n
  unfold workerActs at noRead
  generalize run.state n = state at noRead stepped ⊢
  generalize run.state (n + 1) = next at stepped ⊢
  generalize run.action n = event at noRead stepped
  cases deploymentStep_outcome stepped with
  | worker other action after unanswered took =>
      by_cases mine : other = index
      · subst mine
        have idle : opensConnection action = false := by
          cases action with
          | keepaliveRead => simp [workerStep] at noRead
          | _ => rfl
        rw [workerTook_connections_self, idle]
        rfl
      · simp only [DeploymentState.workerTook, Function.update_of_ne (Ne.symm mine)]
  | requestReceived | requestLost | replyRead | replyLost | checkDue | managerTurn => rfl

/-- A step that does not end an attempt leaves it under way. -/
theorem step_keeps_sending {process : WorkerProcess} {state next : WorkerState} {action : Action}
    {url body : String} (sending : state.keepalive = .sending url body)
    (unended : ∀ outcome, action ≠ .keepaliveAnswered outcome)
    (taken : step process state action = some next) : next.keepalive = .sending url body := by
  cases step_outcome taken with
  | keepaliveSkipped idle | keepaliveChecked idle =>
      rw [sending] at idle
      cases idle
  | keepaliveRead checked =>
      rw [sending] at checked
      cases checked
  | keepaliveAccepted | keepaliveRefused => exact absurd rfl (unended _)
  | _ => exact sending

/-- An attempt that does not end goes on, and none is made beside it. -/
theorem sending_goes_on {n : Nat} {url body : String}
    (sending : ((run.state n).workers index).keepalive = .sending url body)
    (unended : ∀ outcome, workerActs run index n ≠ some (.keepaliveAnswered outcome)) :
    ((run.state (n + 1)).workers index).keepalive = .sending url body ∧
      (run.state (n + 1)).connections index = (run.state n).connections index := by
  cases acts : workerActs run index n with
  | none =>
      refine ⟨?_, connections_keep (by rw [acts]; exact nofun)⟩
      rw [workerActs_idles acts]
      exact sending
  | some action =>
      have taken := workerActs_taken acts
      refine ⟨step_keeps_sending sending (fun outcome same => ?_) taken, connections_keep ?_⟩
      · rw [same] at acts
        exact unended outcome acts
      · rintro reads
        have read := workerActs_taken reads
        simp only [step, WorkerState.keepaliveRead, sending] at read
        cases read

theorem sending_until {n m : Nat} {url body : String} (later : n ≤ m)
    (sending : ((run.state n).workers index).keepalive = .sending url body)
    (unended : ∀ k, n ≤ k → k < m →
      ¬ ∃ outcome, workerActs run index k = some (.keepaliveAnswered outcome)) :
    ((run.state m).workers index).keepalive = .sending url body ∧
      (run.state m).connections index = (run.state n).connections index := by
  induction m, later using Nat.le_induction with
  | base => exact ⟨sending, rfl⟩
  | succ m later ih =>
      obtain ⟨still, same⟩ := ih fun k since before => unended k since (Nat.lt_succ_of_lt before)
      obtain ⟨stays, keeps⟩ := sending_goes_on still fun outcome ended =>
        unended m later (Nat.lt_succ_self m) ⟨outcome, ended⟩
      exact ⟨stays, keeps.trans same⟩

theorem attempt_opened {n : Nat} {peer : BrokerPeer} {content : String}
    (numbered : Numbered (run.state n))
    (uses : Uses ((run.state n).workers index).runtime peer content)
    (reads : workerActs run index n = some .keepaliveRead) :
    ((run.state (n + 1)).workers index).keepalive =
        .sending (peer.mgmtAddr ++ rV0LocalWorkerKeepalive) content ∧
      Attempted index ((run.state (n + 1)).connections index)
        (peer.mgmtAddr ++ rV0LocalWorkerKeepalive) content (run.state (n + 1)) ∧
      Unanswered index ((run.state (n + 1)).connections index) (run.state (n + 1)) := by
  have event : run.action n = .worker index .keepaliveRead := by
    rcases workerActs_event reads with alone | ⟨_, _, _, _, _, impossible⟩
    · exact alone
    · cases impossible
  have stepped := run.taken n
  rw [event] at stepped
  generalize run.state n = state at numbered uses stepped ⊢
  generalize run.state (n + 1) = next at stepped ⊢
  cases deploymentStep_outcome stepped with
  | worker _ _ after unanswered took =>
      have opened : after.keepalive =
          .sending (peer.mgmtAddr ++ rV0LocalWorkerKeepalive) content := by
        cases step_outcome took with
        | keepaliveRead checked url body read =>
            rw [uses.read] at read
            cases read
            rfl
      have number : (state.workerTook index .keepaliveRead after).connections index =
          state.connections index + 1 := workerTook_connections_self state .keepaliveRead after
      rw [number]
      refine ⟨?_, ⟨Nat.le_of_eq number.symm, ?_⟩, ?_⟩
      · simp only [DeploymentState.workerTook, Function.update_self]
        exact opened
      · intro request member mine latest
        rcases List.mem_append.mp member with before | new
        · have bound := numbered.requests request before
          rw [mine] at bound
          omega
        · have sent := (mem_newRequests new).2
          rw [opened] at sent
          obtain ⟨url, body⟩ := KeepaliveLoop.sending.inj sent
          exact ⟨url.symm, body.symm⟩
      · intro reply member mine latest
        have bound := numbered.replies reply member
        rw [mine] at bound
        omega

theorem awaited_of_read {position : Nat} {reply : KeepaliveReply}
    (present : state.replies[position]? = some reply)
    (stepped : deploymentStep deployment state (.replyRead position) = some next) :
    reply.connection = state.connections reply.worker := by
  cases deploymentStep_outcome stepped with
  | replyRead _ other after presentToo awaited took =>
      rw [present] at presentToo
      cases presentToo
      exact awaited

/-- An attempt that ends well was received by a broker under its URL. -/
theorem attempt_received {n : Nat} {peer : BrokerPeer} {lw : LocalWorkerIdentity}
    (attended : Attended run index) (numbered : Numbered (run.state n))
    (uses : Uses ((run.state n).workers index).runtime peer (deployment.serdeJson.writeIdentity lw))
    (cooperates : ∀ m, n ≤ m → ∀ action, workerActs run index m = some action →
      Cooperates (deployment.workers index) action)
    (reads : workerActs run index n = some .keepaliveRead) :
    ∃ m position broker, n ≤ m ∧ run.action m = .requestReceived position broker ∧
      peer.mgmtAddr ++ rV0LocalWorkerKeepalive ∈ (deployment.brokers broker).keepaliveUrls ∧
      .receivedKeepAlive lw ∈ (run.state (m + 1)).inboxes broker := by
  obtain ⟨sending, attempted, unanswered⟩ := attempt_opened numbered uses reads
  obtain ⟨last, later, ⟨outcome, ended⟩, first⟩ := first_of_later (attended.ends _ _ _ sending)
  obtain ⟨_, latest⟩ := sending_until later sending first
  -- the answer read at the end is to this attempt
  have answered : ¬ Unanswered index ((run.state (n + 1)).connections index) (run.state last) := by
    have success := cooperates last (by omega) _ ended
    have stepped := run.taken last
    rcases workerActs_event ended with alone | ⟨position, reply, event, present, mine, _⟩
    · rw [alone] at stepped
      change outcome = .ok () at success
      subst success
      cases stepped
    · intro none
      rw [event] at stepped
      have awaited := awaited_of_read present stepped
      rw [mine, latest] at awaited
      exact none reply (List.mem_of_getElem? present) mine awaited
  obtain ⟨k, since, silent, heard⟩ := @last_of_change
    (fun k => Unanswered index ((run.state (n + 1)).connections index) (run.state k)) _ _ later
    unanswered answered
  obtain ⟨position, broker, event, addressed, inbox⟩ :=
    received_of_answered (attempted.later since) silent heard (run.taken k)
  refine ⟨k, position, broker, by omega, event, addressed, ?_⟩
  rw [inbox]
  apply List.mem_append_right
  unfold Deployment.serve
  rw [deployment.serdeJson.read_write lw]
  exact List.mem_cons_self

theorem checked_of_started {process : WorkerProcess} {state next : WorkerState}
    (started : state.runtime.status = .started)
    (taken : step process state .keepaliveChecked = some next) : next.keepalive = .checked := by
  cases step_outcome taken with
  | keepaliveSkipped idle unused =>
      rw [started] at unused
      cases unused
  | keepaliveChecked => rfl

theorem idle_of_answered {process : WorkerProcess} {state next : WorkerState}
    {outcome : Except String Unit}
    (taken : step process state (.keepaliveAnswered outcome) = some next) :
    next.keepalive = .idle := by
  cases step_outcome taken with
  | keepaliveAccepted | keepaliveRefused => rfl

theorem Attended.attempts (attended : Attended run index) {start n : Nat}
    (settled : ∀ m, start ≤ m → Settled ((run.state m).workers index)) (late : start ≤ n) :
    ∃ m, n ≤ m ∧ workerActs run index m = some .keepaliveRead := by
  have fromIdle : ∀ k, start ≤ k → ((run.state k).workers index).keepalive = .idle →
      ∃ m, k ≤ m ∧ workerActs run index m = some .keepaliveRead := by
    intro k late idle
    obtain ⟨m, later, checks⟩ := attended.checks k idle
    obtain ⟨last, after, reads⟩ := attended.reads (m + 1)
      (checked_of_started (settled m (Nat.le_trans late later)).started (workerActs_taken checks))
    exact ⟨last, by omega, reads⟩
  cases loop : ((run.state n).workers index).keepalive with
  | idle => exact fromIdle n late loop
  | checked => exact attended.reads n loop
  | sending url body =>
      obtain ⟨m, later, outcome, ended⟩ := attended.ends n url body loop
      obtain ⟨last, after, reads⟩ :=
        fromIdle (m + 1) (by omega) (idle_of_answered (workerActs_taken ended))
      exact ⟨last, by omega, reads⟩

/-! ### The broker's side -/

/-- The managers of the brokers that still receive keepalives take a turn while
there is a message for them. -/
def ManagersMove (run : Behavior (deploymentStep deployment)) : Prop :=
  ∀ᶠ n in atTop, ∀ position broker, run.action n = .requestReceived position broker →
    ∀ k, n ≤ k → (run.state k).inboxes broker ≠ [] → ∃ m, k ≤ m ∧ run.action m = .managerTurn broker

theorem inbox_fifo {broker start : Nat}
    (moves : ∀ k, start ≤ k → (run.state k).inboxes broker ≠ [] →
      ∃ m, k ≤ m ∧ run.action m = .managerTurn broker) :
    Fifo (fun k => (run.state (start + k)).inboxes broker)
      (fun k => run.action (start + k) = .managerTurn broker) where
  grows := by
    intro k idle
    have stepped := run.taken (start + k)
    change (run.state (start + k)).inboxes broker <+: (run.state (start + k + 1)).inboxes broker
    generalize run.state (start + k) = state at stepped ⊢
    generalize run.state (start + k + 1) = next at stepped ⊢
    generalize run.action (start + k) = event at idle stepped
    cases deploymentStep_outcome stepped with
    | requestReceived position other request messages response present addressed served =>
        by_cases mine : broker = other
        · subst mine
          simp only [Function.update_self]
          exact List.prefix_append _ _
        · simp only [Function.update_of_ne mine]
          exact List.prefix_refl _
    | checkDue other =>
        by_cases mine : broker = other
        · subst mine
          simp only [Function.update_self]
          exact List.prefix_append _ _
        · simp only [Function.update_of_ne mine]
          exact List.prefix_refl _
    | managerTurn other message rest after head took =>
        have mine : broker ≠ other := by
          rintro rfl
          exact idle rfl
        simp only [Function.update_of_ne mine]
        exact List.prefix_refl _
    | worker | requestLost | replyRead | replyLost => exact List.prefix_refl _
  advances := by
    intro k serves
    have stepped := run.taken (start + k)
    rw [serves] at stepped
    change ((run.state (start + k)).inboxes broker).tail <+:
      (run.state (start + k + 1)).inboxes broker
    generalize run.state (start + k) = state at stepped ⊢
    generalize run.state (start + k + 1) = next at stepped ⊢
    cases deploymentStep_outcome stepped with
    | managerTurn _ message rest after head took =>
        simp only [Function.update_self, head, List.tail_cons]
        exact List.prefix_refl _
  recurs := by
    intro k queued
    obtain ⟨m, later, turn⟩ := moves (start + k) (Nat.le_add_right _ _) queued
    obtain ⟨more, rfl⟩ := Nat.exists_eq_add_of_le (Nat.le_trans (Nat.le_add_right start k) later)
    exact ⟨more, by omega, turn⟩

theorem forwarder_sends_of_last {profile : BuildProfile} {urlparse : String → Uri}
    {messages : List LocalWorkerManagerChannelMessage} {lw : LocalWorkerIdentity}
    {manager : LocalWorkerManager}
    (handled : localWorkerManager profile urlparse (messages ++ [.receivedKeepAlive lw]) =
      some manager) (method : String) (body : Bytes) :
    ∃ request, forwarder manager.lwMap lw.publicKey method body = .send request := by
  have silent : Silent lw.publicKey [] := by
    intro other impossible
    cases impossible
  obtain ⟨lease, held, _, misses⟩ :=
    leaseFor_last_keepalive rfl silent (accepted_of_run handled)
  have found : manager.lwMap[lw.publicKey]? = some (entry lease) := by
    rw [(localWorkerManager_tracks handled).entries, held]
    rfl
  have active : (entry lease).status = .active := by
    apply (phase_active_iff lease.misses).mpr
    rw [misses]
    exact Nat.zero_le _
  exact ⟨_, forwarder_active found active method body⟩

theorem sends_of_queued {broker start : Nat} {lw : LocalWorkerIdentity}
    (reached : deploymentRun deployment events = some (run.state 0))
    (moves : ∀ k, start ≤ k → (run.state k).inboxes broker ≠ [] →
      ∃ m, k ≤ m ∧ run.action m = .managerTurn broker)
    (queued : .receivedKeepAlive lw ∈ (run.state start).inboxes broker) :
    ∃ m, start ≤ m ∧ ∀ method body, ∃ request,
      forwarder ((run.state m).brokers broker).lwMap lw.publicKey method body = .send request := by
  obtain ⟨k, _, turn, rest, head⟩ := (inbox_fifo moves).served (n := 0) queued
  have before := run.reached reached (start + k)
  have after := run.reached reached (start + k + 1)
  rw [List.range_succ, List.map_append, ← List.append_assoc, List.map_singleton, turn] at after
  have handled := localWorkerManager_of_deploymentRun after broker
  unfold handledMessages at handled
  rw [ownSteps_concat before (by rw [← turn]; exact run.taken (start + k))] at handled
  simp only [managerTurn, if_true, head, List.take_succ_cons, List.take_zero] at handled
  exact ⟨start + k + 1, by omega, forwarder_sends_of_last handled⟩

/-! ### The whole run -/

/-- In every run of a deployment without end in which a worker's tasks keep
moving, it loses no waiting task, some broker is known to it, nothing is put in
its way from some moment on, and the brokers that receive keepalives handle
them: the worker is started for good, with one broker and one identity, and
again and again a broker under that URL sends every query for its key on. -/
theorem queries_sent_again_and_again (deployment : Deployment) (events : List Event)
    (run : Behavior (deploymentStep deployment)) (index : Nat)
    (reached : deploymentRun deployment events = some (run.state 0))
    (attended : Attended run index) (alone : LeftAlone deployment events run index)
    (managers : ManagersMove run) :
    ∃ peer lw,
      (∀ᶠ n in atTop, Settled ((run.state n).workers index) ∧
        Uses ((run.state n).workers index).runtime peer
          (deployment.serdeJson.writeIdentity lw)) ∧
      ∃ᶠ n in atTop, ∃ broker,
        peer.mgmtAddr ++ rV0LocalWorkerKeepalive ∈ (deployment.brokers broker).keepaliveUrls ∧
        ∀ method body, ∃ request,
          forwarder ((run.state n).brokers broker).lwMap lw.publicKey method body =
            .send request := by
  obtain ⟨peer, lw, uses⟩ := attended.uses alone reached
  refine ⟨peer, lw, uses.mono fun n both => ⟨both.1, both.2.2⟩, frequently_atTop.mpr ?_⟩
  obtain ⟨start, holds⟩ := eventually_atTop.mp (uses.and managers)
  intro first
  obtain ⟨n, later, reads⟩ := attended.attempts (fun m late => (holds m late).1.1)
    (Nat.le_max_left start first)
  have late : start ≤ n := by omega
  obtain ⟨m, position, broker, since, received, addressed, queued⟩ :=
    attempt_received attended (run_numbered (run.reached reached n)) (holds n late).1.2.2
      (fun m after => (holds m (by omega)).1.2.1) reads
  obtain ⟨last, after, sends⟩ := sends_of_queued reached
    (fun k beyond => (holds m (by omega)).2 position broker received k (by omega)) queued
  exact ⟨last, by omega, broker, addressed, sends⟩

end ServiceNetwork.Pipeline
