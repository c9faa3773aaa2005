/-
The one lock that the tasks of a broker take, await by await.

The manager is the only task that reads the channel.  It takes the lock of the
table for each message and sends nothing, and whoever sends holds no lock, so
unlike a worker a broker goes on with any channel.
-/

import ServiceNetwork.Library.Starvation
import ServiceNetwork.ServiceBroker.Management
import ServiceNetwork.ServiceBroker.QueryForwarder

namespace ServiceNetwork.ServiceBroker

open ServiceNetwork.Locking
open ServiceNetwork.Replay

inductive BrokerLock where
  | lwMap
  deriving DecidableEq, Repr

inductive BrokerTask where
  | manager
  | healthCheck
  | keepalive (index : Nat)
  | forwarder (index : Nat)
  deriving DecidableEq, Repr

abbrev BrokerOp := Op BrokerLock LocalWorkerManagerChannelMessage

/-- One turn of the manager, once it has received the message. -/
def localWorkerManagerOps : List BrokerOp :=
  [.acquire .lwMap .exclusive, .release .lwMap]

/-- One turn of `check_peer_health_loop`. -/
def checkPeerHealthLoopOps : List BrokerOp :=
  [.pause, .send .shouldCheckPeerHealth]

/-- One call of the management handler. -/
def handleKeepaliveOps (myId : String) (lwi : LocalWorkerIdentity) : List BrokerOp :=
  [.send (handleKeepalive myId lwi).1]

/-- One query; the entry is cloned before it is sent on. -/
def forwarderOps (lwMap : LocalWorkerMap) (prPublicKey method : String) (body : Bytes) :
    List BrokerOp :=
  [.acquire .lwMap .shared, .release .lwMap] ++
    (match forwarder lwMap prPublicKey method body with
      | .respond _ => []
      | .send _ => [.pause])

/-- The sections of a broker's tasks, for whatever the table is when it is read. -/
inductive BrokerSection (profile : BuildProfile) (urlparse : String → Uri) :
    BrokerTask → Option LocalWorkerManagerChannelMessage → List BrokerOp → Prop where
  | localWorkerManager (manager next : LocalWorkerManager) (notices : List Notice)
      (message : LocalWorkerManagerChannelMessage)
      (returned : handleMessage profile urlparse manager message = .ok (next, notices)) :
      BrokerSection profile urlparse .manager (some message) localWorkerManagerOps
  | checkPeerHealthLoop :
      BrokerSection profile urlparse .healthCheck none checkPeerHealthLoopOps
  | handleKeepalive (index : Nat) (myId : String) (lwi : LocalWorkerIdentity) :
      BrokerSection profile urlparse (.keepalive index) none (handleKeepaliveOps myId lwi)
  | forwarder (index : Nat) (lwMap : LocalWorkerMap) (prPublicKey method : String)
      (body : Bytes) :
      BrokerSection profile urlparse (.forwarder index) none
        (forwarderOps lwMap prPublicKey method body)

/-- The manager sends nothing, the others with no lock in hand. -/
def SendsUnder : BrokerTask → List BrokerLock → Prop
  | .manager, _ => False
  | _, held => held = []

theorem brokerSection_orderly {profile : BuildProfile} {urlparse : String → Uri}
    (task : BrokerTask) (received : Option LocalWorkerManagerChannelMessage) (ops : List BrokerOp)
    (begins : BrokerSection profile urlparse task received ops) :
    Orderly (fun _ => 0) (SendsUnder task) [] ops := by
  cases begins with
  | localWorkerManager => exact .acquires .exclusive nofun (.releases .ends)
  | checkPeerHealthLoop => exact .pauses (.sends _ rfl .ends)
  | handleKeepalive index myId lwi => exact .sends _ rfl .ends
  | forwarder index lwMap prPublicKey method body =>
      refine .acquires .shared nofun (.releases ?_)
      split
      · exact .ends
      · exact .pauses .ends

/-! ### Every section ends -/

variable {profile : BuildProfile} {urlparse : String → Uri} {capacity : Nat}

/-- Whatever the capacity of the channel, in a run in which every await on the
outside ends and the manager reads while a message is queued, every section ends:
a keepalive that waits for the channel, a check, a query that waits for the
table. -/
theorem broker_sections_end {run : Behavior (@Locking.step BrokerTask BrokerLock
      LocalWorkerManagerChannelMessage _ _ _ capacity)}
    (positive : 0 < capacity) (started : run.state 0 = State.initial)
    (legal : ∀ n, Legal (BrokerSection profile urlparse) (run.action n))
    (fair : Locking.Fair run)
    (reads : ∀ n,
      (∀ m, n ≤ m → (run.state m).ops .manager = [] ∧ (run.state m).channel ≠ []) →
      ∃ m, n ≤ m ∧ ∃ message ops, run.action m = .receives .manager message ops)
    (task : BrokerTask) (n : Nat) : ∃ m, n ≤ m ∧ (run.state m).ops task = [] := by
  have inOrder : ∀ n, InOrder (fun _ => 0) SendsUnder (run.state n) :=
    holds_always (fun _ _ _ inOrder legal taken => inOrder.step brokerSection_orderly legal taken)
      (by rw [started]; exact initial_inOrder) legal
  have within : ∀ n, (run.state n).channel.length ≤ capacity :=
    holds_always (fun _ _ _ within _ taken => step_channel taken within)
      (by rw [started]; exact Nat.zero_le _) legal
  have sound := fun n => (inOrder n).sound
  have patient : Patient run := by
    intro task n message rest ahead holds
    have allowed := (inOrder n).allowed ahead
    cases task with
    | manager => exact absurd allowed id
    | healthCheck | keepalive index | forwarder index => exact absurd allowed holds
  have silent : ∀ n message, .send message ∉ (run.state n).ops .manager :=
    fun n => silent_of_sendsWhen ((inOrder n).sends .manager)
  have only : ∀ n ops, run.action n ≠ .begins .manager ops := by
    intro n ops begins
    have begun := legal n
    rw [begins] at begun
    cases begun
  have room := roomy_of_receiver sound fair (fun _ => Nat.le_refl 0) patient positive within silent
    only reads
  exact section_ends sound fair patient (fun _ => Nat.le_refl 0) task n fun _ _ => room

/-- The check loop asks for a check, and the manager makes it. -/
def exampleChecking : List (Locking.Event BrokerTask BrokerLock LocalWorkerManagerChannelMessage) :=
  [.begins .healthCheck checkPeerHealthLoopOps, .moves .healthCheck, .moves .healthCheck,
    .receives .manager .shouldCheckPeerHealth localWorkerManagerOps, .moves .manager,
    .grants .lwMap, .moves .manager]

theorem exampleChecking_replayed :
    replay (Locking.step 1024) State.initial exampleChecking = some State.initial := by
  simp [replay, exampleChecking, Locking.step, State.begins, State.moves, State.grants,
    State.initial, checkPeerHealthLoopOps, localWorkerManagerOps, Holders.enter, Holders.leave]

theorem exampleChecking_legal : ∀ event ∈ exampleChecking,
    Legal (BrokerSection .release fun _ => ⟨none, none⟩) event := by
  intro event member
  simp only [exampleChecking, List.mem_cons, List.not_mem_nil, or_false] at member
  rcases member with rfl | rfl | rfl | rfl | rfl | rfl | rfl
  · exact .checkPeerHealthLoop
  · trivial
  · trivial
  · exact .localWorkerManager .initial .initial [] _ rfl
  all_goals trivial

/-- One check after another, for ever. -/
def exampleChecks :
    Behavior (@Locking.step BrokerTask BrokerLock LocalWorkerManagerChannelMessage _ _ _ 1024) :=
  .cycle (by decide) exampleChecking_replayed

theorem exampleChecks_fair : Locking.Fair exampleChecks := by
  apply cycle_fair
  intro event member task
  simp only [exampleChecking, List.mem_cons, List.not_mem_nil, or_false] at member
  rcases member with rfl | rfl | rfl | rfl | rfl | rfl | rfl <;> rintro ⟨⟩ <;>
    simp [exampleChecking]

theorem exampleChecks_rests (rounds : Nat) : exampleChecks.state (7 * rounds) = State.initial :=
  Behavior.cycle_state (by decide) exampleChecking_replayed rounds

theorem exampleChecks_end :
    (exampleChecks.state 4).ops .manager ≠ [] ∧
      ∃ m, 4 ≤ m ∧ (exampleChecks.state m).ops .manager = [] := by
  refine ⟨by decide, ?_⟩
  refine @broker_sections_end .release (fun _ => ⟨none, none⟩) 1024 exampleChecks (by decide)
    (exampleChecks_rests 0) (fun n => exampleChecking_legal _ (List.get_mem _ _))
    exampleChecks_fair ?_ .manager 4
  intro n always
  have rests := (always (7 * n) (by omega)).2
  rw [exampleChecks_rests] at rests
  exact absurd rfl rests

end ServiceNetwork.ServiceBroker
