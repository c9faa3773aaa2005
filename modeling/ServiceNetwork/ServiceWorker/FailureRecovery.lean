/-
When a worker leaves a failure without being reset.

`handleUpdateStatus` writes whatever status the queue brings next.  A failure
therefore lasts until the reset only if nothing queued behind it moves the
worker on first: neither an older status update, nor a broker lock whose own
update will be queued ahead of the reset.
-/

import ServiceNetwork.ServiceWorker.StatusProtocol

namespace ServiceNetwork.ServiceWorker

open ServiceNetwork.Peer
open ServiceNetwork.Replay

/-- The first status other than a failure that the queued updates will write. -/
def firstMove : List WorkerRuntimeChannelMessage → Option WorkerRuntimeStatus
  | [] => none
  | .shouldUpdateStatus (.failed _) :: rest => firstMove rest
  | .shouldUpdateStatus status :: _ => some status
  | _ :: rest => firstMove rest

/-- Whether the first queued info or broker lock is a lock.  In a failed worker
the info queues the reset and the lock queues `PendingProvision`. -/
def locksFirst : List WorkerRuntimeChannelMessage → Bool
  | [] => false
  | .shouldLockBroker _ :: _ => true
  | .shouldUpdateInfo _ :: _ => false
  | _ :: rest => locksFirst rest

/-- With this queue a failed worker is reset before anything else moves it. -/
def RecoversFirst (queue : List WorkerRuntimeChannelMessage) : Prop :=
  match firstMove queue with
  | some status => status = .starting
  | none => locksFirst queue = false

/-- The statuses that are neither the reset nor a failure. -/
def IsForward (status : WorkerRuntimeStatus) : Prop :=
  status ≠ .starting ∧ ∀ reason, status ≠ .failed reason

theorem firstMove_append (first second : List WorkerRuntimeChannelMessage) :
    firstMove (first ++ second) = (firstMove first).or (firstMove second) := by
  induction first with
  | nil => rfl
  | cons message rest ih =>
      cases message with
      | shouldUpdateStatus status =>
          cases status with
          | failed reason => exact ih
          | starting | waitingForBroker | pendingProvision | started => rfl
      | shouldUpdateInfo | shouldSetPRuntimeFailed | shouldSetBrokerFailed | shouldLockBroker =>
          exact ih

theorem locksFirst_append {first second : List WorkerRuntimeChannelMessage}
    (silent : locksFirst second = false) : locksFirst (first ++ second) = locksFirst first := by
  induction first with
  | nil => exact silent
  | cons message rest ih =>
      cases message with
      | shouldUpdateInfo | shouldLockBroker => rfl
      | shouldUpdateStatus | shouldSetPRuntimeFailed | shouldSetBrokerFailed => exact ih

theorem recoversFirst_append_quiet (queue : List WorkerRuntimeChannelMessage)
    {tail : List WorkerRuntimeChannelMessage} (noMove : firstMove tail = none)
    (noLock : locksFirst tail = false) : RecoversFirst (queue ++ tail) ↔ RecoversFirst queue := by
  unfold RecoversFirst
  rw [firstMove_append, noMove, Option.or_none, locksFirst_append noLock]

theorem recoversFirst_append_move (queue : List WorkerRuntimeChannelMessage)
    {status : WorkerRuntimeStatus} (notFailed : ∀ reason, status ≠ .failed reason) :
    RecoversFirst (queue ++ [.shouldUpdateStatus status]) ↔
      match firstMove queue with
      | some first => first = .starting
      | none => status = .starting := by
  have move : firstMove [.shouldUpdateStatus status] = some status := by
    cases status with
    | failed reason => exact absurd rfl (notFailed reason)
    | starting | waitingForBroker | pendingProvision | started => rfl
  unfold RecoversFirst
  rw [firstMove_append, move]
  cases firstMove queue <;> rfl

theorem IsReport.noMove {message : WorkerRuntimeChannelMessage} (report : IsReport message) :
    firstMove [message] = none ∧ locksFirst [message] = false := by
  cases report with
  | info info => exact ⟨rfl, rfl⟩
  | failure reported => cases reported <;> exact ⟨rfl, rfl⟩

theorem recoversFirst_cons_report {message : WorkerRuntimeChannelMessage}
    (reported : IsFailureReport message) (rest : List WorkerRuntimeChannelMessage) :
    RecoversFirst (message :: rest) ↔ RecoversFirst rest := by
  cases reported <;> exact Iff.rfl

/-- A step from a failed status keeps the failure and what the queue promises,
resets the worker, or replaces the failure by a forward status; the last needs
a queue that does not recover first, and a reset one that does. -/
theorem Protocol.Step.from_failed {before after : Protocol} {label : Label}
    (moved : Step before label after) {reason : WorkerRuntimeFailReason}
    (failed : before.status = .failed reason) :
    (∃ reason', after.status = .failed reason' ∧
      (RecoversFirst after.queue ↔ RecoversFirst before.queue)) ∨
    (label = .handled ∧ after.status = .starting ∧
      ∃ rest, before.queue = .shouldUpdateStatus .starting :: rest) ∨
    (label = .handled ∧ IsForward after.status ∧
      ∃ rest, before.queue = .shouldUpdateStatus after.status :: rest ∧
      ¬ RecoversFirst before.queue) := by
  cases moved with
  | quiet => exact Or.inl ⟨reason, failed, Iff.rfl⟩
  | reported message report =>
      exact Or.inl ⟨reason, failed,
        recoversFirst_append_quiet _ report.noMove.1 report.noMove.2⟩
  | lockSent peer rest waiting live =>
      rw [failed] at waiting
      cases waiting
  | waiterEnded rest moved live => exact Or.inl ⟨reason, failed, Iff.rfl⟩
  | waiterPanicked rest live => exact Or.inl ⟨reason, failed, Iff.rfl⟩
  | handled message rest head reply =>
      rw [head]
      generalize statusAt : before.status = status at reply
      rw [failed] at statusAt
      subst statusAt
      cases reply with
      | failureNoted reported noted =>
          refine Or.inl ⟨reason, rfl, ?_⟩
          rw [recoversFirst_cons_report reported]
          exact recoversFirst_append_quiet rest rfl rfl
      | failureKnown reported =>
          refine Or.inl ⟨reason, rfl, ?_⟩
          rw [recoversFirst_cons_report reported, List.append_nil]
      | infoRecovers info =>
          refine Or.inl ⟨reason, rfl, ?_⟩
          rw [recoversFirst_append_move rest (by simp)]
          unfold RecoversFirst
          simp only [firstMove, locksFirst]
      | infoRecorded info notStarting notFailed => exact absurd rfl (notFailed reason)
      | resets => exact Or.inr (Or.inl ⟨rfl, rfl, rest, rfl⟩)
      | waits =>
          refine Or.inr (Or.inr ⟨rfl, by simp [IsForward], rest, rfl, ?_⟩)
          simp [RecoversFirst, firstMove]
      | provisions | provisionFails =>
          refine Or.inr (Or.inr ⟨rfl, by simp [IsForward], rest, rfl, ?_⟩)
          simp [RecoversFirst, firstMove]
      | starts =>
          refine Or.inr (Or.inr ⟨rfl, by simp [IsForward], rest, rfl, ?_⟩)
          simp [RecoversFirst, firstMove]
      | fails applied =>
          refine Or.inl ⟨applied, rfl, ?_⟩
          rw [List.append_nil]
          exact Iff.rfl
      | locks peer =>
          refine Or.inl ⟨reason, rfl, ?_⟩
          rw [recoversFirst_append_move rest (by simp)]
          unfold RecoversFirst
          simp only [firstMove, locksFirst, reduceCtorEq]

/-- A step that turns another status into a failure applies a queued failure. -/
theorem Protocol.Step.into_failed {before after : Protocol} {label : Label}
    (moved : Step before label after) (notFailed : ∀ reason, before.status ≠ .failed reason)
    {reason : WorkerRuntimeFailReason} (failed : after.status = .failed reason) :
    label = .handled ∧
      ∃ rest, before.queue = .shouldUpdateStatus (.failed reason) :: rest ∧
        after.queue = rest := by
  cases moved with
  | quiet | reported | lockSent | waiterEnded | waiterPanicked =>
      exact absurd failed (notFailed reason)
  | handled message rest head reply =>
      generalize statusAt : before.status = status at reply notFailed
      cases reply with
      | failureNoted | failureKnown | infoRefused | infoAccepted | infoRecovers | infoRecorded
      | locks => exact absurd failed (notFailed reason)
      | fails applied =>
          cases failed
          exact ⟨rfl, rest, head, List.append_nil rest⟩
      | resets | waits | provisions | provisionFails | starts => cases failed

/-! ### Whole runs -/

/-- When the event loop applies a failure to a status that is not one, the queue
behind it resets the worker before anything else moves it. -/
def AppliesFailureSafely (state : WorkerState) (action : Action) (_next : WorkerState) : Prop :=
  ∀ outside reason rest, action = .handled outside →
    state.queue = .shouldUpdateStatus (.failed reason) :: rest →
    (∀ other, state.runtime.status ≠ .failed other) → RecoversFirst rest

/-- A step from a failed worker leaves it failed or reset. -/
def LeavesFailureByReset (state : WorkerState) (_action : Action) (next : WorkerState) : Prop :=
  ∀ reason, state.runtime.status = .failed reason →
    next.runtime.status = .starting ∨ ∃ reason', next.runtime.status = .failed reason'

def FailuresRecoverFirst (process : WorkerProcess) (actions : List Action) : Prop :=
  AtEveryStep (step process) WorkerState.initial AppliesFailureSafely actions

def FailuresLeftByReset (process : WorkerProcess) (actions : List Action) : Prop :=
  AtEveryStep (step process) WorkerState.initial LeavesFailureByReset actions

/-- While every applied failure recovers first, the queue of a failed worker
does. -/
theorem step_keeps_recovering {process : WorkerProcess} {state next : WorkerState}
    {action : Action}
    (recovers : ∀ reason, state.runtime.status = .failed reason → RecoversFirst state.queue)
    (safe : AppliesFailureSafely state action next) (taken : step process state action = some next)
    {reason : WorkerRuntimeFailReason} (failedNext : next.runtime.status = .failed reason) :
    RecoversFirst next.queue := by
  obtain ⟨label, moved, byLoop, _⟩ := step_refines taken
  by_cases failedNow : ∃ other, state.runtime.status = .failed other
  · obtain ⟨other, failedNow⟩ := failedNow
    rcases moved.from_failed failedNow with
      ⟨_, _, kept⟩ | ⟨_, reset, _⟩ | ⟨_, _, _, _, refused⟩
    · exact kept.mpr (recovers other failedNow)
    · change next.runtime.status = .starting at reset
      rw [reset] at failedNext
      cases failedNext
    · exact absurd (recovers other failedNow) refused
  · have notFailed : ∀ other, state.runtime.status ≠ .failed other :=
      fun other same => failedNow ⟨other, same⟩
    obtain ⟨isHandled, rest, head, tail⟩ := moved.into_failed notFailed failedNext
    obtain ⟨outside, rfl⟩ := byLoop isHandled
    change next.queue = rest at tail
    rw [tail]
    exact safe outside reason rest rfl head notFailed

theorem failed_queue_recovers {process : WorkerProcess} {actions : List Action}
    {state : WorkerState} (run : workerRun process actions = some state)
    (clean : FailuresRecoverFirst process actions) :
    ∀ reason, state.runtime.status = .failed reason → RecoversFirst state.queue := by
  refine @replay_preserves_atEveryStep WorkerState Action (step process) WorkerState.initial
    AppliesFailureSafely
    (fun current => ∀ reason, current.runtime.status = .failed reason →
      RecoversFirst current.queue)
    ?_ ?_ actions state run clean
  · intro reason impossible
    cases impossible
  · intro current action next recovers safe taken reason failedNext
    exact step_keeps_recovering recovers safe taken failedNext

/-- Runs that apply every failure safely leave failures by reset alone. -/
theorem FailuresRecoverFirst.leftByReset {process : WorkerProcess} {actions : List Action}
    (clean : FailuresRecoverFirst process actions) : FailuresLeftByReset process actions := by
  intro before action after current next split reached taken reason failed
  rw [split] at clean
  have recovers := failed_queue_recovers reached clean.initial reason failed
  obtain ⟨label, moved, _⟩ := step_refines taken
  rcases moved.from_failed failed with ⟨reason', kept, _⟩ | ⟨_, reset, _⟩ | ⟨_, _, _, _, refused⟩
  · exact Or.inr ⟨reason', kept⟩
  · exact Or.inl reset
  · exact absurd recovers refused

/-- A failure applied ahead of a queue that moves the worker elsewhere stays
until that move is made. -/
theorem premature_failure_stays {process : WorkerProcess} {actions : List Action}
    {state : WorkerState} (run : workerRun process actions = some state)
    (left : FailuresLeftByReset process actions)
    (not_safe : ¬ FailuresRecoverFirst process actions) :
    ∃ reason, state.runtime.status = .failed reason ∧ ¬ RecoversFirst state.queue := by
  refine @replay_holds WorkerState Action (step process)
    (fun taken current => FailuresLeftByReset process taken →
      ¬ FailuresRecoverFirst process taken →
      ∃ reason, current.runtime.status = .failed reason ∧ ¬ RecoversFirst current.queue)
    WorkerState.initial ?_ ?_ actions state run left not_safe
  · intro _ not_safe
    exact absurd atEveryStep_nil not_safe
  · intro before current action next reached stays taken left not_safe
    obtain ⟨left, leftLast⟩ := atEveryStep_concat.mp left
    obtain ⟨label, moved, _⟩ := step_refines taken
    by_cases safe : FailuresRecoverFirst process before
    · have prematureLast : ¬ AppliesFailureSafely current action next := by
        intro safeLast
        apply not_safe
        refine atEveryStep_concat.mpr ⟨safe, ?_⟩
        intro other following reachedOther takenOther
        rw [reached] at reachedOther
        cases reachedOther
        rw [taken] at takenOther
        cases takenOther
        exact safeLast
      simp only [AppliesFailureSafely, not_forall] at prematureLast
      obtain ⟨outside, reason, rest, rfl, head, notFailed, refused⟩ := prematureLast
      obtain ⟨message, tail, handled, atHead, returned, rfl⟩ := handle_eq_some taken
      rw [head] at atHead
      cases atHead
      cases returned
      refine ⟨reason, rfl, ?_⟩
      rw [List.append_nil]
      exact refused
    · obtain ⟨reason, failed, refused⟩ := stays left safe
      rcases moved.from_failed failed with
        ⟨reason', kept, same⟩ | ⟨_, _, rest, head⟩ | ⟨_, forward, _⟩
      · exact ⟨reason', kept, fun recovers => refused (same.mp recovers)⟩
      · change current.queue = _ at head
        rw [head] at refused
        exact absurd rfl refused
      · rcases leftLast current next reached taken reason failed with reset | ⟨reason', kept⟩
        · exact absurd reset forward.1
        · exact absurd kept (forward.2 reason')

/-- Between a failed state and a later one that is not failed, a run in which
failures are left by reset has been in `Starting`. -/
theorem FailuresLeftByReset.reset_between {process : WorkerProcess}
    {before between : List Action} {state later : WorkerState}
    (left : FailuresLeftByReset process (before ++ between))
    (reached : workerRun process before = some state) {reason : WorkerRuntimeFailReason}
    (failed : state.runtime.status = .failed reason)
    (run : workerRun process (before ++ between) = some later) :
    (∃ reason', later.runtime.status = .failed reason') ∨
      ∃ first rest reset, between = first ++ rest ∧
        workerRun process (before ++ first) = some reset ∧ reset.runtime.status = .starting := by
  induction between using List.reverseRecOn generalizing later with
  | nil =>
      rw [List.append_nil, reached] at run
      cases run
      exact Or.inl ⟨reason, failed⟩
  | append_singleton between action ih =>
      rw [← List.append_assoc] at left run
      obtain ⟨current, next, reachedCurrent, taken, last⟩ := replay_split run
      cases last
      obtain ⟨left, leftLast⟩ := atEveryStep_concat.mp left
      rcases ih left reachedCurrent with ⟨reason', stillFailed⟩ | ⟨first, rest, reset, split, was⟩
      · rcases leftLast current later reachedCurrent taken reason' stillFailed with
          starting | stays
        · exact Or.inr ⟨between ++ [action], [], later, by simp,
            by rw [← List.append_assoc]; exact run, starting⟩
        · exact Or.inl stays
      · exact Or.inr ⟨first, rest ++ [action], reset, by rw [split]; simp, was⟩

/-- A failure is left only by recovery: the status that replaces one is
`Starting` or a failure, so no later status is reached before a reset. -/
structure FailuresLeftOnlyByRecovery (process : WorkerProcess) (actions : List Action) : Prop where
  replaced : FailuresLeftByReset process actions
  reset_first : ∀ before between after state later reason,
    actions = before ++ between ++ after →
    workerRun process before = some state → state.runtime.status = .failed reason →
    workerRun process (before ++ between) = some later →
    (∃ reason', later.runtime.status = .failed reason') ∨
      ∃ first rest reset, between = first ++ rest ∧
        workerRun process (before ++ first) = some reset ∧ reset.runtime.status = .starting

theorem failuresLeftOnlyByRecovery_iff_byReset {process : WorkerProcess}
    {actions : List Action} :
    FailuresLeftOnlyByRecovery process actions ↔ FailuresLeftByReset process actions := by
  constructor
  · intro left
    exact left.replaced
  · intro left
    refine ⟨left, ?_⟩
    intro before between after state later reason split reached failed run
    rw [split] at left
    exact FailuresLeftByReset.reset_between left.initial reached failed run

/-- In every run whose failures are applied safely, a failure is left only by
recovery; a run that ends outside `Failed` has no other way to do so. -/
theorem failures_left_only_by_recovery_iff {process : WorkerProcess} {actions : List Action}
    {state : WorkerState} (run : workerRun process actions = some state) :
    (FailuresRecoverFirst process actions → FailuresLeftOnlyByRecovery process actions) ∧
      ((∀ reason, state.runtime.status ≠ .failed reason) →
        (FailuresLeftOnlyByRecovery process actions ↔ FailuresRecoverFirst process actions)) := by
  rw [failuresLeftOnlyByRecovery_iff_byReset]
  refine ⟨FailuresRecoverFirst.leftByReset, ?_⟩
  intro notFailed
  refine ⟨?_, FailuresRecoverFirst.leftByReset⟩
  intro left
  by_contra premature
  obtain ⟨reason, failed, _⟩ := premature_failure_stays run left premature
  exact notFailed reason failed

/-- A failure in `Starting`, and the reset that the next info asks for. -/
def exampleRecovery : List Action :=
  [.pruntimeFailed "gone", .handled exampleOutside, .handled exampleOutside,
    .pruntimeAnswered (exampleInfo "0a"), .handled exampleOutside, .handled exampleOutside]

theorem exampleRecovery_left_only_by_recovery :
    FailuresLeftOnlyByRecovery exampleProcess exampleRecovery := by
  have run : (workerRun exampleProcess exampleRecovery).isSome := by decide
  obtain ⟨state, run⟩ := Option.isSome_iff_exists.mp run
  apply (failures_left_only_by_recovery_iff run).1
  unfold FailuresRecoverFirst exampleRecovery
  iterate 6 rw [atEveryStep_cons rfl]
  refine ⟨?_, ?_, ?_, ?_, ?_, ?_, atEveryStep_nil⟩ <;>
    intro outside reason rest isHandled head notFailed
  · cases isHandled
  · cases head
  · cases head
    rfl
  · cases isHandled
  · cases head
  · cases head

/-- A failure report behind a broker lock is applied ahead of the rest of the
provisioning, which then overwrites it. -/
def exampleOvertaking : List Action :=
  exampleLocking ++ .pruntimeFailed "gone" :: List.replicate 5 (.handled exampleOutside)

theorem overtaken_failure_left_without_recovery :
    (∃ state, workerRun exampleProcess exampleOvertaking = some state ∧
      state.runtime.status = .started) ∧
    ¬ FailuresLeftOnlyByRecovery exampleProcess exampleOvertaking := by
  refine ⟨⟨_, rfl, rfl⟩, ?_⟩
  intro left
  have stays := left.replaced
    (exampleLocking ++ .pruntimeFailed "gone" :: List.replicate 4 (.handled exampleOutside))
    (.handled exampleOutside) [] _ _ rfl rfl rfl { broker := none, pr := some "gone" } rfl
  rcases stays with starting | ⟨reason, failed⟩
  · cases starting
  · cases failed

end ServiceNetwork.ServiceWorker
