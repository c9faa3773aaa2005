/-
Failure reports that pass through the mailbox of the event loop.

A report is merged into the reason of the status it is handled in, but the
merged reason is applied only when its own status update is received.  In
between, other reports read the old reason.  This file is about these two kinds
of message alone, from any status; whole runs are in `FailureRecovery`.
-/

import ServiceNetwork.ServiceWorker.StatusProtocol

namespace ServiceNetwork.ServiceWorker

open ServiceNetwork.Replay

inductive FailureSide where
  | broker
  | pruntime
  deriving DecidableEq, Repr

def FailureSide.other : FailureSide → FailureSide
  | .broker => .pruntime
  | .pruntime => .broker

theorem FailureSide.eq_other {side reported : FailureSide} (different : side ≠ reported) :
    side = reported.other := by
  cases side <;> cases reported <;> first | rfl | exact absurd rfl different

structure FailureReport where
  side : FailureSide
  msg : String
  deriving DecidableEq, Repr

def FailureReport.message (report : FailureReport) : WorkerRuntimeChannelMessage :=
  match report.side with
  | .broker => .shouldSetBrokerFailed report.msg
  | .pruntime => .shouldSetPRuntimeFailed report.msg

def WorkerRuntimeFailReason.heldBy (reason : WorkerRuntimeFailReason) :
    FailureSide → Option String
  | .broker => reason.broker
  | .pruntime => reason.pr

/-- The reason of a failed status; any other status holds no message. -/
def WorkerRuntimeStatus.reason : WorkerRuntimeStatus → WorkerRuntimeFailReason
  | .failed reason => reason
  | _ => { broker := none, pr := none }

/-! ### What should be left: the last message of each side -/

/-- The reason once a report is taken into account. -/
def WorkerRuntimeFailReason.merge (reason : WorkerRuntimeFailReason) (report : FailureReport) :
    WorkerRuntimeFailReason :=
  match report.side with
  | .broker => { reason with broker := some report.msg }
  | .pruntime => { reason with pr := some report.msg }

theorem WorkerRuntimeFailReason.ext_heldBy {first second : WorkerRuntimeFailReason}
    (same : ∀ side, first.heldBy side = second.heldBy side) : first = second := by
  obtain ⟨firstBroker, firstPr⟩ := first
  obtain ⟨secondBroker, secondPr⟩ := second
  have sameBroker : firstBroker = secondBroker := same .broker
  have samePr : firstPr = secondPr := same .pruntime
  rw [sameBroker, samePr]

@[simp] theorem WorkerRuntimeFailReason.merge_heldBy_side (reason : WorkerRuntimeFailReason)
    (report : FailureReport) : (reason.merge report).heldBy report.side = some report.msg := by
  obtain ⟨side, msg⟩ := report
  cases side <;> rfl

@[simp] theorem WorkerRuntimeFailReason.merge_heldBy_other (reason : WorkerRuntimeFailReason)
    (report : FailureReport) :
    (reason.merge report).heldBy report.side.other = reason.heldBy report.side.other := by
  obtain ⟨side, msg⟩ := report
  cases side <;> rfl

/-- The last message that one side reported. -/
def lastReported (side : FailureSide) (reports : List FailureReport) : Option String :=
  (reports.filter fun report => report.side = side).getLast?.map FailureReport.msg

theorem lastReported_concat (side : FailureSide) (reports : List FailureReport)
    (report : FailureReport) :
    lastReported side (reports ++ [report]) =
      if report.side = side then some report.msg else lastReported side reports := by
  unfold lastReported
  rw [List.filter_append]
  by_cases same : report.side = side
  · rw [if_pos same, List.filter_cons_of_pos (by simpa using same), List.filter_nil,
      List.getLast?_concat]
    rfl
  · rw [if_neg same, List.filter_cons_of_neg (by simpa using same), List.filter_nil,
      List.append_nil]

theorem foldl_merge_heldBy (reason : WorkerRuntimeFailReason) (reports : List FailureReport)
    (side : FailureSide) :
    (reports.foldl WorkerRuntimeFailReason.merge reason).heldBy side =
      (lastReported side reports).or (reason.heldBy side) := by
  induction reports using List.reverseRecOn with
  | nil => rfl
  | append_singleton reports report ih =>
      rw [List.foldl_concat, lastReported_concat]
      by_cases same : report.side = side
      · rw [if_pos same, ← same, WorkerRuntimeFailReason.merge_heldBy_side]
        rfl
      · rw [if_neg same, ← ih, FailureSide.eq_other (Ne.symm same),
          WorkerRuntimeFailReason.merge_heldBy_other]

/-! ### What the handlers do -/

/-- Both failure handlers at once: a message the status already holds is
dropped, and any other is merged into the reason of the status. -/
theorem handleRuntimeEvent_report (process : WorkerProcess) (outside : Outside)
    (wr : WorkerRuntime) (report : FailureReport) :
    handleRuntimeEvent process outside wr report.message =
      .ok ⟨wr,
        if wr.status.reason.heldBy report.side = some report.msg then []
        else [.shouldUpdateStatus (.failed (wr.status.reason.merge report))], 0⟩ := by
  obtain ⟨side, msg⟩ := report
  cases side with
  | broker =>
      change Except.ok (Handled.mk wr (wr.handleBrokerFailure msg) 0) = _
      unfold WorkerRuntime.handleBrokerFailure
      cases wr.status <;> rfl
  | pruntime =>
      change Except.ok (Handled.mk wr (wr.handlePruntimeFailure msg) 0) = _
      unfold WorkerRuntime.handlePruntimeFailure
      cases wr.status <;> rfl

/-! ### Pending updates -/

/-- The status once the queued updates are applied. -/
def pendingStatus (status : WorkerRuntimeStatus) (queue : List WorkerRuntimeChannelMessage) :
    WorkerRuntimeStatus :=
  queue.foldl
    (fun status message =>
      match message with
      | .shouldUpdateStatus newStatus => newStatus
      | _ => status)
    status

theorem pendingStatus_report (status : WorkerRuntimeStatus) (report : FailureReport)
    (queue : List WorkerRuntimeChannelMessage) :
    pendingStatus status (report.message :: queue) = pendingStatus status queue := by
  obtain ⟨side, msg⟩ := report
  cases side <;> rfl

theorem pendingStatus_concat_report (status : WorkerRuntimeStatus)
    (queue : List WorkerRuntimeChannelMessage) (report : FailureReport) :
    pendingStatus status (queue ++ [report.message]) = pendingStatus status queue := by
  unfold pendingStatus
  rw [List.foldl_concat]
  obtain ⟨side, msg⟩ := report
  cases side <;> rfl

theorem pendingStatus_concat_update (status newStatus : WorkerRuntimeStatus)
    (queue : List WorkerRuntimeChannelMessage) :
    pendingStatus status (queue ++ [.shouldUpdateStatus newStatus]) = newStatus := by
  unfold pendingStatus
  rw [List.foldl_concat]

/-- The queue of reports and of the updates they lead to. -/
inductive ReportQueue : List FailureReport → List WorkerRuntimeChannelMessage → Prop where
  | nil : ReportQueue [] []
  | report (report : FailureReport) {reports queue} (rest : ReportQueue reports queue) :
      ReportQueue (report :: reports) (report.message :: queue)
  | update (reason : WorkerRuntimeFailReason) {reports queue} (rest : ReportQueue reports queue) :
      ReportQueue reports (.shouldUpdateStatus (.failed reason) :: queue)

theorem ReportQueue.concat_report {reports : List FailureReport}
    {queue : List WorkerRuntimeChannelMessage} (holds : ReportQueue reports queue)
    (report : FailureReport) : ReportQueue (reports ++ [report]) (queue ++ [report.message]) := by
  induction holds with
  | nil => exact .report report .nil
  | report first _ ih => exact .report first ih
  | update reason _ ih => exact .update reason ih

theorem ReportQueue.concat_update {reports : List FailureReport}
    {queue : List WorkerRuntimeChannelMessage} (holds : ReportQueue reports queue)
    (reason : WorkerRuntimeFailReason) :
    ReportQueue reports (queue ++ [.shouldUpdateStatus (.failed reason)]) := by
  induction holds with
  | nil => exact .update reason .nil
  | report first _ ih => exact .report first ih
  | update first _ ih => exact .update first ih

theorem ReportQueue.pending_failed {reports : List FailureReport}
    {queue : List WorkerRuntimeChannelMessage} (holds : ReportQueue reports queue)
    (reason : WorkerRuntimeFailReason) :
    ∃ reason', pendingStatus (.failed reason) queue = .failed reason' := by
  induction holds generalizing reason with
  | nil => exact ⟨reason, rfl⟩
  | report first _ ih =>
      rw [pendingStatus_report]
      exact ih reason
  | update applied _ ih => exact ih applied

theorem WorkerRuntimeStatus.failed_of_held {status : WorkerRuntimeStatus} {side : FailureSide}
    {msg : String} (held : status.reason.heldBy side = some msg) :
    ∃ reason, status = .failed reason := by
  cases status with
  | failed reason => exact ⟨reason, rfl⟩
  | starting | waitingForBroker | pendingProvision | started => cases side <;> cases held

/-- What the handler queues for a report that it reads in `status`. -/
def reportReply (status : WorkerRuntimeStatus) (report : FailureReport) :
    List WorkerRuntimeChannelMessage :=
  if status.reason.heldBy report.side = some report.msg then []
  else [.shouldUpdateStatus (.failed (status.reason.merge report))]

/-- The reason a report is judged by is the one that the updates behind it will
leave: a message that is already held stays held, and otherwise the other side
stays as it is. -/
def ReadsPendingReason (status : WorkerRuntimeStatus) (report : FailureReport)
    (rest : List WorkerRuntimeChannelMessage) : Prop :=
  let pending := pendingStatus status rest
  if status.reason.heldBy report.side = some report.msg then
    pending.reason.heldBy report.side = some report.msg
  else pending.reason.heldBy report.side.other = status.reason.heldBy report.side.other

/-- Exactly then the updates leave the pending reason with the report merged. -/
theorem reply_merges_iff (status : WorkerRuntimeStatus) (report : FailureReport)
    (rest : List WorkerRuntimeChannelMessage) :
    (pendingStatus status (rest ++ reportReply status report)).reason =
        (pendingStatus status rest).reason.merge report ↔
      ReadsPendingReason status report rest := by
  unfold reportReply ReadsPendingReason
  by_cases held : status.reason.heldBy report.side = some report.msg
  · rw [if_pos held, if_pos held, List.append_nil]
    constructor
    · intro same
      rw [same, WorkerRuntimeFailReason.merge_heldBy_side]
    · intro still
      apply WorkerRuntimeFailReason.ext_heldBy
      intro side
      by_cases same : side = report.side
      · rw [same, still, WorkerRuntimeFailReason.merge_heldBy_side]
      · rw [FailureSide.eq_other same, WorkerRuntimeFailReason.merge_heldBy_other]
  · rw [if_neg held, if_neg held, pendingStatus_concat_update]
    constructor
    · intro same
      have other : (status.reason.merge report).heldBy report.side.other =
          ((pendingStatus status rest).reason.merge report).heldBy report.side.other :=
        congrArg (fun reason => reason.heldBy report.side.other) same
      rw [WorkerRuntimeFailReason.merge_heldBy_other,
        WorkerRuntimeFailReason.merge_heldBy_other] at other
      exact other.symm
    · intro kept
      apply WorkerRuntimeFailReason.ext_heldBy
      intro side
      change (status.reason.merge report).heldBy side = _
      by_cases same : side = report.side
      · rw [same, WorkerRuntimeFailReason.merge_heldBy_side,
          WorkerRuntimeFailReason.merge_heldBy_side]
      · rw [FailureSide.eq_other same, WorkerRuntimeFailReason.merge_heldBy_other,
          WorkerRuntimeFailReason.merge_heldBy_other, kept]

theorem reply_pending_failed {status : WorkerRuntimeStatus} {report : FailureReport}
    {reports : List FailureReport} {rest : List WorkerRuntimeChannelMessage}
    (holds : ReportQueue reports rest) :
    ∃ reason, pendingStatus status (rest ++ reportReply status report) = .failed reason := by
  unfold reportReply
  by_cases held : status.reason.heldBy report.side = some report.msg
  · obtain ⟨reason, rfl⟩ := WorkerRuntimeStatus.failed_of_held held
    rw [if_pos held, List.append_nil]
    exact holds.pending_failed reason
  · rw [if_neg held, pendingStatus_concat_update]
    exact ⟨_, rfl⟩

/-! ### Runs of reports -/

/-- The reports are enqueued and the event loop takes its turns; nothing else
moves the worker. -/
inductive ReportingAction where
  | reported (report : FailureReport)
  | handled (outside : Outside)

def reportingStep (process : WorkerProcess) (state : WorkerState) :
    ReportingAction → Option WorkerState
  | .reported report => some (state.enqueue report.message)
  | .handled outside => state.handle process outside

def ReportingAction.report : ReportingAction → Option FailureReport
  | .reported report => some report
  | .handled _ => none

def reportsIn (actions : List ReportingAction) : List FailureReport :=
  actions.filterMap ReportingAction.report

/-- A turn of the event loop that handles a report reads the pending reason. -/
def HandlesFreshly (state : WorkerState) (action : ReportingAction) (_next : WorkerState) :
    Prop :=
  ∀ outside report rest, action = .handled outside → state.queue = report.message :: rest →
    ReadsPendingReason state.runtime.status report rest

/-- Nothing reported is lost on the way: the queued updates and reports will
leave what all the reports so far should leave. -/
structure KeepsReports (start : WorkerRuntimeStatus) (reports : List FailureReport)
    (state : WorkerState) (waiting : List FailureReport) : Prop where
  queued : ReportQueue waiting state.queue
  promised : waiting.foldl WorkerRuntimeFailReason.merge
      (pendingStatus state.runtime.status state.queue).reason =
    reports.foldl WorkerRuntimeFailReason.merge start.reason
  failed : (∃ reason, pendingStatus state.runtime.status state.queue = .failed reason) ∨
    waiting = reports

theorem KeepsReports.reported {start : WorkerRuntimeStatus} {reports waiting : List FailureReport}
    {state : WorkerState} (keeps : KeepsReports start reports state waiting)
    (report : FailureReport) :
    KeepsReports start (reports ++ [report]) (state.enqueue report.message)
      (waiting ++ [report]) where
  queued := keeps.queued.concat_report report
  promised := by
    change (waiting ++ [report]).foldl _
      (pendingStatus state.runtime.status (state.queue ++ [report.message])).reason = _
    rw [pendingStatus_concat_report, List.foldl_concat, List.foldl_concat, keeps.promised]
  failed := by
    change (∃ reason, pendingStatus state.runtime.status (state.queue ++ [report.message]) = _) ∨ _
    rw [pendingStatus_concat_report]
    rcases keeps.failed with failed | same
    · exact Or.inl failed
    · rw [same]
      exact Or.inr rfl

theorem KeepsReports.handled {process : WorkerProcess} {outside : Outside}
    {start : WorkerRuntimeStatus} {reports waiting : List FailureReport}
    {state next : WorkerState} (keeps : KeepsReports start reports state waiting)
    (fresh : HandlesFreshly state (.handled outside) next)
    (taken : state.handle process outside = some next) :
    ∃ waiting', KeepsReports start reports next waiting' := by
  obtain ⟨message, rest, handled, head, returned, rfl⟩ := handle_eq_some taken
  obtain ⟨queued, promised, failed⟩ := keeps
  rw [head] at queued promised failed
  cases queued with
  | report report queued =>
      rename_i waiting
      rw [handleRuntimeEvent_report] at returned
      cases returned
      have merges := (reply_merges_iff state.runtime.status report rest).mpr
        (fresh outside report rest rfl head)
      refine ⟨waiting, ?_, ?_, Or.inl (reply_pending_failed queued)⟩
      · change ReportQueue waiting (rest ++ reportReply state.runtime.status report)
        unfold reportReply
        split
        · rw [List.append_nil]
          exact queued
        · exact queued.concat_update _
      · rw [pendingStatus_report, List.foldl_cons, ← merges] at promised
        exact promised
  | update reason queued =>
      cases returned
      refine ⟨waiting, ?_, ?_, ?_⟩
      · change ReportQueue waiting (rest ++ [])
        rw [List.append_nil]
        exact queued
      · change waiting.foldl _ (pendingStatus (.failed reason) (rest ++ [])).reason = _
        rw [List.append_nil]
        exact promised
      · change (∃ other, pendingStatus (.failed reason) (rest ++ []) = _) ∨ _
        rw [List.append_nil]
        exact failed

/-- A run from an empty queue whose reports are all handled freshly keeps them. -/
theorem keepsReports_of_run {process : WorkerProcess} {start final : WorkerState}
    {actions : List ReportingAction} (empty : start.queue = [])
    (run : replay (reportingStep process) start actions = some final)
    (fresh : AtEveryStep (reportingStep process) start HandlesFreshly actions) :
    ∃ waiting, KeepsReports start.runtime.status (reportsIn actions) final waiting := by
  refine @replay_holds WorkerState ReportingAction (reportingStep process)
    (fun taken current =>
      AtEveryStep (reportingStep process) start HandlesFreshly taken →
        ∃ waiting, KeepsReports start.runtime.status (reportsIn taken) current waiting)
    start ?_ ?_ actions final run fresh
  · intro _
    refine ⟨[], ?_, ?_, Or.inr rfl⟩
    · rw [empty]
      exact .nil
    · rw [empty]
      rfl
  · intro before current action next reached keeps taken fresh
    obtain ⟨fresh, freshLast⟩ := atEveryStep_concat.mp fresh
    obtain ⟨waiting, keeps⟩ := keeps fresh
    have freshNow := freshLast current next reached taken
    unfold reportsIn
    rw [List.filterMap_append]
    cases action with
    | reported report =>
        cases taken
        exact ⟨_, keeps.reported report⟩
    | handled outside =>
        change ∃ waiting, KeepsReports _ (reportsIn before ++ []) next waiting
        rw [List.append_nil]
        exact keeps.handled freshNow taken

/-- The status is a failure whose reason has, on each side, the last message
reported there or else the message held before. -/
def NoReasonLost (held : WorkerRuntimeFailReason) (reports : List FailureReport)
    (status : WorkerRuntimeStatus) : Prop :=
  ∃ reason, status = .failed reason ∧
    reason.broker = (lastReported .broker reports).or held.broker ∧
    reason.pr = (lastReported .pruntime reports).or held.pr

/-- From every status with an empty queue, reports that are all handled freshly
leave, once the queue is empty again, every reason they gave. -/
theorem no_reason_lost_of_fresh_turns {process : WorkerProcess} {start final : WorkerState}
    {actions : List ReportingAction} (empty : start.queue = [])
    (run : replay (reportingStep process) start actions = some final)
    (fresh : AtEveryStep (reportingStep process) start HandlesFreshly actions)
    (drained : final.queue = []) (reported : reportsIn actions ≠ []) :
    NoReasonLost start.runtime.status.reason (reportsIn actions) final.runtime.status := by
  obtain ⟨waiting, queued, promised, failed⟩ := keepsReports_of_run empty run fresh
  rw [drained] at queued promised failed
  cases queued
  rcases failed with ⟨reason, failed⟩ | none
  · change final.runtime.status = .failed reason at failed
    change final.runtime.status.reason = _ at promised
    rw [failed] at promised
    refine ⟨reason, failed, ?_, ?_⟩
    · have side := foldl_merge_heldBy start.runtime.status.reason (reportsIn actions) .broker
      rw [← promised] at side
      exact side
    · have side := foldl_merge_heldBy start.runtime.status.reason (reportsIn actions) .pruntime
      rw [← promised] at side
      exact side
  · exact absurd none.symm reported

/-- Two reports of one side, both queued before the first is handled. -/
def exampleRepeatedReports : List ReportingAction :=
  [.reported ⟨.pruntime, "slow"⟩, .reported ⟨.pruntime, "gone"⟩, .handled exampleOutside,
    .handled exampleOutside, .handled exampleOutside, .handled exampleOutside]

def exampleFailedWorker : WorkerState :=
  { WorkerState.initial with
    runtime := { WorkerRuntime.new with
      status := .failed { broker := some "refused", pr := none } } }

theorem repeated_reports_keep_other_side :
    ∃ final, replay (reportingStep exampleProcess) exampleFailedWorker exampleRepeatedReports =
        some final ∧
      final.queue = [] ∧
      NoReasonLost exampleFailedWorker.runtime.status.reason (reportsIn exampleRepeatedReports)
        final.runtime.status := by
  have fresh : AtEveryStep (reportingStep exampleProcess) exampleFailedWorker HandlesFreshly
      exampleRepeatedReports := by
    unfold exampleRepeatedReports
    iterate 6 rw [atEveryStep_cons rfl]
    refine ⟨?_, ?_, ?_, ?_, ?_, ?_, atEveryStep_nil⟩ <;>
      rintro outside ⟨_ | _, msg⟩ rest isHandled head <;> cases isHandled <;> cases head <;> rfl
  have drained : ∃ final, replay (reportingStep exampleProcess) exampleFailedWorker
      exampleRepeatedReports = some final ∧ final.queue = [] := ⟨_, rfl, rfl⟩
  obtain ⟨final, run, drained⟩ := drained
  exact ⟨final, run, drained,
    no_reason_lost_of_fresh_turns rfl run fresh drained (by decide)⟩

/-- Two reports of different sides handled before either is applied: the later
one is merged into the old reason, and the earlier one is gone. -/
def exampleCrossingReports : List ReportingAction :=
  [.reported ⟨.broker, "refused"⟩, .reported ⟨.pruntime, "gone"⟩] ++
    List.replicate 4 (.handled exampleOutside)

theorem crossing_reports_lose_reason :
    ∃ final, replay (reportingStep exampleProcess) WorkerState.initial exampleCrossingReports =
        some final ∧ final.queue = [] ∧
      final.runtime.status = .failed { broker := none, pr := some "gone" } ∧
      ¬ NoReasonLost WorkerState.initial.runtime.status.reason (reportsIn exampleCrossingReports)
        final.runtime.status := by
  have left : ∃ final, replay (reportingStep exampleProcess) WorkerState.initial
      exampleCrossingReports = some final ∧ final.queue = [] ∧
      final.runtime.status = .failed { broker := none, pr := some "gone" } := ⟨_, rfl, rfl, rfl⟩
  obtain ⟨final, run, drained, failed⟩ := left
  refine ⟨final, run, drained, failed, ?_⟩
  rw [failed]
  intro ⟨reason, same, broker, _⟩
  cases same
  cases broker

end ServiceNetwork.ServiceWorker
