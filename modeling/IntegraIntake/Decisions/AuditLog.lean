import IntegraIntake.Decisions.Finality
import IntegraIntake.Decisions.Winner

/-!
# The audit log of an approval

`approval_events` gets a row at seven places: a request stages an approval or
replaces the staged command, the end of an attempt cancels what is staged, and a
decision or a sweep writes the end.  Each event is written in the transaction
that changes the row, so the events of an approval say which status it has:

```text
requested replaced*            staged, pending
requested replaced* cancelled  cancelled
requested replaced* rejected   rejected
requested replaced* expired    expired
requested replaced* approved approved_action_executed   approved
```

`AuditStep` says once what a transaction may do to the two tables.  Every
operation is a sequence of such steps, and every such step keeps the log.
-/

namespace IntegraIntake

open Library JobRepository ApprovalRepository ApprovalDecision

/-! ## The log and the status -/

/-- The events of an approval in the order of their commits. -/
def approvalLog (db : Db) (approvalId : Uuid) : List ApprovalEventType :=
  (db.approvalEvents.filter fun event => event.approvalId = approvalId).map ApprovalEvent.eventType

/-- The events that follow the request and its replacements. -/
def closingEvents : ApprovalStatus → List ApprovalEventType
  | .staged | .pending => []
  | .cancelled => [.cancelled]
  | .rejected => [.rejected]
  | .expired => [.expired]
  | .approved => [.approved, .actionExecuted]

/-- A log that says that the approval has this status. -/
def LogMatches (status : ApprovalStatus) (log : List ApprovalEventType) : Prop :=
  ∃ replacements : ℕ,
    log = .requested :: List.replicate replacements .replaced ++ closingEvents status

/-- A change of status and the events written with it. -/
inductive AuditChange : ApprovalStatus → ApprovalStatus → List ApprovalEventType → Prop
  | refreshed : AuditChange .staged .staged []
  | replaced : AuditChange .staged .staged [.replaced]
  | published : AuditChange .staged .pending []
  | cancelled : AuditChange .staged .cancelled [.cancelled]
  | rejected : AuditChange .pending .rejected [.rejected]
  | expired : AuditChange .pending .expired [.expired]
  | approved : AuditChange .pending .approved [.approved, .actionExecuted]

theorem LogMatches.change {status next : ApprovalStatus} {log events : List ApprovalEventType}
    (h : LogMatches status log) (hchange : AuditChange status next events) :
    LogMatches next (log ++ events) := by
  obtain ⟨replacements, rfl⟩ := h
  cases hchange with
  | replaced =>
      refine ⟨replacements + 1, ?_⟩
      simp [closingEvents, List.replicate_succ']
  | refreshed | published | cancelled | rejected | expired | approved =>
      exact ⟨replacements, by simp [closingEvents]⟩

/-! ## Steps of the two tables -/

/-- What a transaction may do to `approvals` and `approval_events`. -/
inductive AuditStep (db next : Db) : Prop
  | same : next.approvals = db.approvals → next.approvalEvents = db.approvalEvents →
      AuditStep db next
  | change {approval changed : Approval} {events : List ApprovalEvent} :
      approval ∈ db.approvals → changed.id = approval.id →
      AuditChange approval.status changed.status (events.map ApprovalEvent.eventType) →
      (∀ event ∈ events, event.approvalId = approval.id) →
      next.approvals = Table.replace Approval.id changed db.approvals →
      next.approvalEvents = db.approvalEvents ++ events → AuditStep db next
  | request {added : Approval} {event : ApprovalEvent} :
      (∀ approval ∈ db.approvals, approval.id ≠ added.id) → added.status = .staged →
      event.approvalId = added.id → event.eventType = .requested →
      next.approvals = db.approvals ++ [added] →
      next.approvalEvents = db.approvalEvents ++ [event] → AuditStep db next

/-- Sequences of such steps. -/
def AuditSteps : Db → Db → Prop :=
  Relation.ReflTransGen AuditStep

/-- Every approval has the log of its status, and every event its approval. -/
structure Audited (db : Db) : Prop where
  unique : Table.Unique Approval.id db.approvals
  log : ∀ approval ∈ db.approvals, LogMatches approval.status (approvalLog db approval.id)
  known : ∀ event ∈ db.approvalEvents, ∃ approval ∈ db.approvals, approval.id = event.approvalId

section Steps

variable {db next : Db}

theorem approvalLog_append {events : List ApprovalEvent}
    (h : next.approvalEvents = db.approvalEvents ++ events) (approvalId : Uuid) :
    approvalLog next approvalId = approvalLog db approvalId ++
      (events.filter fun event => event.approvalId = approvalId).map ApprovalEvent.eventType := by
  unfold approvalLog
  rw [h, List.filter_append, List.map_append]

/-- Events of one approval are in its log and in no other. -/
theorem approvalLog_own {events : List ApprovalEvent} {approvalId : Uuid}
    (h : next.approvalEvents = db.approvalEvents ++ events)
    (hown : ∀ event ∈ events, event.approvalId = approvalId) :
    approvalLog next approvalId =
      approvalLog db approvalId ++ events.map ApprovalEvent.eventType := by
  rw [approvalLog_append h, List.filter_eq_self.2 (by simpa using hown)]

theorem approvalLog_other {events : List ApprovalEvent} {approvalId otherId : Uuid}
    (h : next.approvalEvents = db.approvalEvents ++ events)
    (hown : ∀ event ∈ events, event.approvalId = approvalId) (hne : otherId ≠ approvalId) :
    approvalLog next otherId = approvalLog db otherId := by
  have hnone : (events.filter fun event => event.approvalId = otherId) = [] := by
    rw [List.filter_eq_nil_iff]
    intro event hevent
    rw [hown event hevent]
    simpa using hne.symm
  rw [approvalLog_append h, hnone, List.map_nil, List.append_nil]

theorem Audited.change (h : Audited db) {approval changed : Approval}
    {events : List ApprovalEvent} (hmem : approval ∈ db.approvals)
    (hid : changed.id = approval.id)
    (hchange : AuditChange approval.status changed.status (events.map ApprovalEvent.eventType))
    (hown : ∀ event ∈ events, event.approvalId = approval.id)
    (happrovals : next.approvals = Table.replace Approval.id changed db.approvals)
    (hevents : next.approvalEvents = db.approvalEvents ++ events) : Audited next := by
  have hchanged : changed ∈ next.approvals := by
    rw [happrovals]
    exact Table.mem_replace_self ⟨approval, hmem, hid.symm⟩
  refine ⟨?_, ?_, ?_⟩
  · rw [happrovals]
    exact h.unique.replace
  · intro row hrow
    rw [happrovals] at hrow
    rcases Table.mem_of_mem_replace hrow with rfl | ⟨hold, hne⟩
    · rw [hid, approvalLog_own hevents hown]
      exact (h.log approval hmem).change hchange
    · rw [hid] at hne
      rw [approvalLog_other hevents hown hne]
      exact h.log row hold
  · intro event hevent
    rw [hevents] at hevent
    rcases List.mem_append.1 hevent with hold | hnew
    · obtain ⟨row, hrow, hrowId⟩ := h.known event hold
      by_cases hsame : row.id = changed.id
      · exact ⟨changed, hchanged, hsame.symm.trans hrowId⟩
      · refine ⟨row, ?_, hrowId⟩
        rw [happrovals]
        exact Table.mem_replace_of_ne hrow hsame
    · exact ⟨changed, hchanged, hid.trans (hown event hnew).symm⟩

theorem Audited.request (h : Audited db) {added : Approval} {event : ApprovalEvent}
    (hfresh : ∀ approval ∈ db.approvals, approval.id ≠ added.id) (hstaged : added.status = .staged)
    (hown : event.approvalId = added.id) (htype : event.eventType = .requested)
    (happrovals : next.approvals = db.approvals ++ [added])
    (hevents : next.approvalEvents = db.approvalEvents ++ [event]) : Audited next := by
  have hone : ∀ row ∈ [event], row.approvalId = added.id := by simpa using hown
  refine ⟨?_, ?_, ?_⟩
  · rw [happrovals]
    exact h.unique.append hfresh
  · intro row hrow
    rw [happrovals] at hrow
    rcases List.mem_append.1 hrow with hold | hnew
    · rw [approvalLog_other hevents hone (hfresh row hold)]
      exact h.log row hold
    · -- no event of an approval comes before its request
      have hempty : approvalLog db added.id = [] := by
        unfold approvalLog
        rw [List.map_eq_nil_iff, List.filter_eq_nil_iff]
        intro earlier hearlier
        obtain ⟨approval, happroval, happrovalId⟩ := h.known earlier hearlier
        rw [← happrovalId]
        simpa using hfresh approval happroval
      rw [List.mem_singleton.1 hnew, hstaged, approvalLog_own hevents hone, hempty]
      exact ⟨0, by simp [htype, closingEvents]⟩
  · intro row hrow
    rw [hevents] at hrow
    rw [happrovals]
    rcases List.mem_append.1 hrow with hold | hnew
    · obtain ⟨approval, happroval, happrovalId⟩ := h.known row hold
      exact ⟨approval, List.mem_append_left _ happroval, happrovalId⟩
    · rw [List.mem_singleton.1 hnew]
      exact ⟨added, by simp, hown.symm⟩

theorem Audited.step (h : Audited db) (hstep : AuditStep db next) : Audited next := by
  cases hstep with
  | same happrovals hevents =>
      refine ⟨?_, ?_, ?_⟩
      · rw [happrovals]
        exact h.unique
      · unfold approvalLog
        rw [happrovals, hevents]
        exact h.log
      · rw [happrovals, hevents]
        exact h.known
  | change hmem hid hchange hown happrovals hevents =>
      exact h.change hmem hid hchange hown happrovals hevents
  | request hfresh hstaged hown htype happrovals hevents =>
      exact h.request hfresh hstaged hown htype happrovals hevents

theorem Audited.steps (h : Audited db) (hsteps : AuditSteps db next) : Audited next := by
  induction hsteps with
  | refl => exact h
  | tail _ hstep ih => exact ih.step hstep

end Steps

/-! ## The operations of the workers -/

section Operations

variable {db next : Db} {services : Services}

theorem AuditSteps.of_eq (happrovals : next.approvals = db.approvals)
    (hevents : next.approvalEvents = db.approvalEvents) : AuditSteps db next :=
  .single (.same happrovals hevents)

/-- One row changes, and the transaction writes the events of the change. -/
theorem AuditSteps.change {approval : Approval} (changed : Approval) (events : List ApprovalEvent)
    (hmem : approval ∈ db.approvals) (hid : changed.id = approval.id)
    (hchange : AuditChange approval.status changed.status (events.map ApprovalEvent.eventType))
    (hown : ∀ event ∈ events, event.approvalId = approval.id)
    (happrovals : next.approvals = Table.replace Approval.id changed db.approvals)
    (hevents : next.approvalEvents = db.approvalEvents ++ events) : AuditSteps db next :=
  .single (.change hmem hid hchange hown happrovals hevents)

theorem createForRunningJob_audit (newId tenantId jobId : Uuid) (attemptCount : ℕ)
    (action : PendingAction) (policyReason : String) (expiresIn : ℤ) (now : Timestamp) (db : Db) :
    AuditSteps db (createForRunningJob newId tenantId jobId attemptCount action policyReason
      expiresIn now db).2 := by
  unfold createForRunningJob
  simp only [Session.transaction, Session.read_bind_run]
  cases hjob : db.job? jobId tenantId with
  | none => exact .refl
  | some job =>
      by_cases hrunning : job.status = .running ∧ job.attemptCount = attemptCount
      · simp only [hrunning, not_true_eq_false, if_false, and_self]
        cases happroval : db.approvalOf? jobId tenantId with
        | some existing =>
            obtain ⟨hexisting, -, -⟩ := approvalOf?_eq_some happroval
            simp only [refreshStaged]
            split_ifs with hpending hdeadline hstaged hdiffers
            · exact .refl
            · exact .refl
            · exact .refl
            · -- the command differs: the row is replaced, with an event
              refine .change (replacedRow job existing action policyReason (now + expiresIn))
                [requestEvent tenantId existing.id .replaced action.name policyReason] hexisting
                rfl ?_ (by simp [requestEvent]) rfl rfl
              show AuditChange existing.status existing.status [.replaced]
              rw [not_not.1 hstaged]
              exact .replaced
            · -- the same command again: only the deadline moves
              refine .change (refreshedRow existing (now + expiresIn)) [] hexisting rfl ?_ (by simp)
                rfl (List.append_nil _).symm
              show AuditChange existing.status existing.status []
              rw [not_not.1 hstaged]
              exact .refreshed
        | none =>
            simp only [stageNew, Session.read_bind_run]
            split_ifs with hfresh
            · exact .refl
            · simp only [List.any_eq_true, decide_eq_true_eq, not_exists, not_and, not_or] at hfresh
              exact .single
                (.request (fun approval hmem => (hfresh approval hmem).1) rfl rfl rfl rfl rfl)
      · simp only [hrunning, not_false_eq_true, if_true]
        exact .refl

theorem cancelStagedApproval_audit (jobId tenantId : Uuid) (db : Db) :
    AuditSteps db (cancelStagedApproval jobId tenantId db) := by
  rcases cancelStagedApproval_cases jobId tenantId db with
    ⟨hsame, -⟩ | ⟨approval, happroval, -, -, hstaged, hcancel⟩
  · rw [hsame]
    exact .refl
  · rw [hcancel]
    refine .change (approval.withStatus .cancelled)
      [⟨tenantId, approval.id, .cancelled, none, .obj []⟩]
      happroval rfl ?_ (by simp) rfl rfl
    rw [hstaged]
    exact .cancelled

theorem AuditSteps.setJob (h : AuditSteps db next) (job : AgentJob) :
    AuditSteps db (next.setJob job) :=
  Relation.ReflTransGen.trans h (AuditSteps.of_eq rfl rfl)

theorem markTerminal_audit (jobId : Uuid) (status : JobStatus) (now : Timestamp) (tenantId : Uuid)
    (attemptCount : ℕ) (result : Option Json) (errorCode : Option String) (db : Db) :
    AuditSteps db (markTerminal jobId status now tenantId attemptCount result errorCode db).2 := by
  rcases markTerminal_cases jobId status now tenantId attemptCount result errorCode db with
    ⟨error, heq⟩ | ⟨job, -, heq⟩
  · rw [heq]
    exact .refl
  · rw [heq]
    exact (cancelStagedApproval_audit jobId tenantId db).setJob _

theorem recordAwaitingApprovalResult_audit (jobId : Uuid) (result : Json) (tenantId : Uuid)
    (attemptCount : ℕ) (db : Db) :
    AuditSteps db (recordAwaitingApprovalResult jobId result tenantId attemptCount db).2 := by
  rcases recordAwaitingApprovalResult_cases jobId result tenantId attemptCount db with
    ⟨error, heq⟩ | ⟨job, approval, -, happroval, -, -, hstaged, heq⟩
  · rw [heq]
    exact .refl
  · rw [heq]
    refine .change (approval.withStatus .pending) [] happroval rfl ?_ (by simp) rfl
      (List.append_nil _).symm
    rw [hstaged]
    exact .published

theorem recoverLease_audit (now : Timestamp) (maxRetries : ℕ) (retryDelay : ℤ) (db : Db)
    (job : AgentJob) : AuditSteps db (recoverLease now maxRetries retryDelay db job) := by
  unfold recoverLease
  split
  · exact (cancelStagedApproval_audit job.id job.tenantId db).setJob _
  · split
    · exact .of_eq rfl rfl
    · exact (cancelStagedApproval_audit job.id job.tenantId db).setJob _

theorem recoverExpiredLeases_audit (now : Timestamp) (maxRetries : ℕ) (retryDelay : ℤ)
    (locked : Uuid → Bool) (db : Db) :
    AuditSteps db (recoverExpiredLeases now maxRetries retryDelay locked db) := by
  unfold recoverExpiredLeases
  generalize db.jobs.filter (leaseExpired now locked) = selected
  induction selected generalizing db with
  | nil => exact .refl
  | cons job rest ih => exact (recoverLease_audit now maxRetries retryDelay db job).trans (ih _)

/-- The workers' part: every operation that is not a decision or a sweep. -/
theorem worker_audit (operation : Operation) (hworker : operation.isWorker = true) (db : Db) :
    AuditSteps db (operation.apply services db) := by
  cases operation with
  | enqueue new =>
      rcases insertJob_cases new db with heq | ⟨-, heq⟩ <;> rw [Operation.apply, heq] <;>
        exact .of_eq rfl rfl
  | claimNext now leaseUntil excluded locked =>
      rcases claimNext_cases now leaseUntil excluded locked db with heq | ⟨job, -, -, -, heq⟩ <;>
        rw [Operation.apply, heq] <;> exact .of_eq rfl rfl
  | renewLease jobId tenantId attemptCount leaseUntil =>
      rcases renewLease_cases jobId tenantId attemptCount leaseUntil db with heq | ⟨job, -, heq⟩ <;>
        rw [Operation.apply, heq] <;> exact .of_eq rfl rfl
  | createForRunningJob newId tenantId jobId attemptCount action policyReason expiresIn now =>
      exact createForRunningJob_audit newId tenantId jobId attemptCount action policyReason
        expiresIn now db
  | recordAwaitingApprovalResult jobId result tenantId attemptCount =>
      exact recordAwaitingApprovalResult_audit jobId result tenantId attemptCount db
  | markSucceeded | markFailed | markFailedUncertain => exact markTerminal_audit ..
  | scheduleRetry jobId errorCode availableAt tenantId attemptCount =>
      rcases scheduleRetry_cases jobId errorCode availableAt tenantId attemptCount db with
        ⟨error, heq⟩ | ⟨job, -, heq⟩ <;> rw [Operation.apply, heq] <;> exact .of_eq rfl rfl
  | recoverExpiredLeases now maxRetries retryDelay locked =>
      exact recoverExpiredLeases_audit now maxRetries retryDelay locked db
  | decide => cases hworker
  | expireDue => cases hworker

end Operations

/-! ## Decisions and sweeps -/

section Decisions

variable {db next : Db} {services : Services}

theorem expiredDb_audit {now : Timestamp} {approval : Approval} {job : AgentJob}
    (hparked : Parked db approval job) : AuditSteps db (expiredDb now approval job db) := by
  refine .change (expiredRow now approval)
    [⟨approval.tenantId, approval.id, .expired, some "system_timeout", .obj []⟩] hparked.mem rfl ?_
    (by simp) rfl rfl
  rw [hparked.pending]
  exact .expired

theorem Decided.audit {newId : Uuid} {approval : Approval} {operator : Operator}
    {request : DecisionRequest} {now : Timestamp} {verdict : Verdict}
    (h : Decided services newId approval operator request now db verdict next) :
    AuditSteps db next := by
  cases h with
  | reused => exact .refl
  | expired hparked => exact expiredDb_audit hparked
  | rejected hparked =>
      refine .change (rejectedRow operator request now approval)
        [⟨approval.tenantId, approval.id, .rejected, some operator.actorRef, .obj []⟩] hparked.mem
        rfl ?_ (by simp) rfl rfl
      rw [hparked.pending]
      exact .rejected
  | @approved job value action executed working hparked _ _ hexecute =>
      obtain ⟨-, -, handled, -, -, -, happroval, -⟩ := execute_ok hexecute
      have htables := execute_tables hexecute
      simp only [lifecycleTables, Prod.mk.injEq] at htables
      obtain ⟨-, happrovals, hevents⟩ := htables
      refine .change (approvedRow operator request now executed)
        [⟨approval.tenantId, approval.id, .approved, some operator.actorRef, .obj []⟩,
          ⟨approval.tenantId, approval.id, .actionExecuted, some operator.actorRef,
            .obj [("action", .str approval.action), ("executed", .bool true)]⟩] hparked.mem ?_ ?_
        (by simp) ?_ ?_
      · rw [approvedRow, happroval]
      · rw [hparked.pending]
        exact .approved
      · rw [← happrovals]
        rfl
      · rw [← hevents]
        exact List.append_assoc _ _ _

theorem Expirations.audit {now : Timestamp} {selected : List Approval}
    (h : Expirations now db selected next) : AuditSteps db next := by
  induction h with
  | nil => exact .refl
  | cons hparked _ _ ih => exact (expiredDb_audit hparked).trans ih

theorem Lifecycle.conclude_audit (h : Lifecycle db) (services : Services) (call : DecideCall)
    {approval : Approval} (happroval : approval ∈ db.approvals) :
    AuditSteps db (call.conclude services approval db).2 := by
  rcases h.decideHolding_cases happroval services call.newId call.operator call.request call.now
    with ⟨error, working, -, heq⟩ | ⟨verdict, working, -, hdecided, heq⟩
  · rw [DecideCall.conclude, heq]
    exact .refl
  · rw [DecideCall.conclude, heq, report_state]
    exact hdecided.audit

end Decisions

/-! ## Runs -/

/-- Concurrent runs from a database without approval events: an event refers to an
approval, and there is none at the start. -/
def auditMachine (services : Services) : Machine DecisionState DecisionStep where
  initial state := (decisionMachine services).initial state ∧ state.db.approvalEvents = []
  step := decisionStep services

section Runs

variable {services : Services} {state next : DecisionState}

theorem auditMachine_reachable (h : (auditMachine services).Reachable state) :
    (decisionMachine services).Reachable state :=
  h.invariant (fun _ hinitial => .initial hinitial.1)
    fun _ _ _ _ hreachable hstep => hreachable.step hstep

/-- A step of the machine is a sequence of steps of the log. -/
theorem DecisionTaken.audit {label : DecisionStep} (hinvariant : DecisionInvariant state)
    (h : DecisionTaken services state label next) : AuditSteps state.db next.db := by
  cases h with
  | worker hworker => exact worker_audit _ hworker _
  | absent | waits | lost | holds | selects => exact .refl
  | @concluded process call approval outcome _ hholding hrun =>
      obtain ⟨happroval, -⟩ := hinvariant.held process call approval hholding
      have hsteps := hinvariant.lifecycle.conclude_audit services call happroval
      rw [hrun] at hsteps
      exact hsteps
  | swept hsweeping hnext =>
      have hexpired := hinvariant.expirations hsweeping
      rw [hnext] at hexpired
      exact hexpired.audit

theorem audited_of_reachable (h : (auditMachine services).Reachable state) : Audited state.db := by
  refine h.invariant (P := fun state => Audited state.db) ?_ ?_
  · rintro start ⟨⟨-, happrovals, -⟩, hevents⟩
    constructor <;> simp [happrovals, hevents, Table.Unique]
  · intro before label after hbefore haudited hstep
    have hinvariant := decisionInvariant_of_reachable (auditMachine_reachable hbefore)
    exact haudited.steps ((decisionTaken_of_step hstep).audit hinvariant)

end Runs

/-- In every state that attempts, replacements, cancellations, decisions and sweeps
lead to, in any order and interleaving, the events of an approval are the request,
its replacements and the end that its status says. -/
theorem approval_events_match_status (services : Services) {state : DecisionState}
    (h : (auditMachine services).Reachable state) {approval : Approval}
    (happroval : approval ∈ state.db.approvals) :
    ∃ replacements : ℕ, approvalLog state.db approval.id =
      .requested :: List.replicate replacements .replaced ++ closingEvents approval.status :=
  (audited_of_reachable h).log approval happroval

/-- A staged command is replaced, published and rejected. -/
def rejectedSteps : List DecisionStep :=
  [.worker (.enqueue replyNewJob),
    .worker (.claimNext 0 60 [] fun _ => false),
    .worker (.createForRunningJob 3 7 1 1 ⟨1, "flag_for_review", [], []⟩ "requires_approval" 100 5),
    .worker (.createForRunningJob 4 7 1 1 ⟨1, "create_reply_draft", [], []⟩ "requires_approval"
      100 6),
    .worker (.recordAwaitingApprovalResult 1 (.obj []) 7 1),
    .begin 1 (rejection "anna"), .acquire 1, .finish 1]

theorem approval_events_match_status_rejected :
    ∃ state approval, (auditMachine replyServices).Reachable state ∧
      approval ∈ state.db.approvals ∧ approval.status = .rejected ∧
      approvalLog state.db approval.id = [.requested, .replaced, .rejected] ∧
      ∃ replacements : ℕ, approvalLog state.db approval.id =
        .requested :: List.replicate replacements .replaced ++ closingEvents approval.status := by
  have hrun : ∃ state approval, (auditMachine replyServices).run idleState rejectedSteps =
      some state ∧ approval ∈ state.db.approvals ∧ approval.status = .rejected ∧
      approvalLog state.db approval.id = [.requested, .replaced, .rejected] :=
    ⟨_, _, rfl, List.mem_cons_self, rfl, rfl⟩
  obtain ⟨state, approval, hstate, happroval, hstatus, hlog⟩ := hrun
  have hreachable : (auditMachine replyServices).Reachable state :=
    Machine.Reachable.run (.initial ⟨⟨rfl, rfl, fun _ => rfl, fun _ => rfl⟩, rfl⟩) rejectedSteps
      hstate
  exact ⟨state, approval, hreachable, happroval, hstatus, hlog,
    approval_events_match_status replyServices hreachable happroval⟩

end IntegraIntake
