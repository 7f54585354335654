import IntegraIntake.Lifecycle.ApprovalOperations

/-!
# Decisions as moves

`Decided` lists the databases that the transaction of `decide` can commit: the
old one, when the same decision was already final, or the expiry, the rejection
or the approval of a pending approval together with the end of its job.  The
executor writes only business rows, so the two tables of the lifecycle change
in the decision's own writes.
-/

namespace IntegraIntake

open Library JobRepository ApprovalRepository ApprovalDecision

/-! ## The frame of the executor -/

/-- The tables of the lifecycle. -/
def lifecycleTables (db : Db) : List AgentJob × List Approval × List ApprovalEvent :=
  (db.jobs, db.approvals, db.approvalEvents)

theorem createForJob_keeps (newId tenantId jobId : Uuid) (kind : ArtifactKind) (payload : Json) :
    Session.Keeps lifecycleTables (createForJob newId tenantId jobId kind payload) := by
  refine Session.Keeps.read.bind fun db => ?_
  cases db.artifact? tenantId jobId kind with
  | some existing => exact .pure _
  | none =>
      dsimp only
      split
      · exact .raise _
      · exact Session.Keeps.bind (.write (by exact fun _ => rfl)) fun _ => .pure _

/-- No handler touches jobs, approvals or approval events. -/
theorem handle_keeps (services : Services) (newId : Uuid) (approval : Approval) (job : AgentJob)
    (action : PendingAction) (arguments : ToolArgs) :
    Session.Keeps lifecycleTables
      (ApprovalExecutor.handle services newId approval job action arguments) := by
  cases arguments with
  | findCustomer values => exact Session.Keeps.read.bind fun _ => .pure _
  | createCase values =>
      refine Session.Keeps.read.bind fun db => ?_
      cases db.idempotencyOf? job.id approval.tenantId with
      | none => exact .raise _
      | some record =>
          dsimp only
          cases record.caseId with
          | some caseId =>
              dsimp only
              cases db.case? caseId approval.tenantId with
              | none => exact .raise _
              | some existing => exact .pure _
          | none =>
              refine Session.Keeps.read.bind fun db => ?_
              split
              · exact .raise _
              · refine (Session.Keeps.orRaise _ _).bind fun source => ?_
                split
                · exact .raise _
                · exact Session.Keeps.bind (.write (by exact fun _ => rfl)) fun _ => .pure _
  | updateCaseFields values =>
      refine Session.Keeps.read.bind fun db => ?_
      cases db.case? values.caseId approval.tenantId with
      | none => exact .raise _
      | some case => exact Session.Keeps.bind (.write (by exact fun _ => rfl)) fun _ => .pure _
  | createReplyDraft values =>
      refine Session.Keeps.bind ?_ fun caseId => (Session.Keeps.orRaise _ _).bind fun source =>
        (createForJob_keeps _ _ _ _ _).bind fun _ => .pure _
      unfold ApprovalExecutor.namedCase
      cases values.caseId with
      | none => exact .pure _
      | some caseId =>
          refine Session.Keeps.read.bind fun db => ?_
          cases db.case? caseId approval.tenantId with
          | none => exact .raise _
          | some case => exact .pure _
  | flagForReview values => exact (createForJob_keeps _ _ _ _ _).bind fun _ => .pure _

/-- An execution that returns sets the case on the approval and, for an action
that commits a side effect, the marker on the parked job. -/
theorem execute_ok {services : Services} {newId : Uuid} {approval : Approval} {job : AgentJob}
    {action : PendingAction} {now : Timestamp} {db working : Db}
    {executed : ApprovalExecutor.Executed}
    (h : ApprovalExecutor.execute services newId approval job action now db =
      (.ok executed, working)) :
    ∃ capability arguments handled, requireAction action.name = some capability ∧
      ToolArgs.modelValidate capability.key action.arguments = .ok arguments ∧
      ApprovalExecutor.handle services newId approval job action arguments db =
        (.ok handled, working) ∧
      executed.approval = { approval with caseId := handled.caseId } ∧
      executed.job = { job with sideEffectCommittedAt :=
        if capability.commitsSideEffect then some now else job.sideEffectCommittedAt } ∧
      executed.result = .obj handled.result ∧ approval.action = action.name := by
  unfold ApprovalExecutor.execute at h
  split at h
  · cases h
  · rename_i htrusted
    simp only [not_or, not_not] at htrusted
    cases hcapability : requireAction action.name with
    | none =>
        rw [hcapability] at h
        cases h
    | some capability =>
        simp only [hcapability] at h
        split at h
        · cases h
        · cases harguments : ToolArgs.modelValidate capability.key action.arguments with
          | error error =>
              rw [harguments] at h
              cases h
          | ok arguments =>
              simp only [harguments] at h
              obtain ⟨handled, after, hhandle, hrest⟩ := Session.bind_eq_ok h
              cases hrest
              exact ⟨capability, arguments, handled, rfl, harguments, hhandle, rfl, rfl, rfl,
                htrusted.2.2⟩

/-! ## What a transaction commits -/

/-- The database after a rejection. -/
def rejectedDb (operator : Operator) (request : DecisionRequest) (now : Timestamp)
    (approval : Approval) (job : AgentJob) (db : Db) : Db :=
  ((db.setApproval (rejectedRow operator request now approval)).addApprovalEvent
    ⟨approval.tenantId, approval.id, .rejected, some operator.actorRef, .obj []⟩).setJob
    (decidedRow (rejectedRow operator request now approval) job now .succeeded none
      "approval_rejected")

/-- The database after an approval whose action left `working`. -/
def approvedDb (operator : Operator) (request : DecisionRequest) (now : Timestamp)
    (approval : Approval) (executed : ApprovalExecutor.Executed) (working : Db) : Db :=
  (((working.setApproval (approvedRow operator request now executed)).addApprovalEvent
    ⟨approval.tenantId, approval.id, .approved, some operator.actorRef, .obj []⟩).addApprovalEvent
    ⟨approval.tenantId, approval.id, .actionExecuted, some operator.actorRef,
      .obj [("action", .str approval.action), ("executed", .bool true)]⟩).setJob
    (decidedRow (approvedRow operator request now executed) executed.job now .succeeded none
      "tool_result")

/-- The verdicts and databases with which the transaction of `decide` returns. -/
inductive Decided (services : Services) (newId : Uuid) (approval : Approval) (operator : Operator)
    (request : DecisionRequest) (now : Timestamp) (db : Db) : Verdict → Db → Prop
  | reused {value : DecisionResponse} : approval.status.isFinal = true →
      isSameFinalDecision approval request.decision = true → response approval = .ok value →
      Decided services newId approval operator request now db (.response value) db
  | expired {job : AgentJob} {verdict : Verdict} : Parked db approval job →
      (∃ deadline ∈ approval.expiresAt, deadline ≤ now) →
      (request.decision = .approve → verdict = .expired) →
      (request.decision = .reject → ∃ value, verdict = .response value ∧
        response (expiredRow now approval) = .ok value) →
      Decided services newId approval operator request now db verdict
        (expiredDb now approval job db)
  | rejected {job : AgentJob} {value : DecisionResponse} : Parked db approval job →
      (∃ deadline ∈ approval.expiresAt, now < deadline) → request.decision = .reject →
      response (rejectedRow operator request now approval) = .ok value →
      Decided services newId approval operator request now db (.response value)
        (rejectedDb operator request now approval job db)
  | approved {job : AgentJob} {value : DecisionResponse} {action : PendingAction}
      {executed : ApprovalExecutor.Executed} {working : Db} : Parked db approval job →
      (∃ deadline ∈ approval.expiresAt, now < deadline) → request.decision = .approve →
      ApprovalExecutor.execute services newId approval job action now db =
        (.ok executed, working) →
      response (approvedRow operator request now executed) = .ok value →
      Decided services newId approval operator request now db (.response value)
        (approvedDb operator request now approval executed working)

section Locked

variable {services : Services} {newId : Uuid} {approval : Approval} {operator : Operator}
  {request : DecisionRequest} {now : Timestamp} {db next : Db} {verdict : Verdict}

/-- Under the invariant the locked approval has its job and payload, and the
transaction goes on when the profile resolves. -/
theorem Lifecycle.decideLocked_eq (h : Lifecycle db) (happroval : approval ∈ db.approvals)
    (services : Services) (newId : Uuid) (operator : Operator) (request : DecisionRequest)
    (now : Timestamp) :
    ∃ job ∈ db.jobs, ∃ pending deadline, approval.jobId = some job.id ∧
      approval.tenantId = job.tenantId ∧ approval.expiresAt = some deadline ∧
      decideLocked services newId approval operator request now db =
        match services.resolvePersistedProfile job.tenantConfigSnapshot job.tenantConfigSha256 with
        | none =>
          (.error (.approvalDecisionConflict "approval trusted profile is unavailable"), db)
        | some profile => decideResolved services newId approval pending deadline job profile
            operator request now db := by
  obtain ⟨job, hjob, hthis, htenant, -⟩ := h.coupled approval happroval
  have hok := h.approval_ok approval happroval
  obtain ⟨pending, hpending⟩ := Option.isSome_iff_exists.1 hok.pending_action
  obtain ⟨sha256, hsha256⟩ := Option.isSome_iff_exists.1 hok.config_sha256
  obtain ⟨deadline, hdeadline⟩ := Option.isSome_iff_exists.1 hok.expires_at
  refine ⟨job, hjob, pending, deadline, hthis, htenant, hdeadline, ?_⟩
  unfold decideLocked
  simp only [hthis, hpending, hsha256, hdeadline, htenant, Session.read_bind_run, h.job?_eq hjob]
  split <;> simp_all

theorem ofExcept_eq_ok {α : Type} {check : Except AppError α} {a : α} {final : Db}
    (h : ofExcept check db = (.ok a, final)) : check = .ok a ∧ final = db := by
  cases check with
  | ok value =>
      cases h
      exact ⟨rfl, rfl⟩
  | error error => cases h

theorem expireBranch_ok {job : AgentJob} (hparked : Parked db approval job)
    (hdue : ∃ deadline ∈ approval.expiresAt, deadline ≤ now)
    (h : expireBranch approval job request now db = (.ok verdict, next)) :
    Decided services newId approval operator request now db verdict next := by
  obtain ⟨expired, working, hexpire, hrest⟩ := Session.bind_eq_ok h
  simp only [expireLocked, hparked.pending, ne_eq, not_true_eq_false, if_false] at hexpire
  cases hexpire
  obtain ⟨_, final, hfinalize, hrest⟩ := Session.bind_eq_ok hrest
  rw [finalizeJob_of_awaiting hparked.awaiting rfl] at hfinalize
  cases hfinalize
  cases hdecision : request.decision with
  | approve =>
      rw [hdecision] at hrest
      cases hrest
      exact .expired hparked hdue (fun _ => rfl) fun hreject => by
        rw [hdecision] at hreject
        cases hreject
  | reject =>
      rw [hdecision] at hrest
      obtain ⟨value, last, hvalue, hlast⟩ := Session.bind_eq_ok hrest
      obtain ⟨hresponse, rfl⟩ := ofExcept_eq_ok hvalue
      cases hlast
      refine .expired hparked hdue (fun happrove => ?_) fun _ => ⟨value, rfl, hresponse⟩
      rw [hdecision] at happrove
      cases happrove

theorem rejectBranch_ok {job : AgentJob} (hparked : Parked db approval job)
    (htime : ∃ deadline ∈ approval.expiresAt, now < deadline)
    (hdecision : request.decision = .reject)
    (h : rejectBranch approval job operator request now db = (.ok verdict, next)) :
    Decided services newId approval operator request now db verdict next := by
  simp only [rejectBranch, Session.write_bind_run] at h
  obtain ⟨_, working, hfinalize, hrest⟩ := Session.bind_eq_ok h
  rw [finalizeJob_of_awaiting hparked.awaiting rfl] at hfinalize
  cases hfinalize
  obtain ⟨value, last, hvalue, hlast⟩ := Session.bind_eq_ok hrest
  obtain ⟨hresponse, rfl⟩ := ofExcept_eq_ok hvalue
  cases hlast
  exact .rejected hparked htime hdecision hresponse

theorem approveBranch_ok {job : AgentJob} {pending : Json}
    {profile : TenantConfig × Option CompiledTenantProfile} (hparked : Parked db approval job)
    (htime : ∃ deadline ∈ approval.expiresAt, now < deadline)
    (hdecision : request.decision = .approve)
    (h : approveBranch services newId approval pending job profile operator request now db =
      (.ok verdict, next)) :
    Decided services newId approval operator request now db verdict next := by
  obtain ⟨action, first, haction, hrest⟩ := Session.bind_eq_ok h
  obtain ⟨-, rfl⟩ := ofExcept_eq_ok haction
  obtain ⟨executed, working, hexecute, hrest⟩ := Session.bind_eq_ok hrest
  simp only [Session.write_bind_run] at hrest
  obtain ⟨_, final, hfinalize, hrest⟩ := Session.bind_eq_ok hrest
  obtain ⟨capability, arguments, handled, -, -, -, -, hjob, -⟩ := execute_ok hexecute
  have hawaiting : executed.job.status = .awaitingApproval := by
    rw [hjob]
    exact hparked.awaiting
  rw [finalizeJob_of_awaiting hawaiting rfl] at hfinalize
  cases hfinalize
  obtain ⟨value, last, hvalue, hlast⟩ := Session.bind_eq_ok hrest
  obtain ⟨hresponse, rfl⟩ := ofExcept_eq_ok hvalue
  cases hlast
  exact .approved hparked htime hdecision hexecute hresponse

/-- Every transaction that commits leaves one of the listed databases. -/
theorem Lifecycle.decideLocked_ok (h : Lifecycle db) (happroval : approval ∈ db.approvals)
    (hrun : decideLocked services newId approval operator request now db = (.ok verdict, next)) :
    Decided services newId approval operator request now db verdict next := by
  obtain ⟨job, hjob, pending, deadline, hthis, htenant, hdeadline, heq⟩ :=
    h.decideLocked_eq happroval services newId operator request now
  rw [heq] at hrun
  cases hprofile : services.resolvePersistedProfile job.tenantConfigSnapshot
      job.tenantConfigSha256 with
  | none =>
      rw [hprofile] at hrun
      cases hrun
  | some profile =>
      simp only [hprofile, decideResolved] at hrun
      by_cases hfinal : approval.status.isFinal = true
      · rw [if_pos hfinal] at hrun
        by_cases hsame : isSameFinalDecision approval request.decision = true
        · rw [if_pos hsame] at hrun
          obtain ⟨value, last, hvalue, hlast⟩ := Session.bind_eq_ok hrun
          obtain ⟨hresponse, rfl⟩ := ofExcept_eq_ok hvalue
          cases hlast
          exact .reused hfinal hsame hresponse
        · rw [if_neg hsame] at hrun
          cases hrun
      · rw [if_neg hfinal] at hrun
        by_cases hpending : approval.status = .pending
        · have hawaiting := (h.coupled_of_job happroval hjob hthis).2
          rw [hpending] at hawaiting
          have hparked : Parked db approval job := ⟨happroval, hpending, hjob, hthis, hawaiting⟩
          rw [if_neg (by simp [hpending])] at hrun
          by_cases hdue : deadline ≤ now
          · rw [if_pos hdue] at hrun
            exact expireBranch_ok hparked ⟨deadline, hdeadline, hdue⟩ hrun
          · rw [if_neg hdue] at hrun
            have htime : ∃ deadline ∈ approval.expiresAt, now < deadline :=
              ⟨deadline, hdeadline, not_le.1 hdue⟩
            cases hdecision : request.decision with
            | reject =>
                simp only [hdecision] at hrun
                exact rejectBranch_ok hparked htime hdecision hrun
            | approve =>
                simp only [hdecision] at hrun
                exact approveBranch_ok hparked htime hdecision hrun
        · rw [if_pos hpending] at hrun
          cases hrun

end Locked

/-! ## Decisions are moves -/

section Decided

variable {services : Services} {newId : Uuid} {approval : Approval} {operator : Operator}
  {request : DecisionRequest} {now : Timestamp} {db next : Db} {verdict : Verdict}

theorem ApprovalOk.rejectedRow (h : ApprovalOk approval) (hpending : approval.status = .pending)
    (htime : ∃ deadline ∈ approval.expiresAt, now < deadline) (operator : Operator)
    (request : DecisionRequest) : ApprovalOk (rejectedRow operator request now approval) := by
  obtain ⟨deadline, hdeadline, hlt⟩ := htime
  refine ⟨h.pending_action, h.config_sha256, h.expires_at, ?_, ?_, ?_⟩
  · simp [ApprovalDecision.rejectedRow, h.not_executed hpending]
  · exact fun _ => ⟨now, rfl, deadline, hdeadline, hlt⟩
  · simp [ApprovalDecision.rejectedRow]

theorem ApprovalOk.approvedRow {executed : ApprovalExecutor.Executed}
    (h : ApprovalOk approval) (htime : ∃ deadline ∈ approval.expiresAt, now < deadline)
    {caseId : Option Uuid} (hexecuted : executed.approval = { approval with caseId := caseId })
    (operator : Operator) (request : DecisionRequest) :
    ApprovalOk (approvedRow operator request now executed) := by
  obtain ⟨deadline, hdeadline, hlt⟩ := htime
  refine ⟨?_, ?_, ?_, ?_, ?_, ?_⟩ <;> simp only [ApprovalDecision.approvedRow, hexecuted]
  · exact h.pending_action
  · exact h.config_sha256
  · exact h.expires_at
  · simp
  · exact fun _ => ⟨now, rfl, deadline, hdeadline, hlt⟩
  · simp

theorem Parked.jobMove {job row : AgentJob} (h : Parked db approval job) (hid : row.id = job.id)
    (htenant : row.tenantId = job.tenantId)
    (hsnapshot : row.tenantConfigSnapshot = job.tenantConfigSnapshot)
    (hsha256 : row.tenantConfigSha256 = job.tenantConfigSha256) : JobMove job row :=
  ⟨by simp [h.awaiting, JobStatus.isTerminal], hid, htenant, hsnapshot, hsha256⟩

/-- What an execution leaves of the lifecycle's tables. -/
theorem execute_tables {job : AgentJob} {action : PendingAction}
    {executed : ApprovalExecutor.Executed} {working : Db}
    (h : ApprovalExecutor.execute services newId approval job action now db =
      (.ok executed, working)) : lifecycleTables working = lifecycleTables db := by
  obtain ⟨_, arguments, handled, -, -, hhandle, -⟩ := execute_ok h
  have hkeeps := handle_keeps services newId approval job action arguments db
  rw [hhandle] at hkeeps
  exact hkeeps

theorem Decided.moves (h : Lifecycle db)
    (hdecided : Decided services newId approval operator request now db verdict next) :
    Moves db next := by
  cases hdecided with
  | reused => exact .refl
  | expired hparked hdue =>
      exact h.moves_expiredDb hparked hdue
  | @rejected job _ hparked htime =>
      exact moves_decided (rejectedRow operator request now approval)
        (decidedRow (rejectedRow operator request now approval) job now .succeeded none
          "approval_rejected") hparked.mem hparked.pending hparked.job_mem hparked.job_eq
        (hparked.jobMove rfl rfl rfl rfl) rfl rfl rfl rfl
        ((h.approval_ok approval hparked.mem).rejectedRow hparked.pending htime operator request)
        rfl rfl rfl rfl rfl
  | @approved job _ action executed working hparked htime _ hexecute =>
      have htables := execute_tables hexecute
      simp only [lifecycleTables, Prod.mk.injEq] at htables
      obtain ⟨_, _, handled, -, -, -, happroval, hjob, -⟩ := execute_ok hexecute
      refine moves_decided (approvedRow operator request now executed)
        (decidedRow (approvedRow operator request now executed) executed.job now .succeeded none
          "tool_result") hparked.mem hparked.pending hparked.job_mem hparked.job_eq ?_ rfl ?_ ?_ ?_
        ((h.approval_ok approval hparked.mem).approvedRow htime happroval operator request)
        rfl rfl rfl ?_ ?_
      · exact hparked.jobMove (by rw [decidedRow, hjob]) (by rw [decidedRow, hjob])
          (by rw [decidedRow, hjob]) (by rw [decidedRow, hjob])
      · rw [approvedRow, happroval]
      · rw [approvedRow, happroval]
      · rw [approvedRow, happroval]
      · rw [← htables.1]
        rfl
      · rw [← htables.2.1]
        rfl

theorem getForTenant_eq_some {approvalId tenantId : Uuid}
    (h : getForTenant approvalId tenantId db = some approval) :
    approval ∈ db.approvals ∧ approval.id = approvalId ∧ approval.tenantId = tenantId ∧
      publishedLifecycle approval (joinedJob db approval) = true :=
  ⟨List.mem_of_find?_eq_some h, by simpa using List.find?_some h⟩

/-- A decision is what is left of it after its lock statement. -/
theorem decide_eq (services : Services) (newId approvalId : Uuid) (operator : Operator)
    (request : DecisionRequest) (now : Timestamp) (db : Db) :
    ApprovalDecision.decide services newId approvalId operator request now db =
      match getForTenant approvalId operator.tenantId db with
      | none => (.error .approvalNotFound, db)
      | some approval => decideHolding services newId approval operator request now db := by
  have hbody : decideBody services newId approvalId operator request now db =
      match getForTenant approvalId operator.tenantId db with
      | none => (.error .approvalNotFound, db)
      | some approval => decideLocked services newId approval operator request now db := by
    rw [decideBody, Session.read_bind_run]
    cases getForTenant approvalId operator.tenantId db <;> rfl
  simp only [ApprovalDecision.decide, decideHolding, decideTransaction, Session.bind_run,
    Session.transaction, hbody]
  cases getForTenant approvalId operator.tenantId db <;> rfl

/-- A decision that has its lock commits one of the listed databases and reports
it, or raises and leaves the database alone. -/
theorem Lifecycle.decideHolding_cases (h : Lifecycle db) (happroval : approval ∈ db.approvals)
    (services : Services) (newId : Uuid) (operator : Operator) (request : DecisionRequest)
    (now : Timestamp) :
    (∃ error next, decideLocked services newId approval operator request now db =
        (.error error, next) ∧
      decideHolding services newId approval operator request now db = (.error error, db)) ∨
    ∃ verdict next, decideLocked services newId approval operator request now db =
        (.ok verdict, next) ∧ Decided services newId approval operator request now db verdict next ∧
      decideHolding services newId approval operator request now db = report verdict next := by
  simp only [decideHolding, Session.bind_run, Session.transaction]
  cases hrun : decideLocked services newId approval operator request now db with
  | mk outcome next =>
      cases outcome with
      | error error => exact .inl ⟨error, next, rfl, rfl⟩
      | ok verdict => exact .inr ⟨verdict, next, rfl, h.decideLocked_ok happroval hrun, rfl⟩

theorem report_state (verdict : Verdict) (db : Db) : (report verdict db).2 = db := by
  cases verdict <;> rfl

theorem Lifecycle.decideHolding_moves (h : Lifecycle db) (happroval : approval ∈ db.approvals)
    (services : Services) (newId : Uuid) (operator : Operator) (request : DecisionRequest)
    (now : Timestamp) :
    Moves db (decideHolding services newId approval operator request now db).2 := by
  rcases h.decideHolding_cases happroval services newId operator request now with
    ⟨error, next, -, heq⟩ | ⟨verdict, next, -, hdecided, heq⟩
  · rw [heq]
    exact .refl
  · rw [heq, report_state]
    exact hdecided.moves h

theorem Lifecycle.decide_moves (h : Lifecycle db) (services : Services) (newId approvalId : Uuid)
    (operator : Operator) (request : DecisionRequest) (now : Timestamp) :
    Moves db (ApprovalDecision.decide services newId approvalId operator request now db).2 := by
  rw [decide_eq]
  cases hfound : getForTenant approvalId operator.tenantId db with
  | none => exact .refl
  | some approval =>
      exact h.decideHolding_moves (getForTenant_eq_some hfound).1 services newId
        operator request now

end Decided

/-! ## What a decision raises -/

/-- The errors the transaction of `decide` rolls back with. -/
def DecisionError (error : AppError) : Prop :=
  (∀ message, error ≠ .approvalExpired message) ∧
    ∀ message, error ≠ .approvalCreationConflict message

section Errors

variable (services : Services) (newId : Uuid) (approval : Approval) (job : AgentJob)
  (operator : Operator) (request : DecisionRequest) (now : Timestamp)

theorem decisionConflict_error (message : String) :
    DecisionError (.approvalDecisionConflict message) :=
  ⟨fun _ => by simp, fun _ => by simp⟩

theorem runtimeError_error (message : String) : DecisionError (.runtimeError message) :=
  ⟨fun _ => by simp, fun _ => by simp⟩

theorem integrityError_error : DecisionError .integrityError :=
  ⟨fun _ => by simp, fun _ => by simp⟩

theorem typeError_error : DecisionError .typeError :=
  ⟨fun _ => by simp, fun _ => by simp⟩

theorem createForJob_raises (tenantId jobId : Uuid) (kind : ArtifactKind) (payload : Json) :
    Session.RaisesOnly DecisionError (createForJob newId tenantId jobId kind payload) := by
  refine Session.RaisesOnly.read.bind fun db => ?_
  cases db.artifact? tenantId jobId kind with
  | some existing => exact .pure _
  | none =>
      dsimp only
      split
      · exact .raise integrityError_error
      · exact (Session.RaisesOnly.write _).bind fun _ => .pure _

theorem handle_raises (action : PendingAction) (arguments : ToolArgs) :
    Session.RaisesOnly DecisionError
      (ApprovalExecutor.handle services newId approval job action arguments) := by
  cases arguments with
  | findCustomer values => exact Session.RaisesOnly.read.bind fun _ => .pure _
  | createCase values =>
      refine Session.RaisesOnly.read.bind fun db => ?_
      cases db.idempotencyOf? job.id approval.tenantId with
      | none => exact .raise (runtimeError_error _)
      | some record =>
          dsimp only
          cases record.caseId with
          | some caseId =>
              dsimp only
              cases db.case? caseId approval.tenantId with
              | none => exact .raise (runtimeError_error _)
              | some existing => exact .pure _
          | none =>
              refine Session.RaisesOnly.read.bind fun db => ?_
              split
              · exact .raise (runtimeError_error _)
              · refine (Session.RaisesOnly.orRaise (runtimeError_error _) _).bind fun source => ?_
                split
                · exact .raise integrityError_error
                · exact (Session.RaisesOnly.write _).bind fun _ => .pure _
  | updateCaseFields values =>
      refine Session.RaisesOnly.read.bind fun db => ?_
      cases db.case? values.caseId approval.tenantId with
      | none => exact .raise (runtimeError_error _)
      | some case => exact (Session.RaisesOnly.write _).bind fun _ => .pure _
  | createReplyDraft values =>
      refine Session.RaisesOnly.bind ?_ fun caseId =>
        (Session.RaisesOnly.orRaise (runtimeError_error _) _).bind fun source =>
          (createForJob_raises _ _ _ _ _).bind fun _ => .pure _
      unfold ApprovalExecutor.namedCase
      cases values.caseId with
      | none => exact .pure _
      | some caseId =>
          refine Session.RaisesOnly.read.bind fun db => ?_
          cases db.case? caseId approval.tenantId with
          | none => exact .raise (runtimeError_error _)
          | some case => exact .pure _
  | flagForReview values => exact (createForJob_raises _ _ _ _ _).bind fun _ => .pure _

theorem execute_raises (action : PendingAction) :
    Session.RaisesOnly DecisionError
      (ApprovalExecutor.execute services newId approval job action now) := by
  unfold ApprovalExecutor.execute
  split
  · exact .raise (runtimeError_error _)
  · cases requireAction action.name with
    | none => exact .raise (runtimeError_error _)
    | some capability =>
        dsimp only
        split
        · exact .raise (runtimeError_error _)
        · cases ToolArgs.modelValidate capability.key action.arguments with
          | error error => exact .raise (runtimeError_error _)
          | ok arguments => exact (handle_raises _ _ _ _ _ _).bind fun _ => .pure _

theorem response_raises : Session.RaisesOnly DecisionError (ofExcept (response approval)) := by
  unfold response
  cases approval.decidedAt with
  | none => exact .raise (decisionConflict_error _)
  | some decidedAt => exact .pure _

theorem approvableAction_raises (pending : Json)
    (profile : TenantConfig × Option CompiledTenantProfile) :
    Session.RaisesOnly DecisionError
      (ofExcept (approvableAction services approval pending profile)) := by
  unfold approvableAction
  dsimp only
  repeat' split
  all_goals first
    | exact .raise (decisionConflict_error _)
    | exact .pure _
    | exact .raise typeError_error

/-- On a parked job `finalize_job_for_decision` only writes. -/
theorem finalizeJob_raises {approval : Approval} {job : AgentJob}
    (hawaiting : job.status = .awaitingApproval) (hfinal : approval.status.isFinal = true) :
    Session.RaisesOnly DecisionError (finalizeJob approval job now) := by
  obtain ⟨status, errorCode, outcome, houtcome⟩ :
      ∃ status errorCode outcome, decisionOutcome approval.status =
        some (status, errorCode, outcome) := by
    cases hstatus : approval.status <;> simp_all [decisionOutcome, ApprovalStatus.isFinal]
  intro state error next h
  rw [finalizeJob_of_awaiting hawaiting houtcome] at h
  cases h

variable {approval job}

theorem expireBranch_raises (hpending : approval.status = .pending)
    (hawaiting : job.status = .awaitingApproval) :
    Session.RaisesOnly DecisionError (expireBranch approval job request now) := by
  have hexpire : expireLocked approval now = (do
      Session.write fun db => (db.setApproval (expiredRow now approval)).addApprovalEvent
        ⟨approval.tenantId, approval.id, .expired, some "system_timeout", .obj []⟩
      pure (expiredRow now approval)) := if_neg (by simp [hpending])
  unfold expireBranch
  rw [hexpire]
  refine Session.RaisesOnly.bind_of ((Session.RaisesOnly.write _).bind fun _ => .pure _) ?_
  intro state expired working hrun
  cases hrun
  refine (finalizeJob_raises now hawaiting rfl).bind fun _ => ?_
  cases request.decision with
  | reject => exact (response_raises _).bind fun _ => .pure _
  | approve => exact .pure _

theorem rejectBranch_raises (hawaiting : job.status = .awaitingApproval) :
    Session.RaisesOnly DecisionError (rejectBranch approval job operator request now) :=
  (Session.RaisesOnly.write _).bind fun _ => (finalizeJob_raises now hawaiting rfl).bind fun _ =>
    (response_raises _).bind fun _ => .pure _

theorem approveBranch_raises (pending : Json)
    (profile : TenantConfig × Option CompiledTenantProfile)
    (hawaiting : job.status = .awaitingApproval) :
    Session.RaisesOnly DecisionError
      (approveBranch services newId approval pending job profile operator request now) := by
  refine (approvableAction_raises _ _ _ _).bind fun action => ?_
  refine Session.RaisesOnly.bind_of (execute_raises _ _ _ _ _ _) ?_
  intro state executed working hrun
  obtain ⟨capability, arguments, handled, -, -, -, -, hjob, -⟩ := execute_ok hrun
  have hexecuted : executed.job.status = .awaitingApproval := by
    rw [hjob]
    exact hawaiting
  exact (Session.RaisesOnly.write _).bind fun _ => (finalizeJob_raises now hexecuted rfl).bind
    fun _ => (response_raises _).bind fun _ => .pure _

/-- Under the invariant, `finalize_job_for_decision` does not raise in a decision,
and nothing before the commit raises `ApprovalExpired`. -/
theorem Lifecycle.decideLocked_error {db next : Db} (h : Lifecycle db)
    (happroval : approval ∈ db.approvals) {error : AppError}
    (hrun : decideLocked services newId approval operator request now db = (.error error, next)) :
    DecisionError error := by
  obtain ⟨job, hjob, pending, deadline, hthis, htenant, hdeadline, heq⟩ :=
    h.decideLocked_eq happroval services newId operator request now
  rw [heq] at hrun
  cases hprofile : services.resolvePersistedProfile job.tenantConfigSnapshot
      job.tenantConfigSha256 with
  | none =>
      rw [hprofile] at hrun
      cases hrun
      exact decisionConflict_error _
  | some profile =>
      simp only [hprofile] at hrun
      suffices hraises : Session.RaisesOnly DecisionError (decideResolved services newId approval
          pending deadline job profile operator request now) from hraises _ _ _ hrun
      unfold decideResolved
      split
      · split
        · exact (response_raises _).bind fun _ => .pure _
        · exact .raise (decisionConflict_error _)
      · split
        · exact .raise (decisionConflict_error _)
        · rename_i hnot
          have hpending : approval.status = .pending := not_not.1 hnot
          have hawaiting := (h.coupled_of_job happroval hjob hthis).2
          rw [hpending] at hawaiting
          split
          · exact expireBranch_raises request now hpending hawaiting
          · cases request.decision with
            | reject => exact rejectBranch_raises operator request now hawaiting
            | approve =>
                exact approveBranch_raises services newId operator request now pending profile
                  hawaiting

/-- The two ways a decision raises: before its commit, with the database as it
was, or after it, when an approve came too late. -/
theorem Lifecycle.decideHolding_error {db next : Db} (h : Lifecycle db)
    (happroval : approval ∈ db.approvals) {error : AppError}
    (hrun : decideHolding services newId approval operator request now db =
      (.error error, next)) :
    (DecisionError error ∧ next = db) ∨
      (error = .approvalExpired "approval expired" ∧ ∃ job, Parked db approval job ∧
        (∃ deadline ∈ approval.expiresAt, deadline ≤ now) ∧ request.decision = .approve ∧
        next = expiredDb now approval job db) := by
  rcases h.decideHolding_cases happroval services newId operator request now with
    ⟨raised, working, hlocked, heq⟩ | ⟨verdict, working, -, hdecided, heq⟩
  · rw [heq] at hrun
    cases hrun
    exact .inl ⟨h.decideLocked_error services newId operator request now happroval hlocked, rfl⟩
  · rw [heq] at hrun
    cases verdict with
    | response value => cases hrun
    | expired =>
        cases hrun
        cases hdecided with
        | @expired job _ hparked hdue _ hreject =>
            refine .inr ⟨rfl, job, hparked, hdue, ?_, rfl⟩
            cases hdecision : request.decision with
            | approve => rfl
            | reject =>
                obtain ⟨value, hvalue, -⟩ := hreject hdecision
                cases hvalue

/-- The same of a whole decision; without its row it raises `ApprovalNotFound`. -/
theorem Lifecycle.decide_error {db next : Db} (h : Lifecycle db) {approvalId : Uuid}
    {error : AppError}
    (hrun : ApprovalDecision.decide services newId approvalId operator request now db =
      (.error error, next)) :
    (DecisionError error ∧ next = db) ∨
      (error = .approvalExpired "approval expired" ∧ ∃ approval job,
        approval.id = approvalId ∧ Parked db approval job ∧
        (∃ deadline ∈ approval.expiresAt, deadline ≤ now) ∧ request.decision = .approve ∧
        next = expiredDb now approval job db) := by
  rw [decide_eq] at hrun
  cases hfound : getForTenant approvalId operator.tenantId db with
  | none =>
      rw [hfound] at hrun
      cases hrun
      exact .inl ⟨⟨fun _ => by simp, fun _ => by simp⟩, rfl⟩
  | some approval =>
      obtain ⟨happroval, hid, -⟩ := getForTenant_eq_some hfound
      simp only [hfound] at hrun
      rcases h.decideHolding_error services newId operator request now happroval hrun with
        hraised | ⟨hexpired, job, hrest⟩
      · exact .inl hraised
      · exact .inr ⟨hexpired, approval, job, hid, hrest⟩

end Errors

end IntegraIntake
