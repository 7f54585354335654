import IntegraIntake.Approvals.Frozen
import IntegraIntake.System.OnePerJob
import IntegraIntake.System.Parking
import IntegraIntake.Tools.PostgresPort

/-!
# Case actions, direct and approved

`create_case` and `update_case_fields` are written twice: in the port, for a call
that the policy allows, and in the action executor, for a call that an operator
has approved.  Here both ways are followed from the same state to their ends:
the first is one transaction, the second a request, the parking of the job and
a decision.  What they leave in the tables of cases, case events and idempotency
records is the same, and they refuse the same calls, with one exception: a command that
an earlier attempt has staged stays if the new one equals it under Python's `==`, and
then `2` is written where the call has `2.0` (`case_actions_disagree`).
-/

namespace IntegraIntake

open Library JobRepository ApprovalRepository ApprovalDecision

/-- The tables that case actions read and write. -/
def caseTables (db : Db) :
    List IntakeCase × List CaseEvent × List IdempotencyRecord × List Customer :=
  (db.cases, db.caseEvents, db.idempotency, db.customers)

/-- A call that needs an approval, from its request to its approval: the approval
is requested, the run ends and parks the job, and an operator decides. -/
def approvedPath (services : Services) (requestId newId : Uuid) (job : AgentJob)
    (command : PendingAction) (reason : String) (expiresIn : ℤ) (requestedAt : Timestamp)
    (summary : Json) (operator : Operator) (request : DecisionRequest) (decidedAt : Timestamp) :
    Query DecisionResponse := do
  let requested ← createForRunningJob requestId job.tenantId job.id job.attemptCount command reason
    expiresIn requestedAt
  recordAwaitingApprovalResult job.id summary job.tenantId job.attemptCount
  ApprovalDecision.decide services newId requested.1 operator request decidedAt

section Path

variable {db : Db} {job : AgentJob} {command : PendingAction} {reason : String} {requestId : Uuid}

/-! ## The request -/

/-- The staged approval that a request leaves. -/
structure StagedFor (db : Db) (job : AgentJob) (command : PendingAction) (deadline : Timestamp)
    (row : Approval) : Prop where
  mem : row ∈ db.approvals
  job_eq : row.jobId = some job.id
  tenant_eq : row.tenantId = job.tenantId
  status_eq : row.status = .staged
  action_eq : row.action = command.name
  pending_eq : row.pendingAction = some command.modelDump
  sha_eq : row.tenantConfigSha256 = some job.tenantConfigSha256
  deadline_eq : row.expiresAt = some deadline

/-- A job can ask for an approval: the new identifier is fresh, and an approval
that an earlier attempt has staged and that is taken over as equal is the same
command. -/
structure Askable (db : Db) (job : AgentJob) (command : PendingAction) (reason : String)
    (requestId : Uuid) : Prop where
  fresh : ∀ approval ∈ db.approvals, approval.id ≠ requestId
  same : ∀ existing, db.approvalOf? job.id job.tenantId = some existing →
    requestDiffers job existing command reason = false →
    existing.pendingAction = some command.modelDump

theorem request_runs (h : Lifecycle db) (hjob : job ∈ db.jobs) (hrunning : job.status = .running)
    (hask : Askable db job command reason requestId) (expiresIn : ℤ) (now : Timestamp) :
    ∃ row next, createForRunningJob requestId job.tenantId job.id job.attemptCount command reason
        expiresIn now db = (.ok (row.id, now + expiresIn), next) ∧
      StagedFor next job command (now + expiresIn) row ∧ next.jobs = db.jobs ∧
      caseTables next = caseTables db := by
  unfold createForRunningJob
  simp only [Session.transaction, Session.read_bind_run, h.job?_eq hjob, hrunning, and_self,
    not_true_eq_false, if_false]
  cases hexisting : db.approvalOf? job.id job.tenantId with
  | none =>
      -- no approval of the job, under whatever tenant
      have hnone : ∀ approval ∈ db.approvals, approval.jobId ≠ some job.id := by
        intro approval happroval hthis
        have hfound := List.find?_eq_none.1 hexisting approval happroval
        simp [hthis, (h.coupled_of_job happroval hjob hthis).1] at hfound
      have hfresh : (db.approvals.any fun approval =>
          decide (approval.id = requestId ∨ approval.jobId = some job.id)) = false := by
        rw [List.any_eq_false]
        intro approval happroval
        simp [hask.fresh approval happroval, hnone approval happroval]
      simp only [stageNew, Session.read_bind_run, hfresh]
      exact ⟨stagedRow requestId job job.tenantId command reason (now + expiresIn), _, rfl,
        ⟨List.mem_append_right _ (List.mem_singleton_self _), rfl, rfl, rfl, rfl, rfl, rfl, rfl⟩,
        rfl, rfl⟩
  | some existing =>
      obtain ⟨hmem, hthis, htenant⟩ := approvalOf?_eq_some hexisting
      have hcoupled := (h.coupled_of_job hmem hjob hthis).2
      rw [hrunning] at hcoupled
      have hstaged := hcoupled.staged_of_running
      have hok := h.approval_ok existing hmem
      obtain ⟨pending, hpending⟩ := Option.isSome_iff_exists.1 hok.pending_action
      obtain ⟨deadline, hdeadline⟩ := Option.isSome_iff_exists.1 hok.expires_at
      simp only [refreshStaged, hpending, hdeadline, hstaged, ne_eq, not_true_eq_false, if_false,
        Option.isNone_some, Bool.false_eq_true]
      cases hdiffers : requestDiffers job existing command reason with
      | true =>
          simp only [if_true]
          refine ⟨replacedRow job existing command reason (now + expiresIn), _, rfl,
            ⟨?_, hthis, htenant, hstaged, rfl, rfl, rfl, rfl⟩, rfl, rfl⟩
          exact Table.mem_replace_self ⟨existing, hmem, rfl⟩
      | false =>
          simp only [Bool.false_eq_true, if_false]
          have hequal : pending = command.modelDump :=
            Option.some.inj (hpending.symm.trans (hask.same existing hexisting hdiffers))
          simp only [requestDiffers, decide_eq_false_iff_not, not_or, not_not] at hdiffers
          refine ⟨refreshedRow existing (now + expiresIn), _, rfl,
            ⟨?_, hthis, htenant, hstaged, hdiffers.1,
              hequal ▸ hpending, hdiffers.2.2.2, rfl⟩, rfl, rfl⟩
          exact Table.mem_replace_self ⟨existing, hmem, rfl⟩

/-! ## The parked job -/

/-- The approval of a staged request, published. -/
def publishedRow (row : Approval) : Approval :=
  row.withStatus .pending

theorem Lifecycle.approvalOf?_eq (h : Lifecycle db) {row : Approval} (hrow : row ∈ db.approvals)
    (hjob : row.jobId = some job.id) (htenant : row.tenantId = job.tenantId) :
    db.approvalOf? job.id job.tenantId = some row := by
  cases hfound : db.approvalOf? job.id job.tenantId with
  | none =>
      have hmissed := List.find?_eq_none.1 hfound row hrow
      simp [hjob, htenant] at hmissed
  | some found =>
      obtain ⟨hmem, hthis, -⟩ := approvalOf?_eq_some hfound
      rw [h.one_approval found hmem row hrow (hthis.trans hjob.symm)]

theorem park_runs (h : Lifecycle db) (hjob : job ∈ db.jobs) (hrunning : job.status = .running)
    {deadline : Timestamp} {row : Approval} (hrow : StagedFor db job command deadline row)
    (summary : Json) :
    recordAwaitingApprovalResult job.id summary job.tenantId job.attemptCount db =
      (.ok (), (db.setApproval (publishedRow row)).setJob (parkedRow summary job)) := by
  have howned : Owned db job.id job.tenantId job.attemptCount job := ⟨hjob, rfl, rfl, rfl, hrunning⟩
  unfold recordAwaitingApprovalResult Session.transaction
  rw [Session.bind_run, howned.requireRunning h.jobs_unique]
  simp only [Session.read_bind_run, h.approvalOf?_eq hrow.mem hrow.job_eq hrow.tenant_eq,
    hrow.status_eq, if_true, Session.write_bind_run, Session.write_run]
  rfl

/-- After the request and the parking, the decision finds what was frozen. -/
theorem awaitsDecision_of_parked (h : Lifecycle db) (hjob : job ∈ db.jobs)
    (hrunning : job.status = .running) {deadline : Timestamp} {row : Approval}
    (hrow : StagedFor db job command deadline row) (summary : Json) {services : Services}
    {profile : TenantConfig × Option CompiledTenantProfile}
    (hprofile : services.resolvePersistedProfile job.tenantConfigSnapshot job.tenantConfigSha256 =
      some profile) :
    AwaitsDecision services ((db.setApproval (publishedRow row)).setJob (parkedRow summary job))
      row.id job.tenantId (publishedRow row) command.modelDump deadline (parkedRow summary job)
      profile := by
  have hparks := park_runs h hjob hrunning hrow summary
  have hafter : Lifecycle ((db.setApproval (publishedRow row)).setJob (parkedRow summary job)) := by
    have hmoves := h.recordAwaitingApprovalResult job.id summary job.tenantId job.attemptCount
    rw [hparks] at hmoves
    exact h.moves hmoves
  have hmem : publishedRow row ∈
      ((db.setApproval (publishedRow row)).setJob (parkedRow summary job)).approvals :=
    Table.mem_replace_self ⟨row, hrow.mem, rfl⟩
  have hparked : parkedRow summary job ∈
      ((db.setApproval (publishedRow row)).setJob (parkedRow summary job)).jobs :=
    Table.mem_replace_self ⟨job, hjob, rfl⟩
  refine ⟨?_, rfl, hrow.job_eq, hrow.pending_eq, hrow.sha_eq, hrow.deadline_eq, ?_, hprofile⟩
  · refine hafter.approvals_unique.find?_eq hmem ?_ fun other hother => ?_
    · simp only [decide_eq_true_eq]
      exact ⟨rfl, hrow.tenant_eq, hafter.published hmem rfl⟩
    · simp only [decide_eq_true_eq] at hother
      exact hother.1
  · have htenant : (publishedRow row).tenantId = (parkedRow summary job).tenantId := hrow.tenant_eq
    rw [htenant]
    exact hafter.job?_eq hparked

/-! ## The decision -/

/-- Past its checks, an approval ends as the handler of its action does. -/
theorem approveChecked_run (services : Services) (newId : Uuid) (approval : Approval)
    (action : PendingAction) (capability : ActionCapability) (arguments : ToolArgs)
    (operator : Operator) (request : DecisionRequest) (now : Timestamp) (db : Db)
    (hparked : job.status = .awaitingApproval) :
    (∀ error working, ApprovalExecutor.handle services newId approval job action arguments db =
        (.error error, working) →
      approveChecked services newId approval job action capability arguments operator request now
        db = (.error error, working)) ∧
    ∀ handled working, ApprovalExecutor.handle services newId approval job action arguments db =
        (.ok handled, working) →
      ∃ value row next, approveChecked services newId approval job action capability arguments
          operator request now db = (.ok (.response value), next) ∧
        caseTables next = caseTables working ∧ row.id = job.id ∧
        next.jobs = Table.replace AgentJob.id row db.jobs ∧
        (capability.commitsSideEffect = true → row.sideEffectCommittedAt = some now) := by
  constructor
  · intro error working hhandle
    unfold approveChecked ApprovalExecutor.executeHandler
    rw [Session.bind_run, Session.bind_run, hhandle]
  · intro handled working hhandle
    have hkept := handle_keeps services newId approval job action arguments db
    rw [hhandle] at hkept
    have hjobs : working.jobs = db.jobs := congrArg Prod.fst hkept
    let executed : ApprovalExecutor.Executed := {
      approval := { approval with caseId := handled.caseId }
      job := { job with sideEffectCommittedAt :=
        if capability.commitsSideEffect then some now else job.sideEffectCommittedAt }
      result := .obj handled.result }
    have hexecute : ApprovalExecutor.executeHandler services newId approval job action capability
        arguments now db = (.ok executed, working) := by
      unfold ApprovalExecutor.executeHandler
      rw [Session.bind_run, hhandle]
      rfl
    have hawaiting : executed.job.status = .awaitingApproval := hparked
    have hrun : ∃ value, approveChecked services newId approval job action capability arguments
        operator request now db = (.ok (.response value),
          (((working.setApproval (approvedRow operator request now executed)).addApprovalEvent
            ⟨approval.tenantId, approval.id, .approved, some operator.actorRef,
              .obj []⟩).addApprovalEvent
            ⟨approval.tenantId, approval.id, .actionExecuted, some operator.actorRef,
              .obj [("action", .str approval.action), ("executed", .bool true)]⟩).setJob
            (decidedRow (approvedRow operator request now executed) executed.job now .succeeded none
              "tool_result")) := by
      refine ⟨⟨approval.id, .approved, approval.action, now, handled.caseId, true⟩, ?_⟩
      unfold approveChecked
      rw [Session.bind_run, hexecute]
      dsimp only
      rw [Session.write_bind_run, Session.bind_run, finalizeJob_of_awaiting hawaiting rfl]
      rfl
    obtain ⟨value, hrun⟩ := hrun
    refine ⟨value, decidedRow (approvedRow operator request now executed) executed.job
      now .succeeded
      none "tool_result", _, hrun, rfl, rfl, ?_, fun hcommits => if_pos hcommits⟩
    rw [← hjobs]
    rfl

/-- A decision ends as the transaction in it does. -/
theorem decide_of_body {services : Services} {newId approvalId : Uuid} {operator : Operator}
    {request : DecisionRequest} {now : Timestamp} :
    (∀ error working, decideBody services newId approvalId operator request now db =
        (.error error, working) →
      ApprovalDecision.decide services newId approvalId operator request now db =
        (.error error, db)) ∧
    ∀ value next, decideBody services newId approvalId operator request now db =
        (.ok (.response value), next) →
      ApprovalDecision.decide services newId approvalId operator request now db =
        (.ok value, next) := by
  constructor
  · intro error working hbody
    have htransaction : decideTransaction services newId approvalId operator request now db =
        (.error error, db) := by
      rw [decideTransaction, Session.transaction, hbody]
    rw [ApprovalDecision.decide, Session.bind_run, htransaction]
  · intro value next hbody
    have htransaction : decideTransaction services newId approvalId operator request now db =
        (.ok (.response value), next) := by
      rw [decideTransaction, Session.transaction, hbody]
    rw [ApprovalDecision.decide, Session.bind_run, htransaction]
    rfl

/-- The path to an approval, in time and under the profile of the request, ends as
the handler of the action does in the database the parked job is in. -/
theorem approvedPath_run (h : Lifecycle db) (hjob : job ∈ db.jobs)
    (hrunning : job.status = .running)
    (hask : Askable db job command reason requestId) {services : Services}
    {profile : TenantConfig × Option CompiledTenantProfile} {capability : ActionCapability}
    {arguments : ToolArgs} {operator : Operator} {request : DecisionRequest} {expiresIn : ℤ}
    {requestedAt decidedAt : Timestamp}
    (hprofile : services.resolvePersistedProfile job.tenantConfigSnapshot job.tenantConfigSha256 =
      some profile)
    (happrovable : ∀ approval : Approval, approval.action = command.name →
      Approvable services approval command.modelDump profile command capability arguments)
    (htenant : operator.tenantId = job.tenantId) (hrequest : request.decision = .approve)
    (htime : decidedAt < requestedAt + expiresIn) (newId : Uuid) (summary : Json) :
    ∃ approval parked, approval.tenantId = job.tenantId ∧ caseTables parked = caseTables db ∧
      (∀ error working, ApprovalExecutor.handle services newId approval (parkedRow summary job)
          command arguments parked = (.error error, working) →
        approvedPath services requestId newId job command reason expiresIn requestedAt summary
          operator request decidedAt db = (.error error, parked)) ∧
      ∀ handled working, ApprovalExecutor.handle services newId approval (parkedRow summary job)
          command arguments parked = (.ok handled, working) →
        ∃ value row next, approvedPath services requestId newId job command reason expiresIn
            requestedAt summary operator request decidedAt db = (.ok value, next) ∧
          caseTables next = caseTables working ∧ row ∈ next.jobs ∧ row.id = job.id ∧
          (capability.commitsSideEffect = true → row.sideEffectCommittedAt = some decidedAt) := by
  obtain ⟨row, asked, hasked, hstaged, hjobs, htables⟩ :=
    request_runs h hjob hrunning hask expiresIn requestedAt
  have hlifecycle : Lifecycle asked := by
    have hmoves := h.createForRunningJob requestId job.tenantId job.id job.attemptCount
      command reason
      expiresIn requestedAt
    rw [hasked] at hmoves
    exact h.moves hmoves
  have hjob : job ∈ asked.jobs := hjobs ▸ hjob
  have hparks := park_runs hlifecycle hjob hrunning hstaged summary
  have hawaits := awaitsDecision_of_parked hlifecycle hjob hrunning hstaged summary hprofile
  generalize hparked : (asked.setApproval (publishedRow row)).setJob
    (parkedRow summary job) = parked
    at hparks hawaits
  have hpath : approvedPath services requestId newId job command reason expiresIn
    requestedAt summary
      operator request decidedAt db =
      ApprovalDecision.decide services newId row.id operator request decidedAt parked := by
    rw [approvedPath, Session.bind_run, hasked]
    dsimp only
    rw [Session.bind_run, hparks]
  have hbody : decideBody services newId row.id operator request decidedAt parked =
      approveChecked services newId (publishedRow row) (parkedRow summary job) command capability
        arguments operator request decidedAt parked := by
    rw [← htenant] at hawaits
    exact decideBody_approve hawaits (happrovable (publishedRow row) hstaged.action_eq)
      htime hrequest
  have hwaiting : (parkedRow summary job).status = .awaitingApproval := rfl
  obtain ⟨hraises, hreturns⟩ := approveChecked_run services newId (publishedRow row) command
    capability arguments operator request decidedAt parked hwaiting
  refine ⟨publishedRow row, parked, hstaged.tenant_eq, ?_, ?_, ?_⟩
  · rw [← htables, ← hparked]
    rfl
  · intro error working hhandle
    rw [hpath]
    exact decide_of_body.1 error working (hbody.trans (hraises error working hhandle))
  · intro handled working hhandle
    obtain ⟨value, final, next, hrun, hsame, hid, hjobs, hmarked⟩ :=
      hreturns handled working hhandle
    refine ⟨value, final, next, ?_, hsame, ?_, hid, hmarked⟩
    · rw [hpath]
      exact decide_of_body.2 value next (hbody.trans hrun)
    · rw [hjobs, ← hparked]
      exact Table.mem_replace_self ⟨parkedRow summary job,
        Table.mem_replace_self ⟨job, hjob, rfl⟩, hid.symm⟩

end Path

/-! ## The two handlers -/

/-- How the handler that calls the port and the one of the executor end on the
same rows: both refuse and leave them alone, or both return with the same tables
and the marker of the job is set. -/
inductive SameEnd (job : AgentJob) (db : Db) (direct : Except HandlerError Json × World Db)
    (executed : Except AppError ApprovalExecutor.Handled × Db) : Prop
  | refused {error : HandlerError} {raised : AppError} : direct.1 = .error error →
      direct.2.state = db → executed.1 = .error raised → SameEnd job db direct executed
  | done {data : Json} {handled : ApprovalExecutor.Handled} {row : AgentJob} :
      direct.1 = .ok data → executed.1 = .ok handled →
      caseTables direct.2.state = caseTables executed.2 → row ∈ direct.2.state.jobs →
      row.id = job.id → row.sideEffectCommittedAt.isSome → SameEnd job db direct executed

/-- The context of a job's run: what the factory takes from the job. -/
structure RuntimeOf (services : Services) (job : AgentJob) (runtime : TrustedToolRuntimeContext)
    (source : TrustedSource) : Prop where
  tenant_eq : runtime.tenantId = job.tenantId
  source_eq : runtime.source = some source
  snapshot_eq : trustedSourceFromSnapshot services.decodeDocument job.sourceSnapshot = some source

/-- The port of a job's attempt. -/
def AgentJob.port (job : AgentJob) (newId : Uuid) (now : Timestamp) (expiresIn : ℤ) :
    TenantToolPort Db :=
  postgresTenantToolPort ⟨job.id, job.attemptCount, newId, now, expiresIn⟩

/-- The values of a proposal that a case action writes. -/
def acceptedFields (checks : ValueChecks) (proposal : AgentProposal)
    (runtime : TrustedToolRuntimeContext) : List (String × Json) :=
  knownFieldsJson (validateProposalFields checks proposal runtime).values

section Handlers

variable {services : Services} {db parked : Db} {job : AgentJob} {proposal : AgentProposal}
  {runtime : TrustedToolRuntimeContext} {source : TrustedSource} {approval : Approval}
  {summary : Json} {capability : ActionCapability} {arguments : ToolArgs} {newId : Uuid}
  {now : Timestamp} {expiresIn : ℤ} {log : List Invocation}

theorem idempotencyOf?_of_tables (h : caseTables parked = caseTables db) (jobId tenantId : Uuid) :
    parked.idempotencyOf? jobId tenantId = db.idempotencyOf? jobId tenantId := by
  have hrecords : parked.idempotency = db.idempotency := congrArg (·.2.2.1) h
  rw [Db.idempotencyOf?, Db.idempotencyOf?, hrecords]

theorem case?_of_tables (h : caseTables parked = caseTables db) (caseId tenantId : Uuid) :
    parked.case? caseId tenantId = db.case? caseId tenantId := by
  have hcases : parked.cases = db.cases := congrArg Prod.fst h
  rw [Db.case?, Db.case?, hcases]

theorem customer?_of_tables (h : caseTables parked = caseTables db) (customerId tenantId : Uuid) :
    parked.customer? customerId tenantId = db.customer? customerId tenantId := by
  have hcustomers : parked.customers = db.customers := congrArg (·.2.2.2) h
  rw [Db.customer?, Db.customer?, hcustomers]

/-- What a case action makes of the tables depends on the tables only. -/
theorem apply_of_tables (h : caseTables parked = caseTables db) (writes : PortWrites) :
    caseTables (writes.apply parked) = caseTables (writes.apply db) := by
  have hcases : parked.cases = db.cases := congrArg Prod.fst h
  have hevents : parked.caseEvents = db.caseEvents := congrArg (·.2.1) h
  have hrecords : parked.idempotency = db.idempotency := congrArg (·.2.2.1) h
  have hcustomers : parked.customers = db.customers := congrArg (·.2.2.2) h
  cases writes <;>
    simp [caseTables, PortWrites.apply, Db.addCase, Db.addCaseEvent, Db.setIdempotency,
      Db.addArtifact, Db.setCase, hcases, hevents, hrecords, hcustomers]

theorem Lifecycle.fencedJob_eq (h : Lifecycle db) (hjob : job ∈ db.jobs)
    (hrunning : job.status = .running) : fencedJob job.attempt db = some job := by
  refine h.jobs_unique.find?_eq hjob (by simp [AgentJob.attempt, hrunning]) fun other hother => ?_
  simp only [decide_eq_true_eq] at hother
  exact hother.1

/-- The marked row is there after a commit. -/
theorem marked_mem {writes : PortWrites} (hjob : job ∈ db.jobs) :
    markedRow now job ∈ ((writes.apply db).setJob (markedRow now job)).jobs := by
  refine Table.mem_replace_self ⟨job, ?_, rfl⟩
  rw [writes.apply_jobs]
  exact hjob

/-- The handler of `create_case` ends as the mutation of the port does. -/
theorem createCaseHandler_run (hruntime : RuntimeOf services job runtime source) (db : Db)
    (proposal : AgentProposal) (newId : Uuid) (now : Timestamp) (expiresIn : ℤ)
    (log : List Invocation) (values : CreateCaseArgs) :
    (∀ error after, (PortMutation.createCase newId source values.customerId
          (acceptedFields services.checks proposal runtime)).perform job.attempt now db =
          (.error error, after) →
      ∃ raised, createCaseHandler services.checks (job.port newId now expiresIn) proposal runtime
        values ⟨db, log⟩ = (.error raised, ⟨after, log ++ [.port .createCase]⟩)) ∧
    ∀ result created after, (PortMutation.createCase newId source values.customerId
          (acceptedFields services.checks proposal runtime)).perform job.attempt now db =
          (.ok result, after) → result.createdCase? = some created →
      ∃ data, createCaseHandler services.checks (job.port newId now expiresIn) proposal runtime
        values ⟨db, log⟩ = (.ok data, ⟨after, log ++ [.port .createCase]⟩) := by
  have hcall : (job.port newId now expiresIn).createCase job.tenantId source values.customerId
      (validateProposalFields services.checks proposal runtime).values =
      Session.mapError portError ((PortMutation.createCase newId source values.customerId
        (acceptedFields services.checks proposal runtime)).perform job.attempt now >>= fun result =>
          Session.orRaise .integrityError result.createdCase?) := rfl
  unfold createCaseHandler
  rw [hruntime.source_eq, hruntime.tenant_eq]
  dsimp only
  constructor
  · intro error after hperform
    have hport : (job.port newId now expiresIn).createCase job.tenantId source values.customerId
        (validateProposalFields services.checks proposal runtime).values db =
        (.error (portError error), after) := by
      rw [hcall, Session.mapError, Session.bind_run, hperform]
    rw [Session.bind_run, callPort_raises hport]
    exact ⟨_, rfl⟩
  · intro result created after hperform hcreated
    have hport : (job.port newId now expiresIn).createCase job.tenantId source values.customerId
        (validateProposalFields services.checks proposal runtime).values db =
        (.ok created, after) := by
      rw [hcall, Session.mapError, Session.bind_run, hperform]
      dsimp only
      rw [hcreated]
      rfl
    rw [Session.bind_run, callPort_returns hport]
    exact ⟨_, rfl⟩

/-- Where the mutation of the port refuses, so does the handler. -/
theorem createCaseHandler_refused (hruntime : RuntimeOf services job runtime source)
    (values : CreateCaseArgs) {error : AppError}
    (hends : (PortMutation.createCase newId source values.customerId
      (acceptedFields services.checks proposal runtime)).opening job.attempt db =
      .ends (.error error)) (raised : AppError) (working : Db) :
    SameEnd job db
      (createCaseHandler services.checks (job.port newId now expiresIn) proposal runtime values
        ⟨db, log⟩)
      (.error raised, working) := by
  obtain ⟨_, hdirect⟩ := (createCaseHandler_run hruntime db proposal newId now expiresIn log
    values).1 _ _ (PortMutation.perform_raises hends)
  rw [hdirect]
  exact .refused rfl rfl rfl

/-- A job without a case: both insert the same one, or refuse the customer. -/
theorem createNewCase_sameEnd (h : Lifecycle db) (hjob : job ∈ db.jobs)
    (hrunning : job.status = .running) (hruntime : RuntimeOf services job runtime source)
    (happroval : approval.tenantId = job.tenantId)
    (htables : caseTables parked = caseTables db) (values : CreateCaseArgs)
    {record : IdempotencyRecord}
    (hrecord : db.idempotencyOf? job.attempt.jobId job.attempt.tenantId = some record)
    (hcase : record.caseId = none) :
    SameEnd job db
      (createCaseHandler services.checks (job.port newId now expiresIn) proposal runtime values
        ⟨db, log⟩)
      (ApprovalExecutor.createNewCase services newId approval (parkedRow summary job)
        (pendingAction services.checks runtime proposal capability arguments) values record
        parked) := by
  have hcustomers : (values.customerId.any fun customerId =>
      (parked.customer? customerId approval.tenantId).isNone) =
      values.customerId.any fun id => (db.customer? id job.attempt.tenantId).isNone := by
    refine congrArg (Option.any · values.customerId) (funext fun id => ?_)
    rw [customer?_of_tables htables, happroval]
    rfl
  have hcases : parked.cases = db.cases := congrArg Prod.fst htables
  have hsource : ApprovalExecutor.sourceFromJob services (parkedRow summary job) =
      pure source := by
    have hsnapshot : trustedSourceFromSnapshot services.decodeDocument
        (parkedRow summary job).sourceSnapshot = some source := hruntime.snapshot_eq
    rw [ApprovalExecutor.sourceFromJob, hsnapshot, Session.orRaise_some]
  simp only [ApprovalExecutor.createNewCase, Session.read_bind_run, hcustomers, hcases]
  cases hknown : values.customerId.any fun id =>
      (db.customer? id job.attempt.tenantId).isNone with
  | true =>
      have hends : (PortMutation.createCase newId source values.customerId
          (acceptedFields services.checks proposal runtime)).opening job.attempt db =
          .ends (.error .customerNotFound) := by
        simp only [PortMutation.opening, hrecord, openCreateCase, hcase, hknown, if_true]
      exact createCaseHandler_refused hruntime values hends _ _
  | false =>
      simp only [Bool.false_eq_true, if_false, hsource, Session.pure_bind]
      cases htaken : db.cases.any fun case => decide (case.id = newId) with
      | true =>
          have hends : (PortMutation.createCase newId source values.customerId
              (acceptedFields services.checks proposal runtime)).opening job.attempt db =
              .ends (.error .integrityError) := by
            simp only [PortMutation.opening, hrecord, openCreateCase, hcase, hknown, htaken,
              Bool.false_eq_true, if_false, if_true]
          exact createCaseHandler_refused hruntime values hends _ _
      | false =>
          have hwrites : (PortMutation.createCase newId source values.customerId
              (acceptedFields services.checks proposal runtime)).opening job.attempt db =
              .writes (.newCase record (caseFromSource newId job.attempt.tenantId source
                values.customerId (acceptedFields services.checks proposal runtime))) := by
            simp only [PortMutation.opening, hrecord, openCreateCase, hcase, hknown, htaken,
              Bool.false_eq_true, if_false]
          obtain ⟨data, hdirect⟩ := (createCaseHandler_run hruntime db proposal newId now expiresIn
            log values).2 _ _ _
            (PortMutation.perform_commits hwrites (h.fencedJob_eq hjob hrunning)) rfl
          rw [hdirect]
          refine .done rfl rfl ?_ (marked_mem hjob) rfl rfl
          rw [happroval]
          exact (apply_of_tables htables (.newCase record (caseFromSource newId job.tenantId
            source values.customerId
            (acceptedFields services.checks proposal runtime)))).symm

theorem createCase_sameEnd (h : Lifecycle db) (hjob : job ∈ db.jobs)
    (hrunning : job.status = .running)
    (hlinked : ∀ record ∈ db.idempotency, record.caseId.isSome → record.jobId = some job.id →
      record.tenantId = job.tenantId → Marked db job.tenantId job.id)
    (hruntime : RuntimeOf services job runtime source)
    (happroval : approval.tenantId = job.tenantId)
    (htables : caseTables parked = caseTables db) (values : CreateCaseArgs) :
    SameEnd job db
      (createCaseHandler services.checks (job.port newId now expiresIn) proposal runtime values
        ⟨db, log⟩)
      (ApprovalExecutor.createCase services newId approval (parkedRow summary job)
        (pendingAction services.checks runtime proposal capability arguments) values parked) := by
  -- the port reads under the tenant of the job
  have hrecordSame : db.idempotencyOf? job.attempt.jobId job.attempt.tenantId =
      db.idempotencyOf? job.id job.tenantId := rfl
  have hcaseSame : ∀ caseId, db.case? caseId job.attempt.tenantId = db.case? caseId job.tenantId :=
    fun _ => rfl
  have hparkedId : (parkedRow summary job).id = job.id := rfl
  unfold ApprovalExecutor.createCase
  rw [Session.read_bind_run, idempotencyOf?_of_tables htables, happroval, hparkedId]
  cases hrecord : db.idempotencyOf? job.id job.tenantId with
  | none =>
      have hends : (PortMutation.createCase newId source values.customerId
          (acceptedFields services.checks proposal runtime)).opening job.attempt db =
          .ends (.error (.runtimeError "job idempotency record is unavailable")) := by
        simp only [PortMutation.opening, hrecordSame, hrecord]
      exact createCaseHandler_refused hruntime values hends _ _
  | some record =>
      dsimp only
      obtain ⟨hmem, htenant, hthis⟩ := idempotencyOf?_eq_some hrecord
      cases hcase : record.caseId with
      | none =>
          exact createNewCase_sameEnd h hjob hrunning hruntime happroval htables values hrecord
            hcase
      | some caseId =>
          dsimp only
          rw [case?_of_tables htables]
          cases hfound : db.case? caseId job.tenantId with
          | none =>
              have hends : (PortMutation.createCase newId source values.customerId
                  (acceptedFields services.checks proposal runtime)).opening job.attempt db =
                  .ends (.error (.runtimeError "job case is unavailable")) := by
                simp only [PortMutation.opening, hrecordSame, hrecord, openCreateCase, hcase,
                  hcaseSame, hfound]
              exact createCaseHandler_refused hruntime values hends _ _
          | some existing =>
              have hends : (PortMutation.createCase newId source values.customerId
                  (acceptedFields services.checks proposal runtime)).opening job.attempt db =
                  .ends (.ok (.createdCase existing.id existing.status
                    (sortedSet (dictKeys existing.extractedFields)))) := by
                simp only [PortMutation.opening, hrecordSame, hrecord, openCreateCase, hcase,
                  hcaseSame, hfound]
              obtain ⟨data, hdirect⟩ := (createCaseHandler_run hruntime db proposal newId now
                expiresIn log values).2 _ _ _ (PortMutation.perform_returns hends) rfl
              -- the case was linked by an earlier execution, which has set the marker
              obtain ⟨row, hrow, hid, -, hmarker⟩ :=
                hlinked record hmem (by simp [hcase]) hthis htenant
              rw [hdirect]
              exact .done rfl rfl htables.symm hrow hid hmarker

/-- The handler of `update_case_fields` ends as the mutation of the port does; the
answer `None` becomes a refusal. -/
theorem updateCaseFieldsHandler_run (htenant : runtime.tenantId = job.tenantId) (db : Db)
    (proposal : AgentProposal) (newId : Uuid) (now : Timestamp) (expiresIn : ℤ)
    (log : List Invocation) (values : UpdateCaseFieldsArgs) {result : PortResult} {after : Db}
    (hperform : (PortMutation.updateCaseFields values.caseId
      (acceptedFields services.checks proposal runtime)).perform job.attempt now db =
      (.ok result, after)) :
    (result.updatedCase? = none → updateCaseFieldsHandler services.checks
        (job.port newId now expiresIn) proposal runtime values ⟨db, log⟩ =
        (.error (.stop "case_not_found"), ⟨after, log ++ [.port .updateCaseFields]⟩)) ∧
    ∀ updated, result.updatedCase? = some updated →
      ∃ data, updateCaseFieldsHandler services.checks (job.port newId now expiresIn) proposal
        runtime values ⟨db, log⟩ = (.ok data, ⟨after, log ++ [.port .updateCaseFields]⟩) := by
  have hport : (job.port newId now expiresIn).updateCaseFields job.tenantId values.caseId
      (validateProposalFields services.checks proposal runtime).values db =
      (.ok result.updatedCase?, after) := by
    have hcall : (job.port newId now expiresIn).updateCaseFields job.tenantId values.caseId
        (validateProposalFields services.checks proposal runtime).values =
        Session.mapError portError ((PortMutation.updateCaseFields values.caseId
          (acceptedFields services.checks proposal runtime)).perform job.attempt now >>=
            fun result => pure result.updatedCase?) := rfl
    rw [hcall, Session.mapError, Session.bind_run, hperform]
    rfl
  unfold updateCaseFieldsHandler
  rw [htenant, Session.bind_run, callPort_returns hport]
  dsimp only
  constructor
  · intro hnone
    rw [hnone]
    rfl
  · intro updated hupdated
    rw [hupdated]
    exact ⟨_, rfl⟩

theorem updateCaseFields_sameEnd (h : Lifecycle db) (hjob : job ∈ db.jobs)
    (hrunning : job.status = .running) (htenant : runtime.tenantId = job.tenantId)
    (happroval : approval.tenantId = job.tenantId) (htables : caseTables parked = caseTables db)
    (values : UpdateCaseFieldsArgs) :
    SameEnd job db
      (updateCaseFieldsHandler services.checks (job.port newId now expiresIn) proposal runtime
        values ⟨db, log⟩)
      (ApprovalExecutor.updateCaseFields approval
        (pendingAction services.checks runtime proposal capability arguments) values parked) := by
  have hcaseSame : db.case? values.caseId job.attempt.tenantId =
      db.case? values.caseId job.tenantId := rfl
  unfold ApprovalExecutor.updateCaseFields
  rw [Session.read_bind_run, case?_of_tables htables, happroval]
  cases hfound : db.case? values.caseId job.tenantId with
  | none =>
      have hends : (PortMutation.updateCaseFields values.caseId
          (acceptedFields services.checks proposal runtime)).opening job.attempt db =
          .ends (.ok .absent) := by
        simp only [PortMutation.opening, hcaseSame, hfound]
      rw [(updateCaseFieldsHandler_run htenant db proposal newId now expiresIn log values
        (PortMutation.perform_returns hends)).1 rfl]
      exact .refused rfl rfl rfl
  | some case =>
      have hwrites : (PortMutation.updateCaseFields values.caseId
          (acceptedFields services.checks proposal runtime)).opening job.attempt db =
          .writes (.caseFields case (acceptedFields services.checks proposal runtime)) := by
        simp only [PortMutation.opening, hcaseSame, hfound]
      obtain ⟨data, hdirect⟩ := (updateCaseFieldsHandler_run htenant db proposal newId now expiresIn
        log values (PortMutation.perform_commits hwrites (h.fencedJob_eq hjob hrunning))).2 _ rfl
      have hcaseTenant : case.tenantId = job.tenantId := by
        have hsome := List.find?_some hfound
        simp only [decide_eq_true_eq] at hsome
        exact hsome.2
      rw [hdirect]
      refine .done rfl rfl ?_ (marked_mem hjob) rfl rfl
      rw [← hcaseTenant]
      exact (apply_of_tables htables
        (.caseFields case (acceptedFields services.checks proposal runtime))).symm

end Handlers

/-! ## The two ways -/

/-- The job's row carries the side-effect marker. -/
def MarkedIn (db : Db) (job : AgentJob) : Prop :=
  ∃ row ∈ db.jobs, row.id = job.id ∧ row.sideEffectCommittedAt.isSome

/-- The direct and the approved execution of a case action, started in `db`: both
succeed with the same cases, case events and idempotency records and with the
marker set, or both refuse and leave these tables as they were. -/
inductive CasesAgree (job : AgentJob) (db : Db) (direct : Except HandlerError Json × World Db)
    (approved : Except AppError DecisionResponse × Db) : Prop
  | done {data : Json} {response : DecisionResponse} : direct.1 = .ok data →
      approved.1 = .ok response → direct.2.state.cases = approved.2.cases →
      direct.2.state.caseEvents = approved.2.caseEvents →
      direct.2.state.idempotency = approved.2.idempotency → MarkedIn direct.2.state job →
      MarkedIn approved.2 job → CasesAgree job db direct approved
  | refused {error : HandlerError} {raised : AppError} : direct.1 = .error error →
      approved.1 = .error raised → direct.2.state = db → approved.2.cases = db.cases →
      approved.2.caseEvents = db.caseEvents → approved.2.idempotency = db.idempotency →
      CasesAgree job db direct approved

/-- A case action commits a side effect. -/
theorem caseAction_commits {name : String}
    (hname : name = "create_case" ∨ name = "update_case_fields")
    {capability : ActionCapability} (h : requireAction name = some capability) :
    capability.commitsSideEffect = true := by
  rcases hname with rfl | rfl <;> cases h <;> rfl

section Ways

variable {services : Services} {state : SystemState} {job : AgentJob} {proposal : AgentProposal}
  {runtime : TrustedToolRuntimeContext} {source : TrustedSource} {call : ToolCall}
  {capability : ActionCapability} {arguments : ToolArgs}

/-- Whatever the case action, the handler that calls the port and the one of the
executor end alike. -/
theorem handlers_sameEnd (hreachable : (systemMachine services).Reachable state)
    (hjob : job ∈ state.db.jobs) (hrunning : job.status = .running)
    (hruntime : RuntimeOf services job runtime source)
    (hname : call.name = "create_case" ∨ call.name = "update_case_fields")
    (hcapability : requireAction call.name = some capability)
    (harguments : ToolArgs.modelValidate capability.key call.arguments = .ok arguments)
    {approval : Approval} (happroval : approval.tenantId = job.tenantId) {parked : Db}
    (htables : caseTables parked = caseTables state.db) (proposal : AgentProposal)
    (newId : Uuid) (now : Timestamp) (expiresIn : ℤ) (summary : Json) (log : List Invocation) :
    SameEnd job state.db
      (invokeHandler services.checks (job.port newId now expiresIn) proposal runtime capability.key
        arguments ⟨state.db, log⟩)
      (ApprovalExecutor.handle services newId approval (parkedRow summary job)
        (pendingAction services.checks runtime proposal capability arguments) arguments
        parked) := by
  have hlifecycle := (systemInvariant_of_reachable hreachable).lifecycle
  have hbusiness := businessInvariant_of_reachable hreachable
  rcases hname with hname | hname <;> rw [hname] at hcapability <;> cases hcapability <;>
    obtain ⟨values, -, rfl⟩ := ok_of_map harguments
  · refine createCase_sameEnd hlifecycle hjob hrunning ?_ hruntime happroval htables values
    intro record hrecord hlinked hthis htenant
    obtain ⟨caseId, hcase⟩ := Option.isSome_iff_exists.1 hlinked
    obtain ⟨-, -, jobId, hjobId, hmarked⟩ := hbusiness.linked record hrecord caseId hcase
    obtain rfl : job.id = jobId := Option.some.inj (hthis.symm.trans hjobId)
    exact htenant ▸ hmarked
  · exact updateCaseFields_sameEnd hlifecycle hjob hrunning hruntime.tenant_eq happroval
      htables values

/-- Approved execution of case actions equals direct execution.  In every state
that the system reaches, a permitted call of a running job to create a case or to
update its fields does the same whether its handler runs at once through the
port, or the call is frozen, the job parked and the command approved in time:
the same cases, case events and idempotency records, with the side-effect marker
set, or a refusal on both ways that leaves these tables alone.  An approval that an
earlier attempt has staged must not equal the command in Python and differ from it
in JSON. -/
theorem case_actions_agree (hreachable : (systemMachine services).Reachable state)
    (hjob : job ∈ state.db.jobs) (hrunning : job.status = .running)
    (hruntime : RuntimeOf services job runtime source) {fingerprint : String}
    {compiled : CompiledTenantProfile}
    (hcompiled : compileTenantProfile runtime.tenantConfig fingerprint = .ok compiled)
    (hprofile : services.resolvePersistedProfile job.tenantConfigSnapshot job.tenantConfigSha256 =
      some (runtime.tenantConfig, some compiled))
    (hname : call.name = "create_case" ∨ call.name = "update_case_fields")
    (hpermitted : Permitted services.checks runtime proposal call)
    (hcapability : requireAction call.name = some capability)
    (harguments : ToolArgs.modelValidate capability.key call.arguments = .ok arguments)
    {reason : String} {requestId : Uuid}
    (hask : Askable state.db job
      (pendingAction services.checks runtime proposal capability arguments)
      reason requestId)
    {operator : Operator} (htenant : operator.tenantId = job.tenantId) {request : DecisionRequest}
    (hrequest : request.decision = .approve) {requestedAt decidedAt : Timestamp} {expiresIn : ℤ}
    (htime : decidedAt < requestedAt + expiresIn) (newId : Uuid) (now : Timestamp) (summary : Json)
    (log : List Invocation) :
    CasesAgree job state.db
      (invokeHandler services.checks (job.port newId now expiresIn) proposal runtime capability.key
        arguments ⟨state.db, log⟩)
      (approvedPath services requestId newId job
        (pendingAction services.checks runtime proposal capability arguments) reason expiresIn
        requestedAt summary operator request decidedAt state.db) := by
  have hlifecycle := (systemInvariant_of_reachable hreachable).lifecycle
  have hreloads : Reloads (pendingAction services.checks runtime proposal capability arguments)
      (pendingAction services.checks runtime proposal capability arguments).modelDump
      (pendingAction services.checks runtime proposal capability arguments) := by
    refine ⟨PendingAction.modelValidate_modelDump (requireAction_version hcapability) ?_, rfl, rfl,
      .refl _, .refl _⟩
    exact capability.key.name_safe
  obtain ⟨approval, parked, happroval, htables, hraises, hreturns⟩ :=
    approvedPath_run hlifecycle hjob hrunning hask hprofile
      (fun approval haction => hreloads.approvable hpermitted hcapability harguments hcompiled rfl
        haction) htenant hrequest htime newId summary
  have hcases : ∀ {next : Db}, caseTables next = caseTables state.db →
      next.cases = state.db.cases ∧ next.caseEvents = state.db.caseEvents ∧
        next.idempotency = state.db.idempotency :=
    fun heq => ⟨congrArg Prod.fst heq, congrArg (·.2.1) heq, congrArg (·.2.2.1) heq⟩
  cases hexecuted : ApprovalExecutor.handle services newId approval (parkedRow summary job)
      (pendingAction services.checks runtime proposal capability arguments) arguments parked with
  | mk outcome working =>
      have hend := handlers_sameEnd hreachable hjob hrunning hruntime hname hcapability harguments
        happroval htables proposal newId now expiresIn summary log
      rw [hexecuted] at hend
      cases hend with
      | refused hdirect hstate hraised =>
          cases hraised
          rw [hraises _ _ hexecuted]
          obtain ⟨hkept, hevents, hrecords⟩ := hcases htables
          exact .refused hdirect rfl hstate hkept hevents hrecords
      | done hdirect hhandled hsame hrow hid hmarker =>
          cases hhandled
          obtain ⟨response, finished, next, hpath, hnext, hmem, hfinished, hmarked⟩ :=
            hreturns _ _ hexecuted
          rw [hpath]
          have hequal : caseTables _ = caseTables next := hsame.trans hnext.symm
          refine .done hdirect rfl (congrArg Prod.fst hequal) (congrArg (·.2.1) hequal)
            (congrArg (·.2.2.1) hequal) ⟨_, hrow, hid, hmarker⟩ ⟨finished, hmem, hfinished, ?_⟩
          rw [hmarked (caseAction_commits hname hcapability)]
          rfl

end Ways

/-! ### A case, opened either way -/

/-- The policy of `replyProfile`, and cases may be opened. -/
def caseActionPolicy : List (String × ActionRule) :=
  ("create_case", ⟨true, false, .executable⟩) :: replyProfile.actionPolicy

theorem caseActionPolicy_nonempty : caseActionPolicy ≠ [] := List.cons_ne_nil _ _

theorem caseActionPolicy_nodup : (dictKeys caseActionPolicy).Nodup := by
  decide

theorem caseActionPolicy_safe :
    ∀ name ∈ dictKeys caseActionPolicy, isSafeIdentifier name = true := by
  decide +kernel

theorem caseActionPolicy_known : ∀ action ∈ replyProfile.routing.alwaysApprovalActions,
    action ∈ dictKeys caseActionPolicy := by
  decide

/-- `replyProfile` with rules for cases. -/
def caseProfile : TenantConfig :=
  { replyProfile with
    actionPolicy := caseActionPolicy
    actionPolicy_nonempty := caseActionPolicy_nonempty
    actionPolicy_nodup := caseActionPolicy_nodup
    actions_safe := caseActionPolicy_safe
    always_known := caseActionPolicy_known }

def caseServices : Services where
  checks := noChecks
  decodeDocument _ := none
  resolvePersistedProfile _ _ :=
    some (caseProfile, (compileTenantProfile caseProfile replyFingerprint).toOption)

/-- The run of `replyNewJob`. -/
def caseRuntime : TrustedToolRuntimeContext :=
  { replyRuntime with
    tenantId := 7
    tenantConfig := caseProfile
    compiledProfile := (compileTenantProfile caseProfile replyFingerprint).toOption
    source := some ⟨"email", "s", "b", none, none⟩
    jobId := some 1 }

theorem caseRuntime_permits : Permitted noChecks caseRuntime replyProposal ⟨"create_case", []⟩ where
  readable := by
    rintro document ⟨⟩
  intake_known := ⟨_, List.mem_singleton_self _, rfl⟩
  supported := by
    rintro item ⟨⟩
  complete := by
    intro capability _ _ intake hintake _ field hfield
    rw [List.mem_singleton.1 hintake] at hfield
    cases hfield
  rule_executable := ⟨_, rfl, rfl, rfl⟩
  registered := by decide +kernel

/-- The job of `replyNewJob` in its first attempt, under the services of `caseProfile`. -/
def claimedCase : SystemState :=
  ((systemMachine caseServices).run idleSystem claimingSteps).getD idleSystem

/-- The case is opened for the running job, at once or after an approval. -/
theorem case_actions_agree_opened : ∃ job ∈ claimedCase.db.jobs,
    CasesAgree job claimedCase.db
      (invokeHandler noChecks (job.port 9 5 100) replyProposal caseRuntime .createCase
        (.createCase ⟨none⟩) ⟨claimedCase.db, []⟩)
      (approvedPath caseServices 3 9 job
        (pendingAction noChecks caseRuntime replyProposal ⟨.createCase, false, true, 1⟩
          (.createCase ⟨none⟩)) "requires_approval" 100 5 (.obj []) ⟨7, "ops"⟩
        ⟨.approve, "Fine.", approving_reason_valid⟩ 10 claimedCase.db) := by
  have hreachable : (systemMachine caseServices).Reachable claimedCase :=
    Machine.Reachable.run (.initial (idleSystem_initial caseServices)) claimingSteps rfl
  have hcompiled : ∃ compiled, compileTenantProfile caseProfile replyFingerprint = .ok compiled :=
    ⟨_, rfl⟩
  obtain ⟨compiled, hcompiled⟩ := hcompiled
  have hclaimed : ∃ job, claimedCase.db.jobs = [job] ∧ job.status = .running ∧ job.tenantId = 7 ∧
      trustedSourceFromSnapshot caseServices.decodeDocument job.sourceSnapshot =
        some ⟨"email", "s", "b", none, none⟩ :=
    ⟨_, rfl, rfl, rfl, rfl⟩
  obtain ⟨job, hjobs, hrunning, htenant, hsource⟩ := hclaimed
  have hjob : job ∈ claimedCase.db.jobs := hjobs ▸ List.mem_singleton_self job
  have hnone : claimedCase.db.approvals = [] := rfl
  refine ⟨job, hjob, ?_⟩
  refine case_actions_agree hreachable hjob hrunning ⟨htenant.symm, rfl, hsource⟩ hcompiled ?_
    (.inl rfl) caseRuntime_permits rfl rfl ⟨?_, ?_⟩ htenant.symm rfl (by decide) 9 5 (.obj []) []
  · show some (caseProfile, (compileTenantProfile caseProfile replyFingerprint).toOption) = _
    rw [hcompiled]
    rfl
  · intro approval happroval
    rw [hnone] at happroval
    cases happroval
  · intro existing hexisting
    rw [Db.approvalOf?, hnone] at hexisting
    cases hexisting

/-! ### Two ways that differ -/

def amountFields : List (String × FieldDefinition) :=
  [("amount", ⟨.number, "Amount", none, by decide, by decide⟩)]

/-- `caseProfile` with a number as its one field. -/
def amountProfile : TenantConfig :=
  { caseProfile with
    fields := amountFields
    fields_nonempty := List.cons_ne_nil _ _
    fields_nodup := List.nodup_singleton _
    fields_safe := by decide
    required_known := by
      intro intake hintake field hfield
      rw [List.mem_singleton.1 hintake] at hfield
      cases hfield }

def amountServices : Services where
  checks := noChecks
  decodeDocument _ := none
  resolvePersistedProfile _ _ :=
    some (amountProfile, (compileTenantProfile amountProfile replyFingerprint).toOption)

def amountRuntime : TrustedToolRuntimeContext :=
  { caseRuntime with
    tenantConfig := amountProfile
    compiledProfile := (compileTenantProfile amountProfile replyFingerprint).toOption }

/-- It proposes this amount. -/
def amountProposal (value : ProposalScalar) : AgentProposal :=
  { replyProposal with
    fields := [⟨"amount", .scalar value, none, none, by decide, excerpt_valid_none⟩]
    fields_nodup := List.nodup_singleton _ }

/-- The command to open a case with this amount. -/
def amountCommand (value : ProposalScalar) : PendingAction :=
  pendingAction noChecks amountRuntime (amountProposal value) ⟨.createCase, false, true, 1⟩
    (.createCase ⟨none⟩)

/-- The first attempt asks for an approval with the amount `2` and is then retried. -/
def amountSteps : List SystemStep :=
  [.enqueue replyNewJob, .claim 0 0 60 [],
    .requestApproval ⟨1, 7, 1⟩ 3 (amountCommand (.int 2)) "requires_approval" 100 5,
    .runEnds 0 (.retryable "provider_unavailable"), .inspect 0 3, .write 0 13 20,
    .claim 0 30 90 []]

def amountState : SystemState :=
  ((systemMachine amountServices).run idleSystem amountSteps).getD idleSystem

/-- The database of `claimedCase` with a case linked to the job, which has no marker. -/
def linkedWithoutMarkerDb : Db :=
  { claimedCase.db with
    cases := [⟨8, 7, none, "received", "email", "s", "b", none, .null, []⟩]
    idempotency := claimedCase.db.idempotency.map fun record => { record with caseId := some 8 } }

/-- Whether the fields of the cases are integers. -/
def integerFields (cases : List IntakeCase) : List (List Bool) :=
  cases.map fun case => case.extractedFields.map fun field =>
    match field.2 with
    | .int _ => true
    | _ => false

/-- Not in every database the two ways agree.  In a reachable one the second attempt asks
with the amount `2.0`, which equals the staged `2`: at once it writes a float, and after
the approval an integer is written.  In one that is not reachable a case is linked to the
job and the job has no marker: at once the case is returned and no marker is set. -/
theorem case_actions_disagree :
    ((systemMachine amountServices).Reachable amountState ∧
      ∃ job ∈ amountState.db.jobs, job.status = .running ∧ ¬ CasesAgree job amountState.db
        (invokeHandler noChecks (job.port 9 5 100) (amountProposal (.float (.of 2))) amountRuntime
          .createCase (.createCase ⟨none⟩) ⟨amountState.db, []⟩)
        (approvedPath amountServices 4 9 job (amountCommand (.float (.of 2)))
          "requires_approval" 100 35 (.obj []) ⟨7, "ops"⟩
          ⟨.approve, "Fine.", approving_reason_valid⟩ 40 amountState.db)) ∧
    ∃ job ∈ linkedWithoutMarkerDb.jobs, job.status = .running ∧
      ¬ CasesAgree job linkedWithoutMarkerDb
      (invokeHandler noChecks (job.port 9 5 100) replyProposal caseRuntime .createCase
        (.createCase ⟨none⟩) ⟨linkedWithoutMarkerDb, []⟩)
      (approvedPath caseServices 3 9 job
        (pendingAction noChecks caseRuntime replyProposal ⟨.createCase, false, true, 1⟩
          (.createCase ⟨none⟩)) "requires_approval" 100 5 (.obj []) ⟨7, "ops"⟩
        ⟨.approve, "Fine.", approving_reason_valid⟩ 10 linkedWithoutMarkerDb) := by
  refine ⟨⟨Machine.Reachable.run (.initial (idleSystem_initial amountServices)) amountSteps rfl,
    _, List.mem_cons_self, rfl, fun h => ?_⟩, _, List.mem_cons_self, rfl, fun h => ?_⟩
  · cases h with
    | done _ _ hcases =>
        have hfields := congrArg integerFields hcases
        exact absurd hfields (by decide +kernel)
    | refused hdirect => cases hdirect
  · cases h with
    | done _ _ _ _ _ hmarked =>
        obtain ⟨row, hrow, -, hsome⟩ := hmarked
        rw [List.mem_singleton.1 hrow] at hsome
        cases hsome
    | refused hdirect => cases hdirect

end IntegraIntake
