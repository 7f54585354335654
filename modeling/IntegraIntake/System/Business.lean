import IntegraIntake.System.Invariant

/-!
# What a step does to the business rows

The direct port and the approval executor are two implementations of the same
writes: `PortWrites.apply` is what either leaves in the tables of cases, case
events, artifacts and idempotency records.  Here the executor is shown to be
one, and every other step to leave these tables alone, new jobs aside.
-/

namespace IntegraIntake

open Library JobRepository ApprovalRepository ApprovalDecision

/-- The tables that tools write. -/
def businessTables (db : Db) :
    List IntakeCase × List CaseEvent × List JobArtifact × List IdempotencyRecord :=
  (db.cases, db.caseEvents, db.artifacts, db.idempotency)

/-! ## The executor -/

/-- The writes that the executor can make for a job, by the action's key. -/
inductive ExecutorWrites (newId tenantId jobId : Uuid) (db : Db) : ActionKey → PortWrites → Prop
  | newCase {record : IdempotencyRecord} {case : IntakeCase} :
      db.idempotencyOf? jobId tenantId = some record → record.caseId = none → case.id = newId →
      case.tenantId = tenantId → (∀ old ∈ db.cases, old.id ≠ newId) →
      ExecutorWrites newId tenantId jobId db .createCase (.newCase record case)
  | newArtifact {key : ActionKey} {artifact : JobArtifact} : key ≠ .findCustomer →
      key ≠ .updateCaseFields → artifact.tenantId = tenantId → artifact.jobId = jobId →
      (∀ old ∈ db.artifacts, old.key ≠ artifact.key) →
      ExecutorWrites newId tenantId jobId db key (.newArtifact artifact)
  | caseFields {case : IntakeCase} {fields : List (String × Json)} : case ∈ db.cases →
      ExecutorWrites newId tenantId jobId db .updateCaseFields (.caseFields case fields)

section Executor

variable {services : Services} {newId : Uuid} {approval : Approval} {job : AgentJob}
  {action : PendingAction} {db working : Db}

theorem namedCase_state (approval : Approval) (caseId : Option Uuid) (db : Db) :
    (ApprovalExecutor.namedCase approval caseId db).2 = db := by
  cases caseId with
  | none => rfl
  | some caseId =>
      simp only [ApprovalExecutor.namedCase, Session.read_bind_run]
      cases db.case? caseId approval.tenantId <;> rfl

theorem sourceFromJob_state (services : Services) (job : AgentJob) (db : Db) :
    (ApprovalExecutor.sourceFromJob services job db).2 = db := by
  have hkeeps : Session.Keeps id (ApprovalExecutor.sourceFromJob services job) := .orRaise _ _
  exact hkeeps db

theorem createForJob_cases (newId tenantId jobId : Uuid) (kind : ArtifactKind) (payload : Json)
    (db : Db) :
    (∃ outcome, createForJob newId tenantId jobId kind payload db = (outcome, db)) ∨
      ((∀ old ∈ db.artifacts, old.key ≠ (tenantId, jobId, kind)) ∧
        createForJob newId tenantId jobId kind payload db = (.ok ⟨kind.resultKind, newId⟩,
          db.addArtifact ⟨newId, tenantId, jobId, kind, payload⟩)) := by
  unfold createForJob
  rw [Session.read_bind_run]
  cases hfound : db.artifact? tenantId jobId kind with
  | some existing => exact .inl ⟨_, rfl⟩
  | none =>
      dsimp only
      split
      · exact .inl ⟨_, rfl⟩
      · exact .inr ⟨Table.lookup_eq_none_iff.1 hfound, rfl⟩

theorem createForJob_writes {kind : ArtifactKind} {payload : Json} {reference : ResultReference}
    {key : ActionKey} (hfind : key ≠ .findCustomer) (hupdate : key ≠ .updateCaseFields)
    (h : createForJob newId approval.tenantId job.id kind payload db = (.ok reference, working)) :
    working = db ∨ ∃ writes, ExecutorWrites newId approval.tenantId job.id db key writes ∧
      working = writes.apply db := by
  rcases createForJob_cases newId approval.tenantId job.id kind payload db with
    ⟨outcome, heq⟩ | ⟨hfresh, heq⟩
  · rw [heq] at h
    cases h
    exact .inl rfl
  · rw [heq] at h
    cases h
    exact .inr ⟨.newArtifact ⟨newId, approval.tenantId, job.id, kind, payload⟩,
      .newArtifact hfind hupdate rfl rfl hfresh, rfl⟩

theorem createCase_writes {values : CreateCaseArgs} {handled : ApprovalExecutor.Handled}
    (h : ApprovalExecutor.createCase services newId approval job action values db =
      (.ok handled, working)) :
    working = db ∨ ∃ writes, ExecutorWrites newId approval.tenantId job.id db .createCase writes ∧
      working = writes.apply db := by
  unfold ApprovalExecutor.createCase at h
  rw [Session.read_bind_run] at h
  cases hrecord : db.idempotencyOf? job.id approval.tenantId with
  | none =>
      rw [hrecord] at h
      cases h
  | some record =>
      rw [hrecord] at h
      dsimp only at h
      cases hlinked : record.caseId with
      | some caseId =>
          rw [hlinked] at h
          dsimp only at h
          cases hcase : db.case? caseId approval.tenantId <;> rw [hcase] at h <;> cases h
          exact .inl rfl
      | none =>
          rw [hlinked] at h
          simp only [ApprovalExecutor.createNewCase, Session.read_bind_run] at h
          split at h
          · cases h
          · obtain ⟨source, middle, hsource, hrest⟩ := Session.bind_eq_ok h
            have hmiddle : middle = db := by
              rw [← sourceFromJob_state services job db, hsource]
            subst hmiddle
            split at hrest
            · cases hrest
            · rename_i hfresh
              cases hrest
              refine .inr ⟨.newCase record (caseFromSource newId approval.tenantId source
                values.customerId action.knownFields), .newCase hrecord hlinked rfl rfl ?_, rfl⟩
              simpa using hfresh

/-- The action that validated arguments belong to. -/
def ToolArgs.key : ToolArgs → ActionKey
  | .findCustomer _ => .findCustomer
  | .createCase _ => .createCase
  | .updateCaseFields _ => .updateCaseFields
  | .createReplyDraft _ => .createReplyDraft
  | .flagForReview _ => .flagForReview

theorem ToolArgs.modelValidate_key {key : ActionKey} {values : List (String × Json)}
    {arguments : ToolArgs} (h : ToolArgs.modelValidate key values = .ok arguments) :
    arguments.key = key := by
  have hmap : ∀ {α : Type} {check : Except ArgumentError α} {wrap : α → ToolArgs},
      check.map wrap = .ok arguments → ∃ value, arguments = wrap value := by
    intro α check wrap hcheck
    cases check with
    | error error => cases hcheck
    | ok value =>
        cases hcheck
        exact ⟨value, rfl⟩
  cases key <;> (obtain ⟨value, rfl⟩ := hmap h; rfl)

/-- A handler that returns has made one of the listed writes, or none. -/
theorem handle_writes {arguments : ToolArgs} {handled : ApprovalExecutor.Handled}
    (h : ApprovalExecutor.handle services newId approval job action arguments db =
      (.ok handled, working)) :
    working = db ∨ ∃ writes, ExecutorWrites newId approval.tenantId job.id db arguments.key writes ∧
      working = writes.apply db := by
  cases arguments with
  | findCustomer values =>
      cases h
      exact .inl rfl
  | createCase values => exact createCase_writes h
  | updateCaseFields values =>
      simp only [ApprovalExecutor.handle, ApprovalExecutor.updateCaseFields,
        Session.read_bind_run] at h
      cases hcase : db.case? values.caseId approval.tenantId with
      | none =>
          rw [hcase] at h
          cases h
      | some case =>
          rw [hcase] at h
          cases h
          have htenant : case.tenantId = approval.tenantId := by
            have hfound := List.find?_some hcase
            simp only [decide_eq_true_eq] at hfound
            exact hfound.2
          refine .inr ⟨.caseFields case action.knownFields,
            .caseFields (List.mem_of_find?_eq_some hcase), ?_⟩
          rw [← htenant]
          rfl
  | createReplyDraft values =>
      obtain ⟨caseId, first, hcase, h⟩ := Session.bind_eq_ok h
      obtain ⟨source, second, hsource, h⟩ := Session.bind_eq_ok h
      obtain ⟨reference, third, hcreate, hdone⟩ := Session.bind_eq_ok h
      cases hdone
      have hfirst : first = db := by rw [← namedCase_state approval values.caseId db, hcase]
      have hsecond : second = first := by rw [← sourceFromJob_state services job first, hsource]
      rw [hsecond, hfirst] at hcreate
      exact createForJob_writes (by simp [ToolArgs.key]) (by simp [ToolArgs.key]) hcreate
  | flagForReview values =>
      obtain ⟨reference, third, hcreate, hdone⟩ := Session.bind_eq_ok h
      cases hdone
      exact createForJob_writes (by simp [ToolArgs.key]) (by simp [ToolArgs.key]) hcreate

theorem requireAction_eq_some {name : String} {capability : ActionCapability}
    (h : requireAction name = some capability) :
    capability.key.name = name ∧
      (capability.key ≠ .findCustomer → capability.commitsSideEffect = true) := by
  refine ⟨by simpa using List.find?_some h, ?_⟩
  have hmem := List.mem_of_find?_eq_some h
  simp only [builtinActionRegistry, List.mem_cons, List.not_mem_nil, or_false] at hmem
  rcases hmem with rfl | rfl | rfl | rfl | rfl <;> simp

theorem ExecutorWrites.key_ne {tenantId jobId : Uuid} {key : ActionKey} {writes : PortWrites}
    (h : ExecutorWrites newId tenantId jobId db key writes) : key ≠ .findCustomer := by
  cases h with
  | newCase | caseFields => simp
  | newArtifact hkey => exact hkey

/-- What a decision does to the business tables: nothing, or the writes of the
approved action, with the marker of the parked job. -/
theorem Decided.business {operator : Operator} {request : DecisionRequest} {now : Timestamp}
    {verdict : Verdict} {next : Db}
    (h : Decided services newId approval operator request now db verdict next) :
    businessTables next = businessTables db ∨
      ∃ job key writes, Parked db approval job ∧ approval.action = key.name ∧
        ExecutorWrites newId approval.tenantId job.id db key writes ∧
        businessTables next = businessTables (writes.apply db) ∧
        ∃ row ∈ next.jobs, row.id = job.id ∧ row.tenantId = job.tenantId ∧
          row.sideEffectCommittedAt.isSome := by
  cases h with
  | reused | expired | rejected => exact .inl rfl
  | @approved job _ action executed working hparked _ _ hexecute =>
      obtain ⟨capability, arguments, handled, hcapability, harguments, hhandle, -, hjob,
          -, haction⟩ :=
        execute_ok hexecute
      obtain ⟨hname, hcommits⟩ := requireAction_eq_some hcapability
      have hkey := ToolArgs.modelValidate_key harguments
      rcases handle_writes hhandle with rfl | ⟨writes, hwrites, rfl⟩
      · exact .inl rfl
      · rw [hkey] at hwrites
        refine .inr ⟨job, capability.key, writes, hparked, haction.trans hname.symm, hwrites, rfl,
          decidedRow (approvedRow operator request now executed) executed.job now .succeeded none
            "tool_result", ?_, by rw [decidedRow, hjob], by rw [decidedRow, hjob], ?_⟩
        · refine Table.mem_replace_self ⟨job, ?_, by rw [decidedRow, hjob]⟩
          exact (writes.apply_jobs db).symm ▸ hparked.job_mem
        · rw [decidedRow, hjob]
          simp [hcommits hwrites.key_ne]

end Executor

/-! ## The steps of the system -/

/-- The job for which a step can write business rows. -/
def SystemStep.actingJob? (state : SystemState) : SystemStep → Option Uuid
  | .portCommit port _ => (state.ports port).attempt?.map Attempt.jobId
  | .decide _ approvalId _ _ _ =>
    (state.db.approvals.find? fun approval => approval.id = approvalId).bind Approval.jobId
  | _ => none

/-- The steps that merge fields into a case: the commit of `update_case_fields`
and decisions on approvals of that action. -/
def SystemStep.UpdatesCase (state : SystemState) : SystemStep → Prop
  | .portCommit port _ =>
    ∃ attempt case fields job, state.ports port = .fenced attempt (.caseFields case fields) job
  | .decide _ approvalId _ _ _ => ∃ approval ∈ state.db.approvals, approval.id = approvalId ∧
    approval.action = ActionKey.updateCaseFields.name
  | _ => False

/-- Nobody else who holds `lock` has the job: the step's own port holds it, or
the job is not running at all. -/
def Guarded (state : SystemState) (label : SystemStep) (jobId : Uuid) (lock : Lock) : Prop :=
  (∃ port, label.port? = some port ∧ state.locks lock = some port) ∨
    ∀ (attempt : Attempt) (job : AgentJob), attempt.jobId = jobId → ¬ attempt.Owns state.db job

theorem Guarded.not_owns {state : SystemState} {label : SystemStep} {jobId : Uuid} {lock : Lock}
    (h : Guarded state label jobId lock) {port : ℕ} (hother : label.port? ≠ some port)
    (hlock : state.locks lock = some port) {attempt : Attempt} (hattempt : attempt.jobId = jobId)
    (job : AgentJob) : ¬ attempt.Owns state.db job := by
  rcases h with ⟨holder, hlabel, hholder⟩ | hnone
  · rw [hlock] at hholder
    cases hholder
    exact absurd hlabel hother
  · exact hnone attempt job hattempt

/-- The job of a committed write, with its marker. -/
def Marked (db : Db) (tenantId jobId : Uuid) : Prop :=
  ∃ job ∈ db.jobs, job.id = jobId ∧ job.tenantId = tenantId ∧ job.sideEffectCommittedAt.isSome

/-- The unique key of an idempotency record. -/
def IdempotencyRecord.uniqueKey (record : IdempotencyRecord) : Uuid × String :=
  (record.tenantId, record.key)

/-- What one step does to the business tables. -/
inductive BusinessStep (state : SystemState) (label : SystemStep) (next : Db) : Prop
  | same : businessTables next = businessTables state.db → BusinessStep state label next
  | enqueued {record : IdempotencyRecord} : record.caseId = none →
      (∀ old ∈ state.db.idempotency, old.uniqueKey ≠ record.uniqueKey) →
      (∀ job ∈ state.db.jobs, record.jobId ≠ some job.id) →
      (∃ job ∈ next.jobs, record.jobId = some job.id ∧ record.tenantId = job.tenantId) →
      businessTables next = (state.db.cases, state.db.caseEvents, state.db.artifacts,
        state.db.idempotency ++ [record]) → BusinessStep state label next
  | newCase {record : IdempotencyRecord} {case : IntakeCase} {jobId : Uuid} :
      label.actingJob? state = some jobId → record ∈ state.db.idempotency →
      record.jobId = some jobId → record.caseId = none → case.tenantId = record.tenantId →
      (∀ old ∈ state.db.cases, old.id ≠ case.id) →
      (∀ port, label.port? ≠ some port → state.locks (.case case.id) ≠ some port) →
      Guarded state label jobId (.idempotency jobId) → Marked next record.tenantId jobId →
      businessTables next = (state.db.cases ++ [case],
        state.db.caseEvents ++ [createdEvent case.tenantId case.id], state.db.artifacts,
        Table.replace IdempotencyRecord.uniqueKey (record.linked case.id) state.db.idempotency) →
      BusinessStep state label next
  | newArtifact {artifact : JobArtifact} : label.actingJob? state = some artifact.jobId →
      (∀ old ∈ state.db.artifacts, old.key ≠ artifact.key) →
      Guarded state label artifact.jobId (.artifact artifact.key) →
      Marked next artifact.tenantId artifact.jobId →
      businessTables next = (state.db.cases, state.db.caseEvents,
        state.db.artifacts ++ [artifact], state.db.idempotency) → BusinessStep state label next
  | caseFields {case old : IntakeCase} {fields : List (String × Json)} : label.UpdatesCase state →
      old ∈ state.db.cases → old.id = case.id → old.tenantId = case.tenantId →
      businessTables next = (Table.replace IntakeCase.id (mergedCase fields case) state.db.cases,
        state.db.caseEvents ++ [fieldsUpdatedEvent case.tenantId case.id fields],
        state.db.artifacts, state.db.idempotency) → BusinessStep state label next

section Frames

variable {db : Db}

theorem cancelStagedApproval_business (jobId tenantId : Uuid) (db : Db) :
    businessTables (cancelStagedApproval jobId tenantId db) = businessTables db := by
  unfold cancelStagedApproval
  split <;> rfl

theorem claimNext_business (now leaseUntil : Timestamp) (excluded : List Uuid)
    (skipped : Uuid → Bool) (db : Db) :
    businessTables (claimNext now leaseUntil excluded skipped db).2 = businessTables db := by
  rcases claimNext_cases now leaseUntil excluded skipped db with heq | ⟨_, _, _, _, heq⟩
  · rw [heq]
  · rw [heq]
    rfl

theorem renewLease_business (jobId tenantId : Uuid) (attemptCount : ℕ) (leaseUntil : Timestamp)
    (db : Db) :
    businessTables (renewLease jobId tenantId attemptCount leaseUntil db).2 =
      businessTables db := by
  rcases renewLease_cases jobId tenantId attemptCount leaseUntil db with heq | ⟨_, _, heq⟩
  · rw [heq]
  · rw [heq]
    rfl

theorem createForRunningJob_business (newId tenantId jobId : Uuid) (attemptCount : ℕ)
    (action : PendingAction) (policyReason : String) (expiresIn : ℤ) (now : Timestamp) (db : Db) :
    businessTables (createForRunningJob newId tenantId jobId attemptCount action policyReason
      expiresIn now db).2 = businessTables db := by
  rcases createForRunningJob_cases newId tenantId jobId attemptCount action policyReason expiresIn
    now db with ⟨_, heq⟩ | ⟨_, _, _, -, ⟨_, _, -, -, -, -, heq⟩ | ⟨-, heq⟩⟩ <;> rw [heq] <;> rfl

theorem FinalWrite.run_business (write : FinalWrite) (claim : AgentJob)
    (now availableAt : Timestamp) (db : Db) :
    businessTables (write.run claim now availableAt db).2 = businessTables db := by
  have hterminal : ∀ status result errorCode, businessTables (markTerminal claim.id status now
      claim.tenantId claim.attemptCount result errorCode db).2 = businessTables db := by
    intro status result errorCode
    rcases markTerminal_cases claim.id status now claim.tenantId claim.attemptCount result errorCode
      db with ⟨_, heq⟩ | ⟨_, _, heq⟩
    · rw [heq]
    · rw [heq]
      exact cancelStagedApproval_business claim.id claim.tenantId db
  cases write with
  | retry errorCode =>
      rcases scheduleRetry_cases claim.id errorCode availableAt claim.tenantId claim.attemptCount db
        with ⟨_, heq⟩ | ⟨_, _, heq⟩
      · rw [FinalWrite.run, heq]
      · rw [FinalWrite.run, heq]
        rfl
  | fail errorCode => exact hterminal ..
  | uncertain errorCode => exact hterminal ..
  | succeed result => exact hterminal ..
  | park result =>
      rcases recordAwaitingApprovalResult_cases claim.id result claim.tenantId claim.attemptCount db
        with ⟨_, heq⟩ | ⟨_, _, _, -, -, -, -, heq⟩
      · rw [FinalWrite.run, heq]
      · rw [FinalWrite.run, heq]
        rfl

theorem recoverExpiredLeases_business (now : Timestamp) (maxRetries : ℕ) (retryDelay : ℤ)
    (skipped : Uuid → Bool) (db : Db) :
    businessTables (recoverExpiredLeases now maxRetries retryDelay skipped db) =
      businessTables db := by
  have hone : ∀ job db, businessTables (recoverLease now maxRetries retryDelay db job) =
      businessTables db := by
    intro job db
    unfold recoverLease
    split
    · exact cancelStagedApproval_business job.id job.tenantId db
    · split
      · rfl
      · exact cancelStagedApproval_business job.id job.tenantId db
  unfold recoverExpiredLeases
  induction db.jobs.filter (leaseExpired now skipped) generalizing db with
  | nil => rfl
  | cons job rest ih => exact (ih _).trans (hone job db)

theorem Expirations.business {now : Timestamp} {selected : List Approval} {next : Db}
    (h : Expirations now db selected next) : businessTables next = businessTables db := by
  induction h with
  | nil => rfl
  | cons _ _ _ ih => exact ih.trans rfl

end Frames
end IntegraIntake
