import IntegraIntake.Library.References
import IntegraIntake.System.OnePerJob
import IntegraIntake.System.Replay

/-!
# Foreign keys

The foreign keys of `app/db/models.py` name a row together with its tenant.  They are not
checked by the model of the database, and need not be: whatever workers, tools, operators
and sweeps do, in any interleaving, every row that is named is there, and belongs to the
tenant of the row that names it.  No statement of theirs can fail on such a constraint.

A transaction that another process has overtaken is no exception.  A port looks its customer
up long before it commits; customers are never taken away.  A port that merges fields does
so in the row that it has locked, and that row keeps its key.
-/

namespace IntegraIntake

open Library JobRepository ApprovalRepository ApprovalDecision

/-! ## Keys and references -/

/-- `uq_customers_tenant_id_id`. -/
def Customer.tenantKey (customer : Customer) : Uuid × Uuid :=
  (customer.tenantId, customer.id)

/-- `uq_intake_cases_tenant_id_id`. -/
def IntakeCase.tenantKey (case : IntakeCase) : Uuid × Uuid :=
  (case.tenantId, case.id)

/-- `uq_agent_jobs_tenant_id_id`. -/
def AgentJob.tenantKey (job : AgentJob) : Uuid × Uuid :=
  (job.tenantId, job.id)

/-- `uq_approvals_tenant_id_id`. -/
def Approval.tenantKey (approval : Approval) : Uuid × Uuid :=
  (approval.tenantId, approval.id)

/-- The customer that a case names. -/
def IntakeCase.customerRef (case : IntakeCase) : Option (Uuid × Uuid) :=
  case.customerId.map fun customerId => (case.tenantId, customerId)

/-- The case that an event names. -/
def CaseEvent.caseRef (event : CaseEvent) : Option (Uuid × Uuid) :=
  some (event.tenantId, event.caseId)

/-- The case that a record names. -/
def IdempotencyRecord.caseRef (record : IdempotencyRecord) : Option (Uuid × Uuid) :=
  record.caseId.map fun caseId => (record.tenantId, caseId)

/-- The job that a record names. -/
def IdempotencyRecord.jobRef (record : IdempotencyRecord) : Option (Uuid × Uuid) :=
  record.jobId.map fun jobId => (record.tenantId, jobId)

/-- The case that an approval names. -/
def Approval.caseRef (approval : Approval) : Option (Uuid × Uuid) :=
  approval.caseId.map fun caseId => (approval.tenantId, caseId)

/-- The job that an approval names. -/
def Approval.jobRef (approval : Approval) : Option (Uuid × Uuid) :=
  approval.jobId.map fun jobId => (approval.tenantId, jobId)

/-- The approval that an event names. -/
def ApprovalEvent.approvalRef (event : ApprovalEvent) : Option (Uuid × Uuid) :=
  some (event.tenantId, event.approvalId)

/-- The job that an artifact names. -/
def JobArtifact.jobRef (artifact : JobArtifact) : Option (Uuid × Uuid) :=
  some (artifact.tenantId, artifact.jobId)

/-- The foreign keys of the schema, but for those of the table of tenants. -/
structure ForeignKeys (db : Db) : Prop where
  /-- `fk_intake_cases_tenant_customer`. -/
  case_customer : Refers IntakeCase.customerRef Customer.tenantKey db.cases db.customers
  /-- `fk_case_events_tenant_case`. -/
  event_case : Refers CaseEvent.caseRef IntakeCase.tenantKey db.caseEvents db.cases
  /-- `fk_idempotency_records_tenant_case`. -/
  record_case : Refers IdempotencyRecord.caseRef IntakeCase.tenantKey db.idempotency db.cases
  /-- `fk_idempotency_records_tenant_job`. -/
  record_job : Refers IdempotencyRecord.jobRef AgentJob.tenantKey db.idempotency db.jobs
  /-- `fk_approvals_tenant_case`. -/
  approval_case : Refers Approval.caseRef IntakeCase.tenantKey db.approvals db.cases
  /-- `fk_approvals_tenant_job`. -/
  approval_job : Refers Approval.jobRef AgentJob.tenantKey db.approvals db.jobs
  /-- `fk_approval_events_tenant_approval`. -/
  event_approval :
    Refers ApprovalEvent.approvalRef Approval.tenantKey db.approvalEvents db.approvals
  /-- `fk_job_artifacts_tenant_job`. -/
  artifact_job : Refers JobArtifact.jobRef AgentJob.tenantKey db.artifacts db.jobs

/-! ## What is written

The references of jobs, and those to jobs, are known from the lifecycle and the business
rows.  The others are followed here, statement by statement. -/

/-- The tables whose references are followed, with those they point into. -/
def referenceTables (db : Db) :
    List Customer × List IntakeCase × List CaseEvent × List Approval × List ApprovalEvent :=
  (db.customers, db.cases, db.caseEvents, db.approvals, db.approvalEvents)

/-- What may be written to these tables at once. -/
inductive ReferenceStep (db next : Db) : Prop
  | same : referenceTables next = referenceTables db → ReferenceStep db next
  | newCase {case : IntakeCase} {event : CaseEvent} : (∀ old ∈ db.cases, old.id ≠ case.id) →
      Finds Customer.tenantKey db.customers case.customerRef →
      event.caseRef = some case.tenantKey →
      referenceTables next = (db.customers, db.cases ++ [case], db.caseEvents ++ [event],
        db.approvals, db.approvalEvents) → ReferenceStep db next
  | caseFields {old changed : IntakeCase} {event : CaseEvent} : old ∈ db.cases →
      changed.tenantKey = old.tenantKey →
      Finds Customer.tenantKey db.customers changed.customerRef →
      event.caseRef = some changed.tenantKey →
      referenceTables next = (db.customers, Table.replace IntakeCase.id changed db.cases,
        db.caseEvents ++ [event], db.approvals, db.approvalEvents) → ReferenceStep db next
  | request {added : Approval} {events : List ApprovalEvent} :
      (∀ approval ∈ db.approvals, approval.id ≠ added.id) → added.caseId = none →
      (∀ event ∈ events, event.approvalRef = some added.tenantKey) →
      referenceTables next = (db.customers, db.cases, db.caseEvents, db.approvals ++ [added],
        db.approvalEvents ++ events) → ReferenceStep db next
  | change {approval changed : Approval} {events : List ApprovalEvent} :
      approval ∈ db.approvals → changed.tenantKey = approval.tenantKey →
      Finds IntakeCase.tenantKey db.cases changed.caseRef ∨ changed.caseRef = approval.caseRef →
      (∀ event ∈ events, event.approvalRef = some approval.tenantKey) →
      referenceTables next = (db.customers, db.cases, db.caseEvents,
        Table.replace Approval.id changed db.approvals, db.approvalEvents ++ events) →
      ReferenceStep db next

/-- Sequences of such writes. -/
def ReferenceSteps : Db → Db → Prop :=
  Relation.ReflTransGen ReferenceStep

/-- The references that are followed, with the primary keys of the rows they are in. -/
structure Referenced (db : Db) : Prop where
  cases_unique : Table.Unique IntakeCase.id db.cases
  approvals_unique : Table.Unique Approval.id db.approvals
  case_customer : Refers IntakeCase.customerRef Customer.tenantKey db.cases db.customers
  event_case : Refers CaseEvent.caseRef IntakeCase.tenantKey db.caseEvents db.cases
  approval_case : Refers Approval.caseRef IntakeCase.tenantKey db.approvals db.cases
  event_approval :
    Refers ApprovalEvent.approvalRef Approval.tenantKey db.approvalEvents db.approvals

section Steps

variable {db next : Db}

theorem Referenced.of_tables (h : Referenced db)
    (htables : referenceTables next = referenceTables db) : Referenced next := by
  simp only [referenceTables, Prod.mk.injEq] at htables
  obtain ⟨hcustomers, hcases, hcaseEvents, happrovals, hevents⟩ := htables
  refine ⟨?_, ?_, ?_, ?_, ?_, ?_⟩
  · exact hcases ▸ h.cases_unique
  · exact happrovals ▸ h.approvals_unique
  · exact hcases ▸ hcustomers ▸ h.case_customer
  · exact hcaseEvents ▸ hcases ▸ h.event_case
  · exact happrovals ▸ hcases ▸ h.approval_case
  · exact hevents ▸ happrovals ▸ h.event_approval

theorem Referenced.step (h : Referenced db) (hstep : ReferenceStep db next) : Referenced next := by
  cases hstep with
  | same htables => exact h.of_tables htables
  | @newCase case event hfresh hcustomer hevent htables =>
      have hkeeps : KeepsKeys IntakeCase.tenantKey db.cases (db.cases ++ [case]) := .append _ _
      have hcase : Finds IntakeCase.tenantKey (db.cases ++ [case]) event.caseRef :=
        hevent ▸ .of_mem (by simp)
      have hreferenced : Referenced { db with
          cases := db.cases ++ [case], caseEvents := db.caseEvents ++ [event] } :=
        ⟨h.cases_unique.append hfresh, h.approvals_unique,
          h.case_customer.append (.singleton hcustomer),
          (h.event_case.mono hkeeps).append (.singleton hcase),
          h.approval_case.mono hkeeps, h.event_approval⟩
      exact hreferenced.of_tables htables
  | @caseFields old changed event hold hkey hcustomer hevent htables =>
      have hid : changed.id = old.id := congrArg Prod.snd hkey
      have hkeeps : KeepsKeys IntakeCase.tenantKey db.cases
          (Table.replace IntakeCase.id changed db.cases) := .replace h.cases_unique hold hid hkey
      have hcase : Finds IntakeCase.tenantKey (Table.replace IntakeCase.id changed db.cases)
          event.caseRef := hevent ▸ .of_mem (Table.mem_replace_self ⟨old, hold, hid.symm⟩)
      have hreferenced : Referenced { db with
          cases := Table.replace IntakeCase.id changed db.cases,
          caseEvents := db.caseEvents ++ [event] } :=
        ⟨h.cases_unique.replace, h.approvals_unique, h.case_customer.replace hcustomer,
          (h.event_case.mono hkeeps).append (.singleton hcase), h.approval_case.mono hkeeps,
          h.event_approval⟩
      exact hreferenced.of_tables htables
  | @request added events hfresh hnone hevents htables =>
      have hkeeps : KeepsKeys Approval.tenantKey db.approvals (db.approvals ++ [added]) :=
        .append _ _
      have happroval : Refers ApprovalEvent.approvalRef Approval.tenantKey events
          (db.approvals ++ [added]) := fun event hevent => hevents event hevent ▸ .of_mem (by simp)
      have hcase : added.caseRef = none := by rw [Approval.caseRef, hnone, Option.map_none]
      have hreferenced : Referenced { db with
          approvals := db.approvals ++ [added], approvalEvents := db.approvalEvents ++ events } :=
        ⟨h.cases_unique, h.approvals_unique.append hfresh, h.case_customer, h.event_case,
          h.approval_case.append (.singleton (hcase ▸ .none)),
          (h.event_approval.mono hkeeps).append happroval⟩
      exact hreferenced.of_tables htables
  | @change approval changed events happroval hkey hcase hevents htables =>
      have hid : changed.id = approval.id := congrArg Prod.snd hkey
      have hkeeps : KeepsKeys Approval.tenantKey db.approvals
          (Table.replace Approval.id changed db.approvals) :=
        .replace h.approvals_unique happroval hid hkey
      have hfound : Finds IntakeCase.tenantKey db.cases changed.caseRef := by
        rcases hcase with hfound | hsame
        · exact hfound
        · exact hsame ▸ h.approval_case approval happroval
      have hadded : Refers ApprovalEvent.approvalRef Approval.tenantKey events db.approvals :=
        fun event hevent => hevents event hevent ▸ .of_mem happroval
      have hreferenced : Referenced { db with
          approvals := Table.replace Approval.id changed db.approvals,
          approvalEvents := db.approvalEvents ++ events } :=
        ⟨h.cases_unique, h.approvals_unique.replace, h.case_customer, h.event_case,
          h.approval_case.replace hfound, (h.event_approval.append hadded).mono hkeeps⟩
      exact hreferenced.of_tables htables

theorem Referenced.steps (h : Referenced db) (hsteps : ReferenceSteps db next) :
    Referenced next := by
  induction hsteps with
  | refl => exact h
  | tail _ hstep ih => exact ih.step hstep

theorem ReferenceSteps.of_eq (htables : referenceTables next = referenceTables db) :
    ReferenceSteps db next :=
  .single (.same htables)

end Steps

/-! ## The operations -/

section Operations

variable {db next : Db}

/-- An approval changes otherwise than in its key and its case. -/
theorem ReferenceSteps.change {approval : Approval} (changed : Approval)
    (events : List ApprovalEvent) (happroval : approval ∈ db.approvals)
    (hkey : changed.tenantKey = approval.tenantKey) (hcase : changed.caseRef = approval.caseRef)
    (hevents : ∀ event ∈ events, event.approvalRef = some approval.tenantKey)
    (htables : referenceTables next = (db.customers, db.cases, db.caseEvents,
      Table.replace Approval.id changed db.approvals, db.approvalEvents ++ events)) :
    ReferenceSteps db next :=
  .single (.change happroval hkey (.inr hcase) hevents htables)

theorem createForRunningJob_references (newId tenantId jobId : Uuid) (attemptCount : ℕ)
    (action : PendingAction) (policyReason : String) (expiresIn : ℤ) (now : Timestamp) (db : Db) :
    ReferenceSteps db (createForRunningJob newId tenantId jobId attemptCount action policyReason
      expiresIn now db).2 := by
  unfold createForRunningJob
  simp only [Session.transaction, Session.read_bind_run]
  cases hjob : db.job? jobId tenantId with
  | none => exact .refl
  | some job =>
      by_cases hrunning : job.status = .running ∧ job.attemptCount = attemptCount
      · simp only [hrunning, not_true_eq_false, if_false, and_self]
        cases happroval : db.approvalOf? jobId tenantId with
        | some existing =>
            obtain ⟨hexisting, -, htenant⟩ := approvalOf?_eq_some happroval
            simp only [refreshStaged]
            split_ifs with hpending hdeadline hstaged hdiffers
            · exact .refl
            · exact .refl
            · exact .refl
            · refine .change (replacedRow job existing action policyReason (now + expiresIn))
                [requestEvent tenantId existing.id .replaced action.name policyReason] hexisting
                rfl rfl ?_ rfl
              rintro event hevent
              rw [List.mem_singleton.1 hevent, Approval.tenantKey, htenant]
              rfl
            · exact .change (refreshedRow existing (now + expiresIn)) [] hexisting rfl rfl
                (by simp) (by rw [List.append_nil]; rfl)
        | none =>
            simp only [stageNew, Session.read_bind_run]
            split_ifs with hfresh
            · exact .refl
            · simp only [List.any_eq_true, decide_eq_true_eq, not_exists, not_and, not_or] at hfresh
              refine .single (.request (fun approval hmem => (hfresh approval hmem).1) rfl ?_ rfl)
              intro event hevent
              rw [List.mem_singleton.1 hevent]
              rfl
      · simp only [hrunning, not_false_eq_true, if_true]
        exact .refl

theorem cancelStagedApproval_references (jobId tenantId : Uuid) (db : Db) :
    ReferenceSteps db (cancelStagedApproval jobId tenantId db) := by
  rcases cancelStagedApproval_cases jobId tenantId db with
    ⟨hsame, -⟩ | ⟨approval, happroval, -, htenant, -, hcancel⟩
  · rw [hsame]
    exact .refl
  · rw [hcancel]
    refine .change (approval.withStatus .cancelled)
      [⟨tenantId, approval.id, .cancelled, none, .obj []⟩] happroval rfl rfl ?_ rfl
    intro event hevent
    rw [List.mem_singleton.1 hevent, Approval.tenantKey, htenant]
    rfl

theorem ReferenceSteps.setJob (h : ReferenceSteps db next) (job : AgentJob) :
    ReferenceSteps db (next.setJob job) :=
  Relation.ReflTransGen.trans h (ReferenceSteps.of_eq rfl)

theorem markTerminal_references (jobId : Uuid) (status : JobStatus) (now : Timestamp)
    (tenantId : Uuid) (attemptCount : ℕ) (result : Option Json) (errorCode : Option String)
    (db : Db) :
    ReferenceSteps db (JobRepository.markTerminal jobId status now tenantId attemptCount result
      errorCode db).2 := by
  rcases markTerminal_cases jobId status now tenantId attemptCount result errorCode db with
    ⟨error, heq⟩ | ⟨job, -, heq⟩
  · rw [heq]
    exact .refl
  · rw [heq]
    exact (cancelStagedApproval_references jobId tenantId db).setJob _

theorem FinalWrite.run_references (write : FinalWrite) (claim : AgentJob)
    (now availableAt : Timestamp) (db : Db) :
    ReferenceSteps db (write.run claim now availableAt db).2 := by
  cases write with
  | retry errorCode =>
      rcases scheduleRetry_cases claim.id errorCode availableAt claim.tenantId claim.attemptCount db
        with ⟨error, heq⟩ | ⟨job, -, heq⟩
      · simp only [FinalWrite.run, heq]
        exact .refl
      · simp only [FinalWrite.run, heq]
        exact .of_eq rfl
  | fail | uncertain | succeed => exact markTerminal_references ..
  | park result =>
      rcases recordAwaitingApprovalResult_cases claim.id result claim.tenantId claim.attemptCount db
        with ⟨error, heq⟩ | ⟨job, approval, -, happroval, -, -, -, heq⟩
      · simp only [FinalWrite.run, heq]
        exact .refl
      · simp only [FinalWrite.run, heq]
        exact .change (approval.withStatus .pending) [] happroval rfl rfl (by simp)
          (by rw [List.append_nil]; rfl)

theorem recoverExpiredLeases_references (now : Timestamp) (maxRetries : ℕ) (retryDelay : ℤ)
    (skipped : Uuid → Bool) (db : Db) :
    ReferenceSteps db (recoverExpiredLeases now maxRetries retryDelay skipped db) := by
  have hone : ∀ db job, ReferenceSteps db (recoverLease now maxRetries retryDelay db job) := by
    intro db job
    unfold recoverLease
    split
    · exact (cancelStagedApproval_references job.id job.tenantId db).setJob _
    · split
      · exact .of_eq rfl
      · exact (cancelStagedApproval_references job.id job.tenantId db).setJob _
  unfold recoverExpiredLeases
  generalize db.jobs.filter (leaseExpired now skipped) = selected
  induction selected generalizing db with
  | nil => exact .refl
  | cons job rest ih => exact (hone db job).trans (ih _)

theorem expiredDb_references {now : Timestamp} {approval : Approval} {job : AgentJob}
    (hparked : Parked db approval job) : ReferenceSteps db (expiredDb now approval job db) := by
  refine .change (expiredRow now approval)
    [⟨approval.tenantId, approval.id, .expired, some "system_timeout", .obj []⟩] hparked.mem rfl
    rfl ?_ rfl
  intro event hevent
  rw [List.mem_singleton.1 hevent]
  rfl

theorem Expirations.references {now : Timestamp} {selected : List Approval}
    (h : Expirations now db selected next) : ReferenceSteps db next := by
  induction h with
  | nil => exact .refl
  | cons hparked _ _ ih => exact (expiredDb_references hparked).trans ih

end Operations

/-! ## Decisions -/

section Decisions

variable {services : Services} {newId : Uuid} {approval : Approval} {job : AgentJob}
  {action : PendingAction} {db working next : Db}

theorem customerRef_found {tenantId : Uuid} {customerId : Option Uuid} {case : IntakeCase}
    (hknown : ¬ (customerId.any fun id => (db.customer? id tenantId).isNone) = true)
    (htenant : case.tenantId = tenantId) (hcustomer : case.customerId = customerId) :
    Finds Customer.tenantKey db.customers case.customerRef := by
  intro named hnamed
  rw [IntakeCase.customerRef, htenant, hcustomer, Option.map_eq_some_iff] at hnamed
  obtain ⟨id, rfl, rfl⟩ := hnamed
  cases hfound : db.customer? id tenantId with
  | none => exact absurd (by simp [hfound]) hknown
  | some customer =>
      refine ⟨customer, List.mem_of_find?_eq_some hfound, ?_⟩
      have hmatches := List.find?_some hfound
      simp only [decide_eq_true_eq] at hmatches
      rw [Customer.tenantKey, hmatches.1, hmatches.2]

theorem createForJob_references {tenantId jobId : Uuid} {kind : ArtifactKind} {payload : Json}
    {outcome : Except AppError ResultReference}
    (h : createForJob newId tenantId jobId kind payload db = (outcome, working)) :
    referenceTables working = referenceTables db := by
  rcases createForJob_cases newId tenantId jobId kind payload db with ⟨other, heq⟩ | ⟨-, heq⟩ <;>
    rw [heq] at h <;> cases h <;> rfl

/-- What a handler has written when it returns, and the case that it names. -/
structure HandledWell (approval : Approval) (db working : Db)
    (handled : ApprovalExecutor.Handled) : Prop where
  steps : ReferenceSteps db working
  case_ref : handled.caseId = approval.caseId ∨
    Finds IntakeCase.tenantKey working.cases
      (handled.caseId.map fun caseId => (approval.tenantId, caseId))

theorem case?_found {caseId tenantId : Uuid} {case : IntakeCase}
    (h : db.case? caseId tenantId = some case) :
    Finds IntakeCase.tenantKey db.cases (some (tenantId, case.id)) := by
  obtain ⟨hcase, -, htenant⟩ := case?_eq_some h
  exact htenant ▸ .of_mem hcase

theorem createCase_handled {values : CreateCaseArgs} {handled : ApprovalExecutor.Handled}
    (h : ApprovalExecutor.createCase services newId approval job action values db =
      (.ok handled, working)) : HandledWell approval db working handled := by
  unfold ApprovalExecutor.createCase at h
  rw [Session.read_bind_run] at h
  cases hrecord : db.idempotencyOf? job.id approval.tenantId with
  | none =>
      rw [hrecord] at h
      cases h
  | some record =>
      rw [hrecord] at h
      dsimp only at h
      cases hlinked : record.caseId with
      | some caseId =>
          rw [hlinked] at h
          dsimp only at h
          cases hcase : db.case? caseId approval.tenantId <;> rw [hcase] at h <;> cases h
          exact ⟨.refl, .inr (case?_found hcase)⟩
      | none =>
          rw [hlinked] at h
          simp only [ApprovalExecutor.createNewCase, Session.read_bind_run] at h
          split at h
          · cases h
          · rename_i hknown
            obtain ⟨source, middle, hsource, hrest⟩ := Session.bind_eq_ok h
            have hmiddle : middle = db := by
              rw [← sourceFromJob_state services job db, hsource]
            subst hmiddle
            split at hrest
            · cases hrest
            · rename_i hfresh
              cases hrest
              let added := caseFromSource newId approval.tenantId source values.customerId
                action.knownFields
              have hnew : ∀ old ∈ middle.cases, ¬ old.id = newId := by simpa using hfresh
              have hcustomer : Finds Customer.tenantKey middle.customers added.customerRef :=
                customerRef_found hknown rfl rfl
              have hcase : Finds IntakeCase.tenantKey (middle.cases ++ [added])
                  (some added.tenantKey) := .of_mem (by simp)
              have hstep : ReferenceStep middle (((middle.addCase added).addCaseEvent
                  (createdEvent approval.tenantId newId)).setIdempotency
                  { record with caseId := some newId }) := .newCase hnew hcustomer rfl rfl
              exact ⟨.single hstep, .inr hcase⟩

theorem updateCaseFields_handled {values : UpdateCaseFieldsArgs}
    {handled : ApprovalExecutor.Handled} (hreferenced : Referenced db)
    (h : ApprovalExecutor.updateCaseFields approval action values db = (.ok handled, working)) :
    HandledWell approval db working handled := by
  simp only [ApprovalExecutor.updateCaseFields, Session.read_bind_run] at h
  cases hcase : db.case? values.caseId approval.tenantId with
  | none =>
      rw [hcase] at h
      cases h
  | some case =>
      rw [hcase] at h
      cases h
      obtain ⟨hmem, -, htenant⟩ := case?_eq_some hcase
      let changed := mergedCase action.knownFields case
      have hkey : changed.tenantKey = case.tenantKey := rfl
      have hcustomer : Finds Customer.tenantKey db.customers changed.customerRef :=
        hreferenced.case_customer case hmem
      have hevent : (fieldsUpdatedEvent approval.tenantId case.id action.knownFields).caseRef =
          some changed.tenantKey := by
        rw [← htenant]
        rfl
      have hchanged : changed ∈ Table.replace IntakeCase.id changed db.cases :=
        Table.mem_replace_self ⟨case, hmem, rfl⟩
      have hfound : Finds IntakeCase.tenantKey (Table.replace IntakeCase.id changed db.cases)
          (some changed.tenantKey) := .of_mem hchanged
      rw [hkey, IntakeCase.tenantKey, htenant] at hfound
      exact ⟨.single (.caseFields hmem hkey hcustomer hevent rfl), .inr hfound⟩

theorem namedCase_handled {caseId named : Option Uuid}
    (h : ApprovalExecutor.namedCase approval caseId db = (.ok named, working)) :
    working = db ∧ (named = approval.caseId ∨ Finds IntakeCase.tenantKey db.cases
      (named.map fun caseId => (approval.tenantId, caseId))) := by
  have hsame := namedCase_state approval caseId db
  rw [h] at hsame
  refine ⟨hsame, ?_⟩
  cases caseId with
  | none =>
      cases h
      exact .inl rfl
  | some caseId =>
      simp only [ApprovalExecutor.namedCase, Session.read_bind_run] at h
      cases hcase : db.case? caseId approval.tenantId with
      | none =>
          rw [hcase] at h
          cases h
      | some case =>
          rw [hcase] at h
          cases h
          exact .inr (case?_found hcase)

/-- Every handler that returns has written well. -/
theorem handle_handled {arguments : ToolArgs} {handled : ApprovalExecutor.Handled}
    (hreferenced : Referenced db)
    (h : ApprovalExecutor.handle services newId approval job action arguments db =
      (.ok handled, working)) : HandledWell approval db working handled := by
  cases arguments with
  | findCustomer values =>
      cases h
      exact ⟨.refl, .inl rfl⟩
  | createCase values => exact createCase_handled h
  | updateCaseFields values => exact updateCaseFields_handled hreferenced h
  | createReplyDraft values =>
      obtain ⟨caseId, first, hcase, h⟩ := Session.bind_eq_ok h
      obtain ⟨source, second, hsource, h⟩ := Session.bind_eq_ok h
      obtain ⟨reference, third, hcreate, hdone⟩ := Session.bind_eq_ok h
      cases hdone
      obtain ⟨rfl, hnamed⟩ := namedCase_handled hcase
      have hsecond : second = first := by rw [← sourceFromJob_state services job first, hsource]
      have htables := createForJob_references hcreate
      rw [hsecond] at htables
      have hcases : working.cases = first.cases := congrArg (fun tables => tables.2.1) htables
      exact ⟨.of_eq htables, hcases ▸ hnamed⟩
  | flagForReview values =>
      obtain ⟨reference, third, hcreate, hdone⟩ := Session.bind_eq_ok h
      cases hdone
      exact ⟨.of_eq (createForJob_references hcreate), .inl rfl⟩

theorem Decided.references {operator : Operator} {request : DecisionRequest} {now : Timestamp}
    {verdict : Verdict} (hreferenced : Referenced db)
    (h : Decided services newId approval operator request now db verdict next) :
    ReferenceSteps db next := by
  cases h with
  | reused => exact .refl
  | expired hparked => exact expiredDb_references hparked
  | rejected hparked =>
      refine .change (rejectedRow operator request now approval)
        [⟨approval.tenantId, approval.id, .rejected, some operator.actorRef, .obj []⟩] hparked.mem
        rfl rfl ?_ rfl
      intro event hevent
      rw [List.mem_singleton.1 hevent]
      rfl
  | @approved job value action executed working hparked _ _ hexecute =>
      obtain ⟨-, arguments, handled, -, -, hhandle, happroval, -⟩ := execute_ok hexecute
      have hhandled := handle_handled hreferenced hhandle
      have htables := execute_tables hexecute
      simp only [lifecycleTables, Prod.mk.injEq] at htables
      let changed := approvedRow operator request now executed
      have hkey : changed.tenantKey = approval.tenantKey := by
        simp only [changed, approvedRow, happroval, Approval.tenantKey]
      have hcase : changed.caseId = handled.caseId ∧ changed.tenantId = approval.tenantId := by
        simp only [changed, approvedRow, happroval, and_self]
      have hfound : Finds IntakeCase.tenantKey working.cases changed.caseRef ∨
          changed.caseRef = approval.caseRef := by
        rw [Approval.caseRef, hcase.1, hcase.2]
        rcases hhandled.case_ref with hsame | hfound
        · exact .inr (by rw [hsame, Approval.caseRef])
        · exact .inl hfound
      have hmem : approval ∈ working.approvals := htables.2.1 ▸ hparked.mem
      let events : List ApprovalEvent :=
        [⟨approval.tenantId, approval.id, .approved, some operator.actorRef, .obj []⟩,
          ⟨approval.tenantId, approval.id, .actionExecuted, some operator.actorRef,
            .obj [("action", .str approval.action), ("executed", .bool true)]⟩]
      have hevents : ∀ event ∈ events, event.approvalRef = some approval.tenantKey := by
        intro event hevent
        rcases List.mem_pair.1 hevent with rfl | rfl <;> rfl
      have hwritten : referenceTables (approvedDb operator request now approval executed working) =
          (working.customers, working.cases, working.caseEvents,
            Table.replace Approval.id changed working.approvals,
            working.approvalEvents ++ events) := by
        simp only [referenceTables, approvedDb, Db.setJob, Db.setApproval, Db.addApprovalEvent,
          List.append_assoc, List.cons_append, List.nil_append, changed, events]
      exact hhandled.steps.tail (.change hmem hkey hfound hevents hwritten)

end Decisions

/-! ## The steps of the system -/

/-- The case of which a port has written the row. -/
def PortWrites.case? : PortWrites → Option IntakeCase
  | .newCase _ case => some case
  | .caseFields case _ => some case
  | _ => none

/-- What is followed in a run: the references, and those of the rows that are not committed. -/
structure ReferenceInvariant (state : SystemState) : Prop where
  referenced : Referenced state.db
  writes : ∀ port attempt writes case, (state.ports port).writes? = some (attempt, writes) →
    writes.case? = some case → Finds Customer.tenantKey state.db.customers case.customerRef

section System

variable {services : Services} {state next : SystemState} {label : SystemStep}

/-- The commit of a port. -/
theorem ReferenceInvariant.commit (h : ReferenceInvariant state)
    (hbusiness : BusinessInvariant state) {port : ℕ} {now : Timestamp} {attempt : Attempt}
    {writes : PortWrites} {job : AgentJob} (hport : state.ports port = .fenced attempt writes job) :
    ReferenceSteps state.db ((writes.apply state.db).setJob (markedRow now job)) := by
  have hwritten : (state.ports port).writes? = some (attempt, writes) := by rw [hport]; rfl
  have hok := hbusiness.writes port attempt writes hwritten
  cases writes with
  | newCase record case =>
      obtain ⟨-, -, -, hfresh, -⟩ := hok
      exact .single (.newCase hfresh (h.writes port attempt _ case hwritten rfl) rfl rfl)
  | newArtifact | existingArtifact => exact .of_eq rfl
  | caseFields case fields =>
      obtain ⟨old, hold, hid, htenant⟩ := hok
      have hkey : (mergedCase fields case).tenantKey = old.tenantKey :=
        Prod.ext htenant.symm hid.symm
      exact .single (.caseFields hold hkey (h.writes port attempt _ case hwritten rfl) rfl rfl)

theorem SystemTaken.references (h : ReferenceInvariant state) (hinv : SystemInvariant state)
    (hbusiness : BusinessInvariant state) (htaken : SystemTaken services state label next) :
    ReferenceSteps state.db next.db := by
  cases htaken with
  | @enqueue new =>
      rcases insertJob_cases new state.db with heq | ⟨-, heq⟩ <;> rw [SystemState.setDb, heq] <;>
        exact .of_eq rfl
  | @claim worker now leaseUntil excluded claim db hidle hclaim =>
      rcases claimNext_cases now leaseUntil excluded state.lockedJobs state.db with
        heq | ⟨job, -, -, -, heq⟩ <;> rw [heq] at hclaim <;> cases hclaim
      exact .of_eq rfl
  | @renewLease attempt leaseUntil =>
      rcases renewLease_cases attempt.jobId attempt.tenantId attempt.count leaseUntil state.db with
        heq | ⟨job, -, heq⟩ <;> rw [SystemState.setDb, heq] <;> exact .of_eq rfl
  | requestApproval => exact createForRunningJob_references ..
  | write => exact FinalWrite.run_references ..
  | recover => exact recoverExpiredLeases_references ..
  | @decide newId approvalId operator request now hfree =>
      rw [SystemState.setDb, decide_eq]
      cases hfound : getForTenant approvalId operator.tenantId state.db with
      | none => exact .refl
      | some approval =>
          obtain ⟨happroval, -, -⟩ := getForTenant_eq_some hfound
          rcases hinv.lifecycle.decideHolding_cases happroval services newId operator request now
            with ⟨error, middle, -, heq⟩ | ⟨verdict, middle, -, hdecided, heq⟩
          · dsimp only
            rw [heq]
            exact .refl
          · dsimp only
            rw [heq, report_state]
            exact hdecided.references h.referenced
  | @expireDue now limit =>
      obtain ⟨final, hrun, hexpired⟩ :=
        hinv.lifecycle.expireDue_expirations now limit fun _ => false
      rw [SystemState.setDb, hrun]
      exact hexpired.references
  | portCommit hport => exact h.commit hbusiness hport
  | runEnds | inspect | stop | portBegin | portOpen | portInsert | portRefused | portFence
  | portAbort => exact .refl

theorem ReferenceSteps.customers_eq {db after : Db} (h : ReferenceSteps db after) :
    after.customers = db.customers := by
  induction h with
  | refl => rfl
  | tail _ hstep ih =>
      rw [← ih]
      cases hstep with
      | same htables | newCase _ _ _ htables | caseFields _ _ _ _ htables
      | request _ _ _ htables | change _ _ _ _ htables => exact congrArg Prod.fst htables

/-- The customer of a row that a port writes first is there. -/
theorem opening_customer {attempt : Attempt} {mutation : PortMutation} {db : Db}
    {writes : PortWrites} {case : IntakeCase} (h : Referenced db)
    (hopening : mutation.opening attempt db = .writes writes) (hcase : writes.case? = some case) :
    Finds Customer.tenantKey db.customers case.customerRef := by
  cases mutation with
  | createCase newId source customerId fields =>
      simp only [PortMutation.opening] at hopening
      cases hrecord : db.idempotencyOf? attempt.jobId attempt.tenantId with
      | none =>
          rw [hrecord] at hopening
          cases hopening
      | some record =>
          rw [hrecord] at hopening
          simp only [openCreateCase] at hopening
          cases hlinked : record.caseId with
          | some caseId =>
              rw [hlinked] at hopening
              dsimp only at hopening
              cases hfound : db.case? caseId attempt.tenantId <;> rw [hfound] at hopening <;>
                cases hopening
          | none =>
              rw [hlinked] at hopening
              dsimp only at hopening
              split_ifs at hopening with hknown
              cases hopening
              cases hcase
              exact customerRef_found hknown rfl rfl
  | createArtifact newId kind payload =>
      simp only [PortMutation.opening] at hopening
      cases hfound : db.artifact? attempt.tenantId attempt.jobId kind <;>
        rw [hfound] at hopening <;> cases hopening
      cases hcase
  | updateCaseFields caseId fields =>
      simp only [PortMutation.opening] at hopening
      cases hfound : db.case? caseId attempt.tenantId with
      | none =>
          rw [hfound] at hopening
          cases hopening
      | some existing =>
          rw [hfound] at hopening
          cases hopening
          cases hcase
          exact h.case_customer _ (case?_eq_some hfound).1

theorem insertArtifact_case {attempt : Attempt} {newId : Uuid} {kind : ArtifactKind}
    {payload : Json} {db : Db} {writes : PortWrites}
    (h : insertArtifact attempt newId kind payload db = .writes writes) : writes.case? = none := by
  unfold insertArtifact at h
  cases hfound : db.artifact? attempt.tenantId attempt.jobId kind with
  | some existing =>
      rw [hfound] at h
      cases h
      rfl
  | none =>
      rw [hfound] at h
      dsimp only at h
      split_ifs at h
      cases h
      rfl

theorem ReferenceInvariant.writes_step (h : ReferenceInvariant state)
    (htaken : SystemTaken services state label next)
    (hcustomers : next.db.customers = state.db.customers) {port : ℕ} {attempt : Attempt}
    {writes : PortWrites} {case : IntakeCase}
    (hwrites : (next.ports port).writes? = some (attempt, writes))
    (hcase : writes.case? = some case) :
    Finds Customer.tenantKey next.db.customers case.customerRef := by
  rw [hcustomers]
  by_cases hown : label.port? = some port
  · cases htaken with
    | @portOpen _ old mutation hstage hfree =>
        cases hown
        simp only [SystemState.take, SystemState.setPort, Function.update_self] at hwrites
        cases hopening : mutation.opening old state.db with
        | ends | inserts =>
            rw [hopening] at hwrites
            cases hwrites
        | writes value =>
            rw [hopening] at hwrites
            cases hwrites
            exact opening_customer h.referenced hopening hcase
    | @portInsert _ old newId kind payload hstage hfree =>
        cases hown
        simp only [SystemState.take, SystemState.setPort, Function.update_self] at hwrites
        cases hopening : insertArtifact old newId kind payload state.db with
        | ends | inserts =>
            rw [hopening] at hwrites
            cases hwrites
        | writes value =>
            rw [hopening] at hwrites
            cases hwrites
            rw [insertArtifact_case hopening] at hcase
            cases hcase
    | @portFence _ old oldWrites job hstage hfree hcancelled hjob =>
        cases hown
        simp only [SystemState.take, SystemState.setPort, Function.update_self] at hwrites
        cases hwrites
        exact h.writes port attempt writes case (by rw [hstage]; rfl) hcase
    | portBegin | portRefused | portCommit | portAbort =>
        cases hown
        simp [SystemState.release, SystemState.setPort, PortStage.writes?] at hwrites
    | _ => cases hown
  · exact h.writes port attempt writes case (htaken.port_frame hown ▸ hwrites) hcase

/-! ## Runs -/

variable {start : SystemState}

theorem referenceInvariant_of_reachable (hstart : (systemMachine services).initial start)
    (hkeys : ForeignKeys start.db)
    (h : ((systemMachine services).startingAt start).Reachable state) :
    ReferenceInvariant state := by
  refine h.invariant ?_ ?_
  · rintro first rfl
    obtain ⟨-, happrovals, -, -, hcases, -, -, hports, -⟩ := hstart
    have hunique : Table.Unique Approval.id first.db.approvals := by
      simp [happrovals, Table.Unique]
    refine ⟨⟨hcases, hunique, hkeys.case_customer, hkeys.event_case, hkeys.approval_case,
      hkeys.event_approval⟩, fun port attempt writes case hwrites => ?_⟩
    rw [hports port] at hwrites
    cases hwrites
  · intro state label next hreach hstate hstep
    have hsystem : (systemMachine services).Reachable state :=
      Machine.ReachableWith.later (.initial hstart) hreach
    have htaken := systemTaken_of_step hstep
    have hsteps := htaken.references hstate (systemInvariant_of_reachable hsystem)
      (businessInvariant_of_reachable hsystem)
    exact ⟨hstate.referenced.steps hsteps, fun port attempt writes case hwrites hcase =>
      hstate.writes_step htaken hsteps.customers_eq hwrites hcase⟩

/-- No foreign key is ever violated.  In every run of the system from a database without
jobs whose cases and events are in order, each reference of each table finds its row, under
the tenant of the row that it is in. -/
theorem foreign_keys_hold (hstart : (systemMachine services).initial start)
    (hkeys : ForeignKeys start.db)
    (h : ((systemMachine services).startingAt start).Reachable state) : ForeignKeys state.db := by
  have hsystem : (systemMachine services).Reachable state :=
    Machine.ReachableWith.later (.initial hstart) h
  have hlifecycle := (systemInvariant_of_reachable hsystem).lifecycle
  have hbusiness := businessInvariant_of_reachable hsystem
  have hreferenced := (referenceInvariant_of_reachable hstart hkeys h).referenced
  refine ⟨hreferenced.case_customer, hreferenced.event_case, ?_, ?_, hreferenced.approval_case, ?_,
    hreferenced.event_approval, ?_⟩
  · intro record hrecord named hnamed
    obtain ⟨caseId, hlinked, rfl⟩ := Option.map_eq_some_iff.1 hnamed
    obtain ⟨⟨case, hcase, rfl, htenant⟩, -⟩ := hbusiness.linked record hrecord caseId hlinked
    exact ⟨case, hcase, Prod.ext htenant rfl⟩
  · intro record hrecord named hnamed
    obtain ⟨jobId, hthis, rfl⟩ := Option.map_eq_some_iff.1 hnamed
    obtain ⟨job, hjob, hid, htenant⟩ := hbusiness.record_job record hrecord
    exact ⟨job, hjob, Prod.ext htenant.symm (Option.some.inj (hid.symm.trans hthis))⟩
  · intro approval happroval named hnamed
    obtain ⟨jobId, hthis, rfl⟩ := Option.map_eq_some_iff.1 hnamed
    obtain ⟨job, hjob, hid, htenant, -⟩ := hlifecycle.coupled approval happroval
    exact ⟨job, hjob, Prod.ext htenant.symm (Option.some.inj (hid.symm.trans hthis))⟩
  · rintro artifact hartifact _ ⟨⟩
    obtain ⟨job, hjob, hid, htenant, -⟩ := hbusiness.artifact_marked artifact hartifact
    exact ⟨job, hjob, Prod.ext htenant hid⟩

end System

/-! ### A case with its customer -/

/-- The state at the start, with a customer of the tenant. -/
def customerSystem : SystemState :=
  { idleSystem with db := { emptyDb with customers := [⟨4, 7, none, some "Ann", none, none⟩] } }

/-- A tool creates the case of a job for the customer. -/
def customerCaseSteps : List SystemStep :=
  [.enqueue exampleNewJob, .claim 0 0 60 [],
    .portBegin 0 0 (.createCase 5 ⟨"email", "s", "b", none, none⟩ (some 4) []), .portOpen 0,
    .portFence 0, .portCommit 0 12]

theorem foreign_keys_hold_customer : ∃ final,
    (systemMachine noServices).run customerSystem customerCaseSteps = some final ∧
      final.db.cases.map IntakeCase.customerRef = [some (7, 4)] ∧
      final.db.caseEvents.map CaseEvent.caseRef = [some (7, 5)] ∧ ForeignKeys final.db := by
  have hstart : (systemMachine noServices).initial customerSystem :=
    ⟨rfl, rfl, rfl, rfl, by simp [customerSystem, emptyDb, Table.Unique],
      by simp [customerSystem, emptyDb], fun _ => rfl, fun _ => rfl, fun _ => rfl, fun _ => rfl⟩
  have hkeys : ForeignKeys customerSystem.db := by
    constructor <;> simp [Refers, customerSystem, emptyDb]
  have hrun : ((systemMachine noServices).startingAt customerSystem).run customerSystem
      customerCaseSteps = some (((systemMachine noServices).run customerSystem
        customerCaseSteps).getD customerSystem) := rfl
  exact ⟨_, rfl, rfl, rfl,
    foreign_keys_hold hstart hkeys (.run (.initial rfl) customerCaseSteps hrun)⟩

end IntegraIntake
