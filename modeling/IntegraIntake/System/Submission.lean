import IntegraIntake.System.OnePerJob

/-!
# The submission of a job

`create_job` freezes what was accepted: the source, the profile with its hash, the
risk signals and the trace.  No step of the system writes these columns again, an
attempt is never taken back, and the first claim sets `started_at` for good.
-/

namespace IntegraIntake

open Library JobRepository ApprovalRepository ApprovalDecision

/-- The columns that `create_job` writes once. -/
def AgentJob.submission (job : AgentJob) :
    Uuid × Uuid × Uuid × Json × Json × String × Json × Timestamp :=
  (job.id, job.tenantId, job.traceId, job.sourceSnapshot, job.tenantConfigSnapshot,
    job.tenantConfigSha256, job.riskSignals, job.createdAt)

/-- A later row of the same job. -/
structure GoesOn (job row : AgentJob) : Prop where
  submission_eq : row.submission = job.submission
  attempt_le : job.attemptCount ≤ row.attemptCount
  started_eq : job.startedAt.isSome → row.startedAt = job.startedAt

theorem GoesOn.id_eq {job row : AgentJob} (h : GoesOn job row) : row.id = job.id :=
  congrArg Prod.fst h.submission_eq

theorem GoesOn.tenant_eq {job row : AgentJob} (h : GoesOn job row) :
    row.tenantId = job.tenantId :=
  congrArg (fun columns => columns.2.1) h.submission_eq

theorem GoesOn.refl (job : AgentJob) : GoesOn job job := ⟨rfl, le_rfl, fun _ => rfl⟩

theorem GoesOn.trans {first second third : AgentJob} (h : GoesOn first second)
    (h' : GoesOn second third) : GoesOn first third where
  submission_eq := h'.submission_eq.trans h.submission_eq
  attempt_le := h.attempt_le.trans h'.attempt_le
  started_eq := by
    intro hstarted
    have hsecond := h.started_eq hstarted
    exact (h'.started_eq (hsecond ▸ hstarted)).trans hsecond

/-- Every job of the first database goes on in the second. -/
def JobsGoOn (db next : Db) : Prop :=
  ∀ job ∈ db.jobs, ∃ row ∈ next.jobs, GoesOn job row

section Operations

variable {db next : Db} {job : AgentJob}

theorem JobsGoOn.of_eq (hjobs : next.jobs = db.jobs) : JobsGoOn db next :=
  fun job hjob => ⟨job, hjobs ▸ hjob, .refl job⟩

theorem JobsGoOn.trans {middle : Db} (h : JobsGoOn db middle) (h' : JobsGoOn middle next) :
    JobsGoOn db next := by
  intro job hjob
  obtain ⟨row, hrow, hgoes⟩ := h job hjob
  obtain ⟨last, hlast, hgoes'⟩ := h' row hrow
  exact ⟨last, hlast, hgoes.trans hgoes'⟩

theorem JobsGoOn.of_replace (changed : AgentJob) (h : Lifecycle db) (hjob : job ∈ db.jobs)
    (hgoes : GoesOn job changed) (hjobs : next.jobs = Table.replace AgentJob.id changed db.jobs) :
    JobsGoOn db next := by
  intro row hrow
  rw [hjobs]
  exact exists_mem_replace AgentJob.id GoesOn.refl h.jobs_unique hjob hgoes.id_eq hgoes hrow

theorem renewLease_goesOn (h : Lifecycle db) (jobId tenantId : Uuid) (attemptCount : ℕ)
    (leaseUntil : Timestamp) :
    JobsGoOn db (JobRepository.renewLease jobId tenantId attemptCount leaseUntil db).2 := by
  rcases renewLease_cases jobId tenantId attemptCount leaseUntil db with heq | ⟨job, howned, heq⟩
  · rw [heq]
    exact .of_eq rfl
  · rw [heq]
    exact .of_replace { job with leaseExpiresAt := some leaseUntil } h howned.mem
      ⟨rfl, le_rfl, fun _ => rfl⟩ rfl

theorem createForRunningJob_goesOn (newId tenantId jobId : Uuid) (attemptCount : ℕ)
    (action : PendingAction) (policyReason : String) (expiresIn : ℤ) (now : Timestamp) (db : Db) :
    JobsGoOn db (createForRunningJob newId tenantId jobId attemptCount action policyReason expiresIn
      now db).2 := by
  rcases createForRunningJob_cases newId tenantId jobId attemptCount action policyReason expiresIn
    now db with ⟨error, heq⟩ | ⟨job, result, events, -,
      ⟨existing, row, -, -, -, -, heq⟩ | ⟨-, heq⟩⟩ <;>
    rw [heq] <;> exact .of_eq rfl

theorem markTerminal_goesOn (h : Lifecycle db) (jobId : Uuid) (status : JobStatus)
    (now : Timestamp) (tenantId : Uuid) (attemptCount : ℕ) (result : Option Json)
    (errorCode : Option String) :
    JobsGoOn db
      (JobRepository.markTerminal jobId status now tenantId attemptCount result errorCode
        db).2 := by
  rcases markTerminal_cases jobId status now tenantId attemptCount result errorCode db with
    ⟨error, heq⟩ | ⟨job, howned, heq⟩
  · rw [heq]
    exact .of_eq rfl
  · rw [heq]
    refine .of_replace (terminalRow status now result errorCode job) h howned.mem
      ⟨rfl, le_rfl, fun _ => rfl⟩ ?_
    rw [setJob_jobs, cancelStagedApproval_jobs]

theorem FinalWrite.run_goesOn (h : Lifecycle db) (write : FinalWrite) (claim : AgentJob)
    (now availableAt : Timestamp) : JobsGoOn db (write.run claim now availableAt db).2 := by
  cases write with
  | retry errorCode =>
      rcases scheduleRetry_cases claim.id errorCode availableAt claim.tenantId claim.attemptCount db
        with ⟨error, heq⟩ | ⟨job, howned, heq⟩
      · simp only [FinalWrite.run, heq]
        exact .of_eq rfl
      · simp only [FinalWrite.run, heq]
        exact .of_replace (requeuedRow errorCode availableAt job) h howned.mem
          ⟨rfl, le_rfl, fun _ => rfl⟩ rfl
  | fail errorCode => exact markTerminal_goesOn h _ _ _ _ _ _ _
  | uncertain errorCode => exact markTerminal_goesOn h _ _ _ _ _ _ _
  | succeed result => exact markTerminal_goesOn h _ _ _ _ _ _ _
  | park result =>
      rcases recordAwaitingApprovalResult_cases claim.id result claim.tenantId claim.attemptCount db
        with ⟨error, heq⟩ | ⟨job, approval, howned, -, -, -, -, heq⟩
      · simp only [FinalWrite.run, heq]
        exact .of_eq rfl
      · simp only [FinalWrite.run, heq]
        exact .of_replace (parkedRow result job) h howned.mem ⟨rfl, le_rfl, fun _ => rfl⟩ rfl

theorem recoveredRow_goesOn (now : Timestamp) (maxRetries : ℕ) (retryDelay : ℤ) (job : AgentJob) :
    GoesOn job (recoveredRow now maxRetries retryDelay job) := by
  unfold recoveredRow
  split_ifs
  · exact ⟨rfl, le_rfl, fun _ => rfl⟩
  · exact ⟨rfl, le_rfl, fun _ => rfl⟩
  · exact ⟨rfl, le_rfl, fun _ => rfl⟩

theorem Lifecycle.recoverExpiredLeases_goesOn (h : Lifecycle db) (now : Timestamp)
    (maxRetries : ℕ) (retryDelay : ℤ) (skipped : Uuid → Bool) :
    JobsGoOn db (JobRepository.recoverExpiredLeases now maxRetries retryDelay skipped db) := by
  intro job hjob
  rw [h.recoverExpiredLeases_jobs now maxRetries retryDelay skipped]
  refine ⟨_, List.mem_map_of_mem hjob, ?_⟩
  split
  · exact recoveredRow_goesOn now maxRetries retryDelay job
  · exact .refl job

/-- The end of a parked job, whatever is done to its approval. -/
theorem Parked.goesOn {approval : Approval} (hparked : Parked db approval job) (h : Lifecycle db)
    (decided : Approval) (now : Timestamp) (status : JobStatus)
    (errorCode : Option WorkerErrorCode) (outcome : String)
    (hjobs : next.jobs = Table.replace AgentJob.id
      (decidedRow decided job now status errorCode outcome) db.jobs) : JobsGoOn db next :=
  .of_replace (decidedRow decided job now status errorCode outcome) h hparked.job_mem
    ⟨rfl, le_rfl, fun _ => rfl⟩ hjobs

theorem Expirations.goesOn {now : Timestamp} {selected : List Approval}
    (hexpired : Expirations now db selected next) (h : Lifecycle db) : JobsGoOn db next := by
  induction hexpired with
  | nil => exact .of_eq rfl
  | @cons db next approval job rest hparked hdue _ ih =>
      have hfirst : JobsGoOn db (expiredDb now approval job db) :=
        hparked.goesOn h (expiredRow now approval) now .failed (some .approvalExpired)
          "approval_expired" rfl
      exact hfirst.trans (ih (h.moves (h.moves_expiredDb hparked hdue)))

theorem Lifecycle.expireDue_goesOn (h : Lifecycle db) (now : Timestamp) (limit : ℕ)
    (skipped : Uuid → Bool) :
    JobsGoOn db (ApprovalRepository.expireDue now limit skipped db).2 := by
  obtain ⟨next, hrun, hexpired⟩ := h.expireDue_expirations now limit skipped
  rw [hrun]
  exact hexpired.goesOn h

theorem Lifecycle.decide_goesOn (h : Lifecycle db) (services : Services) (newId approvalId : Uuid)
    (operator : Operator) (request : DecisionRequest) (now : Timestamp) :
    JobsGoOn db
      (ApprovalDecision.decide services newId approvalId operator request now db).2 := by
  rw [decide_eq]
  cases hfound : getForTenant approvalId operator.tenantId db with
  | none => exact .of_eq rfl
  | some approval =>
      rcases h.decideHolding_cases (getForTenant_eq_some hfound).1 services newId operator request
        now with ⟨error, next, -, heq⟩ | ⟨verdict, next, -, hdecided, heq⟩
      · dsimp only
        rw [heq]
        exact .of_eq rfl
      · dsimp only
        rw [heq, report_state]
        cases hdecided with
        | reused => exact .of_eq rfl
        | expired hparked => exact hparked.goesOn h _ now .failed _ _ rfl
        | rejected hparked => exact hparked.goesOn h _ now .succeeded _ _ rfl
        | @approved job _ action executed working hparked _ _ hexecute =>
            have htables := execute_tables hexecute
            simp only [lifecycleTables, Prod.mk.injEq] at htables
            obtain ⟨capability, _, _, -, -, -, -, hjob, -⟩ := execute_ok hexecute
            have hgoes : GoesOn job (decidedRow (approvedRow operator request now executed)
                executed.job now .succeeded none "tool_result") := by
              rw [hjob]
              exact ⟨rfl, le_rfl, fun _ => rfl⟩
            refine .of_replace _ h hparked.job_mem hgoes ?_
            rw [← htables.1]
            rfl

end Operations

theorem SystemTaken.goesOn {services : Services} {state next : SystemState} {label : SystemStep}
    (h : SystemInvariant state) (htaken : SystemTaken services state label next) :
    JobsGoOn state.db next.db := by
  cases htaken with
  | @enqueue new =>
      intro job hjob
      rcases insertJob_cases new state.db with heq | ⟨-, heq⟩
      · exact ⟨job, by rw [SystemState.setDb, heq]; exact hjob, .refl job⟩
      · exact ⟨job, by rw [SystemState.setDb, heq]; exact List.mem_append_left _ hjob, .refl job⟩
  | @claim worker now leaseUntil excluded claim db hidle hclaim =>
      rcases claimNext_cases now leaseUntil excluded state.lockedJobs state.db with
        heq | ⟨job, hjob, -, -, heq⟩
      · rw [heq] at hclaim
        cases hclaim
      · rw [heq] at hclaim
        cases hclaim
        refine .of_replace (claimedRow now leaseUntil job) h.lifecycle hjob
          ⟨rfl, Nat.le_succ _, fun hstarted => ?_⟩ rfl
        obtain ⟨started, hsome⟩ := Option.isSome_iff_exists.1 hstarted
        rw [claimedRow, hsome]
        rfl
  | renewLease => exact renewLease_goesOn h.lifecycle _ _ _ _
  | requestApproval => exact createForRunningJob_goesOn _ _ _ _ _ _ _ _ _
  | write => exact FinalWrite.run_goesOn h.lifecycle _ _ _ _
  | recover => exact h.lifecycle.recoverExpiredLeases_goesOn _ _ _ _
  | decide => exact h.lifecycle.decide_goesOn _ _ _ _ _ _
  | expireDue => exact h.lifecycle.expireDue_goesOn _ _ _
  | @portCommit port now attempt writes job hport =>
      have howns := (h.fenced _ _ _ _ hport).1
      refine .of_replace (markedRow now job) h.lifecycle howns.mem
        ⟨rfl, le_rfl, fun _ => rfl⟩ ?_
      rw [← writes.apply_jobs state.db]
      rfl
  | runEnds | inspect | stop | portBegin | portOpen | portInsert | portRefused | portFence
  | portAbort => exact .of_eq rfl

end IntegraIntake
