import IntegraIntake.System.Machine

/-!
# What one step does to the job rows

`RowStep` says what may become of one row in one step of the system, and
`RowsStep` says it of the whole table.  Three kinds of change are singled out,
because they are where things can go wrong: a worker's retry, a worker's
failure, and the commit of a tool transaction, which sets the marker.
-/

namespace IntegraIntake

open Library JobRepository ApprovalRepository ApprovalDecision

/-! ## One row -/

/-- The kind of a change of a job row. -/
inductive Cause where
  | plain
  /-- `schedule_retry` by a worker. -/
  | retry
  /-- `mark_failed` by a worker. -/
  | blame
  /-- The commit of a tool transaction. -/
  | mark
  deriving DecidableEq

/-- What may become of a job row in one step. -/
structure RowStep (cause : Cause) (job row : AgentJob) : Prop where
  id_eq : row.id = job.id
  tenant_eq : row.tenantId = job.tenantId
  attempt_le : job.attemptCount ≤ row.attemptCount
  /-- An attempt that has lost the job does not get it back. -/
  no_return : row.status = .running →
    (job.status = .running ∧ row.attemptCount = job.attemptCount) ∨
      job.attemptCount < row.attemptCount
  marker_kept : job.sideEffectCommittedAt.isSome → row.sideEffectCommittedAt.isSome
  marker_live : cause ≠ .mark →
    job.status = .running ∨ row.status = .running ∨ row.status = .queued →
    row.sideEffectCommittedAt = job.sideEffectCommittedAt
  requeued : cause ≠ .retry → row.status = .queued →
    job.status = .queued ∨ row.sideEffectCommittedAt = none
  failed : cause ≠ .blame → job.status = .running → row.status = .failed →
    row.sideEffectCommittedAt = none

section RowStep

variable {cause : Cause} {job : AgentJob}

theorem RowStep.refl (cause : Cause) (job : AgentJob) : RowStep cause job job where
  id_eq := rfl
  tenant_eq := rfl
  attempt_le := le_rfl
  no_return h := .inl ⟨h, rfl⟩
  marker_kept h := h
  marker_live _ _ := rfl
  requeued _ h := .inl h
  failed _ hrunning hfailed := by
    rw [hrunning] at hfailed
    cases hfailed

theorem RowStep.claimed (now leaseUntil : Timestamp) :
    RowStep cause job (claimedRow now leaseUntil job) := by
  constructor <;> simp [claimedRow]

theorem RowStep.renewed (hrunning : job.status = .running) (leaseUntil : Timestamp) :
    RowStep cause job { job with leaseExpiresAt := some leaseUntil } := by
  constructor <;> simp [hrunning]

theorem RowStep.requeuedRow (errorCode : String) (availableAt : Timestamp)
    (hcause : cause ≠ .retry → job.sideEffectCommittedAt = none) :
    RowStep cause job (requeuedRow errorCode availableAt job) := by
  constructor <;> simp [JobRepository.requeuedRow]
  exact fun hne => .inr (hcause hne)

theorem RowStep.terminalRow {status : JobStatus} (hterminal : status.isTerminal = true)
    (now : Timestamp) (result : Option Json) (errorCode : Option String)
    (hcause : status = .failed → cause = .blame) :
    RowStep cause job (terminalRow status now result errorCode job) := by
  constructor <;> simp only [JobRepository.terminalRow, le_refl, imp_self]
  · rintro rfl
    cases hterminal
  · simp
  · rintro - rfl
    cases hterminal
  · exact fun hne _ hfailed => absurd (hcause hfailed) hne

theorem RowStep.parkedRow (result : Json) : RowStep cause job (parkedRow result job) := by
  constructor <;> simp [JobRepository.parkedRow]

theorem RowStep.lostRow {status : JobStatus} (hterminal : status.isTerminal = true)
    (errorCode : WorkerErrorCode) (now : Timestamp)
    (hmarker : status = .failed → job.sideEffectCommittedAt = none) :
    RowStep cause job (lostRow status errorCode now job) := by
  constructor <;> simp only [JobRepository.lostRow, le_refl, imp_self]
  · rintro rfl
    cases hterminal
  · simp
  · rintro - rfl
    cases hterminal
  · exact fun _ _ hfailed => hmarker hfailed

theorem RowStep.markedRow (hrunning : job.status = .running) (now : Timestamp) :
    RowStep .mark job (markedRow now job) := by
  constructor <;> simp [IntegraIntake.markedRow, hrunning]

/-- The end of a parked job. -/
theorem RowStep.decidedRow {executed : AgentJob} {status : JobStatus} (approval : Approval)
    (now : Timestamp) (errorCode : Option WorkerErrorCode) (outcome : String)
    (hawaiting : job.status = .awaitingApproval) (hterminal : status.isTerminal = true)
    {marker : Option Timestamp}
    (hexecuted : executed = { job with sideEffectCommittedAt := marker })
    (hmarker : job.sideEffectCommittedAt.isSome → marker.isSome) :
    RowStep cause job (decidedRow approval executed now status errorCode outcome) := by
  subst hexecuted
  constructor <;> simp only [ApprovalRepository.decidedRow, le_refl]
  · rintro rfl
    cases hterminal
  · exact hmarker
  · rintro - (hrunning | rfl | rfl)
    · rw [hawaiting] at hrunning
      cases hrunning
    · cases hterminal
    · cases hterminal
  · rintro - rfl
    cases hterminal
  · intro _ hrunning
    rw [hawaiting] at hrunning
    cases hrunning

end RowStep

/-! ## The table -/

/-- What one step does to the job table: each row takes a step, a running row
under a lock of `locked` stays as it is, and new rows are queued. -/
structure RowsStep (locked : Uuid → Prop) (cause : AgentJob → Cause) (db next : Db) : Prop where
  rows : ∀ job ∈ db.jobs, ∃ row ∈ next.jobs, RowStep (cause job) job row
  back : ∀ row ∈ next.jobs, (∃ job ∈ db.jobs, RowStep (cause job) job row) ∨
    (row.status = .queued ∧ row.sideEffectCommittedAt = none ∧ ∀ job ∈ db.jobs, job.id ≠ row.id)
  kept : ∀ job ∈ db.jobs, job.status = .running → locked job.id → job ∈ next.jobs

section RowsStep

variable {locked : Uuid → Prop} {cause : AgentJob → Cause} {db next : Db} {job changed : AgentJob}

theorem RowsStep.of_eq (hjobs : next.jobs = db.jobs) : RowsStep locked cause db next where
  rows job hjob := ⟨_, hjobs ▸ hjob, .refl _ job⟩
  back row hrow := .inl ⟨row, hjobs ▸ hrow, .refl _ row⟩
  kept _ hjob _ _ := hjobs ▸ hjob

/-- One row changes. -/
theorem RowsStep.of_replace (hunique : Table.Unique AgentJob.id db.jobs) (hjob : job ∈ db.jobs)
    (hstep : RowStep (cause job) job changed)
    (hfree : job.status = .running → ¬ locked job.id)
    (hjobs : next.jobs = Table.replace AgentJob.id changed db.jobs) :
    RowsStep locked cause db next := by
  have hsame : ∀ old ∈ db.jobs, old.id = changed.id → old = job := fun old hold hid =>
    hunique.eq hold hjob (hid.trans hstep.id_eq)
  constructor
  · intro old hold
    rw [hjobs]
    by_cases hid : old.id = changed.id
    · rw [hsame old hold hid]
      exact ⟨changed, Table.mem_replace_self ⟨job, hjob, hstep.id_eq.symm⟩, hstep⟩
    · exact ⟨old, Table.mem_replace_of_ne hold hid, .refl _ old⟩
  · intro row hrow
    rw [hjobs] at hrow
    rcases Table.mem_of_mem_replace hrow with rfl | ⟨hold, -⟩
    · exact .inl ⟨job, hjob, hstep⟩
    · exact .inl ⟨row, hold, .refl _ row⟩
  · intro old hold hrunning hlocked
    rw [hjobs]
    refine Table.mem_replace_of_ne hold fun hid => ?_
    rw [hsame old hold hid] at hrunning hlocked
    exact hfree hrunning hlocked

/-- Every row is mapped to a step of it. -/
theorem RowsStep.of_map (f : AgentJob → AgentJob)
    (hstep : ∀ job ∈ db.jobs, RowStep (cause job) job (f job))
    (hfree : ∀ job ∈ db.jobs, job.status = .running → locked job.id → f job = job)
    (hjobs : next.jobs = db.jobs.map f) : RowsStep locked cause db next := by
  constructor
  · intro job hjob
    exact ⟨f job, by rw [hjobs]; exact List.mem_map_of_mem hjob, hstep job hjob⟩
  · intro row hrow
    rw [hjobs] at hrow
    obtain ⟨job, hjob, rfl⟩ := List.mem_map.1 hrow
    exact .inl ⟨job, hjob, hstep job hjob⟩
  · intro job hjob hrunning hlocked
    rw [hjobs]
    exact List.mem_map.2 ⟨job, hjob, hfree job hjob hrunning hlocked⟩

end RowsStep

/-! ## The operations -/

section Operations

variable {locked : Uuid → Prop} {cause : AgentJob → Cause} {db : Db}

theorem insertJob_rows (new : NewJob) (db : Db) :
    RowsStep locked cause db (insertJob new db).2 := by
  rcases insertJob_cases new db with heq | ⟨hfresh, heq⟩
  · rw [heq]
    exact .of_eq rfl
  · rw [heq]
    constructor
    · exact fun job hjob => ⟨job, List.mem_append_left _ hjob, .refl _ job⟩
    · intro row hrow
      rcases List.mem_append.1 hrow with hold | hnew
      · exact .inl ⟨row, hold, .refl _ row⟩
      · rw [List.mem_singleton.1 hnew]
        refine .inr ⟨rfl, rfl, fun job hjob hid => ?_⟩
        simp only [NewJob.violates, Bool.or_eq_false_iff, List.any_eq_false, decide_eq_true_eq]
          at hfresh
        exact hfresh.1 job hjob (.inl hid)
    · exact fun job hjob _ _ => List.mem_append_left _ hjob

theorem Lifecycle.claimNext_rows (h : Lifecycle db) (now leaseUntil : Timestamp)
    (excluded : List Uuid) (skipped : Uuid → Bool) :
    RowsStep locked cause db (JobRepository.claimNext now leaseUntil excluded skipped db).2 := by
  rcases claimNext_cases now leaseUntil excluded skipped db with heq | ⟨job, hjob, hqueued, -, heq⟩
  · rw [heq]
    exact .of_eq rfl
  · rw [heq]
    refine .of_replace h.jobs_unique hjob (.claimed now leaseUntil) ?_ rfl
    intro hrunning
    rw [hqueued] at hrunning
    cases hrunning

theorem Lifecycle.renewLease_rows (h : Lifecycle db) (jobId tenantId : Uuid) (attemptCount : ℕ)
    (leaseUntil : Timestamp) (hfree : ¬ locked jobId) :
    RowsStep locked cause db
      (JobRepository.renewLease jobId tenantId attemptCount leaseUntil db).2 := by
  rcases renewLease_cases jobId tenantId attemptCount leaseUntil db with heq | ⟨job, howned, heq⟩
  · rw [heq]
    exact .of_eq rfl
  · rw [heq]
    refine .of_replace h.jobs_unique howned.mem (.renewed howned.running leaseUntil) ?_ rfl
    rw [howned.id_eq]
    exact fun _ => hfree

theorem createForRunningJob_rows (newId tenantId jobId : Uuid) (attemptCount : ℕ)
    (action : PendingAction) (policyReason : String) (expiresIn : ℤ) (now : Timestamp) (db : Db) :
    RowsStep locked cause db (createForRunningJob newId tenantId jobId attemptCount action
      policyReason expiresIn now db).2 := by
  rcases createForRunningJob_cases newId tenantId jobId attemptCount action policyReason expiresIn
    now db with ⟨error, heq⟩ | ⟨job, result, events, -,
      ⟨existing, row, -, -, -, -, heq⟩ | ⟨-, heq⟩⟩ <;>
    rw [heq] <;> exact .of_eq rfl

theorem Lifecycle.scheduleRetry_rows (h : Lifecycle db) (jobId : Uuid) (errorCode : String)
    (availableAt : Timestamp) (tenantId : Uuid) (attemptCount : ℕ) (hfree : ¬ locked jobId)
    (hcause : ∀ job, Owned db jobId tenantId attemptCount job → cause job = .retry) :
    RowsStep locked cause db
      (JobRepository.scheduleRetry jobId errorCode availableAt tenantId attemptCount db).2 := by
  rcases scheduleRetry_cases jobId errorCode availableAt tenantId attemptCount db with
    ⟨error, heq⟩ | ⟨job, howned, heq⟩
  · rw [heq]
    exact .of_eq rfl
  · rw [heq]
    rw [← howned.id_eq] at hfree
    exact .of_replace h.jobs_unique howned.mem
      (.requeuedRow errorCode availableAt fun hne => absurd (hcause job howned) hne)
      (fun _ => hfree) rfl

theorem Lifecycle.markTerminal_rows (h : Lifecycle db) (jobId : Uuid) {status : JobStatus}
    (hterminal : status.isTerminal = true) (now : Timestamp) (tenantId : Uuid) (attemptCount : ℕ)
    (result : Option Json) (errorCode : Option String) (hfree : ¬ locked jobId)
    (hcause : status = .failed →
      ∀ job, Owned db jobId tenantId attemptCount job → cause job = .blame) :
    RowsStep locked cause db
      (JobRepository.markTerminal jobId status now tenantId attemptCount result
        errorCode db).2 := by
  rcases markTerminal_cases jobId status now tenantId attemptCount result errorCode db with
    ⟨error, heq⟩ | ⟨job, howned, heq⟩
  · rw [heq]
    exact .of_eq rfl
  · rw [heq]
    rw [← howned.id_eq] at hfree
    refine .of_replace h.jobs_unique howned.mem (.terminalRow hterminal now result errorCode
      fun hfailed => hcause hfailed job howned) (fun _ => hfree) ?_
    rw [setJob_jobs, cancelStagedApproval_jobs]

theorem Lifecycle.recordAwaitingApprovalResult_rows (h : Lifecycle db) (jobId : Uuid)
    (result : Json) (tenantId : Uuid) (attemptCount : ℕ) (hfree : ¬ locked jobId) :
    RowsStep locked cause db
      (JobRepository.recordAwaitingApprovalResult jobId result tenantId attemptCount db).2 := by
  rcases recordAwaitingApprovalResult_cases jobId result tenantId attemptCount db with
    ⟨error, heq⟩ | ⟨job, approval, howned, -, -, -, -, heq⟩
  · rw [heq]
    exact .of_eq rfl
  · rw [heq]
    rw [← howned.id_eq] at hfree
    exact .of_replace h.jobs_unique howned.mem (.parkedRow result) (fun _ => hfree) rfl

theorem recoveredRow_step (cause : Cause) (now : Timestamp) (maxRetries : ℕ) (retryDelay : ℤ)
    (job : AgentJob) : RowStep cause job (recoveredRow now maxRetries retryDelay job) := by
  unfold recoveredRow
  split_ifs with hmarker
  · exact .lostRow rfl _ now (by simp)
  · exact .requeuedRow _ _ fun _ => by simpa using hmarker
  · exact .lostRow rfl _ now fun _ => by simpa using hmarker

/-- Lease recovery as one map over the table. -/
theorem Lifecycle.recoverExpiredLeases_jobs (h : Lifecycle db) (now : Timestamp) (maxRetries : ℕ)
    (retryDelay : ℤ) (skipped : Uuid → Bool) :
    (JobRepository.recoverExpiredLeases now maxRetries retryDelay skipped db).jobs =
      db.jobs.map fun job =>
        if job.id ∈ (db.jobs.filter (leaseExpired now skipped)).map AgentJob.id then
          recoveredRow now maxRetries retryDelay job
        else job := by
  have hfold : ∀ (selected : List AgentJob) (db : Db), (selected.foldl
      (JobRepository.recoverLease now maxRetries retryDelay) db).jobs = selected.foldl
        (fun table job =>
          Table.replace AgentJob.id (recoveredRow now maxRetries retryDelay job) table)
          db.jobs := by
    intro selected
    induction selected with
    | nil => exact fun _ => rfl
    | cons job rest ih =>
        intro db
        rw [List.foldl_cons, ih, recoverLease_jobs, List.foldl_cons]
  rw [JobRepository.recoverExpiredLeases, hfold]
  refine Table.foldl_replace _ (recoveredRow_id now maxRetries retryDelay) _ ?_ h.jobs_unique ?_
  · exact List.Nodup.sublist (List.Sublist.map _ List.filter_sublist) h.jobs_unique
  · exact fun job hjob => (List.mem_filter.1 hjob).1

theorem Lifecycle.recoverExpiredLeases_rows (h : Lifecycle db) (now : Timestamp)
    (maxRetries : ℕ) (retryDelay : ℤ) (skipped : Uuid → Bool)
    (hskipped : ∀ jobId, locked jobId → skipped jobId = true) :
    RowsStep locked cause db
      (JobRepository.recoverExpiredLeases now maxRetries retryDelay skipped db) := by
  refine .of_map _ ?_ ?_ (h.recoverExpiredLeases_jobs now maxRetries retryDelay skipped)
  · intro job hjob
    split
    · exact recoveredRow_step _ now maxRetries retryDelay job
    · exact .refl _ job
  · intro job hjob _ hlocked
    rw [if_neg]
    intro hselected
    obtain ⟨other, hother, hid⟩ := List.mem_map.1 hselected
    have hexpired := (List.mem_filter.1 hother).2
    rw [← hid] at hlocked
    simp [leaseExpired, hskipped _ hlocked] at hexpired

/-- A row that stays, or that was parked and has ended. -/
def Ended (job row : AgentJob) : Prop :=
  row = job ∨ (job.status = .awaitingApproval ∧ row.status.isTerminal = true ∧
    ∀ cause, RowStep cause job row)

theorem Ended.trans {first second third : AgentJob} (h : Ended first second)
    (h' : Ended second third) : Ended first third := by
  rcases h with rfl | ⟨hawaiting, hterminal, hstep⟩
  · exact h'
  · rcases h' with rfl | ⟨hparked, -⟩
    · exact .inr ⟨hawaiting, hterminal, hstep⟩
    · rw [hparked] at hterminal
      cases hterminal

/-- The end of one parked job as a map over the table. -/
theorem Ended.of_parked {approval : Approval} {job : AgentJob} (row : AgentJob)
    (hunique : Table.Unique AgentJob.id db.jobs) (hparked : Parked db approval job)
    (hterminal : row.status.isTerminal = true) (hstep : ∀ cause, RowStep cause job row) :
    ∀ old ∈ db.jobs, Ended old (if old.id = row.id then row else old) := by
  intro old hold
  split
  · rename_i hid
    rw [hunique.eq hold hparked.job_mem (hid.trans (hstep .plain).id_eq)]
    exact .inr ⟨hparked.awaiting, hterminal, hstep⟩
  · exact .inl rfl

theorem RowsStep.of_ended {next : Db} (f : AgentJob → AgentJob)
    (hended : ∀ job ∈ db.jobs, Ended job (f job)) (hjobs : next.jobs = db.jobs.map f) :
    RowsStep locked cause db next := by
  refine .of_map f ?_ ?_ hjobs
  · intro job hjob
    rcases hended job hjob with hsame | ⟨-, -, hstep⟩
    · rw [hsame]
      exact .refl _ job
    · exact hstep _
  · intro job hjob hrunning _
    rcases hended job hjob with hsame | ⟨hawaiting, -⟩
    · exact hsame
    · rw [hrunning] at hawaiting
      cases hawaiting

theorem Expirations.ended {now : Timestamp} {selected : List Approval} {next : Db}
    (hexpired : Expirations now db selected next) (h : Lifecycle db) :
    ∃ f, next.jobs = db.jobs.map f ∧ ∀ job ∈ db.jobs, Ended job (f job) := by
  induction hexpired with
  | nil db => exact ⟨id, (List.map_id _).symm, fun _ _ => .inl rfl⟩
  | @cons db next approval job rest hparked hdue _ ih =>
      obtain ⟨f, hjobs, hended⟩ := ih (h.moves (h.moves_expiredDb hparked hdue))
      have hfirst := Ended.of_parked (decidedRow (expiredRow now approval) job now .failed
        (some .approvalExpired) "approval_expired") h.jobs_unique hparked rfl fun cause =>
        RowStep.decidedRow _ now _ _ hparked.awaiting rfl rfl (fun hmarker => hmarker)
      refine ⟨_, hjobs.trans (List.map_map ..), fun old hold => ?_⟩
      exact (hfirst old hold).trans (hended _ (List.mem_map_of_mem hold))

theorem Lifecycle.expireDue_rows (h : Lifecycle db) (now : Timestamp) (limit : ℕ)
    (skipped : Uuid → Bool) :
    RowsStep locked cause db (ApprovalRepository.expireDue now limit skipped db).2 := by
  obtain ⟨next, hrun, hexpired⟩ := h.expireDue_expirations now limit skipped
  obtain ⟨f, hjobs, hended⟩ := hexpired.ended h
  rw [hrun]
  exact .of_ended f hended hjobs

theorem Decided.rows {services : Services} {newId : Uuid} {approval : Approval}
    {operator : Operator} {request : DecisionRequest} {now : Timestamp} {verdict : Verdict}
    {next : Db} (h : Lifecycle db)
    (hdecided : Decided services newId approval operator request now db verdict next) :
    RowsStep locked cause db next := by
  cases hdecided with
  | reused => exact .of_eq rfl
  | @expired job _ hparked =>
      refine .of_ended _ (Ended.of_parked _ h.jobs_unique hparked rfl fun cause => ?_) rfl
      exact .decidedRow _ now _ _ hparked.awaiting rfl rfl fun hmarker => hmarker
  | @rejected job _ hparked =>
      refine .of_ended _ (Ended.of_parked _ h.jobs_unique hparked rfl fun cause => ?_) rfl
      exact .decidedRow _ now _ _ hparked.awaiting rfl rfl fun hmarker => hmarker
  | @approved job _ action executed working hparked _ _ hexecute =>
      have htables := execute_tables hexecute
      simp only [lifecycleTables, Prod.mk.injEq] at htables
      obtain ⟨capability, _, _, -, -, -, -, hjob, -⟩ := execute_ok hexecute
      refine .of_ended _ (Ended.of_parked (decidedRow (approvedRow operator request now executed)
        executed.job now .succeeded none "tool_result") h.jobs_unique hparked rfl fun cause => ?_)
        (by rw [← htables.1]; rfl)
      refine .decidedRow _ now _ _ hparked.awaiting rfl hjob fun hmarker => ?_
      split
      · rfl
      · exact hmarker

theorem Lifecycle.decide_rows (h : Lifecycle db) (services : Services) (newId approvalId : Uuid)
    (operator : Operator) (request : DecisionRequest) (now : Timestamp) :
    RowsStep locked cause db
      (ApprovalDecision.decide services newId approvalId operator request now db).2 := by
  rw [decide_eq]
  cases hfound : getForTenant approvalId operator.tenantId db with
  | none => exact .of_eq rfl
  | some approval =>
      rcases h.decideHolding_cases (getForTenant_eq_some hfound).1 services newId operator request
        now with ⟨error, next, -, heq⟩ | ⟨verdict, next, -, hdecided, heq⟩
      · dsimp only
        rw [heq]
        exact .of_eq rfl
      · dsimp only
        rw [heq, report_state]
        exact hdecided.rows h

end Operations
end IntegraIntake
