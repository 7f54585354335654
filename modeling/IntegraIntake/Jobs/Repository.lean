import Mathlib.Data.List.MinMax
import Mathlib.Data.Prod.Lex
import IntegraIntake.Database.Schema

/-!
# The job repository

`app/domain/job_repository.py`: the operations that move a job through its
life.  Each operation is one transaction.  `locked` says which job rows another
transaction holds; the statements with `SKIP LOCKED` pass over them.
-/

namespace IntegraIntake

open Library

namespace JobRepository

/-- `_get_job`. -/
def getJob (jobId tenantId : Uuid) (attemptCount : ℕ) (db : Db) : Option AgentJob :=
  db.jobs.find? fun job =>
    job.id = jobId ∧ job.tenantId = tenantId ∧ job.attemptCount = attemptCount

/-- The running job of an attempt, or `JobLeaseLostError`. -/
def requireRunning (jobId tenantId : Uuid) (attemptCount : ℕ) (message : String) :
    Query AgentJob := do
  let db ← Session.read
  match getJob jobId tenantId attemptCount db with
  | none => Session.raise (.jobLeaseLost message)
  | some job =>
    if job.status = .running then pure job else Session.raise (.jobLeaseLost message)

/-- `_cancel_staged_approval`. -/
def cancelStagedApproval (jobId tenantId : Uuid) (db : Db) : Db :=
  match db.approvals.find? fun approval =>
      approval.jobId = some jobId ∧ approval.tenantId = tenantId ∧ approval.status = .staged with
  | none => db
  | some approval =>
    (db.setApproval (approval.withStatus .cancelled)).addApprovalEvent
      ⟨tenantId, approval.id, .cancelled, none, .obj []⟩

/-! ## Creating a job -/

/-- What a new job and its idempotency record are made of. -/
structure NewJob where
  id : Uuid
  tenantId : Uuid
  traceId : Uuid
  sourceSnapshot : Json
  tenantConfigSnapshot : Json
  tenantConfigSha256 : String
  riskSignals : Json
  availableAt : Timestamp
  key : String
  requestHash : String

/-- The row of `create_job`, with the defaults of its columns: a job is available from
the time of its creation. -/
def NewJob.row (new : NewJob) : AgentJob where
  id := new.id
  tenantId := new.tenantId
  traceId := new.traceId
  status := .queued
  sourceSnapshot := new.sourceSnapshot
  tenantConfigSnapshot := new.tenantConfigSnapshot
  tenantConfigSha256 := new.tenantConfigSha256
  riskSignals := new.riskSignals
  attemptCount := 0
  availableAt := new.availableAt
  leaseExpiresAt := none
  startedAt := none
  finishedAt := none
  sideEffectCommittedAt := none
  result := none
  errorCode := none
  createdAt := new.availableAt

/-- The row of `create_idempotency_record`. -/
def NewJob.record (new : NewJob) : IdempotencyRecord where
  tenantId := new.tenantId
  key := new.key
  requestHash := new.requestHash
  jobId := some new.id
  caseId := none
  response := .obj []

/-- The unique constraints a new job and its record are checked against. -/
def NewJob.violates (new : NewJob) (db : Db) : Bool :=
  (db.jobs.any fun job => job.id = new.id ∨ job.traceId = new.traceId) ||
    (db.idempotency.any fun record => record.tenantId = new.tenantId ∧
      (record.key = new.key ∨ record.jobId = some new.id))

/-- `create_job` and `create_idempotency_record` in one savepoint. -/
def insertJob (new : NewJob) : Query Unit := do
  let db ← Session.read
  if new.violates db then Session.raise .integrityError
  else Session.write fun db =>
    { db with jobs := db.jobs ++ [new.row], idempotency := db.idempotency ++ [new.record] }

theorem insertJob_cases (new : NewJob) (db : Db) :
    insertJob new db = (.error .integrityError, db) ∨
      (new.violates db = false ∧ insertJob new db = (.ok (), { db with
        jobs := db.jobs ++ [new.row]
        idempotency := db.idempotency ++ [new.record] })) := by
  unfold insertJob
  rw [Session.read_bind_run]
  cases hviolates : new.violates db with
  | true => exact .inl rfl
  | false => exact .inr ⟨rfl, rfl⟩

/-! ## Leases -/

/-- The rows `recover_expired_leases` selects. -/
def leaseExpired (now : Timestamp) (locked : Uuid → Bool) (job : AgentJob) : Bool :=
  job.status = .running ∧ !locked job.id ∧ ∃ lease ∈ job.leaseExpiresAt, lease ≤ now

/-- The row of a job that ends when its lease is recovered. -/
def lostRow (status : JobStatus) (errorCode : WorkerErrorCode) (now : Timestamp) (job : AgentJob) :
    AgentJob :=
  { job with
    leaseExpiresAt := none
    status := status
    errorCode := some errorCode.value
    finishedAt := some now }

/-- The row of a job that goes back to the queue. -/
def requeuedRow (errorCode : String) (availableAt : Timestamp) (job : AgentJob) : AgentJob :=
  { job with
    leaseExpiresAt := none
    status := .queued
    availableAt := availableAt
    errorCode := some errorCode }

/-- One turn of the loop in `recover_expired_leases`. -/
def recoverLease (now : Timestamp) (maxRetries : ℕ) (retryDelay : ℤ) (db : Db) (job : AgentJob) :
    Db :=
  if job.sideEffectCommittedAt.isSome then
    (cancelStagedApproval job.id job.tenantId db).setJob
      (lostRow .failedUncertain .leaseExpiredAfterSideEffect now job)
  else if job.attemptCount ≤ maxRetries then
    db.setJob (requeuedRow WorkerErrorCode.leaseExpired.value (now + retryDelay) job)
  else
    (cancelStagedApproval job.id job.tenantId db).setJob (lostRow .failed .retryExhausted now job)

/-- `recover_expired_leases`. -/
def recoverExpiredLeases (now : Timestamp) (maxRetries : ℕ) (retryDelay : ℤ)
    (locked : Uuid → Bool) (db : Db) : Db :=
  (db.jobs.filter (leaseExpired now locked)).foldl (recoverLease now maxRetries retryDelay) db

/-- The rows `claim_next` selects. -/
def claimable (now : Timestamp) (excluded : List Uuid) (locked : Uuid → Bool) (job : AgentJob) :
    Bool :=
  job.status = .queued ∧ job.availableAt ≤ now ∧ job.tenantId ∉ excluded ∧ !locked job.id

/-- The order of `claim_next`: `available_at`, then `id`. -/
def ClaimKey : Type := ℤ ×ₗ ℕ

instance : LinearOrder ClaimKey :=
  @Prod.Lex.instLinearOrder ℤ ℕ Int.instLinearOrder Nat.instLinearOrder

/-- The columns that `claim_next` orders by. -/
def claimOrder (job : AgentJob) : ClaimKey :=
  toLex (job.availableAt, job.id)

/-- The row as `claim_next` leaves it. -/
def claimedRow (now leaseUntil : Timestamp) (job : AgentJob) : AgentJob :=
  { job with
    status := .running
    attemptCount := job.attemptCount + 1
    startedAt := some (job.startedAt.getD now)
    leaseExpiresAt := some leaseUntil }

/-- `claim_next`; the claimed row stands for the `ClaimedJob` built from it. -/
def claimNext (now leaseUntil : Timestamp) (excluded : List Uuid) (locked : Uuid → Bool) :
    Query (Option AgentJob) := do
  let db ← Session.read
  match (db.jobs.filter (claimable now excluded locked)).argmin claimOrder with
  | none => pure none
  | some job =>
    Session.write (·.setJob (claimedRow now leaseUntil job))
    pure (some (claimedRow now leaseUntil job))

/-- `renew_lease`. -/
def renewLease (jobId tenantId : Uuid) (attemptCount : ℕ) (leaseUntil : Timestamp) :
    Query Bool := do
  let db ← Session.read
  match getJob jobId tenantId attemptCount db with
  | none => pure false
  | some job =>
    -- the heartbeat of an attempt that is over writes nothing
    if job.status = .running then
      Session.write (·.setJob { job with leaseExpiresAt := some leaseUntil })
      pure true
    else pure false

/-! ## The end of an attempt -/

/-- The row as `_mark_terminal` leaves it. -/
def terminalRow (status : JobStatus) (now : Timestamp) (result : Option Json)
    (errorCode : Option String) (job : AgentJob) : AgentJob :=
  { job with
    status := status
    finishedAt := some now
    leaseExpiresAt := none
    result := result
    errorCode := errorCode }

/-- The row as `record_awaiting_approval_result` leaves it. -/
def parkedRow (result : Json) (job : AgentJob) : AgentJob :=
  { job with
    status := .awaitingApproval
    finishedAt := none
    leaseExpiresAt := none
    result := some result
    errorCode := none }

/-- `_mark_terminal`. -/
def markTerminal (jobId : Uuid) (status : JobStatus) (now : Timestamp) (tenantId : Uuid)
    (attemptCount : ℕ) (result : Option Json) (errorCode : Option String) : Query Unit :=
  Session.transaction do
    let job ← requireRunning jobId tenantId attemptCount
      "job lease ownership changed before terminal transition"
    Session.write (cancelStagedApproval jobId tenantId)
    Session.write (·.setJob (terminalRow status now result errorCode job))

/-- `mark_succeeded`. -/
def markSucceeded (jobId : Uuid) (result : Json) (now : Timestamp) (tenantId : Uuid)
    (attemptCount : ℕ) : Query Unit :=
  markTerminal jobId .succeeded now tenantId attemptCount (some result) none

/-- `mark_failed`. -/
def markFailed (jobId : Uuid) (errorCode : String) (now : Timestamp) (tenantId : Uuid)
    (attemptCount : ℕ) : Query Unit :=
  markTerminal jobId .failed now tenantId attemptCount none (some errorCode)

/-- `mark_failed_uncertain`. -/
def markFailedUncertain (jobId : Uuid) (errorCode : String) (now : Timestamp) (tenantId : Uuid)
    (attemptCount : ℕ) : Query Unit :=
  markTerminal jobId .failedUncertain now tenantId attemptCount none (some errorCode)

/-- `schedule_retry`. -/
def scheduleRetry (jobId : Uuid) (errorCode : String) (availableAt : Timestamp) (tenantId : Uuid)
    (attemptCount : ℕ) : Query Unit :=
  Session.transaction do
    let job ← requireRunning jobId tenantId attemptCount
      "job lease ownership changed before retry scheduling"
    Session.write (·.setJob (requeuedRow errorCode availableAt job))

/-- `record_awaiting_approval_result`. -/
def recordAwaitingApprovalResult (jobId : Uuid) (result : Json) (tenantId : Uuid)
    (attemptCount : ℕ) : Query Unit :=
  Session.transaction do
    let job ← requireRunning jobId tenantId attemptCount
      "job approval ownership changed before result persistence"
    let db ← Session.read
    match db.approvalOf? jobId tenantId with
    | none => Session.raise (.jobLeaseLost "job approval changed before result persistence")
    | some approval =>
      -- the approval is published in the transaction that parks the job
      if approval.status = .staged then
        Session.write (·.setApproval (approval.withStatus .pending))
        Session.write (·.setJob (parkedRow result job))
      else Session.raise (.jobLeaseLost "job approval changed before result persistence")

/-- `get_side_effect_marker`. -/
def getSideEffectMarker (jobId tenantId : Uuid) (attemptCount : ℕ) :
    Query (Option Timestamp) := do
  let job ← requireRunning jobId tenantId attemptCount
    "job lease ownership changed before side-effect inspection"
  pure job.sideEffectCommittedAt

/-! ## What each operation does -/

theorem getJob_eq_some {jobId tenantId : Uuid} {attemptCount : ℕ} {db : Db} {job : AgentJob}
    (h : getJob jobId tenantId attemptCount db = some job) :
    job ∈ db.jobs ∧ job.id = jobId ∧ job.tenantId = tenantId ∧ job.attemptCount = attemptCount :=
  ⟨List.mem_of_find?_eq_some h, by simpa using List.find?_some h⟩

/-- A job that an attempt still owns. -/
structure Owned (db : Db) (jobId tenantId : Uuid) (attemptCount : ℕ) (job : AgentJob) : Prop where
  mem : job ∈ db.jobs
  id_eq : job.id = jobId
  tenant_eq : job.tenantId = tenantId
  attempt_eq : job.attemptCount = attemptCount
  running : job.status = .running

theorem requireRunning_cases (jobId tenantId : Uuid) (attemptCount : ℕ) (message : String)
    (db : Db) :
    (∃ error, requireRunning jobId tenantId attemptCount message db = (.error error, db)) ∨
      ∃ job, Owned db jobId tenantId attemptCount job ∧
        requireRunning jobId tenantId attemptCount message db = (.ok job, db) := by
  unfold requireRunning
  rw [Session.read_bind_run]
  cases hjob : getJob jobId tenantId attemptCount db with
  | none => exact .inl ⟨_, rfl⟩
  | some job =>
      obtain ⟨hmem, hid, htenant, hattempt⟩ := getJob_eq_some hjob
      by_cases hrunning : job.status = .running
      · exact .inr ⟨job, ⟨hmem, hid, htenant, hattempt, hrunning⟩, by simp [hrunning]⟩
      · exact .inl ⟨.jobLeaseLost message, by simp [hrunning]⟩

/-- The attempt that has the job finds it. -/
theorem Owned.requireRunning {db : Db} {jobId tenantId : Uuid} {attemptCount : ℕ} {job : AgentJob}
    (h : Owned db jobId tenantId attemptCount job) (hunique : Table.Unique AgentJob.id db.jobs)
    (message : String) :
    JobRepository.requireRunning jobId tenantId attemptCount message db = (.ok job, db) := by
  have hfound : getJob jobId tenantId attemptCount db = some job := by
    refine hunique.find?_eq h.mem (by simp [h.id_eq, h.tenant_eq, h.attempt_eq]) ?_
    intro other hother
    simp only [decide_eq_true_eq] at hother
    rw [hother.1, h.id_eq]
  unfold JobRepository.requireRunning
  rw [Session.read_bind_run, hfound]
  simp [h.running]

/-- A transaction that starts from the owned job either raises and leaves the
database alone, or continues with that job. -/
theorem transaction_requireRunning_cases {α : Type} (jobId tenantId : Uuid) (attemptCount : ℕ)
    (message : String) (body : AgentJob → Query α) (db : Db) :
    (∃ error, Session.transaction (requireRunning jobId tenantId attemptCount message >>= body) db =
        (.error error, db)) ∨
      ∃ job, Owned db jobId tenantId attemptCount job ∧
        Session.transaction (requireRunning jobId tenantId attemptCount message >>= body) db =
          Session.transaction (body job) db := by
  rcases requireRunning_cases jobId tenantId attemptCount message db with
    ⟨error, hraise⟩ | ⟨job, howned, hok⟩
  · refine .inl ⟨error, ?_⟩
    simp only [Session.transaction, Session.bind_run, hraise]
  · refine .inr ⟨job, howned, ?_⟩
    simp only [Session.transaction, Session.bind_run, hok]

theorem markTerminal_cases (jobId : Uuid) (status : JobStatus) (now : Timestamp) (tenantId : Uuid)
    (attemptCount : ℕ) (result : Option Json) (errorCode : Option String) (db : Db) :
    (∃ error, markTerminal jobId status now tenantId attemptCount result errorCode db =
        (.error error, db)) ∨
      ∃ job, Owned db jobId tenantId attemptCount job ∧
        markTerminal jobId status now tenantId attemptCount result errorCode db =
          (.ok (), (cancelStagedApproval jobId tenantId db).setJob
            (terminalRow status now result errorCode job)) := by
  unfold markTerminal
  rcases transaction_requireRunning_cases jobId tenantId attemptCount _ _ db with
    hraise | ⟨job, howned, heq⟩
  · exact .inl hraise
  · exact .inr ⟨job, howned, heq⟩

theorem scheduleRetry_cases (jobId : Uuid) (errorCode : String) (availableAt : Timestamp)
    (tenantId : Uuid) (attemptCount : ℕ) (db : Db) :
    (∃ error, scheduleRetry jobId errorCode availableAt tenantId attemptCount db =
        (.error error, db)) ∨
      ∃ job, Owned db jobId tenantId attemptCount job ∧
        scheduleRetry jobId errorCode availableAt tenantId attemptCount db =
          (.ok (), db.setJob (requeuedRow errorCode availableAt job)) := by
  unfold scheduleRetry
  rcases transaction_requireRunning_cases jobId tenantId attemptCount _ _ db with
    hraise | ⟨job, howned, heq⟩
  · exact .inl hraise
  · exact .inr ⟨job, howned, heq⟩

theorem approvalOf?_eq_some {db : Db} {jobId tenantId : Uuid} {approval : Approval}
    (h : db.approvalOf? jobId tenantId = some approval) :
    approval ∈ db.approvals ∧ approval.jobId = some jobId ∧ approval.tenantId = tenantId :=
  ⟨List.mem_of_find?_eq_some h, by simpa using List.find?_some h⟩

theorem recordAwaitingApprovalResult_cases (jobId : Uuid) (result : Json) (tenantId : Uuid)
    (attemptCount : ℕ) (db : Db) :
    (∃ error, recordAwaitingApprovalResult jobId result tenantId attemptCount db =
        (.error error, db)) ∨
      ∃ job approval, Owned db jobId tenantId attemptCount job ∧
        approval ∈ db.approvals ∧ approval.jobId = some jobId ∧ approval.tenantId = tenantId ∧
        approval.status = .staged ∧
        recordAwaitingApprovalResult jobId result tenantId attemptCount db =
          (.ok (), (db.setApproval (approval.withStatus .pending)).setJob
            (parkedRow result job)) := by
  unfold recordAwaitingApprovalResult
  rcases transaction_requireRunning_cases jobId tenantId attemptCount _ _ db with
    hraise | ⟨job, howned, heq⟩
  · exact .inl hraise
  · rw [heq]
    cases happroval : db.approvalOf? jobId tenantId with
    | none =>
        exact .inl ⟨.jobLeaseLost "job approval changed before result persistence",
          by simp [Session.transaction, happroval]⟩
    | some approval =>
        obtain ⟨hmem, hjob, htenant⟩ := approvalOf?_eq_some happroval
        by_cases hstaged : approval.status = .staged
        · exact .inr ⟨job, approval, howned, hmem, hjob, htenant, hstaged,
            by simp [Session.transaction, happroval, hstaged]⟩
        · exact .inl ⟨.jobLeaseLost "job approval changed before result persistence",
            by simp [Session.transaction, happroval, hstaged]⟩

theorem renewLease_cases (jobId tenantId : Uuid) (attemptCount : ℕ) (leaseUntil : Timestamp)
    (db : Db) :
    renewLease jobId tenantId attemptCount leaseUntil db = (.ok false, db) ∨
      ∃ job, Owned db jobId tenantId attemptCount job ∧
        renewLease jobId tenantId attemptCount leaseUntil db =
          (.ok true, db.setJob { job with leaseExpiresAt := some leaseUntil }) := by
  unfold renewLease
  rw [Session.read_bind_run]
  cases hjob : getJob jobId tenantId attemptCount db with
  | none => exact .inl rfl
  | some job =>
      obtain ⟨hmem, hid, htenant, hattempt⟩ := getJob_eq_some hjob
      by_cases hrunning : job.status = .running
      · exact .inr ⟨job, ⟨hmem, hid, htenant, hattempt, hrunning⟩, by simp [hrunning]⟩
      · exact .inl (by simp [hrunning])

theorem claimNext_cases (now leaseUntil : Timestamp) (excluded : List Uuid)
    (locked : Uuid → Bool) (db : Db) :
    claimNext now leaseUntil excluded locked db = (.ok none, db) ∨
      ∃ job ∈ db.jobs, job.status = .queued ∧ locked job.id = false ∧
        claimNext now leaseUntil excluded locked db =
          (.ok (some (claimedRow now leaseUntil job)),
            db.setJob (claimedRow now leaseUntil job)) := by
  unfold claimNext
  rw [Session.read_bind_run]
  cases hfirst : (db.jobs.filter (claimable now excluded locked)).argmin claimOrder with
  | none => exact .inl rfl
  | some job =>
      obtain ⟨hmem, hclaimable⟩ := List.mem_filter.1 (List.argmin_mem hfirst)
      simp only [claimable, decide_eq_true_eq] at hclaimable
      exact .inr ⟨job, hmem, hclaimable.1, by simpa using hclaimable.2.2.2, rfl⟩

/-- Cancelling either finds no staged approval or marks the one it finds. -/
theorem cancelStagedApproval_cases (jobId tenantId : Uuid) (db : Db) :
    (cancelStagedApproval jobId tenantId db = db ∧
        ∀ approval ∈ db.approvals, approval.jobId = some jobId → approval.tenantId = tenantId →
          approval.status ≠ .staged) ∨
      ∃ approval ∈ db.approvals, approval.jobId = some jobId ∧ approval.tenantId = tenantId ∧
        approval.status = .staged ∧
        cancelStagedApproval jobId tenantId db =
          (db.setApproval (approval.withStatus .cancelled)).addApprovalEvent
            ⟨tenantId, approval.id, .cancelled, none, .obj []⟩ := by
  unfold cancelStagedApproval
  split
  · rename_i hnone
    refine .inl ⟨rfl, fun approval hmem hjob htenant hstaged => ?_⟩
    have := List.find?_eq_none.1 hnone approval hmem
    simp [hjob, htenant, hstaged] at this
  · rename_i approval hsome
    have hfound := List.find?_some hsome
    simp only [decide_eq_true_eq] at hfound
    exact .inr ⟨approval, List.mem_of_find?_eq_some hsome, hfound.1, hfound.2.1, hfound.2.2, rfl⟩

end JobRepository
end IntegraIntake
