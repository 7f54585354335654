import IntegraIntake.Jobs.Read
import IntegraIntake.Library.Machine
import IntegraIntake.Lifecycle.Decision

/-!
# Runs of the lifecycle operations

The operations that touch `agent_jobs` and `approvals`, in any order and with
any arguments.  Each is one transaction, so a run is a list of operations.
-/

namespace IntegraIntake

open Library JobRepository ApprovalRepository

/-- An operation with its arguments; `locked` is what `SKIP LOCKED` passes over. -/
inductive Operation where
  | enqueue (new : NewJob)
  | claimNext (now leaseUntil : Timestamp) (excluded : List Uuid) (locked : Uuid → Bool)
  | renewLease (jobId tenantId : Uuid) (attemptCount : ℕ) (leaseUntil : Timestamp)
  | createForRunningJob (newId tenantId jobId : Uuid) (attemptCount : ℕ) (action : PendingAction)
      (policyReason : String) (expiresIn : ℤ) (now : Timestamp)
  | recordAwaitingApprovalResult (jobId : Uuid) (result : Json) (tenantId : Uuid)
      (attemptCount : ℕ)
  | markSucceeded (jobId : Uuid) (result : Json) (now : Timestamp) (tenantId : Uuid)
      (attemptCount : ℕ)
  | markFailed (jobId : Uuid) (errorCode : String) (now : Timestamp) (tenantId : Uuid)
      (attemptCount : ℕ)
  | markFailedUncertain (jobId : Uuid) (errorCode : String) (now : Timestamp) (tenantId : Uuid)
      (attemptCount : ℕ)
  | scheduleRetry (jobId : Uuid) (errorCode : String) (availableAt : Timestamp) (tenantId : Uuid)
      (attemptCount : ℕ)
  | recoverExpiredLeases (now : Timestamp) (maxRetries : ℕ) (retryDelay : ℤ)
      (locked : Uuid → Bool)
  | decide (newId approvalId : Uuid) (operator : Operator) (request : DecisionRequest)
      (now : Timestamp)
  | expireDue (now : Timestamp) (limit : ℕ) (locked : Uuid → Bool)

/-- The database after an operation, whether it returns or raises. -/
def Operation.apply (services : Services) (db : Db) : Operation → Db
  | .enqueue new => (insertJob new db).2
  | .claimNext now leaseUntil excluded locked =>
    (JobRepository.claimNext now leaseUntil excluded locked db).2
  | .renewLease jobId tenantId attemptCount leaseUntil =>
    (JobRepository.renewLease jobId tenantId attemptCount leaseUntil db).2
  | .createForRunningJob newId tenantId jobId attemptCount action policyReason expiresIn now =>
    (ApprovalRepository.createForRunningJob newId tenantId jobId attemptCount action policyReason
      expiresIn now db).2
  | .recordAwaitingApprovalResult jobId result tenantId attemptCount =>
    (JobRepository.recordAwaitingApprovalResult jobId result tenantId attemptCount db).2
  | .markSucceeded jobId result now tenantId attemptCount =>
    (JobRepository.markSucceeded jobId result now tenantId attemptCount db).2
  | .markFailed jobId errorCode now tenantId attemptCount =>
    (JobRepository.markFailed jobId errorCode now tenantId attemptCount db).2
  | .markFailedUncertain jobId errorCode now tenantId attemptCount =>
    (JobRepository.markFailedUncertain jobId errorCode now tenantId attemptCount db).2
  | .scheduleRetry jobId errorCode availableAt tenantId attemptCount =>
    (JobRepository.scheduleRetry jobId errorCode availableAt tenantId attemptCount db).2
  | .recoverExpiredLeases now maxRetries retryDelay locked =>
    JobRepository.recoverExpiredLeases now maxRetries retryDelay locked db
  | .decide newId approvalId operator request now =>
    (ApprovalDecision.decide services newId approvalId operator request now db).2
  | .expireDue now limit locked => (ApprovalRepository.expireDue now limit locked db).2

/-- Runs of the operations, from a database without jobs and approvals. -/
def lifecycleMachine (services : Services) : Machine Db Operation where
  initial db := db.jobs = [] ∧ db.approvals = []
  step db operation := some (operation.apply services db)

variable {services : Services} {db : Db}

theorem Lifecycle.of_empty (hjobs : db.jobs = []) (happrovals : db.approvals = []) :
    Lifecycle db := by
  constructor <;> simp [hjobs, happrovals, Table.Unique]

/-- One step: every operation is a sequence of moves. -/
theorem Lifecycle.apply_moves (h : Lifecycle db) (operation : Operation) :
    Moves db (operation.apply services db) := by
  cases operation with
  | enqueue new => exact insertJob_moves new db
  | claimNext now leaseUntil excluded locked => exact h.claimNext now leaseUntil excluded locked
  | renewLease jobId tenantId attemptCount leaseUntil =>
      exact h.renewLease jobId tenantId attemptCount leaseUntil
  | createForRunningJob newId tenantId jobId attemptCount action policyReason expiresIn now =>
      exact h.createForRunningJob newId tenantId jobId attemptCount action policyReason
        expiresIn now
  | recordAwaitingApprovalResult jobId result tenantId attemptCount =>
      exact h.recordAwaitingApprovalResult jobId result tenantId attemptCount
  | markSucceeded jobId result now tenantId attemptCount =>
      exact h.markTerminal jobId rfl now tenantId attemptCount (some result) none
  | markFailed jobId errorCode now tenantId attemptCount =>
      exact h.markTerminal jobId rfl now tenantId attemptCount none (some errorCode)
  | markFailedUncertain jobId errorCode now tenantId attemptCount =>
      exact h.markTerminal jobId rfl now tenantId attemptCount none (some errorCode)
  | scheduleRetry jobId errorCode availableAt tenantId attemptCount =>
      exact h.scheduleRetry jobId errorCode availableAt tenantId attemptCount
  | recoverExpiredLeases now maxRetries retryDelay locked =>
      exact h.recoverExpiredLeases now maxRetries retryDelay locked
  | decide newId approvalId operator request now =>
      exact h.decide_moves services newId approvalId operator request now
  | expireDue now limit locked =>
      obtain ⟨next, hrun, hmoves⟩ := h.expireDue_run now limit locked
      rw [Operation.apply, hrun]
      exact hmoves

/-- The run: the invariant holds in every reachable state. -/
theorem lifecycle_of_reachable (h : (lifecycleMachine services).Reachable db) : Lifecycle db := by
  refine h.invariant (fun state hinit => .of_empty hinit.1 hinit.2) ?_
  intro state operation next _ hstate hstep
  cases hstep
  exact hstate.moves (hstate.apply_moves operation)

theorem Lifecycle.run_moves (h : Lifecycle db) {final : Db} (operations : List Operation)
    (hrun : (lifecycleMachine services).run db operations = some final) : Moves db final := by
  induction operations generalizing db with
  | nil =>
      cases hrun
      exact .refl
  | cons operation rest ih =>
      have hmoves : Moves db (operation.apply services db) := h.apply_moves operation
      exact hmoves.trans (ih (h.moves hmoves) hrun)

/-! ## What the invariant says of rows and reads -/

/-- A job has at most one approval. -/
theorem Lifecycle.approvals_le_one (h : Lifecycle db) (jobId : Uuid) :
    (db.approvals.filter fun approval => approval.jobId = some jobId).length ≤ 1 := by
  have hnodup : (db.approvals.filter fun approval => approval.jobId = some jobId).Nodup :=
    (List.Nodup.of_map Approval.id h.approvals_unique).filter _
  cases hrows : db.approvals.filter fun approval => approval.jobId = some jobId with
  | nil => simp
  | cons first rest =>
      cases rest with
      | nil => simp
      | cons second rest =>
          have hmem : ∀ row ∈ [first, second], row ∈ db.approvals ∧ row.jobId = some jobId := by
            intro row hrow
            have hfilter : row ∈ db.approvals.filter fun approval => approval.jobId =
                some jobId := by
              rw [hrows]
              simp only [List.mem_cons, List.not_mem_nil, or_false] at hrow
              rcases hrow with rfl | rfl <;> simp
            simpa using List.mem_filter.1 hfilter
          obtain ⟨hfirst, hfirstId⟩ := hmem first (by simp)
          obtain ⟨hsecond, hsecondId⟩ := hmem second (by simp)
          rw [hrows, h.one_approval first hfirst second hsecond (hfirstId.trans hsecondId.symm)]
            at hnodup
          simp at hnodup

theorem Lifecycle.approval_of_job (h : Lifecycle db) {job : AgentJob} (hjob : job ∈ db.jobs) :
    job.status = .awaitingApproval ↔
      ∃ approval ∈ db.approvals, approval.jobId = some job.id ∧ approval.status = .pending := by
  constructor
  · intro hawaiting
    obtain ⟨approval, happroval, hthis⟩ := h.parked job hjob hawaiting
    have hcoupled := (h.coupled_of_job happroval hjob hthis).2
    rw [hawaiting] at hcoupled
    exact ⟨approval, happroval, hthis, hcoupled.pending_of_awaiting⟩
  · rintro ⟨approval, happroval, hthis, hpending⟩
    have hcoupled := (h.coupled_of_job happroval hjob hthis).2
    rwa [hpending] at hcoupled

theorem Lifecycle.joinedJob_eq (h : Lifecycle db) {approval : Approval}
    (happroval : approval ∈ db.approvals) :
    ∃ job ∈ db.jobs, approval.jobId = some job.id ∧ approval.tenantId = job.tenantId ∧
      Coupled approval.status job.status ∧ joinedJob db approval = some job := by
  obtain ⟨job, hjob, hthis, htenant, hcoupled⟩ := h.coupled approval happroval
  refine ⟨job, hjob, hthis, htenant, hcoupled, ?_⟩
  rw [joinedJob, hthis, htenant]
  exact h.job?_eq hjob

/-- A public approval meets the predicate of the published ones. -/
theorem Lifecycle.published (h : Lifecycle db) {approval : Approval}
    (happroval : approval ∈ db.approvals) (hpublic : approval.status.isPublic = true) :
    publishedLifecycle approval (joinedJob db approval) = true := by
  obtain ⟨job, -, -, -, hcoupled, hjoined⟩ := h.joinedJob_eq happroval
  rw [hjoined]
  cases hstatus : approval.status <;>
    simp_all [publishedLifecycle, Coupled, ApprovalStatus.isPublic]

theorem Coupled.stateMatches {status : ApprovalStatus} {jobStatus : JobStatus}
    (h : Coupled status jobStatus) (hpublic : status.isPublic = true) :
    JobRead.approvalStateMatches jobStatus status = true := by
  cases status <;> simp_all [JobRead.approvalStateMatches, Coupled, ApprovalStatus.isPublic]

/-- The join of a job read finds the public approval of the job and no other. -/
theorem Lifecycle.publicApprovals_eq (h : Lifecycle db) {job : AgentJob} {approval : Approval}
    (hjob : job ∈ db.jobs) (happroval : approval ∈ db.approvals)
    (hthis : approval.jobId = some job.id) (hpublic : approval.status.isPublic = true) :
    JobRead.publicApprovals job db = [approval] := by
  have hmem : approval ∈ JobRead.publicApprovals job db := by
    refine List.mem_filter.2 ⟨happroval, ?_⟩
    simp [hthis, hpublic, (h.coupled_of_job happroval hjob hthis).1]
  have hlength : (JobRead.publicApprovals job db).length ≤ 1 := by
    refine le_trans (List.Sublist.length_le (List.monotone_filter_right _ ?_))
      (h.approvals_le_one job.id)
    intro row
    simp +contextual
  cases hrows : JobRead.publicApprovals job db with
  | nil => simp [hrows] at hmem
  | cons first rest =>
      rw [hrows] at hmem hlength
      cases rest with
      | nil =>
          simp only [List.mem_singleton] at hmem
          rw [hmem]
      | cons second rest => simp at hlength

/-- A job is read if its snapshots are dictionaries, and the read shows the public
approval of the job. -/
theorem Lifecycle.projectApproval_eq (h : Lifecycle db) {job : AgentJob} {approval : Approval}
    (hjob : job ∈ db.jobs) (happroval : approval ∈ db.approvals)
    (hthis : approval.jobId = some job.id) (hpublic : approval.status.isPublic = true) :
    ∃ read, JobRead.getReadForTenant job.id job.tenantId db = .ok read ∧
      (read.isSome ↔ (JobRead.asDict? job.sourceSnapshot).isSome ∧
        (JobRead.asDict? job.tenantConfigSnapshot).isSome) ∧
      ∀ row ∈ read, JobRead.projectApproval row = some ⟨approval.id, approval.status⟩ := by
  have hcoupled := (h.coupled_of_job happroval hjob hthis).2
  simp only [JobRead.getReadForTenant, h.job?_eq hjob,
    h.publicApprovals_eq hjob happroval hthis hpublic]
  split
  · rename_i hmissing
    refine ⟨none, rfl, ⟨by simp, ?_⟩, by simp⟩
    rintro ⟨hsource, hconfig⟩
    simp [Option.isNone_iff_eq_none, Option.isSome_iff_ne_none.1 hsource,
      Option.isSome_iff_ne_none.1 hconfig] at hmissing
  · rename_i hdicts
    refine ⟨_, rfl, ⟨fun _ => ?_, fun _ => rfl⟩, ?_⟩
    · simpa [not_or, Option.isSome_iff_ne_none] using hdicts
    rintro row hrow
    cases hrow
    simp [JobRead.projectApproval, JobRead.persistedRow, hcoupled.stateMatches hpublic]

/-! ## The lifecycle of every run -/

/-- What holds of the jobs and approvals of a database, and of what the services
do with them from there on. -/
structure LifecycleGuarantees (services : Services) (db : Db) : Prop where
  one_approval : ∀ job ∈ db.jobs,
    (db.approvals.filter fun approval => approval.jobId = some job.id).length ≤ 1
  owned : ∀ approval ∈ db.approvals, ∃ job ∈ db.jobs, approval.jobId = some job.id ∧
    approval.tenantId = job.tenantId
  pending : ∀ job ∈ db.jobs, job.status = .awaitingApproval ↔
    ∃ approval ∈ db.approvals, approval.jobId = some job.id ∧ approval.status = .pending
  staged : ∀ approval ∈ db.approvals, ∀ job ∈ db.jobs, approval.jobId = some job.id →
    approval.status = .staged → job.status = .queued ∨ job.status = .running
  decided : ∀ approval ∈ db.approvals, ∀ job ∈ db.jobs, approval.jobId = some job.id →
    approval.status = .approved ∨ approval.status = .rejected → job.status = .succeeded
  expired : ∀ approval ∈ db.approvals, ∀ job ∈ db.jobs, approval.jobId = some job.id →
    approval.status = .expired → job.status = .failed
  cancelled : ∀ approval ∈ db.approvals, ∀ job ∈ db.jobs, approval.jobId = some job.id →
    approval.status = .cancelled →
    job.status = .succeeded ∨ job.status = .failed ∨ job.status = .failedUncertain
  lease : ∀ job ∈ db.jobs, job.leaseExpiresAt.isSome ↔ job.status = .running
  finished : ∀ job ∈ db.jobs, job.finishedAt.isSome ↔
    job.status = .succeeded ∨ job.status = .failed ∨ job.status = .failedUncertain
  absorbing : ∀ job ∈ db.jobs,
    job.status = .succeeded ∨ job.status = .failed ∨ job.status = .failedUncertain →
    ∀ operations final, (lifecycleMachine services).run db operations = some final →
      job ∈ final.jobs ∧ ∀ row ∈ final.jobs, row.id = job.id → row = job
  published : ∀ approval ∈ db.approvals, approval.status.isPublic = true →
    publishedLifecycle approval (joinedJob db approval) = true
  visible : ∀ approval ∈ db.approvals, approval.status.isPublic = true → ∀ job ∈ db.jobs,
    approval.jobId = some job.id →
    ∃ read, JobRead.getReadForTenant job.id job.tenantId db = .ok read ∧
      (read.isSome ↔ (JobRead.asDict? job.sourceSnapshot).isSome ∧
        (JobRead.asDict? job.tenantConfigSnapshot).isSome) ∧
      ∀ row ∈ read, JobRead.projectApproval row = some ⟨approval.id, approval.status⟩
  expireDue_returns : ∀ now limit locked,
    (ApprovalRepository.expireDue now limit locked db).1 = .ok ()
  decide_finalizes : ∀ newId approvalId operator request now message,
    (ApprovalDecision.decide services newId approvalId operator request now db).1 ≠
      .error (.approvalCreationConflict message)

theorem JobStatus.isTerminal_iff (status : JobStatus) : status.isTerminal = true ↔
    status = .succeeded ∨ status = .failed ∨ status = .failedUncertain := by
  cases status <;> simp [JobStatus.isTerminal]

/-- A finished job is the same row at the end of every run. -/
theorem Lifecycle.absorbing (h : Lifecycle db) {job : AgentJob} (hjob : job ∈ db.jobs)
    (hterminal : job.status.isTerminal = true) (operations : List Operation) {final : Db}
    (hrun : (lifecycleMachine services).run db operations = some final) :
    job ∈ final.jobs ∧ ∀ row ∈ final.jobs, row.id = job.id → row = job := by
  have hmoves := h.run_moves operations hrun
  obtain ⟨row, hrow, hevolves⟩ := (hmoves.evolves h).jobs job hjob
  have hmem : job ∈ final.jobs := hevolves.absorbing hterminal ▸ hrow
  exact ⟨hmem, fun other hother hid => (h.moves hmoves).jobs_unique.eq hother hmem hid⟩

theorem Lifecycle.expireDue_returns (h : Lifecycle db) (now : Timestamp) (limit : ℕ)
    (locked : Uuid → Bool) : (ApprovalRepository.expireDue now limit locked db).1 = .ok () := by
  obtain ⟨next, hrun, -⟩ := h.expireDue_run now limit locked
  rw [hrun]

theorem Lifecycle.decide_finalizes (h : Lifecycle db) (newId approvalId : Uuid)
    (operator : Operator) (request : DecisionRequest) (now : Timestamp) (message : String) :
    (ApprovalDecision.decide services newId approvalId operator request now db).1 ≠
      .error (.approvalCreationConflict message) := by
  intro hraised
  cases hrun : ApprovalDecision.decide services newId approvalId operator request now db with
  | mk outcome next =>
      rw [hrun] at hraised
      dsimp only at hraised
      rw [hraised] at hrun
      rcases h.decide_error services newId operator request now hrun with ⟨herror, -⟩ | ⟨heq, -⟩
      · exact herror.2 message rfl
      · cases heq

/-- The job and approval tables stay coupled along every run of the operations,
whatever their order and arguments. -/
theorem lifecycle_guarantees (services : Services) (db : Db)
    (hreachable : (lifecycleMachine services).Reachable db) :
    LifecycleGuarantees services db := by
  have h := lifecycle_of_reachable hreachable
  have hcoupled : ∀ approval ∈ db.approvals, ∀ job ∈ db.jobs, approval.jobId = some job.id →
      Coupled approval.status job.status :=
    fun approval happroval job hjob hthis => (h.coupled_of_job happroval hjob hthis).2
  constructor
  · exact fun job _ => h.approvals_le_one job.id
  · intro approval happroval
    obtain ⟨job, hjob, hthis, htenant, -⟩ := h.coupled approval happroval
    exact ⟨job, hjob, hthis, htenant⟩
  · exact fun job hjob => h.approval_of_job hjob
  · intro approval happroval job hjob hthis hstatus
    simpa [hstatus, Coupled] using hcoupled approval happroval job hjob hthis
  · intro approval happroval job hjob hthis hstatus
    have hpair := hcoupled approval happroval job hjob hthis
    rcases hstatus with hstatus | hstatus <;> simpa [hstatus, Coupled] using hpair
  · intro approval happroval job hjob hthis hstatus
    simpa [hstatus, Coupled] using hcoupled approval happroval job hjob hthis
  · intro approval happroval job hjob hthis hstatus
    rw [← JobStatus.isTerminal_iff]
    simpa [hstatus, Coupled] using hcoupled approval happroval job hjob hthis
  · exact fun job hjob => (h.job_ok job hjob).lease
  · exact fun job hjob => (h.job_ok job hjob).finished.trans job.status.isTerminal_iff
  · intro job hjob hterminal operations final hrun
    exact h.absorbing hjob (job.status.isTerminal_iff.2 hterminal) operations hrun
  · exact fun approval happroval hpublic => h.published happroval hpublic
  · exact fun approval happroval hpublic job hjob hthis =>
      h.projectApproval_eq hjob happroval hthis hpublic
  · exact fun now limit locked => h.expireDue_returns now limit locked
  · exact fun newId approvalId operator request now message =>
      h.decide_finalizes newId approvalId operator request now message

/-! ### A run that parks a job -/

/-- A database without rows. -/
def emptyDb : Db := ⟨[], [], [], [], [], [], [], []⟩

/-- Services that resolve no stored profile and decode no document. -/
def noServices : Services := ⟨⟨fun _ => true, fun _ => true⟩, fun _ => none, fun _ _ => none⟩

def exampleNewJob : NewJob where
  id := 1
  tenantId := 7
  traceId := 2
  sourceSnapshot := .obj [("channel", .str "email"), ("subject", .str "s"), ("body", .str "b")]
  tenantConfigSnapshot := .obj []
  tenantConfigSha256 := "sha"
  riskSignals := .obj []
  availableAt := 0
  key := "k"
  requestHash := "h"

def exampleAction : PendingAction := ⟨1, "flag_for_review", [], []⟩

/-- Enqueue a job, claim it, request an approval and park it. -/
def parkingRun : List Operation :=
  [.enqueue exampleNewJob,
    .claimNext 0 60 [] fun _ => false,
    .createForRunningJob 3 7 1 1 exampleAction "requires_approval" 100 5,
    .recordAwaitingApprovalResult 1 (.obj []) 7 1]

theorem parkingRun_parks : ∃ db, (lifecycleMachine noServices).run emptyDb parkingRun = some db ∧
    db.jobs.map AgentJob.status = [.awaitingApproval] ∧
    db.approvals.map Approval.status = [.pending] :=
  ⟨_, rfl, by decide, by decide⟩

theorem lifecycle_guarantees_parked : ∃ db, (lifecycleMachine noServices).Reachable db ∧
    db.approvals.map Approval.status = [.pending] ∧ LifecycleGuarantees noServices db := by
  obtain ⟨db, hrun, -, happrovals⟩ := parkingRun_parks
  have hreachable : (lifecycleMachine noServices).Reachable db :=
    Machine.Reachable.run (.initial ⟨rfl, rfl⟩) parkingRun hrun
  exact ⟨db, hreachable, happrovals, lifecycle_guarantees noServices db hreachable⟩

end IntegraIntake
