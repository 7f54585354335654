import IntegraIntake.Jobs.Repository
import IntegraIntake.Lifecycle.Moves

/-!
# Job operations as moves

Every operation of the job repository is a sequence of moves of the lifecycle.
The approval of a running or queued job is staged, so an operation that ends the
attempt has exactly one row to cancel, or none.
-/

namespace IntegraIntake

open Library JobRepository

/-! ## The approval of a live job -/

theorem Coupled.staged_of_running {status : ApprovalStatus} (h : Coupled status .running) :
    status = .staged := by
  cases status <;> simp_all [Coupled, JobStatus.isTerminal]

theorem Coupled.staged_of_queued {status : ApprovalStatus} (h : Coupled status .queued) :
    status = .staged := by
  cases status <;> simp_all [Coupled, JobStatus.isTerminal]

theorem Coupled.pending_of_awaiting {status : ApprovalStatus}
    (h : Coupled status .awaitingApproval) : status = .pending := by
  cases status <;> simp_all [Coupled, JobStatus.isTerminal]

/-- A staged approval may be cancelled or published. -/
theorem ApprovalOk.withStatus {approval : Approval} (h : ApprovalOk approval)
    (hstaged : approval.status = .staged) {status : ApprovalStatus}
    (hstatus : status.isFinal = false) : ApprovalOk (approval.withStatus status) := by
  refine ⟨h.pending_action, h.config_sha256, h.expires_at, ?_, ?_, ?_⟩
  · have hexecuted := h.executed
    rw [hstaged] at hexecuted
    cases status <;> simp_all [Approval.withStatus, ApprovalStatus.isFinal]
  · cases status <;> simp_all [Approval.withStatus, ApprovalStatus.isFinal]
  · cases status <;> simp_all [Approval.withStatus, ApprovalStatus.isFinal]

variable {db : Db} {job changed : AgentJob}

/-- A move of one job that leaves its approval alone. -/
theorem Lifecycle.moves_setJob (h : Lifecycle db) (hjob : job ∈ db.jobs)
    (hmove : JobMove job changed) (hok : JobOk changed)
    (hstatus : changed.status ≠ .awaitingApproval)
    (hcoupled : ∀ status, Coupled status job.status → Coupled status changed.status) :
    Moves db (db.setJob changed) := by
  refine .single (.update hjob hmove hok rfl (.keep ?_ hstatus))
  intro approval happroval hthis
  exact hcoupled _ (h.coupled_of_job happroval hjob hthis).2

/-- A running job that ends cancels its staged approval. -/
theorem Lifecycle.moves_terminal (h : Lifecycle db) (hjob : job ∈ db.jobs)
    (hrunning : job.status = .running) (hmove : JobMove job changed) (hok : JobOk changed)
    (hterminal : changed.status.isTerminal = true) :
    Moves db ((cancelStagedApproval job.id job.tenantId db).setJob changed) := by
  rcases cancelStagedApproval_cases job.id job.tenantId db with
    ⟨hsame, hnone⟩ | ⟨approval, happroval, hthis, htenant, hstaged, hcancel⟩
  · rw [hsame]
    -- without a staged approval a running job has no approval at all
    refine .single (.update hjob hmove hok rfl (.keep ?_ ?_))
    · intro approval happroval hthis
      have hcoupled := h.coupled_of_job happroval hjob hthis
      rw [hrunning] at hcoupled
      exact absurd hcoupled.2.staged_of_running (hnone approval happroval hthis hcoupled.1)
    · intro hawaiting
      rw [hawaiting] at hterminal
      cases hterminal
  · rw [hcancel]
    exact .single (.update hjob hmove hok rfl (.set happroval hthis ⟨.inl hstaged, rfl, rfl, rfl⟩
      ((h.approval_ok approval happroval).withStatus hstaged rfl) hterminal))

/-! ## Operations -/

theorem insertJob_moves (new : NewJob) (db : Db) : Moves db (insertJob new db).2 := by
  rcases insertJob_cases new db with heq | ⟨hfresh, heq⟩
  · rw [heq]
    exact .refl
  · rw [heq]
    refine .single (.insert (rfl : new.row.status = .queued) ⟨by simp [NewJob.row], by
      simp [NewJob.row, JobStatus.isTerminal]⟩ ?_ rfl rfl)
    intro old hold hsame
    simp only [NewJob.violates, Bool.or_eq_false_iff, List.any_eq_false,
      decide_eq_true_eq] at hfresh
    exact hfresh.1 old hold (.inl hsame)

theorem Lifecycle.claimNext (h : Lifecycle db) (now leaseUntil : Timestamp) (excluded : List Uuid)
    (locked : Uuid → Bool) : Moves db (claimNext now leaseUntil excluded locked db).2 := by
  rcases claimNext_cases now leaseUntil excluded locked db with
    heq | ⟨job, hjob, hqueued, -, heq⟩
  · rw [heq]
    exact .refl
  · rw [heq]
    have hok := h.job_ok job hjob
    refine h.moves_setJob hjob ⟨by simp [hqueued, JobStatus.isTerminal], rfl, rfl, rfl, rfl⟩
      ⟨by simp [claimedRow], ?_⟩ (by simp [claimedRow]) ?_
    · have hfinished := hok.finished
      simp only [hqueued, JobStatus.isTerminal] at hfinished
      simpa [claimedRow, JobStatus.isTerminal] using hfinished
    · intro status hcoupled
      rw [hqueued] at hcoupled
      rw [hcoupled.staged_of_queued]
      exact .inr rfl

/-- An attempt's own job can be changed by a move. -/
theorem JobRepository.Owned.jobMove {jobId tenantId : Uuid} {attemptCount : ℕ}
    (howned : Owned db jobId tenantId attemptCount job) (hid : changed.id = job.id)
    (htenant : changed.tenantId = job.tenantId)
    (hsnapshot : changed.tenantConfigSnapshot = job.tenantConfigSnapshot)
    (hsha256 : changed.tenantConfigSha256 = job.tenantConfigSha256) : JobMove job changed :=
  ⟨by simp [howned.running, JobStatus.isTerminal], hid, htenant, hsnapshot, hsha256⟩

theorem Lifecycle.not_finished_of_running (h : Lifecycle db) (hjob : job ∈ db.jobs)
    (hrunning : job.status = .running) : job.finishedAt = none := by
  have hfinished := (h.job_ok job hjob).finished
  simp only [hrunning, JobStatus.isTerminal, Bool.false_eq_true, iff_false,
    Option.not_isSome_iff_eq_none] at hfinished
  exact hfinished

theorem Lifecycle.renewLease (h : Lifecycle db) (jobId tenantId : Uuid) (attemptCount : ℕ)
    (leaseUntil : Timestamp) :
    Moves db (renewLease jobId tenantId attemptCount leaseUntil db).2 := by
  rcases renewLease_cases jobId tenantId attemptCount leaseUntil db with heq | ⟨job, howned, heq⟩
  · rw [heq]
    exact .refl
  · rw [heq]
    refine h.moves_setJob howned.mem (howned.jobMove rfl rfl rfl rfl) ⟨?_, ?_⟩ ?_ fun _ h => h
    · simp [howned.running]
    · simp [howned.running, JobStatus.isTerminal,
        h.not_finished_of_running howned.mem howned.running]
    · simp [howned.running]

/-- Going back to the queue keeps a staged approval. -/
theorem Lifecycle.moves_requeued (h : Lifecycle db) (hjob : job ∈ db.jobs)
    (hrunning : job.status = .running) (errorCode : String) (availableAt : Timestamp) :
    Moves db (db.setJob (requeuedRow errorCode availableAt job)) := by
  refine h.moves_setJob hjob ⟨by simp [hrunning, JobStatus.isTerminal], rfl, rfl, rfl, rfl⟩
    ⟨by simp [requeuedRow], ?_⟩ (by simp [requeuedRow]) ?_
  · simp [requeuedRow, JobStatus.isTerminal, h.not_finished_of_running hjob hrunning]
  · intro status hcoupled
    rw [hrunning] at hcoupled
    rw [hcoupled.staged_of_running]
    exact .inl rfl

theorem Lifecycle.scheduleRetry (h : Lifecycle db) (jobId : Uuid) (errorCode : String)
    (availableAt : Timestamp) (tenantId : Uuid) (attemptCount : ℕ) :
    Moves db (scheduleRetry jobId errorCode availableAt tenantId attemptCount db).2 := by
  rcases scheduleRetry_cases jobId errorCode availableAt tenantId attemptCount db with
    ⟨error, heq⟩ | ⟨job, howned, heq⟩
  · rw [heq]
    exact .refl
  · rw [heq]
    exact h.moves_requeued howned.mem howned.running errorCode availableAt

theorem Lifecycle.markTerminal (h : Lifecycle db) (jobId : Uuid) {status : JobStatus}
    (hterminal : status.isTerminal = true) (now : Timestamp) (tenantId : Uuid) (attemptCount : ℕ)
    (result : Option Json) (errorCode : Option String) :
    Moves db (markTerminal jobId status now tenantId attemptCount result errorCode db).2 := by
  rcases markTerminal_cases jobId status now tenantId attemptCount result errorCode db with
    ⟨error, heq⟩ | ⟨job, howned, heq⟩
  · rw [heq]
    exact .refl
  · rw [heq, ← howned.id_eq, ← howned.tenant_eq]
    refine h.moves_terminal howned.mem howned.running (howned.jobMove rfl rfl rfl rfl)
      ⟨?_, by simp [terminalRow, hterminal]⟩ hterminal
    simp only [terminalRow, Option.isSome_none, Bool.false_eq_true, false_iff]
    rintro rfl
    cases hterminal

theorem Lifecycle.recordAwaitingApprovalResult (h : Lifecycle db) (jobId : Uuid) (result : Json)
    (tenantId : Uuid) (attemptCount : ℕ) :
    Moves db (recordAwaitingApprovalResult jobId result tenantId attemptCount db).2 := by
  rcases recordAwaitingApprovalResult_cases jobId result tenantId attemptCount db with
    ⟨error, heq⟩ | ⟨job, approval, howned, happroval, hthis, -, hstaged, heq⟩
  · rw [heq]
    exact .refl
  · rw [heq]
    have hparked : JobOk (parkedRow result job) :=
      ⟨by simp [parkedRow], by simp [parkedRow, JobStatus.isTerminal]⟩
    have hmove : JobMove job (parkedRow result job) := howned.jobMove rfl rfl rfl rfl
    exact .single (.update howned.mem hmove hparked rfl
      (.set happroval (by rw [hthis, howned.id_eq]) ⟨.inl hstaged, rfl, rfl, rfl⟩
        ((h.approval_ok approval happroval).withStatus hstaged rfl) rfl))

/-! ## Lease recovery -/

theorem Lifecycle.recoverLease (h : Lifecycle db) (hjob : job ∈ db.jobs)
    (hrunning : job.status = .running) (now : Timestamp) (maxRetries : ℕ) (retryDelay : ℤ) :
    Moves db (recoverLease now maxRetries retryDelay db job) := by
  have hlost : ∀ status errorCode, status.isTerminal = true →
      Moves db ((cancelStagedApproval job.id job.tenantId db).setJob
        (lostRow status errorCode now job)) := by
    intro status errorCode hterminal
    refine h.moves_terminal hjob hrunning ⟨by simp [hrunning, JobStatus.isTerminal], rfl, rfl, rfl,
      rfl⟩ ⟨?_, by simp [lostRow, hterminal]⟩ hterminal
    simp only [lostRow, Option.isSome_none, Bool.false_eq_true, false_iff]
    rintro rfl
    cases hterminal
  unfold JobRepository.recoverLease
  split
  · exact hlost _ _ rfl
  · split
    · exact h.moves_requeued hjob hrunning _ _
    · exact hlost _ _ rfl

theorem setJob_jobs (db : Db) (job : AgentJob) :
    (db.setJob job).jobs = Table.replace AgentJob.id job db.jobs := rfl

theorem cancelStagedApproval_jobs (jobId tenantId : Uuid) (db : Db) :
    (cancelStagedApproval jobId tenantId db).jobs = db.jobs := by
  unfold cancelStagedApproval
  split <;> rfl

/-- The row that recovering the lease of a job leaves. -/
def recoveredRow (now : Timestamp) (maxRetries : ℕ) (retryDelay : ℤ) (job : AgentJob) : AgentJob :=
  if job.sideEffectCommittedAt.isSome then
    lostRow .failedUncertain .leaseExpiredAfterSideEffect now job
  else if job.attemptCount ≤ maxRetries then
    requeuedRow WorkerErrorCode.leaseExpired.value (now + retryDelay) job
  else lostRow .failed .retryExhausted now job

theorem recoveredRow_id (now : Timestamp) (maxRetries : ℕ) (retryDelay : ℤ) (job : AgentJob) :
    (recoveredRow now maxRetries retryDelay job).id = job.id := by
  unfold recoveredRow
  split_ifs <;> rfl

/-- Recovering one lease replaces one job row. -/
theorem recoverLease_jobs (now : Timestamp) (maxRetries : ℕ) (retryDelay : ℤ) (db : Db)
    (job : AgentJob) : (JobRepository.recoverLease now maxRetries retryDelay db job).jobs =
      Table.replace AgentJob.id (recoveredRow now maxRetries retryDelay job) db.jobs := by
  unfold JobRepository.recoverLease recoveredRow
  split_ifs
  · rw [setJob_jobs, cancelStagedApproval_jobs]
  · rfl
  · rw [setJob_jobs, cancelStagedApproval_jobs]

/-- The loop over the selected rows: the rows still to come are untouched. -/
theorem Lifecycle.foldl_recoverLease (now : Timestamp) (maxRetries : ℕ) (retryDelay : ℤ)
    (selected : List AgentJob) (hunique : Table.Unique AgentJob.id selected) (db : Db)
    (h : Lifecycle db) (hselected : ∀ job ∈ selected, job ∈ db.jobs ∧ job.status = .running) :
    Moves db (selected.foldl (JobRepository.recoverLease now maxRetries retryDelay) db) := by
  induction selected generalizing db with
  | nil => exact .refl
  | cons job rest ih =>
      obtain ⟨hjob, hrunning⟩ := hselected job List.mem_cons_self
      have hmoves := h.recoverLease hjob hrunning now maxRetries retryDelay
      rw [Table.Unique, List.map_cons, List.nodup_cons] at hunique
      refine hmoves.trans (ih hunique.2 _ (h.moves hmoves) ?_)
      intro other hother
      obtain ⟨hmem, hrun⟩ := hselected other (List.mem_cons_of_mem _ hother)
      refine ⟨?_, hrun⟩
      rw [recoverLease_jobs]
      refine Table.mem_replace_of_ne hmem ?_
      intro hsame
      exact hunique.1 (List.mem_map.2 ⟨other, hother, hsame.trans (recoveredRow_id ..)⟩)

theorem Lifecycle.recoverExpiredLeases (h : Lifecycle db) (now : Timestamp) (maxRetries : ℕ)
    (retryDelay : ℤ) (locked : Uuid → Bool) :
    Moves db (recoverExpiredLeases now maxRetries retryDelay locked db) := by
  refine Lifecycle.foldl_recoverLease now maxRetries retryDelay _ ?_ db h ?_
  · exact List.Nodup.sublist (List.Sublist.map _ List.filter_sublist) h.jobs_unique
  · intro job hjob
    obtain ⟨hmem, hexpired⟩ := List.mem_filter.1 hjob
    simp only [leaseExpired, decide_eq_true_eq] at hexpired
    exact ⟨hmem, hexpired.1⟩

end IntegraIntake
