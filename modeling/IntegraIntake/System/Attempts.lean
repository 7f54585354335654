import IntegraIntake.System.Replay

/-!
# The attempts of a job

Two paths put a running job back into the queue: the retry of its worker, which
compares `attempt_count > max_retries`, and lease recovery, which compares
`attempt_count <= max_retries`.  They race with each other and with the next
claim.  The history of a job is the sequence of its claims and requeues; it
alternates, and the row of the job says where it stands.
-/

namespace IntegraIntake

open Library JobRepository ApprovalRepository ApprovalDecision

/-! ## The rows that keep their attempt -/

/-- What becomes of a row in a step that claims nothing: the attempt stays, and a
row is queued only if it was, or if its attempt is one that may be requeued. -/
structure Steady (mayRequeue : ℕ → Prop) (job row : AgentJob) : Prop where
  id_eq : row.id = job.id
  attempt_eq : row.attemptCount = job.attemptCount
  stays : job.status = .queued → row.status = .queued
  requeued : row.status = .queued →
    job.status = .queued ∨ (job.status = .running ∧ mayRequeue job.attemptCount)

/-- Every row after the step comes from one before it. -/
def SteadyRows (mayRequeue : ℕ → Prop) (db next : Db) : Prop :=
  ∀ row ∈ next.jobs, ∃ job ∈ db.jobs, Steady mayRequeue job row

section Steady

variable {mayRequeue : ℕ → Prop} {db next : Db} {job row changed : AgentJob}

theorem Steady.refl (job : AgentJob) : Steady mayRequeue job job :=
  ⟨rfl, rfl, fun h => h, fun h => .inl h⟩

/-- A live row that is not queued becomes another one that is not queued. -/
theorem Steady.of_not_queued (hid : row.id = job.id)
    (hattempt : row.attemptCount = job.attemptCount)
    (hjob : job.status ≠ .queued) (hrow : row.status ≠ .queued) : Steady mayRequeue job row :=
  ⟨hid, hattempt, fun h => absurd h hjob, fun h => absurd h hrow⟩

theorem SteadyRows.of_eq (hjobs : next.jobs = db.jobs) : SteadyRows mayRequeue db next := by
  intro row hrow
  rw [hjobs] at hrow
  exact ⟨row, hrow, .refl row⟩

theorem SteadyRows.of_replace (hjob : job ∈ db.jobs) (hsteady : Steady mayRequeue job changed)
    (hjobs : next.jobs = Table.replace AgentJob.id changed db.jobs) :
    SteadyRows mayRequeue db next := by
  intro row hrow
  rw [hjobs] at hrow
  rcases Table.mem_of_mem_replace hrow with rfl | ⟨hold, -⟩
  · exact ⟨job, hjob, hsteady⟩
  · exact ⟨row, hold, .refl row⟩

/-- Steps that requeue nothing compose. -/
theorem SteadyRows.trans {middle : Db} (h : SteadyRows (fun _ => False) db middle)
    (h' : SteadyRows (fun _ => False) middle next) : SteadyRows (fun _ => False) db next := by
  intro row hrow
  obtain ⟨between, hbetween, hsecond⟩ := h' row hrow
  obtain ⟨job, hjob, hfirst⟩ := h between hbetween
  refine ⟨job, hjob, hsecond.id_eq.trans hfirst.id_eq,
    hsecond.attempt_eq.trans hfirst.attempt_eq, fun hqueued => hsecond.stays (hfirst.stays hqueued),
    fun hqueued => ?_⟩
  rcases hsecond.requeued hqueued with hbefore | ⟨-, hfalse⟩
  · exact hfirst.requeued hbefore
  · exact hfalse.elim

theorem SteadyRows.mono {wider : ℕ → Prop} (hwider : ∀ n, mayRequeue n → wider n)
    (h : SteadyRows mayRequeue db next) : SteadyRows wider db next := by
  intro row hrow
  obtain ⟨job, hjob, hsteady⟩ := h row hrow
  refine ⟨job, hjob, hsteady.id_eq, hsteady.attempt_eq, hsteady.stays, fun hqueued => ?_⟩
  rcases hsteady.requeued hqueued with hbefore | ⟨hrunning, hmay⟩
  · exact .inl hbefore
  · exact .inr ⟨hrunning, hwider _ hmay⟩

/-! ### The operations -/

theorem not_queued_of_terminal {status : JobStatus} (h : status.isTerminal = true) :
    status ≠ .queued := by
  rintro rfl
  cases h

theorem JobRepository.Owned.not_queued {jobId tenantId : Uuid} {attemptCount : ℕ}
    (h : Owned db jobId tenantId attemptCount job) : job.status ≠ .queued := by
  rw [h.running]
  decide

theorem renewLease_steady (jobId tenantId : Uuid) (attemptCount : ℕ) (leaseUntil : Timestamp)
    (db : Db) :
    SteadyRows mayRequeue db
    (JobRepository.renewLease jobId tenantId attemptCount leaseUntil db).2 := by
  rcases renewLease_cases jobId tenantId attemptCount leaseUntil db with heq | ⟨job, howned, heq⟩
  · rw [heq]
    exact .of_eq rfl
  · rw [heq]
    have hsteady : Steady mayRequeue job { job with leaseExpiresAt := some leaseUntil } :=
      .of_not_queued rfl rfl howned.not_queued howned.not_queued
    exact .of_replace howned.mem hsteady rfl

theorem createForRunningJob_steady (newId tenantId jobId : Uuid) (attemptCount : ℕ)
    (action : PendingAction) (policyReason : String) (expiresIn : ℤ) (now : Timestamp) (db : Db) :
    SteadyRows mayRequeue db (createForRunningJob newId tenantId jobId attemptCount action
      policyReason expiresIn now db).2 := by
  rcases createForRunningJob_cases newId tenantId jobId attemptCount action policyReason expiresIn
    now db with ⟨error, heq⟩ | ⟨job, result, events, -,
      ⟨existing, row, -, -, -, -, heq⟩ | ⟨-, heq⟩⟩ <;>
    rw [heq] <;> exact .of_eq rfl

theorem markTerminal_steady (jobId : Uuid) (status : JobStatus)
    (hterminal : status.isTerminal = true) (now : Timestamp) (tenantId : Uuid) (attemptCount : ℕ)
    (result : Option Json) (errorCode : Option String) (db : Db) :
    SteadyRows mayRequeue db
      (JobRepository.markTerminal jobId status now tenantId attemptCount result
        errorCode db).2 := by
  rcases markTerminal_cases jobId status now tenantId attemptCount result errorCode db with
    ⟨error, heq⟩ | ⟨job, howned, heq⟩
  · rw [heq]
    exact .of_eq rfl
  · rw [heq]
    have hsteady : Steady mayRequeue job (terminalRow status now result errorCode job) :=
      .of_not_queued rfl rfl howned.not_queued (not_queued_of_terminal hterminal)
    refine .of_replace howned.mem hsteady ?_
    rw [setJob_jobs, cancelStagedApproval_jobs]

/-- What a final write may requeue: the attempt of its claim, if it is a retry. -/
def FinalWrite.MayRequeue (claim : AgentJob) : FinalWrite → ℕ → Prop
  | .retry _, attempt => attempt = claim.attemptCount
  | _, _ => False

theorem FinalWrite.run_steady (write : FinalWrite) (claim : AgentJob) (now availableAt : Timestamp)
    (db : Db) : SteadyRows (write.MayRequeue claim) db (write.run claim now availableAt db).2 := by
  cases write with
  | retry errorCode =>
      rcases scheduleRetry_cases claim.id errorCode availableAt claim.tenantId claim.attemptCount db
        with ⟨error, heq⟩ | ⟨job, howned, heq⟩
      · simp only [FinalWrite.run, heq]
        exact .of_eq rfl
      · simp only [FinalWrite.run, heq]
        have hsteady : Steady (FinalWrite.MayRequeue claim (.retry errorCode)) job
            (requeuedRow errorCode availableAt job) :=
          ⟨rfl, rfl, fun _ => rfl, fun _ => .inr ⟨howned.running, howned.attempt_eq⟩⟩
        exact .of_replace howned.mem hsteady rfl
  | fail errorCode => exact markTerminal_steady _ .failed rfl _ _ _ _ _ _
  | uncertain errorCode => exact markTerminal_steady _ .failedUncertain rfl _ _ _ _ _ _
  | succeed result => exact markTerminal_steady _ .succeeded rfl _ _ _ _ _ _
  | park result =>
      rcases recordAwaitingApprovalResult_cases claim.id result claim.tenantId claim.attemptCount db
        with ⟨error, heq⟩ | ⟨job, approval, howned, -, -, -, -, heq⟩
      · simp only [FinalWrite.run, heq]
        exact .of_eq rfl
      · simp only [FinalWrite.run, heq]
        have hsteady : Steady (FinalWrite.MayRequeue claim (.park result)) job
            (parkedRow result job) :=
          .of_not_queued rfl rfl howned.not_queued (by simp [parkedRow])
        exact .of_replace howned.mem hsteady rfl

theorem recoveredRow_steady {job : AgentJob} (hrunning : job.status = .running) (now : Timestamp)
    (maxRetries : ℕ) (retryDelay : ℤ) :
    Steady (· ≤ maxRetries) job (recoveredRow now maxRetries retryDelay job) := by
  have hjob : job.status ≠ .queued := by
    rw [hrunning]
    decide
  unfold recoveredRow
  split_ifs with hmarker hle
  · exact .of_not_queued rfl rfl hjob (not_queued_of_terminal rfl)
  · exact ⟨rfl, rfl, fun _ => rfl, fun _ => .inr ⟨hrunning, hle⟩⟩
  · exact .of_not_queued rfl rfl hjob (not_queued_of_terminal rfl)

theorem Lifecycle.recoverExpiredLeases_steady (h : Lifecycle db) (now : Timestamp)
    (maxRetries : ℕ) (retryDelay : ℤ) (skipped : Uuid → Bool) :
    SteadyRows (· ≤ maxRetries) db
      (JobRepository.recoverExpiredLeases now maxRetries retryDelay skipped db) := by
  intro row hrow
  rw [h.recoverExpiredLeases_jobs now maxRetries retryDelay skipped] at hrow
  obtain ⟨job, hjob, rfl⟩ := List.mem_map.1 hrow
  refine ⟨job, hjob, ?_⟩
  split
  · rename_i hselected
    obtain ⟨other, hother, hid⟩ := List.mem_map.1 hselected
    obtain ⟨hmem, hexpired⟩ := List.mem_filter.1 hother
    rw [h.jobs_unique.eq hmem hjob hid] at hexpired
    have hrunning : job.status = .running := by
      simp only [leaseExpired, decide_eq_true_eq] at hexpired
      exact hexpired.1
    exact recoveredRow_steady hrunning now maxRetries retryDelay
  · exact .refl job

/-- The end of a parked job. -/
theorem Parked.steady {approval : Approval} (hparked : Parked db approval job) (changed : AgentJob)
    (hid : changed.id = job.id) (hattempt : changed.attemptCount = job.attemptCount)
    (hterminal : changed.status.isTerminal = true)
    (hjobs : next.jobs = Table.replace AgentJob.id changed db.jobs) :
    SteadyRows mayRequeue db next := by
  have hjob : job.status ≠ .queued := by
    rw [hparked.awaiting]
    decide
  exact .of_replace hparked.job_mem
    (.of_not_queued hid hattempt hjob (not_queued_of_terminal hterminal)) hjobs

theorem Expirations.steady {now : Timestamp} {selected : List Approval}
    (hexpired : Expirations now db selected next) : SteadyRows (fun _ => False) db next := by
  induction hexpired with
  | nil db => exact .of_eq rfl
  | @cons db next approval job rest hparked _ _ ih =>
      exact SteadyRows.trans (hparked.steady (decidedRow (expiredRow now approval) job now .failed
        (some .approvalExpired) "approval_expired") rfl rfl rfl rfl) ih

theorem Lifecycle.expireDue_steady (h : Lifecycle db) (now : Timestamp) (limit : ℕ)
    (skipped : Uuid → Bool) :
    SteadyRows (fun _ => False) db (ApprovalRepository.expireDue now limit skipped db).2 := by
  obtain ⟨next, hrun, hexpired⟩ := h.expireDue_expirations now limit skipped
  rw [hrun]
  exact hexpired.steady

theorem Lifecycle.decide_steady (h : Lifecycle db) (services : Services) (newId approvalId : Uuid)
    (operator : Operator) (request : DecisionRequest) (now : Timestamp) :
    SteadyRows mayRequeue db
      (ApprovalDecision.decide services newId approvalId operator request now db).2 := by
  rw [decide_eq]
  cases hfound : getForTenant approvalId operator.tenantId db with
  | none => exact .of_eq rfl
  | some approval =>
      rcases h.decideHolding_cases (getForTenant_eq_some hfound).1 services newId operator request
        now with ⟨error, next, -, heq⟩ | ⟨verdict, next, -, hdecided, heq⟩
      · dsimp only
        rw [heq]
        exact .of_eq rfl
      · dsimp only
        rw [heq, report_state]
        cases hdecided with
        | reused => exact .of_eq rfl
        | expired hparked => exact hparked.steady (decidedRow _ _ now .failed _ _) rfl rfl rfl rfl
        | rejected hparked =>
          exact hparked.steady (decidedRow _ _ now .succeeded _ _) rfl rfl rfl rfl
        | @approved job _ action executed working hparked _ _ hexecute =>
            have htables := execute_tables hexecute
            simp only [lifecycleTables, Prod.mk.injEq] at htables
            obtain ⟨capability, _, _, -, -, -, -, hjob, -⟩ := execute_ok hexecute
            have hid : executed.job.id = job.id := by rw [hjob]
            have hattempt : executed.job.attemptCount = job.attemptCount := by rw [hjob]
            refine hparked.steady
              (decidedRow (approvedRow operator request now executed) executed.job
              now .succeeded none "tool_result") hid hattempt rfl ?_
            rw [← htables.1]
            rfl

end Steady

/-- The attempts that a step may put back into the queue. -/
def SystemStep.MayRequeue (state : SystemState) : SystemStep → ℕ → Prop
  | .write worker _ _, attempt => ∃ claim write, state.workers worker = .writing claim write ∧
      write.MayRequeue claim attempt
  | .recover _ maxRetries _, attempt => attempt ≤ maxRetries
  | _, _ => False

/-- Every step but an insert and a claim keeps the attempts of the rows. -/
theorem SystemTaken.steady {services : Services} {state next : SystemState} {label : SystemStep}
    (h : SystemInvariant state) (htaken : SystemTaken services state label next)
    (hinsert : ∀ new, label ≠ .enqueue new)
    (hclaim : ∀ worker now leaseUntil excluded, label ≠ .claim worker now leaseUntil excluded) :
    SteadyRows (label.MayRequeue state) state.db next.db := by
  cases htaken with
  | enqueue => exact absurd rfl (hinsert _)
  | claim => exact absurd rfl (hclaim _ _ _ _)
  | renewLease => exact renewLease_steady _ _ _ _ _
  | requestApproval => exact createForRunningJob_steady _ _ _ _ _ _ _ _ _
  | @write worker now availableAt claim write hworker =>
      exact (write.run_steady claim now availableAt state.db).mono fun _ hmay =>
        ⟨claim, write, hworker, hmay⟩
  | recover => exact h.lifecycle.recoverExpiredLeases_steady _ _ _ _
  | decide => exact h.lifecycle.decide_steady _ _ _ _ _ _
  | expireDue => exact h.lifecycle.expireDue_steady _ _ _
  | @portCommit port now attempt writes job hport =>
      have howns := (h.fenced _ _ _ _ hport).1
      have hsteady : Steady (SystemStep.MayRequeue state (.portCommit port now)) job
          (markedRow now job) :=
        .of_not_queued rfl rfl howns.not_queued howns.not_queued
      refine .of_replace howns.mem hsteady ?_
      rw [← writes.apply_jobs state.db]
      rfl
  | runEnds | inspect | stop | portBegin | portOpen | portInsert | portRefused | portFence
  | portAbort => exact .of_eq rfl

/-! ## The history of a job -/

/-- Who put a job back into the queue. -/
inductive Requeuer where
  | worker
  | recovery
  deriving DecidableEq

/-- What a step does to the attempts of a job. -/
inductive AttemptEvent where
  | claimed (attempt : ℕ)
  | requeued (requeuer : Requeuer) (attempt : ℕ)
  deriving DecidableEq

/-- The running row of the job has become a queued one. -/
def requeueEvent? (requeuer : Requeuer) (jobId : Uuid) (db next : Db) : Option AttemptEvent :=
  match Table.lookup AgentJob.id jobId db.jobs, Table.lookup AgentJob.id jobId next.jobs with
  | some job, some row =>
    if job.status = .running ∧ row.status = .queued then
      some (.requeued requeuer job.attemptCount)
    else none
  | _, _ => none

/-- What a transition does to the attempts of a job: `claim_next` returns it to a
worker, or a worker's final write or lease recovery requeues it. -/
def attemptEvent? (jobId : Uuid) : SystemState × SystemStep × SystemState → Option AttemptEvent
  | (_, .claim worker _ _ _, next) =>
    match (next.workers worker).claim? with
    | some claim => if claim.id = jobId then some (.claimed claim.attemptCount) else none
    | none => none
  | (state, .write _ _ _, next) => requeueEvent? .worker jobId state.db next.db
  | (state, .recover _ _ _, next) => requeueEvent? .recovery jobId state.db next.db
  | _ => none

/-- The events of a job along a path. -/
def attemptEvents (jobId : Uuid) (transitions : List (SystemState × SystemStep × SystemState)) :
    List AttemptEvent :=
  transitions.filterMap (attemptEvent? jobId)

/-- The histories of a job with `n` attempts, which is queued or not: claims and
requeues alternate, and each requeue is of the attempt claimed before it. -/
inductive AttemptHistory : ℕ → Bool → List AttemptEvent → Prop
  | new : AttemptHistory 0 true []
  | claimed {n : ℕ} {events : List AttemptEvent} : AttemptHistory n true events →
      AttemptHistory (n + 1) false (events ++ [.claimed (n + 1)])
  | requeued {n : ℕ} {events : List AttemptEvent} (requeuer : Requeuer) :
      AttemptHistory n false events → AttemptHistory n true (events ++ [.requeued requeuer n])

/-- How the event of a step goes with the change of the row. -/
inductive AttemptStep (job row : AgentJob) : Option AttemptEvent → Prop
  | claimed : job.status = .queued → row.status ≠ .queued →
      row.attemptCount = job.attemptCount + 1 →
      AttemptStep job row (some (.claimed (job.attemptCount + 1)))
  | requeued (requeuer : Requeuer) : job.status = .running → row.status = .queued →
      row.attemptCount = job.attemptCount →
      AttemptStep job row (some (.requeued requeuer job.attemptCount))
  | kept : row.attemptCount = job.attemptCount → (row.status = .queued ↔ job.status = .queued) →
      AttemptStep job row none

section Events

variable {services : Services} {state next : SystemState} {label : SystemStep}
  {job row : AgentJob}

theorem requeueEvent?_eq {db after : Db} (hunique : Table.Unique AgentJob.id db.jobs)
    (hafter : Table.Unique AgentJob.id after.jobs) (hjob : job ∈ db.jobs) (hrow : row ∈ after.jobs)
    (hid : row.id = job.id) (requeuer : Requeuer) :
    requeueEvent? requeuer row.id db after =
      if job.status = .running ∧ row.status = .queued then
        some (.requeued requeuer job.attemptCount)
      else none := by
  have hbefore : Table.lookup AgentJob.id row.id db.jobs = some job := by
    rw [hid]
    exact hunique.lookup_eq hjob
  rw [requeueEvent?, hbefore, hafter.lookup_eq hrow]

/-- The rows of a step that may requeue. -/
theorem Steady.attemptStep {mayRequeue : ℕ → Prop} (h : Steady mayRequeue job row)
    (requeuer : Requeuer) :
    AttemptStep job row (if job.status = .running ∧ row.status = .queued then
      some (.requeued requeuer job.attemptCount) else none) := by
  split_ifs with hrequeued
  · exact .requeued requeuer hrequeued.1 hrequeued.2 h.attempt_eq
  · refine .kept h.attempt_eq ⟨fun hqueued => ?_, h.stays⟩
    rcases h.requeued hqueued with hbefore | ⟨hrunning, -⟩
    · exact hbefore
    · exact absurd ⟨hrunning, hqueued⟩ hrequeued

/-- The rows of a step that requeues nothing. -/
theorem Steady.attemptStep_none (h : Steady (fun _ => False) job row) :
    AttemptStep job row none := by
  refine .kept h.attempt_eq ⟨fun hqueued => ?_, h.stays⟩
  rcases h.requeued hqueued with hbefore | ⟨-, hfalse⟩
  · exact hbefore
  · exact hfalse.elim

/-- The job that a claim returns, before and after. -/
theorem SystemTaken.claimed_row {worker : ℕ} {now leaseUntil : Timestamp} {excluded : List Uuid}
    (htaken : SystemTaken services state (.claim worker now leaseUntil excluded) next) :
    ∃ job ∈ state.db.jobs, job.status = .queued ∧
      (next.workers worker).claim? = some (claimedRow now leaseUntil job) ∧
      next.db.jobs = Table.replace AgentJob.id (claimedRow now leaseUntil job) state.db.jobs := by
  cases htaken with
  | claim hidle hclaim =>
      rcases claimNext_cases now leaseUntil excluded state.lockedJobs state.db with
        heq | ⟨job, hjob, hqueued, -, heq⟩
      · rw [heq] at hclaim
        cases hclaim
      · rw [heq] at hclaim
        cases hclaim
        refine ⟨job, hjob, hqueued, ?_, rfl⟩
        simp only [SystemState.setWorker, Function.update_self, WorkerStage.claim?]

/-- The rows after a step, each with the row it comes from and the event that
goes with the change; a row that comes from none is new. -/
theorem SystemTaken.attempts (h : SystemInvariant state)
    (htaken : SystemTaken services state label next) (hrow : row ∈ next.db.jobs) :
    (∃ job ∈ state.db.jobs, row.id = job.id ∧
        AttemptStep job row (attemptEvent? row.id (state, label, next))) ∨
      ((∀ job ∈ state.db.jobs, job.id ≠ row.id) ∧ row.status = .queued ∧ row.attemptCount = 0 ∧
        attemptEvent? row.id (state, label, next) = none) := by
  have hnext := h.step htaken
  -- the steps that requeue nothing and have no event
  have hquiet : SteadyRows (fun _ => False) state.db next.db →
      ∃ job ∈ state.db.jobs, row.id = job.id ∧ AttemptStep job row none := by
    intro hsteady
    obtain ⟨job, hjob, hstep⟩ := hsteady row hrow
    exact ⟨job, hjob, hstep.id_eq, hstep.attemptStep_none⟩
  -- the steps that may requeue
  have hrequeue : ∀ {mayRequeue : ℕ → Prop} (requeuer : Requeuer),
      SteadyRows mayRequeue state.db next.db → ∃ job ∈ state.db.jobs, row.id = job.id ∧
        AttemptStep job row (requeueEvent? requeuer row.id state.db next.db) := by
    intro mayRequeue requeuer hsteady
    obtain ⟨job, hjob, hstep⟩ := hsteady row hrow
    refine ⟨job, hjob, hstep.id_eq, ?_⟩
    rw [requeueEvent?_eq h.lifecycle.jobs_unique hnext.lifecycle.jobs_unique hjob hrow hstep.id_eq]
    exact hstep.attemptStep requeuer
  cases label with
  | enqueue new =>
      cases htaken with
      | enqueue =>
          rcases insertJob_cases new state.db with heq | ⟨hfresh, heq⟩
          · refine .inl (hquiet (.of_eq ?_))
            rw [SystemState.setDb, heq]
          · rw [SystemState.setDb, heq] at hrow
            rcases List.mem_append.1 hrow with hold | hnew
            · exact .inl ⟨row, hold, rfl, .kept rfl Iff.rfl⟩
            · rw [List.mem_singleton.1 hnew]
              refine .inr ⟨fun job hjob hid => ?_, rfl, rfl, rfl⟩
              simp only [NewJob.violates, Bool.or_eq_false_iff, List.any_eq_false,
                decide_eq_true_eq] at hfresh
              exact hfresh.1 job hjob (.inl hid)
  | claim worker now leaseUntil excluded =>
      obtain ⟨job, hjob, hqueued, hclaim, hjobs⟩ := htaken.claimed_row
      rw [hjobs] at hrow
      rcases Table.mem_of_mem_replace hrow with rfl | ⟨hold, hother⟩
      · refine .inl ⟨job, hjob, rfl, ?_⟩
        simp only [attemptEvent?, hclaim, if_true]
        exact .claimed hqueued (by simp [claimedRow]) rfl
      · refine .inl ⟨row, hold, rfl, ?_⟩
        simp only [attemptEvent?, hclaim, if_neg hother.symm]
        exact .kept rfl Iff.rfl
  | write worker now availableAt =>
      exact .inl (hrequeue .worker (htaken.steady h (by simp) (by simp)))
  | recover now maxRetries retryDelay =>
      exact .inl (hrequeue .recovery (htaken.steady h (by simp) (by simp)))
  | renewLease | requestApproval | runEnds | inspect | stop | decide | expireDue | portBegin
  | portOpen | portInsert | portFence | portCommit | portAbort =>
      exact .inl (hquiet (htaken.steady h (by simp) (by simp)))

/-- A requeued attempt is one that the step may requeue. -/
theorem SystemTaken.requeued_may {jobId : Uuid} {requeuer : Requeuer} {attempt : ℕ}
    (h : SystemInvariant state) (htaken : SystemTaken services state label next)
    (hevent : attemptEvent? jobId (state, label, next) = some (.requeued requeuer attempt)) :
    label.MayRequeue state attempt := by
  have hnext := h.step htaken
  have hrequeue : ∀ {mayRequeue : ℕ → Prop} {other : Requeuer},
      SteadyRows mayRequeue state.db next.db →
      requeueEvent? other jobId state.db next.db = some (.requeued requeuer attempt) →
      mayRequeue attempt := by
    intro mayRequeue other hsteady hsome
    unfold requeueEvent? at hsome
    split at hsome
    · rename_i job row hjob hrow
      split_ifs at hsome with hstatus
      cases hsome
      obtain ⟨origin, horigin, hstep⟩ := hsteady row (Table.mem_of_lookup hrow)
      have hid : origin.id = job.id := by
        rw [← hstep.id_eq, Table.key_of_lookup hrow, Table.key_of_lookup hjob]
      rw [h.lifecycle.jobs_unique.eq horigin (Table.mem_of_lookup hjob) hid] at hstep
      rcases hstep.requeued hstatus.2 with hqueued | ⟨-, hmay⟩
      · rw [hstatus.1] at hqueued
        cases hqueued
      · exact hmay
    · cases hsome
  cases label with
  | write worker now availableAt =>
      exact hrequeue (htaken.steady h (by simp) (by simp)) hevent
  | recover now maxRetries retryDelay =>
      exact hrequeue (htaken.steady h (by simp) (by simp)) hevent
  | claim worker now leaseUntil excluded =>
      simp only [attemptEvent?] at hevent
      split at hevent
      · split_ifs at hevent
        cases hevent
      · cases hevent
  | enqueue | renewLease | requestApproval | runEnds | inspect | stop | decide | expireDue
  | portBegin | portOpen | portInsert | portFence | portCommit | portAbort => cases hevent

end Events

/-! ## What a history says -/

section History

variable {n k maxRetries : ℕ} {queued : Bool} {events : List AttemptEvent}

/-- The event begins an attempt. -/
def AttemptEvent.isClaim : AttemptEvent → Bool
  | .claimed _ => true
  | .requeued _ _ => false

/-- The event is a requeue of the given attempt, by whom ever. -/
def AttemptEvent.isRequeueOf (attempt : ℕ) : AttemptEvent → Bool
  | .claimed _ => false
  | .requeued _ other => other = attempt

theorem AttemptHistory.claims_eq (h : AttemptHistory n queued events) :
    events.countP AttemptEvent.isClaim = n := by
  induction h with
  | new => rfl
  | claimed _ ih => simp [List.countP_append, ih, AttemptEvent.isClaim]
  | requeued requeuer _ ih => simp [List.countP_append, ih, AttemptEvent.isClaim]

theorem AttemptHistory.pos (h : AttemptHistory n false events) : 0 < n := by
  cases h
  exact Nat.succ_pos _

/-- The attempts before the last one have been requeued once, the last one if the
job is queued, and later ones not at all. -/
theorem AttemptHistory.requeues_eq (h : AttemptHistory n queued events) (k : ℕ) :
    events.countP (AttemptEvent.isRequeueOf k) =
      if 0 < k ∧ (k < n ∨ (k = n ∧ queued = true)) then 1 else 0 := by
  induction h with
  | new =>
      rw [if_neg (by omega)]
      rfl
  | @claimed n events _ ih =>
      have hsame : (0 < k ∧ (k < n + 1 ∨ (k = n + 1 ∧ false = true))) ↔
          (0 < k ∧ (k < n ∨ (k = n ∧ true = true))) := by
        simp only [Bool.false_eq_true, and_false, or_false, and_true]
        omega
      rw [List.countP_append, ih, if_congr hsame rfl rfl]
      rfl
  | @requeued n events requeuer hbefore ih =>
      have hpos := hbefore.pos
      rw [List.countP_append, ih, List.countP_singleton]
      simp only [AttemptEvent.isRequeueOf, decide_eq_true_eq, Bool.false_eq_true,
        and_false, or_false,
        and_true]
      split_ifs <;> omega

/-- What a job had been through when it was claimed. -/
theorem AttemptHistory.before_claim (h : AttemptHistory n queued events)
    {earlier later : List AttemptEvent}
    (hevents : events = earlier ++ .claimed (k + 1) :: later) : AttemptHistory k true earlier := by
  induction h generalizing later with
  | new => simp at hevents
  | @claimed n events hbefore ih =>
      rcases List.eq_nil_or_concat later with rfl | ⟨front, last, rfl⟩
      · obtain ⟨rfl, hlast⟩ := List.append_inj' hevents rfl
        cases hlast
        exact hbefore
      · rw [List.concat_eq_append, ← List.cons_append, ← List.append_assoc] at hevents
        exact ih (List.append_inj' hevents rfl).1
  | @requeued n events requeuer hbefore ih =>
      rcases List.eq_nil_or_concat later with rfl | ⟨front, last, rfl⟩
      · obtain ⟨-, hlast⟩ := List.append_inj' hevents rfl
        cases hlast
      · rw [List.concat_eq_append, ← List.cons_append, ← List.append_assoc] at hevents
        exact ih (List.append_inj' hevents rfl).1

/-- The bound on the requeued attempts bounds the attempts. -/
theorem AttemptHistory.le (h : AttemptHistory n queued events)
    (hrequeued : ∀ requeuer k, .requeued requeuer k ∈ events → k ≤ maxRetries) :
    n ≤ maxRetries + 1 ∧ (queued = true → n ≤ maxRetries) := by
  cases h with
  | new => exact ⟨Nat.zero_le _, fun _ => Nat.zero_le _⟩
  | @claimed n events hbefore =>
      refine ⟨?_, by simp⟩
      cases hbefore with
      | new => omega
      | requeued requeuer _ =>
          have := hrequeued requeuer n (by simp)
          omega
  | requeued requeuer _ =>
      have := hrequeued requeuer n (by simp)
      exact ⟨by omega, fun _ => this⟩

end History

/-! ## The budget -/

/-- The step is made with the configured number of retries. -/
def SystemStep.UsesRetries (maxRetries : ℕ) : SystemStep → Prop
  | .inspect _ given => given = maxRetries
  | .recover _ given _ => given = maxRetries
  | _ => True

/-- A worker about to retry has a retry left. -/
def RetriesWithin (maxRetries : ℕ) (state : SystemState) : Prop :=
  ∀ worker claim errorCode, state.workers worker = .writing claim (.retry errorCode) →
    claim.attemptCount ≤ maxRetries

section Budget

variable {services : Services} {state next : SystemState} {label : SystemStep} {maxRetries : ℕ}

theorem RunEnd.cleanWrite_retry {ending : RunEnd} {attemptCount : ℕ} {errorCode : String}
    (h : ending.cleanWrite maxRetries attemptCount = .retry errorCode) :
    attemptCount ≤ maxRetries := by
  unfold RunEnd.cleanWrite at h
  split at h
  · split_ifs at h with hexhausted
    omega
  all_goals cases h

theorem RetriesWithin.step (h : RetriesWithin maxRetries state)
    (htaken : SystemTaken services state label next) (huses : label.UsesRetries maxRetries) :
    RetriesWithin maxRetries next := by
  intro worker claim errorCode hwriting
  by_cases hworker : label.worker? = some worker
  · cases htaken with
    | @inspect _ given ending claimed hstage =>
        cases hworker
        cases huses
        simp only [SystemState.setWorker, Function.update_self, inspectedStage] at hwriting
        split at hwriting
        · cases hwriting
        · cases ending <;> cases hwriting
        · obtain ⟨hclaim, hwrite⟩ := WorkerStage.writing.inj hwriting
          rw [← hclaim]
          exact RunEnd.cleanWrite_retry hwrite
    | @runEnds _ ending =>
        cases hworker
        simp only [SystemState.cancel, SystemState.setWorker, Function.update_self] at hwriting
        cases ending <;> cases hwriting
    | claim | write | stop | portBegin =>
        cases hworker
        simp [SystemState.setPort, SystemState.cancel, SystemState.setWorker] at hwriting
    | _ => cases hworker
  · rw [htaken.worker_frame hworker] at hwriting
    exact h worker claim errorCode hwriting

/-- With the configured number of retries only attempts within it are requeued. -/
theorem RetriesWithin.requeued_le (h : RetriesWithin maxRetries state)
    (huses : label.UsesRetries maxRetries) {attempt : ℕ} (hmay : label.MayRequeue state attempt) :
    attempt ≤ maxRetries := by
  cases label with
  | write worker now availableAt =>
      obtain ⟨claim, write, hworker, hwrite⟩ := hmay
      cases write with
      | retry errorCode =>
          rw [show attempt = claim.attemptCount from hwrite]
          exact h worker claim errorCode hworker
      | fail | uncertain | succeed | park => exact hwrite.elim
  | recover now given retryDelay =>
      rw [← show given = maxRetries from huses]
      exact hmay
  | _ => exact hmay.elim

/-- An event of a job has a row of the job after it. -/
theorem row_of_attemptEvent? {jobId : Uuid} {event : AttemptEvent}
    (htaken : SystemTaken services state label next)
    (hevent : attemptEvent? jobId (state, label, next) = some event) :
    ∃ row ∈ next.db.jobs, row.id = jobId := by
  have hrequeue : ∀ {requeuer : Requeuer},
      requeueEvent? requeuer jobId state.db next.db = some event →
      ∃ row ∈ next.db.jobs, row.id = jobId := by
    intro requeuer hsome
    unfold requeueEvent? at hsome
    split at hsome
    · rename_i hrow
      exact ⟨_, Table.mem_of_lookup hrow, Table.key_of_lookup hrow⟩
    · cases hsome
  cases label with
  | write worker now availableAt => exact hrequeue hevent
  | recover now given retryDelay => exact hrequeue hevent
  | claim worker now leaseUntil excluded =>
      obtain ⟨job, hjob, -, hclaim, hjobs⟩ := htaken.claimed_row
      simp only [attemptEvent?, hclaim, Option.ite_none_right_eq_some] at hevent
      exact ⟨_, hjobs ▸ Table.mem_replace_self ⟨job, hjob, rfl⟩, hevent.1⟩
  | enqueue | renewLease | requestApproval | runEnds | inspect | stop | decide | expireDue
  | portBegin | portOpen | portInsert | portFence | portCommit | portAbort => cases hevent

/-- The invariant of a run: the rows and the history of their jobs agree. -/
structure AttemptsInvariant (maxRetries : ℕ)
    (past : List (SystemState × SystemStep × SystemState)) (state : SystemState) : Prop where
  retries : RetriesWithin maxRetries state
  history : ∀ job ∈ state.db.jobs, AttemptHistory job.attemptCount
    (decide (job.status = .queued)) (attemptEvents job.id past)
  unborn : ∀ jobId, (∀ job ∈ state.db.jobs, job.id ≠ jobId) → attemptEvents jobId past = []
  requeued_le : ∀ jobId requeuer attempt, .requeued requeuer attempt ∈ attemptEvents jobId past →
    attempt ≤ maxRetries

theorem AttemptsInvariant.initial (hinit : (systemMachine services).initial state) :
    AttemptsInvariant maxRetries [] state := by
  obtain ⟨hjobs, -, -, -, -, -, hworkers, -⟩ := hinit
  constructor
  · intro worker claim errorCode hwriting
    rw [hworkers worker] at hwriting
    cases hwriting
  · intro job hjob
    rw [hjobs] at hjob
    cases hjob
  · exact fun _ _ => rfl
  · intro jobId requeuer attempt hmem
    cases hmem

theorem attemptEvents_snoc (jobId : Uuid) (past : List (SystemState × SystemStep × SystemState))
    (t : SystemState × SystemStep × SystemState) :
    attemptEvents jobId (past ++ [t]) = attemptEvents jobId past ++
      (attemptEvent? jobId t).toList := by
  rw [attemptEvents, List.filterMap_append]
  cases hevent : attemptEvent? jobId t <;> simp [attemptEvents, hevent]

/-- A history grows by the event of the step. -/
theorem AttemptHistory.step {job row : AgentJob} {events : List AttemptEvent}
    {event : Option AttemptEvent}
    (h : AttemptHistory job.attemptCount (decide (job.status = .queued)) events)
    (hstep : AttemptStep job row event) :
    AttemptHistory row.attemptCount (decide (row.status = .queued)) (events ++ event.toList) := by
  cases hstep with
  | claimed hqueued hrow hattempt =>
      rw [hqueued, decide_eq_true rfl] at h
      rw [hattempt, decide_eq_false hrow]
      exact .claimed h
  | requeued requeuer hrunning hrow hattempt =>
      have hjob : decide (job.status = .queued) = false := by rw [hrunning]; rfl
      rw [hjob] at h
      rw [hattempt, decide_eq_true hrow]
      exact .requeued requeuer h
  | kept hattempt hstatus =>
      rw [hattempt, decide_eq_decide.2 hstatus, Option.toList_none, List.append_nil]
      exact h

theorem AttemptsInvariant.step {past : List (SystemState × SystemStep × SystemState)}
    (h : AttemptsInvariant maxRetries past state) (hstate : SystemInvariant state)
    (htaken : SystemTaken services state label next) (huses : label.UsesRetries maxRetries) :
    AttemptsInvariant maxRetries (past ++ [(state, label, next)]) next := by
  constructor
  · exact h.retries.step htaken huses
  · intro row hrow
    rw [attemptEvents_snoc]
    rcases htaken.attempts hstate hrow with ⟨job, hjob, hid, hstep⟩ | ⟨hnew, hqueued, hzero, hnone⟩
    · have hhistory := h.history job hjob
      rw [← hid] at hhistory
      exact hhistory.step hstep
    · rw [h.unborn row.id hnew, hnone, hzero, hqueued]
      exact .new
  · intro jobId hnone
    rw [attemptEvents_snoc]
    have hbefore : ∀ job ∈ state.db.jobs, job.id ≠ jobId := by
      intro job hjob hid
      obtain ⟨row, hrow, hstep⟩ := (htaken.rows hstate).rows job hjob
      exact hnone row hrow (hstep.id_eq.trans hid)
    cases hevent : attemptEvent? jobId (state, label, next) with
    | none =>
        rw [h.unborn jobId hbefore]
        rfl
    | some event =>
        obtain ⟨row, hrow, hid⟩ := row_of_attemptEvent? htaken hevent
        exact absurd hid (hnone row hrow)
  · intro jobId requeuer attempt hmem
    rw [attemptEvents_snoc, List.mem_append, Option.mem_toList] at hmem
    rcases hmem with hold | hnew
    · exact h.requeued_le jobId requeuer attempt hold
    · exact h.retries.requeued_le huses (htaken.requeued_may hstate hnew)

/-- The run. -/
theorem attemptsInvariant_of_path {start final : SystemState}
    {transitions : List (SystemState × SystemStep × SystemState)}
    (hinit : (systemMachine services).initial start)
    (hpath : (systemMachine services).Path start transitions final)
    (huses : ∀ t ∈ transitions, t.2.1.UsesRetries maxRetries) :
    AttemptsInvariant maxRetries transitions final := by
  refine hpath.history (P := fun past state => (∀ t ∈ past, t.2.1.UsesRetries maxRetries) →
    AttemptsInvariant maxRetries past state) (fun _ => .initial hinit) ?_ huses
  intro past middle label next hpast ih hstep hall
  have hinvariant := ih fun t ht => hall t (List.mem_append_left _ ht)
  exact hinvariant.step (systemInvariant_of_reachable (hpast.reachable (.initial hinit)))
    (systemTaken_of_step hstep) (hall (middle, label, next) (by simp))

/-- What the number of retries promises of a run. -/
structure AttemptBudget (maxRetries : ℕ)
    (transitions : List (SystemState × SystemStep × SystemState)) (final : SystemState) : Prop where
  bounded : ∀ job ∈ final.db.jobs, job.attemptCount ≤ maxRetries + 1
  /-- The attempt count is the number of claims of the job in the run. -/
  counted : ∀ job ∈ final.db.jobs,
    (attemptEvents job.id transitions).countP AttemptEvent.isClaim = job.attemptCount
  grows : ∀ t ∈ transitions, ∀ job ∈ t.1.db.jobs,
    ∃ row ∈ t.2.2.db.jobs, row.id = job.id ∧ job.attemptCount ≤ row.attemptCount
  /-- Before a later claim the previous attempt was requeued exactly once. -/
  preceded : ∀ jobId earlier attempt later, 0 < attempt →
    attemptEvents jobId transitions = earlier ++ .claimed (attempt + 1) :: later →
    earlier.countP (AttemptEvent.isRequeueOf attempt) = 1
  /-- An attempt is requeued by its worker or by lease recovery, never by both. -/
  once : ∀ jobId attempt,
    (attemptEvents jobId transitions).countP (AttemptEvent.isRequeueOf attempt) ≤ 1
  /-- A job whose budget is spent does not get back into the queue. -/
  exhausted : ∀ t ∈ transitions, ∀ job ∈ t.1.db.jobs, job.attemptCount = maxRetries + 1 →
    ∀ row ∈ t.2.2.db.jobs, row.id = job.id → row.status ≠ .queued

/-- In every run of the system with a fixed number of retries, with any number of
workers and in any interleaving, the attempts stay within the budget. -/
theorem attempt_budget {start final : SystemState}
    {transitions : List (SystemState × SystemStep × SystemState)}
    (hinit : (systemMachine services).initial start)
    (hpath : (systemMachine services).Path start transitions final)
    (huses : ∀ t ∈ transitions, t.2.1.UsesRetries maxRetries) :
    AttemptBudget maxRetries transitions final := by
  have hinvariant := attemptsInvariant_of_path hinit hpath huses
  -- the history of a job that is not in the table is empty
  have hhistory : ∀ jobId, ∃ n queued, AttemptHistory n queued
    (attemptEvents jobId transitions) := by
    intro jobId
    by_cases hjob : ∃ job ∈ final.db.jobs, job.id = jobId
    · obtain ⟨job, hjob, rfl⟩ := hjob
      exact ⟨_, _, hinvariant.history job hjob⟩
    · have hnone : ∀ job ∈ final.db.jobs, job.id ≠ jobId := fun job hmem hid =>
        hjob ⟨job, hmem, hid⟩
      exact ⟨0, true, hinvariant.unborn jobId hnone ▸ .new⟩
  have hrows : ∀ t ∈ transitions, ∀ job ∈ t.1.db.jobs,
      ∃ row ∈ t.2.2.db.jobs, row.id = job.id ∧ job.attemptCount ≤ row.attemptCount := by
    intro t ht job hjob
    obtain ⟨hreachable, hstep⟩ := hpath.transition (.initial hinit) t ht
    obtain ⟨row, hrow, hrowStep⟩ := ((systemTaken_of_step hstep).rows
      (systemInvariant_of_reachable hreachable)).rows job hjob
    exact ⟨row, hrow, hrowStep.id_eq, hrowStep.attempt_le⟩
  constructor
  · intro job hjob
    exact ((hinvariant.history job hjob).le fun requeuer attempt hmem =>
      hinvariant.requeued_le job.id requeuer attempt hmem).1
  · exact fun job hjob => (hinvariant.history job hjob).claims_eq
  · exact hrows
  · intro jobId earlier attempt later hpos hevents
    obtain ⟨n, queued, hall⟩ := hhistory jobId
    rw [(hall.before_claim hevents).requeues_eq attempt, if_pos ⟨hpos, .inr ⟨rfl, rfl⟩⟩]
  · intro jobId attempt
    obtain ⟨n, queued, hall⟩ := hhistory jobId
    rw [hall.requeues_eq attempt]
    split <;> omega
  · intro t ht job hjob hspent row hrow hid hqueued
    obtain ⟨earlier, later, htransitions, hupTo⟩ := hpath.upTo ht
    have hbefore : ∀ other ∈ earlier ++ [t], other ∈ transitions := by
      intro other hother
      rw [htransitions]
      simp only [List.mem_append, List.mem_singleton] at hother
      rcases hother with hearlier | rfl
      · exact List.mem_append_left _ hearlier
      · exact List.mem_append_right _ List.mem_cons_self
    have hthen := attemptsInvariant_of_path hinit hupTo fun other hother =>
      huses other (hbefore other hother)
    have hwithin := ((hthen.history row hrow).le fun requeuer attempt hmem =>
      hthen.requeued_le row.id requeuer attempt hmem).2 (decide_eq_true hqueued)
    obtain ⟨found, hfound, hfoundId, hgrows⟩ := hrows t ht job hjob
    have hunique :=
      (systemInvariant_of_reachable (hupTo.reachable (.initial hinit))).lifecycle.jobs_unique
    rw [hunique.eq hfound hrow (hfoundId.trans hid.symm)] at hgrows
    omega

end Budget

/-! ### A job that uses up its budget -/

/-- With one retry: the worker's retry requeues the first attempt, and lease
recovery ends the second. -/
def spentSteps : List SystemStep :=
  [.enqueue exampleNewJob, .claim 0 0 60 [], .runEnds 0 (.retryable "provider_timeout"),
    .inspect 0 1, .write 0 10 20, .claim 1 20 80 [], .recover 90 1 30]

theorem attempt_budget_spent : ∃ transitions final job,
    (systemMachine noServices).Path idleSystem transitions final ∧ job ∈ final.db.jobs ∧
      job.attemptCount = 2 ∧ job.status = .failed ∧ AttemptBudget 1 transitions final := by
  have hrun : (systemMachine noServices).run idleSystem spentSteps =
      some (((systemMachine noServices).run idleSystem spentSteps).getD idleSystem) := rfl
  obtain ⟨transitions, hpath, hlabels⟩ := Machine.Path.of_run hrun
  have huses : ∀ t ∈ transitions, t.2.1.UsesRetries 1 := by
    intro t ht
    have hlabel : t.2.1 ∈ spentSteps := hlabels ▸ List.mem_map_of_mem ht
    simp only [spentSteps, List.mem_cons, List.not_mem_nil, or_false] at hlabel
    rcases hlabel with heq | heq | heq | heq | heq | heq | heq <;> rw [heq] <;>
      trivial
  exact ⟨transitions, _, _, hpath, List.mem_singleton.2 rfl, rfl, rfl,
    attempt_budget (idleSystem_initial noServices) hpath huses⟩

end IntegraIntake
