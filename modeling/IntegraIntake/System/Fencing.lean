import IntegraIntake.System.Invariant

/-!
# Attempt fencing

Whatever is done on behalf of an attempt changes a row only while the job is
running under that very attempt.  The port checks this at the end of its
transactions, the repositories at the start of theirs.
-/

namespace IntegraIntake

open Library JobRepository

/-- The attempt on whose behalf a step is taken. -/
def SystemStep.attempt? (state : SystemState) : SystemStep → Option Attempt
  | .renewLease attempt _ => some attempt
  | .requestApproval attempt _ _ _ _ _ => some attempt
  | .runEnds worker _ | .inspect worker _ | .write worker _ _ | .stop worker
  | .portBegin worker _ _ => (state.workers worker).claim?.map AgentJob.attempt
  | .portOpen port | .portInsert port | .portFence port | .portCommit port _
  | .portAbort port => (state.ports port).attempt?
  | _ => none

/-- The attempt was made and no longer has its job: the row is not running any
more, or it is running under a later attempt. -/
def Attempt.Lost (attempt : Attempt) (db : Db) : Prop :=
  ∃ job ∈ db.jobs, job.id = attempt.jobId ∧ job.tenantId = attempt.tenantId ∧
    attempt.count ≤ job.attemptCount ∧
    (job.status ≠ .running ∨ attempt.count < job.attemptCount)

/-- Attempts are fenced in every run. -/
structure AttemptsFenced (services : Services) : Prop where
  /-- A row changes only while the job is running under the attempt. -/
  owned : ∀ state label next attempt, (systemMachine services).Reachable state →
    (systemMachine services).step state label = some next →
    label.attempt? state = some attempt → next.db ≠ state.db →
    ∃ job ∈ state.db.jobs, job.id = attempt.jobId ∧ job.tenantId = attempt.tenantId ∧
      job.status = .running ∧ job.attemptCount = attempt.count
  /-- Once the job is lost, nothing done for the attempt changes any row. -/
  lost : ∀ state transitions final attempt, (systemMachine services).Reachable state →
    (systemMachine services).Path state transitions final → attempt.Lost state.db →
    ∀ t ∈ transitions, t.2.1.attempt? t.1 = some attempt → t.2.2.db = t.1.db

variable {services : Services} {state next : SystemState} {label : SystemStep} {attempt : Attempt}

/-! ## One step -/

/-- A final write raises and leaves the database alone, or its attempt has the
job. -/
theorem FinalWrite.run_cases (write : FinalWrite) (claim : AgentJob) (now availableAt : Timestamp)
    (db : Db) :
    (write.run claim now availableAt db).2 = db ∨ ∃ job, claim.attempt.Owns db job := by
  cases write with
  | retry errorCode =>
      rcases scheduleRetry_cases claim.id errorCode availableAt claim.tenantId claim.attemptCount db
        with ⟨error, heq⟩ | ⟨job, howned, -⟩
      · exact .inl (by rw [FinalWrite.run, heq])
      · exact .inr ⟨job, howned⟩
  | fail errorCode =>
      rcases markTerminal_cases claim.id .failed now claim.tenantId claim.attemptCount none
        (some errorCode) db with ⟨error, heq⟩ | ⟨job, howned, -⟩
      · exact .inl (by rw [FinalWrite.run, markFailed, heq])
      · exact .inr ⟨job, howned⟩
  | uncertain errorCode =>
      rcases markTerminal_cases claim.id .failedUncertain now claim.tenantId claim.attemptCount none
        (some errorCode) db with ⟨error, heq⟩ | ⟨job, howned, -⟩
      · exact .inl (by rw [FinalWrite.run, markFailedUncertain, heq])
      · exact .inr ⟨job, howned⟩
  | succeed result =>
      rcases markTerminal_cases claim.id .succeeded now claim.tenantId claim.attemptCount
        (some result) none db with ⟨error, heq⟩ | ⟨job, howned, -⟩
      · exact .inl (by rw [FinalWrite.run, markSucceeded, heq])
      · exact .inr ⟨job, howned⟩
  | park result =>
      rcases recordAwaitingApprovalResult_cases claim.id result claim.tenantId claim.attemptCount db
        with ⟨error, heq⟩ | ⟨job, _, howned, -⟩
      · exact .inl (by rw [FinalWrite.run, heq])
      · exact .inr ⟨job, howned⟩

/-- Every step for an attempt leaves the database alone or is taken while the
attempt has its job. -/
theorem SystemTaken.db_or_owns (h : SystemInvariant state)
    (htaken : SystemTaken services state label next)
    (hattempt : label.attempt? state = some attempt) :
    next.db = state.db ∨ ∃ job, attempt.Owns state.db job := by
  cases htaken with
  | @renewLease _ leaseUntil hfree =>
      cases hattempt
      rcases renewLease_cases attempt.jobId attempt.tenantId attempt.count leaseUntil state.db with
        heq | ⟨job, howned, -⟩
      · exact .inl (by rw [SystemState.setDb, heq])
      · exact .inr ⟨job, howned⟩
  | @requestApproval _ newId action policyReason expiresIn now hfree =>
      cases hattempt
      rcases createForRunningJob_cases newId attempt.tenantId attempt.jobId attempt.count action
        policyReason expiresIn now state.db with ⟨error, heq⟩ | ⟨job, _, _, howned, -⟩
      · exact .inl (by rw [SystemState.setDb, heq])
      · exact .inr ⟨job, howned⟩
  | @write worker now availableAt claim write hworker hfree =>
      simp only [SystemStep.attempt?, hworker, WorkerStage.claim?, Option.map_some,
        Option.some.injEq] at hattempt
      subst hattempt
      exact write.run_cases claim now availableAt state.db
  | @portCommit port now _ writes job hport =>
      simp only [SystemStep.attempt?, hport, PortStage.attempt?, Option.some.injEq] at hattempt
      subst hattempt
      exact .inr ⟨job, (h.fenced port _ writes job hport).1⟩
  | runEnds | inspect | stop | portBegin | portOpen | portInsert | portRefused | portFence
  | portAbort => exact .inl rfl
  | enqueue | claim | recover | decide | expireDue => cases hattempt

theorem Attempt.Lost.not_owns {db : Db} (h : attempt.Lost db)
    (hunique : Table.Unique AgentJob.id db.jobs) (job : AgentJob) : ¬ attempt.Owns db job := by
  rintro howns
  obtain ⟨row, hrow, hid, -, -, hgone⟩ := h
  rw [hunique.eq hrow howns.mem (hid.trans howns.id_eq.symm)] at hgone
  rcases hgone with hstopped | hlater
  · exact hstopped howns.running
  · exact absurd (JobRepository.Owned.attempt_eq howns) hlater.ne'

theorem RowsStep.lost {locked : Uuid → Prop} {cause : AgentJob → Cause} {db next : Db}
    (h : RowsStep locked cause db next) (hlost : attempt.Lost db) : attempt.Lost next := by
  obtain ⟨job, hjob, hid, htenant, hle, hgone⟩ := hlost
  obtain ⟨row, hrow, hstep⟩ := h.rows job hjob
  have hrow_le := hstep.attempt_le
  refine ⟨row, hrow, hstep.id_eq.trans hid, hstep.tenant_eq.trans htenant, hle.trans hrow_le, ?_⟩
  by_cases hrunning : row.status = .running
  · right
    rcases hstep.no_return hrunning with ⟨hjobRunning, -⟩ | hlt
    · exact (hgone.resolve_left fun hstopped => hstopped hjobRunning).trans_le hrow_le
    · omega
  · exact .inl hrunning

/-! ## Runs -/

/-- A lost job stays lost. -/
theorem lost_of_step (state : SystemState) (label : SystemStep) (next : SystemState)
    (hreach : (systemMachine services).Reachable state) (hlost : attempt.Lost state.db)
    (hstep : (systemMachine services).step state label = some next) : attempt.Lost next.db :=
  ((systemTaken_of_step hstep).rows (systemInvariant_of_reachable hreach)).lost hlost

theorem attempt_fencing (services : Services) : AttemptsFenced services := by
  constructor
  · intro state label next attempt hreach hstep hattempt hchanged
    rcases (systemTaken_of_step hstep).db_or_owns (systemInvariant_of_reachable hreach)
      hattempt with
      hsame | ⟨job, howns⟩
    · exact absurd hsame hchanged
    · exact ⟨job, howns.mem, howns.id_eq, howns.tenant_eq, howns.running,
        JobRepository.Owned.attempt_eq howns⟩
  · intro state transitions final attempt hreach hpath
    -- by induction on the run, with the lost attempt carried along
    induction hpath with
    | nil => simp
    | @cons state next final label rest hstep hrest ih =>
        intro hlost t ht hattempt
        have hinv := systemInvariant_of_reachable hreach
        rcases List.mem_cons.1 ht with rfl | ht
        · rcases (systemTaken_of_step hstep).db_or_owns hinv hattempt with hsame | ⟨job, howns⟩
          · exact hsame
          · exact absurd howns (hlost.not_owns hinv.lifecycle.jobs_unique job)
        · exact ih (hreach.step hstep) (lost_of_step state label next hreach hlost hstep) t ht
            hattempt

end IntegraIntake
