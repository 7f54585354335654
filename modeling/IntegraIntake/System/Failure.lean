import IntegraIntake.System.Replay

/-!
# Honest failures

A job that a worker or lease recovery moves from running to failed has no
marker, in the runs in which no transaction commits between the moment a worker
has made up its mind and its write.  Most failures come after a marker read;
preflight results and empty runs are written without one, and are right because
no transaction of the attempt was ever begun.
-/

namespace IntegraIntake

open Library JobRepository

/-- Whether a final write says that nothing was committed. -/
def FinalWrite.isClean : FinalWrite → Bool
  | .retry _ | .fail _ => true
  | _ => false

/-- Whether a final write is `mark_failed`. -/
def FinalWrite.isFail : FinalWrite → Bool
  | .fail _ => true
  | _ => false

variable {services : Services} {state next : SystemState} {label : SystemStep}

theorem NoLateCommit.mono {trusting wider : FinalWrite → Bool}
    (hwider : ∀ write, trusting write = true → wider write = true)
    (h : NoLateCommit wider state label) : NoLateCommit trusting state label :=
  fun port now attempt writes job hlabel hport worker claim write hworker htrust =>
    h port now attempt writes job hlabel hport worker claim write hworker (hwider write htrust)

/-! ## Workers that have not called their port -/

/-- Attempts belong to one worker, and a worker that has not called its port has
no open transaction. -/
structure CallInvariant (state : SystemState) : Prop where
  distinct : ∀ worker other claim claimed, (state.workers worker).claim? = some claim →
    (state.workers other).claim? = some claimed → claim.attempt = claimed.attempt → worker = other
  uncalled : ∀ worker claim port, state.workers worker = .running claim false →
    (state.ports port).attempt? ≠ some claim.attempt

/-- The attempt of a job that is being claimed is a new one. -/
theorem claimedRow_not_known {db : Db} (hunique : Table.Unique AgentJob.id db.jobs) {job : AgentJob}
    (hjob : job ∈ db.jobs) (now leaseUntil : Timestamp) :
    ¬ (claimedRow now leaseUntil job).attempt.Known db := by
  rintro ⟨other, hother, hid, -, hle⟩
  rw [hunique.eq hother hjob hid] at hle
  simp only [AgentJob.attempt, claimedRow] at hle
  omega

/-- A worker that has not called its port after a step had not before, or has
just claimed its job. -/
theorem SystemTaken.uncalled_cases (htaken : SystemTaken services state label next) {worker : ℕ}
    {claim : AgentJob} (hworker : next.workers worker = .running claim false) :
    (state.workers worker = .running claim false ∧ label.worker? ≠ some worker) ∨
      (label.worker? = some worker ∧ ∃ now leaseUntil, ∃ job ∈ state.db.jobs,
        job.status = .queued ∧ claim = claimedRow now leaseUntil job ∧ claim ∈ next.db.jobs) := by
  by_cases hown : label.worker? = some worker
  · rcases htaken.claim_cases (by rw [hworker]; rfl) with hold | hnew
    · cases htaken with
      | claim hidle =>
          cases hown
          rw [hidle] at hold
          cases hold
      | @runEnds _ ending =>
          cases hown
          simp only [SystemState.cancel, SystemState.setWorker, Function.update_self] at hworker
          cases hnext : ending.next <;> rw [hnext] at hworker <;> cases hworker
      | inspect =>
          cases hown
          simp only [SystemState.setWorker, Function.update_self, inspectedStage] at hworker
          split at hworker <;> cases hworker
      | write | stop | portBegin =>
          cases hown
          simp [SystemState.cancel, SystemState.setPort, SystemState.setWorker] at hworker
      | _ => cases hown
    · exact .inr hnew
  · rw [htaken.worker_frame hown] at hworker
    exact .inl ⟨hworker, hown⟩

theorem CallInvariant.step (h : SystemInvariant state) (hcalls : CallInvariant state)
    (htaken : SystemTaken services state label next) : CallInvariant next := by
  have hfresh : ∀ worker claim claimed, (state.workers worker).claim? = some claim →
      (∃ now leaseUntil, ∃ job ∈ state.db.jobs, job.status = .queued ∧
        claimed = claimedRow now leaseUntil job ∧ claimed ∈ next.db.jobs) →
      claim.attempt ≠ claimed.attempt := by
    rintro worker claim claimed hclaim ⟨now, leaseUntil, job, hjob, -, rfl, -⟩ hsame
    exact claimedRow_not_known h.lifecycle.jobs_unique hjob now leaseUntil
      (hsame ▸ h.workers_known worker claim hclaim)
  constructor
  · intro worker other claim claimed hclaim hclaimed hsame
    rcases htaken.claim_cases hclaim with hold | ⟨hworker, hnew⟩ <;>
      rcases htaken.claim_cases hclaimed with hold' | ⟨hother, hnew'⟩
    · exact hcalls.distinct worker other claim claimed hold hold' hsame
    · exact absurd hsame (hfresh worker claim claimed hold hnew')
    · exact absurd hsame.symm (hfresh other claimed claim hold' hnew)
    · exact Option.some.inj (hworker.symm.trans hother)
  · intro worker claim port hworker hport
    rcases htaken.attempt_cases hport with hold | ⟨caller, _, claimed, called, hlabel,
      hcaller, heq, -⟩
    · rcases htaken.uncalled_cases hworker with
        ⟨hsame, -⟩ | ⟨-, now, leaseUntil, job, hjob, -, rfl, -⟩
      · exact hcalls.uncalled worker claim port hsame hold
      · exact claimedRow_not_known h.lifecycle.jobs_unique hjob now leaseUntil
          (h.ports_known port _ hold)
    · have hclaimed : (state.workers caller).claim? = some claimed := by rw [hcaller]; rfl
      rcases htaken.uncalled_cases hworker with ⟨hsame, hother⟩ | ⟨-, hnew⟩
      · have hclaim : (state.workers worker).claim? = some claim := by rw [hsame]; rfl
        refine hother ?_
        rw [hlabel, hcalls.distinct worker caller claim claimed hclaim hclaimed heq.symm]
        rfl
      · exact hfresh caller claimed claim hclaimed hnew heq

/-! ## Failures -/

/-- Everybody who is going to say that nothing was committed is right. -/
structure HonestInvariant (state : SystemState) : Prop where
  calls : CallInvariant state
  clean : TrustedWrites FinalWrite.isClean state
  uncalled : ∀ worker claim job, state.workers worker = .running claim false →
    claim.attempt.Owns state.db job → job.sideEffectCommittedAt = none

theorem HonestInvariant.step (h : SystemInvariant state) (hreplay : ReplayInvariant state)
    (hhonest : HonestInvariant state) (htaken : SystemTaken services state label next)
    (hallowed : NoLateCommit FinalWrite.isClean state label) : HonestInvariant next := by
  refine ⟨hhonest.calls.step h htaken, ?_, ?_⟩
  · refine hhonest.clean.step h htaken hallowed (fun _ => rfl) ?_
    intro worker claim called ending write job hworker hcalls hnext htrust howns
    have huncalled : called = false := by
      apply hcalls
      cases ending <;> cases hnext <;> first | rfl | cases htrust
    exact hhonest.uncalled worker claim job (huncalled ▸ hworker) howns
  · intro worker claim row hworker howns
    rcases htaken.uncalled_cases hworker with
      ⟨hsame, -⟩ | ⟨-, now, leaseUntil, job, hjob, hqueued, rfl, hmem⟩
    · have hknown := h.workers_known worker claim (by rw [hsame]; rfl)
      obtain ⟨job, hjob, hmarker⟩ := htaken.marker_eq h hknown
        (fun port now writes job _ hport => hhonest.calls.uncalled worker claim port hsame
          (by rw [hport]; rfl)) howns
      rw [hmarker]
      exact hhonest.uncalled worker claim job hsame hjob
    · rw [(h.step htaken).lifecycle.jobs_unique.eq howns.mem hmem howns.id_eq]
      exact hreplay.queued job hjob hqueued

theorem honestInvariant_of_reachable
    (h : (systemMachine services).ReachableWith (NoLateCommit FinalWrite.isClean) state) :
    HonestInvariant state := by
  refine h.invariant ?_ ?_
  · rintro state ⟨-, -, -, -, -, -, hworkers, -⟩
    refine ⟨⟨?_, ?_⟩, ?_, ?_⟩
    · intro worker other claim claimed hclaim
      rw [hworkers worker] at hclaim
      cases hclaim
    · intro worker claim port hworker
      rw [hworkers worker] at hworker
      cases hworker
    · intro worker claim write job hworker
      rw [hworkers worker] at hworker
      cases hworker
    · intro worker claim job hworker
      rw [hworkers worker] at hworker
      cases hworker
  · intro state label next hreach hstate hallowed hstep
    have hreplay : ReplayInvariant state := replayInvariant_of_reachable
      (hreach.mono fun _ _ hclean => hclean.mono fun write => by cases write <;> simp [
        FinalWrite.isRetry, FinalWrite.isClean])
    exact hstate.step (systemInvariant_of_reachable hreach.reachable) hreplay
      (systemTaken_of_step hstep) hallowed

/-- `_mark_terminal` by the attempt that has the job. -/
theorem markTerminal_of_owned {db : Db} {jobId tenantId : Uuid} {attemptCount : ℕ} {job : AgentJob}
    (h : Owned db jobId tenantId attemptCount job) (hunique : Table.Unique AgentJob.id db.jobs)
    (status : JobStatus) (now : Timestamp) (result : Option Json) (errorCode : Option String) :
    markTerminal jobId status now tenantId attemptCount result errorCode db =
      (.ok (), (cancelStagedApproval jobId tenantId db).setJob
        (terminalRow status now result errorCode job)) := by
  simp only [markTerminal, Session.transaction, Session.bind_run, h.requireRunning hunique]
  rfl

/-- In the runs without late commits, a job that stops running as failed has no
marker; a job with a marker never does. -/
structure HonestFailures (services : Services) : Prop where
  honest : ∀ state label next,
    (systemMachine services).ReachableWith (NoLateCommit FinalWrite.isClean) state →
    NoLateCommit FinalWrite.isClean state label →
    (systemMachine services).step state label = some next →
    ∀ job ∈ state.db.jobs, ∀ row ∈ next.db.jobs, row.id = job.id → job.status = .running →
      row.status = .failed →
      job.sideEffectCommittedAt = none ∧ row.sideEffectCommittedAt = none
  /-- A commit between the verdict and `mark_failed` makes the failure a lie. -/
  late : ∀ state port now next, (systemMachine services).Reachable state →
    ¬ NoLateCommit FinalWrite.isFail state (.portCommit port now) →
    (systemMachine services).step state (.portCommit port now) = some next →
    ∃ worker, ∀ now availableAt, ∃ final,
      (systemMachine services).step next (.write worker now availableAt) = some final ∧
      ∃ job ∈ next.db.jobs, ∃ row ∈ final.db.jobs, row.id = job.id ∧ job.status = .running ∧
        row.status = .failed ∧ row.sideEffectCommittedAt.isSome

theorem honest_failures_without_late_commits (services : Services) : HonestFailures services := by
  constructor
  · intro state label next hreach hallowed hstep job hjob row hrow hid hrunning hfailed
    have hinv := systemInvariant_of_reachable hreach.reachable
    have htaken := systemTaken_of_step hstep
    have hstepped : RowStep (label.cause state job) job row := by
      rcases (htaken.rows hinv).back row hrow with ⟨old, hold, hstepped⟩ | ⟨-, -, hfresh⟩
      · rw [hinv.lifecycle.jobs_unique.eq hold hjob (hstepped.id_eq.symm.trans hid)] at hstepped
        exact hstepped
      · exact absurd hid.symm (hfresh job hjob)
    by_cases hblame : label.cause state job = .blame
    · obtain ⟨worker, _, _, claim, errorCode, -, hworker, hattempt, -⟩ :=
        SystemStep.cause_blame hblame
      have hmarker := (honestInvariant_of_reachable hreach).clean worker claim _ job hworker rfl
        (hattempt ▸ Attempt.owns_of_running hjob hrunning)
      exact ⟨hmarker, (hstepped.marker_live (by simp [hblame]) (.inl hrunning)).trans hmarker⟩
    · have hmarker := hstepped.failed hblame hrunning hfailed
      refine ⟨Option.not_isSome_iff_eq_none.1 fun hset => ?_, hmarker⟩
      simpa [hmarker] using hstepped.marker_kept hset
  · intro state port now next hreach hlate hstep
    obtain ⟨_, writes, job, worker, claim, write, hport, hworker, htrust, rfl⟩ :=
      lateCommit_of_not hlate
    obtain ⟨hinv, hwriting, hfree, howns⟩ :=
      (systemInvariant_of_reachable hreach).after_commit hport hworker hstep
    refine ⟨worker, fun later availableAt => ⟨_, write_enabled hwriting hfree later availableAt,
      markedRow now job, howns.mem, ?_⟩⟩
    cases write with
    | fail errorCode =>
        have hfail : (FinalWrite.fail errorCode).run claim later availableAt next.db =
            (.ok (), (cancelStagedApproval claim.id claim.tenantId next.db).setJob
              (terminalRow .failed later none (some errorCode) (markedRow now job))) :=
          markTerminal_of_owned howns hinv.lifecycle.jobs_unique .failed later none (some errorCode)
        refine ⟨terminalRow .failed later none (some errorCode) (markedRow now job), ?_, rfl,
          howns.running, rfl, rfl⟩
        rw [hfail]
        refine Table.mem_replace_self ⟨markedRow now job, ?_, rfl⟩
        rw [cancelStagedApproval_jobs]
        exact howns.mem
    | retry | uncertain | succeed | park => cases htrust

/-! ### A commit after a tool call that timed out -/

/-- The gateway gives up on a call whose transaction is past its fence; the run
ends with a failed tool, and the transaction commits between the marker read and
`mark_failed`. -/
def timedOutSteps : List SystemStep :=
  [.enqueue exampleNewJob, .claim 0 0 60 [],
    .portBegin 0 0 (.flagForReview 5 "unclear"), .portOpen 0, .portInsert 0, .portFence 0,
    .runEnds 0 (.failed true), .inspect 0 3, .portCommit 0 12]

def timedOutState : SystemState :=
  ((systemMachine noServices).run idleSystem timedOutSteps).getD idleSystem

theorem timed_out_commit_failed :
    (systemMachine noServices).initial idleSystem ∧
      (systemMachine noServices).run idleSystem timedOutSteps = some timedOutState ∧
      (systemMachine noServices).Reachable timedOutState ∧ ∃ final job row,
      (systemMachine noServices).step timedOutState (.write 0 13 20) = some final ∧
      job ∈ timedOutState.db.jobs ∧ row ∈ final.db.jobs ∧ row.id = job.id ∧
      job.status = .running ∧ row.status = .failed ∧
      row.errorCode = some "tool_execution_failed" ∧ row.sideEffectCommittedAt = some 12 := by
  have hinitial := idleSystem_initial noServices
  have hrun : (systemMachine noServices).run idleSystem timedOutSteps = some timedOutState := rfl
  exact ⟨hinitial, hrun, Machine.Reachable.run (.initial hinitial) _ hrun, _, _, _, rfl,
    List.mem_singleton.2 rfl, List.mem_singleton.2 rfl, rfl, rfl, rfl, rfl, rfl⟩

end IntegraIntake
