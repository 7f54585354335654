import IntegraIntake.System.Invariant

/-!
# No replay after a committed side effect

The worker reads the marker in one transaction and requeues the job in another.
`NoLateCommit` says that no transaction of the attempt commits in between; under
it a job with a marker is never queued.  The run at the end is one where the
port commits in between.
-/

namespace IntegraIntake

open Library JobRepository

/-! ## Markers along a step -/

/-- No transaction of an attempt commits while a worker of the attempt is about
to make a write of the kind `trusting`. -/
def NoLateCommit (trusting : FinalWrite → Bool) (state : SystemState) (label : SystemStep) : Prop :=
  ∀ port now attempt writes job, label = .portCommit port now →
    state.ports port = .fenced attempt writes job →
    ∀ worker claim write, state.workers worker = .writing claim write → trusting write = true →
      claim.attempt ≠ attempt

/-- The workers that are about to make a write of the kind `trusting` are right
that the marker is not set. -/
def TrustedWrites (trusting : FinalWrite → Bool) (state : SystemState) : Prop :=
  ∀ worker claim write job, state.workers worker = .writing claim write → trusting write = true →
    claim.attempt.Owns state.db job → job.sideEffectCommittedAt = none

variable {services : Services} {state next : SystemState} {label : SystemStep} {attempt : Attempt}
  {trusting : FinalWrite → Bool}

/-- The marker of the job that an attempt has changes only when a transaction
of the attempt commits. -/
theorem SystemTaken.marker_eq (h : SystemInvariant state)
    (htaken : SystemTaken services state label next) (hknown : attempt.Known state.db)
    (hcommit : ∀ port now writes job, label = .portCommit port now →
      state.ports port ≠ .fenced attempt writes job) {row : AgentJob}
    (howns : attempt.Owns next.db row) :
    ∃ job, attempt.Owns state.db job ∧ row.sideEffectCommittedAt = job.sideEffectCommittedAt := by
  obtain ⟨job, hold, hstep⟩ := (htaken.rows h).owns h.lifecycle.jobs_unique hknown howns
  refine ⟨job, hold, hstep.marker_live (fun hcause => ?_) (.inr (.inl howns.running))⟩
  obtain ⟨port, now, marked, writes, fenced, hlabel, hport, hattempt, -⟩ :=
    SystemStep.cause_mark hcause
  rw [← hattempt, hold.attempt_eq] at hport
  exact hcommit port now writes fenced hlabel hport

/-- A marker read that lets a worker go on with a clean write saw no marker. -/
theorem inspectedStage_writing {claim writer : AgentJob} {ending : RunEnd}
    {maxRetries : ℕ} {db : Db} {write : FinalWrite} (hunique : Table.Unique AgentJob.id db.jobs)
    (h : inspectedStage claim ending maxRetries db = .writing writer write)
    (hwrite : ∀ errorCode, write ≠ .uncertain errorCode) :
    writer = claim ∧ ∀ job, claim.attempt.Owns db job → job.sideEffectCommittedAt = none := by
  unfold inspectedStage at h
  split at h
  · cases h
  · cases h
    cases ending <;> exact absurd rfl (hwrite _)
  · rename_i hread
    cases h
    refine ⟨rfl, fun job howns => ?_⟩
    unfold hasSideEffect at hread
    split at hread
    · cases hread
    · rcases requireRunning_cases claim.id claim.tenantId claim.attemptCount
        "job lease ownership changed before side-effect inspection" db with
          ⟨error, heq⟩ | ⟨found, hfound, heq⟩
      · simp [getSideEffectMarker, Session.bind_run, heq] at hread
      · simp only [getSideEffectMarker, Session.bind_run, heq, Session.pure_run, Except.ok.injEq]
          at hread
        rw [hunique.eq howns.mem hfound.mem (howns.id_eq.trans hfound.id_eq.symm)]
        simpa using hread

/-- How a worker gets to its final write. -/
theorem SystemTaken.writing_cases (htaken : SystemTaken services state label next) {worker : ℕ}
    {claim : AgentJob} {write : FinalWrite} (hworker : next.workers worker = .writing claim write) :
    state.workers worker = .writing claim write ∨
      (∃ (ending : RunEnd) (called : Bool), state.workers worker = .running claim called ∧
        (ending.withoutCalls = true → called = false) ∧ ending.next = .write write ∧
        next.db = state.db) ∨
      ∃ ending maxRetries, inspectedStage claim ending maxRetries state.db =
        .writing claim write ∧ next.db = state.db := by
  by_cases hown : label.worker? = some worker
  · cases htaken with
    | @runEnds _ ending claimed called hstage hcalls =>
        cases hown
        simp only [SystemState.cancel, SystemState.setWorker, Function.update_self] at hworker
        cases hnext : ending.next <;> rw [hnext] at hworker <;> cases hworker
        exact .inr (.inl ⟨ending, called, hstage, hcalls, hnext, rfl⟩)
    | @inspect _ maxRetries ending claimed hstage =>
        cases hown
        simp only [SystemState.setWorker, Function.update_self] at hworker
        have hsame : claimed = claim := by
          unfold inspectedStage at hworker
          split at hworker <;> cases hworker <;> rfl
        subst hsame
        exact .inr (.inr ⟨ending, maxRetries, hworker, rfl⟩)
    | claim | write | stop | portBegin =>
        cases hown
        simp [SystemState.cancel, SystemState.setPort, SystemState.setWorker] at hworker
    | _ => cases hown
  · rw [htaken.worker_frame hown] at hworker
    exact .inl hworker

/-- Trusted writes stay right, provided that those which are not preceded by a
marker read start right. -/
theorem TrustedWrites.step (h : SystemInvariant state) (htrusted : TrustedWrites trusting state)
    (htaken : SystemTaken services state label next) (hallowed : NoLateCommit trusting state label)
    (huncertain : ∀ errorCode, trusting (.uncertain errorCode) = false)
    (hdirect : ∀ (worker : ℕ) (claim : AgentJob) (called : Bool) (ending : RunEnd)
      (write : FinalWrite) (job : AgentJob), state.workers worker = .running claim called →
      (ending.withoutCalls = true → called = false) → ending.next = .write write →
      trusting write = true → claim.attempt.Owns state.db job → job.sideEffectCommittedAt = none) :
    TrustedWrites trusting next := by
  intro worker claim write row hworker htrust howns
  rcases htaken.writing_cases hworker with hold | ⟨ending, called, hrunning, hcalls, hnext, hdb⟩ |
    ⟨ending, maxRetries, hinspected, hdb⟩
  · have hknown := h.workers_known worker claim (by rw [hold]; rfl)
    obtain ⟨job, hjob, hmarker⟩ := htaken.marker_eq h hknown
      (fun port now writes job hlabel hport =>
      hallowed port now _ writes job hlabel hport worker claim write hold htrust rfl) howns
    rw [hmarker]
    exact htrusted worker claim write job hold htrust hjob
  · rw [hdb] at howns
    exact hdirect worker claim called ending write row hrunning hcalls hnext htrust howns
  · rw [hdb] at howns
    refine (inspectedStage_writing h.lifecycle.jobs_unique hinspected ?_).2 row howns
    rintro errorCode rfl
    rw [huncertain] at htrust
    cases htrust

/-! ## Retries -/

/-- Whether a final write puts the job back into the queue. -/
def FinalWrite.isRetry : FinalWrite → Bool
  | .retry _ => true
  | _ => false

/-- A queued job has no marker, and a worker that is about to requeue its job
is right that it has none. -/
structure ReplayInvariant (state : SystemState) : Prop where
  queued : ∀ job ∈ state.db.jobs, job.status = .queued → job.sideEffectCommittedAt = none
  retries : TrustedWrites FinalWrite.isRetry state

theorem ReplayInvariant.step (h : SystemInvariant state) (hreplay : ReplayInvariant state)
    (htaken : SystemTaken services state label next)
    (hallowed : NoLateCommit FinalWrite.isRetry state label) : ReplayInvariant next := by
  constructor
  · intro row hrow hqueued
    rcases (htaken.rows h).back row hrow with ⟨job, hjob, hstep⟩ | ⟨-, hmarker, -⟩
    · by_cases hretry : label.cause state job = .retry
      · obtain ⟨worker, _, _, claim, errorCode, -, hworker, hattempt, hrunning⟩ :=
          SystemStep.cause_retry hretry
        rw [hstep.marker_live (by simp [hretry]) (.inr (.inr hqueued))]
        exact hreplay.retries worker claim _ job hworker rfl
          (hattempt ▸ Attempt.owns_of_running hjob hrunning)
      · rcases hstep.requeued hretry hqueued with hold | hnone
        · rw [hstep.marker_live (fun hmark => ?_) (.inr (.inr hqueued))]
          · exact hreplay.queued job hjob hold
          · obtain ⟨_, _, _, _, _, -, -, -, hrunning⟩ := SystemStep.cause_mark hmark
            rw [hold] at hrunning
            cases hrunning
        · exact hnone
    · exact hmarker
  · refine hreplay.retries.step h htaken hallowed (fun _ => rfl) ?_
    -- a requeue always comes after a marker read
    intro worker claim called ending write job _ _ hnext hretry
    cases ending <;> cases hnext <;> cases hretry

theorem replayInvariant_of_reachable
    (h : (systemMachine services).ReachableWith (NoLateCommit FinalWrite.isRetry) state) :
    ReplayInvariant state := by
  refine h.invariant ?_ ?_
  · rintro state ⟨hjobs, -, -, -, -, -, hworkers, -⟩
    constructor
    · simp [hjobs]
    · intro worker claim write job hworker
      rw [hworkers worker] at hworker
      cases hworker
  · intro state label next hreach hstate hallowed hstep
    exact hstate.step (systemInvariant_of_reachable hreach.reachable) (systemTaken_of_step hstep)
      hallowed

/-! ## Late commits -/

/-- A requeue by the attempt that has the job. -/
theorem scheduleRetry_of_owned {db : Db} {jobId tenantId : Uuid} {attemptCount : ℕ} {job : AgentJob}
    (h : Owned db jobId tenantId attemptCount job) (hunique : Table.Unique AgentJob.id db.jobs)
    (errorCode : String) (availableAt : Timestamp) :
    scheduleRetry jobId errorCode availableAt tenantId attemptCount db =
      (.ok (), db.setJob (requeuedRow errorCode availableAt job)) := by
  simp only [scheduleRetry, Session.transaction, Session.bind_run, h.requireRunning hunique]
  rfl

/-- What the violation of `NoLateCommit` is: a port that commits for an attempt
whose worker is about to make its write. -/
theorem lateCommit_of_not {port : ℕ} {now : Timestamp}
    (h : ¬ NoLateCommit trusting state (.portCommit port now)) :
    ∃ attempt writes job worker claim write, state.ports port = .fenced attempt writes job ∧
      state.workers worker = .writing claim write ∧ trusting write = true ∧
      claim.attempt = attempt := by
  simp only [NoLateCommit, not_forall, not_not] at h
  obtain ⟨_, _, attempt, writes, job, hlabel, hport, worker, claim, write, hworker,
      htrust, heq⟩ := h
  cases hlabel
  exact ⟨attempt, writes, job, worker, claim, write, hport, hworker, htrust, heq⟩

/-- After the commit the worker is still about to write, its lock is free, and
its attempt has the job with the marker set. -/
theorem SystemInvariant.after_commit (h : SystemInvariant state) {port worker : ℕ}
    {now : Timestamp} {writes : PortWrites} {job claim : AgentJob} {write : FinalWrite}
    (hport : state.ports port = .fenced claim.attempt writes job)
    (hworker : state.workers worker = .writing claim write)
    (hstep : (systemMachine services).step state (.portCommit port now) = some next) :
    SystemInvariant next ∧ next.workers worker = .writing claim write ∧
      next.locks (.job claim.id) = none ∧ claim.attempt.Owns next.db (markedRow now job) := by
  obtain ⟨howns, hlock⟩ := h.fenced port _ writes job hport
  have htaken := systemTaken_of_step hstep
  refine ⟨h.step htaken, ?_⟩
  simp only [systemMachine, systemStep, hport, Option.some.injEq] at hstep
  subst hstep
  refine ⟨hworker, ?_, ?_⟩
  · exact if_pos hlock
  · have hcount : job.attemptCount = claim.attempt.count := JobRepository.Owned.attempt_eq howns
    refine ⟨?_, howns.id_eq, howns.tenant_eq, hcount, howns.running⟩
    exact Table.mem_replace_self ⟨job, (writes.apply_jobs state.db).symm ▸ howns.mem, rfl⟩

/-- The final write of a worker whose lock is free is enabled. -/
theorem write_enabled {worker : ℕ} {claim : AgentJob} {write : FinalWrite}
    (hworker : state.workers worker = .writing claim write)
    (hfree : state.locks (.job claim.id) = none) (now availableAt : Timestamp) :
    (systemMachine services).step state (.write worker now availableAt) =
      some ((state.setDb (write.run claim now availableAt state.db).2).setWorker worker .idle) := by
  simp [systemMachine, systemStep, hworker, SystemState.free, hfree]

/-- No job is replayed after a committed side effect, in the runs without late
commits; and a late commit is always one step away from a replay. -/
structure NoReplay (services : Services) : Prop where
  never_queued : ∀ state,
    (systemMachine services).ReachableWith (NoLateCommit FinalWrite.isRetry) state →
    ∀ job ∈ state.db.jobs, job.sideEffectCommittedAt.isSome → job.status ≠ .queued
  never_claimed : ∀ state,
    (systemMachine services).ReachableWith (NoLateCommit FinalWrite.isRetry) state →
    ∀ now leaseUntil excluded skipped claim db,
      claimNext now leaseUntil excluded skipped state.db = (.ok (some claim), db) →
      claim.sideEffectCommittedAt = none
  late : ∀ state port now next, (systemMachine services).Reachable state →
    ¬ NoLateCommit FinalWrite.isRetry state (.portCommit port now) →
    (systemMachine services).step state (.portCommit port now) = some next →
    ∃ worker, ∀ now availableAt, ∃ final,
      (systemMachine services).step next (.write worker now availableAt) = some final ∧
      ∃ job ∈ final.db.jobs, job.sideEffectCommittedAt.isSome ∧ job.status = .queued

theorem no_replay_without_late_commits (services : Services) : NoReplay services := by
  constructor
  · intro state hreach job hjob hmarker hqueued
    rw [(replayInvariant_of_reachable hreach).queued job hjob hqueued] at hmarker
    cases hmarker
  · intro state hreach now leaseUntil excluded skipped claim db hclaim
    rcases claimNext_cases now leaseUntil excluded skipped state.db with
      heq | ⟨job, hjob, hqueued, -, heq⟩
    · rw [heq] at hclaim
      cases hclaim
    · rw [heq] at hclaim
      cases hclaim
      exact (replayInvariant_of_reachable hreach).queued job hjob hqueued
  · intro state port now next hreach hlate hstep
    obtain ⟨_, writes, job, worker, claim, write, hport, hworker, htrust, rfl⟩ :=
      lateCommit_of_not hlate
    obtain ⟨hinv, hwriting, hfree, howns⟩ :=
      (systemInvariant_of_reachable hreach).after_commit hport hworker hstep
    refine ⟨worker, fun later availableAt =>
      ⟨_, write_enabled hwriting hfree later availableAt, ?_⟩⟩
    cases write with
    | retry errorCode =>
        have hretry : (FinalWrite.retry errorCode).run claim later availableAt next.db =
            (.ok (), next.db.setJob (requeuedRow errorCode availableAt (markedRow now job))) :=
          scheduleRetry_of_owned howns hinv.lifecycle.jobs_unique errorCode availableAt
        refine ⟨requeuedRow errorCode availableAt (markedRow now job), ?_, rfl, rfl⟩
        rw [hretry]
        exact Table.mem_replace_self ⟨_, howns.mem, rfl⟩
    | fail | uncertain | succeed | park => cases htrust

/-! ### A commit between the marker read and the requeue -/

/-- Before anything has happened. -/
def idleSystem : SystemState :=
  ⟨emptyDb, fun _ => .idle, fun _ => .inactive, fun _ => none, fun _ => false⟩

/-- The worker calls its port, the transaction passes the fence, and then the
job deadline elapses; the marker read comes before the commit, the requeue
after it. -/
def orphanedSteps : List SystemStep :=
  [.enqueue exampleNewJob, .claim 0 0 60 [],
    .portBegin 0 0 (.flagForReview 5 "unclear"), .portOpen 0, .portInsert 0, .portFence 0,
    .runEnds 0 (.retryable "worker_timeout"), .inspect 0 3, .portCommit 0 12, .write 0 13 20]

theorem idleSystem_initial (services : Services) : (systemMachine services).initial idleSystem :=
  ⟨rfl, rfl, rfl, rfl, by simp [idleSystem, emptyDb, Table.Unique], by simp [idleSystem, emptyDb],
    fun _ => rfl, fun _ => rfl, fun _ => rfl, fun _ => rfl⟩

theorem orphaned_commit_requeued :
    (systemMachine noServices).initial idleSystem ∧ ∃ final job claim db,
      (systemMachine noServices).run idleSystem orphanedSteps = some final ∧
      (systemMachine noServices).Reachable final ∧ job ∈ final.db.jobs ∧
      job.sideEffectCommittedAt = some 12 ∧ job.status = .queued ∧
      claimNext 30 90 [] (fun _ => false) final.db = (.ok (some claim), db) ∧
      claim.sideEffectCommittedAt = some 12 := by
  have hinitial := idleSystem_initial noServices
  have hrun : (systemMachine noServices).run idleSystem orphanedSteps =
      some (((systemMachine noServices).run idleSystem orphanedSteps).getD idleSystem) := rfl
  exact ⟨hinitial, _, _, _, _, hrun, Machine.Reachable.run (.initial hinitial) _ hrun,
    List.mem_singleton.2 rfl, rfl, rfl, rfl, rfl⟩

end IntegraIntake
