import IntegraIntake.Agent.Transcript
import IntegraIntake.Lifecycle.ApprovalOperations
import IntegraIntake.Lifecycle.JobOperations
import IntegraIntake.System.Invariant
import IntegraIntake.Tools.PostgresPort
import IntegraIntake.Workers.Summary

/-!
# A claimed job in `serve_once`

The part of `AgentWorker.serve_once` after the claim: the run, the step that
persists how it ended, and the events that are emitted on the way.  A
persistence step commits and returns, or raises and rolls back; what it raises
inside one handler of the inner `try` is caught by the outer one.

The run itself is given by what it returns or raises and by the transactions it
commits.  Other processes write between any two steps, so every persistence step
finds a database of its own.
-/

namespace IntegraIntake

open Library JobRepository ApprovalRepository

/-! ## The run of a claim -/

/-- The codes `RetryableJobError` is raised with. -/
inductive RetryCode where
  | providerUnavailable | gatewayTimeout | workerTimeout
  deriving DecidableEq, Repr

/-- The code as the worker records it. -/
def RetryCode.code : RetryCode → WorkerErrorCode
  | .providerUnavailable => .providerUnavailable
  | .gatewayTimeout => .gatewayTimeout
  | .workerTimeout => .workerTimeout

/-- What `_run_claimed_with_lease` raises when it is not cancelled. -/
inductive ClaimError where
  | retryable (code : RetryCode) (sideEffectCommitted : Bool)
  | providerRequestRejected
  | jobLeaseLost
  | other

/-- What `_run_claimed_with_lease` returns. -/
inductive RunValue where
  | result (value : AgentRunResult) (steps_le : value.steps ≤ 8)
  | preflight (value : TerminalPreflightResult)

/-- The loop makes no more steps than an event may carry. -/
theorem AgentLoop.run_steps_le {σ π ε : Type} {llm : LLMClient π} {tools : ToolExecutor σ ε}
    {steps : ℕ} {messages : List AgentMessage} {world final : σ} {result : AgentRunResult}
    (h : AgentLoop.run llm tools steps messages world = (.ok result, final)) :
    result.steps ≤ 8 := by
  obtain ⟨hsteps, -⟩ := run_pathInOrder h
  calc result.steps
      = (answers llm tools (min steps maxSteps) (.initial messages) world).length := hsteps
    _ ≤ (asked llm tools (min steps maxSteps) (.initial messages) world).length :=
        List.length_filterMap_le _ _
    _ ≤ min steps maxSteps := length_asked_le _ _ _
    _ ≤ 8 := Nat.min_le_right _ _

/-- The transactions a run commits: those of its port, in the state the database
has at their commit, and the renewals of its lease. -/
inductive RunTransaction (claim : AgentJob) : Db → Db → Prop
  | mutation {before after : Db} {now : Timestamp} {writes : PortWrites} {result : PortResult}
      (h : writes.commit claim.attempt now before = (.ok result, after)) :
      RunTransaction claim before after
  | requestApproval {before after : Db} {newId : Uuid} {action : PendingAction} {reason : String}
      {expiresIn : ℤ} {now : Timestamp} {approval : Uuid × Timestamp}
      (h : createForRunningJob newId claim.tenantId claim.id claim.attemptCount action reason
        expiresIn now before = (.ok approval, after)) :
      RunTransaction claim before after
  | renewLease {before after : Db} {leaseUntil : Timestamp}
      (h : JobRepository.renewLease claim.id claim.tenantId claim.attemptCount leaseUntil before =
        (.ok true, after)) :
      RunTransaction claim before after

/-- The run of a claim: what it commits and how it ends. -/
structure ClaimedRun (claim : AgentJob) where
  commits : List (Db × Db)
  ending : Except ClaimError RunValue
  own : ∀ commit ∈ commits, RunTransaction claim commit.1 commit.2

/-! ## Events -/

/-- The `PersistenceOperation`s of the end of an attempt. -/
inductive PersistenceOperation where
  | scheduleRetry | recordAwaitingApproval | markSucceeded | markFailed | markFailedUncertain
  deriving DecidableEq, Repr

/-- An event `WORKER_JOB_FINISHED`, without its times. -/
structure JobFinished where
  jobId : Uuid
  attemptCount : ℕ
  outcome : OutcomeCode
  workerErrorCode : Option WorkerErrorCode
  steps : Option ℕ
  stopReason : Option StopReason
  sideEffectCommitted : Option Bool

/-- What the worker emits for a claim once the run has started. -/
inductive WorkerEvent where
  | jobFinished (event : JobFinished)
  | retryScheduled (workerErrorCode : Option WorkerErrorCode)
  | persistenceOperationFailed (operation : PersistenceOperation)

/-- The event of a finished job. -/
def WorkerEvent.finished? : WorkerEvent → Option JobFinished
  | .jobFinished event => some event
  | _ => none

/-! ## The worker -/

/-- The exceptions that the handlers of `serve_once` tell apart. -/
inductive StepError where
  | jobLeaseLost
  | other
  deriving DecidableEq, Repr

/-- What the handlers tell of an exception of the repositories. -/
def StepError.ofApp : AppError → StepError
  | .jobLeaseLost _ => .jobLeaseLost
  | _ => .other

/-- What a call of `serve_once` takes from outside.  The persistence steps of the
call are numbered. -/
structure Outside where
  /-- The database a step finds. -/
  db : ℕ → Db
  /-- What a step raises before it commits, if it does. -/
  fault : ℕ → Option StepError
  now : ℕ → Timestamp
  /-- `_retry_delay_with_jitter`. -/
  retryDelay : ℕ → ℤ
  maxRetries : ℕ

/-- A call in progress: how many persistence steps it made, the flag `finished`,
and what it emitted and committed. -/
structure ServeWorld where
  steps : ℕ
  finished : Bool
  events : List WorkerEvent
  commits : List (Db × Db)

/-- The events `WORKER_JOB_FINISHED`. -/
def ServeWorld.finishedEvents (world : ServeWorld) : List JobFinished :=
  world.events.filterMap WorkerEvent.finished?

/-- A program of `serve_once`. -/
abbrev Serve (α : Type) := Session ServeWorld StepError α

/-- The operation that a final write is observed as. -/
def FinalWrite.operation : FinalWrite → PersistenceOperation
  | .retry _ => .scheduleRetry
  | .fail _ => .markFailed
  | .uncertain _ => .markFailedUncertain
  | .succeed _ => .markSucceeded
  | .park _ => .recordAwaitingApproval

namespace AgentWorker

variable (outside : Outside) (claim : AgentJob)

/-- `_now`. -/
def clock : Serve Timestamp := fun world => (.ok (outside.now world.steps), world)

/-- Emit an event. -/
def emit (event : WorkerEvent) : Serve Unit :=
  Session.write fun world => { world with events := world.events ++ [event] }

/-- `_emit_job_finished`: an event refuses more than eight steps. -/
def emitJobFinished (event : JobFinished) : Serve Unit :=
  if event.steps.all (· ≤ 8) then emit (.jobFinished event) else Session.raise .other

/-- `finished = True`. -/
def setFinished : Serve Unit :=
  Session.write fun world => { world with finished := true }

/-- The event of an attempt that ends with an error code or none. -/
def finishedWith (outcome : OutcomeCode) (errorCode : Option WorkerErrorCode) : JobFinished :=
  ⟨claim.id, claim.attemptCount, outcome, errorCode, none, none, none⟩

/-- The event of an attempt that ends after a side effect. -/
def finishedUncertain (errorCode : WorkerErrorCode) : JobFinished :=
  { finishedWith claim .failedUncertain (some errorCode) with sideEffectCommitted := some true }

/-- One session with the database; the result comes with the states before and
after. -/
def persistenceStep {α : Type} (query : Query α) : Serve (α × Db × Db) := fun world =>
  let next := { world with steps := world.steps + 1 }
  match outside.fault world.steps with
  | some error => (.error error, next)
  | none =>
    match query (outside.db world.steps) with
    | (.ok a, after) => (.ok (a, outside.db world.steps, after), next)
    -- the exception leaves the session, which rolls back
    | (.error error, _) => (.error (.ofApp error), next)

/-- `_has_side_effect`. -/
def hasSideEffect : Serve Bool :=
  if claim.sideEffectCommittedAt.isSome then pure true
  else do
    let answer ← persistenceStep outside (IntegraIntake.hasSideEffect claim)
    pure answer.1

/-- The transaction of a final write, with the handlers around it. -/
def commit (now : Timestamp) (write : FinalWrite) : Serve Unit :=
  Session.tryCatch
    (do
      let answer ← persistenceStep outside
        (write.run claim now (now + outside.retryDelay claim.attemptCount))
      Session.write fun world => { world with commits := world.commits ++ [answer.2] })
    fun
    -- a lost lease is no failure of the operation
    | .jobLeaseLost => Session.raise .jobLeaseLost
    | .other => do
      emit (.persistenceOperationFailed write.operation)
      Session.raise .other

/-- `_schedule_retry`. -/
def scheduleRetry (errorCode : String) : Serve Unit := do
  let now ← clock outside
  commit outside claim now (.retry errorCode)

/-- `_mark_failed`. -/
def markFailed (errorCode : String) : Serve Unit := do
  let now ← clock outside
  commit outside claim now (.fail errorCode)

/-- `_mark_failed_uncertain`. -/
def markFailedUncertain (errorCode : String) : Serve Unit := do
  let now ← clock outside
  commit outside claim now (.uncertain errorCode)

/-- `_persist_preflight_result`. -/
def persistPreflightResult (result : TerminalPreflightResult) : Serve OutcomeCode := do
  let now ← clock outside
  if result.reason = .documentUnreadable then
    commit outside claim now (.succeed (preflightSummary result))
    pure .succeeded
  else
    commit outside claim now (.fail result.reason.value)
    pure .failed

/-- The part of `_persist_result` for a run that did not complete. -/
def persistFailure (now : Timestamp) (result : AgentRunResult) : Serve OutcomeCode := do
  let uncertain ← hasSideEffect outside claim
  if uncertain then
    commit outside claim now (.uncertain WorkerErrorCode.agentFailedAfterSideEffect.value)
    pure .failedUncertain
  else
    let errorCode : WorkerErrorCode :=
      if result.reason = .toolExecutionFailed then .toolExecutionFailed else .agentFailed
    commit outside claim now (.fail errorCode.value)
    pure .failed

/-- `_persist_result`. -/
def persistResult (result : AgentRunResult) : Serve OutcomeCode := do
  let now ← clock outside
  if result.status ≠ .completed then persistFailure outside claim now result
  else if result.executionPath = [] then
    -- a completed run with nothing to show
    commit outside claim now (.fail WorkerErrorCode.agentFailed.value)
    pure .failed
  else if approvalWasRequested result then
    commit outside claim now (.park (resultSummary result))
    pure .needsApproval
  else
    commit outside claim now (.succeed (resultSummary result))
    pure .succeeded

/-! ## The handlers of the inner `try` -/

/-- After the marker read of a `RetryableJobError`. -/
def endRetryable (code : RetryCode) (hasSideEffect : Bool) : Serve Unit := do
  if hasSideEffect then
    markFailedUncertain outside claim WorkerErrorCode.sideEffectCommitted.value
    emitJobFinished (finishedUncertain claim .sideEffectCommitted)
  else if outside.maxRetries < claim.attemptCount then
    markFailed outside claim WorkerErrorCode.retryExhausted.value
    emitJobFinished (finishedWith claim .failed (some .retryExhausted))
  else
    scheduleRetry outside claim code.code.value
    emit (.retryScheduled (some code.code))
    emitJobFinished (finishedWith claim .retryScheduled (some code.code))
  setFinished

/-- `except RetryableJobError`. -/
def handleRetryable (code : RetryCode) (sideEffectCommitted : Bool) : Serve Unit := do
  -- what the run has seen committed is not looked up again
  let marked ← if sideEffectCommitted then pure true else hasSideEffect outside claim
  endRetryable outside claim code marked

/-- After the marker read of `ProviderRequestRejectedError` and `Exception`. -/
def endUnexpected (errorCode : WorkerErrorCode) (hasSideEffect : Bool) : Serve Unit := do
  if hasSideEffect then
    markFailedUncertain outside claim WorkerErrorCode.unexpectedAfterSideEffect.value
    emitJobFinished (finishedUncertain claim .unexpectedAfterSideEffect)
  else
    markFailed outside claim errorCode.value
    emitJobFinished (finishedWith claim .failed (some errorCode))
  setFinished

/-- `except ProviderRequestRejectedError` and `except Exception`, which fail the
job with different codes. -/
def handleUnexpected (errorCode : WorkerErrorCode) : Serve Unit := do
  let marked ← hasSideEffect outside claim
  endUnexpected outside claim errorCode marked

/-- `except JobLeaseLostError`, of the inner and of the outer `try`. -/
def handleLeaseLost : Serve Unit := do
  emitJobFinished (finishedWith claim .leaseLost (some .leaseLost))
  setFinished

/-- The `worker_error_code` of a preflight result. -/
def preflightErrorCode (result : TerminalPreflightResult) : Option WorkerErrorCode :=
  match result.reason with
  | .capabilityUnavailable => some .capabilityUnavailable
  | .snapshotIncompatible => some .snapshotIncompatible
  | .documentUnreadable => none

/-- The `else` of the inner `try`, for a preflight result. -/
def finishPreflight (result : TerminalPreflightResult) : Serve Unit := do
  let outcome ← persistPreflightResult outside claim result
  emitJobFinished { finishedWith claim outcome (preflightErrorCode result) with steps := some 0 }
  setFinished

/-- The `else` of the inner `try`, for a result of the loop. -/
def finishResult (result : AgentRunResult) : Serve Unit := do
  let outcome ← persistResult outside claim result
  emitJobFinished { finishedWith claim outcome none with
    steps := some result.steps
    stopReason := some result.reason
    sideEffectCommitted := some (outcome = .failedUncertain) }
  setFinished

/-- The inner `try`. -/
def settle : Except ClaimError RunValue → Serve Unit
  | .error (.retryable code sideEffectCommitted) =>
    handleRetryable outside claim code sideEffectCommitted
  | .error .providerRequestRejected => handleUnexpected outside claim .providerRequestRejected
  | .error .jobLeaseLost => handleLeaseLost claim
  | .error .other => handleUnexpected outside claim .workerError
  | .ok (.preflight result) => finishPreflight outside claim result
  | .ok (.result result _) => finishResult outside claim result

/-- `except Exception` of the outer `try`. -/
def handlePersistenceError : Serve Unit := do
  let world ← Session.read
  if world.finished then pure ()
  else emitJobFinished (finishedWith claim .failed (some .persistenceError))
  Session.raise .other

/-- `serve_once` once it has claimed a job and emitted that it did. -/
def serveClaimed (ending : Except ClaimError RunValue) : Serve Bool := do
  Session.tryCatch (settle outside claim ending) fun
    | .jobLeaseLost => handleLeaseLost claim
    | .other => handlePersistenceError claim
  pure true

/-- The call, from the commits of the run on. -/
def serveOnce {claim : AgentJob} (run : ClaimedRun claim) : Except StepError Bool × ServeWorld :=
  serveClaimed outside claim run.ending ⟨0, false, [], run.commits⟩

end AgentWorker

/-! ## The row of an attempt

`attemptStatus` is the status of the one row that the statements of an attempt
select.  A transition of the attempt is a commit of the worker that finds this
row running and leaves it with another status. -/

/-- The status of the row of a claim. -/
def attemptStatus (claim : AgentJob) (db : Db) : Option JobStatus :=
  (getJob claim.id claim.tenantId claim.attemptCount db).map AgentJob.status

/-- A commit took the attempt from `running` to `status`. -/
def MovedTo (claim : AgentJob) (commits : List (Db × Db)) (status : JobStatus) : Prop :=
  ∃ commit ∈ commits, attemptStatus claim commit.1 = some .running ∧
    attemptStatus claim commit.2 = some status

/-- A commit took the attempt out of `running`. -/
def LeftRunning (claim : AgentJob) (commits : List (Db × Db)) : Prop :=
  ∃ commit ∈ commits, attemptStatus claim commit.1 = some .running ∧
    attemptStatus claim commit.2 ≠ some .running

/-- The status that a final write leaves. -/
def FinalWrite.status : FinalWrite → JobStatus
  | .retry _ => .queued
  | .fail _ => .failed
  | .uncertain _ => .failedUncertain
  | .succeed _ => .succeeded
  | .park _ => .awaitingApproval

section Rows

variable {claim : AgentJob} {before after db : Db}

/-- Replacing the row with the identifier of the claim decides its status. -/
theorem attemptStatus_setJob {row : AgentJob} (hid : row.id = claim.id)
    (htenant : row.tenantId = claim.tenantId) (hattempt : row.attemptCount = claim.attemptCount)
    (hmem : ∃ job ∈ db.jobs, job.id = claim.id) :
    attemptStatus claim (db.setJob row) = some row.status := by
  have hrow : row ∈ (db.setJob row).jobs := by
    obtain ⟨job, hjob, hjobId⟩ := hmem
    exact Table.mem_replace_self ⟨job, hjob, hjobId.trans hid.symm⟩
  unfold attemptStatus
  cases hfound : getJob claim.id claim.tenantId claim.attemptCount (db.setJob row) with
  | none =>
      have hnone := List.find?_eq_none.1 hfound row hrow
      simp [hid, htenant, hattempt] at hnone
  | some found =>
      obtain ⟨hfoundMem, hfoundId, -, -⟩ := getJob_eq_some hfound
      rcases Table.mem_of_mem_replace hfoundMem with rfl | ⟨-, hne⟩
      · rfl
      · exact absurd (hfoundId.trans hid.symm) hne

theorem requireRunning_ok {message : String} {job : AgentJob}
    (h : requireRunning claim.id claim.tenantId claim.attemptCount message before =
      (.ok job, after)) :
    attemptStatus claim before = some .running ∧ after = before ∧
      job ∈ before.jobs ∧ job.id = claim.id ∧ job.tenantId = claim.tenantId ∧
      job.attemptCount = claim.attemptCount := by
  unfold requireRunning at h
  rw [Session.read_bind_run] at h
  cases hjob : getJob claim.id claim.tenantId claim.attemptCount before with
  | none =>
      rw [hjob] at h
      cases h
  | some found =>
      rw [hjob] at h
      by_cases hrunning : found.status = .running
      · simp only [hrunning, if_true] at h
        cases h
        refine ⟨?_, rfl, getJob_eq_some hjob⟩
        rw [attemptStatus, hjob, Option.map_some, hrunning]
      · simp only [hrunning, if_false] at h
        cases h

/-- A transaction of the attempt that ends by writing the row it required. -/
theorem moved_of_transaction {message : String} {body : AgentJob → Query Unit}
    {status : JobStatus}
    (h : Session.transaction (requireRunning claim.id claim.tenantId claim.attemptCount message >>=
      body) before = (.ok (), after))
    (hbody : ∀ job, body job before = (.ok (), after) → ∃ (middle : Db) (row : AgentJob),
      after = middle.setJob row ∧ middle.jobs = before.jobs ∧ row.id = job.id ∧
      row.tenantId = job.tenantId ∧
      row.attemptCount = job.attemptCount ∧ row.status = status) :
    attemptStatus claim before = some .running ∧ attemptStatus claim after = some status := by
  obtain ⟨job, middle, hrequired, hrest⟩ := Session.bind_eq_ok (Session.transaction_ok h)
  obtain ⟨hrunning, rfl, hmem, hid, htenant, hattempt⟩ := requireRunning_ok hrequired
  obtain ⟨written, row, rfl, hjobs, hrowId, hrowTenant, hrowAttempt, rfl⟩ := hbody job hrest
  refine ⟨hrunning, attemptStatus_setJob (hrowId.trans hid) (hrowTenant.trans htenant)
    (hrowAttempt.trans hattempt) ⟨job, ?_, hid⟩⟩
  rw [hjobs]
  exact hmem

/-- A final write that commits moves the attempt to its status. -/
theorem FinalWrite.run_attemptStatus {write : FinalWrite} {now availableAt : Timestamp}
    (h : write.run claim now availableAt before = (.ok (), after)) :
    attemptStatus claim before = some .running ∧
      attemptStatus claim after = some write.status := by
  have hterminal : ∀ (status : JobStatus) (result : Option Json) (errorCode : Option String),
      markTerminal claim.id status now claim.tenantId claim.attemptCount result errorCode before =
        (.ok (), after) →
      attemptStatus claim before = some .running ∧ attemptStatus claim after = some status := by
    intro status result errorCode hmark
    refine moved_of_transaction hmark fun job hbody => ?_
    cases hbody
    exact ⟨_, _, rfl, cancelStagedApproval_jobs .., rfl, rfl, rfl, rfl⟩
  cases write with
  | retry errorCode =>
      refine moved_of_transaction h fun job hbody => ?_
      cases hbody
      exact ⟨_, _, rfl, rfl, rfl, rfl, rfl, rfl⟩
  | fail errorCode => exact hterminal _ _ _ h
  | uncertain errorCode => exact hterminal _ _ _ h
  | succeed result => exact hterminal _ _ _ h
  | park result =>
      refine moved_of_transaction h fun job hbody => ?_
      rw [Session.read_bind_run] at hbody
      cases happroval : before.approvalOf? claim.id claim.tenantId with
      | none =>
          rw [happroval] at hbody
          cases hbody
      | some approval =>
          rw [happroval] at hbody
          by_cases hstaged : approval.status = .staged
          · simp only [hstaged, if_true] at hbody
            cases hbody
            exact ⟨_, _, rfl, rfl, rfl, rfl, rfl, rfl⟩
          · simp only [hstaged, if_false] at hbody
            cases hbody

/-- What a run commits leaves the attempt running. -/
theorem RunTransaction.keeps_running (h : RunTransaction claim before after)
    (hrunning : attemptStatus claim before = some .running) :
    attemptStatus claim after = some .running := by
  cases h with
  | @mutation now writes result hcommit =>
      -- the fence has found the job running, and the marker is all that changes
      unfold PortWrites.commit at hcommit
      rw [Session.read_bind_run] at hcommit
      cases hjob : fencedJob claim.attempt before with
      | none =>
          rw [hjob] at hcommit
          cases hcommit
      | some job =>
          rw [hjob] at hcommit
          cases hcommit
          obtain ⟨hid, htenant, hstatus, hattempt⟩ : job.id = claim.id ∧
              job.tenantId = claim.tenantId ∧ job.status = .running ∧
              job.attemptCount = claim.attemptCount := by
            have hfound := List.find?_some hjob
            exact of_decide_eq_true hfound
          have hmarked : (markedRow now job).status = .running := hstatus
          rw [← hmarked]
          refine attemptStatus_setJob hid htenant hattempt ⟨job, ?_, hid⟩
          rw [writes.apply_jobs]
          exact List.mem_of_find?_eq_some hjob
  | @requestApproval newId action reason expiresIn now approval hrequest =>
      have hjobs : after.jobs = before.jobs := by
        rcases createForRunningJob_cases newId claim.tenantId claim.id claim.attemptCount action
          reason expiresIn now before with ⟨error, heq⟩ | ⟨job, result, events, -,
            ⟨existing, row, -, -, -, -, heq⟩ | ⟨-, heq⟩⟩
        · rw [heq] at hrequest
          cases hrequest
        · rw [heq] at hrequest
          cases hrequest
          rfl
        · rw [heq] at hrequest
          cases hrequest
          rfl
      rw [← hrunning]
      unfold attemptStatus getJob
      rw [hjobs]
  | @renewLease leaseUntil hrenew =>
      rcases renewLease_cases claim.id claim.tenantId claim.attemptCount leaseUntil before with
        heq | ⟨job, howned, heq⟩
      · rw [heq] at hrenew
        cases hrenew
      · rw [heq] at hrenew
        cases hrenew
        rw [← howned.running]
        exact attemptStatus_setJob howned.id_eq howned.tenant_eq howned.attempt_eq
          ⟨job, howned.mem, howned.id_eq⟩

theorem ClaimedRun.not_left (run : ClaimedRun claim) : ¬ LeftRunning claim run.commits := by
  rintro ⟨commit, hcommit, hrunning, hleft⟩
  exact hleft ((run.own commit hcommit).keeps_running hrunning)

/-- One more commit that moves the attempt is the only one that does. -/
theorem moved_append_iff {commits : List (Db × Db)} (hleft : ¬ LeftRunning claim commits)
    {status : JobStatus} (hbefore : attemptStatus claim before = some .running)
    (hafter : attemptStatus claim after = some status) {other : JobStatus}
    (hother : other ≠ .running) :
    MovedTo claim (commits ++ [(before, after)]) other ↔ other = status := by
  constructor
  · rintro ⟨commit, hcommit, hrunning, hstatus⟩
    rcases List.mem_append.1 hcommit with hearlier | hlast
    · refine absurd ⟨commit, hearlier, hrunning, ?_⟩ hleft
      rw [hstatus]
      simpa using hother
    · rw [List.mem_singleton.1 hlast, hafter] at hstatus
      exact (Option.some.inj hstatus).symm
  · rintro rfl
    exact ⟨(before, after), by simp, hbefore, hafter⟩

end Rows

/-! ## The event and the row -/

/-- The outcome that goes with a status. -/
def FinalWrite.outcome : FinalWrite → OutcomeCode
  | .retry _ => .retryScheduled
  | .fail _ => .failed
  | .uncertain _ => .failedUncertain
  | .succeed _ => .succeeded
  | .park _ => .needsApproval

/-- An event says of its claim what the commits of the worker did to it. -/
structure EventMatches (claim : AgentJob) (event : JobFinished) (commits : List (Db × Db)) :
    Prop where
  job_eq : event.jobId = claim.id
  attempt_eq : event.attemptCount = claim.attemptCount
  succeeded : event.outcome = .succeeded ↔ MovedTo claim commits .succeeded
  needsApproval : event.outcome = .needsApproval ↔ MovedTo claim commits .awaitingApproval
  failedUncertain : event.outcome = .failedUncertain ↔ MovedTo claim commits .failedUncertain
  retryScheduled : event.outcome = .retryScheduled ↔ MovedTo claim commits .queued
  failed : event.outcome = .failed ∧ event.workerErrorCode ≠ some .persistenceError ↔
    MovedTo claim commits .failed
  lost : event.outcome = .leaseLost ∨ event.workerErrorCode = some .persistenceError →
    ¬ LeftRunning claim commits

/-- The call has emitted no last event yet, and no commit ended the attempt. -/
structure Pending (claim : AgentJob) (world : ServeWorld) : Prop where
  unfinished : world.finished = false
  silent : world.finishedEvents = []
  running : ¬ LeftRunning claim world.commits

/-- A commit ended the attempt, and the last event is still to come. -/
structure Committed (claim : AgentJob) (status : JobStatus) (world : ServeWorld) : Prop where
  silent : world.finishedEvents = []
  moved : ∀ other, other ≠ .running → (MovedTo claim world.commits other ↔ other = status)

/-- The call has emitted its one last event. -/
def Reported (claim : AgentJob) (world : ServeWorld) : Prop :=
  ∃ event, world.finishedEvents = [event] ∧ EventMatches claim event world.commits

section Matches

variable {claim : AgentJob} {event : JobFinished} {world : ServeWorld}

theorem EventMatches.of_committed {write : FinalWrite} (hjob : event.jobId = claim.id)
    (hattempt : event.attemptCount = claim.attemptCount) (houtcome : event.outcome = write.outcome)
    (hcode : event.workerErrorCode ≠ some .persistenceError)
    (h : Committed claim write.status world) : EventMatches claim event world.commits := by
  refine ⟨hjob, hattempt, ?_, ?_, ?_, ?_, ?_, ?_⟩
  · rw [houtcome, h.moved _ (by decide)]
    cases write <;> simp [FinalWrite.outcome, FinalWrite.status]
  · rw [houtcome, h.moved _ (by decide)]
    cases write <;> simp [FinalWrite.outcome, FinalWrite.status]
  · rw [houtcome, h.moved _ (by decide)]
    cases write <;> simp [FinalWrite.outcome, FinalWrite.status]
  · rw [houtcome, h.moved _ (by decide)]
    cases write <;> simp [FinalWrite.outcome, FinalWrite.status]
  · rw [houtcome, h.moved _ (by decide)]
    cases write <;> simp [FinalWrite.outcome, FinalWrite.status, hcode]
  · rintro (hlost | hlost)
    · rw [houtcome] at hlost
      cases write <;> cases hlost
    · exact absurd hlost hcode

theorem MovedTo.left {commits : List (Db × Db)} {status : JobStatus}
    (h : MovedTo claim commits status)
    (hstatus : status ≠ .running) : LeftRunning claim commits := by
  obtain ⟨commit, hcommit, hrunning, hmoved⟩ := h
  refine ⟨commit, hcommit, hrunning, ?_⟩
  rw [hmoved]
  simpa using hstatus

theorem EventMatches.of_pending (hjob : event.jobId = claim.id)
    (hattempt : event.attemptCount = claim.attemptCount)
    (houtcome : event.outcome = .leaseLost ∨
      event.outcome = .failed ∧ event.workerErrorCode = some .persistenceError)
    (h : Pending claim world) : EventMatches claim event world.commits := by
  have hnot : ∀ status, status ≠ .running → ¬ MovedTo claim world.commits status :=
    fun status hstatus hmoved => h.running (hmoved.left hstatus)
  refine ⟨hjob, hattempt, ?_, ?_, ?_, ?_, ?_, fun _ => h.running⟩
  · rcases houtcome with hlost | ⟨hfailed, -⟩ <;> simp [*]
  · rcases houtcome with hlost | ⟨hfailed, -⟩ <;> simp [*]
  · rcases houtcome with hlost | ⟨hfailed, -⟩ <;> simp [*]
  · rcases houtcome with hlost | ⟨hfailed, -⟩ <;> simp [*]
  · rcases houtcome with hlost | ⟨hfailed, hcode⟩ <;> simp [*]

end Matches

/-! ## The steps of the call -/

namespace AgentWorker

variable {outside : Outside} {claim : AgentJob}

/-- A program that needs no last event yet and leaves it so. -/
def StaysPending {α : Type} (claim : AgentJob) (program : Serve α) : Prop :=
  Session.Ends (Pending claim) program (fun _ => Pending claim) fun _ => Pending claim

/-- A program that settles the call or raises before anything is committed. -/
def Settles (claim : AgentJob) (program : Serve Unit) : Prop :=
  Session.Ends (Pending claim) program (fun _ => Reported claim) fun _ => Pending claim

theorem finishedEvents_emit (world : ServeWorld) (event : WorkerEvent) :
    { world with events := world.events ++ [event] }.finishedEvents =
      world.finishedEvents ++ event.finished?.toList := by
  show (world.events ++ [event]).filterMap WorkerEvent.finished? = _
  rw [List.filterMap_append]
  cases event <;> rfl

theorem clock_stays : StaysPending claim (clock outside) := fun _ h => h

theorem persistenceStep_stays {α : Type} (query : Query α) :
    StaysPending claim (persistenceStep outside query) := by
  intro world h
  have hnext : Pending claim { world with steps := world.steps + 1 } :=
    ⟨h.unfinished, h.silent, h.running⟩
  unfold persistenceStep
  -- what the step returns or raises, it emits nothing
  cases outside.fault world.steps with
  | some error => exact hnext
  | none =>
      cases query (outside.db world.steps) with
      | mk outcome after => cases outcome <;> exact hnext

theorem hasSideEffect_stays : StaysPending claim (hasSideEffect outside claim) := by
  unfold hasSideEffect
  split
  · exact .pure fun _ h => h
  · exact (persistenceStep_stays _).bind fun _ => .pure fun _ h => h

/-- The transaction moves the attempt and is the first commit that does. -/
theorem commit_ends (now : Timestamp) (write : FinalWrite) :
    Session.Ends (Pending claim) (commit outside claim now write)
      (fun _ => Committed claim write.status) fun _ => Pending claim := by
  unfold commit
  refine Session.Ends.tryCatch (E := fun _ => Pending claim) ?_ ?_
  · intro world h
    rw [Session.bind_run]
    unfold persistenceStep
    cases outside.fault world.steps with
    | some error => exact ⟨h.unfinished, h.silent, h.running⟩
    | none =>
        cases hrun : write.run claim now (now + outside.retryDelay claim.attemptCount)
            (outside.db world.steps) with
        | mk outcome after =>
            cases outcome with
            | error error => exact ⟨h.unfinished, h.silent, h.running⟩
            | ok _ =>
                obtain ⟨hbefore, hafter⟩ := FinalWrite.run_attemptStatus hrun
                exact ⟨h.silent, fun other hother =>
                  moved_append_iff h.running hbefore hafter hother⟩
  · intro error
    cases error with
    | jobLeaseLost => exact .raise fun _ h => h
    | other =>
        refine Session.Ends.bind (.write (Q := fun _ => Pending claim) fun world h => ?_)
          fun _ => .raise fun _ h => h
        exact ⟨h.unfinished, by rw [finishedEvents_emit, h.silent]; rfl, h.running⟩

/-- The last event, sent when it says what was committed. -/
theorem emitJobFinished_settles {P : ServeWorld → Prop} {E : StepError → ServeWorld → Prop}
    {event : JobFinished} (hsteps : event.steps.all (· ≤ 8) = true)
    (h : ∀ world, P world →
      world.finishedEvents = [] ∧ EventMatches claim event world.commits) :
    Session.Ends P (emitJobFinished event) (fun _ => Reported claim) E := by
  unfold emitJobFinished
  rw [if_pos hsteps]
  refine .write fun world hworld => ?_
  obtain ⟨hsilent, hmatches⟩ := h world hworld
  refine ⟨event, ?_, hmatches⟩
  rw [finishedEvents_emit, hsilent]
  rfl

theorem setFinished_settled {E : StepError → ServeWorld → Prop} :
    Session.Ends (Reported claim) setFinished (fun _ => Reported claim) E :=
  .write fun _ h => h

theorem retryScheduled_committed {status : JobStatus} {E : StepError → ServeWorld → Prop}
    (errorCode : Option WorkerErrorCode) :
    Session.Ends (Committed claim status) (emit (.retryScheduled errorCode))
      (fun _ => Committed claim status) E :=
  .write fun _ h => ⟨by rw [finishedEvents_emit, h.silent]; rfl, h.moved⟩

/-- The event of a write, once the write is committed. -/
theorem finish_committed (write : FinalWrite) {event : JobFinished}
    {E : StepError → ServeWorld → Prop} (hsteps : event.steps.all (· ≤ 8) = true)
    (hjob : event.jobId = claim.id) (hattempt : event.attemptCount = claim.attemptCount)
    (houtcome : event.outcome = write.outcome)
    (hcode : event.workerErrorCode ≠ some .persistenceError) :
    Session.Ends (Committed claim write.status) (emitJobFinished event >>= fun _ => setFinished)
      (fun _ => Reported claim) E := by
  have hevent : Session.Ends (Committed claim write.status) (emitJobFinished event)
      (fun _ => Reported claim) E :=
    emitJobFinished_settles hsteps fun _ h =>
      ⟨h.silent, .of_committed hjob hattempt houtcome hcode h⟩
  exact hevent.bind fun _ => setFinished_settled

/-! ## The handlers -/

theorem markFailed_ends (errorCode : String) :
    Session.Ends (Pending claim) (markFailed outside claim errorCode)
      (fun _ => Committed claim .failed) fun _ => Pending claim :=
  clock_stays.bind fun now => commit_ends now (.fail errorCode)

theorem markFailedUncertain_ends (errorCode : String) :
    Session.Ends (Pending claim) (markFailedUncertain outside claim errorCode)
      (fun _ => Committed claim .failedUncertain) fun _ => Pending claim :=
  clock_stays.bind fun now => commit_ends now (.uncertain errorCode)

theorem scheduleRetry_ends (errorCode : String) :
    Session.Ends (Pending claim) (scheduleRetry outside claim errorCode)
      (fun _ => Committed claim .queued) fun _ => Pending claim :=
  clock_stays.bind fun now => commit_ends now (.retry errorCode)

theorem persistPreflightResult_ends (result : TerminalPreflightResult) :
    Session.Ends (Pending claim) (persistPreflightResult outside claim result)
      (fun outcome world => ∃ write : FinalWrite, outcome = write.outcome ∧
        Committed claim write.status world) fun _ => Pending claim := by
  refine clock_stays.bind fun now => ?_
  split
  · exact (commit_ends now _).bind fun _ => .pure fun _ h => ⟨_, rfl, h⟩
  · exact (commit_ends now _).bind fun _ => .pure fun _ h => ⟨_, rfl, h⟩

theorem persistFailure_ends (now : Timestamp) (result : AgentRunResult) :
    Session.Ends (Pending claim) (persistFailure outside claim now result)
      (fun outcome world => ∃ write : FinalWrite, outcome = write.outcome ∧
        Committed claim write.status world) fun _ => Pending claim := by
  refine hasSideEffect_stays.bind fun uncertain => ?_
  split
  · exact (commit_ends now _).bind fun _ => .pure fun _ h => ⟨_, rfl, h⟩
  · exact (commit_ends now _).bind fun _ => .pure fun _ h => ⟨_, rfl, h⟩

theorem persistResult_ends (result : AgentRunResult) :
    Session.Ends (Pending claim) (persistResult outside claim result)
      (fun outcome world => ∃ write : FinalWrite, outcome = write.outcome ∧
        Committed claim write.status world) fun _ => Pending claim := by
  refine clock_stays.bind fun now => ?_
  split
  · exact persistFailure_ends now result
  · split
    · exact (commit_ends now _).bind fun _ => .pure fun _ h => ⟨_, rfl, h⟩
    · split
      · exact (commit_ends now _).bind fun _ => .pure fun _ h => ⟨_, rfl, h⟩
      · exact (commit_ends now _).bind fun _ => .pure fun _ h => ⟨_, rfl, h⟩

theorem endRetryable_settles (code : RetryCode) (marked : Bool) :
    Settles claim (endRetryable outside claim code marked) := by
  unfold endRetryable
  split
  · exact (markFailedUncertain_ends _).bind fun _ =>
      finish_committed (.uncertain WorkerErrorCode.sideEffectCommitted.value) rfl rfl rfl rfl nofun
  · split
    · exact (markFailed_ends _).bind fun _ =>
        finish_committed (.fail WorkerErrorCode.retryExhausted.value) rfl rfl rfl rfl nofun
    · refine (scheduleRetry_ends _).bind fun _ => (retryScheduled_committed _).bind fun _ => ?_
      exact finish_committed (.retry code.code.value) rfl rfl rfl rfl (by cases code <;> nofun)

theorem handleRetryable_settles (code : RetryCode) (sideEffectCommitted : Bool) :
    Settles claim (handleRetryable outside claim code sideEffectCommitted) := by
  unfold handleRetryable
  cases sideEffectCommitted with
  | true => exact endRetryable_settles code true
  | false => exact hasSideEffect_stays.bind fun marked => endRetryable_settles code marked

theorem endUnexpected_settles {errorCode : WorkerErrorCode} (hcode : errorCode ≠ .persistenceError)
    (marked : Bool) : Settles claim (endUnexpected outside claim errorCode marked) := by
  unfold endUnexpected
  split
  · exact (markFailedUncertain_ends _).bind fun _ => finish_committed
      (.uncertain WorkerErrorCode.unexpectedAfterSideEffect.value) rfl rfl rfl rfl nofun
  · exact (markFailed_ends _).bind fun _ => finish_committed (.fail errorCode.value) rfl rfl rfl rfl
      fun heq => hcode (Option.some.inj heq)

theorem handleUnexpected_settles {errorCode : WorkerErrorCode}
    (hcode : errorCode ≠ .persistenceError) :
    Settles claim (handleUnexpected outside claim errorCode) :=
  hasSideEffect_stays.bind fun marked => endUnexpected_settles hcode marked

theorem handleLeaseLost_ends {E : StepError → ServeWorld → Prop} :
    Session.Ends (Pending claim) (handleLeaseLost claim) (fun _ => Reported claim) E := by
  have hevent : Session.Ends (Pending claim)
      (emitJobFinished (finishedWith claim .leaseLost (some .leaseLost)))
      (fun _ => Reported claim) E :=
    emitJobFinished_settles rfl fun _ h => ⟨h.silent, .of_pending rfl rfl (.inl rfl) h⟩
  exact hevent.bind fun _ => setFinished_settled

/-- The event of a persisted result. -/
theorem finish_persisted {outcome : OutcomeCode} (event : JobFinished)
    (hsteps : event.steps.all (· ≤ 8) = true) (hjob : event.jobId = claim.id)
    (hattempt : event.attemptCount = claim.attemptCount) (houtcome : event.outcome = outcome)
    (hcode : event.workerErrorCode ≠ some .persistenceError) :
    Session.Ends (fun world => ∃ write : FinalWrite, outcome = write.outcome ∧
        Committed claim write.status world) (emitJobFinished event >>= fun _ => setFinished)
      (fun _ => Reported claim) fun _ => Pending claim := by
  rintro world ⟨write, hwrite, hcommitted⟩
  exact finish_committed write hsteps hjob hattempt (houtcome.trans hwrite) hcode world hcommitted

theorem finishPreflight_settles (result : TerminalPreflightResult) :
    Settles claim (finishPreflight outside claim result) := by
  have hcode : preflightErrorCode result ≠ some .persistenceError := by
    unfold preflightErrorCode
    split <;> nofun
  refine (persistPreflightResult_ends result).bind fun outcome => ?_
  exact finish_persisted
    { finishedWith claim outcome (preflightErrorCode result) with steps := some 0 }
    rfl rfl rfl rfl hcode

theorem finishResult_settles {result : AgentRunResult} (hsteps : result.steps ≤ 8) :
    Settles claim (finishResult outside claim result) := by
  refine (persistResult_ends result).bind fun outcome => ?_
  refine finish_persisted { finishedWith claim outcome none with
    steps := some result.steps
    stopReason := some result.reason
    sideEffectCommitted := some (outcome = .failedUncertain) } ?_ rfl rfl rfl nofun
  simpa using hsteps

theorem settle_settles (ending : Except ClaimError RunValue) :
    Settles claim (settle outside claim ending) := by
  cases ending with
  | error error =>
      cases error with
      | retryable code sideEffectCommitted => exact handleRetryable_settles code sideEffectCommitted
      | providerRequestRejected => exact handleUnexpected_settles nofun
      | jobLeaseLost => exact handleLeaseLost_ends
      | other => exact handleUnexpected_settles nofun
  | ok value =>
      cases value with
      | result result steps_le => exact finishResult_settles steps_le
      | preflight result => exact finishPreflight_settles result

/-- What reaches the outer handler has not finished, so it is reported. -/
theorem handlePersistenceError_ends :
    Session.Ends (Pending claim) (handlePersistenceError claim) (fun _ => Reported claim)
      fun _ => Reported claim := by
  intro world h
  have hevent : Session.Ends (Pending claim)
      (emitJobFinished (finishedWith claim .failed (some .persistenceError)))
      (fun _ => Reported claim) fun _ => Reported claim :=
    emitJobFinished_settles rfl fun _ h => ⟨h.silent, .of_pending rfl rfl (.inr ⟨rfl, rfl⟩) h⟩
  -- `finished` is not set, so the handler emits before it raises again
  unfold handlePersistenceError
  rw [Session.read_bind_run, h.unfinished]
  have hraise : Session.Ends (Reported claim) (Session.raise .other : Serve Unit)
      (fun _ => Reported claim) fun _ => Reported claim := .raise fun _ hsettled => hsettled
  exact hevent.bind (fun _ => hraise) world h

theorem serveClaimed_settles (ending : Except ClaimError RunValue) :
    Session.Ends (Pending claim) (serveClaimed outside claim ending) (fun _ => Reported claim)
      fun _ => Reported claim := by
  refine Session.Ends.bind (Session.Ends.tryCatch (settle_settles ending) fun error => ?_)
    fun _ => .pure fun _ h => h
  cases error with
  | jobLeaseLost => exact handleLeaseLost_ends
  | other => exact handlePersistenceError_ends

/-- Every call that claims a job and is not cancelled emits one event that the job
is finished, and the event says what the worker committed for that attempt,
whatever the run does and whichever persistence step fails. -/
theorem finished_event_matches (outside : Outside) {claim : AgentJob} (run : ClaimedRun claim) :
    ∃ event, (serveOnce outside run).2.finishedEvents = [event] ∧
      EventMatches claim event (serveOnce outside run).2.commits := by
  have hpending : Pending claim ⟨0, false, [], run.commits⟩ := ⟨rfl, rfl, run.not_left⟩
  have hends : Session.Ends (Pending claim) (serveClaimed outside claim run.ending)
      (fun _ => Reported claim) fun _ => Reported claim := serveClaimed_settles run.ending
  have hfinal := hends _ hpending
  unfold serveOnce
  -- a call that returns and a call that raises are settled alike
  split at hfinal
  · rename_i heq
    rw [heq]
    exact hfinal
  · rename_i heq
    rw [heq]
    exact hfinal

end AgentWorker
end IntegraIntake
