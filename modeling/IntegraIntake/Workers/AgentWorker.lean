import IntegraIntake.Jobs.Repository

/-!
# The end of an attempt

The part of `AgentWorker` in `app/workers/agent_worker.py` that turns the end of
a run into a write to the job row: `serve_once`, `_persist_result`,
`_persist_preflight_result` and `_has_side_effect`.
-/

namespace IntegraIntake

open Library JobRepository

/-- How the run of a claimed job ends, when its lease is not lost. -/
inductive RunEnd where
  /-- `RetryableJobError`, the job deadline and the gateway timeout included. -/
  | retryable (errorCode : String)
  /-- `ProviderRequestRejectedError`. -/
  | providerRejected
  /-- Any other exception. -/
  | unexpected
  /-- A result that is not `COMPLETED`. -/
  | failed (toolExecutionFailed : Bool)
  /-- `COMPLETED` with an execution path and no approval requested. -/
  | completed (summary : Json)
  /-- `COMPLETED` with an approval requested. -/
  | approvalRequested (summary : Json)
  /-- `COMPLETED` with an empty execution path. -/
  | completedEmpty
  /-- The preflight result `document_unreadable`. -/
  | preflightCompleted (summary : Json)
  /-- Any other preflight result. -/
  | preflightFailed (reason : String)

/-- The last transaction of an attempt. -/
inductive FinalWrite where
  | retry (errorCode : String)
  | fail (errorCode : String)
  | uncertain (errorCode : String)
  | succeed (result : Json)
  | park (result : Json)

/-- What the worker does next: read the marker, or write at once. -/
inductive AfterRun where
  | inspect
  | write (value : FinalWrite)

/-- What a worker does when the run has ended. -/
def RunEnd.next : RunEnd → AfterRun
  | .retryable _ | .providerRejected | .unexpected | .failed _ => .inspect
  | .completed summary => .write (.succeed summary)
  | .approvalRequested summary => .write (.park summary)
  | .completedEmpty => .write (.fail WorkerErrorCode.agentFailed.value)
  | .preflightCompleted summary => .write (.succeed summary)
  | .preflightFailed reason => .write (.fail reason)

/-- Whether the run ended without a call of a tool: preflight results come
before the port is built, and every executed tool leaves evidence in the
execution path. -/
def RunEnd.withoutCalls : RunEnd → Bool
  | .completedEmpty | .preflightCompleted _ | .preflightFailed _ => true
  | _ => false

/-- The write after a marker read that found the marker. -/
def RunEnd.uncertainWrite : RunEnd → FinalWrite
  | .retryable _ => .uncertain WorkerErrorCode.sideEffectCommitted.value
  | .failed _ => .uncertain WorkerErrorCode.agentFailedAfterSideEffect.value
  | _ => .uncertain WorkerErrorCode.unexpectedAfterSideEffect.value

/-- The write after a marker read that found none. -/
def RunEnd.cleanWrite (maxRetries attemptCount : ℕ) : RunEnd → FinalWrite
  | .retryable errorCode =>
    if maxRetries < attemptCount then .fail WorkerErrorCode.retryExhausted.value
    else .retry errorCode
  | .providerRejected => .fail WorkerErrorCode.providerRequestRejected.value
  | .failed true => .fail WorkerErrorCode.toolExecutionFailed.value
  | .failed false => .fail WorkerErrorCode.agentFailed.value
  | _ => .fail WorkerErrorCode.workerError.value

/-- `_has_side_effect` of a claimed job. -/
def hasSideEffect (claim : AgentJob) : Query Bool :=
  if claim.sideEffectCommittedAt.isSome then pure true
  else do
    let marker ← getSideEffectMarker claim.id claim.tenantId claim.attemptCount
    pure marker.isSome

/-- The transaction of a final write. -/
def FinalWrite.run (claim : AgentJob) (now availableAt : Timestamp) : FinalWrite → Query Unit
  | .retry errorCode =>
    scheduleRetry claim.id errorCode availableAt claim.tenantId claim.attemptCount
  | .fail errorCode => markFailed claim.id errorCode now claim.tenantId claim.attemptCount
  | .uncertain errorCode =>
    markFailedUncertain claim.id errorCode now claim.tenantId claim.attemptCount
  | .succeed result => markSucceeded claim.id result now claim.tenantId claim.attemptCount
  | .park result =>
    recordAwaitingApprovalResult claim.id result claim.tenantId claim.attemptCount

end IntegraIntake
