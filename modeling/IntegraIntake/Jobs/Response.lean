import IntegraIntake.Jobs.ExecutionRead
import IntegraIntake.Jobs.Read
import IntegraIntake.Runtime.Profiles

/-!
# The response to a job read

`project_job_read` of `app/domain/jobs.py` and the endpoint `get_job`.  Everything
that is not a closed code or an identifier of the profile is left out of the
response; a profile that cannot be resolved takes the scenario and the path with it.
-/

namespace IntegraIntake

open Library

/-- `JobRead`. -/
structure JobReadResponse where
  jobId : Uuid
  traceId : Uuid
  scenarioKey : Option String
  status : JobStatus
  attemptCount : ℕ
  agentSteps : Option ℕ
  stopReason : Option StopReason
  executionPath : List ExecutionPathRead
  routingStatus : Option String
  routingReason : Option String
  missingRequiredFields : List String
  approval : Option ApprovalRead
  resultReferences : List ResultReference
  errorCode : Option String
  createdAt : Timestamp
  startedAt : Option Timestamp
  finishedAt : Option Timestamp

namespace JobRead

/-- Every `WorkerErrorCode`. -/
def workerErrorCodes : List WorkerErrorCode :=
  [.providerUnavailable, .providerRequestRejected, .toolExecutionFailed, .retryExhausted,
    .sideEffectCommitted, .unexpectedAfterSideEffect, .workerError, .agentFailed,
    .agentFailedAfterSideEffect, .leaseExpired, .leaseExpiredAfterSideEffect, .persistenceError,
    .leaseLost, .capabilityUnavailable, .snapshotIncompatible, .approvalExpired,
    .gatewayTimeout, .workerTimeout]

/-- `_safe_error_code`. -/
def safeErrorCode (value : Option String) : Option String :=
  value.filter fun code => workerErrorCodes.any fun known => known.value == code

/-- The names of a list of strings, sorted; any other value gives none. -/
def safeMissing : Option Json → List String
  | some (.arr items) => ((items.mapM Json.asStr?).map sortedSet).getD []
  | _ => []

/-- `_safe_result_values`. -/
def safeResultValues : Option Json → Option String × Option String × List String
  | some (.obj members) =>
    ((members.lookup "routing_status").bind Json.asStr?,
      (members.lookup "routing_reason").bind Json.asStr?,
      safeMissing (members.lookup "missing_required_fields"))
  | _ => (none, none, [])

section Project

variable (sha256 : ByteArray → String) (floatText : PyFloat → List Char)

/-- The profile that `project_job_read` resolves; whatever goes wrong, it does without. -/
def readProfile (row : PersistedJobRead) : Option ConfiguredTenantProfile :=
  (resolvePersistedProfile sha256 floatText row.tenantConfigSnapshot row.tenantConfigSha256
    none).toOption

/-- `registered_actions`. -/
def registeredActions (profile : ConfiguredTenantProfile) : List String :=
  match profile.compiled with
  | some compiled => compiled.registeredActions
  | none => dictKeys profile.config.actionPolicy

/-- `project_job_read`. -/
def projectJobRead (row : PersistedJobRead) : JobReadResponse :=
  let profile := readProfile sha256 floatText row
  let (routingStatus, routingReason, missing) := safeResultValues row.result
  let (agentSteps, stopReason, executionPath) := ExecutionRead.safeExecutionValues row.result
    ((profile.map registeredActions).getD [])
  { jobId := row.jobId
    traceId := row.traceId
    scenarioKey := profile.bind fun resolved =>
      match resolved.compiled with
      | some compiled => compiled.config.scenarioKey
      | none => resolved.config.scenarioKey
    status := row.status
    attemptCount := row.attemptCount
    agentSteps := agentSteps
    stopReason := stopReason
    executionPath := executionPath
    routingStatus := routingStatus
    routingReason := routingReason
    missingRequiredFields := missing
    approval := projectApproval row
    resultReferences := row.resultReferences
    errorCode := safeErrorCode row.errorCode
    createdAt := row.createdAt
    startedAt := row.startedAt
    finishedAt := row.finishedAt }

end Project
end JobRead
end IntegraIntake
