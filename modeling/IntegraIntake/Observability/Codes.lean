/-!
# Closed codes

The enumerations of `app/observability/events.py` that the modelled code
persists or decides on.  The events themselves are telemetry and are not
modelled.
-/

namespace IntegraIntake

/-- `OutcomeCode`. -/
inductive OutcomeCode where
  | success | failed | authenticated | rejected | verified | missing | malformed | stale
  | mismatch | created | reused | conflict | claimed | started | retryScheduled | leaseLost
  | recovered | succeeded | failedUncertain | completed | terminal | toolRequested
  | invalidSchema | timeout | networkError | httpError | allow | deny | needsApproval
  | approved | expired | executed | notFound | invalidArguments | backendFailure | noResult
  deriving DecidableEq, Repr

/-- The outcome as it is written. -/
def OutcomeCode.value : OutcomeCode → String
  | .success => "success"
  | .failed => "failed"
  | .authenticated => "authenticated"
  | .rejected => "rejected"
  | .verified => "verified"
  | .missing => "missing"
  | .malformed => "malformed"
  | .stale => "stale"
  | .mismatch => "mismatch"
  | .created => "created"
  | .reused => "reused"
  | .conflict => "conflict"
  | .claimed => "claimed"
  | .started => "started"
  | .retryScheduled => "retry_scheduled"
  | .leaseLost => "lease_lost"
  | .recovered => "recovered"
  | .succeeded => "succeeded"
  | .failedUncertain => "failed_uncertain"
  | .completed => "completed"
  | .terminal => "terminal"
  | .toolRequested => "tool_requested"
  | .invalidSchema => "invalid_schema"
  | .timeout => "timeout"
  | .networkError => "network_error"
  | .httpError => "http_error"
  | .allow => "allow"
  | .deny => "deny"
  | .needsApproval => "needs_approval"
  | .approved => "approved"
  | .expired => "expired"
  | .executed => "executed"
  | .notFound => "not_found"
  | .invalidArguments => "invalid_arguments"
  | .backendFailure => "backend_failure"
  | .noResult => "no_result"

/-- Every `OutcomeCode`. -/
def OutcomeCode.all : List OutcomeCode :=
  [.success, .failed, .authenticated, .rejected, .verified, .missing, .malformed, .stale,
   .mismatch, .created, .reused, .conflict, .claimed, .started, .retryScheduled,
   .leaseLost, .recovered, .succeeded, .failedUncertain, .completed, .terminal,
   .toolRequested, .invalidSchema, .timeout, .networkError, .httpError, .allow, .deny,
   .needsApproval, .approved, .expired, .executed, .notFound, .invalidArguments,
   .backendFailure, .noResult]

/-- `OutcomeCode(raw)`; `none` stands for its `ValueError`. -/
def OutcomeCode.ofString? (raw : String) : Option OutcomeCode :=
  OutcomeCode.all.find? fun code => code.value == raw

/-- `PolicyReason`: the reasons a policy decision is given with. -/
inductive PolicyReason where
  | safetyOrLegalRisk | unknownIntakeType | missingRequiredFields | invalidFieldValues
  | actionNotConfigured | actionNotExecutable | actionNotAllowed | approvalRequired
  | actionAllowed | noActionRequested | documentUnreadable
  deriving DecidableEq, Repr

/-- The reason as it is written. -/
def PolicyReason.value : PolicyReason → String
  | .safetyOrLegalRisk => "safety_or_legal_risk"
  | .unknownIntakeType => "unknown_intake_type"
  | .missingRequiredFields => "missing_required_fields"
  | .invalidFieldValues => "invalid_field_values"
  | .actionNotConfigured => "action_not_configured"
  | .actionNotExecutable => "action_not_executable"
  | .actionNotAllowed => "action_not_allowed"
  | .approvalRequired => "approval_required"
  | .actionAllowed => "action_allowed"
  | .noActionRequested => "no_action_requested"
  | .documentUnreadable => "document_unreadable"

/-- `WorkerErrorCode`: the stable error codes a job row may carry. -/
inductive WorkerErrorCode where
  | providerUnavailable | providerRequestRejected | toolExecutionFailed | retryExhausted
  | sideEffectCommitted | unexpectedAfterSideEffect | workerError | agentFailed
  | agentFailedAfterSideEffect | leaseExpired | leaseExpiredAfterSideEffect
  | persistenceError | leaseLost | capabilityUnavailable | snapshotIncompatible
  | approvalExpired | gatewayTimeout | workerTimeout
  deriving DecidableEq, Repr

/-- The code as it is written. -/
def WorkerErrorCode.value : WorkerErrorCode → String
  | .providerUnavailable => "provider_unavailable"
  | .providerRequestRejected => "provider_request_rejected"
  | .toolExecutionFailed => "tool_execution_failed"
  | .retryExhausted => "retry_exhausted"
  | .sideEffectCommitted => "side_effect_committed"
  | .unexpectedAfterSideEffect => "unexpected_after_side_effect"
  | .workerError => "worker_error"
  | .agentFailed => "agent_failed"
  | .agentFailedAfterSideEffect => "agent_failed_after_side_effect"
  | .leaseExpired => "lease_expired"
  | .leaseExpiredAfterSideEffect => "lease_expired_after_side_effect"
  | .persistenceError => "persistence_error"
  | .leaseLost => "lease_lost"
  | .capabilityUnavailable => "capability_unavailable"
  | .snapshotIncompatible => "snapshot_incompatible"
  | .approvalExpired => "approval_expired"
  | .gatewayTimeout => "gateway_timeout"
  | .workerTimeout => "worker_timeout"

end IntegraIntake
