import IntegraIntake.Tenants.Compiled

/-!
# Policy inputs and outcomes

`app/policy/models.py`: the trusted context a policy decision is made in and
the decision itself.
-/

namespace IntegraIntake

open Library

/-- `proposal_value_is_present`. -/
def proposalValueIsPresent : ProposalValueData → Bool
  | .scalar .null => false
  | .scalar (.str value) => !PyString.isBlank value
  | .list items => !items.isEmpty
  | .scalar _ => true

/-- `TrustedToolRuntimeContext`; `cancelled n` is what the n-th look at its
cancellation event sees, since another thread may set the event at any time. -/
structure TrustedToolRuntimeContext where
  tenantId : Uuid
  tenantConfig : TenantConfig
  compiledProfile : Option CompiledTenantProfile
  source : Option TrustedSource
  safetyOrLegalRisk : Bool
  jobId : Option Uuid
  cancelled : ℕ → Bool

/-- `PolicyInput`. -/
structure PolicyInput where
  proposal : AgentProposal
  requestedAction : String
  requiresCompleteFields : Bool
  registeredActions : List String
  runtime : TrustedToolRuntimeContext
  verifiedPresentFields : Option (List String)
  invalidFields : List String

/-- `PolicyOutcome`. -/
structure PolicyOutcome where
  decision : RoutingDecision
  status : RoutingStatus
  reason : PolicyReason
  missingRequiredFields : List String
  deriving DecidableEq

/-- `PolicyOutcome.as_tool_data`. -/
def PolicyOutcome.asToolData (outcome : PolicyOutcome) : List (String × Json) :=
  [("decision", .str outcome.decision.value), ("status", .str outcome.status.value),
   ("reason", .str outcome.reason.value),
   ("missing_required_fields", .arr (outcome.missingRequiredFields.map .str))]

end IntegraIntake
