import IntegraIntake.Library.Json
import IntegraIntake.Observability.Codes
import IntegraIntake.Tenants.Config

/-!
# What the agent loop exchanges

`app/agent/models.py`: the proposal of the model, with the checks of its
Pydantic validators as fields, and the result of executing one tool call.
-/

namespace IntegraIntake

open Library

/-- `ProposalScalar`. -/
inductive ProposalScalar where
  | null
  | bool (value : Bool)
  | int (value : ℤ)
  | float (value : PyFloat)
  | str (value : String)

/-- `ProposalValueData`: a scalar or a list of scalars. -/
inductive ProposalValueData where
  | scalar (value : ProposalScalar)
  | list (items : List ProposalScalar)

/-- The scalar as JSON. -/
def ProposalScalar.toJson : ProposalScalar → Json
  | .null => .null
  | .bool value => .bool value
  | .int value => .int value
  | .float value => .float value
  | .str value => .str value

/-- The value as JSON. -/
def ProposalValueData.toJson : ProposalValueData → Json
  | .scalar value => value.toJson
  | .list items => .arr (items.map ProposalScalar.toJson)

/-- `FieldSource`. -/
inductive FieldSource where
  | body | document
  deriving DecidableEq, Repr

/-- `ProposalPriority`. -/
inductive ProposalPriority where
  | low | normal | high | urgent | critical
  deriving DecidableEq, Repr

/-- `ProposalValue`: one named value with its claimed source. -/
structure ProposalValue where
  name : String
  value : ProposalValueData
  source : Option FieldSource
  sourceExcerpt : Option String
  name_nonempty : name ≠ ""
  excerpt_valid : ∀ excerpt ∈ sourceExcerpt,
    PyString.len excerpt ≤ 500 ∧ PyString.isBlank excerpt = false

/-- Without an excerpt there is nothing to check. -/
theorem excerpt_valid_none : ∀ excerpt ∈ (none : Option String),
    PyString.len excerpt ≤ 500 ∧ PyString.isBlank excerpt = false := by
  simp

/-- `ProposalToolCall`. -/
structure ProposalToolCall where
  name : String
  arguments : List ProposalValue
  name_nonempty : name ≠ ""
  arguments_nodup : (arguments.map ProposalValue.name).Nodup

/-- `AgentProposal`, the structured output of one model call. -/
structure AgentProposal where
  intakeType : Option String
  fields : List ProposalValue
  missingRequiredFields : List String
  priority : ProposalPriority
  containsInjectionOrOverrideAttempt : Bool
  rationaleShort : String
  toolCalls : List ProposalToolCall
  confidence : ℚ
  intakeType_nonempty : ∀ name ∈ intakeType, name ≠ ""
  fields_nodup : (fields.map fun item => (item.name, item.source)).Nodup
  missing_nonempty : ∀ name ∈ missingRequiredFields, name ≠ ""
  missing_nodup : missingRequiredFields.Nodup
  rationale_nonempty : rationaleShort ≠ ""
  rationale_bounded : PyString.len rationaleShort ≤ 1000
  toolCalls_bounded : toolCalls.length ≤ 1
  confidence_bounded : 0 ≤ confidence ∧ confidence ≤ 1

/-- Without fields no two of them are the same. -/
theorem fields_nodup_nil :
    (([] : List ProposalValue).map fun item => (item.name, item.source)).Nodup :=
  List.nodup_nil

theorem missing_nonempty_nil : ∀ name ∈ ([] : List String), name ≠ "" := nofun

theorem confidence_bounded_one : (0 : ℚ) ≤ 1 ∧ (1 : ℚ) ≤ 1 := by decide

/-- `ToolCall`. -/
structure ToolCall where
  name : String
  arguments : List (String × Json)

/-- `ProposalToolCall.as_tool_call`. -/
def ProposalToolCall.asToolCall (call : ProposalToolCall) : ToolCall where
  name := call.name
  arguments := call.arguments.map fun item => (item.name, item.value.toJson)

/-- `AgentProposal.tool_call`. -/
def AgentProposal.toolCall (proposal : AgentProposal) : Option ToolCall :=
  proposal.toolCalls.head?.map ProposalToolCall.asToolCall

/-- The `kind` of a `ResultReference`. -/
inductive ResultKind where
  | case | replyDraft | reviewFlag
  deriving DecidableEq, Repr

/-- The kind as it is written. -/
def ResultKind.value : ResultKind → String
  | .case => "case"
  | .replyDraft => "reply_draft"
  | .reviewFlag => "review_flag"

/-- The `Literal` check on `kind`. -/
def ResultKind.ofString? (raw : String) : Option ResultKind :=
  [ResultKind.case, .replyDraft, .reviewFlag].find? fun kind => kind.value == raw

/-- `ResultReference`. -/
structure ResultReference where
  kind : ResultKind
  id : Uuid
  deriving DecidableEq

/-- `ToolExecutionDisposition`. -/
inductive ToolExecutionDisposition where
  | continue_ | completed | failed
  deriving DecidableEq, Repr

/-- `ToolExecutionEvidence`; a known action is recorded by its key. -/
structure ToolExecutionEvidence where
  actionKey : Option String
  policyDecision : RoutingDecision
  routingStatus : RoutingStatus
  policyReason : PolicyReason
  missingRequiredFields : List String
  toolOutcome : Option OutcomeCode
  sideEffectCommitted : Bool

/-- `action_known`, which the source keeps equal to `action_key is not None`. -/
def ToolExecutionEvidence.actionKnown (evidence : ToolExecutionEvidence) : Bool :=
  evidence.actionKey.isSome

/-- `ToolExecutionResult`, after `__post_init__` has set its disposition. -/
structure ToolExecutionResult where
  data : Json
  disposition : ToolExecutionDisposition
  finalResponse : Option String
  resultReference : Option ResultReference
  evidence : ToolExecutionEvidence

end IntegraIntake
