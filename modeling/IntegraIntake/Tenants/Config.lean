import Mathlib.Data.List.Nodup
import IntegraIntake.Library.PyString

/-!
# Tenant profiles

`app/tenants/config.py` and `app/tenants/compiled.py`: the tenant workflow
profile and its compilation against the server's capabilities.  A
`TenantConfig` carries what the Pydantic validators check, so an invalid
profile cannot be built.  Dictionaries are association lists with distinct
keys.  The read-only copy `ImmutableTenantConfig` holds the same data, so it is
the same type here.
-/

namespace IntegraIntake

open Library

/-- UUIDs, as the 128-bit integers they are compared by. -/
abbrev Uuid := ℕ

/-- Time stamps, in microseconds. -/
abbrev Timestamp := ℤ

/-- `FieldType`. -/
inductive FieldType where
  | shortText | longText | email | phone | address | dateTime | number | boolean
  | singleSelect | multiSelect
  deriving DecidableEq, Repr

/-- `RoutingStatus`. -/
inductive RoutingStatus where
  | urgent | awaitingInput | pendingApproval | ready | rejected
  deriving DecidableEq, Repr

/-- `RoutingDecision`. -/
inductive RoutingDecision where
  | allow | needsApproval | deny
  deriving DecidableEq, Repr

/-- The strings of `RoutingStatus`. -/
def RoutingStatus.value : RoutingStatus → String
  | .urgent => "urgent"
  | .awaitingInput => "awaiting_input"
  | .pendingApproval => "pending_approval"
  | .ready => "ready"
  | .rejected => "rejected"

/-- The strings of `RoutingDecision`. -/
def RoutingDecision.value : RoutingDecision → String
  | .allow => "allow"
  | .needsApproval => "needs_approval"
  | .deny => "deny"

/-- `SAFE_IDENTIFIER_PATTERN`. -/
def isSafeIdentifier (value : String) : Bool :=
  PyString.isIdentifier 63 value

/-- The slug pattern `^[a-z0-9]+(?:-[a-z0-9]+)*$`: non-empty segments of lower
case letters and digits, joined by single hyphens. -/
def isSlug (value : String) : Bool :=
  (value.toList.splitOn '-').all fun segment =>
    !segment.isEmpty && segment.all fun c => ('a' ≤ c && c ≤ 'z') || c.isDigit

/-- `FieldDefinition`; options belong to the select types only, and there they
are non-empty and distinct. -/
structure FieldDefinition where
  type : FieldType
  label : String
  options : Option (List String)
  label_nonempty : label ≠ ""
  options_valid :
    if type = .singleSelect ∨ type = .multiSelect
    then options.getD [] ≠ [] ∧ (options.getD []).Nodup
    else options = none

/-- `IntakeTypeConfig`. -/
structure IntakeTypeConfig where
  name : String
  description : String
  requiredFields : List String
  name_safe : isSafeIdentifier name = true
  description_nonempty : description ≠ ""
  required_safe : ∀ field ∈ requiredFields, isSafeIdentifier field = true
  required_nodup : requiredFields.Nodup

/-- `ActionExecutionMode`. -/
inductive ActionExecutionMode where
  | executable | policyOnly
  deriving DecidableEq, Repr

/-- `ActionRule`. -/
structure ActionRule where
  allowed : Bool
  requiresApproval : Bool
  execution : ActionExecutionMode
  deriving DecidableEq

/-- `DocumentBindingConfig`. -/
structure DocumentBindingConfig where
  intakeType : String
  normalizer : String
  normalizerVersion : ℕ
  defaultForInbound : Bool
  intakeType_safe : isSafeIdentifier intakeType = true
  normalizer_safe : isSafeIdentifier normalizer = true
  version_pos : 1 ≤ normalizerVersion

/-- All statuses, in the order of the enumeration. -/
def RoutingStatus.all : List RoutingStatus :=
  [.urgent, .awaitingInput, .pendingApproval, .ready, .rejected]

/-- `RoutingConfig`. -/
structure RoutingConfig where
  outcomeNames : List RoutingStatus
  alwaysApprovalActions : List String
  outcomes_complete : outcomeNames.Perm RoutingStatus.all
  always_safe : ∀ action ∈ alwaysApprovalActions, isSafeIdentifier action = true
  always_send_reply : "send_reply" ∈ alwaysApprovalActions
  always_nodup : alwaysApprovalActions.Nodup

/-- The keys of a dictionary. -/
def dictKeys {α : Type} (dict : List (String × α)) : List String :=
  dict.map Prod.fst

/-- `TenantConfig` (profile version 2) with the checks of its validators. -/
structure TenantConfig where
  slug : String
  scenarioKey : String
  displayName : String
  intakeTypes : List IntakeTypeConfig
  fields : List (String × FieldDefinition)
  actionPolicy : List (String × ActionRule)
  documents : List (String × DocumentBindingConfig)
  routing : RoutingConfig
  slug_valid : isSlug slug = true
  scenarioKey_safe : isSafeIdentifier scenarioKey = true
  displayName_nonempty : displayName ≠ ""
  intakeTypes_nonempty : intakeTypes ≠ []
  fields_nonempty : fields ≠ []
  actionPolicy_nonempty : actionPolicy ≠ []
  fields_nodup : (dictKeys fields).Nodup
  actionPolicy_nodup : (dictKeys actionPolicy).Nodup
  documents_nodup : (dictKeys documents).Nodup
  fields_safe : ∀ name ∈ dictKeys fields, isSafeIdentifier name = true
  actions_safe : ∀ name ∈ dictKeys actionPolicy, isSafeIdentifier name = true
  documents_safe : ∀ name ∈ dictKeys documents, isSafeIdentifier name = true
  intakeNames_nodup : (intakeTypes.map IntakeTypeConfig.name).Nodup
  required_known : ∀ intake ∈ intakeTypes, ∀ field ∈ intake.requiredFields,
    field ∈ dictKeys fields
  always_known : ∀ action ∈ routing.alwaysApprovalActions, action ∈ dictKeys actionPolicy
  documents_known : ∀ binding ∈ documents,
    binding.2.intakeType ∈ intakeTypes.map IntakeTypeConfig.name
  one_default : (documents.filter fun binding => binding.2.defaultForInbound).length ≤ 1

namespace TenantConfig

/-- `next((item for item in intake_types if item.name == name), None)`. -/
def findIntake (config : TenantConfig) (name : String) : Option IntakeTypeConfig :=
  config.intakeTypes.find? fun item => item.name == name

/-- `config.fields.get(name)`. -/
def field? (config : TenantConfig) (name : String) : Option FieldDefinition :=
  config.fields.lookup name

/-- `config.action_policy.get(action)`. -/
def rule? (config : TenantConfig) (action : String) : Option ActionRule :=
  config.actionPolicy.lookup action

end TenantConfig

theorem mem_dictKeys_iff {α : Type} {dict : List (String × α)} {key : String} :
    key ∈ dictKeys dict ↔ (dict.lookup key).isSome := by
  rw [List.lookup_isSome_iff, dictKeys, List.mem_map]
  exact exists_congr fun entry => and_congr_right fun _ => eq_comm.trans beq_iff_eq.symm

end IntegraIntake
