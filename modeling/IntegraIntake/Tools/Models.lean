import IntegraIntake.Agent.Models

/-!
# Tool arguments, pending actions and the action registry

`app/tools/models.py` and `app/tools/registry.py`.  An argument model is
validated the way Pydantic v2 does it: a `ValueError` of a validator becomes a
`ValidationError`, every other exception escapes.  `_parse_uuid` raises
`TypeError` on a value that is neither a UUID nor a string, so its raise is a
second kind of failure here, not a validation error.
-/

namespace IntegraIntake

open Library

/-- How validating tool arguments can fail. -/
inductive ArgumentError where
  /-- Pydantic's `ValidationError`, which the callers catch. -/
  | validation
  /-- The `TypeError` of `_parse_uuid`, which is not a `ValidationError`. -/
  | typeError
  deriving DecidableEq, Repr

/-- `_parse_uuid` on a JSON value. -/
def parseUuidArgument : Json → Except ArgumentError Uuid
  | .str value =>
    match PyString.parseUuid value with
    | some id => .ok id
    | none => .error .validation
  | _ => .error .typeError

/-- `ToolUUID | None = None`: Pydantic takes `None` before it calls the
before-validator. -/
def optionalUuid : Option Json → Except ArgumentError (Option Uuid)
  | none => .ok none
  | some .null => .ok none
  | some value => (parseUuidArgument value).map some

/-- `StrictStr | None = None`. -/
def optionalStrictStr : Option Json → Except ArgumentError (Option String)
  | none => .ok none
  | some .null => .ok none
  | some (.str value) => .ok (some value)
  | some _ => .error .validation

/-- `extra="forbid"`, checked after the fields. -/
def forbidExtra (allowed : List String) (arguments : List (String × Json)) :
    Except ArgumentError Unit :=
  if arguments.all fun argument => allowed.contains argument.1 then .ok () else .error .validation

/-- `FindCustomerArgs`. -/
structure FindCustomerArgs where
  email : Option String
  externalId : Option String
  deriving DecidableEq

/-- `CreateCaseArgs`. -/
structure CreateCaseArgs where
  customerId : Option Uuid
  deriving DecidableEq

/-- `UpdateCaseFieldsArgs`. -/
structure UpdateCaseFieldsArgs where
  caseId : Uuid
  deriving DecidableEq

/-- `CreateReplyDraftArgs`. -/
structure CreateReplyDraftArgs where
  caseId : Option Uuid
  deriving DecidableEq

/-- `FlagForReviewArgs`. -/
structure FlagForReviewArgs where
  note : Option String
  deriving DecidableEq

/-- `FindCustomerArgs.model_validate`. -/
def FindCustomerArgs.modelValidate (arguments : List (String × Json)) :
    Except ArgumentError FindCustomerArgs := do
  let email ← optionalStrictStr (arguments.lookup "email")
  let externalId ← optionalStrictStr (arguments.lookup "external_id")
  forbidExtra ["email", "external_id"] arguments
  -- `require_lookup_key`: an empty string counts as absent
  if email.getD "" = "" ∧ externalId.getD "" = "" then .error .validation
  else .ok ⟨email, externalId⟩

/-- `CreateCaseArgs.model_validate`. -/
def CreateCaseArgs.modelValidate (arguments : List (String × Json)) :
    Except ArgumentError CreateCaseArgs := do
  let customerId ← optionalUuid (arguments.lookup "customer_id")
  forbidExtra ["customer_id"] arguments
  .ok ⟨customerId⟩

/-- `case_id` is required and not optional here, so `None` reaches `_parse_uuid`. -/
def UpdateCaseFieldsArgs.modelValidate (arguments : List (String × Json)) :
    Except ArgumentError UpdateCaseFieldsArgs := do
  let caseId ← match arguments.lookup "case_id" with
    | none => .error .validation
    | some value => parseUuidArgument value
  forbidExtra ["case_id"] arguments
  .ok ⟨caseId⟩

/-- `CreateReplyDraftArgs.model_validate`. -/
def CreateReplyDraftArgs.modelValidate (arguments : List (String × Json)) :
    Except ArgumentError CreateReplyDraftArgs := do
  let caseId ← optionalUuid (arguments.lookup "case_id")
  forbidExtra ["case_id"] arguments
  .ok ⟨caseId⟩

/-- `FlagForReviewArgs.model_validate`. -/
def FlagForReviewArgs.modelValidate (arguments : List (String × Json)) :
    Except ArgumentError FlagForReviewArgs := do
  let note ← optionalStrictStr (arguments.lookup "note")
  if 500 < PyString.len (note.getD "") then .error .validation
  forbidExtra ["note"] arguments
  .ok ⟨note⟩

/-- The actions of `BUILTIN_ACTION_REGISTRY`. -/
inductive ActionKey where
  | findCustomer | createCase | updateCaseFields | createReplyDraft | flagForReview
  deriving DecidableEq, Repr

/-- The key as profiles and calls write it. -/
def ActionKey.name : ActionKey → String
  | .findCustomer => "find_customer"
  | .createCase => "create_case"
  | .updateCaseFields => "update_case_fields"
  | .createReplyDraft => "create_reply_draft"
  | .flagForReview => "flag_for_review"

/-- `ActionCapability`, for the action `key`; its argument model is
`ToolArgs.modelValidate key`. -/
structure ActionCapability where
  key : ActionKey
  requiresCompleteFields : Bool
  commitsSideEffect : Bool
  pendingActionVersion : ℕ
  deriving DecidableEq

/-- `BUILTIN_ACTION_REGISTRY`. -/
def builtinActionRegistry : List ActionCapability :=
  [⟨.findCustomer, false, false, 1⟩,
   ⟨.createCase, true, true, 1⟩,
   ⟨.updateCaseFields, true, true, 1⟩,
   ⟨.createReplyDraft, false, true, 1⟩,
   ⟨.flagForReview, false, true, 1⟩]

/-- `ActionRegistry.require`; `none` stands for `ActionCapabilityUnavailable`. -/
def requireAction (name : String) : Option ActionCapability :=
  builtinActionRegistry.find? fun capability => capability.key.name == name

/-- `ActionRegistry.keys`. -/
def registryKeys : List String :=
  builtinActionRegistry.map fun capability => capability.key.name

/-- Validated arguments of any action. -/
inductive ToolArgs where
  | findCustomer (values : FindCustomerArgs)
  | createCase (values : CreateCaseArgs)
  | updateCaseFields (values : UpdateCaseFieldsArgs)
  | createReplyDraft (values : CreateReplyDraftArgs)
  | flagForReview (values : FlagForReviewArgs)
  deriving DecidableEq

/-- `capability.arguments_model.model_validate`. -/
def ToolArgs.modelValidate (key : ActionKey) (arguments : List (String × Json)) :
    Except ArgumentError ToolArgs :=
  match key with
  | .findCustomer => (FindCustomerArgs.modelValidate arguments).map .findCustomer
  | .createCase => (CreateCaseArgs.modelValidate arguments).map .createCase
  | .updateCaseFields => (UpdateCaseFieldsArgs.modelValidate arguments).map .updateCaseFields
  | .createReplyDraft => (CreateReplyDraftArgs.modelValidate arguments).map .createReplyDraft
  | .flagForReview => (FlagForReviewArgs.modelValidate arguments).map .flagForReview

/-- `str(uuid)`: the canonical hyphenated lower-case form. -/
def uuidString (id : Uuid) : String :=
  let digits := Nat.toDigits 16 id
  let hex := List.replicate (32 - digits.length) '0' ++ digits
  String.ofList (hex.take 8 ++ '-' :: (hex.drop 8).take 4 ++ '-' :: (hex.drop 12).take 4 ++
    '-' :: (hex.drop 16).take 4 ++ '-' :: hex.drop 20)

/-- `None` is null. -/
def optionJson {α : Type} (encode : α → Json) : Option α → Json
  | some value => encode value
  | none => .null

/-- `arguments.model_dump(mode="json")`. -/
def ToolArgs.modelDump : ToolArgs → List (String × Json)
  | .findCustomer values =>
    [("email", optionJson .str values.email), ("external_id", optionJson .str values.externalId)]
  | .createCase values =>
    [("customer_id", optionJson (fun id => .str (uuidString id)) values.customerId)]
  | .updateCaseFields values => [("case_id", .str (uuidString values.caseId))]
  | .createReplyDraft values =>
    [("case_id", optionJson (fun id => .str (uuidString id)) values.caseId)]
  | .flagForReview values => [("note", optionJson .str values.note)]

/-- `PendingAction`, the command frozen for a human decision. -/
structure PendingAction where
  version : ℕ
  name : String
  arguments : List (String × Json)
  knownFields : List (String × Json)

/-- `action.model_dump(mode="json")`. -/
def PendingAction.modelDump (action : PendingAction) : Json :=
  .obj [("version", .int action.version), ("name", .str action.name),
    ("arguments", .obj action.arguments), ("known_fields", .obj action.knownFields)]

/-- `PendingAction.model_validate`: strict, closed; the version defaults to one. -/
def PendingAction.modelValidate : Json → Option PendingAction
  | .obj members => do
    let version ← match members.lookup "version" with
      | none => some 1
      | some (.int version) => if 1 ≤ version then some version.toNat else none
      | some _ => none
    let name ← (← members.lookup "name").asStr?
    guard (isSafeIdentifier name)
    let arguments ← match members.lookup "arguments" with
      | some (.obj arguments) => some arguments
      | _ => none
    let knownFields ← match members.lookup "known_fields" with
      | some (.obj fields) => some fields
      | _ => none
    guard (members.all fun member =>
      ["version", "name", "arguments", "known_fields"].contains member.1)
    some ⟨version, name, arguments, knownFields⟩
  | _ => none

end IntegraIntake
