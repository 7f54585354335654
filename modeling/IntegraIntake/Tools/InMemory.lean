import IntegraIntake.Library.Dict
import IntegraIntake.Tools.PostgresPort

/-!
# The double of the tool port

`InMemoryTenantToolPort` of `app/tools/in_memory.py`, on which the evaluations and
the tests of the executor run.  It keeps its rows in dictionaries and takes a new
identifier for whatever it makes.
-/

namespace IntegraIntake

open Library

/-- `_CustomerRecord`. -/
structure CustomerRecord where
  tenantId : Uuid
  summary : CustomerSummary

/-- `_CaseRecord`. -/
structure CaseRecord where
  tenantId : Uuid
  id : Uuid
  status : String
  channel : String
  subject : String
  body : String
  extractedFields : List (String × Json)

/-- The attributes of `InMemoryTenantToolPort`. -/
structure InMemory where
  customers : List (Uuid × CustomerRecord)
  cases : List (Uuid × CaseRecord)
  approvalRequests : List (Uuid × PendingAction × PolicyReason)
  artifacts : List ((Uuid × Uuid × ArtifactKind) × (Uuid × Json))
  defaultJobId : Uuid

namespace InMemory

/-- `timedelta(days=1)`. -/
def oneDay : ℤ := 86400000000

/-- `self.cases[case_id] = record`. -/
def setCase (memory : InMemory) (caseId : Uuid) (record : CaseRecord) : InMemory :=
  { memory with cases := Dict.set memory.cases caseId record }

/-- `add_customer`. -/
def addCustomer (memory : InMemory) (tenantId : Uuid) (customer : CustomerSummary) (id : Uuid) :
    InMemory :=
  { memory with customers := Dict.set memory.customers id ⟨tenantId, customer⟩ }

/-- `find_customer`. -/
def findCustomer (tenantId : Uuid) (email externalId : Option String) (memory : InMemory) :
    Option CustomerSummary :=
  ((memory.customers.map Prod.snd).find? fun record => record.tenantId = tenantId ∧
    ((email.isSome ∧ record.summary.email = email) ∨
      (externalId.isSome ∧ record.summary.externalId = externalId))).map CustomerRecord.summary

/-- `create_case`. -/
def createCase (newId tenantId : Uuid) (source : TrustedSource) (customerId : Option Uuid)
    (fields : FieldValues) : Session InMemory PortError CreatedCase := do
  let memory ← Session.read
  if customerId.any fun id =>
      ((memory.customers.lookup id).filter (·.tenantId = tenantId)).isNone then
    Session.raise .customerNotFound
  else
    Session.write (·.setCase newId ⟨tenantId, newId, "received", source.channel, source.subject,
      source.body, knownFieldsJson fields⟩)
    pure ⟨uuidString newId, "received", sortedSet (dictKeys fields)⟩

/-- The record of a case, if it is the tenant's. -/
def case? (memory : InMemory) (tenantId caseId : Uuid) : Option CaseRecord :=
  (memory.cases.lookup caseId).filter (·.tenantId = tenantId)

/-- `update_case_fields`. -/
def updateCaseFields (tenantId caseId : Uuid) (fields : FieldValues) :
    Session InMemory PortError (Option UpdatedCase) := do
  let memory ← Session.read
  match memory.case? tenantId caseId with
  | none => pure none
  | some record =>
    Session.write (·.setCase caseId { record with
      extractedFields := Json.updateMembers record.extractedFields (knownFieldsJson fields) })
    pure (some ⟨uuidString caseId, sortedSet (dictKeys fields)⟩)

/-- `request_approval`. -/
def requestApproval (newId : Uuid) (now : Timestamp) (tenantId : Uuid) (action : PendingAction)
    (policyReason : PolicyReason) : Session InMemory PortError ApprovalRequested := do
  Session.write fun memory =>
    { memory with
      approvalRequests := memory.approvalRequests ++ [(tenantId, action, policyReason)] }
  pure ⟨newId, now + oneDay⟩

/-- `_create_artifact`. -/
def createArtifact (newId tenantId : Uuid) (jobId : Option Uuid) (kind : ArtifactKind)
    (payload : Json) : Session InMemory PortError ResultReference := do
  let memory ← Session.read
  let key := (tenantId, jobId.getD memory.defaultJobId, kind)
  match memory.artifacts.lookup key with
  | some existing => pure ⟨kind.resultKind, existing.1⟩
  | none =>
    Session.write fun memory =>
      { memory with artifacts := Dict.set memory.artifacts key (newId, payload) }
    pure ⟨kind.resultKind, newId⟩

/-- `InMemoryTenantToolPort`, with the identifier and the time that a call takes. -/
def port (newId : Uuid) (now : Timestamp) : TenantToolPort InMemory where
  findCustomer tenantId email externalId := do
    let memory ← Session.read
    pure (memory.findCustomer tenantId email externalId)
  createCase tenantId source customerId fields :=
    createCase newId tenantId source customerId fields
  updateCaseFields tenantId caseId fields := updateCaseFields tenantId caseId fields
  caseExists tenantId caseId := do
    let memory ← Session.read
    pure (memory.case? tenantId caseId).isSome
  requestApproval tenantId action policyReason :=
    requestApproval newId now tenantId action policyReason
  createReplyDraft tenantId jobId recipient subject body :=
    createArtifact newId tenantId jobId .replyDraft
      (.obj [("recipient", optionJson .str recipient), ("subject", .str subject),
        ("body", .str body)])
  flagForReview tenantId jobId reason :=
    createArtifact newId tenantId jobId .reviewFlag (.obj [("reason", .str reason)])

end InMemory
end IntegraIntake
