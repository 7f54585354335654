import IntegraIntake.Database.Schema
import IntegraIntake.Tenants.FieldValues

/-!
# Cases and artifacts

`app/domain/repositories.py`, `app/domain/service.py` and
`app/domain/artifact_repository.py`: the business rows that tools write, and
the source snapshot they are written from.
-/

namespace IntegraIntake

open Library

/-! ## The source snapshot -/

/-- `trusted_source_from_snapshot`; `none` stands for its `RuntimeError`.
`decodeDocument` is `decode_document_snapshot`. -/
def trustedSourceFromSnapshot (decodeDocument : Json → Option NormalizedDocument) :
    Json → Option TrustedSource
  | .obj members => do
    guard (["channel", "subject", "body"].all fun name => (dictKeys members).contains name)
    guard ((dictKeys members).all fun name =>
      ["channel", "subject", "body", "document", "sender"].contains name)
    let channel ← (← members.lookup "channel").asStr?
    let subject ← (← members.lookup "subject").asStr?
    let body ← (← members.lookup "body").asStr?
    let sender ← match members.lookup "sender" with
      | none => some none
      | some .null => some none
      | some (.str sender) => some (some sender)
      | some _ => none
    let document ← match members.lookup "document" with
      | none => some none
      | some value => (decodeDocument value).map some
    some ⟨channel, subject, body, document, sender⟩
  | _ => none

/-! ## Cases -/

/-- `CaseRepository.find_customer_for_tenant`: the first row in the order in
which the database returns them. -/
def findCustomerForTenant (tenantId : Uuid) (email externalId : Option String) (db : Db) :
    Option Customer :=
  if email.isNone ∧ externalId.isNone then none
  else db.customers.find? fun customer => customer.tenantId = tenantId ∧
    ((email.isSome ∧ customer.email = email) ∨
      (externalId.isSome ∧ customer.externalId = externalId))

/-- `CaseRepository.create_from_source`. -/
def caseFromSource (newId tenantId : Uuid) (source : TrustedSource) (customerId : Option Uuid)
    (fields : List (String × Json)) : IntakeCase where
  id := newId
  tenantId := tenantId
  customerId := customerId
  status := "received"
  channel := source.channel
  subject := source.subject
  body := source.body
  source := some source.channel
  rawPayload := .obj [("channel", .str source.channel), ("subject", .str source.subject),
    ("body", .str source.body)]
  extractedFields := fields

/-- The `created` event of a new case. -/
def createdEvent (tenantId caseId : Uuid) : CaseEvent :=
  ⟨tenantId, caseId, .created, .obj []⟩

/-- The `fields_updated` event of a case. -/
def fieldsUpdatedEvent (tenantId caseId : Uuid) (fields : List (String × Json)) : CaseEvent :=
  ⟨tenantId, caseId, .fieldsUpdated,
    .obj [("updated_fields", .arr ((sortedSet (dictKeys fields)).map .str))]⟩

/-- A case with further fields merged into it. -/
def mergedCase (fields : List (String × Json)) (case : IntakeCase) : IntakeCase :=
  { case with extractedFields := Json.updateMembers case.extractedFields fields }

/-! ## Artifacts -/

/-- `ArtifactRepository.create_for_job` with nobody racing for the same row:
the existing row or a new one. -/
def createForJob (newId tenantId jobId : Uuid) (kind : ArtifactKind) (payload : Json) :
    Query ResultReference := do
  let db ← Session.read
  match db.artifact? tenantId jobId kind with
  | some existing => pure ⟨kind.resultKind, existing.id⟩
  | none =>
    -- the primary key of `job_artifacts`
    if db.artifacts.any fun artifact => artifact.id = newId then Session.raise .integrityError
    else
      Session.write (·.addArtifact ⟨newId, tenantId, jobId, kind, payload⟩)
      pure ⟨kind.resultKind, newId⟩

end IntegraIntake
