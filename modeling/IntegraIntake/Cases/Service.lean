import IntegraIntake.Approvals.Executor
import IntegraIntake.Approvals.Review
import IntegraIntake.Tools.Postgres

/-!
# Cases and artifacts over HTTP

`CaseService.create_case` of `app/domain/service.py` with the request of
`app/domain/schemas.py`, and the read of an artifact: `project_artifact` of
`app/domain/artifacts.py` checks a stored payload before it is shown.
-/

namespace IntegraIntake

open Library

/-! ## Creating a case -/

/-- `CreateCaseRequest`. -/
structure CreateCaseRequest where
  channel : String
  subject : String
  body : String
  customerId : Option Uuid
  extractedFields : List (String × Json)
  channel_length : 1 ≤ PyString.len channel ∧ PyString.len channel ≤ 100
  subject_length : 1 ≤ PyString.len subject ∧ PyString.len subject ≤ 500
  body_length : 1 ≤ PyString.len body ∧ PyString.len body ≤ 100000

namespace CaseService

/-- `CaseRepository.create`. -/
def create (newId tenantId : Uuid) (request : CreateCaseRequest) : IntakeCase where
  id := newId
  tenantId := tenantId
  customerId := request.customerId
  status := "received"
  channel := request.channel
  subject := request.subject
  body := request.body
  source := some request.channel
  rawPayload := .obj [("channel", .str request.channel), ("subject", .str request.subject),
    ("body", .str request.body)]
  extractedFields := request.extractedFields

/-- The constraints a new case is checked against: its primary key and
`fk_intake_cases_tenant_customer`. -/
def violates (newId tenantId : Uuid) (request : CreateCaseRequest) (db : Db) : Bool :=
  (db.cases.any fun case => case.id = newId) ||
    request.customerId.any fun customerId => (db.customer? customerId tenantId).isNone

/-- `create_case`. -/
def createCase (newId tenantId : Uuid) (request : CreateCaseRequest) : Query IntakeCase :=
  Session.transaction do
    let db ← Session.read
    if violates newId tenantId request db then Session.raise .integrityError
    else
      Session.write fun db => (db.addCase (create newId tenantId request)).addCaseEvent
        (createdEvent tenantId newId)
      pure (create newId tenantId request)

end CaseService

/-! ## Reading an artifact -/

/-- `ArtifactRead`, without the creation time. -/
inductive ArtifactRead where
  | replyDraft (id jobId : Uuid) (recipient : Option String) (subject body : String)
  | reviewFlag (id jobId : Uuid) (reason : String)
  deriving DecidableEq

/-- A field of type `str | None`. -/
def strOrNull : Json → Option (Option String)
  | .null => some none
  | .str value => some (some value)
  | _ => none

/-- The members of a payload that has no key but `fields`. -/
def closedMembers (fields : List String) : Json → Option (List (String × Json))
  | .obj members => if (dictKeys members).all fields.contains then some members else none
  | _ => none

/-- `project_artifact`; `none` stands for its `ValueError`. -/
def projectArtifact (row : JobArtifact) : Option ArtifactRead :=
  match row.kind with
  | .replyDraft => do
    let members ← closedMembers ["recipient", "subject", "body"] row.payload
    let recipient ← strOrNull (← members.lookup "recipient")
    let subject ← (← members.lookup "subject").asStr?
    let body ← (← members.lookup "body").asStr?
    some (.replyDraft row.id row.jobId recipient subject body)
  | .reviewFlag => do
    let members ← closedMembers ["reason"] row.payload
    let reason ← (← members.lookup "reason").asStr?
    some (.reviewFlag row.id row.jobId reason)

/-- `get_artifact`: an artifact that is not there and one that is not valid are
answered alike. -/
def getArtifact (artifactId tenantId : Uuid) (db : Db) : Option ArtifactRead :=
  (db.artifactForTenant? artifactId tenantId).bind projectArtifact

end IntegraIntake
