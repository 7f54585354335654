import IntegraIntake.Cases.Repository
import IntegraIntake.Jobs.Repository

/-!
# The tool port of a job

`PostgresTenantToolPort` of `app/tools/postgres.py`.  A mutation runs in one
transaction: it locks the row it depends on, writes in its session, and only
then takes the lock of the job row and sets the side-effect marker.  Other
transactions can come in between, so a mutation is given by its stages: what it
reads under its first lock, the rows it is going to write, and its commit.
-/

namespace IntegraIntake

open Library

/-- The job and attempt a port is built for. -/
structure Attempt where
  jobId : Uuid
  tenantId : Uuid
  count : ℕ
  deriving DecidableEq

/-- The attempt of a claimed job. -/
def AgentJob.attempt (job : AgentJob) : Attempt :=
  ⟨job.id, job.tenantId, job.attemptCount⟩

/-- The mutations of the port; `newId` is the identifier a new row gets. -/
inductive PortMutation where
  | createCase (newId : Uuid) (source : TrustedSource) (customerId : Option Uuid)
      (fields : List (String × Json))
  | createArtifact (newId : Uuid) (kind : ArtifactKind) (payload : Json)
  | updateCaseFields (caseId : Uuid) (fields : List (String × Json))

/-- `create_reply_draft`. -/
def PortMutation.createReplyDraft (newId : Uuid) (recipient : Option String)
    (subject body : String) : PortMutation :=
  .createArtifact newId .replyDraft
    (.obj [("recipient", optionJson .str recipient), ("subject", .str subject),
      ("body", .str body)])

/-- `flag_for_review`. -/
def PortMutation.flagForReview (newId : Uuid) (reason : String) : PortMutation :=
  .createArtifact newId .reviewFlag (.obj [("reason", .str reason)])

/-- What a mutation returns. -/
inductive PortResult where
  | createdCase (id : Uuid) (status : String) (acceptedFields : List String)
  | reference (value : ResultReference)
  | updatedCase (id : Uuid) (updatedFields : List String)
  /-- `update_case_fields` on a case that does not exist. -/
  | absent

/-- The rows a mutation has written in its session, without the job row. -/
inductive PortWrites where
  | newCase (record : IdempotencyRecord) (case : IntakeCase)
  | newArtifact (artifact : JobArtifact)
  /-- The artifact was there before; only the marker is going to be written. -/
  | existingArtifact (reference : ResultReference)
  | caseFields (case : IntakeCase) (fields : List (String × Json))

/-- The record that links a job to its case. -/
def IdempotencyRecord.linked (record : IdempotencyRecord) (caseId : Uuid) : IdempotencyRecord :=
  { record with caseId := some caseId }

namespace PortWrites

/-- The rows in the database once the transaction commits. -/
def apply (db : Db) : PortWrites → Db
  | newCase record case =>
    ((db.addCase case).addCaseEvent (createdEvent case.tenantId case.id)).setIdempotency
      (record.linked case.id)
  | newArtifact artifact => db.addArtifact artifact
  | existingArtifact _ => db
  | caseFields case fields =>
    (db.setCase (mergedCase fields case)).addCaseEvent
      (fieldsUpdatedEvent case.tenantId case.id fields)

/-- What the operation returns. -/
def result : PortWrites → PortResult
  | newCase _ case => .createdCase case.id case.status (sortedSet (dictKeys case.extractedFields))
  | newArtifact artifact => .reference ⟨artifact.kind.resultKind, artifact.id⟩
  | existingArtifact reference => .reference reference
  | caseFields case fields => .updatedCase case.id (sortedSet (dictKeys fields))

end PortWrites

/-- The job row as `_mark_side_effect` leaves it. -/
def markedRow (now : Timestamp) (job : AgentJob) : AgentJob :=
  { job with sideEffectCommittedAt := some now }

/-- What a mutation does with its first reads: it returns or raises at once, it
has its rows written, or it is about to insert an artifact. -/
inductive PortOpening where
  | ends (outcome : Except AppError PortResult)
  | writes (value : PortWrites)
  | inserts (newId : Uuid) (kind : ArtifactKind) (payload : Json)

/-- `create_case`, once the idempotency record is locked. -/
def openCreateCase (attempt : Attempt) (newId : Uuid) (source : TrustedSource)
    (customerId : Option Uuid) (fields : List (String × Json)) (record : IdempotencyRecord)
    (db : Db) : PortOpening :=
  match record.caseId with
  | some caseId =>
    match db.case? caseId attempt.tenantId with
    | none => .ends (.error (.runtimeError "job case is unavailable"))
    | some existing => .ends (.ok (.createdCase existing.id existing.status
        (sortedSet (dictKeys existing.extractedFields))))
  | none =>
    if customerId.any fun id => (db.customer? id attempt.tenantId).isNone then
      .ends (.error .customerNotFound)
    -- the primary key of `intake_cases`
    else if db.cases.any fun case => case.id = newId then .ends (.error .integrityError)
    else .writes (.newCase record (caseFromSource newId attempt.tenantId source customerId fields))

/-- The first statements of a mutation. -/
def PortMutation.opening (attempt : Attempt) (db : Db) : PortMutation → PortOpening
  | .createCase newId source customerId fields =>
    match db.idempotencyOf? attempt.jobId attempt.tenantId with
    | none => .ends (.error (.runtimeError "job idempotency record is unavailable"))
    | some record => openCreateCase attempt newId source customerId fields record db
  | .createArtifact newId kind payload =>
    match db.artifact? attempt.tenantId attempt.jobId kind with
    -- nothing is inserted, but the marker is still set
    | some existing => .writes (.existingArtifact ⟨kind.resultKind, existing.id⟩)
    | none => .inserts newId kind payload
  | .updateCaseFields caseId fields =>
    match db.case? caseId attempt.tenantId with
    | none => .ends (.ok .absent)
    | some case => .writes (.caseFields case fields)

/-- The savepoint of `ArtifactRepository.create_for_job`: the insert, or on a
violated unique constraint the row that is there. -/
def insertArtifact (attempt : Attempt) (newId : Uuid) (kind : ArtifactKind) (payload : Json)
    (db : Db) : PortOpening :=
  match db.artifact? attempt.tenantId attempt.jobId kind with
  | some existing => .writes (.existingArtifact ⟨kind.resultKind, existing.id⟩)
  | none =>
    -- the primary key of `job_artifacts`
    if db.artifacts.any fun artifact => artifact.id = newId then .ends (.error .integrityError)
    else .writes (.newArtifact ⟨newId, attempt.tenantId, attempt.jobId, kind, payload⟩)

/-- The select of `_mark_side_effect`. -/
def fencedJob (attempt : Attempt) (db : Db) : Option AgentJob :=
  db.jobs.find? fun job => job.id = attempt.jobId ∧ job.tenantId = attempt.tenantId ∧
    job.status = .running ∧ job.attemptCount = attempt.count

end IntegraIntake
