import IntegraIntake.Tenants.FrozenFields
import IntegraIntake.Tools.Executor
import IntegraIntake.Tools.Postgres
import IntegraIntake.Approvals.Repository

/-!
# The port as the executor calls it

`PostgresTenantToolPort` as a `TenantToolPort` over the database: each operation
is one transaction, run without another one in between.  The stages of a
mutation are those of `Tools/Postgres`, one after the other.
-/

namespace IntegraIntake

open Library

/-! ## A mutation in one piece -/

/-- `_mark_side_effect` and the commit, with the rows written so far. -/
def PortWrites.commit (attempt : Attempt) (now : Timestamp) (writes : PortWrites) :
    Query PortResult := do
  let db ← Session.read
  match fencedJob attempt db with
  | none => Session.raise (.runtimeError "agent job is unavailable")
  | some job =>
    Session.write fun db => (writes.apply db).setJob (markedRow now job)
    pure writes.result

/-- What is left of a mutation once its rows are written or refused. -/
def PortOpening.settle (attempt : Attempt) (now : Timestamp) : PortOpening → Query PortResult
  | .ends (.ok result) => pure result
  | .ends (.error error) => Session.raise error
  | .writes value => value.commit attempt now
  | .inserts _ _ _ => Session.raise .integrityError

/-- What is left of a mutation after its first statements. -/
def PortOpening.proceed (attempt : Attempt) (now : Timestamp) : PortOpening → Query PortResult
  | .inserts newId kind payload => do
    let db ← Session.read
    (insertArtifact attempt newId kind payload db).settle attempt now
  | opening => opening.settle attempt now

/-- A mutation of the port in one transaction. -/
def PortMutation.perform (attempt : Attempt) (now : Timestamp) (mutation : PortMutation) :
    Query PortResult :=
  Session.transaction do
    let db ← Session.read
    (mutation.opening attempt db).proceed attempt now

/-! ## The port -/

/-- The job a port is built for, and what its calls take from outside: the
identifier of a new row, the time, and `approval_timeout_seconds`. -/
structure PortContext where
  jobId : Uuid
  attemptCount : ℕ
  newId : Uuid
  now : Timestamp
  expiresIn : ℤ

/-- The attempt, for the tenant that a call names. -/
def PortContext.attempt (context : PortContext) (tenantId : Uuid) : Attempt :=
  ⟨context.jobId, tenantId, context.attemptCount⟩

/-- What the executor distinguishes. -/
def portError : AppError → PortError
  | .customerNotFound => .customerNotFound
  | _ => .other

/-- The result of `create_case`. -/
def PortResult.createdCase? : PortResult → Option CreatedCase
  | .createdCase id status acceptedFields => some ⟨uuidString id, status, acceptedFields⟩
  | _ => none

/-- The result of an operation that makes an artifact. -/
def PortResult.reference? : PortResult → Option ResultReference
  | .reference value => some value
  | _ => none

/-- `update_case_fields` answers `None` for a case that is not there. -/
def PortResult.updatedCase? : PortResult → Option UpdatedCase
  | .updatedCase id updatedFields => some ⟨uuidString id, updatedFields⟩
  | _ => none

/-- The customer as the port returns it. -/
def Customer.summary (customer : Customer) : CustomerSummary :=
  ⟨uuidString customer.id, customer.externalId, customer.name, customer.email, customer.phone⟩

/-- A mutation that makes an artifact; `job_id`, when given, has to be the
port's own. -/
def artifactCall (context : PortContext) (tenantId : Uuid) (jobId : Option Uuid)
    (mutation : PortMutation) : Session Db PortError ResultReference :=
  Session.mapError portError
    (if jobId.any (· ≠ context.jobId) then
      Session.raise (.runtimeError "artifact job is unavailable")
    else do
      let result ← mutation.perform (context.attempt tenantId) context.now
      Session.orRaise .integrityError result.reference?)

/-- `PostgresTenantToolPort`. -/
def postgresTenantToolPort (context : PortContext) : TenantToolPort Db where
  findCustomer tenantId email externalId := do
    let db ← Session.read
    pure ((findCustomerForTenant tenantId email externalId db).map Customer.summary)
  createCase tenantId source customerId fields := Session.mapError portError do
    let result ← (PortMutation.createCase context.newId source customerId
      (knownFieldsJson fields)).perform (context.attempt tenantId) context.now
    Session.orRaise .integrityError result.createdCase?
  updateCaseFields tenantId caseId fields := Session.mapError portError do
    let result ← (PortMutation.updateCaseFields caseId (knownFieldsJson fields)).perform
      (context.attempt tenantId) context.now
    pure result.updatedCase?
  caseExists tenantId caseId := do
    let db ← Session.read
    pure (db.case? caseId tenantId).isSome
  requestApproval tenantId action policyReason := Session.mapError portError do
    let requested ← ApprovalRepository.createForRunningJob context.newId tenantId context.jobId
      context.attemptCount action policyReason.value context.expiresIn context.now
    pure ⟨requested.1, requested.2⟩
  createReplyDraft tenantId jobId recipient subject body :=
    artifactCall context tenantId jobId (.createReplyDraft context.newId recipient subject body)
  flagForReview tenantId jobId reason :=
    artifactCall context tenantId jobId (.flagForReview context.newId reason)

/-! ## How a call ends -/

section Perform

variable {attempt : Attempt} {now : Timestamp} {mutation : PortMutation} {db : Db}

theorem PortMutation.perform_returns {result : PortResult}
    (h : mutation.opening attempt db = .ends (.ok result)) :
    mutation.perform attempt now db = (.ok result, db) := by
  rw [PortMutation.perform, Session.transaction, Session.read_bind_run, h]
  rfl

theorem PortMutation.perform_raises {error : AppError}
    (h : mutation.opening attempt db = .ends (.error error)) :
    mutation.perform attempt now db = (.error error, db) := by
  rw [PortMutation.perform, Session.transaction, Session.read_bind_run, h]
  rfl

theorem PortMutation.perform_commits {writes : PortWrites} {job : AgentJob}
    (h : mutation.opening attempt db = .writes writes) (hfenced : fencedJob attempt db = some job) :
    mutation.perform attempt now db =
      (.ok writes.result, (writes.apply db).setJob (markedRow now job)) := by
  rw [PortMutation.perform, Session.transaction, Session.read_bind_run, h]
  simp only [PortOpening.proceed, PortOpening.settle, PortWrites.commit, Session.read_bind_run,
    hfenced]
  rfl

end Perform

theorem callPort_state {σ α ε : Type} (operation : PortOperation) (raising : PortError → ε)
    (call : Session σ PortError α) (world : World σ) :
    (callPort operation raising call world).2.state = (call world.state).2 := by
  unfold callPort
  split <;> rename_i heq <;> rw [heq]

theorem callPort_ok {σ α ε : Type} {operation : PortOperation} {raising : PortError → ε}
    {program : Session σ PortError α} {world next : World σ} {a : α}
    (h : callPort operation raising program world = (.ok a, next)) :
    program world.state = (.ok a, next.state) := by
  unfold callPort at h
  split at h
  · rename_i heq
    cases h
    exact heq
  · cases h

theorem callPort_returns {σ α ε : Type} {operation : PortOperation} {raising : PortError → ε}
    {program : Session σ PortError α} {world : World σ} {a : α} {after : σ}
    (h : program world.state = (.ok a, after)) :
    callPort operation raising program world =
      (.ok a, ⟨after, world.log ++ [.port operation]⟩) := by
  rw [callPort, h]

theorem callPort_raises {σ α ε : Type} {operation : PortOperation} {raising : PortError → ε}
    {program : Session σ PortError α} {world : World σ} {error : PortError} {after : σ}
    (h : program world.state = (.error error, after)) :
    callPort operation raising program world =
      (.error (raising error), ⟨after, world.log ++ [.port operation]⟩) := by
  rw [callPort, h]

end IntegraIntake
