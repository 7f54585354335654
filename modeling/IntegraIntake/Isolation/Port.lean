import IntegraIntake.Isolation.Decisions
import IntegraIntake.Tools.PostgresPort

/-!
# Isolation of the tool port

The identifiers in a call of the port come from a model.  Every operation passes
them to a select of the call's tenant, and writes only the rows that such a
select gave, or new ones.
-/

namespace IntegraIntake

open Library ApprovalRepository

variable {own : OwnIds} {tenantId : Uuid} {db other : Db} {attempt : Attempt}

/-! ## What a mutation writes -/

/-- Rows of the tenant, under identifiers of its own. -/
def PortWrites.Own (own : OwnIds) (tenantId : Uuid) : PortWrites → Prop
  | newCase record case =>
    case.tenantId = tenantId ∧ case.id ∈ own.cases ∧ record.tenantId = tenantId
  | newArtifact artifact => artifact.tenantId = tenantId
  | existingArtifact _ => True
  | caseFields case _ => case.tenantId = tenantId ∧ case.id ∈ own.cases

theorem PortWrites.Own.apply {writes : PortWrites} (h : writes.Own own tenantId) :
    TenantUpdate own tenantId fun db => writes.apply db := by
  cases writes with
  | newCase record case =>
      obtain ⟨htenant, hid, hrecord⟩ := h
      exact TenantUpdate.newCase htenant hid htenant hrecord
  | newArtifact artifact => exact TenantUpdate.addArtifact h
  | existingArtifact reference => exact ⟨fun _ h => ⟨h, rfl⟩, fun _ _ _ _ hown => hown⟩
  | caseFields case fields =>
      obtain ⟨htenant, hid⟩ := h
      exact TenantUpdate.changedCase htenant hid htenant

/-- What the first statements of a mutation may come to. -/
def PortOpening.Own (own : OwnIds) (tenantId : Uuid) : PortOpening → Prop
  | ends _ => True
  | writes value => value.Own own tenantId
  | inserts newId _ _ => newId ∈ own.artifacts

/-- The identifier that a mutation gives to a new row is one of the tenant's. -/
def PortMutation.Own (own : OwnIds) : PortMutation → Prop
  | createCase newId _ _ _ => newId ∈ own.cases
  | createArtifact newId _ _ => newId ∈ own.artifacts
  | updateCaseFields _ _ => True

section Opening

variable (htenant : attempt.tenantId = tenantId)

include htenant

end Opening

/-! ## Requesting an approval -/

section Request

variable {job : AgentJob} {action : PendingAction}

end Request

/-! ## The operations of the port -/

/-- Each operation of a port is isolated in the tenant that it is called for. -/
structure TenantToolPort.Isolated (port : TenantToolPort Db) (own : OwnIds) (tenantId : Uuid) :
    Prop where
  findCustomer : ∀ email externalId,
    TenantIsolated own tenantId (port.findCustomer tenantId email externalId)
  createCase : ∀ source customerId fields,
    TenantIsolated own tenantId (port.createCase tenantId source customerId fields)
  updateCaseFields : ∀ caseId fields,
    TenantIsolated own tenantId (port.updateCaseFields tenantId caseId fields)
  caseExists : ∀ caseId, TenantIsolated own tenantId (port.caseExists tenantId caseId)
  requestApproval : ∀ action policyReason,
    TenantIsolated own tenantId (port.requestApproval tenantId action policyReason)
  createReplyDraft : ∀ jobId recipient subject body,
    TenantIsolated own tenantId (port.createReplyDraft tenantId jobId recipient subject body)
  flagForReview : ∀ jobId reason,
    TenantIsolated own tenantId (port.flagForReview tenantId jobId reason)

end IntegraIntake
