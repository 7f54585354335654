import IntegraIntake.Isolation.Intake
import IntegraIntake.Lifecycle.Decision

/-!
# Isolation of a decision

`decide` finds the approval under the operator's tenant.  From there on it
follows the approval: to its job, to the case or the customer that the frozen
command names, to the record and the artifacts of the job, always with the
approval's tenant.
-/

namespace IntegraIntake

open Library ApprovalRepository

variable {own : OwnIds} {tenantId : Uuid} {db : Db}

/-! ## Rows that were found -/

/-- A new case, its event and the record that points to it. -/
theorem TenantUpdate.newCase {case : IntakeCase} {event : CaseEvent} {record : IdempotencyRecord}
    (htenant : case.tenantId = tenantId) (hid : case.id ∈ own.cases)
    (hevent : event.tenantId = tenantId) (hrecord : record.tenantId = tenantId) :
    TenantUpdate own tenantId fun db =>
      ((db.addCase case).addCaseEvent event).setIdempotency record :=
  ((TenantUpdate.addCase htenant hid).comp (TenantUpdate.addCaseEvent hevent)).comp
    (TenantUpdate.setIdempotency hrecord)

/-- A case that is overwritten, with an event. -/
theorem TenantUpdate.changedCase {case : IntakeCase} {event : CaseEvent}
    (htenant : case.tenantId = tenantId) (hid : case.id ∈ own.cases)
    (hevent : event.tenantId = tenantId) :
    TenantUpdate own tenantId fun db => (db.setCase case).addCaseEvent event :=
  (TenantUpdate.setCase htenant hid).comp (TenantUpdate.addCaseEvent hevent)

namespace ApprovalExecutor

variable {services : Services} {approval : Approval} {job : AgentJob} {action : PendingAction}

end ApprovalExecutor

/-! ## The decision -/

namespace ApprovalDecision

variable {services : Services} {approval : Approval} {job : AgentJob} {operator : Operator}
  {request : DecisionRequest}

/-- The rows that a decision works on. -/
structure OwnRows (own : OwnIds) (tenantId : Uuid) (approval : Approval) (job : AgentJob) :
    Prop where
  approval_tenant : approval.tenantId = tenantId
  approval_own : approval.id ∈ own.approvals
  job_tenant : job.tenantId = tenantId
  job_own : job.id ∈ own.jobs

variable (h : OwnRows own tenantId approval job)

include h

/-- The executor gives back the rows it was called with, under their keys. -/
theorem OwnRows.executed {newId : Uuid} {action : PendingAction} {now : Timestamp}
    {db working : Db} {executed : ApprovalExecutor.Executed}
    (hrun : ApprovalExecutor.execute services newId approval job action now db =
      (.ok executed, working)) : OwnRows own tenantId executed.approval executed.job := by
  obtain ⟨_, _, _, _, _, _, happroval, hjob, _⟩ := execute_ok hrun
  constructor
  · rw [happroval]
    exact h.approval_tenant
  · rw [happroval]
    exact h.approval_own
  · rw [hjob]
    exact h.job_tenant
  · rw [hjob]
    exact h.job_own

omit h

end ApprovalDecision
end IntegraIntake
