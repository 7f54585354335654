import IntegraIntake.Tools.Outcomes

/-!
# What is asked of the port

A port that notes every call before it passes it on.  A note has everything that
identifies what is read or written; the texts that a model writes for an operator
to read (the body of a reply, the reason of a review) are not part of it.
-/

namespace IntegraIntake

open Library

/-- A call of the port, without the texts it carries. -/
inductive PortRequest where
  | findCustomer (tenantId : Uuid) (email externalId : Option String)
  | createCase (tenantId : Uuid) (source : TrustedSource) (customerId : Option Uuid)
      (fields : FieldValues)
  | updateCaseFields (tenantId caseId : Uuid) (fields : FieldValues)
  | caseExists (tenantId caseId : Uuid)
  | requestApproval (tenantId : Uuid) (action : PendingAction) (policyReason : PolicyReason)
  | createReplyDraft (tenantId : Uuid) (jobId : Option Uuid) (recipient : Option String)
      (subject : String)
  | flagForReview (tenantId : Uuid) (jobId : Option Uuid)

variable {σ α β ε : Type}

/-- Note the request and go on. -/
def noting (request : PortRequest) (call : Session σ PortError α) :
    Session (σ × List PortRequest) PortError α := fun state =>
  let outcome := call state.1
  (outcome.1, outcome.2, state.2 ++ [request])

/-- The port, noting every call. -/
def TenantToolPort.noting (port : TenantToolPort σ) : TenantToolPort (σ × List PortRequest) where
  findCustomer tenantId email externalId :=
    IntegraIntake.noting (.findCustomer tenantId email externalId)
      (port.findCustomer tenantId email externalId)
  createCase tenantId source customerId fields :=
    IntegraIntake.noting (.createCase tenantId source customerId fields)
      (port.createCase tenantId source customerId fields)
  updateCaseFields tenantId caseId fields :=
    IntegraIntake.noting (.updateCaseFields tenantId caseId fields)
      (port.updateCaseFields tenantId caseId fields)
  caseExists tenantId caseId :=
    IntegraIntake.noting (.caseExists tenantId caseId) (port.caseExists tenantId caseId)
  requestApproval tenantId action policyReason :=
    IntegraIntake.noting (.requestApproval tenantId action policyReason)
      (port.requestApproval tenantId action policyReason)
  createReplyDraft tenantId jobId recipient subject body :=
    IntegraIntake.noting (.createReplyDraft tenantId jobId recipient subject)
      (port.createReplyDraft tenantId jobId recipient subject body)
  flagForReview tenantId jobId reason :=
    IntegraIntake.noting (.flagForReview tenantId jobId) (port.flagForReview tenantId jobId reason)

/-- The requests noted so far. -/
def World.requests (world : World (σ × List PortRequest)) : List PortRequest :=
  world.state.2

theorem callPort_requests {operation : PortOperation} {raising : PortError → ε}
    {request : PortRequest} {call : Session σ PortError α} (world : World (σ × List PortRequest)) :
    (callPort operation raising (noting request call) world).2.requests =
      world.requests ++ [request] := by
  unfold callPort noting
  cases call world.state.1 with
  | mk outcome next => cases outcome <;> rfl

/-- What comes after a call without asking for anything. -/
theorem bind_requests {program : Session (World (σ × List PortRequest)) ε α}
    {next : α → Session (World (σ × List PortRequest)) ε β}
    (hnext : ∀ a, Session.Keeps World.requests (next a)) (world : World (σ × List PortRequest)) :
    ((program >>= next) world).2.requests = (program world).2.requests := by
  rw [Session.bind_run]
  cases program world with
  | mk outcome working =>
      cases outcome with
      | error error => rfl
      | ok a => exact hnext a working

end IntegraIntake
