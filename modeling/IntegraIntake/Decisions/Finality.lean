import IntegraIntake.Decisions.Invariant

/-!
# Decisions are final and execute at most once

Over all interleavings of calls, sweeps and workers: an approval leaves
`pending` in one transaction, its row is frozen from then on, the rows an
executed action writes change only in the transaction that approves, and a call
that raises has changed nothing, except that `ApprovalExpired` is raised after
the expiry has been committed.
-/

namespace IntegraIntake

open Library JobRepository ApprovalRepository ApprovalDecision

/-! ## The rows that the executor writes -/

/-- Everything an executed action can write: the business tables and the
side-effect marker of each job. -/
def businessRows (db : Db) : List Customer × List IntakeCase × List CaseEvent ×
    List JobArtifact × List IdempotencyRecord × List (Uuid × Option Timestamp) :=
  (db.customers, db.cases, db.caseEvents, db.artifacts, db.idempotency,
    db.jobs.map fun job => (job.id, job.sideEffectCommittedAt))

section BusinessRows

variable {db next : Db} {approval : Approval} {job : AgentJob} {now : Timestamp}

/-- A job row that keeps its marker. -/
theorem markers_replace (hunique : Table.Unique AgentJob.id db.jobs) (hjob : job ∈ db.jobs)
    {row : AgentJob} (hid : row.id = job.id)
    (hmarker : row.sideEffectCommittedAt = job.sideEffectCommittedAt) :
    (Table.replace AgentJob.id row db.jobs).map (fun job => (job.id, job.sideEffectCommittedAt)) =
      db.jobs.map fun job => (job.id, job.sideEffectCommittedAt) := by
  refine Table.map_replace _ fun old hold hsame => ?_
  rw [hunique.eq hold hjob (hsame.trans hid), hid, hmarker]

theorem businessRows_expiredDb (h : Lifecycle db) (hparked : Parked db approval job) :
    businessRows (expiredDb now approval job db) = businessRows db := by
  simp only [businessRows, expiredDb, Db.setJob, Db.addApprovalEvent, Db.setApproval]
  rw [markers_replace h.jobs_unique hparked.job_mem (by rfl) (by rfl)]

theorem Expirations.businessRows_eq {selected : List Approval}
    (hexpired : Expirations now db selected next) (h : Lifecycle db) :
    businessRows next = businessRows db := by
  induction hexpired with
  | nil => rfl
  | cons hparked hdue _ ih =>
      rw [ih (h.moves (h.moves_expiredDb hparked hdue)), businessRows_expiredDb h hparked]

/-- A decision that changes business rows has approved its pending approval. -/
theorem Decided.businessRows_cases {services : Services} {newId : Uuid} {operator : Operator}
    {request : DecisionRequest} {verdict : Verdict} (h : Lifecycle db)
    (hdecided : Decided services newId approval operator request now db verdict next) :
    businessRows next = businessRows db ∨
      (approval.status = .pending ∧ ∃ row ∈ next.approvals, row.id = approval.id ∧
        row.status = .approved) := by
  cases hdecided with
  | reused => exact .inl rfl
  | expired hparked => exact .inl (businessRows_expiredDb h hparked)
  | rejected hparked =>
      refine .inl ?_
      simp only [businessRows, rejectedDb, Db.setJob, Db.addApprovalEvent, Db.setApproval]
      rw [markers_replace h.jobs_unique hparked.job_mem (by rfl) (by rfl)]
  | @approved job value action executed working hparked _ _ hexecute =>
      obtain ⟨-, -, handled, -, -, -, happroval, -⟩ := execute_ok hexecute
      have htables := execute_tables hexecute
      simp only [lifecycleTables, Prod.mk.injEq] at htables
      have hid : (approvedRow operator request now executed).id = approval.id := by
        rw [approvedRow, happroval]
      refine .inr ⟨hparked.pending, approvedRow operator request now executed, ?_, hid, rfl⟩
      refine Table.mem_replace_self ⟨approval, ?_, hid.symm⟩
      rw [htables.2.1]
      exact hparked.mem

end BusinessRows

/-! ## Transitions -/

/-- The approval has the status. -/
def HasStatus (db : Db) (approvalId : Uuid) (status : ApprovalStatus) : Prop :=
  ∃ approval ∈ db.approvals, approval.id = approvalId ∧ approval.status = status

/-- A transition that takes an approval out of `pending`. -/
def LeavesPending (approvalId : Uuid) (transition : DecisionState × DecisionStep × DecisionState) :
    Prop :=
  HasStatus transition.1.db approvalId .pending ∧ ¬ HasStatus transition.2.2.db approvalId .pending

/-- A transition in which a call on an approval commits a change of business rows. -/
def ExecutesAction (approvalId : Uuid) (transition : DecisionState × DecisionStep × DecisionState) :
    Prop :=
  ∃ process call approval, transition.2.1 = .finish process ∧
    transition.1.processes process = .holding call approval ∧ approval.id = approvalId ∧
    businessRows transition.2.2.db ≠ businessRows transition.1.db

section Transitions

variable {services : Services} {state next : DecisionState} {label : DecisionStep}

theorem DecisionInvariant.evolves (h : DecisionInvariant state)
    (hstep : (decisionMachine services).step state label = some next) :
    Evolves state.db next.db :=
  (h.taken (decisionTaken_of_step hstep)).2.evolves h.lifecycle

/-- A row that is decided or cancelled is the same row after any step. -/
theorem DecisionInvariant.closed (h : DecisionInvariant state)
    (hstep : (decisionMachine services).step state label = some next) {approval : Approval}
    (happroval : approval ∈ state.db.approvals)
    (hclosed : approval.status.isFinal = true ∨ approval.status = .cancelled) :
    approval ∈ next.db.approvals := by
  obtain ⟨row, hrow, hevolves⟩ := (h.evolves hstep).approvals approval happroval
  exact hevolves.closed hclosed ▸ hrow

theorem DecisionInvariant.leaves_pending (h : DecisionInvariant state)
    (hstep : (decisionMachine services).step state label = some next) {approvalId : Uuid}
    (hleaves : LeavesPending approvalId (state, label, next)) :
    ∃ approval ∈ next.db.approvals, approval.id = approvalId ∧ approval.status.isFinal = true := by
  obtain ⟨⟨approval, happroval, hid, hpending⟩, hnot⟩ := hleaves
  obtain ⟨row, hrow, hevolves⟩ := (h.evolves hstep).approvals approval happroval
  rcases hevolves.pending hpending with rfl | hfinal
  · exact absurd ⟨row, hrow, hid, hpending⟩ hnot
  · exact ⟨row, hrow, hevolves.id_eq.trans hid, hfinal⟩

open Classical in
/-- In a run an approval leaves `pending` at most once. -/
theorem countP_leavesPending (approvalId : Uuid)
    {transitions : List (DecisionState × DecisionStep × DecisionState)} {final : DecisionState}
    (hpath : (decisionMachine services).Path state transitions final)
    (hreachable : (decisionMachine services).Reachable state) :
    transitions.countP (fun t => decide (LeavesPending approvalId t)) ≤ 1 := by
  refine hpath.countP_le_one (P := fun s => HasStatus s.db approvalId .pending)
    (Q := fun s => ∃ approval ∈ s.db.approvals, approval.id = approvalId ∧
      approval.status.isFinal = true) ?_ ?_ ?_ hreachable
  · intro state label next hreach hstep hleaves
    exact ⟨hleaves.1, (decisionInvariant_of_reachable hreach).leaves_pending hstep hleaves⟩
  · rintro state label next hreach ⟨approval, happroval, hid, hfinal⟩ hstep
    exact ⟨approval, (decisionInvariant_of_reachable hreach).closed hstep happroval (.inl hfinal),
      hid, hfinal⟩
  · rintro state hreach ⟨approval, happroval, hid, hpending⟩ ⟨other, hother, hotherId, hfinal⟩
    have hunique := (decisionInvariant_of_reachable hreach).lifecycle.approvals_unique
    rw [hunique.eq hother happroval (hotherId.trans hid.symm), hpending] at hfinal
    cases hfinal

/-- What a concluded call does to the business rows. -/
theorem DecisionInvariant.conclude_businessRows (services : Services)
    (h : DecisionInvariant state) {process : ℕ}
    {call : DecideCall} {approval : Approval}
    (hprocess : state.processes process = .holding call approval) :
    businessRows (call.conclude services approval state.db).2 = businessRows state.db ∨
      (approval.status = .pending ∧
        HasStatus (call.conclude services approval state.db).2 approval.id .approved) := by
  have hmem := (h.held process call approval hprocess).1
  rcases h.lifecycle.decideHolding_cases hmem services call.newId call.operator call.request
    call.now with ⟨error, working, -, heq⟩ | ⟨verdict, working, -, hdecided, heq⟩
  · rw [DecideCall.conclude, heq]
    exact .inl rfl
  · rw [DecideCall.conclude, heq, report_state]
    exact hdecided.businessRows_cases h.lifecycle

/-- Outside the workers, only the conclusion of a call changes business rows,
and only when it approves a pending approval. -/
theorem DecisionInvariant.executes (h : DecisionInvariant state)
    (hstep : (decisionMachine services).step state label = some next)
    (hworker : ∀ operation, label ≠ .worker operation)
    (hchange : businessRows next.db ≠ businessRows state.db) :
    ∃ process call approval, label = .finish process ∧
      state.processes process = .holding call approval ∧
      HasStatus state.db approval.id .pending ∧ HasStatus next.db approval.id .approved := by
  cases decisionTaken_of_step hstep with
  | worker => exact absurd rfl (hworker _)
  | absent => exact absurd rfl hchange
  | waits => exact absurd rfl hchange
  | lost => exact absurd rfl hchange
  | holds => exact absurd rfl hchange
  | selects => exact absurd rfl hchange
  | @concluded process call approval outcome working hprocess hrun =>
      have hcases := h.conclude_businessRows services hprocess
      rw [hrun] at hcases
      rcases hcases with hsame | ⟨hpending, happroved⟩
      · exact absurd hsame hchange
      · exact ⟨process, call, approval, rfl, hprocess,
          ⟨approval, (h.held process call approval hprocess).1, rfl, hpending⟩, happroved⟩
  | @swept process now selected working hprocess hrun =>
      have hexpired := h.expirations hprocess
      rw [hrun] at hexpired
      exact absurd (hexpired.businessRows_eq h.lifecycle) hchange

/-- A call that raises: before its commit, or after committing an expiry. -/
theorem DecisionInvariant.raises (h : DecisionInvariant state)
    (hstep : (decisionMachine services).step state label = some next) {process : ℕ}
    {call : DecideCall} {error : AppError}
    (hbefore : state.processes process ≠ .returned call (.error error))
    (hreturned : next.processes process = .returned call (.error error)) :
    ((∀ message, error ≠ .approvalExpired message) ∧ next.db = state.db) ∨
      (error = .approvalExpired "approval expired" ∧ ∃ approval job,
        approval.id = call.approvalId ∧ Parked state.db approval job ∧
        (∃ deadline ∈ approval.expiresAt, deadline ≤ call.now) ∧
        next.db = expiredDb call.now approval job state.db) := by
  rcases (decisionTaken_of_step hstep).returned hbefore hreturned with
    ⟨heq, hdb, -⟩ | ⟨heq, hdb, -⟩ | ⟨approval, hprocess, hrun⟩
  · cases heq
    exact .inl ⟨by simp, hdb⟩
  · cases heq
    exact .inl ⟨by simp, hdb⟩
  · obtain ⟨hmem, hid, -⟩ := h.held _ _ _ hprocess
    rcases h.lifecycle.decideHolding_error services call.newId call.operator call.request call.now
      hmem hrun with ⟨herror, heq⟩ | ⟨herror, job, hparked, hdue, -, heq⟩
    · exact .inl ⟨herror.1, heq⟩
    · exact .inr ⟨herror, approval, job, hid, hparked, hdue, heq⟩

end Transitions

/-! ## Finality -/

open Classical in
/-- What every interleaving of calls, sweeps and workers guarantees. -/
structure DecisionFinality (services : Services) : Prop where
  leaves_pending_once : ∀ approvalId state transitions final,
    (decisionMachine services).initial state →
    (decisionMachine services).Path state transitions final →
    transitions.countP (fun t => decide (LeavesPending approvalId t)) ≤ 1
  never_changes_again : ∀ state label next, (decisionMachine services).Reachable state →
    (decisionMachine services).step state label = some next →
    ∀ approval ∈ state.db.approvals,
      approval.status = .approved ∨ approval.status = .rejected ∨ approval.status = .expired →
      approval ∈ next.db.approvals ∧
        ∀ row ∈ next.db.approvals, row.id = approval.id → row = approval
  executes_once : ∀ approvalId state transitions final,
    (decisionMachine services).initial state →
    (decisionMachine services).Path state transitions final →
    transitions.countP (fun t => decide (ExecutesAction approvalId t)) ≤ 1
  executes_when_approving : ∀ state label next, (decisionMachine services).Reachable state →
    (decisionMachine services).step state label = some next →
    (∀ operation, label ≠ .worker operation) → businessRows next.db ≠ businessRows state.db →
    ∃ process call approval, label = .finish process ∧
      state.processes process = .holding call approval ∧
      HasStatus state.db approval.id .pending ∧ HasStatus next.db approval.id .approved
  executed_at : ∀ state, (decisionMachine services).Reachable state →
    ∀ approval ∈ state.db.approvals, approval.executedAt.isSome ↔ approval.status = .approved
  decided_in_time : ∀ state, (decisionMachine services).Reachable state →
    ∀ approval ∈ state.db.approvals, approval.status = .approved ∨ approval.status = .rejected →
    ∃ decidedAt ∈ approval.decidedAt, ∃ deadline ∈ approval.expiresAt, decidedAt < deadline
  expired_too_late : ∀ state, (decisionMachine services).Reachable state →
    ∀ approval ∈ state.db.approvals, approval.status = .expired →
    ∃ decidedAt ∈ approval.decidedAt, ∃ deadline ∈ approval.expiresAt, deadline ≤ decidedAt
  /-- Until its conclusion a call writes nothing. -/
  writes_at_end : ∀ state label next, (decisionMachine services).step state label = some next →
    (∃ process call, label = .begin process call) ∨ (∃ process, label = .acquire process) →
    next.db = state.db
  /-- A call that raises has written nothing, or exactly the expiry. -/
  raises : ∀ state label next process call error, (decisionMachine services).Reachable state →
    (decisionMachine services).step state label = some next →
    state.processes process ≠ .returned call (.error error) →
    next.processes process = .returned call (.error error) →
    ((∀ message, error ≠ .approvalExpired message) ∧ next.db = state.db) ∨
      (error = .approvalExpired "approval expired" ∧ ∃ approval job,
        approval.id = call.approvalId ∧ Parked state.db approval job ∧
        (∃ deadline ∈ approval.expiresAt, deadline ≤ call.now) ∧
        next.db = expiredDb call.now approval job state.db)

/-- A transition that executes the action of an approval takes it out of `pending`. -/
theorem leavesPending_of_executesAction {services : Services} {state next : DecisionState}
    {label : DecisionStep} (hreachable : (decisionMachine services).Reachable state)
    (hstep : (decisionMachine services).step state label = some next) {approvalId : Uuid}
    (hexecutes : ExecutesAction approvalId (state, label, next)) :
    LeavesPending approvalId (state, label, next) := by
  obtain ⟨process, call, approval, hlabel, hprocess, rfl, hchange⟩ := hexecutes
  dsimp only at hlabel hprocess hchange
  have h := decisionInvariant_of_reachable hreachable
  obtain ⟨other, otherCall, held, hfinish, hheld, hpending, happroved⟩ :=
    h.executes hstep (by simp [hlabel]) hchange
  rw [hlabel] at hfinish
  cases hfinish
  rw [hprocess] at hheld
  cases hheld
  refine ⟨hpending, ?_⟩
  rintro ⟨row, hrow, hid, hstill⟩
  obtain ⟨approved, hmem, hsame, hstatus⟩ := happroved
  have hunique :=
    (decisionInvariant_of_reachable (hreachable.step hstep)).lifecycle.approvals_unique
  rw [hunique.eq hrow hmem (hid.trans hsame.symm), hstatus] at hstill
  cases hstill

/-- A decision is final, its action is executed at most once, and a call that
raises leaves no trace but an expiry. -/
theorem decision_finality (services : Services) : DecisionFinality services := by
  constructor
  · intro approvalId state transitions final hinitial hpath
    exact countP_leavesPending approvalId hpath (.initial hinitial)
  · intro state label next hreachable hstep approval happroval hfinal
    have hmem := (decisionInvariant_of_reachable hreachable).closed hstep happroval
      (.inl (approval.status.isFinal_iff.2 hfinal))
    have hunique :=
      (decisionInvariant_of_reachable (hreachable.step hstep)).lifecycle.approvals_unique
    exact ⟨hmem, fun row hrow hid => hunique.eq hrow hmem hid⟩
  · classical
    intro approvalId state transitions final hinitial hpath
    refine le_trans (List.countP_mono_left fun t ht hexecutes => ?_)
      (countP_leavesPending approvalId hpath (.initial hinitial))
    obtain ⟨hreachable, hstep⟩ := hpath.transition (.initial hinitial) t ht
    exact decide_eq_true (leavesPending_of_executesAction hreachable hstep
      (of_decide_eq_true hexecutes))
  · intro state label next hreachable hstep hworker hchange
    exact (decisionInvariant_of_reachable hreachable).executes hstep hworker hchange
  · intro state hreachable approval happroval
    exact ((decisionInvariant_of_reachable hreachable).lifecycle.approval_ok approval
      happroval).executed
  · intro state hreachable approval happroval
    exact ((decisionInvariant_of_reachable hreachable).lifecycle.approval_ok approval
      happroval).in_time
  · intro state hreachable approval happroval
    exact ((decisionInvariant_of_reachable hreachable).lifecycle.approval_ok approval
      happroval).too_late
  · rintro state label next hstep (⟨process, call, rfl⟩ | ⟨process, rfl⟩) <;>
      cases decisionTaken_of_step hstep <;> rfl
  · intro state label next process call error hreachable hstep hbefore hreturned
    exact (decisionInvariant_of_reachable hreachable).raises hstep hbefore hreturned

end IntegraIntake
