import IntegraIntake.Decisions.Invariant
import IntegraIntake.Tools.ModelInput

/-!
# What the losing calls see

`get_for_tenant_for_update` filters on the status of the job but locks only the
approval.  A call that waited while another call decided therefore evaluates
its condition on the decided approval and the parked job of its own snapshot,
finds no row and raises `ApprovalNotFound`.  This file shows that this is the
only way in which a later call misses the decision.
-/

namespace IntegraIntake

open Library JobRepository ApprovalRepository ApprovalDecision

/-- The interleavings of calls and workers, without sweeps. -/
def NoSweep : DecisionStep → Prop
  | .sweepBegin .. => False
  | _ => True

/-- Another call has decided the approval that `call` is about. -/
structure WinnerCommitted (state : DecisionState) (call : DecideCall) (row : Approval) : Prop where
  mem : row ∈ state.db.approvals
  id_eq : row.id = call.approvalId
  tenant_eq : row.tenantId = call.operator.tenantId
  final : row.status.isFinal = true

/-- The call returns the response of the decided row, which is what every call
that returned before it has returned, or raises the conflict of an opposite
decision. -/
def ObservesWinner (state : DecisionState) (call : DecideCall) (row : Approval) :
    Except AppError DecisionResponse → Prop
  | .ok value => isSameFinalDecision row call.request.decision = true ∧ response row = .ok value ∧
      ∀ process other earlier, state.processes process = .returned other (.ok earlier) →
        other.approvalId = call.approvalId → value = earlier
  | .error error => isSameFinalDecision row call.request.decision = false ∧
      error = .approvalDecisionConflict "approval already decided"

/-- The call waits for the lock since before the approval was decided. -/
def WaitsSincePending (state : DecisionState) (process : ℕ) (call : DecideCall) : Prop :=
  ∃ snapshot, state.processes process = .waiting call snapshot ∧
    ∃ approval ∈ snapshot.approvals, approval.id = call.approvalId ∧ approval.status = .pending

/-! ## Calls on a decided approval -/

section Decided

variable {services : Services} {db next : Db} {approval : Approval}

/-- A transaction that commits has resolved the profile of its job. -/
theorem Lifecycle.decideLocked_resolves (h : Lifecycle db) (happroval : approval ∈ db.approvals)
    {newId : Uuid} {operator : Operator} {request : DecisionRequest} {now : Timestamp}
    {verdict : Verdict}
    (hrun : decideLocked services newId approval operator request now db = (.ok verdict, next))
    {job : AgentJob} (hjob : job ∈ db.jobs) (hthis : approval.jobId = some job.id) :
    (services.resolvePersistedProfile job.tenantConfigSnapshot job.tenantConfigSha256).isSome := by
  obtain ⟨owner, howner, pending, deadline, hownerId, -, -, heq⟩ :=
    h.decideLocked_eq happroval services newId operator request now
  rw [h.jobs_unique.eq hjob howner (Option.some.inj (hthis.symm.trans hownerId))]
  rw [heq] at hrun
  cases hprofile : services.resolvePersistedProfile owner.tenantConfigSnapshot
      owner.tenantConfigSha256 with
  | none =>
      rw [hprofile] at hrun
      cases hrun
  | some profile => rfl

theorem ApprovalOk.response_of_final (h : ApprovalOk approval)
    (hfinal : approval.status.isFinal = true) : ∃ value, response approval = .ok value := by
  have hdecided : ∃ decidedAt, approval.decidedAt = some decidedAt := by
    rcases approval.status.isFinal_iff.1 hfinal with hstatus | hstatus | hstatus
    · obtain ⟨decidedAt, hdecidedAt, -⟩ := h.in_time (.inl hstatus)
      exact ⟨decidedAt, hdecidedAt⟩
    · obtain ⟨decidedAt, hdecidedAt, -⟩ := h.in_time (.inr hstatus)
      exact ⟨decidedAt, hdecidedAt⟩
    · obtain ⟨decidedAt, hdecidedAt, -⟩ := h.too_late hstatus
      exact ⟨decidedAt, hdecidedAt⟩
  obtain ⟨decidedAt, hdecidedAt⟩ := hdecided
  simp [response, hdecidedAt]

/-- A call that holds a decided row reuses the decision or raises the conflict. -/
theorem Lifecycle.decideHolding_of_final (h : Lifecycle db) (happroval : approval ∈ db.approvals)
    (hfinal : approval.status.isFinal = true)
    (hresolves : ∀ job ∈ db.jobs, approval.jobId = some job.id →
      (services.resolvePersistedProfile job.tenantConfigSnapshot job.tenantConfigSha256).isSome)
    (newId : Uuid) (operator : Operator) (request : DecisionRequest) (now : Timestamp) :
    (isSameFinalDecision approval request.decision = true ∧ ∃ value,
        response approval = .ok value ∧
        decideHolding services newId approval operator request now db = (.ok value, db)) ∨
      (isSameFinalDecision approval request.decision = false ∧
        decideHolding services newId approval operator request now db =
          (.error (.approvalDecisionConflict "approval already decided"), db)) := by
  obtain ⟨job, hjob, pending, deadline, hthis, -, -, heq⟩ :=
    h.decideLocked_eq happroval services newId operator request now
  obtain ⟨profile, hprofile⟩ := Option.isSome_iff_exists.1 (hresolves job hjob hthis)
  obtain ⟨value, hvalue⟩ := (h.approval_ok approval happroval).response_of_final hfinal
  simp only [hprofile, decideResolved, hfinal, if_true] at heq
  simp only [decideHolding, Session.bind_run, Session.transaction, heq]
  cases hsame : isSameFinalDecision approval request.decision with
  | true =>
      refine .inl ⟨rfl, value, hvalue, ?_⟩
      simp only [if_true, hvalue]
      rfl
  | false => exact .inr ⟨rfl, by simp⟩

/-- A response is the one of the decided row that the transaction leaves. -/
theorem Decided.response_row {newId : Uuid} {operator : Operator} {request : DecisionRequest}
    {now : Timestamp} {value : DecisionResponse} (happroval : approval ∈ db.approvals)
    (h : Decided services newId approval operator request now db (.response value) next) :
    ∃ row ∈ next.approvals, row.id = approval.id ∧ row.status.isFinal = true ∧
      response row = .ok value := by
  cases h with
  | reused hfinal _ hresponse => exact ⟨approval, happroval, rfl, hfinal, hresponse⟩
  | expired hparked _ happrove hreject =>
      cases hdecision : request.decision with
      | approve => cases happrove hdecision
      | reject =>
          obtain ⟨reported, heq, hresponse⟩ := hreject hdecision
          cases heq
          exact ⟨expiredRow now approval,
            Table.mem_replace_self ⟨approval, hparked.mem, rfl⟩, rfl, rfl, hresponse⟩
  | rejected hparked _ _ hresponse =>
      exact ⟨rejectedRow operator request now approval,
        Table.mem_replace_self ⟨approval, hparked.mem, rfl⟩, rfl, rfl, hresponse⟩
  | @approved job _ action executed working hparked _ _ hexecute hresponse =>
      obtain ⟨-, -, handled, -, -, -, hexecuted, -⟩ := execute_ok hexecute
      have htables := execute_tables hexecute
      simp only [lifecycleTables, Prod.mk.injEq] at htables
      have hid : (approvedRow operator request now executed).id = approval.id := by
        rw [approvedRow, hexecuted]
      refine ⟨approvedRow operator request now executed,
        Table.mem_replace_self ⟨approval, ?_, hid.symm⟩, hid, rfl, hresponse⟩
      rw [htables.2.1]
      exact hparked.mem

end Decided

/-! ## The invariant -/

/-- Snapshots are earlier databases, decided approvals have a profile that
resolves, and a response is the one of its row. -/
structure WinnerInvariant (services : Services) (state : DecisionState) : Prop where
  base : DecisionInvariant state
  no_sweep : ∀ process now selected, state.processes process ≠ .sweeping now selected
  snapshot : ∀ process call snapshot, state.processes process = .waiting call snapshot →
    Lifecycle snapshot ∧ Moves snapshot state.db ∧
      ∃ approval, getForTenant call.approvalId call.operator.tenantId snapshot = some approval
  resolves : ∀ approval ∈ state.db.approvals, approval.status.isFinal = true →
    ∀ job ∈ state.db.jobs, approval.jobId = some job.id →
    (services.resolvePersistedProfile job.tenantConfigSnapshot job.tenantConfigSha256).isSome
  response : ∀ process call value, state.processes process = .returned call (.ok value) →
    ∃ row ∈ state.db.approvals, row.id = call.approvalId ∧ row.status.isFinal = true ∧
      response row = .ok value

section Invariant

variable {services : Services} {state next : DecisionState} {label : DecisionStep}

/-- The profile of a job that has changed is the one it had. -/
theorem Moves.resolves {db next : Db} (hmoves : Moves db next) (h : Lifecycle db)
    {approval : Approval} (happroval : approval ∈ db.approvals)
    (hresolves : ∀ job ∈ db.jobs, approval.jobId = some job.id →
      (services.resolvePersistedProfile job.tenantConfigSnapshot job.tenantConfigSha256).isSome)
    {jobId : Option Uuid} (hjobId : jobId = approval.jobId) {job : AgentJob}
    (hjob : job ∈ next.jobs) (hthis : jobId = some job.id) :
    (services.resolvePersistedProfile job.tenantConfigSnapshot job.tenantConfigSha256).isSome := by
  obtain ⟨owner, howner, hownerId, -⟩ := h.coupled approval happroval
  obtain ⟨row, hrow, hevolves⟩ := (hmoves.evolves h).jobs owner howner
  have hid : job.id = owner.id :=
    Option.some.inj (hthis.symm.trans (hjobId.trans hownerId))
  rw [(h.moves hmoves).jobs_unique.eq hjob hrow (hid.trans hevolves.id_eq.symm),
    hevolves.snapshot_eq, hevolves.sha256_eq]
  exact hresolves owner howner hownerId

/-- The decided approvals after a step were decided before it, or are the one
that a call has concluded after resolving its profile. -/
theorem WinnerInvariant.resolves_taken (h : WinnerInvariant services state)
    (htaken : DecisionTaken services state label next) :
    ∀ approval ∈ next.db.approvals, approval.status.isFinal = true →
      ∀ job ∈ next.db.jobs, approval.jobId = some job.id →
      (services.resolvePersistedProfile job.tenantConfigSnapshot
        job.tenantConfigSha256).isSome := by
  have hlifecycle := h.base.lifecycle
  have hmoves := (h.base.taken htaken).2
  have hold : ∀ approval ∈ state.db.approvals, approval.status.isFinal = true →
      ∀ job ∈ next.db.jobs, approval.jobId = some job.id →
      (services.resolvePersistedProfile job.tenantConfigSnapshot
        job.tenantConfigSha256).isSome := by
    intro approval happroval hfinal job hjob hthis
    exact hmoves.resolves hlifecycle happroval (h.resolves approval happroval hfinal) rfl hjob hthis
  intro approval happroval hfinal
  cases htaken with
  | @worker operation hworker =>
      have huntouched : Untouched (fun _ => False) state.db (operation.apply services state.db) :=
        hlifecycle.worker_untouched operation hworker
      exact hold approval (huntouched.decided approval happroval hfinal id) hfinal
  | absent => exact hold approval happroval hfinal
  | waits => exact hold approval happroval hfinal
  | lost => exact hold approval happroval hfinal
  | holds => exact hold approval happroval hfinal
  | selects => exact hold approval happroval hfinal
  | swept hprocess => exact absurd hprocess (h.no_sweep _ _ _)
  | @concluded process call held outcome working hprocess hrun =>
      have hmem := (h.base.held process call held hprocess).1
      have huntouched := hlifecycle.conclude_untouched services call hmem
      rw [hrun] at huntouched
      by_cases htouched : approval.id = held.id
      · rcases hlifecycle.decideHolding_cases hmem services call.newId call.operator call.request
          call.now with ⟨error, raised, -, heq⟩ | ⟨verdict, final, hlocked, -, -⟩
        · have hsame : working = state.db := congrArg Prod.snd (hrun.symm.trans heq)
          exact hold approval (hsame ▸ happroval) hfinal
        · obtain ⟨row, hrow, hevolves⟩ := (hmoves.evolves hlifecycle).approvals held hmem
          have hunique := (hlifecycle.moves hmoves).approvals_unique
          have hsame : approval = row :=
            hunique.eq happroval hrow (htouched.trans hevolves.id_eq.symm)
          intro job hjob hthis
          exact hmoves.resolves hlifecycle hmem
            (fun job hjob hthis => hlifecycle.decideLocked_resolves hmem hlocked hjob hthis)
            (hsame ▸ hevolves.job_eq) hjob hthis
      · exact hold approval (huntouched.decided approval happroval hfinal htouched) hfinal

/-- A response, old or new, is the one of its row after the step. -/
theorem WinnerInvariant.response_taken (h : WinnerInvariant services state)
    (htaken : DecisionTaken services state label next) {process : ℕ} {call : DecideCall}
    {value : DecisionResponse} (hreturned : next.processes process = .returned call (.ok value)) :
    ∃ row ∈ next.db.approvals, row.id = call.approvalId ∧ row.status.isFinal = true ∧
      ApprovalDecision.response row = .ok value := by
  by_cases hbefore : state.processes process = .returned call (.ok value)
  · obtain ⟨row, hrow, hid, hfinal, hresponse⟩ := h.response process call value hbefore
    obtain ⟨after, hafter, hevolves⟩ :=
      ((h.base.taken htaken).2.evolves h.base.lifecycle).approvals row hrow
    exact ⟨row, hevolves.closed (.inl hfinal) ▸ hafter, hid, hfinal, hresponse⟩
  · rcases htaken.returned hbefore hreturned with ⟨heq, -⟩ | ⟨heq, -⟩ | ⟨approval, hprocess, hrun⟩
    · cases heq
    · cases heq
    · obtain ⟨hmem, hid, -⟩ := h.base.held _ _ _ hprocess
      rcases h.base.lifecycle.decideHolding_cases hmem services call.newId call.operator
        call.request call.now with ⟨error, raised, -, heq⟩ | ⟨verdict, final, -, hdecided, heq⟩
      · cases hrun.symm.trans heq
      · have hreport := hrun.symm.trans heq
        cases verdict with
        | expired => cases hreport
        | response reported =>
            cases hreport
            obtain ⟨row, hrow, hrowId, hrest⟩ := hdecided.response_row hmem
            exact ⟨row, hrow, hrowId.trans hid, hrest⟩

/-- One step without a sweep keeps the invariant. -/
theorem WinnerInvariant.taken (h : WinnerInvariant services state)
    (htaken : DecisionTaken services state label next) (hlabel : NoSweep label) :
    WinnerInvariant services next where
  base := (h.base.taken htaken).1
  no_sweep := by
    intro process now selected hsweeping
    cases htaken with
    | worker => exact h.no_sweep process now selected hsweeping
    | selects => exact hlabel
    | swept hprocess => exact h.no_sweep _ _ _ hprocess
    | absent | waits | lost | holds | concluded =>
        rcases DecisionState.setProcess_eq hsweeping with ⟨-, heq⟩ | hsame
        · cases heq
        · exact h.no_sweep process now selected hsame
  snapshot := by
    intro process call snapshot hwaiting
    have hmoves := (h.base.taken htaken).2
    rcases htaken.waiting hwaiting with hbefore | ⟨rfl, -, hfound⟩
    · obtain ⟨hlifecycle, hearlier, hfound⟩ := h.snapshot process call snapshot hbefore
      exact ⟨hlifecycle, hearlier.trans hmoves, hfound⟩
    · exact ⟨h.base.lifecycle, hmoves, hfound⟩
  resolves := h.resolves_taken htaken
  response _ _ _ hreturned := h.response_taken htaken hreturned

theorem winnerInvariant_of_reachable
    (h : (decisionMachine services).ReachableWith (fun _ => NoSweep) state) :
    WinnerInvariant services state := by
  refine h.invariant ?_ fun _ _ _ _ hstate hlabel hstep =>
    hstate.taken (decisionTaken_of_step hstep) hlabel
  intro state hinitial
  refine ⟨decisionInvariant_of_initial hinitial, ?_, ?_, ?_, ?_⟩
  · simp [hinitial.2.2.2]
  · simp [hinitial.2.2.2]
  · simp [hinitial.2.1]
  · simp [hinitial.2.2.2]

/-- A row that waited and is not found again was pending when the wait began. -/
theorem WinnerInvariant.waits_since_pending (h : WinnerInvariant services state) {process : ℕ}
    {call : DecideCall} {snapshot : Db}
    (hprocess : state.processes process = .waiting call snapshot)
    (hlost : recheck call snapshot state.db = none) : WaitsSincePending state process call := by
  obtain ⟨hlifecycle, hmoves, approval, hfound⟩ := h.snapshot process call snapshot hprocess
  obtain ⟨hmem, hid, htenant, hpublished⟩ := getForTenant_eq_some hfound
  refine ⟨snapshot, hprocess, approval, hmem, hid, ?_⟩
  by_contra hpending
  -- a public approval that is not pending is decided, so its row is still the same
  have hfinal : approval.status.isFinal = true := by
    have hpublic := isPublic_of_publishedLifecycle hpublished
    cases hstatus : approval.status <;> simp_all [ApprovalStatus.isPublic, ApprovalStatus.isFinal]
  obtain ⟨row, hrow, hevolves⟩ := (hmoves.evolves hlifecycle).approvals approval hmem
  rw [hevolves.closed (.inl hfinal)] at hrow
  have hnot := List.find?_eq_none.1 hlost approval hrow
  simp [hid, htenant, hpublished] at hnot

/-- A call that holds the decided row observes the winner. -/
theorem WinnerInvariant.observes_of_holding (h : WinnerInvariant services state) {process : ℕ}
    {call : DecideCall} {row approval : Approval} (hwinner : WinnerCommitted state call row)
    (hprocess : state.processes process = .holding call approval)
    {outcome : Except AppError DecisionResponse} {final : Db}
    (hrun : call.conclude services approval state.db = (outcome, final)) :
    ObservesWinner state call row outcome := by
  have hlifecycle := h.base.lifecycle
  obtain ⟨hmem, hid, -⟩ := h.base.held _ _ _ hprocess
  have hunique := hlifecycle.approvals_unique
  cases hunique.eq hmem hwinner.mem (hid.trans hwinner.id_eq.symm)
  rcases hlifecycle.decideHolding_of_final hwinner.mem hwinner.final
    (h.resolves row hwinner.mem hwinner.final) call.newId call.operator call.request call.now
    with ⟨hsame, value, hvalue, heq⟩ | ⟨hopposite, heq⟩
  · cases hrun.symm.trans heq
    refine ⟨hsame, hvalue, fun other otherCall earlier hreturned hcall => ?_⟩
    obtain ⟨found, hfound, hfoundId, -, hresponse⟩ := h.response other otherCall earlier hreturned
    rw [hunique.eq hfound hwinner.mem (hfoundId.trans (hcall.trans hwinner.id_eq.symm)), hvalue]
      at hresponse
    exact Except.ok.inj hresponse
  · cases hrun.symm.trans heq
    exact ⟨hopposite, rfl⟩

end Invariant

/-! ## Observing the winner -/

/-- The steps of runs in which no call gets its lock after the approval it
waits for since it was pending has been decided. -/
def NoOvertakenWait (state : DecisionState) (label : DecisionStep) : Prop :=
  NoSweep label ∧ ∀ process call row, label = .acquire process →
    WinnerCommitted state call row → ¬ WaitsSincePending state process call

/-- What a call sees that returns after another has decided its approval. -/
structure WinnerObserved (services : Services) : Prop where
  /-- In runs without overtaken waits every such call observes the winner. -/
  runs : ∀ state label next process call outcome row,
    (decisionMachine services).ReachableWith NoOvertakenWait state → NoOvertakenWait state label →
    (decisionMachine services).step state label = some next → WinnerCommitted state call row →
    state.processes process ≠ .returned call outcome →
    next.processes process = .returned call outcome → ObservesWinner state call row outcome
  /-- In any run such a call observes the winner exactly when it did not wait
  since before the decision. -/
  exactly : ∀ state label next process call outcome row,
    (decisionMachine services).ReachableWith (fun _ => NoSweep) state →
    (decisionMachine services).step state label = some next → WinnerCommitted state call row →
    state.processes process ≠ .returned call outcome →
    next.processes process = .returned call outcome →
    (ObservesWinner state call row outcome ↔ ¬ WaitsSincePending state process call)

theorem observesWinner_iff {services : Services} {state next : DecisionState}
    {label : DecisionStep} {process : ℕ} {call : DecideCall}
    {outcome : Except AppError DecisionResponse} {row : Approval}
    (h : WinnerInvariant services state)
    (hstep : (decisionMachine services).step state label = some next)
    (hwinner : WinnerCommitted state call row)
    (hbefore : state.processes process ≠ .returned call outcome)
    (hreturned : next.processes process = .returned call outcome) :
    ObservesWinner state call row outcome ↔ ¬ WaitsSincePending state process call := by
  rcases (decisionTaken_of_step hstep).returned hbefore hreturned with
    ⟨-, -, -, habsent⟩ | ⟨rfl, -, -, snapshot, hprocess, hlost⟩ | ⟨approval, hprocess, hrun⟩
  · -- a decided approval is found by the scan of a new call
    have hnot := List.find?_eq_none.1 habsent row hwinner.mem
    have hpublished := h.base.lifecycle.published hwinner.mem (by
      have hfinal := hwinner.final
      cases hstatus : row.status <;> simp_all [ApprovalStatus.isPublic, ApprovalStatus.isFinal])
    simp [hwinner.id_eq, hwinner.tenant_eq, hpublished] at hnot
  · refine iff_of_false ?_ (not_not.2 (h.waits_since_pending hprocess hlost))
    rintro ⟨-, heq⟩
    cases heq
  · refine iff_of_true (h.observes_of_holding hwinner hprocess hrun) ?_
    rintro ⟨snapshot, hwaiting, -⟩
    rw [hprocess] at hwaiting
    cases hwaiting

/-- A call that returns after the decision sees it, unless it waited for the
lock since before the decision. -/
theorem decisions_observe_winner (services : Services) : WinnerObserved services := by
  constructor
  · intro state label next process call outcome row hreachable hallowed hstep hwinner hbefore
      hreturned
    have hnosweep : (decisionMachine services).ReachableWith (fun _ => NoSweep) state :=
      hreachable.mono fun _ _ h => h.1
    have h := winnerInvariant_of_reachable hnosweep
    refine (observesWinner_iff h hstep hwinner hbefore hreturned).2 fun hwaits => ?_
    obtain ⟨snapshot, hprocess, hpending⟩ := hwaits
    have hlabel : label = .acquire process := by
      rcases (decisionTaken_of_step hstep).returned hbefore hreturned with
        ⟨-, -, hidle, -⟩ | ⟨-, -, hlabel, -⟩ | ⟨approval, hholding, -⟩
      · rw [hprocess] at hidle
        cases hidle
      · exact hlabel
      · rw [hprocess] at hholding
        cases hholding
    exact hallowed.2 process call row hlabel hwinner ⟨snapshot, hprocess, hpending⟩
  · intro state label next process call outcome row hreachable hstep hwinner hbefore hreturned
    exact observesWinner_iff (winnerInvariant_of_reachable hreachable) hstep hwinner hbefore
      hreturned

/-! ### A call that is overtaken -/

/-- The stored form of `replyProfile` and its fingerprint. -/
def replySnapshot : Json :=
  .obj [("profile_version", .int 2), ("slug", .str "acme"), ("scenario_key", .str "general"),
    ("display_name", .str "Acme"),
    ("intake_types", .arr [.obj [("name", .str "question"), ("description", .str "Questions"),
      ("required_fields", .arr [])]]),
    ("fields", .obj [("message", .obj [("type", .str "long_text"), ("label", .str "Message"),
      ("options", .null)])]),
    ("action_policy", .obj [
      ("create_reply_draft", .obj [("allowed", .bool true), ("requires_approval", .bool false),
        ("execution", .str "executable")]),
      ("send_reply", .obj [("allowed", .bool false), ("requires_approval", .bool true),
        ("execution", .str "policy_only")])]),
    ("documents", .obj []),
    ("routing", .obj [("outcome_names", .arr [.str "urgent", .str "awaiting_input",
        .str "pending_approval", .str "ready", .str "rejected"]),
      ("always_approval_actions", .arr [.str "send_reply"])])]

def replySha256 : String :=
  "07646ea190add16c884bde2582aa786ab87838a8636c6e735580968338eda42e"

/-- Services whose one stored profile is `replyProfile`. -/
def replyServices : Services where
  checks := noChecks
  decodeDocument _ := none
  resolvePersistedProfile _ sha256 :=
    if sha256 = replySha256 then
      some (replyProfile, (compileTenantProfile replyProfile replySha256).toOption)
    else none

def replyNewJob : NewJob where
  id := 1
  tenantId := 7
  traceId := 2
  sourceSnapshot := .obj [("channel", .str "email"), ("subject", .str "s"), ("body", .str "b")]
  tenantConfigSnapshot := replySnapshot
  tenantConfigSha256 := replySha256
  riskSignals := .obj []
  availableAt := 0
  key := "k"
  requestHash := "h"

/-- A rejection of approval 3 at time 10 by an operator of its tenant. -/
def rejection (actorRef : String) : DecideCall where
  newId := 9
  approvalId := 3
  operator := ⟨7, actorRef⟩
  request := ⟨.reject, "not needed", by decide⟩
  now := 10

/-- A job is parked with an approval that is due at 105. -/
def parkedSteps : List DecisionStep :=
  [.worker (.enqueue replyNewJob),
    .worker (.claimNext 0 60 [] fun _ => false),
    .worker (.createForRunningJob 3 7 1 1 ⟨1, "create_reply_draft", [], []⟩ "requires_approval"
      100 5),
    .worker (.recordAwaitingApprovalResult 1 (.obj []) 7 1)]

/-- Two operators reject at the same time: the second statement has started when
the first call gets the lock and commits. -/
def overtakenSteps : List DecisionStep :=
  parkedSteps ++ [.begin 1 (rejection "anna"), .begin 2 (rejection "ben"), .acquire 1, .finish 1]

def idleState : DecisionState := ⟨emptyDb, fun _ => none, fun _ => .idle⟩

def overtakenState : DecisionState :=
  ((decisionMachine replyServices).run idleState overtakenSteps).getD idleState

theorem overtakenState_reachable :
    (decisionMachine replyServices).ReachableWith (fun _ => NoSweep) overtakenState := by
  have hrun : (decisionMachine replyServices).run idleState overtakenSteps =
      some overtakenState := rfl
  refine Machine.ReachableWith.run (.initial ⟨rfl, rfl, fun _ => rfl, fun _ => rfl⟩) overtakenSteps
    ?_ hrun
  intro label hlabel _
  simp only [overtakenSteps, parkedSteps, List.cons_append, List.nil_append, List.mem_cons,
    List.not_mem_nil, or_false] at hlabel
  rcases hlabel with rfl | rfl | rfl | rfl | rfl | rfl | rfl | rfl <;> exact trivial

/-- The second rejection raises `ApprovalNotFound` where the first has returned
its response. -/
theorem overtaken_rejection_not_found :
    ∃ state next row value, (decisionMachine replyServices).ReachableWith (fun _ => NoSweep) state ∧
      state.processes 1 = .returned (rejection "anna") (.ok value) ∧
      WinnerCommitted state (rejection "ben") row ∧
      (∃ deadline ∈ row.expiresAt, (rejection "ben").now < deadline) ∧
      (decisionMachine replyServices).step state (.acquire 2) = some next ∧
      next.processes 2 = .returned (rejection "ben") (.error .approvalNotFound) ∧
      ¬ ObservesWinner state (rejection "ben") row (.error .approvalNotFound) := by
  have hrow : ∃ row, overtakenState.db.approvals = [row] ∧ row.id = 3 ∧ row.tenantId = 7 ∧
      row.status = .rejected ∧ row.expiresAt = some 105 := ⟨_, rfl, rfl, rfl, rfl, rfl⟩
  obtain ⟨row, hrows, hid, htenant, hstatus, hdeadline⟩ := hrow
  refine ⟨overtakenState, _, row, _, overtakenState_reachable, rfl,
    ⟨by simp [hrows], hid, htenant, by simp [hstatus, ApprovalStatus.isFinal]⟩,
    ⟨105, hdeadline, by decide⟩, rfl, rfl, ?_⟩
  rintro ⟨-, heq⟩
  cases heq

end IntegraIntake
