import IntegraIntake.System.Replay
import IntegraIntake.Decisions.Winner
import IntegraIntake.Tools.ModelInput
import IntegraIntake.Workers.Summary

/-!
# Parking a job

The worker decides from the result of a run whether to park its job: it looks
for the final response `approval_requested`, which on one path of the loop is
the model's own sentence, and for an entry of a known action that needs
approval.  `approvalWasRequested_iff` says that the two together mean what they
are meant to mean, because only the last entry of a completed run can be such an
entry.  The second half is about the database: an approval that was staged for
an attempt is there, and staged, as long as the attempt has its job.
-/

namespace IntegraIntake

open Library JobRepository ApprovalRepository

/-! ## What the worker concludes from a result -/

section Result

variable {σ : Type} {checks : ValueChecks} {port : TenantToolPort σ}
  {runtime : TrustedToolRuntimeContext} {base final : World σ} {total : ℕ}
  {result : AgentRunResult} {front : List ExecutionPathEntry} {last : ExecutionPathEntry}
  {proposal : AgentProposal}

theorem approvalWasRequested_iff
    (h : CompletedRun checks port runtime base total result final front last proposal) :
    approvalWasRequested result = true ↔ Executes.Requests last.toToolExecutionEvidence := by
  unfold approvalWasRequested
  rw [Bool.and_eq_true, beq_iff_eq, List.any_eq_true, h.path]
  constructor
  · rintro ⟨hresponse, entry, hentry, hneeds⟩
    rw [Bool.and_eq_true, beq_iff_eq] at hneeds
    rcases h.request with ⟨hrequests, -⟩ | ⟨-, hsilent, -⟩
    · exact hrequests
    · rcases List.mem_append.1 hentry with hfront | hlast
      · -- an earlier entry is an allowed call
        have hallowed := (h.front_allowed entry hfront).1
        rw [hallowed] at hneeds
        cases hneeds.2
      · rw [List.mem_singleton.1 hlast] at hneeds
        exact absurd ⟨hresponse, hneeds.2, hneeds.1⟩ hsilent
  · intro hrequests
    rcases h.request with ⟨-, hresponse, -⟩ | ⟨hnot, -⟩
    · refine ⟨hresponse, last, by simp, ?_⟩
      rw [Bool.and_eq_true, beq_iff_eq]
      exact ⟨hrequests.2.1, hrequests.1⟩
    · exact absurd hrequests hnot

theorem ofResult_of_requested (hstatus : result.status = .completed)
    (hpath : result.executionPath ≠ []) (hrequested : approvalWasRequested result = true) :
    RunEnd.ofResult result = .approvalRequested (resultSummary result) := by
  rw [RunEnd.ofResult, hstatus]
  simp only [hpath, if_false, hrequested, if_true]

theorem ofResult_of_not_requested (hstatus : result.status = .completed)
    (hpath : result.executionPath ≠ []) (hrequested : approvalWasRequested result = false) :
    RunEnd.ofResult result = .completed (resultSummary result) := by
  rw [RunEnd.ofResult, hstatus]
  simp only [hpath, if_false, hrequested, Bool.false_eq_true]

/-- The last entry is the entry of the last step. -/
theorem CompletedRun.last_step
    (h : CompletedRun checks port runtime base total result final front last proposal) :
    last.step = result.steps := by
  have hsteps := h.path_steps
  have hlength := congrArg List.length hsteps
  rw [h.path, List.map_append, List.map_singleton] at hsteps
  rw [h.path, List.length_map, List.length_append, List.length_range', List.length_singleton]
    at hlength
  have hlast : (List.range' 1 result.steps).getLast? = some last.step := by
    rw [← hsteps, List.getLast?_append, List.getLast?_singleton]
    rfl
  rw [List.getLast?_range', if_neg (by omega)] at hlast
  have := Option.some.inj hlast
  omega

end Result

/-! ## The staged approval of an attempt -/

section Database

variable {services : Services}

/-- A request that returns leaves an approval of the job. -/
theorem createForRunningJob_staged {newId tenantId jobId : Uuid} {attemptCount : ℕ}
    {action : PendingAction} {policyReason : String} {expiresIn : ℤ} {now : Timestamp}
    {db next : Db} {granted : Uuid × Timestamp} (hlifecycle : Lifecycle db)
    (h : createForRunningJob newId tenantId jobId attemptCount action policyReason
      expiresIn now db =
      (.ok granted, next)) :
    ∃ approval ∈ next.approvals, approval.jobId = some jobId := by
  rcases createForRunningJob_cases newId tenantId jobId attemptCount action policyReason expiresIn
    now db with ⟨error, heq⟩ | ⟨job, answer, events, howned,
      ⟨existing, row, hexisting, hthis, -, hrestaged, heq⟩ | ⟨-, heq⟩⟩
  · rw [heq] at h
    cases h
  · rw [heq] at h
    cases h
    have hrow := hrestaged (hlifecycle.approval_ok existing hexisting).config_sha256
    exact ⟨row, Table.mem_replace_self ⟨existing, hexisting, hrow.id_eq.symm⟩,
      hrow.job_eq.trans hthis⟩
  · rw [heq] at h
    cases h
    refine ⟨_, List.mem_append_right _ List.mem_cons_self, ?_⟩
    show some job.id = some jobId
    rw [howned.id_eq]

/-- Along a run of the system rows only evolve. -/
theorem evolves_of_later {state later : SystemState}
    (hstate : (systemMachine services).Reachable state)
    (hlater : ((systemMachine services).startingAt state).Reachable later) :
    Evolves state.db later.db := by
  induction hlater with
  | initial hstart =>
      cases hstart
      exact .refl _
  | @step other next label hother _ hstep ih =>
      have hinvariant := systemInvariant_of_reachable (hstate.later hother)
      have htaken : SystemTaken services other label next := systemTaken_of_step hstep
      exact ih.trans ((htaken.moves hinvariant).evolves hinvariant.lifecycle)

/-- With an approval of its job in the table, an attempt that still has the job
parks it. -/
theorem Lifecycle.recordAwaitingApprovalResult_ok {db : Db} (h : Lifecycle db) {attempt : Attempt}
    {job : AgentJob} {approval : Approval} (howns : attempt.Owns db job)
    (happroval : approval ∈ db.approvals) (hthis : approval.jobId = some attempt.jobId)
    (summary : Json) :
    ∃ staged, db.approvalOf? attempt.jobId attempt.tenantId = some staged ∧
      staged.status = .staged ∧
      JobRepository.recordAwaitingApprovalResult attempt.jobId summary attempt.tenantId
      attempt.count
        db =
          (.ok (), (db.setApproval (staged.withStatus .pending)).setJob
            (parkedRow summary job)) := by
  have hid : approval.jobId = some job.id := by rw [hthis, howns.id_eq]
  obtain ⟨htenant, hcoupled⟩ := h.coupled_of_job happroval howns.mem hid
  rw [howns.running] at hcoupled
  have hstaged : approval.status = .staged := hcoupled.staged_of_running
  have hfound : db.approvalOf? attempt.jobId attempt.tenantId = some approval := by
    cases hother : db.approvalOf? attempt.jobId attempt.tenantId with
    | none =>
        have hnone := List.find?_eq_none.1 hother approval happroval
        simp [hthis, htenant, howns.tenant_eq] at hnone
    | some other =>
        obtain ⟨hmem, hjob, -⟩ := approvalOf?_eq_some hother
        rw [h.one_approval other hmem approval happroval (hjob.trans hthis.symm)]
  refine ⟨approval, hfound, hstaged, ?_⟩
  have hrequire := JobRepository.Owned.requireRunning howns h.jobs_unique
    "job approval ownership changed before result persistence"
  simp only [JobRepository.recordAwaitingApprovalResult, Session.transaction, Session.bind_run,
    hrequire, Session.read, hfound, hstaged, if_true, Session.write]

/-- The reachable states of the system. -/
def ReachableState (services : Services) :=
  { state : SystemState // (systemMachine services).Reachable state }

/-- The port that `PostgresTenantToolPort` is for one attempt, seen through the
database its calls work on: a call of `request_approval` that returns has had its
transaction `create_for_running_job` committed, with any steps of the system
before and after it. -/
def RequestsForAttempt {σ : Type} (services : Services) (attempt : Attempt)
    (view : σ → ReachableState services) (port : TenantToolPort σ) : Prop :=
  ∀ (action : PendingAction) (reason : PolicyReason) (before after : σ)
    (approval : ApprovalRequested),
    port.requestApproval attempt.tenantId action reason before = (.ok approval, after) →
    ∃ asked granted newId expiresIn now,
      ((systemMachine services).startingAt (view before).1).Reachable asked ∧
      asked.locks (.job attempt.jobId) = none ∧
      createForRunningJob newId attempt.tenantId attempt.jobId attempt.count action reason.value
        expiresIn now asked.db = (.ok (approval.id, approval.expiresAt), granted) ∧
      ((systemMachine services).startingAt (asked.setDb granted)).Reachable (view after).1

/-- After a request for an attempt, the attempt can park its job as long as it
has it. -/
theorem parks_after_request {σ : Type} {attempt : Attempt} {view : σ → ReachableState services}
    {port : TenantToolPort σ} (hport : RequestsForAttempt services attempt view port)
    {action : PendingAction} {reason : PolicyReason} {before after : σ}
    {approval : ApprovalRequested}
    (hrequest : port.requestApproval attempt.tenantId action reason before = (.ok approval, after))
    {later : SystemState}
    (hlater : ((systemMachine services).startingAt (view after).1).Reachable later) {job : AgentJob}
    (howns : attempt.Owns later.db job) (summary : Json) :
    ∃ staged, later.db.approvalOf? attempt.jobId attempt.tenantId = some staged ∧
      staged.status = .staged ∧
      (JobRepository.recordAwaitingApprovalResult attempt.jobId summary attempt.tenantId
        attempt.count later.db).1 = .ok () := by
  obtain ⟨asked, granted, newId, expiresIn, now, hasked, hfree, hgranted, hafter⟩ :=
    hport action reason before after approval hrequest
  have hreached : (systemMachine services).Reachable asked := (view before).2.later hasked
  have hstep : (systemMachine services).step asked
      (.requestApproval attempt newId action reason.value expiresIn now) =
      some (asked.setDb granted) := by
    change systemStep services asked
      (.requestApproval attempt newId action reason.value expiresIn now) = some
      (asked.setDb granted)
    simp only [systemStep, free_eq_true, List.mem_singleton, forall_eq, hfree, if_true, hgranted]
  have hnext : (systemMachine services).Reachable (asked.setDb granted) := hreached.step hstep
  -- the approval is there after the request, and rows are not deleted
  obtain ⟨row, hrow, hthis⟩ :=
    createForRunningJob_staged (systemInvariant_of_reachable hreached).lifecycle hgranted
  obtain ⟨middle, hmiddle, hfirst⟩ := (evolves_of_later hnext hafter).approvals row hrow
  obtain ⟨found, hfound, hsecond⟩ :=
    (evolves_of_later (view after).2 hlater).approvals middle hmiddle
  have hlifecycle := (systemInvariant_of_reachable ((view after).2.later hlater)).lifecycle
  have hjobId : found.jobId = some attempt.jobId :=
    hsecond.job_eq.trans (hfirst.job_eq.trans hthis)
  obtain ⟨staged, hstaged, hstatus, hparked⟩ :=
    hlifecycle.recordAwaitingApprovalResult_ok howns hfound hjobId summary
  exact ⟨staged, hstaged, hstatus, by rw [hparked]⟩

end Database

/-! ## Parking follows the request -/

/-- For every completed run, over any port and with any answers of the model,
the worker parks the job exactly when `request_approval` was called in the run.
It was then called once, as the last invocation and in the last step, and
returned; and as long as the attempt has its job, the transaction that parks it
finds the staged approval, whatever the rest of the system has done meanwhile. -/
theorem parking_follows_request {σ π : Type} {llm : LLMClient π} {checks : ValueChecks}
    {port : TenantToolPort σ} {runtime : TrustedToolRuntimeContext} {cancelled : ℕ → ℕ → Bool}
    {steps : ℕ} {messages : List AgentMessage} {base final : World σ} {result : AgentRunResult}
    (hrun : AgentLoop.run llm (policyGatedToolExecutor checks port runtime cancelled) steps messages
      base = (.ok result, final)) (hstatus : result.status = .completed) :
    ∃ invoked, final.log = base.log ++ invoked ∧
      (approvalWasRequested result = true ↔ .port .requestApproval ∈ invoked) ∧
      (approvalWasRequested result = true →
        (∃ earlier, invoked = earlier ++ [.port .requestApproval] ∧
          .port .requestApproval ∉ earlier) ∧
        (∃ front last, result.executionPath = front ++ [last] ∧ last.step = result.steps ∧
          last.policyDecision = .needsApproval ∧ ∀ entry ∈ front, entry.policyDecision = .allow) ∧
        (∃ action reason before approval, port.requestApproval runtime.tenantId action reason
          before = (.ok approval, final.state)) ∧
        RunEnd.ofResult result = .approvalRequested (resultSummary result) ∧
        ∀ (services : Services) (attempt : Attempt) (view : σ → ReachableState services),
          attempt.tenantId = runtime.tenantId → RequestsForAttempt services attempt view port →
          ∀ later job, ((systemMachine services).startingAt (view final.state).1).Reachable later →
            attempt.Owns later.db job →
            ∃ staged, later.db.approvalOf? attempt.jobId attempt.tenantId = some staged ∧
              staged.status = .staged ∧
              (JobRepository.recordAwaitingApprovalResult attempt.jobId (resultSummary result)
                attempt.tenantId attempt.count later.db).1 = .ok ()) ∧
      (approvalWasRequested result = false →
        RunEnd.ofResult result = .completed (resultSummary result)) := by
  obtain ⟨front, last, proposal, transcript, -, hcompleted⟩ := completedRun_of_run hrun hstatus
  have hiff := approvalWasRequested_iff hcompleted
  have hpath : result.executionPath ≠ [] := by
    rw [hcompleted.path]
    simp
  rcases hcompleted.request with
    ⟨hrequests, -, earlier, hlog, hearlier, call, capability, arguments, reason,
    approval, before, -,
      -, -, hport⟩ | ⟨hnot, -, invoked, hlog, hnone⟩
  · refine ⟨earlier ++ [.port .requestApproval], ?_, ?_, fun hrequested =>
      ⟨⟨earlier, rfl, hearlier⟩,
      ⟨front, last, hcompleted.path, hcompleted.last_step, hrequests.1, ?_⟩,
      ⟨_, reason, before, approval, hport⟩, ofResult_of_requested hstatus hpath hrequested, ?_⟩, ?_⟩
    · rw [hlog, List.append_assoc]
    · exact ⟨fun _ => List.mem_append_right _ List.mem_cons_self, fun _ => hiff.2 hrequests⟩
    · exact fun entry hentry => (hcompleted.front_allowed entry hentry).1
    · intro services attempt view htenant hattempt later job hlater howns
      rw [← htenant] at hport
      exact parks_after_request hattempt hport hlater howns (resultSummary result)
    · intro hfalse
      exact ofResult_of_not_requested hstatus hpath hfalse
  · have hfalse : ¬ approvalWasRequested result = true := fun hrequested => hnot (hiff.1 hrequested)
    refine ⟨invoked, hlog, ?_, fun hrequested => absurd hrequested hfalse, ?_⟩
    · exact ⟨fun hrequested => absurd hrequested hfalse, fun hmem => absurd hmem hnone⟩
    · intro hrequested
      exact ofResult_of_not_requested hstatus hpath hrequested

/-! ### A run that asks for an approval -/

/-- A port that asks for the approval in one step of the system. -/
def requestingPort (services : Services) (attempt : Attempt) :
    TenantToolPort (ReachableState services) where
  findCustomer _ _ _ := Session.raise .other
  createCase _ _ _ _ := Session.raise .other
  updateCaseFields _ _ _ := Session.raise .other
  caseExists _ _ := Session.raise .other
  requestApproval _ action reason state :=
    match h : (systemMachine services).step state.1
        (.requestApproval attempt 3 action reason.value 100 5) with
    | none => (.error .other, state)
    | some next =>
      match (createForRunningJob 3 attempt.tenantId attempt.jobId attempt.count action reason.value
          100 5 state.1.db).1 with
      | .error _ => (.error .other, state)
      | .ok granted => (.ok ⟨granted.1, granted.2⟩, ⟨next, state.2.step h⟩)
  createReplyDraft _ _ _ _ _ := Session.raise .other
  flagForReview _ _ _ := Session.raise .other

theorem requestingPort_requests (services : Services) (attempt : Attempt) :
    RequestsForAttempt services attempt id (requestingPort services attempt) := by
  intro action reason before after approval hgrant
  simp only [requestingPort] at hgrant
  split at hgrant
  · cases hgrant
  · rename_i next hstep
    split at hgrant
    · cases hgrant
    · rename_i granted hgranted
      cases hgrant
      cases systemTaken_of_step hstep with
      | requestApproval hfree =>
          exact ⟨before.1, _, 3, 100, 5, .initial rfl, hfree, Prod.ext hgranted rfl, .initial rfl⟩

/-- The sender is at risk, so the reply needs an approval. -/
def riskyRuntime : TrustedToolRuntimeContext :=
  { replyRuntime with tenantId := 7, safetyOrLegalRisk := true, jobId := some 1 }

def askingToolCall : ProposalToolCall where
  name := "create_reply_draft"
  arguments := []
  name_nonempty := replyToolCall.name_nonempty
  arguments_nodup := List.nodup_nil

/-- A model that always proposes the draft. -/
def askingClient : LLMClient Unit := fun _ =>
  .ok { replyProposal with toolCalls := [askingToolCall], toolCalls_bounded := le_rfl }

/-- A job is enqueued and claimed. -/
def claimingSteps : List SystemStep := [.enqueue replyNewJob, .claim 0 0 60 []]

/-- The job of `replyNewJob` in its first attempt. -/
def claimedReply : ReachableState replyServices :=
  ⟨((systemMachine replyServices).run idleSystem claimingSteps).getD idleSystem,
    Machine.Reachable.run (.initial (idleSystem_initial replyServices)) claimingSteps rfl⟩

def askedRun : Except (RunError Unit ExecuteError) AgentRunResult ×
    World (ReachableState replyServices) :=
  AgentLoop.run askingClient (policyGatedToolExecutor noChecks
    (requestingPort replyServices ⟨1, 7, 1⟩) riskyRuntime fun _ _ => false) 8 [] ⟨claimedReply, []⟩

/-- The run asks for an approval, and the job of its attempt can be parked. -/
theorem parking_follows_request_asked :
    ∃ result job staged, askedRun.1 = .ok result ∧
      result.status = .completed ∧ askedRun.2.log = [.port .requestApproval] ∧
      approvalWasRequested result = true ∧ Attempt.Owns ⟨1, 7, 1⟩ askedRun.2.state.1.db job ∧
      askedRun.2.state.1.db.approvalOf? 1 7 = some staged ∧ staged.status = .staged := by
  have hok : ∃ result, askedRun.1 = .ok result ∧ result.status = .completed ∧
      approvalWasRequested result = true :=
    ⟨_, rfl, rfl, by rfl⟩
  obtain ⟨result, hresult, hstatus, hasked⟩ := hok
  have howns : ∃ job, Attempt.Owns ⟨1, 7, 1⟩ askedRun.2.state.1.db job :=
    ⟨_, List.mem_singleton.2 rfl, rfl, rfl, rfl, rfl⟩
  obtain ⟨job, hjob⟩ := howns
  obtain ⟨invoked, -, -, hrequested, -⟩ :=
    parking_follows_request (Prod.ext hresult rfl : askedRun = (.ok result, askedRun.2)) hstatus
  obtain ⟨-, -, -, -, hparks⟩ := hrequested hasked
  obtain ⟨staged, hstaged, hpending, -⟩ := hparks replyServices ⟨1, 7, 1⟩ id rfl
    (requestingPort_requests replyServices ⟨1, 7, 1⟩) _ job (.initial rfl) hjob
  exact ⟨result, job, staged, hresult, hstatus, rfl, hasked, hjob, hstaged, hpending⟩

end IntegraIntake
