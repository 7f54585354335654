import Mathlib.Data.Finset.Card
import Mathlib.Data.List.MinMax
import IntegraIntake.System.Attempts

/-!
# The order in which jobs are claimed

`claim_next` takes the first job of the queue by `available_at` and `id`, skipping rows that
are locked.  A job that could be claimed is passed over only for one in front of it.  Jobs
come into the queue by an insert, a worker's retry or lease recovery, and each of them makes
the job available at the time of its clock or later.  So once the clocks are past the time
at which a job has become available, nobody gets in front of it any more, and it is passed
over at most as often as there are jobs in front of it.
-/

namespace IntegraIntake

open Library JobRepository ApprovalRepository ApprovalDecision

/-! ## Coming into the queue -/

/-- Whoever comes into the queue becomes available after `time`. -/
def QueueStep (time : Timestamp) (db next : Db) : Prop :=
  ∀ row ∈ next.jobs, row.status = .queued → row ∈ db.jobs ∨ time < row.availableAt

section QueueStep

variable {time : Timestamp} {db middle next : Db} {job changed : AgentJob}

theorem QueueStep.of_eq (hjobs : next.jobs = db.jobs) : QueueStep time db next := by
  intro row hrow _
  exact .inl (hjobs ▸ hrow)

theorem QueueStep.trans (h : QueueStep time db middle) (h' : QueueStep time middle next) :
    QueueStep time db next := by
  intro row hrow hqueued
  rcases h' row hrow hqueued with hbetween | hlate
  · exact h row hbetween hqueued
  · exact .inr hlate

theorem QueueStep.of_replace (hchanged : changed.status = .queued → time < changed.availableAt)
    (hjobs : next.jobs = Table.replace AgentJob.id changed db.jobs) : QueueStep time db next := by
  intro row hrow hqueued
  rw [hjobs] at hrow
  rcases Table.mem_of_mem_replace hrow with rfl | ⟨hold, -⟩
  · exact .inr (hchanged hqueued)
  · exact .inl hold

/-- A change to a row that is not queued. -/
theorem QueueStep.of_not_queued (hchanged : changed.status ≠ .queued)
    (hjobs : next.jobs = Table.replace AgentJob.id changed db.jobs) : QueueStep time db next :=
  .of_replace (fun hqueued => absurd hqueued hchanged) hjobs

theorem QueueStep.of_map (f : AgentJob → AgentJob)
    (hf : ∀ job ∈ db.jobs, (f job).status = .queued → f job = job ∨ time < (f job).availableAt)
    (hjobs : next.jobs = db.jobs.map f) : QueueStep time db next := by
  intro row hrow hqueued
  rw [hjobs] at hrow
  obtain ⟨job, hjob, rfl⟩ := List.mem_map.1 hrow
  rcases hf job hjob hqueued with hsame | hlate
  · rw [hsame]
    exact .inl hjob
  · exact .inr hlate

/-! ### The operations -/

theorem insertJob_queue {new : NewJob} (hlate : time < new.availableAt) (db : Db) :
    QueueStep time db (insertJob new db).2 := by
  rcases insertJob_cases new db with heq | ⟨-, heq⟩
  · rw [heq]
    exact .of_eq rfl
  · rw [heq]
    intro row hrow _
    rcases List.mem_append.1 hrow with hold | hnew
    · exact .inl hold
    · rw [List.mem_singleton.1 hnew]
      exact .inr hlate

theorem markTerminal_queue (jobId : Uuid) (status : JobStatus)
    (hterminal : status.isTerminal = true) (now : Timestamp) (tenantId : Uuid) (attemptCount : ℕ)
    (result : Option Json) (errorCode : Option String) (db : Db) :
    QueueStep time db
      (JobRepository.markTerminal jobId status now tenantId attemptCount result
        errorCode db).2 := by
  rcases markTerminal_cases jobId status now tenantId attemptCount result errorCode db with
    ⟨error, heq⟩ | ⟨job, -, heq⟩
  · rw [heq]
    exact .of_eq rfl
  · rw [heq]
    have hchanged : (terminalRow status now result errorCode job).status ≠ .queued :=
      not_queued_of_terminal hterminal
    refine .of_not_queued hchanged ?_
    rw [setJob_jobs, cancelStagedApproval_jobs]

theorem FinalWrite.run_queue (write : FinalWrite) (claim : AgentJob) (now : Timestamp)
    {availableAt : Timestamp} (hlate : time < availableAt) (db : Db) :
    QueueStep time db (write.run claim now availableAt db).2 := by
  cases write with
  | retry errorCode =>
      rcases scheduleRetry_cases claim.id errorCode availableAt claim.tenantId claim.attemptCount db
        with ⟨error, heq⟩ | ⟨job, -, heq⟩
      · simp only [FinalWrite.run, heq]
        exact .of_eq rfl
      · simp only [FinalWrite.run, heq]
        have hchanged : (requeuedRow errorCode availableAt job).status = .queued →
            time < (requeuedRow errorCode availableAt job).availableAt := fun _ => hlate
        exact .of_replace hchanged rfl
  | fail errorCode => exact markTerminal_queue _ _ rfl _ _ _ _ _ _
  | uncertain errorCode => exact markTerminal_queue _ _ rfl _ _ _ _ _ _
  | succeed result => exact markTerminal_queue _ _ rfl _ _ _ _ _ _
  | park result =>
      rcases recordAwaitingApprovalResult_cases claim.id result claim.tenantId claim.attemptCount db
        with ⟨error, heq⟩ | ⟨job, approval, -, -, -, -, -, heq⟩
      · simp only [FinalWrite.run, heq]
        exact .of_eq rfl
      · simp only [FinalWrite.run, heq]
        have hchanged : (parkedRow result job).status ≠ .queued := by
          intro hqueued
          cases hqueued
        exact .of_not_queued hchanged rfl

theorem Lifecycle.recoverExpiredLeases_queue (h : Lifecycle db) {now : Timestamp}
    (maxRetries : ℕ) {retryDelay : ℤ} (hlate : time < now + retryDelay) (skipped : Uuid → Bool) :
    QueueStep time db
      (JobRepository.recoverExpiredLeases now maxRetries retryDelay skipped db) := by
  refine .of_map _ (fun job _ hqueued => ?_)
    (h.recoverExpiredLeases_jobs now maxRetries retryDelay skipped)
  split at hqueued
  · rename_i hselected
    rw [if_pos hselected]
    unfold recoveredRow at hqueued ⊢
    split_ifs at hqueued ⊢
    · cases hqueued
    · exact .inr hlate
    · cases hqueued
  · rename_i hselected
    exact .inl (if_neg hselected)

/-- A row that has ended is not queued. -/
theorem QueueStep.of_ended (f : AgentJob → AgentJob)
    (hended : ∀ job ∈ db.jobs, Ended job (f job)) (hjobs : next.jobs = db.jobs.map f) :
    QueueStep time db next := by
  refine .of_map f (fun job hjob hqueued => ?_) hjobs
  rcases hended job hjob with hsame | ⟨-, hterminal, -⟩
  · exact .inl hsame
  · exact absurd hqueued (not_queued_of_terminal hterminal)

theorem Decided.queue {services : Services} {newId : Uuid} {approval : Approval}
    {operator : Operator} {request : DecisionRequest} {now : Timestamp} {verdict : Verdict}
    (hdecided : Decided services newId approval operator request now db verdict next) :
    QueueStep time db next := by
  cases hdecided with
  | reused => exact .of_eq rfl
  | @expired job _ hparked =>
      have hchanged : (decidedRow (expiredRow now approval) job now .failed
          (some .approvalExpired) "approval_expired").status ≠ .queued := not_queued_of_terminal rfl
      exact .of_not_queued hchanged rfl
  | @rejected job _ hparked =>
      have hchanged : (decidedRow (rejectedRow operator request now approval) job now .succeeded
          none "approval_rejected").status ≠ .queued := not_queued_of_terminal rfl
      exact .of_not_queued hchanged rfl
  | @approved job _ action executed working hparked _ _ hexecute =>
      have htables := execute_tables hexecute
      simp only [lifecycleTables, Prod.mk.injEq] at htables
      have hchanged : (decidedRow (approvedRow operator request now executed) executed.job now
          .succeeded none "tool_result").status ≠ .queued := not_queued_of_terminal rfl
      refine .of_not_queued hchanged ?_
      rw [← htables.1]
      rfl

end QueueStep

/-! ## The steps of the system -/

/-- The clock of a step that brings a job into the queue is past `time`. -/
def SystemStep.QueuesAfter (time : Timestamp) : SystemStep → Prop
  | .enqueue new => time < new.availableAt
  | .write _ _ availableAt => time < availableAt
  | .recover now _ retryDelay => time < now + retryDelay
  | _ => True

section Steps

variable {services : Services} {state next start final : SystemState} {label : SystemStep}
  {time : Timestamp} {transitions : List (SystemState × SystemStep × SystemState)}

theorem SystemTaken.queue (h : SystemInvariant state)
    (htaken : SystemTaken services state label next) (hlate : label.QueuesAfter time) :
    QueueStep time state.db next.db := by
  cases htaken with
  | enqueue => exact insertJob_queue hlate _
  | @claim worker now leaseUntil excluded claim db hidle hclaim =>
      rcases claimNext_cases now leaseUntil excluded state.lockedJobs state.db with
        heq | ⟨job, -, -, -, heq⟩
      · rw [heq] at hclaim
        cases hclaim
      · rw [heq] at hclaim
        cases hclaim
        have hchanged : (claimedRow now leaseUntil job).status ≠ .queued := by
          intro hqueued
          cases hqueued
        exact .of_not_queued hchanged rfl
  | @renewLease attempt leaseUntil =>
      rcases renewLease_cases attempt.jobId attempt.tenantId attempt.count leaseUntil state.db with
        heq | ⟨job, howned, heq⟩
      · rw [SystemState.setDb, heq]
        exact .of_eq rfl
      · rw [SystemState.setDb, heq]
        have hchanged : { job with leaseExpiresAt := some leaseUntil }.status ≠ .queued :=
          howned.not_queued
        exact .of_not_queued hchanged rfl
  | @requestApproval attempt newId action policyReason expiresIn now =>
      rcases createForRunningJob_cases newId attempt.tenantId attempt.jobId attempt.count action
        policyReason expiresIn now state.db with ⟨error, heq⟩ | ⟨job, result, events, -,
          ⟨existing, row, -, -, -, -, heq⟩ | ⟨-, heq⟩⟩ <;>
        rw [SystemState.setDb, heq] <;> exact .of_eq rfl
  | @write worker now availableAt claim write => exact write.run_queue claim now hlate state.db
  | recover => exact h.lifecycle.recoverExpiredLeases_queue _ hlate _
  | @decide newId approvalId operator request now =>
      rw [SystemState.setDb, decide_eq]
      cases hfound : getForTenant approvalId operator.tenantId state.db with
      | none => exact .of_eq rfl
      | some approval =>
          rcases h.lifecycle.decideHolding_cases (getForTenant_eq_some hfound).1 services newId
            operator request now with ⟨error, middle, -, heq⟩ | ⟨verdict, middle, -, hdecided, heq⟩
          · dsimp only
            rw [heq]
            exact .of_eq rfl
          · dsimp only
            rw [heq, report_state]
            exact hdecided.queue
  | @expireDue now limit =>
      obtain ⟨middle, hrun, hexpired⟩ :=
        h.lifecycle.expireDue_expirations now limit fun _ => false
      obtain ⟨f, hjobs, hended⟩ := hexpired.ended h.lifecycle
      rw [SystemState.setDb, hrun]
      exact .of_ended f hended hjobs
  | @portCommit port now attempt writes job hport =>
      have howns := (h.fenced _ _ _ _ hport).1
      have hchanged : (markedRow now job).status ≠ .queued := howns.not_queued
      refine .of_not_queued hchanged ?_
      rw [← writes.apply_jobs state.db]
      rfl
  | runEnds | inspect | stop | portBegin | portOpen | portInsert | portRefused | portFence
  | portAbort => exact .of_eq rfl

/-- What is in the queue at a later step of a run was there at its start, or has come in. -/
theorem queue_of_path (h : (systemMachine services).Path start transitions final)
    (hstart : (systemMachine services).Reachable start)
    (hlate : ∀ t ∈ transitions, t.2.1.QueuesAfter time) :
    ∀ t ∈ transitions, QueueStep time start.db t.1.db := by
  induction h with
  | nil => simp
  | @cons state next final label rest hstep hrest ih =>
      intro t ht
      rcases List.mem_cons.1 ht with rfl | hlater
      · exact .of_eq rfl
      · have hfirst := SystemTaken.queue (systemInvariant_of_reachable hstart)
          (systemTaken_of_step hstep) (hlate _ List.mem_cons_self)
        refine hfirst.trans (ih (hstart.step hstep) (fun other hother => ?_) t hlater)
        exact hlate other (List.mem_cons_of_mem _ hother)

/-! ## Claims -/

/-- The jobs in front of another in the order of `claim_next`. -/
def inFront (db : Db) (waiting : AgentJob) : Finset Uuid :=
  ((db.jobs.filter fun job => job.status = .queued ∧ claimOrder job < claimOrder waiting).map
    AgentJob.id).toFinset

theorem mem_inFront {db : Db} {waiting : AgentJob} {jobId : Uuid} :
    jobId ∈ inFront db waiting ↔ ∃ job ∈ db.jobs, job.status = .queued ∧
      claimOrder job < claimOrder waiting ∧ job.id = jobId := by
  simp only [inFront, List.mem_toFinset, List.mem_map, List.mem_filter, decide_eq_true_eq]
  constructor
  · rintro ⟨job, ⟨hjob, hqueued, hlt⟩, hid⟩
    exact ⟨job, hjob, hqueued, hlt, hid⟩
  · rintro ⟨job, hjob, hqueued, hlt, hid⟩
    exact ⟨job, ⟨hjob, hqueued, hlt⟩, hid⟩

theorem availableAt_le_of_claimOrder {job waiting : AgentJob}
    (h : claimOrder job ≤ claimOrder waiting) : job.availableAt ≤ waiting.availableAt := by
  rcases Prod.Lex.le_iff.1 h with hlt | ⟨heq, -⟩
  · exact hlt.le
  · exact heq.le

theorem claimOrder_inj {job waiting : AgentJob} (h : claimOrder job = claimOrder waiting) :
    job.id = waiting.id :=
  congrArg (fun key : ℤ ×ₗ ℕ => (ofLex key).2) h

/-- The step is a claim that may take the job. -/
def SystemStep.MayTake (waiting : AgentJob) (state : SystemState) : SystemStep → Prop
  | .claim _ now _ excluded => waiting ∈ state.db.jobs ∧
      claimable now excluded state.lockedJobs waiting = true
  | _ => False

/-- A claim that may take a job takes it or one in front of it. -/
theorem SystemTaken.takes {waiting : AgentJob} (htaken : SystemTaken services state label next)
    (hmay : label.MayTake waiting state) : ∃ worker now leaseUntil excluded,
      label = .claim worker now leaseUntil excluded ∧ ∃ job ∈ state.db.jobs,
        job.status = .queued ∧ claimOrder job ≤ claimOrder waiting ∧
        next.db = state.db.setJob (claimedRow now leaseUntil job) ∧
        next.workers worker = .running (claimedRow now leaseUntil job) false := by
  cases htaken with
  | @claim worker now leaseUntil excluded claim db hidle hclaim =>
      refine ⟨worker, now, leaseUntil, excluded, rfl, ?_⟩
      obtain ⟨hwaiting, hclaimable⟩ := hmay
      have hmem : waiting ∈ state.db.jobs.filter (claimable now excluded state.lockedJobs) :=
        List.mem_filter.2 ⟨hwaiting, hclaimable⟩
      unfold claimNext at hclaim
      rw [Session.read_bind_run] at hclaim
      cases hfirst : (state.db.jobs.filter (claimable now excluded state.lockedJobs)).argmin
          claimOrder with
      | none =>
          rw [hfirst] at hclaim
          cases hclaim
      | some job =>
          rw [hfirst] at hclaim
          cases hclaim
          obtain ⟨hjob, htakes⟩ := List.mem_filter.1 (List.argmin_mem hfirst)
          simp only [claimable, decide_eq_true_eq] at htakes
          exact ⟨job, hjob, htakes.1, List.le_of_mem_argmin hmem hfirst, rfl,
            Function.update_self _ _ _⟩
  | _ => exact hmay.elim

/-- A claim that may take a job and leaves it in the queue. -/
def PassesOver (waiting : AgentJob) (t : SystemState × SystemStep × SystemState) : Prop :=
  t.2.1.MayTake waiting t.1 ∧ waiting ∈ t.2.2.db.jobs

theorem QueueStep.inFront_subset {waiting : AgentJob} {db after : Db}
    (h : QueueStep waiting.availableAt db after) : inFront after waiting ⊆ inFront db waiting := by
  intro jobId hmem
  obtain ⟨job, hjob, hqueued, hlt, hid⟩ := mem_inFront.1 hmem
  rcases h job hjob hqueued with hold | hlate
  · exact mem_inFront.2 ⟨job, hold, hqueued, hlt, hid⟩
  · exact absurd (availableAt_le_of_claimOrder hlt.le) (not_le.2 hlate)

/-- To pass a job over is to take one from in front of it. -/
theorem SystemTaken.inFront_ssubset (h : SystemInvariant state) {waiting : AgentJob}
    (htaken : SystemTaken services state label next)
    (hlate : label.QueuesAfter waiting.availableAt)
    (hpasses : PassesOver waiting (state, label, next)) :
    inFront next.db waiting ⊂ inFront state.db waiting := by
  obtain ⟨hmay, hstays⟩ : label.MayTake waiting state ∧ waiting ∈ next.db.jobs := hpasses
  obtain ⟨worker, now, leaseUntil, excluded, hlabel, job, hjob, hqueued, hle, hdb, -⟩ :=
    htaken.takes hmay
  subst hlabel
  have hsubset := (htaken.queue h hlate).inFront_subset
  rw [hdb] at hstays
  have hother : waiting.id ≠ job.id := by
    rcases Table.mem_of_mem_replace hstays with hsame | ⟨-, hne⟩
    · -- a row that has just been claimed is not queued
      have hrunning := (of_decide_eq_true hmay.2).1
      rw [hsame, claimedRow] at hrunning
      cases hrunning
    · exact hne
  have hlt : claimOrder job < claimOrder waiting :=
    hle.lt_of_ne fun heq => hother (claimOrder_inj heq).symm
  refine Finset.ssubset_iff_of_subset hsubset |>.2
    ⟨job.id, mem_inFront.2 ⟨job, hjob, hqueued, hlt, rfl⟩, fun hmem => ?_⟩
  obtain ⟨row, hrow, hrowQueued, -, hid⟩ := mem_inFront.1 hmem
  rw [hdb] at hrow
  rcases Table.mem_of_mem_replace hrow with rfl | ⟨-, hne⟩
  · rw [claimedRow] at hrowQueued
    cases hrowQueued
  · exact hne hid

open Classical in
/-- The queue is served in order.  While the clocks are past the time at which a job in the
queue has become available, each claim that may take it takes it or a job that was in front
of it at the start, and it is passed over at most as often as there were such jobs. -/
theorem claims_in_order (hstart : (systemMachine services).Reachable start)
    (h : (systemMachine services).Path start transitions final) {waiting : AgentJob}
    (hlate : ∀ t ∈ transitions, t.2.1.QueuesAfter waiting.availableAt) :
    (∀ t ∈ transitions, t.2.1.MayTake waiting t.1 → ∃ worker now leaseUntil excluded,
      t.2.1 = .claim worker now leaseUntil excluded ∧ ∃ job ∈ start.db.jobs,
        job.status = .queued ∧ claimOrder job ≤ claimOrder waiting ∧
        t.2.2.workers worker = .running (claimedRow now leaseUntil job) false) ∧
      transitions.countP (fun t => decide (PassesOver waiting t)) ≤
        (inFront start.db waiting).card := by
  constructor
  · intro t ht hmay
    have hstep := (h.transition hstart t ht).2
    obtain ⟨worker, now, leaseUntil, excluded, hlabel, job, hjob, hqueued, hle, -, hworker⟩ :=
      (systemTaken_of_step hstep).takes hmay
    refine ⟨worker, now, leaseUntil, excluded, hlabel, job, ?_, hqueued, hle, hworker⟩
    rcases queue_of_path h hstart hlate t ht job hjob hqueued with hold | hcame
    · exact hold
    · exact absurd (availableAt_le_of_claimOrder hle) (not_le.2 hcame)
  · have hfalls : ∀ t ∈ transitions,
        (inFront t.2.2.db waiting).card ≤ (inFront t.1.db waiting).card ∧
          (PassesOver waiting t →
            (inFront t.2.2.db waiting).card < (inFront t.1.db waiting).card) := by
      intro t ht
      obtain ⟨hreach, hstep⟩ := h.transition hstart t ht
      have hinv := systemInvariant_of_reachable hreach
      have htaken := systemTaken_of_step hstep
      refine ⟨Finset.card_le_card (htaken.queue hinv (hlate t ht)).inFront_subset, ?_⟩
      exact fun hpasses => Finset.card_lt_card (htaken.inFront_ssubset hinv (hlate t ht) hpasses)
    have hcount : transitions.countP (fun t => decide (PassesOver waiting t)) +
        (inFront final.db waiting).card ≤ (inFront start.db waiting).card :=
      h.countP_add_le_rank (fun state => (inFront state.db waiting).card) (PassesOver waiting)
        hfalls
    exact le_trans (Nat.le_add_right _ _) hcount

end Steps

/-- Two jobs that become available at the same time, in the order of their identifiers. -/
def queuedSteps : List SystemStep :=
  [.enqueue exampleNewJob, .enqueue { exampleNewJob with id := 2, traceId := 3, key := "l" }]

/-- The state with the two jobs in the queue, and the one in which the first is claimed. -/
def queuedState : SystemState :=
  ((systemMachine noServices).run idleSystem queuedSteps).getD idleSystem

def servedState : SystemState :=
  (systemStep noServices queuedState (.claim 0 5 60 [])).getD queuedState

open Classical in
/-- The second of two jobs is passed over once. -/
theorem claims_in_order_second : ∃ transitions final, ∃ waiting ∈ queuedState.db.jobs,
    (systemMachine noServices).Path queuedState transitions final ∧
      (∀ t ∈ transitions, PassesOver waiting t) ∧ transitions.length = 1 ∧
      (inFront queuedState.db waiting).card = 1 ∧
      transitions.countP (fun t => decide (PassesOver waiting t)) ≤
        (inFront queuedState.db waiting).card := by
  have hqueued : (systemMachine noServices).run idleSystem queuedSteps = some queuedState := rfl
  have hreach : (systemMachine noServices).Reachable queuedState :=
    Machine.Reachable.run (.initial (idleSystem_initial noServices)) queuedSteps hqueued
  have hstep : (systemMachine noServices).step queuedState (.claim 0 5 60 []) =
      some servedState := rfl
  have hpath : (systemMachine noServices).Path queuedState
      [(queuedState, .claim 0 5 60 [], servedState)] servedState := .cons hstep (.nil servedState)
  let waiting : AgentJob := { exampleNewJob with id := 2, traceId := 3, key := "l" }.row
  have hmem : waiting ∈ queuedState.db.jobs := List.mem_cons_of_mem _ (List.mem_singleton.2 rfl)
  have hstays : waiting ∈ servedState.db.jobs := List.mem_cons_of_mem _ (List.mem_singleton.2 rfl)
  have hpasses : PassesOver waiting (queuedState, .claim 0 5 60 [], servedState) :=
    ⟨⟨hmem, rfl⟩, hstays⟩
  refine ⟨_, servedState, waiting, hmem, hpath, List.forall_mem_singleton.2 hpasses, rfl, rfl, ?_⟩
  exact (claims_in_order hreach hpath (List.forall_mem_singleton.2 trivial)).2

end IntegraIntake
