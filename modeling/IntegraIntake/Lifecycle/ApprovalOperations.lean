import IntegraIntake.Approvals.Decision
import IntegraIntake.Lifecycle.JobOperations

/-!
# Approval operations as moves

Requesting, expiring and deciding an approval.  Each operation is first given by
the databases it can leave, and then read as a sequence of moves.  On the way,
`finalize_job_for_decision` never raises: a pending approval has a parked job.
-/

namespace IntegraIntake

open Library JobRepository ApprovalRepository

variable {db : Db}

/-! ## Requesting -/

theorem job?_eq_some {jobId tenantId : Uuid} {job : AgentJob}
    (h : db.job? jobId tenantId = some job) :
    job ∈ db.jobs ∧ job.id = jobId ∧ job.tenantId = tenantId :=
  ⟨List.mem_of_find?_eq_some h, by simpa using List.find?_some h⟩

theorem Lifecycle.job?_eq (h : Lifecycle db) {job : AgentJob} (hjob : job ∈ db.jobs) :
    db.job? job.id job.tenantId = some job := by
  refine h.jobs_unique.find?_eq hjob (by simp) fun other hother => ?_
  simp only [decide_eq_true_eq] at hother
  exact hother.1

/-- The staged row a request leaves: the existing one with a new command and
deadline, still staged. -/
structure Restaged (existing row : Approval) : Prop where
  id_eq : row.id = existing.id
  job_eq : row.jobId = existing.jobId
  tenant_eq : row.tenantId = existing.tenantId
  status_eq : row.status = existing.status
  executed_eq : row.executedAt = existing.executedAt
  pending_action : row.pendingAction.isSome
  config_sha256 : row.tenantConfigSha256.isSome
  expires_at : row.expiresAt.isSome

/-- A request that returns has staged the approval of its running job. -/
theorem createForRunningJob_cases (newId tenantId jobId : Uuid) (attemptCount : ℕ)
    (action : PendingAction) (policyReason : String) (expiresIn : ℤ) (now : Timestamp) (db : Db) :
    (∃ error, createForRunningJob newId tenantId jobId attemptCount action policyReason expiresIn
        now db = (.error error, db)) ∨
      ∃ job result events, Owned db jobId tenantId attemptCount job ∧
        ((∃ existing row, existing ∈ db.approvals ∧ existing.jobId = some jobId ∧
            existing.status = .staged ∧
            (existing.tenantConfigSha256.isSome → Restaged existing row) ∧
            createForRunningJob newId tenantId jobId attemptCount action policyReason expiresIn
              now db = (.ok result,
                { db.setApproval row with approvalEvents := db.approvalEvents ++ events })) ∨
          ((∀ approval ∈ db.approvals, approval.id ≠ newId ∧ approval.jobId ≠ some job.id) ∧
            createForRunningJob newId tenantId jobId attemptCount action policyReason expiresIn
              now db = (.ok result,
                { db.addApproval (stagedRow newId job tenantId action policyReason
                    (now + expiresIn)) with approvalEvents := db.approvalEvents ++ events }))) := by
  unfold createForRunningJob
  simp only [Session.transaction, Session.read_bind_run]
  cases hjob : db.job? jobId tenantId with
  | none => exact .inl ⟨_, rfl⟩
  | some job =>
      obtain ⟨hmem, hid, htenant⟩ := job?_eq_some hjob
      by_cases hrunning : job.status = .running ∧ job.attemptCount = attemptCount
      · have howned : Owned db jobId tenantId attemptCount job :=
          ⟨hmem, hid, htenant, hrunning.2, hrunning.1⟩
        simp only [hrunning, not_true_eq_false, if_false, and_self]
        cases happroval : db.approvalOf? jobId tenantId with
        | some existing =>
            obtain ⟨hexisting, hthis, -⟩ := approvalOf?_eq_some happroval
            simp only [refreshStaged]
            split_ifs with hpending hdeadline hstaged hdiffers
            · exact .inl ⟨_, rfl⟩
            · exact .inl ⟨_, rfl⟩
            · exact .inl ⟨_, rfl⟩
            · exact .inr ⟨job, _, [_], howned, .inl ⟨existing,
                replacedRow job existing action policyReason (now + expiresIn), hexisting, hthis,
                not_not.1 hstaged, fun _ => ⟨rfl, rfl, rfl, rfl, rfl, rfl, rfl, rfl⟩, rfl⟩⟩
            · refine .inr ⟨job, (existing.id, now + expiresIn), [], howned, .inl ⟨existing,
                refreshedRow existing (now + expiresIn), hexisting, hthis,
                not_not.1 hstaged, fun hsha256 => ⟨rfl, rfl, rfl, rfl, rfl, ?_, hsha256, rfl⟩, ?_⟩⟩
              · simpa [refreshedRow, Option.isSome_iff_ne_none] using hpending
              · simp [Db.setApproval]
        | none =>
            simp only [stageNew, Session.read_bind_run]
            split_ifs with hfresh
            · exact .inl ⟨_, rfl⟩
            · refine .inr ⟨job, _, [_], howned, .inr ⟨?_, rfl⟩⟩
              intro approval happroval
              simp only [List.any_eq_true, decide_eq_true_eq, not_exists, not_and, not_or] at hfresh
              exact hfresh approval happroval
      · simp only [hrunning, not_false_eq_true, if_true]
        exact .inl ⟨_, rfl⟩

theorem Restaged.approvalOk {existing row : Approval} (h : Restaged existing row)
    (hstaged : existing.status = .staged) (hok : ApprovalOk existing) : ApprovalOk row where
  pending_action := h.pending_action
  config_sha256 := h.config_sha256
  expires_at := h.expires_at
  executed := by rw [h.executed_eq, h.status_eq]; exact hok.executed
  in_time := by simp [h.status_eq, hstaged]
  too_late := by simp [h.status_eq, hstaged]

theorem stagedRow_ok (newId : Uuid) (job : AgentJob) (tenantId : Uuid) (action : PendingAction)
    (policyReason : String) (deadline : Timestamp) :
    ApprovalOk (stagedRow newId job tenantId action policyReason deadline) := by
  refine ⟨rfl, rfl, rfl, ?_, ?_, ?_⟩ <;> simp [stagedRow]

theorem Lifecycle.createForRunningJob (h : Lifecycle db) (newId tenantId jobId : Uuid)
    (attemptCount : ℕ) (action : PendingAction) (policyReason : String) (expiresIn : ℤ)
    (now : Timestamp) : Moves db (createForRunningJob newId tenantId jobId attemptCount action
      policyReason expiresIn now db).2 := by
  rcases createForRunningJob_cases newId tenantId jobId attemptCount action policyReason expiresIn
    now db with ⟨error, heq⟩ | ⟨job, result, events, howned, hcase⟩
  · rw [heq]
    exact .refl
  -- the job row itself stays as it is
  have hmove : JobMove job job := howned.jobMove rfl rfl rfl rfl
  have hjobs : db.jobs = Table.replace AgentJob.id job db.jobs :=
    (Table.replace_self h.jobs_unique howned.mem).symm
  rcases hcase with ⟨existing, row, hexisting, hthis, hstaged, hrestaged, heq⟩ | ⟨hfresh, heq⟩
  · rw [heq]
    have hok := h.approval_ok existing hexisting
    have hrow := hrestaged hok.config_sha256
    refine .single (.update howned.mem hmove (h.job_ok job howned.mem) hjobs
      (.set hexisting (by rw [hthis, howned.id_eq])
        ⟨.inl hstaged, hrow.id_eq, hrow.job_eq, hrow.tenant_eq⟩ (hrow.approvalOk hstaged hok) ?_))
    rw [hrow.status_eq, hstaged]
    exact .inr howned.running
  · rw [heq]
    exact .single (.update howned.mem hmove (h.job_ok job howned.mem) hjobs
      (.add (fun approval happroval => (hfresh approval happroval).1)
        (fun approval happroval => (hfresh approval happroval).2) rfl howned.tenant_eq.symm
        (stagedRow_ok newId job tenantId action policyReason (now + expiresIn))
        (.inr howned.running)))

/-! ## Finishing a parked job -/

theorem finalizeJob_of_awaiting {approval : Approval} {job : AgentJob}
    (hawaiting : job.status = .awaitingApproval) {status : JobStatus}
    {errorCode : Option WorkerErrorCode} {outcome : String}
    (houtcome : decisionOutcome approval.status = some (status, errorCode, outcome))
    (now : Timestamp) (db : Db) :
    finalizeJob approval job now db =
      (.ok (), db.setJob (decidedRow approval job now status errorCode outcome)) := by
  simp [finalizeJob, finalizeJobForDecision, houtcome, hawaiting]

/-- A pending approval with its parked job. -/
structure Parked (db : Db) (approval : Approval) (job : AgentJob) : Prop where
  mem : approval ∈ db.approvals
  pending : approval.status = .pending
  job_mem : job ∈ db.jobs
  job_eq : approval.jobId = some job.id
  awaiting : job.status = .awaitingApproval

/-- The job of a pending approval is parked. -/
theorem Lifecycle.parked_of_pending (h : Lifecycle db) {approval : Approval}
    (happroval : approval ∈ db.approvals) (hpending : approval.status = .pending) :
    ∃ job, Parked db approval job ∧ approval.tenantId = job.tenantId := by
  obtain ⟨job, hjob, hthis, htenant, hcoupled⟩ := h.coupled approval happroval
  rw [hpending] at hcoupled
  exact ⟨job, ⟨happroval, hpending, hjob, hthis, hcoupled⟩, htenant⟩

theorem Coupled.terminal_of_final {status : ApprovalStatus} {jobStatus : JobStatus}
    (h : Coupled status jobStatus) (hfinal : status.isFinal = true) :
    jobStatus.isTerminal = true := by
  cases status <;> simp_all [Coupled, ApprovalStatus.isFinal, JobStatus.isTerminal]

/-- A decision takes the parked job and its pending approval to their ends. -/
theorem moves_decided {approval : Approval} {job : AgentJob}
    {next : Db} (updated : Approval) (row : AgentJob) (happroval : approval ∈ db.approvals)
    (hpending : approval.status = .pending)
    (hjob : job ∈ db.jobs) (hthis : approval.jobId = some job.id)
    (hmove : JobMove job row) (hfinal : updated.status.isFinal = true)
    (hid : updated.id = approval.id)
    (hjobId : updated.jobId = approval.jobId) (htenant : updated.tenantId = approval.tenantId)
    (hok : ApprovalOk updated) (hcoupled : Coupled updated.status row.status)
    (hlease : row.leaseExpiresAt = none) (hfinished : row.finishedAt.isSome)
    (hjobs : next.jobs = Table.replace AgentJob.id row db.jobs)
    (happrovals : next.approvals = Table.replace Approval.id updated db.approvals) :
    Moves db next := by
  have hterminal := hcoupled.terminal_of_final hfinal
  have hrow : JobOk row := by
    refine ⟨?_, by simp [hfinished, hterminal]⟩
    simp only [hlease, Option.isSome_none, Bool.false_eq_true, false_iff]
    intro hrunning
    rw [hrunning] at hterminal
    cases hterminal
  exact .single (.update hjob hmove hrow hjobs (happrovals ▸
    .set happroval hthis ⟨.inr ⟨hpending, hfinal⟩, hid, hjobId, htenant⟩ hok hcoupled))

/-! ## Expiring -/

/-- The database after the expiry of an approval and the end of its job. -/
def expiredDb (now : Timestamp) (approval : Approval) (job : AgentJob) (db : Db) : Db :=
  ((db.setApproval (expiredRow now approval)).addApprovalEvent
    ⟨approval.tenantId, approval.id, .expired, some "system_timeout", .obj []⟩).setJob
    (decidedRow (expiredRow now approval) job now .failed (some .approvalExpired)
      "approval_expired")

/-- A pending approval has not been executed. -/
theorem ApprovalOk.not_executed {approval : Approval} (h : ApprovalOk approval)
    (hpending : approval.status = .pending) : approval.executedAt = none := by
  have hexecuted := h.executed
  rw [hpending] at hexecuted
  simpa using hexecuted

theorem ApprovalOk.expiredRow {approval : Approval} (h : ApprovalOk approval)
    (hpending : approval.status = .pending) {now : Timestamp}
    (hdue : ∃ deadline ∈ approval.expiresAt, deadline ≤ now) :
    ApprovalOk (expiredRow now approval) := by
  obtain ⟨deadline, hdeadline, hle⟩ := hdue
  refine ⟨h.pending_action, h.config_sha256, h.expires_at, ?_, ?_, ?_⟩
  · simp [ApprovalRepository.expiredRow, h.not_executed hpending]
  · simp [ApprovalRepository.expiredRow]
  · exact fun _ => ⟨now, rfl, deadline, hdeadline, hle⟩

theorem Lifecycle.moves_expiredDb (h : Lifecycle db) {approval : Approval} {job : AgentJob}
    (hparked : Parked db approval job) {now : Timestamp}
    (hdue : ∃ deadline ∈ approval.expiresAt, deadline ≤ now) :
    Moves db (expiredDb now approval job db) := by
  exact moves_decided (expiredRow now approval)
    (decidedRow (expiredRow now approval) job now .failed (some .approvalExpired)
      "approval_expired") hparked.mem hparked.pending hparked.job_mem hparked.job_eq
    ⟨by simp [hparked.awaiting, JobStatus.isTerminal], rfl, rfl, rfl, rfl⟩ rfl rfl rfl rfl
    ((h.approval_ok approval hparked.mem).expiredRow hparked.pending hdue) rfl rfl rfl rfl rfl

/-- Expiring one selected approval never raises. -/
theorem Lifecycle.expireOne_run (h : Lifecycle db) {approval : Approval}
    (happroval : approval ∈ db.approvals) (hpending : approval.status = .pending)
    (now : Timestamp) :
    ∃ job, Parked db approval job ∧
      expireOne now approval db = (.ok (), expiredDb now approval job db) := by
  obtain ⟨job, hparked, htenant⟩ := h.parked_of_pending happroval hpending
  have hfound : db.job? job.id approval.tenantId = some job := by
    rw [htenant]
    exact h.job?_eq hparked.job_mem
  refine ⟨job, hparked, ?_⟩
  simp only [expireOne, hparked.job_eq, Session.read_bind_run, hfound, expireLocked,
    hpending, ne_eq,
    not_true_eq_false, if_false]
  exact finalizeJob_of_awaiting hparked.awaiting rfl now _

/-- The databases that expiring the approvals of a list leaves, one by one. -/
inductive Expirations (now : Timestamp) : Db → List Approval → Db → Prop
  | nil (db : Db) : Expirations now db [] db
  | cons {db next : Db} {approval : Approval} {job : AgentJob} {rest : List Approval} :
      Parked db approval job → (∃ deadline ∈ approval.expiresAt, deadline ≤ now) →
      Expirations now (expiredDb now approval job db) rest next →
      Expirations now db (approval :: rest) next

theorem Expirations.moves {now : Timestamp} {selected : List Approval} {next : Db}
    (hexpired : Expirations now db selected next) (h : Lifecycle db) : Moves db next := by
  induction hexpired with
  | nil => exact .refl
  | cons hparked hdue _ ih =>
      have hmoves := h.moves_expiredDb hparked hdue
      exact hmoves.trans (ih (h.moves hmoves))

/-- The loop over the selected approvals: the ones still to come are untouched. -/
theorem Lifecycle.forM_expireOne (now : Timestamp) (selected : List Approval)
    (hunique : Table.Unique Approval.id selected) (db : Db) (h : Lifecycle db)
    (hselected : ∀ approval ∈ selected, approval ∈ db.approvals ∧ approval.status = .pending ∧
      ∃ deadline ∈ approval.expiresAt, deadline ≤ now) :
    ∃ next, selected.forM (expireOne now) db = (.ok (), next) ∧
      Expirations now db selected next := by
  induction selected generalizing db with
  | nil => exact ⟨db, rfl, .nil db⟩
  | cons approval rest ih =>
      obtain ⟨happroval, hpending, hdue⟩ := hselected approval List.mem_cons_self
      obtain ⟨job, hparked, hrun⟩ := h.expireOne_run happroval hpending now
      rw [Table.Unique, List.map_cons, List.nodup_cons] at hunique
      obtain ⟨next, hrest, hexpired⟩ := ih hunique.2 (expiredDb now approval job db)
        (h.moves (h.moves_expiredDb hparked hdue)) (by
          intro other hother
          obtain ⟨hmem, hpend, hdueother⟩ := hselected other (List.mem_cons_of_mem _ hother)
          refine ⟨Table.mem_replace_of_ne hmem ?_, hpend, hdueother⟩
          intro hsame
          exact hunique.1 (List.mem_map.2 ⟨other, hother, hsame⟩))
      refine ⟨next, ?_, .cons hparked hdue hexpired⟩
      change (expireOne now approval >>= fun _ => rest.forM (expireOne now)) db = _
      rw [Session.bind_run, hrun]
      exact hrest

theorem mem_selectDue {now : Timestamp} {limit : ℕ} {locked : Uuid → Bool} {approval : Approval}
    (h : approval ∈ selectDue now limit locked db) :
    approval ∈ db.approvals ∧ approval.status = .pending ∧ locked approval.id = false ∧
      ∃ deadline ∈ approval.expiresAt, deadline ≤ now := by
  have hmem := (List.mem_insertionSort _).1 (List.mem_of_mem_take h)
  obtain ⟨happroval, hdue⟩ := List.mem_filter.1 hmem
  simp only [expiryDue, decide_eq_true_eq] at hdue
  exact ⟨happroval, hdue.1, by simpa using hdue.2.1, hdue.2.2.2⟩

theorem selectDue_unique (hunique : Table.Unique Approval.id db.approvals) (now : Timestamp)
    (limit : ℕ) (locked : Uuid → Bool) :
    Table.Unique Approval.id (selectDue now limit locked db) := by
  refine List.Nodup.sublist (List.Sublist.map _ (List.take_sublist _ _)) ?_
  rw [((List.perm_insertionSort _ _).map Approval.id).nodup_iff]
  exact List.Nodup.sublist (List.Sublist.map _ List.filter_sublist) hunique

theorem Lifecycle.expireDue_expirations (h : Lifecycle db) (now : Timestamp) (limit : ℕ)
    (locked : Uuid → Bool) :
    ∃ next, expireDue now limit locked db = (.ok (), next) ∧
      Expirations now db (selectDue now limit locked db) next := by
  obtain ⟨next, hrun, hexpired⟩ := Lifecycle.forM_expireOne now (selectDue now limit locked db)
    (selectDue_unique h.approvals_unique now limit locked) db h fun approval happroval =>
      ⟨(mem_selectDue happroval).1, (mem_selectDue happroval).2.1, (mem_selectDue happroval).2.2.2⟩
  refine ⟨next, ?_, hexpired⟩
  simp only [expireDue, Session.transaction, Session.read_bind_run, hrun]

theorem Lifecycle.expireDue_run (h : Lifecycle db) (now : Timestamp) (limit : ℕ)
    (locked : Uuid → Bool) :
    ∃ next, expireDue now limit locked db = (.ok (), next) ∧ Moves db next := by
  obtain ⟨next, hrun, hexpired⟩ := h.expireDue_expirations now limit locked
  exact ⟨next, hrun, hexpired.moves h⟩

end IntegraIntake
