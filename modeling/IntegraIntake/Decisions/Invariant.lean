import IntegraIntake.Decisions.Machine

/-!
# Row locks protect the rows they are held on

Workers only write staged approvals, a decision writes the one row it holds and
a sweep the rows it selected.  So the version a call or a sweep has locked is
the version in the database until it commits.
-/

namespace IntegraIntake

open Library JobRepository ApprovalRepository ApprovalDecision

/-! ## Which approvals an operation leaves alone -/

/-- The approvals that are past staging and not among `touched` stay as they
are, and none of the others has been decided. -/
structure Untouched (touched : Uuid → Prop) (db next : Db) : Prop where
  kept : ∀ approval ∈ db.approvals, approval.status ≠ .staged → ¬ touched approval.id →
    approval ∈ next.approvals
  decided : ∀ approval ∈ next.approvals, approval.status.isFinal = true → ¬ touched approval.id →
    approval ∈ db.approvals

section Untouched

variable {db next : Db} {touched : Uuid → Prop}

theorem Untouched.of_eq (h : next.approvals = db.approvals) : Untouched touched db next := by
  constructor <;> intro approval happroval _ _
  · rwa [h]
  · rwa [← h]

theorem Untouched.trans {last : Db} (h : Untouched touched db next)
    (h' : Untouched touched next last) : Untouched touched db last where
  kept approval happroval hstaged hfree :=
    h'.kept approval (h.kept approval happroval hstaged hfree) hstaged hfree
  decided approval happroval hfinal hfree :=
    h.decided approval (h'.decided approval happroval hfinal hfree) hfinal hfree

theorem Untouched.mono {wider : Uuid → Prop} (h : Untouched touched db next)
    (hwider : ∀ id, touched id → wider id) : Untouched wider db next where
  kept approval happroval hstaged hfree :=
    h.kept approval happroval hstaged fun htouched => hfree (hwider _ htouched)
  decided approval happroval hfinal hfree :=
    h.decided approval happroval hfinal fun htouched => hfree (hwider _ htouched)

/-- Overwriting a staged row by one that is not decided. -/
theorem Untouched.of_staged (hunique : Table.Unique Approval.id db.approvals)
    {staged : Approval} (changed : Approval) (hmem : staged ∈ db.approvals)
    (hstaged : staged.status = .staged) (hid : changed.id = staged.id)
    (hopen : changed.status.isFinal = false)
    (happrovals : next.approvals = Table.replace Approval.id changed db.approvals) :
    Untouched touched db next := by
  constructor
  · intro approval happroval hpublished _
    rw [happrovals]
    refine Table.mem_replace_of_ne happroval fun hsame => hpublished ?_
    rw [hunique.eq happroval hmem (hsame.trans hid), hstaged]
  · intro approval happroval hfinal _
    rw [happrovals] at happroval
    rcases Table.mem_of_mem_replace happroval with rfl | ⟨hold, -⟩
    · rw [hopen] at hfinal
      cases hfinal
    · exact hold

/-- Overwriting a touched row. -/
theorem Untouched.of_touched {changed : Approval} (htouched : touched changed.id)
    (happrovals : next.approvals = Table.replace Approval.id changed db.approvals) :
    Untouched touched db next := by
  constructor
  · intro approval happroval _ hfree
    rw [happrovals]
    refine Table.mem_replace_of_ne happroval fun hsame => hfree ?_
    rwa [hsame]
  · intro approval happroval _ hfree
    rw [happrovals] at happroval
    rcases Table.mem_of_mem_replace happroval with rfl | ⟨hold, -⟩
    · exact absurd htouched hfree
    · exact hold

theorem cancelStagedApproval_untouched (hunique : Table.Unique Approval.id db.approvals)
    (jobId tenantId : Uuid) : Untouched touched db (cancelStagedApproval jobId tenantId db) := by
  rcases cancelStagedApproval_cases jobId tenantId db with
    ⟨hsame, -⟩ | ⟨approval, happroval, -, -, hstaged, hcancel⟩
  · rw [hsame]
    exact .of_eq rfl
  · rw [hcancel]
    exact .of_staged hunique (approval.withStatus .cancelled) happroval hstaged rfl rfl rfl

theorem cancelStagedApproval_unique (hunique : Table.Unique Approval.id db.approvals)
    (jobId tenantId : Uuid) :
    Table.Unique Approval.id (cancelStagedApproval jobId tenantId db).approvals := by
  rcases cancelStagedApproval_cases jobId tenantId db with
    ⟨hsame, -⟩ | ⟨approval, -, -, -, -, hcancel⟩
  · rwa [hsame]
  · rw [hcancel]
    exact hunique.replace

theorem recoverLease_untouched (hunique : Table.Unique Approval.id db.approvals) (now : Timestamp)
    (maxRetries : ℕ) (retryDelay : ℤ) (job : AgentJob) :
    Untouched touched db (recoverLease now maxRetries retryDelay db job) ∧
      Table.Unique Approval.id (recoverLease now maxRetries retryDelay db job).approvals := by
  have hcancel : Untouched touched db (cancelStagedApproval job.id job.tenantId db) :=
    cancelStagedApproval_untouched hunique job.id job.tenantId
  have hcancelUnique := cancelStagedApproval_unique hunique job.id job.tenantId
  unfold recoverLease
  split
  · exact ⟨hcancel.trans (.of_eq rfl), hcancelUnique⟩
  · split
    · exact ⟨.of_eq rfl, hunique⟩
    · exact ⟨hcancel.trans (.of_eq rfl), hcancelUnique⟩

theorem recoverExpiredLeases_untouched (hunique : Table.Unique Approval.id db.approvals)
    (now : Timestamp) (maxRetries : ℕ) (retryDelay : ℤ) (locked : Uuid → Bool) :
    Untouched touched db (recoverExpiredLeases now maxRetries retryDelay locked db) := by
  unfold recoverExpiredLeases
  generalize db.jobs.filter (leaseExpired now locked) = selected
  induction selected generalizing db with
  | nil => exact .of_eq rfl
  | cons job rest ih =>
      obtain ⟨hfirst, hnext⟩ := recoverLease_untouched hunique now maxRetries retryDelay job
      exact hfirst.trans (ih hnext)

/-- Workers write no approval that is past staging. -/
theorem Lifecycle.worker_untouched {services : Services} (h : Lifecycle db) (operation : Operation)
    (hworker : operation.isWorker = true) :
    Untouched touched db (operation.apply services db) := by
  have hunique := h.approvals_unique
  have hterminal : ∀ jobId status now tenantId attemptCount result errorCode,
      Untouched touched db
        (JobRepository.markTerminal jobId status now tenantId attemptCount result
          errorCode db).2 := by
    intro jobId status now tenantId attemptCount result errorCode
    rcases markTerminal_cases jobId status now tenantId attemptCount result errorCode db with
      ⟨error, heq⟩ | ⟨job, -, heq⟩
    · rw [heq]
      exact .of_eq rfl
    · rw [heq]
      exact (cancelStagedApproval_untouched hunique jobId tenantId).trans (.of_eq rfl)
  cases operation with
  | enqueue new =>
      rcases insertJob_cases new db with heq | ⟨-, heq⟩ <;> rw [Operation.apply, heq] <;>
        exact .of_eq rfl
  | claimNext now leaseUntil excluded locked =>
      rcases claimNext_cases now leaseUntil excluded locked db with heq | ⟨job, -, -, -, heq⟩ <;>
        rw [Operation.apply, heq] <;> exact .of_eq rfl
  | renewLease jobId tenantId attemptCount leaseUntil =>
      rcases renewLease_cases jobId tenantId attemptCount leaseUntil db with heq | ⟨job, -, heq⟩ <;>
        rw [Operation.apply, heq] <;> exact .of_eq rfl
  | createForRunningJob newId tenantId jobId attemptCount action policyReason expiresIn now =>
      rw [Operation.apply]
      rcases createForRunningJob_cases newId tenantId jobId attemptCount action policyReason
        expiresIn now db with ⟨error, heq⟩ | ⟨job, result, events, -,
          ⟨existing, row, hexisting, -, hstaged, hrestaged, heq⟩ | ⟨-, heq⟩⟩
      · rw [heq]
        exact .of_eq rfl
      · rw [heq]
        have hrow := hrestaged (h.approval_ok existing hexisting).config_sha256
        refine .of_staged hunique row hexisting hstaged hrow.id_eq ?_ rfl
        rw [hrow.status_eq, hstaged]
        rfl
      · rw [heq]
        constructor
        · intro approval happroval _ _
          exact List.mem_append_left _ happroval
        · intro approval happroval hfinal _
          rcases List.mem_append.1 happroval with hold | hnew
          · exact hold
          · rw [List.mem_singleton.1 hnew] at hfinal
            cases hfinal
  | recordAwaitingApprovalResult jobId result tenantId attemptCount =>
      rw [Operation.apply]
      rcases recordAwaitingApprovalResult_cases jobId result tenantId attemptCount db with
        ⟨error, heq⟩ | ⟨job, approval, -, happroval, -, -, hstaged, heq⟩
      · rw [heq]
        exact .of_eq rfl
      · rw [heq]
        exact .of_staged hunique (approval.withStatus .pending) happroval hstaged rfl rfl rfl
  | markSucceeded jobId result now tenantId attemptCount =>
      exact hterminal jobId .succeeded now tenantId attemptCount (some result) none
  | markFailed jobId errorCode now tenantId attemptCount =>
      exact hterminal jobId .failed now tenantId attemptCount none (some errorCode)
  | markFailedUncertain jobId errorCode now tenantId attemptCount =>
      exact hterminal jobId .failedUncertain now tenantId attemptCount none (some errorCode)
  | scheduleRetry jobId errorCode availableAt tenantId attemptCount =>
      rcases scheduleRetry_cases jobId errorCode availableAt tenantId attemptCount db with
        ⟨error, heq⟩ | ⟨job, -, heq⟩ <;> rw [Operation.apply, heq] <;> exact .of_eq rfl
  | recoverExpiredLeases now maxRetries retryDelay locked =>
      exact recoverExpiredLeases_untouched hunique now maxRetries retryDelay locked
  | decide => cases hworker
  | expireDue => cases hworker

end Untouched

/-! ## What a decision and a sweep write -/

/-- A decision leaves the approvals alone or decides the one it holds. -/
theorem Decided.approvals_eq {services : Services} {newId : Uuid} {approval : Approval}
    {operator : Operator} {request : DecisionRequest} {now : Timestamp} {db next : Db}
    {verdict : Verdict}
    (h : Decided services newId approval operator request now db verdict next) :
    (next = db ∧ approval.status.isFinal = true) ∨
      ∃ updated : Approval, updated.id = approval.id ∧ updated.status.isFinal = true ∧
        approval.status = .pending ∧
        next.approvals = Table.replace Approval.id updated db.approvals := by
  cases h with
  | reused hfinal => exact .inl ⟨rfl, hfinal⟩
  | expired hparked => exact .inr ⟨expiredRow now approval, rfl, rfl, hparked.pending, rfl⟩
  | rejected hparked =>
      exact .inr ⟨rejectedRow operator request now approval, rfl, rfl, hparked.pending, rfl⟩
  | @approved job value action executed working hparked _ _ hexecute =>
      obtain ⟨-, -, handled, -, -, -, happroval, -⟩ := execute_ok hexecute
      have htables := execute_tables hexecute
      simp only [lifecycleTables, Prod.mk.injEq] at htables
      refine .inr ⟨approvedRow operator request now executed, ?_, rfl, hparked.pending, ?_⟩
      · rw [approvedRow, happroval]
      · rw [← htables.2.1]
        rfl

theorem Lifecycle.conclude_untouched (services : Services) {db : Db} (h : Lifecycle db)
    (call : DecideCall) {approval : Approval} (happroval : approval ∈ db.approvals) :
    Untouched (· = approval.id) db (call.conclude services approval db).2 := by
  rcases h.decideHolding_cases happroval services call.newId call.operator call.request call.now
    with ⟨error, next, -, heq⟩ | ⟨verdict, next, -, hdecided, heq⟩
  · rw [DecideCall.conclude, heq]
    exact .of_eq rfl
  · rw [DecideCall.conclude, heq, report_state]
    rcases hdecided.approvals_eq with ⟨rfl, -⟩ | ⟨updated, hid, -, -, happrovals⟩
    · exact .of_eq rfl
    · exact .of_touched hid happrovals

theorem Expirations.untouched {now : Timestamp} {selected : List Approval} {db next : Db}
    (h : Expirations now db selected next) :
    Untouched (· ∈ selected.map Approval.id) db next := by
  induction h with
  | nil => exact .of_eq rfl
  | @cons db next approval job rest _ _ _ ih =>
      have hfirst : Untouched (· ∈ (approval :: rest).map Approval.id) db
          (expiredDb now approval job db) :=
        .of_touched (by simp [expiredRow]) (rfl : _ = Table.replace _ (expiredRow now approval) _)
      exact hfirst.trans (ih.mono fun id hid => List.mem_cons_of_mem _ hid)

/-- A sweep commits the expiry of its rows and nothing else. -/
theorem Lifecycle.concludeSweep_run (now : Timestamp) (selected : List Approval)
    (hunique : Table.Unique Approval.id selected) {db : Db} (h : Lifecycle db)
    (hselected : ∀ approval ∈ selected, approval ∈ db.approvals ∧ approval.status = .pending ∧
      ∃ deadline ∈ approval.expiresAt, deadline ≤ now) :
    Expirations now db selected (concludeSweep now selected db).2 := by
  obtain ⟨next, hrun, hexpired⟩ := Lifecycle.forM_expireOne now selected hunique db h hselected
  simpa only [concludeSweep, Session.transaction, hrun] using hexpired

/-! ## The invariant -/

/-- What a process holds is in the database, and the process has its lock. -/
structure DecisionInvariant (state : DecisionState) : Prop where
  lifecycle : Lifecycle state.db
  held : ∀ process call approval, state.processes process = .holding call approval →
    approval ∈ state.db.approvals ∧ approval.id = call.approvalId ∧
      approval.tenantId = call.operator.tenantId ∧ approval.status.isPublic = true ∧
      state.locks approval.id = some process
  selected_unique : ∀ process now selected, state.processes process = .sweeping now selected →
    Table.Unique Approval.id selected
  selected : ∀ process now selected, state.processes process = .sweeping now selected →
    ∀ approval ∈ selected, approval ∈ state.db.approvals ∧ approval.status = .pending ∧
      (∃ deadline ∈ approval.expiresAt, deadline ≤ now) ∧ state.locks approval.id = some process

theorem ApprovalStatus.ne_staged_of_isPublic {status : ApprovalStatus}
    (h : status.isPublic = true) : status ≠ .staged := by
  rintro rfl
  cases h

theorem ApprovalStatus.isFinal_iff (status : ApprovalStatus) : status.isFinal = true ↔
    status = .approved ∨ status = .rejected ∨ status = .expired := by
  cases status <;> simp [ApprovalStatus.isFinal]

namespace DecisionInvariant

variable {services : Services} {state : DecisionState} {process : ℕ} {value : DecisionProcess}
  {ids : List Uuid}

/-- A process takes free locks for the rows it is about to hold. -/
theorem acquired (h : DecisionInvariant state) (hfree : ∀ id ∈ ids, state.locks id = none)
    (hheld : ∀ call approval, value = .holding call approval →
      approval ∈ state.db.approvals ∧ approval.id = call.approvalId ∧
        approval.tenantId = call.operator.tenantId ∧ approval.status.isPublic = true ∧
        approval.id ∈ ids)
    (hselected : ∀ now selected, value = .sweeping now selected →
      Table.Unique Approval.id selected ∧ ∀ approval ∈ selected, approval ∈ state.db.approvals ∧
        approval.status = .pending ∧ (∃ deadline ∈ approval.expiresAt, deadline ≤ now) ∧
        approval.id ∈ ids) :
    DecisionInvariant ((state.setProcess process value).setLocks ids (some process)) := by
  have hlock : ∀ id other, state.locks id = some other →
      ((state.setProcess process value).setLocks ids (some process)).locks id = some other := by
    intro id other hother
    have hnot : id ∉ ids := by
      intro hid
      rw [hfree id hid] at hother
      cases hother
    simpa [DecisionState.setLocks, hnot] using hother
  have hmine : ∀ id ∈ ids,
      ((state.setProcess process value).setLocks ids (some process)).locks id = some process := by
    intro id hid
    simp [DecisionState.setLocks, hid]
  refine ⟨h.lifecycle, ?_, ?_, ?_⟩
  · intro other call approval hother
    by_cases hsame : other = process
    · subst hsame
      simp only [DecisionState.setLocks_processes, DecisionState.setProcess_self] at hother
      obtain ⟨hmem, hid, htenant, hpublic, hids⟩ := hheld call approval hother
      exact ⟨hmem, hid, htenant, hpublic, hmine _ hids⟩
    · rw [DecisionState.setLocks_processes, DecisionState.setProcess_of_ne _ _ hsame] at hother
      obtain ⟨hmem, hid, htenant, hpublic, hids⟩ := h.held other call approval hother
      exact ⟨hmem, hid, htenant, hpublic, hlock _ _ hids⟩
  · intro other now selected hother
    by_cases hsame : other = process
    · subst hsame
      simp only [DecisionState.setLocks_processes, DecisionState.setProcess_self] at hother
      exact (hselected now selected hother).1
    · rw [DecisionState.setLocks_processes, DecisionState.setProcess_of_ne _ _ hsame] at hother
      exact h.selected_unique other now selected hother
  · intro other now selected hother approval happroval
    by_cases hsame : other = process
    · subst hsame
      simp only [DecisionState.setLocks_processes, DecisionState.setProcess_self] at hother
      obtain ⟨hmem, hpending, hdue, hids⟩ := (hselected now selected hother).2 approval happroval
      exact ⟨hmem, hpending, hdue, hmine _ hids⟩
    · rw [DecisionState.setLocks_processes, DecisionState.setProcess_of_ne _ _ hsame] at hother
      obtain ⟨hmem, hpending, hdue, hids⟩ := h.selected other now selected hother approval happroval
      exact ⟨hmem, hpending, hdue, hlock _ _ hids⟩

/-- A process commits a change of the rows it holds and lets them go. -/
theorem released (h : DecisionInvariant state) {next : Db} (hmoves : Moves state.db next)
    (huntouched : Untouched (· ∈ ids) state.db next)
    (hown : ∀ id ∈ ids, state.locks id = some process)
    (hheld : ∀ call approval, value ≠ .holding call approval)
    (hselected : ∀ now selected, value ≠ .sweeping now selected) :
    DecisionInvariant (((state.setDb next).setProcess process value).setLocks ids none) := by
  -- the rows of the other processes are not among the released ones
  have hother : ∀ {other : ℕ} {approval : Approval}, other ≠ process →
      approval ∈ state.db.approvals → approval.status ≠ .staged →
      state.locks approval.id = some other → approval ∈ next.approvals ∧
        (((state.setDb next).setProcess process value).setLocks ids none).locks approval.id =
          some other := by
    intro other approval hne hmem hstaged hlock
    have hnot : approval.id ∉ ids := by
      intro hid
      rw [hown _ hid] at hlock
      exact hne (Option.some.inj hlock).symm
    exact ⟨huntouched.kept approval hmem hstaged hnot,
      by simpa [DecisionState.setLocks, hnot] using hlock⟩
  refine ⟨h.lifecycle.moves hmoves, ?_, ?_, ?_⟩
  · intro other call approval hprocess
    by_cases hsame : other = process
    · subst hsame
      simp only [DecisionState.setLocks_processes, DecisionState.setProcess_self] at hprocess
      exact absurd hprocess (hheld call approval)
    · rw [DecisionState.setLocks_processes, DecisionState.setProcess_of_ne _ _ hsame] at hprocess
      obtain ⟨hmem, hid, htenant, hpublic, hlock⟩ := h.held other call approval hprocess
      obtain ⟨hnext, hnextlock⟩ :=
        hother hsame hmem (ApprovalStatus.ne_staged_of_isPublic hpublic) hlock
      exact ⟨hnext, hid, htenant, hpublic, hnextlock⟩
  · intro other now selected hprocess
    by_cases hsame : other = process
    · subst hsame
      simp only [DecisionState.setLocks_processes, DecisionState.setProcess_self] at hprocess
      exact absurd hprocess (hselected now selected)
    · rw [DecisionState.setLocks_processes, DecisionState.setProcess_of_ne _ _ hsame] at hprocess
      exact h.selected_unique other now selected hprocess
  · intro other now selected hprocess approval happroval
    by_cases hsame : other = process
    · subst hsame
      simp only [DecisionState.setLocks_processes, DecisionState.setProcess_self] at hprocess
      exact absurd hprocess (hselected now selected)
    · rw [DecisionState.setLocks_processes, DecisionState.setProcess_of_ne _ _ hsame] at hprocess
      obtain ⟨hmem, hpending, hdue, hlock⟩ :=
        h.selected other now selected hprocess approval happroval
      obtain ⟨hnext, hnextlock⟩ := hother hsame hmem (by simp [hpending]) hlock
      exact ⟨hnext, hpending, hdue, hnextlock⟩

/-- A step that changes one process and nothing else. -/
theorem processed (h : DecisionInvariant state)
    (hheld : ∀ call approval, value ≠ .holding call approval)
    (hselected : ∀ now selected, value ≠ .sweeping now selected) :
    DecisionInvariant (state.setProcess process value) := by
  have hnil : state.setProcess process value =
      (state.setProcess process value).setLocks [] (some process) := by
    simp only [DecisionState.setLocks, List.not_mem_nil, if_false]
  rw [hnil]
  exact h.acquired (by simp) (fun call approval heq => absurd heq (hheld call approval))
    fun now selected heq => absurd heq (hselected now selected)

theorem worked (h : DecisionInvariant state) {operation : Operation}
    (hworker : operation.isWorker = true) :
    DecisionInvariant (state.setDb (operation.apply services state.db)) := by
  have huntouched : Untouched (fun _ => False) state.db (operation.apply services state.db) :=
    h.lifecycle.worker_untouched operation hworker
  refine ⟨h.lifecycle.moves (h.lifecycle.apply_moves operation), ?_, h.selected_unique, ?_⟩
  · intro other call approval hprocess
    obtain ⟨hmem, hid, htenant, hpublic, hlock⟩ := h.held other call approval hprocess
    exact ⟨huntouched.kept approval hmem (ApprovalStatus.ne_staged_of_isPublic hpublic) id,
      hid, htenant,
      hpublic, hlock⟩
  · intro other now selected hprocess approval happroval
    obtain ⟨hmem, hpending, hrest⟩ := h.selected other now selected hprocess approval happroval
    exact ⟨huntouched.kept approval hmem (by simp [hpending]) id, hpending, hrest⟩

end DecisionInvariant

theorem recheck_eq_some {call : DecideCall} {snapshot db : Db} {approval : Approval}
    (h : recheck call snapshot db = some approval) :
    approval ∈ db.approvals ∧ approval.id = call.approvalId ∧
      approval.tenantId = call.operator.tenantId ∧
      publishedLifecycle approval (joinedJob snapshot approval) = true :=
  ⟨List.mem_of_find?_eq_some h, by simpa using List.find?_some h⟩

theorem isPublic_of_publishedLifecycle {approval : Approval} {job : Option AgentJob}
    (h : publishedLifecycle approval job = true) : approval.status.isPublic = true := by
  cases hstatus : approval.status <;> simp_all [publishedLifecycle, ApprovalStatus.isPublic]

/-- A sweep that holds its rows expires them one by one. -/
theorem DecisionInvariant.expirations {state : DecisionState} (h : DecisionInvariant state)
    {process : ℕ} {now : Timestamp} {selected : List Approval}
    (hprocess : state.processes process = .sweeping now selected) :
    Expirations now state.db selected (concludeSweep now selected state.db).2 := by
  have hselected := h.selected process now selected hprocess
  exact Lifecycle.concludeSweep_run now selected
    (h.selected_unique process now selected hprocess) h.lifecycle fun approval happroval =>
      ⟨(hselected approval happroval).1, (hselected approval happroval).2.1,
        (hselected approval happroval).2.2.1⟩

/-- One step keeps the invariant, and changes the database by moves. -/
theorem DecisionInvariant.taken {services : Services} {state next : DecisionState}
    {label : DecisionStep} (h : DecisionInvariant state)
    (htaken : DecisionTaken services state label next) :
    DecisionInvariant next ∧ Moves state.db next.db := by
  cases htaken with
  | @worker operation hworker => exact ⟨h.worked hworker, h.lifecycle.apply_moves operation⟩
  | absent => exact ⟨h.processed (by simp) (by simp), .refl⟩
  | waits => exact ⟨h.processed (by simp) (by simp), .refl⟩
  | lost => exact ⟨h.processed (by simp) (by simp), .refl⟩
  | @holds process call snapshot approval _ hfree hfound =>
      obtain ⟨hmem, hid, htenant, hpublished⟩ := recheck_eq_some hfound
      refine ⟨h.acquired ?_ ?_ (by simp), .refl⟩
      · simpa [hid] using hfree
      · rintro call approval ⟨rfl, rfl⟩
        exact ⟨hmem, hid, htenant, isPublic_of_publishedLifecycle hpublished, by simp⟩
  | @concluded process call approval outcome next hprocess hrun =>
      obtain ⟨hmem, -, -, -, hlock⟩ := h.held process call approval hprocess
      have hnext : (call.conclude services approval state.db).2 = next := by rw [hrun]
      have hmoves : Moves state.db next :=
        hnext ▸ h.lifecycle.decideHolding_moves hmem services call.newId call.operator call.request
          call.now
      have huntouched : Untouched (· ∈ [approval.id]) state.db next := by
        simpa using hnext ▸ h.lifecycle.conclude_untouched services call hmem
      exact ⟨h.released hmoves huntouched (by simpa using hlock) (by simp) (by simp), hmoves⟩
  | @selects process now limit selected _ hselected =>
      refine ⟨h.acquired ?_ (by simp) ?_, .refl⟩
      · intro id hid
        obtain ⟨approval, happroval, rfl⟩ := List.mem_map.1 hid
        rw [← hselected] at happroval
        simpa using (mem_selectDue happroval).2.2.1
      · rintro now selected ⟨rfl, rfl⟩
        refine ⟨hselected ▸ selectDue_unique h.lifecycle.approvals_unique _ _ _, ?_⟩
        intro approval happroval
        have hids := List.mem_map_of_mem (f := Approval.id) happroval
        rw [← hselected] at happroval
        obtain ⟨hmem, hpending, -, hdue⟩ := mem_selectDue happroval
        exact ⟨hmem, hpending, hdue, hids⟩
  | @swept process now selected next hprocess hrun =>
      have hexpired := h.expirations hprocess
      rw [hrun] at hexpired
      refine ⟨h.released (hexpired.moves h.lifecycle) hexpired.untouched ?_ (by simp) (by simp),
        hexpired.moves h.lifecycle⟩
      intro id hid
      obtain ⟨approval, happroval, rfl⟩ := List.mem_map.1 hid
      exact (h.selected process now selected hprocess approval happroval).2.2.2

theorem decisionInvariant_of_initial {services : Services} {state : DecisionState}
    (h : (decisionMachine services).initial state) : DecisionInvariant state := by
  obtain ⟨hjobs, happrovals, -, hidle⟩ := h
  refine ⟨.of_empty hjobs happrovals, ?_, ?_, ?_⟩ <;> simp [hidle]

/-- The run: the invariant holds in every reachable state. -/
theorem decisionInvariant_of_reachable {services : Services} {state : DecisionState}
    (h : (decisionMachine services).Reachable state) : DecisionInvariant state :=
  h.invariant (fun _ hinit => decisionInvariant_of_initial hinit)
    fun _ _ _ _ hstate hstep => (hstate.taken (decisionTaken_of_step hstep)).1

end IntegraIntake
