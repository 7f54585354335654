import IntegraIntake.System.OnePerJob
import IntegraIntake.System.Parking
import IntegraIntake.Workers.Vocabulary

/-!
# Results without the source

What the model writes (tool names, field names, rationale, values, excerpts) and
what the sender wrote flow through the proposal, the evidence, the summary and
the rewrite by a decision.  Nothing of it reaches `agent_jobs.result`: in every
state of the system the stored results are made of the words of
`Workers/Vocabulary`.  What a decision adds are the ids of the approval and of
the case, and an open approval has no case yet.
-/

namespace IntegraIntake

open Library JobRepository ApprovalRepository ApprovalDecision

/-- The approval can still be decided. -/
def Approval.IsOpen (approval : Approval) : Prop :=
  approval.status = .staged ∨ approval.status = .pending

/-- Nothing has been executed for the approval. -/
def Approval.Unexecuted (approval : Approval) : Prop :=
  approval.caseId = none ∧ approval.executionResult = some (.obj [])

/-- The ids that the server has made for approvals and cases. -/
def ServerId (db : Db) (id : Uuid) : Prop :=
  (∃ approval ∈ db.approvals, approval.id = id) ∨ ∃ case ∈ db.cases, case.id = id

/-- The field names of the profile stored with a job. -/
def profileFields (services : Services) (job : AgentJob) : List String :=
  match services.resolvePersistedProfile job.tenantConfigSnapshot job.tenantConfigSha256 with
  | some (config, _) => dictKeys config.fields
  | none => []

/-- Two rows of one job have the same stored profile. -/
def SameProfile (job row : AgentJob) : Prop :=
  row.tenantConfigSnapshot = job.tenantConfigSnapshot ∧
    row.tenantConfigSha256 = job.tenantConfigSha256

theorem SameProfile.fields_eq {job row : AgentJob} (h : SameProfile job row) (services : Services) :
    profileFields services row = profileFields services job := by
  rw [profileFields, profileFields, h.1, h.2]

/-! ## Operations that decide nothing -/

/-- The results after an operation are those before it, and what it writes; the
open approvals are those before it, and new ones. -/
structure KeepsResults (written : AgentJob → Json → Prop) (db next : Db) : Prop where
  rows : ∀ row ∈ next.jobs, ∀ result, row.result = some result →
    (∃ job ∈ db.jobs, SameProfile job row ∧ job.result = some result) ∨ written row result
  approvals : ∀ row ∈ next.approvals, row.IsOpen → row.Unexecuted ∨
    ∃ approval ∈ db.approvals, approval.IsOpen ∧ row.caseId = approval.caseId ∧
      row.executionResult = approval.executionResult

section Keeps

variable {written : AgentJob → Json → Prop} {db next : Db} {job changed : AgentJob}

theorem KeepsResults.refl (db : Db) : KeepsResults written db db where
  rows row hrow _ hresult := .inl ⟨row, hrow, ⟨rfl, rfl⟩, hresult⟩
  approvals row hrow hopen := .inr ⟨row, hrow, hopen, rfl, rfl⟩

theorem KeepsResults.trans {middle : Db} (h : KeepsResults (fun _ _ => False) db middle)
    (h' : KeepsResults written middle next) : KeepsResults written db next where
  rows := by
    intro row hrow result hresult
    rcases h'.rows row hrow result hresult with ⟨between, hbetween, hsecond, hsame⟩ | hwrite
    · rcases h.rows between hbetween result hsame with ⟨job, hjob, hfirst, hfound⟩ | hfalse
      · exact .inl ⟨job, hjob, ⟨hsecond.1.trans hfirst.1, hsecond.2.trans hfirst.2⟩, hfound⟩
      · exact hfalse.elim
    · exact .inr hwrite
  approvals := by
    intro row hrow hopen
    rcases h'.approvals row hrow hopen with hnew | ⟨between, hbetween, hopen', hcase, hresult⟩
    · exact .inl hnew
    · rcases h.approvals between hbetween hopen' with
        hnew | ⟨approval, hold, hopen'', hcase', hresult'⟩
      · exact .inl ⟨hcase.trans hnew.1, hresult.trans hnew.2⟩
      · exact .inr ⟨approval, hold, hopen'', hcase.trans hcase', hresult.trans hresult'⟩

/-- One job row changes. -/
theorem KeepsResults.setJob (hjob : job ∈ db.jobs) (hsame : SameProfile job changed)
    (hresult : ∀ result, changed.result = some result →
      job.result = some result ∨ written changed result) :
    KeepsResults written db (db.setJob changed) where
  rows := by
    intro row hrow result hsome
    rcases Table.mem_of_mem_replace hrow with rfl | ⟨hold, -⟩
    · rcases hresult result hsome with hbefore | hwrite
      · exact .inl ⟨job, hjob, hsame, hbefore⟩
      · exact .inr hwrite
    · exact .inl ⟨row, hold, ⟨rfl, rfl⟩, hsome⟩
  approvals row hrow hopen := .inr ⟨row, hrow, hopen, rfl, rfl⟩

/-- One approval changes, keeping what was executed for it, or it is closed. -/
theorem KeepsResults.setApproval {approval : Approval} (row : Approval)
    (happroval : approval ∈ db.approvals)
    (hkeeps : row.IsOpen → approval.IsOpen ∧ row.caseId = approval.caseId ∧
      row.executionResult = approval.executionResult)
    (hjobs : next.jobs = db.jobs)
    (happrovals : next.approvals = Table.replace Approval.id row db.approvals) :
    KeepsResults written db next where
  rows other hother _ hsome := .inl ⟨other, hjobs ▸ hother, ⟨rfl, rfl⟩, hsome⟩
  approvals := by
    intro other hother hopen
    rw [happrovals] at hother
    rcases Table.mem_of_mem_replace hother with rfl | ⟨hold, -⟩
    · exact .inr ⟨approval, happroval, hkeeps hopen⟩
    · exact .inr ⟨other, hold, hopen, rfl, rfl⟩

theorem insertJob_keepsResults (new : NewJob) (db : Db) :
    KeepsResults written db (insertJob new db).2 := by
  rcases insertJob_cases new db with heq | ⟨-, heq⟩
  · rw [heq]
    exact .refl db
  · rw [heq]
    constructor
    · intro row hrow result hresult
      rcases List.mem_append.1 hrow with hold | hnew
      · exact .inl ⟨row, hold, ⟨rfl, rfl⟩, hresult⟩
      · rw [List.mem_singleton.1 hnew] at hresult
        cases hresult
    · exact fun row hrow hopen => .inr ⟨row, hrow, hopen, rfl, rfl⟩

theorem claimNext_keepsResults (now leaseUntil : Timestamp) (excluded : List Uuid)
    (skipped : Uuid → Bool) (db : Db) :
    KeepsResults written db (JobRepository.claimNext now leaseUntil excluded skipped db).2 := by
  rcases claimNext_cases now leaseUntil excluded skipped db with heq | ⟨job, hjob, -, -, heq⟩
  · rw [heq]
    exact .refl db
  · rw [heq]
    exact .setJob hjob ⟨rfl, rfl⟩ fun _ hsome => .inl hsome

theorem renewLease_keepsResults (jobId tenantId : Uuid) (attemptCount : ℕ) (leaseUntil : Timestamp)
    (db : Db) :
    KeepsResults written db
      (JobRepository.renewLease jobId tenantId attemptCount leaseUntil db).2 := by
  rcases renewLease_cases jobId tenantId attemptCount leaseUntil db with heq | ⟨job, howned, heq⟩
  · rw [heq]
    exact .refl db
  · rw [heq]
    exact .setJob howned.mem ⟨rfl, rfl⟩ fun _ hsome => .inl hsome

theorem cancelStagedApproval_keepsResults (jobId tenantId : Uuid) (db : Db) :
    KeepsResults written db (cancelStagedApproval jobId tenantId db) := by
  unfold cancelStagedApproval
  split
  · exact .refl db
  · rename_i approval hfound
    have hclosed : ¬ (approval.withStatus .cancelled).IsOpen := by
      rintro (hstaged | hpending)
      · cases hstaged
      · cases hpending
    exact .setApproval _ (List.mem_of_find?_eq_some hfound) (fun hopen => absurd hopen hclosed) rfl
      rfl

theorem createForRunningJob_keepsResults (newId tenantId jobId : Uuid) (attemptCount : ℕ)
    (action : PendingAction) (policyReason : String) (expiresIn : ℤ) (now : Timestamp) (db : Db) :
    KeepsResults written db (createForRunningJob newId tenantId jobId attemptCount action
      policyReason expiresIn now db).2 := by
  unfold createForRunningJob
  simp only [Session.transaction, Session.read_bind_run]
  cases db.job? jobId tenantId with
  | none => exact .refl db
  | some job =>
      dsimp only
      split_ifs with hrunning
      · cases hexisting : db.approvalOf? jobId tenantId with
        | some existing =>
            have hmem := (approvalOf?_eq_some hexisting).1
            simp only [refreshStaged]
            split_ifs with hpending hdeadline hstaged hdiffers
            · exact .refl db
            · exact .refl db
            · exact .refl db
            · exact .setApproval
                (replacedRow job existing action policyReason (now + expiresIn)) hmem
                (fun _ => ⟨.inl (not_not.1 hstaged), rfl, rfl⟩) rfl rfl
            · exact .setApproval (refreshedRow existing (now + expiresIn)) hmem
                (fun _ => ⟨.inl (not_not.1 hstaged), rfl, rfl⟩) rfl rfl
        | none =>
            simp only [stageNew, Session.read_bind_run]
            split_ifs with hfresh
            · exact .refl db
            · constructor
              · exact fun row hrow _ hsome => .inl ⟨row, hrow, ⟨rfl, rfl⟩, hsome⟩
              · intro row hrow hopen
                rcases List.mem_append.1 hrow with hold | hnew
                · exact .inr ⟨row, hold, hopen, rfl, rfl⟩
                · rw [List.mem_singleton.1 hnew]
                  exact .inl ⟨rfl, rfl⟩
      · exact .refl db

/-- The result that a final write stores. -/
def FinalWrite.result? : FinalWrite → Option Json
  | .succeed result => some result
  | .park result => some result
  | _ => none

theorem markTerminal_keepsResults (jobId : Uuid) (status : JobStatus) (now : Timestamp)
    (tenantId : Uuid) (attemptCount : ℕ) (result : Option Json)
    (errorCode : Option String) (db : Db) :
    KeepsResults (fun row stored => result = some stored ∧
        ∃ job ∈ db.jobs, job.id = jobId ∧ SameProfile job row) db
      (JobRepository.markTerminal jobId status now tenantId attemptCount result
        errorCode db).2 := by
  rcases markTerminal_cases jobId status now tenantId attemptCount result errorCode db with
    ⟨error, heq⟩ | ⟨job, howned, heq⟩
  · rw [heq]
    exact .refl db
  · rw [heq]
    have hjob : job ∈ (cancelStagedApproval jobId tenantId db).jobs := by
      rw [cancelStagedApproval_jobs]
      exact howned.mem
    refine (cancelStagedApproval_keepsResults jobId tenantId db).trans
      (.setJob hjob ⟨rfl, rfl⟩ fun stored hstored =>
        .inr ⟨hstored, job, howned.mem, howned.id_eq, ?_⟩)
    exact ⟨rfl, rfl⟩

theorem FinalWrite.run_keepsResults (write : FinalWrite) (claim : AgentJob)
    (now availableAt : Timestamp) (db : Db) :
    KeepsResults (fun row stored => write.result? = some stored ∧
        ∃ job ∈ db.jobs, job.id = claim.id ∧ SameProfile job row) db
      (write.run claim now availableAt db).2 := by
  cases write with
  | retry errorCode =>
      rcases scheduleRetry_cases claim.id errorCode availableAt claim.tenantId claim.attemptCount db
        with ⟨error, heq⟩ | ⟨job, howned, heq⟩
      · simp only [FinalWrite.run, heq]
        exact .refl db
      · simp only [FinalWrite.run, heq]
        exact .setJob howned.mem ⟨rfl, rfl⟩ fun _ hsome => .inl hsome
  | fail errorCode => exact markTerminal_keepsResults claim.id .failed now _ _ none _ db
  | uncertain errorCode =>
    exact markTerminal_keepsResults claim.id .failedUncertain now _ _ none _ db
  | succeed result => exact markTerminal_keepsResults claim.id .succeeded now _ _ (some result) _ db
  | park result =>
      rcases recordAwaitingApprovalResult_cases claim.id result claim.tenantId claim.attemptCount db
        with ⟨error, heq⟩ | ⟨job, approval, howned, happroval, -, -, hstaged, heq⟩
      · simp only [FinalWrite.run, heq]
        exact .refl db
      · simp only [FinalWrite.run, heq]
        have hpublished : KeepsResults (fun _ _ => False) db
            (db.setApproval (approval.withStatus .pending)) :=
          .setApproval (approval.withStatus .pending) happroval
            (fun _ => ⟨.inl hstaged, rfl, rfl⟩) rfl rfl
        refine hpublished.trans (.setJob howned.mem ⟨rfl, rfl⟩ fun stored hstored =>
          .inr ⟨hstored, job, howned.mem, howned.id_eq, ⟨rfl, rfl⟩⟩)

theorem recoverLease_keepsResults (hjob : job ∈ db.jobs) (now : Timestamp) (maxRetries : ℕ)
    (retryDelay : ℤ) :
    KeepsResults (fun _ _ => False) db
      (JobRepository.recoverLease now maxRetries retryDelay db job) := by
  have hcancelled : job ∈ (cancelStagedApproval job.id job.tenantId db).jobs := by
    rw [cancelStagedApproval_jobs]
    exact hjob
  have hlost : ∀ status errorCode, KeepsResults (fun _ _ => False) db
      ((cancelStagedApproval job.id job.tenantId db).setJob (lostRow status errorCode now job)) :=
    fun status errorCode => (cancelStagedApproval_keepsResults job.id job.tenantId db).trans
      (.setJob hcancelled ⟨rfl, rfl⟩ fun _ hsome => .inl hsome)
  unfold JobRepository.recoverLease
  split_ifs
  · exact hlost _ _
  · exact .setJob hjob ⟨rfl, rfl⟩ fun _ hsome => .inl hsome
  · exact hlost _ _

theorem foldl_recoverLease_keepsResults (now : Timestamp) (maxRetries : ℕ) (retryDelay : ℤ)
    (selected : List AgentJob) (hunique : Table.Unique AgentJob.id selected) (db : Db)
    (hselected : ∀ job ∈ selected, job ∈ db.jobs) :
    KeepsResults (fun _ _ => False) db
      (selected.foldl (JobRepository.recoverLease now maxRetries retryDelay) db) := by
  induction selected generalizing db with
  | nil => exact .refl db
  | cons job rest ih =>
      have hjob := hselected job List.mem_cons_self
      rw [Table.Unique, List.map_cons, List.nodup_cons] at hunique
      refine (recoverLease_keepsResults hjob now maxRetries retryDelay).trans (ih hunique.2 _ ?_)
      intro other hother
      rw [recoverLease_jobs]
      refine Table.mem_replace_of_ne (hselected other (List.mem_cons_of_mem _ hother)) ?_
      intro hsame
      exact hunique.1 (List.mem_map.2 ⟨other, hother, hsame.trans (recoveredRow_id ..)⟩)

theorem Lifecycle.recoverExpiredLeases_keepsResults (h : Lifecycle db) (now : Timestamp)
    (maxRetries : ℕ) (retryDelay : ℤ) (skipped : Uuid → Bool) :
    KeepsResults (fun _ _ => False) db
      (JobRepository.recoverExpiredLeases now maxRetries retryDelay skipped db) := by
  refine foldl_recoverLease_keepsResults now maxRetries retryDelay _ ?_ db ?_
  · exact List.Nodup.sublist (List.Sublist.map _ List.filter_sublist) h.jobs_unique
  · exact fun job hjob => (List.mem_filter.1 hjob).1

end Keeps

/-! ## Decisions -/

/-- The invariant of the database. -/
structure DbWorded (services : Services) (db : Db) : Prop where
  results : ∀ job ∈ db.jobs, ∀ result, job.result = some result →
    Worded (profileFields services job) (ServerId db) result
  unexecuted : ∀ approval ∈ db.approvals, approval.IsOpen → approval.Unexecuted

section Decisions

variable {services : Services} {db next : Db} {approval : Approval} {job : AgentJob}

theorem DbWorded.of_keeps {written : AgentJob → Json → Prop} (h : DbWorded services db)
    (hkeeps : KeepsResults written db next) (hids : ∀ id, ServerId db id → ServerId next id)
    (hwritten : ∀ row ∈ next.jobs, ∀ result, written row result →
      Worded (profileFields services row) (ServerId next) result) : DbWorded services next where
  results := by
    intro row hrow result hresult
    rcases hkeeps.rows row hrow result hresult with ⟨job, hjob, hsame, hfound⟩ | hwrite
    · rw [hsame.fields_eq]
      exact (h.results job hjob result hfound).mono hids
    · exact hwritten row hrow result hwrite
  unexecuted := by
    intro row hrow hopen
    rcases hkeeps.approvals row hrow hopen with hnew | ⟨approval, hold, hopen', hcase, hresult⟩
    · exact hnew
    · have hunexecuted := h.unexecuted approval hold hopen'
      exact ⟨hcase.trans hunexecuted.1, hresult.trans hunexecuted.2⟩

theorem decidedCase_eq {row : Approval} {members : List (String × Json)} (hcase : row.caseId = none)
    (hresult : row.executionResult = some (.obj members))
    (hmembers : members.lookup "case_id" = none) : decidedCase row = none := by
  simp [decidedCase, hcase, hresult, Json.get?, hmembers]

/-- The decision of one parked job, with the row that it writes. -/
theorem DbWorded.decided {changed : AgentJob} {now : Timestamp} {status : JobStatus}
    {errorCode : Option WorkerErrorCode} {outcome : String} (h : DbWorded services db)
    (row : Approval) (hparked : Parked db approval job)
    (hrow : row.id = approval.id) (hclosed : ¬ row.IsOpen)
    (hsame : SameProfile job changed) (hresult : changed.result = job.result)
    (houtcome : outcome ∈ businessOutcomes)
    (hjobs : next.jobs = Table.replace AgentJob.id (decidedRow row changed now status errorCode
      outcome) db.jobs)
    (happrovals : next.approvals = Table.replace Approval.id row db.approvals)
    (hcases : ∀ case ∈ db.cases, ∃ kept ∈ next.cases, kept.id = case.id)
    (hcase : ∀ caseId, decidedCase row = some caseId → ∃ case ∈ next.cases, case.id = caseId) :
    DbWorded services next := by
  have hmem : row ∈ next.approvals :=
    happrovals ▸ Table.mem_replace_self ⟨approval, hparked.mem, hrow.symm⟩
  have hids : ∀ id, ServerId db id → ServerId next id := by
    rintro id (⟨old, hold, rfl⟩ | ⟨case, hold, rfl⟩)
    · by_cases hid : old.id = row.id
      · exact .inl ⟨row, hmem, hid.symm⟩
      · exact .inl ⟨old, happrovals ▸ Table.mem_replace_of_ne hold hid, rfl⟩
    · exact .inr (hcases case hold)
  constructor
  · intro found hfound result hsome
    rw [hjobs] at hfound
    rcases Table.mem_of_mem_replace hfound with rfl | ⟨hold, -⟩
    · -- the decided row: the words of its old result, and the two ids
      cases hsome
      have hprofile : SameProfile job (decidedRow row changed now status errorCode outcome) := hsame
      rw [hprofile.fields_eq]
      refine decisionResult_worded (fun old hold => ?_) houtcome (.inl ⟨row, hmem, rfl⟩)
        fun caseId hdecided => .inr (hcase caseId hdecided)
      rw [hresult] at hold
      exact (h.results job hparked.job_mem old hold).mono hids
    · exact (h.results found hold result hsome).mono hids
  · intro other hother hopen
    rw [happrovals] at hother
    rcases Table.mem_of_mem_replace hother with rfl | ⟨hold, -⟩
    · exact absurd hopen hclosed
    · exact h.unexecuted other hold hopen

theorem not_open_of_final {row : Approval} (h : row.status.isFinal = true) : ¬ row.IsOpen := by
  rintro (hstaged | hpending)
  · rw [hstaged] at h
    cases h
  · rw [hpending] at h
    cases h

/-- An approval that ends without an execution has no case. -/
theorem DbWorded.no_case (h : DbWorded services db) (hparked : Parked db approval job)
    {row : Approval} (hcase : row.caseId = approval.caseId)
    (hresult : row.executionResult = approval.executionResult) : decidedCase row = none := by
  have hunexecuted := h.unexecuted approval hparked.mem (.inr hparked.pending)
  exact decidedCase_eq (hcase.trans hunexecuted.1) (hresult.trans hunexecuted.2) rfl

theorem DbWorded.expiredDb (h : DbWorded services db) (hparked : Parked db approval job)
    (now : Timestamp) : DbWorded services (expiredDb now approval job db) := by
  have hnone : decidedCase (expiredRow now approval) = none := h.no_case hparked rfl rfl
  refine h.decided (expiredRow now approval) hparked rfl (not_open_of_final rfl) ⟨rfl, rfl⟩ rfl
    (by decide) rfl rfl (fun case hcase => ⟨case, hcase, rfl⟩) ?_
  intro caseId hsome
  rw [hnone] at hsome
  cases hsome

theorem DbWorded.expirations {now : Timestamp} {selected : List Approval} (h : DbWorded services db)
    (hexpired : Expirations now db selected next) : DbWorded services next := by
  induction hexpired with
  | nil => exact h
  | cons hparked _ _ ih => exact ih (h.expiredDb hparked _)

theorem createForJob_tables {newId tenantId jobId : Uuid} {kind : ArtifactKind} {payload : Json}
    {outcome : Except AppError ResultReference} {working : Db}
    (h : createForJob newId tenantId jobId kind payload db = (outcome, working)) :
    working.cases = db.cases := by
  rcases createForJob_cases newId tenantId jobId kind payload db with ⟨other, heq⟩ | ⟨-, heq⟩
  · rw [heq] at h
    cases h
    rfl
  · rw [heq] at h
    cases h
    rfl

/-- The case that a handler leaves on the approval is in the table, and a handler
that leaves none reports none. -/
structure CaseReported (handled : ApprovalExecutor.Handled) (working : Db) : Prop where
  present : ∀ caseId, handled.caseId = some caseId → ∃ case ∈ working.cases, case.id = caseId
  silent : handled.caseId = none → handled.result.lookup "case_id" = none

theorem CaseReported.of_none {handled : ApprovalExecutor.Handled} {working : Db}
    (hnone : handled.caseId = none) (hsilent : handled.result.lookup "case_id" = none) :
    CaseReported handled working := by
  refine ⟨fun caseId hsome => ?_, fun _ => hsilent⟩
  rw [hnone] at hsome
  cases hsome

theorem CaseReported.of_mem {handled : ApprovalExecutor.Handled} {working : Db} {case : IntakeCase}
    (hcase : case ∈ working.cases) (hsome : handled.caseId = some case.id) :
    CaseReported handled working := by
  refine ⟨fun caseId hother => ⟨case, hcase, ?_⟩, fun hnone => ?_⟩
  · rw [hsome] at hother
    exact Option.some.inj hother
  · rw [hsome] at hnone
    cases hnone

theorem namedCase_ok {caseId : Option Uuid} {named : Option Uuid} {working : Db}
    (hopen : approval.caseId = none)
    (h : ApprovalExecutor.namedCase approval caseId db = (.ok named, working)) :
    working = db ∧ (named = none ∨ ∃ case ∈ db.cases, named = some case.id) := by
  cases caseId with
  | none =>
      cases h
      exact ⟨rfl, .inl hopen⟩
  | some caseId =>
      simp only [ApprovalExecutor.namedCase, Session.read_bind_run] at h
      cases hcase : db.case? caseId approval.tenantId with
      | none =>
          rw [hcase] at h
          cases h
      | some case =>
          rw [hcase] at h
          cases h
          exact ⟨rfl, .inr ⟨case, (case?_eq_some hcase).1, rfl⟩⟩

theorem createCase_case {newId : Uuid} {action : PendingAction} {values : CreateCaseArgs}
    {handled : ApprovalExecutor.Handled} {working : Db}
    (h : ApprovalExecutor.createCase services newId approval job action values db =
      (.ok handled, working)) : CaseReported handled working := by
  unfold ApprovalExecutor.createCase at h
  rw [Session.read_bind_run] at h
  cases hrecord : db.idempotencyOf? job.id approval.tenantId with
  | none =>
      rw [hrecord] at h
      cases h
  | some record =>
      rw [hrecord] at h
      dsimp only at h
      cases hlinked : record.caseId with
      | some caseId =>
          rw [hlinked] at h
          dsimp only at h
          cases hcase : db.case? caseId approval.tenantId with
          | none =>
              rw [hcase] at h
              cases h
          | some existing =>
              rw [hcase] at h
              cases h
              exact .of_mem (case?_eq_some hcase).1 rfl
      | none =>
          rw [hlinked] at h
          simp only [ApprovalExecutor.createNewCase, Session.read_bind_run] at h
          split at h
          · cases h
          · obtain ⟨source, middle, -, hrest⟩ := Session.bind_eq_ok h
            split at hrest
            · cases hrest
            · cases hrest
              exact .of_mem (List.mem_append_right _ List.mem_cons_self) rfl

/-- The case that an execution reports is there. -/
theorem handle_case {newId : Uuid} {action : PendingAction} {arguments : ToolArgs}
    {handled : ApprovalExecutor.Handled} {working : Db} (hopen : approval.caseId = none)
    (h : ApprovalExecutor.handle services newId approval job action arguments db =
      (.ok handled, working)) : CaseReported handled working := by
  cases arguments with
  | findCustomer values =>
      cases h
      exact .of_none hopen rfl
  | createCase values => exact createCase_case h
  | updateCaseFields values =>
      simp only [ApprovalExecutor.handle, ApprovalExecutor.updateCaseFields,
        Session.read_bind_run] at h
      cases hcase : db.case? values.caseId approval.tenantId with
      | none =>
          rw [hcase] at h
          cases h
      | some case =>
          rw [hcase] at h
          cases h
          have hmem : mergedCase action.knownFields case ∈
              Table.replace IntakeCase.id (mergedCase action.knownFields case) db.cases :=
            Table.mem_replace_self ⟨case, (case?_eq_some hcase).1, rfl⟩
          exact .of_mem hmem rfl
  | createReplyDraft values =>
      obtain ⟨caseId, first, hnamed, h⟩ := Session.bind_eq_ok h
      obtain ⟨source, second, hsource, h⟩ := Session.bind_eq_ok h
      obtain ⟨reference, third, hcreate, hdone⟩ := Session.bind_eq_ok h
      cases hdone
      obtain ⟨rfl, hcase⟩ := namedCase_ok hopen hnamed
      have hsecond : second = first := by rw [← sourceFromJob_state services job first, hsource]
      have hcases := createForJob_tables hcreate
      rw [hsecond] at hcases
      rcases hcase with rfl | ⟨case, hmem, rfl⟩
      · exact .of_none rfl rfl
      · exact .of_mem (hcases ▸ hmem) rfl
  | flagForReview values =>
      obtain ⟨reference, third, hcreate, hdone⟩ := Session.bind_eq_ok h
      cases hdone
      exact .of_none hopen rfl

/-- The case tables keep their ids in an execution. -/
theorem handle_cases_kept {newId : Uuid} {action : PendingAction} {arguments : ToolArgs}
    {handled : ApprovalExecutor.Handled} {working : Db}
    (h : ApprovalExecutor.handle services newId approval job action arguments db =
      (.ok handled, working)) :
    ∀ case ∈ db.cases, ∃ kept ∈ working.cases, kept.id = case.id := by
  intro case hcase
  rcases handle_writes h with rfl | ⟨writes, hwrites, rfl⟩
  · exact ⟨case, hcase, rfl⟩
  · generalize arguments.key = key at hwrites
    cases hwrites with
    | newCase => exact ⟨case, List.mem_append_left _ hcase, rfl⟩
    | newArtifact => exact ⟨case, hcase, rfl⟩
    | @caseFields changed fields hold =>
        by_cases hid : case.id = changed.id
        · exact ⟨mergedCase fields changed, Table.mem_replace_self ⟨changed, hold, rfl⟩, hid.symm⟩
        · exact ⟨case, Table.mem_replace_of_ne hcase hid, rfl⟩

theorem DbWorded.decide (h : DbWorded services db) {newId : Uuid} {operator : Operator}
    {request : DecisionRequest} {now : Timestamp} {verdict : Verdict}
    (hdecided : Decided services newId approval operator request now db verdict next) :
    DbWorded services next := by
  cases hdecided with
  | reused => exact h
  | expired hparked => exact h.expiredDb hparked now
  | @rejected job _ hparked =>
      have hnone : decidedCase (rejectedRow operator request now approval) = none :=
        h.no_case hparked rfl rfl
      refine h.decided (rejectedRow operator request now approval) hparked rfl
        (not_open_of_final rfl) ⟨rfl, rfl⟩ rfl (by decide) rfl rfl
        (fun case hcase => ⟨case, hcase, rfl⟩) ?_
      intro caseId hsome
      rw [hnone] at hsome
      cases hsome
  | @approved job _ action executed working hparked _ _ hexecute =>
      have htables := execute_tables hexecute
      simp only [lifecycleTables, Prod.mk.injEq] at htables
      obtain ⟨capability, arguments, handled, -, -, hhandle, happroval, hjob, hresult, -⟩ :=
        execute_ok hexecute
      have hopen := (h.unexecuted approval hparked.mem (.inr hparked.pending)).1
      have hreported := handle_case hopen hhandle
      have hjobs : (approvedDb operator request now approval executed working).jobs =
          Table.replace AgentJob.id (decidedRow (approvedRow operator request now executed)
            executed.job now .succeeded none "tool_result") db.jobs := by
        rw [← htables.1]
        rfl
      have happrovals : (approvedDb operator request now approval executed working).approvals =
          Table.replace Approval.id (approvedRow operator request now executed) db.approvals := by
        rw [← htables.2.1]
        rfl
      have hkept := handle_cases_kept hhandle
      have hcases : ∀ case ∈ db.cases, ∃ kept ∈
          (approvedDb operator request now approval executed working).cases, kept.id = case.id :=
        hkept
      have hid : (approvedRow operator request now executed).id = approval.id := by
        rw [approvedRow, happroval]
      refine h.decided (approvedRow operator request now executed) hparked hid
        (not_open_of_final rfl)
        ⟨by rw [hjob], by rw [hjob]⟩ (by rw [hjob]) (by decide) hjobs happrovals
        hcases ?_
      intro caseId hsome
      cases hcase : handled.caseId with
      | some reported =>
          have hdecidedCase : decidedCase (approvedRow operator request now executed) =
              some reported := by
            simp [decidedCase, approvedRow, happroval, hcase]
          rw [hdecidedCase] at hsome
          cases hsome
          exact hreported.present _ hcase
      | none =>
          have hnone : decidedCase (approvedRow operator request now executed) = none :=
            decidedCase_eq (by rw [approvedRow, happroval]; exact hcase)
              (by rw [approvedRow, hresult]) (hreported.silent hcase)
          rw [hnone] at hsome
          cases hsome

end Decisions

/-! ## The system -/

/-- The summary that a run ends with. -/
def RunEnd.summary? : RunEnd → Option Json
  | .completed summary => some summary
  | .approvalRequested summary => some summary
  | .preflightCompleted summary => some summary
  | _ => none

/-- How the run of a claimed job can end under the profile stored with it: with the
result of a run of the agent, with a preflight result, or without a summary. -/
inductive RunEnd.Produced (services : Services) (claim : AgentJob) : RunEnd → Prop
  | run {σ π : Type} {config : TenantConfig} {compiled : Option CompiledTenantProfile}
      {llm : LLMClient π} {checks : ValueChecks} {port : TenantToolPort σ}
      {runtime : TrustedToolRuntimeContext} {cancelled : ℕ → ℕ → Bool} {steps : ℕ}
      {messages : List AgentMessage} {base final : World σ} {result : AgentRunResult} :
      services.resolvePersistedProfile claim.tenantConfigSnapshot claim.tenantConfigSha256 =
        some (config, compiled) →
      runtime.tenantConfig = config → runtime.compiledProfile = compiled →
      AgentLoop.run llm (policyGatedToolExecutor checks port runtime cancelled) steps
      messages base =
        (.ok result, final) → RunEnd.Produced services claim (.ofResult result)
  | preflight {config : TenantConfig} {compiled : Option CompiledTenantProfile}
      {source : TrustedSource} {result : TerminalPreflightResult} :
      services.resolvePersistedProfile claim.tenantConfigSnapshot claim.tenantConfigSha256 =
        some (config, compiled) →
      preflightDocument source config compiled = .terminal result →
      RunEnd.Produced services claim (.ofPreflight result)
  | silent {ending : RunEnd} : ending.summary? = none → RunEnd.Produced services claim ending

/-- A step of the system in which runs end as the worker lets them end. -/
def ProducedEnds (services : Services) (state : SystemState) (label : SystemStep) : Prop :=
  ∀ worker ending claim called, label = .runEnds worker ending →
    state.workers worker = .running claim called → ending.Produced services claim

/-- A summary that is going to be written is made of words. -/
def WritesWorded (services : Services) (state : SystemState) : Prop :=
  ∀ worker claim write summary, state.workers worker = .writing claim write →
    write.result? = some summary → Worded (profileFields services claim) (fun _ => False) summary

/-- The claims of the workers have the profiles of their jobs. -/
def ClaimsStored (state : SystemState) : Prop :=
  ∀ worker claim, (state.workers worker).claim? = some claim →
    ∃ job ∈ state.db.jobs, job.id = claim.id ∧ SameProfile job claim

section System

variable {services : Services} {state next : SystemState} {label : SystemStep}

theorem profileFields_eq {claim : AgentJob} {config : TenantConfig}
    {compiled : Option CompiledTenantProfile}
    (h : services.resolvePersistedProfile claim.tenantConfigSnapshot claim.tenantConfigSha256 =
      some (config, compiled)) : profileFields services claim = dictKeys config.fields := by
  rw [profileFields, h]

/-- The summaries of runs and preflights are made of words. -/
theorem RunEnd.Produced.worded {claim : AgentJob} {ending : RunEnd} {summary : Json}
    (h : ending.Produced services claim) (hsummary : ending.summary? = some summary) :
    Worded (profileFields services claim) (fun _ => False) summary := by
  cases h with
  | @run σ π config compiled llm checks port runtime cancelled steps messages base final result
      hprofile hconfig _ hrun =>
      rw [profileFields_eq hprofile]
      cases hstatus : result.status with
      | failed =>
          simp only [RunEnd.ofResult, hstatus] at hsummary
          cases hsummary
      | completed =>
          obtain ⟨front, last, proposal, transcript, -, hcompleted⟩ :=
            completedRun_of_run hrun hstatus
          have hworded : Worded (dictKeys config.fields) (fun _ => False)
            (resultSummary result) := by
            refine resultSummary_worded fun entry hentry => ?_
            have hknown := hcompleted.known entry hentry
            exact ⟨hknown.action, fun name hname => hconfig ▸ hknown.missing_known name hname⟩
          simp only [RunEnd.ofResult, hstatus] at hsummary
          split_ifs at hsummary <;> cases hsummary <;> exact hworded
  | @preflight config compiled source result hprofile hpreflight =>
      rw [profileFields_eq hprofile]
      unfold RunEnd.ofPreflight at hsummary
      split_ifs at hsummary <;> cases hsummary
      exact preflightSummary_worded (preflightDocument_missing_known hpreflight)
  | silent hnone =>
      rw [hnone] at hsummary
      cases hsummary

theorem WritesWorded.step (h : WritesWorded services state)
    (htaken : SystemTaken services state label next)
    (hproduced : ProducedEnds services state label) :
    WritesWorded services next := by
  intro worker claim write summary hwriting hsummary
  by_cases hworker : label.worker? = some worker
  · cases htaken with
    | @inspect _ given ending claimed hstage =>
        cases hworker
        simp only [SystemState.setWorker, Function.update_self, inspectedStage] at hwriting
        split at hwriting
        · cases hwriting
        · obtain ⟨-, rfl⟩ := WorkerStage.writing.inj hwriting
          cases ending <;> cases hsummary
        · obtain ⟨-, rfl⟩ := WorkerStage.writing.inj hwriting
          cases ending with
          | retryable errorCode =>
              simp only [RunEnd.cleanWrite] at hsummary
              split_ifs at hsummary <;> cases hsummary
          | failed tool => cases tool <;> cases hsummary
          | _ => cases hsummary
    | @runEnds _ ending claimed called hstage =>
        cases hworker
        have hended := hproduced worker ending claimed called rfl hstage
        simp only [SystemState.cancel, SystemState.setWorker, Function.update_self] at hwriting
        cases ending <;> cases hwriting <;> exact hended.worded hsummary
    | claim | write | stop | portBegin =>
        cases hworker
        simp [SystemState.setPort, SystemState.cancel, SystemState.setWorker] at hwriting
    | _ => cases hworker
  · rw [htaken.worker_frame hworker] at hwriting
    exact h worker claim write summary hwriting hsummary

theorem ClaimsStored.step (h : ClaimsStored state) (hstate : SystemInvariant state)
    (htaken : SystemTaken services state label next) : ClaimsStored next := by
  intro worker claim hclaim
  rcases htaken.claim_cases hclaim with hold | ⟨-, _, _, _, -, -, -, hmem⟩
  · obtain ⟨job, hjob, hid, hsame⟩ := h worker claim hold
    obtain ⟨row, hrow, hevolves⟩ := ((htaken.moves hstate).evolves hstate.lifecycle).jobs job hjob
    exact ⟨row, hrow, hevolves.id_eq.trans hid, hsame.1.trans hevolves.snapshot_eq.symm,
      hsame.2.trans hevolves.sha256_eq.symm⟩
  · exact ⟨claim, hmem, rfl, rfl, rfl⟩

theorem SystemTaken.serverId (hstate : SystemInvariant state) (hbusiness : BusinessInvariant state)
    (htaken : SystemTaken services state label next) (id : Uuid) (h : ServerId state.db id) :
    ServerId next.db id := by
  rcases h with ⟨approval, happroval, rfl⟩ | ⟨case, hcase, rfl⟩
  · obtain ⟨row, hrow, hevolves⟩ :=
      ((htaken.moves hstate).evolves hstate.lifecycle).approvals approval happroval
    exact .inl ⟨row, hrow, hevolves.id_eq⟩
  · obtain ⟨row, hrow, hid, -⟩ := (htaken.business hstate hbusiness).case_kept hbusiness hcase
    exact .inr ⟨row, hrow, hid⟩

/-- One step. -/
theorem DbWorded.step (h : DbWorded services state.db) (hstate : SystemInvariant state)
    (hbusiness : BusinessInvariant state) (hwrites : WritesWorded services state)
    (hclaims : ClaimsStored state) (htaken : SystemTaken services state label next) :
    DbWorded services next.db := by
  have hids := htaken.serverId hstate hbusiness
  -- the steps that write no result
  have hquiet : KeepsResults (fun _ _ => False) state.db next.db → DbWorded services next.db :=
    fun hkeeps => h.of_keeps hkeeps hids fun _ _ _ hfalse => hfalse.elim
  cases htaken with
  | enqueue => exact hquiet (insertJob_keepsResults _ _)
  | @claim worker now leaseUntil excluded claim db hidle hclaim =>
      have hkeeps : KeepsResults (fun _ _ => False) state.db
          (JobRepository.claimNext now leaseUntil excluded state.lockedJobs state.db).2 :=
        claimNext_keepsResults now leaseUntil excluded state.lockedJobs state.db
      rw [hclaim] at hkeeps
      exact hquiet hkeeps
  | renewLease => exact hquiet (renewLease_keepsResults _ _ _ _ _)
  | requestApproval => exact hquiet (createForRunningJob_keepsResults _ _ _ _ _ _ _ _ _)
  | @write worker now availableAt claim write hworker =>
      refine h.of_keeps (write.run_keepsResults claim now availableAt state.db) hids ?_
      rintro row - summary ⟨hsummary, job, hjob, hid, hsame⟩
      -- the row has the profile of the claim
      obtain ⟨stored, hstored, hstoredId, hclaimed⟩ := hclaims worker claim (by rw [hworker]; rfl)
      rw [hstate.lifecycle.jobs_unique.eq hstored hjob (hstoredId.trans hid.symm)] at hclaimed
      rw [hsame.fields_eq, ← hclaimed.fields_eq]
      exact (hwrites worker claim write summary hworker hsummary).mono fun _ hfalse => hfalse.elim
  | recover => exact hquiet (hstate.lifecycle.recoverExpiredLeases_keepsResults _ _ _ _)
  | @decide newId approvalId operator request now =>
      rw [SystemState.setDb, decide_eq]
      cases hfound : getForTenant approvalId operator.tenantId state.db with
      | none => exact h
      | some approval =>
          rcases hstate.lifecycle.decideHolding_cases (getForTenant_eq_some hfound).1 services newId
            operator request now with ⟨error, middle, -, heq⟩ | ⟨verdict, middle, -, hdecided, heq⟩
          · dsimp only
            rw [heq]
            exact h
          · dsimp only
            rw [heq, report_state]
            exact h.decide hdecided
  | @expireDue now limit =>
      obtain ⟨final, hrun, hexpired⟩ :=
        hstate.lifecycle.expireDue_expirations now limit fun _ => false
      rw [SystemState.setDb, hrun]
      exact h.expirations hexpired
  | @portCommit port now attempt writes job hport =>
      have howns := (hstate.fenced _ _ _ _ hport).1
      have hjob : job ∈ (writes.apply state.db).jobs := by
        rw [writes.apply_jobs]
        exact howns.mem
      have happlied : KeepsResults (fun _ _ => False) state.db (writes.apply state.db) := by
        constructor
        · intro row hrow result hresult
          rw [writes.apply_jobs] at hrow
          exact .inl ⟨row, hrow, ⟨rfl, rfl⟩, hresult⟩
        · intro row hrow hopen
          rw [writes.apply_approvals] at hrow
          exact .inr ⟨row, hrow, hopen, rfl, rfl⟩
      exact hquiet (happlied.trans (.setJob hjob ⟨rfl, rfl⟩ fun _ hsome => .inl hsome))
  | runEnds | inspect | stop | portBegin | portOpen | portInsert | portRefused | portFence
  | portAbort => exact hquiet (.refl _)

/-- The run. -/
theorem dbWorded_of_reachable
    (h : (systemMachine services).ReachableWith (ProducedEnds services) state) :
    DbWorded services state.db := by
  have hinvariant : WritesWorded services state ∧ ClaimsStored state ∧
      DbWorded services state.db := by
    refine h.invariant (P := fun state => WritesWorded services state ∧ ClaimsStored state ∧
      DbWorded services state.db) ?_ ?_
    · rintro start ⟨hjobs, happrovals, -, -, -, -, hworkers, -⟩
      refine ⟨?_, ?_, ?_, ?_⟩
      · intro worker claim write summary hwriting
        rw [hworkers worker] at hwriting
        cases hwriting
      · intro worker claim hclaim
        rw [hworkers worker] at hclaim
        cases hclaim
      · intro job hjob
        rw [hjobs] at hjob
        cases hjob
      · intro approval happroval
        rw [happrovals] at happroval
        cases happroval
    · rintro before label after hreachable ⟨hwrites, hclaims, hworded⟩ hproduced hstep
      have htaken := systemTaken_of_step hstep
      have hstate := systemInvariant_of_reachable hreachable.reachable
      exact ⟨hwrites.step htaken hproduced, hclaims.step hstate htaken, hworded.step hstate
        (businessInvariant_of_reachable hreachable.reachable) hwrites hclaims htaken⟩
  exact hinvariant.2.2

end System

/-! ## Two runs -/

section Agreement

/-- The summary of a completed run is a function of its execution path. -/
theorem ofResult_eq_of_path {σ τ π ρ : Type} {llm : LLMClient π} {otherLlm : LLMClient ρ}
    {checks otherChecks : ValueChecks} {port : TenantToolPort σ} {otherPort : TenantToolPort τ}
    {runtime otherRuntime : TrustedToolRuntimeContext} {cancelled otherCancelled : ℕ → ℕ → Bool}
    {steps otherSteps : ℕ} {messages otherMessages : List AgentMessage} {base final : World σ}
    {otherBase otherFinal : World τ} {result other : AgentRunResult}
    (hrun : AgentLoop.run llm (policyGatedToolExecutor checks port runtime cancelled) steps messages
      base = (.ok result, final))
    (hother : AgentLoop.run otherLlm
      (policyGatedToolExecutor otherChecks otherPort otherRuntime otherCancelled) otherSteps
      otherMessages otherBase = (.ok other, otherFinal))
    (hstatus : result.status = .completed) (hotherStatus : other.status = .completed)
    (hpath : result.executionPath = other.executionPath) :
    RunEnd.ofResult result = RunEnd.ofResult other := by
  obtain ⟨front, last, proposal, transcript, -, hcompleted⟩ := completedRun_of_run hrun hstatus
  obtain ⟨otherFront, otherLast, otherProposal, otherTranscript, -, hotherCompleted⟩ :=
    completedRun_of_run hother hotherStatus
  have hlast : last = otherLast := by
    have hpaths : front ++ [last] = otherFront ++ [otherLast] := by
      rw [← hcompleted.path, ← hotherCompleted.path, hpath]
    exact (List.append_inj' hpaths rfl).2 |> List.singleton_inj.1
  -- the model's sentence does not decide whether the job is parked
  have hrequested : approvalWasRequested result = approvalWasRequested other := by
    rw [Bool.eq_iff_iff, approvalWasRequested_iff hcompleted,
      approvalWasRequested_iff hotherCompleted, hlast]
  have hsteps : result.steps = other.steps := by
    have hlengths := congrArg List.length hcompleted.path_steps
    have hotherLengths := congrArg List.length hotherCompleted.path_steps
    rw [List.length_map, List.length_range'] at hlengths hotherLengths
    rw [← hlengths, ← hotherLengths, hpath]
  have hsummary : resultSummary result = resultSummary other := by
    have hreason : result.reason = other.reason :=
      hcompleted.reason.trans hotherCompleted.reason.symm
    simp only [resultSummary, outcomeMembers, businessOutcome, hstatus, hotherStatus,
      hreason, hsteps,
      hpath, hrequested]
  simp only [RunEnd.ofResult, hstatus, hotherStatus, hpath, hrequested, hsummary]

/-- What a decision writes for a parked job, without the two ids. -/
def decisionTemplate (result : Option Json) (status : ApprovalStatus) (approvalId : Uuid)
    (caseId : Option Uuid) : Json :=
  .obj ((preservedKeys.filterMap fun key =>
      (result.bind fun value => value.get? key).map fun value => (key, value)) ++
    [("business_outcome", .str (((decisionOutcome status).map fun outcome => outcome.2.2).getD "")),
     ("approval_id", .str (uuidString approvalId)),
     ("approval_status", .str status.value),
     ("result_reference",
       .obj ((caseId.map fun id => ("case_id", Json.str (uuidString id))).toList))])

theorem finalizeJobForDecision_result {approval : Approval} {job row : AgentJob} {now : Timestamp}
    (hawaiting : job.status = .awaitingApproval)
    (h : finalizeJobForDecision approval job now = .ok row) :
    row.result =
      some (decisionTemplate job.result approval.status approval.id (decidedCase approval)) := by
  unfold finalizeJobForDecision at h
  cases houtcome : decisionOutcome approval.status with
  | none =>
      rw [houtcome] at h
      cases h
  | some outcome =>
      simp only [houtcome, hawaiting, ne_eq, not_true_eq_false, if_false] at h
      cases h
      simp only [decidedRow, decisionResult, decisionTemplate, houtcome, Option.map_some,
        Option.getD_some]

end Agreement

/-- The results of jobs hold nothing of the source. -/
structure SourceFreeResults (services : Services) : Prop where
  /-- In every state, every string of a stored result is a word. -/
  worded : ∀ state, (systemMachine services).ReachableWith (ProducedEnds services) state →
    ∀ job ∈ state.db.jobs, ∀ result, job.result = some result → ∀ text ∈ result.strings,
      Word (profileFields services job) (ServerId state.db) text
  /-- Completed runs with the same decisions and outcomes end alike, whatever the
  model and the sender wrote. -/
  runs_agree : ∀ {σ τ π ρ : Type} (llm : LLMClient π) (otherLlm : LLMClient ρ)
    (checks otherChecks : ValueChecks) (port : TenantToolPort σ) (otherPort : TenantToolPort τ)
    (runtime otherRuntime : TrustedToolRuntimeContext) (cancelled otherCancelled : ℕ → ℕ → Bool)
    (steps otherSteps : ℕ) (messages otherMessages : List AgentMessage) (base final : World σ)
    (otherBase otherFinal : World τ) (result other : AgentRunResult),
    AgentLoop.run llm (policyGatedToolExecutor checks port runtime cancelled) steps messages base =
      (.ok result, final) →
    AgentLoop.run otherLlm
      (policyGatedToolExecutor otherChecks otherPort otherRuntime otherCancelled) otherSteps
      otherMessages otherBase = (.ok other, otherFinal) →
    result.status = .completed → other.status = .completed →
    result.executionPath = other.executionPath →
    RunEnd.ofResult result = RunEnd.ofResult other
  /-- Documents that are unreadable under one intake type end alike. -/
  preflights_agree : ∀ (config : TenantConfig) (compiled : Option CompiledTenantProfile)
    (source other : TrustedSource) (result otherResult : TerminalPreflightResult),
    preflightDocument source config compiled = .terminal result →
    preflightDocument other config compiled = .terminal otherResult →
    result.reason = otherResult.reason →
    result.targetIntakeType = otherResult.targetIntakeType →
    RunEnd.ofPreflight result = RunEnd.ofPreflight otherResult
  /-- A decision writes a function of the old result, its own kind and the ids. -/
  decisions_agree : ∀ (approval : Approval) (job row : AgentJob) (now : Timestamp),
    job.status = .awaitingApproval → finalizeJobForDecision approval job now = .ok row →
    row.result =
      some (decisionTemplate job.result approval.status approval.id (decidedCase approval))

theorem preflightDocument_terminal {source : TrustedSource} {config : TenantConfig}
    {compiled : Option CompiledTenantProfile} {result : TerminalPreflightResult}
    (h : preflightDocument source config compiled = .terminal result)
    (hreason : result.reason = .documentUnreadable) :
    result.routingStatus = .awaitingInput ∧ ∃ target, result.targetIntakeType = some target ∧
      result.missingRequiredFields =
        ((config.findIntake target).map fun item => sorted item.requiredFields).getD [] := by
  unfold preflightDocument at h
  split at h
  · cases h
  simp only at h
  split at h
  · cases h
    cases hreason
  · split at h
    · cases h
      cases hreason
    · split at h
      · cases h
        exact ⟨rfl, _, rfl, rfl⟩
      · cases h

/-- For every resolver of profiles, over every run of the system, every model and
every decision. -/
theorem job_results_source_free (services : Services) : SourceFreeResults services where
  worded state hreachable job hjob result hresult :=
    (dbWorded_of_reachable hreachable).results job hjob result hresult
  runs_agree _ _ _ _ _ _ _ _ _ _ _ _ _ _ _ _ _ _ _ _ hrun hother hstatus hotherStatus hpath :=
    ofResult_eq_of_path hrun hother hstatus hotherStatus hpath
  preflights_agree := by
    intro config compiled source other result otherResult hresult hother hreason htarget
    by_cases hunreadable : result.reason = .documentUnreadable
    · obtain ⟨hrouting, target, hintake, hmissing⟩ :=
        preflightDocument_terminal hresult hunreadable
      obtain ⟨hotherRouting, otherTarget, hotherIntake, hotherMissing⟩ :=
        preflightDocument_terminal hother (hreason ▸ hunreadable)
      have hsame : target = otherTarget := by
        rw [hintake, hotherIntake] at htarget
        exact Option.some.inj htarget
      simp only [RunEnd.ofPreflight, preflightSummary, ← hreason, hrouting, hotherRouting, hmissing,
        hotherMissing, hsame]
    · simp only [RunEnd.ofPreflight, ← hreason, hunreadable, if_false]
  decisions_agree _ _ _ _ hawaiting hfinalized := finalizeJobForDecision_result hawaiting hfinalized

end IntegraIntake
