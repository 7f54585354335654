import IntegraIntake.System.Business

/-!
# One case per job, one artifact per job and kind

The direct port and the approval executor share one link row, the idempotency
record of the job, and one unique key for artifacts.  A port transaction that
has locked the record and found it unlinked finds it unlinked when it commits,
if its attempt still has the job then; if not, it does not commit.
-/

namespace IntegraIntake

open Library JobRepository ApprovalRepository ApprovalDecision

/-! ## The invariant -/

/-- What a mutation has returned is in the database. -/
def ResultOk (db : Db) (attempt : Attempt) : PortResult → Prop
  | .createdCase id _ _ => ∃ record ∈ db.idempotency, record.tenantId = attempt.tenantId ∧
    record.jobId = some attempt.jobId ∧ record.caseId = some id
  | .reference value => ∃ artifact ∈ db.artifacts, artifact.tenantId = attempt.tenantId ∧
    artifact.jobId = attempt.jobId ∧ artifact.id = value.id ∧
    artifact.kind.resultKind = value.kind
  | _ => True

/-- What the uncommitted writes of a port can rely on. -/
def WritesOk (state : SystemState) (port : ℕ) (attempt : Attempt) : PortWrites → Prop
  | .newCase record case =>
    (record.tenantId = attempt.tenantId ∧ record.jobId = some attempt.jobId ∧
      record.caseId = none ∧ case.tenantId = attempt.tenantId) ∧
    state.locks (.idempotency attempt.jobId) = some port ∧
    state.locks (.case case.id) = some port ∧ (∀ old ∈ state.db.cases, old.id ≠ case.id) ∧
    ∀ job, attempt.Owns state.db job → record ∈ state.db.idempotency
  | .newArtifact artifact =>
    (artifact.tenantId = attempt.tenantId ∧ artifact.jobId = attempt.jobId) ∧
    state.locks (.artifact artifact.key) = some port ∧
    ∀ job, attempt.Owns state.db job → ∀ old ∈ state.db.artifacts, old.key ≠ artifact.key
  | .existingArtifact reference => ResultOk state.db attempt (.reference reference)
  | .caseFields case _ => ∃ old ∈ state.db.cases, old.id = case.id ∧ old.tenantId = case.tenantId

/-- The writes that a port has made and not committed. -/
def PortStage.writes? : PortStage → Option (Attempt × PortWrites)
  | .written attempt writes => some (attempt, writes)
  | .fenced attempt writes _ => some (attempt, writes)
  | _ => none

/-- How many `created` events a case has. -/
def createdEvents (db : Db) (caseId : Uuid) : ℕ :=
  db.caseEvents.countP fun event => event.caseId = caseId ∧ event.eventType = .created

/-- What holds of the cases, events and artifacts of every reachable state. -/
structure BusinessInvariant (state : SystemState) : Prop where
  records_unique : Table.Unique IdempotencyRecord.uniqueKey state.db.idempotency
  one_record : Table.Unique IdempotencyRecord.jobId state.db.idempotency
  record_job : ∀ record ∈ state.db.idempotency, ∃ job ∈ state.db.jobs,
    record.jobId = some job.id ∧ record.tenantId = job.tenantId
  cases_unique : Table.Unique IntakeCase.id state.db.cases
  event_case : ∀ event ∈ state.db.caseEvents, ∃ case ∈ state.db.cases, case.id = event.caseId
  linked : ∀ record ∈ state.db.idempotency, ∀ caseId, record.caseId = some caseId →
    (∃ case ∈ state.db.cases, case.id = caseId ∧ case.tenantId = record.tenantId) ∧
    createdEvents state.db caseId = 1 ∧
    ∃ jobId, record.jobId = some jobId ∧ Marked state.db record.tenantId jobId
  artifacts_unique : Table.Unique JobArtifact.key state.db.artifacts
  artifact_marked : ∀ artifact ∈ state.db.artifacts,
    Marked state.db artifact.tenantId artifact.jobId
  writes : ∀ port attempt writes, (state.ports port).writes? = some (attempt, writes) →
    WritesOk state port attempt writes
  results : ∀ port attempt result, state.ports port = .returned attempt (.ok result) →
    ResultOk state.db attempt result

section Step

variable {services : Services} {state next : SystemState} {label : SystemStep}

/-! ## The business tables along a step -/

theorem idempotencyOf?_eq_some {db : Db} {jobId tenantId : Uuid} {record : IdempotencyRecord}
    (h : db.idempotencyOf? jobId tenantId = some record) :
    record ∈ db.idempotency ∧ record.tenantId = tenantId ∧ record.jobId = some jobId :=
  ⟨List.mem_of_find?_eq_some h, by simpa using List.find?_some h⟩

/-- A fenced port that commits. -/
theorem BusinessInvariant.commit (h : SystemInvariant state) (hbusiness : BusinessInvariant state)
    {port : ℕ} {now : Timestamp} {attempt : Attempt} {writes : PortWrites} {job : AgentJob}
    (hport : state.ports port = .fenced attempt writes job) :
    BusinessStep state (.portCommit port now)
      ((writes.apply state.db).setJob (markedRow now job)) := by
  have howns := (h.fenced port attempt writes job hport).1
  have hwrites := hbusiness.writes port attempt writes (by rw [hport]; rfl)
  have hacting : (SystemStep.portCommit port now).actingJob? state = some attempt.jobId := by
    simp [SystemStep.actingJob?, hport, PortStage.attempt?]
  have hmarked : Marked ((writes.apply state.db).setJob (markedRow now job)) attempt.tenantId
      attempt.jobId := by
    refine ⟨markedRow now job, ?_, howns.id_eq, howns.tenant_eq, rfl⟩
    exact Table.mem_replace_self ⟨job, (writes.apply_jobs state.db).symm ▸ howns.mem, rfl⟩
  cases writes with
  | newCase record case =>
      obtain ⟨⟨htenant, hjob, hunlinked, hcase⟩, hrecordLock, hcaseLock, hfresh, hrecord⟩ := hwrites
      refine .newCase hacting (hrecord job howns) hjob hunlinked (hcase.trans htenant.symm) hfresh
        ?_ (.inl ⟨port, rfl, hrecordLock⟩) (htenant ▸ hmarked) rfl
      intro other hother hlock
      rw [hcaseLock] at hlock
      exact hother hlock
  | newArtifact artifact =>
      obtain ⟨⟨htenant, hjob⟩, hlock, hfresh⟩ := hwrites
      exact .newArtifact (hjob ▸ hacting) (hfresh job howns) (.inl ⟨port, rfl, hlock⟩)
        (htenant ▸ hjob ▸ hmarked) rfl
  | existingArtifact reference => exact .same rfl
  | caseFields case fields =>
      obtain ⟨old, hold, hid, htenant⟩ := hwrites
      exact .caseFields ⟨attempt, case, fields, job, hport⟩ hold hid htenant rfl

/-- A decision that is committed. -/
theorem Decided.step (h : SystemInvariant state) {newId approvalId : Uuid} {approval : Approval}
    {operator : Operator} {request : DecisionRequest} {now : Timestamp} {verdict : Verdict}
    {db : Db} (happroval : approval ∈ state.db.approvals) (hid : approval.id = approvalId)
    (hfree : state.locks (.case newId) = none)
    (hdecided : Decided services newId approval operator request now state.db verdict db) :
    BusinessStep state (.decide newId approvalId operator request now) db := by
  rcases hdecided.business with hsame | ⟨job, key, writes, hparked, haction, hwrites, htables, row,
    hrow, hrowId, hrowTenant, hmarker⟩
  · exact .same hsame
  · have htenant : approval.tenantId = job.tenantId :=
      (h.lifecycle.coupled_of_job happroval hparked.job_mem hparked.job_eq).1
    have hacting : (SystemStep.decide newId approvalId operator request now).actingJob? state =
        some job.id := by
      have hfound : (state.db.approvals.find? fun row => row.id = approvalId) = some approval := by
        refine h.lifecycle.approvals_unique.find?_eq happroval
          (by simp [hid]) fun other hother => ?_
        rw [hid]
        simpa using hother
      simp [SystemStep.actingJob?, hfound, hparked.job_eq]
    have hparkedOnly : ∀ (attempt : Attempt) (other : AgentJob), attempt.jobId = job.id →
        ¬ attempt.Owns state.db other := by
      intro attempt other hattempt howns
      have hrunning := howns.running
      rw [h.lifecycle.jobs_unique.eq howns.mem hparked.job_mem (howns.id_eq.trans hattempt),
        hparked.awaiting] at hrunning
      cases hrunning
    have hmarked : Marked db approval.tenantId job.id :=
      ⟨row, hrow, hrowId, hrowTenant.trans htenant.symm, hmarker⟩
    cases hwrites with
    | @newCase record case hrecord hunlinked hcaseId hcaseTenant hfresh =>
        obtain ⟨hmem, hrecordTenant, hrecordJob⟩ := idempotencyOf?_eq_some hrecord
        refine .newCase hacting hmem hrecordJob hunlinked (hcaseTenant.trans hrecordTenant.symm)
          (hcaseId ▸ hfresh) ?_ (.inr hparkedOnly) (hrecordTenant ▸ hmarked) htables
        intro port _ hlock
        rw [hcaseId, hfree] at hlock
        cases hlock
    | @newArtifact _ artifact _ _ hartifactTenant hartifactJob hfresh =>
        exact .newArtifact (hartifactJob ▸ hacting) hfresh (.inr (hartifactJob ▸ hparkedOnly))
          (hartifactTenant ▸ hartifactJob ▸ hmarked) htables
    | @caseFields case fields hcase =>
        exact .caseFields ⟨approval, happroval, hid, haction⟩ hcase rfl rfl htables

theorem SystemTaken.business (h : SystemInvariant state) (hbusiness : BusinessInvariant state)
    (htaken : SystemTaken services state label next) : BusinessStep state label next.db := by
  cases htaken with
  | @enqueue new =>
      rcases insertJob_cases new state.db with heq | ⟨hfresh, heq⟩
      · exact .same (by rw [SystemState.setDb, heq])
      · simp only [NewJob.violates, Bool.or_eq_false_iff, List.any_eq_false, decide_eq_true_eq]
          at hfresh
        rw [SystemState.setDb, heq]
        have hunlinked : new.record.caseId = none := rfl
        refine .enqueued hunlinked ?_ ?_ ⟨new.row, by simp, rfl, rfl⟩ rfl
        · intro old hold hkey
          simp only [IdempotencyRecord.uniqueKey, Prod.mk.injEq] at hkey
          exact hfresh.2 old hold ⟨hkey.1, .inl hkey.2⟩
        · intro job hjob hsame
          exact hfresh.1 job hjob (.inl (Option.some.inj hsame).symm)
  | @claim worker now leaseUntil excluded claim db hidle hclaim =>
      have hsame := claimNext_business now leaseUntil excluded state.lockedJobs state.db
      rw [hclaim] at hsame
      exact .same hsame
  | renewLease => exact .same (renewLease_business ..)
  | requestApproval => exact .same (createForRunningJob_business ..)
  | write => exact .same (FinalWrite.run_business ..)
  | recover => exact .same (recoverExpiredLeases_business ..)
  | @decide newId approvalId operator request now hfree =>
      rw [SystemState.setDb, decide_eq]
      cases hfound : getForTenant approvalId operator.tenantId state.db with
      | none => exact .same rfl
      | some approval =>
          obtain ⟨happroval, hid, -⟩ := getForTenant_eq_some hfound
          rcases h.lifecycle.decideHolding_cases happroval services newId operator request now with
            ⟨error, middle, -, heq⟩ | ⟨verdict, middle, -, hdecided, heq⟩
          · dsimp only
            rw [heq]
            exact .same rfl
          · dsimp only
            rw [heq, report_state]
            exact hdecided.step h happroval hid hfree
  | @expireDue now limit =>
      obtain ⟨final, hrun, hexpired⟩ := h.lifecycle.expireDue_expirations now limit fun _ => false
      rw [SystemState.setDb, hrun]
      exact .same hexpired.business
  | portCommit hport => exact hbusiness.commit h hport
  | runEnds | inspect | stop | portBegin | portOpen | portInsert | portRefused | portFence
  | portAbort => exact .same rfl

/-! ## What stays -/

theorem BusinessStep.case_kept {db : Db} (h : BusinessInvariant state)
    (hstep : BusinessStep state label db) {case : IntakeCase} (hcase : case ∈ state.db.cases) :
    ∃ row ∈ db.cases, row.id = case.id ∧ row.tenantId = case.tenantId := by
  cases hstep with
  | same htables | enqueued _ _ _ _ htables | newArtifact _ _ _ _ htables =>
      simp only [businessTables, Prod.mk.injEq] at htables
      exact ⟨case, htables.1 ▸ hcase, rfl, rfl⟩
  | newCase _ _ _ _ _ _ _ _ _ htables =>
      simp only [businessTables, Prod.mk.injEq] at htables
      exact ⟨case, by rw [htables.1]; exact List.mem_append_left _ hcase, rfl, rfl⟩
  | @caseFields changed old fields _ hold hid htenant htables =>
      simp only [businessTables, Prod.mk.injEq] at htables
      rw [htables.1]
      by_cases hsame : case.id = changed.id
      · refine ⟨mergedCase fields changed, Table.mem_replace_self ⟨old, hold, hid⟩, hsame.symm, ?_⟩
        rw [h.cases_unique.eq hcase hold (hsame.trans hid.symm), htenant]
        rfl
      · exact ⟨case, Table.mem_replace_of_ne hcase hsame, rfl, rfl⟩

theorem BusinessStep.artifact_kept {db : Db} (hstep : BusinessStep state label db)
    {artifact : JobArtifact} (hartifact : artifact ∈ state.db.artifacts) :
    artifact ∈ db.artifacts := by
  cases hstep with
  | same htables | enqueued _ _ _ _ htables | newCase _ _ _ _ _ _ _ _ _ htables
  | caseFields _ _ _ _ htables =>
      simp only [businessTables, Prod.mk.injEq] at htables
      exact htables.2.2.1 ▸ hartifact
  | newArtifact _ _ _ _ htables =>
      simp only [businessTables, Prod.mk.injEq] at htables
      rw [htables.2.2.1]
      exact List.mem_append_left _ hartifact

/-- A record stays as it is unless its own job gets its case. -/
theorem BusinessStep.record_kept {db : Db} (h : BusinessInvariant state)
    (hstep : BusinessStep state label db) {record : IdempotencyRecord}
    (hrecord : record ∈ state.db.idempotency)
    (hother : ∀ jobId, label.actingJob? state = some jobId → record.jobId = some jobId →
      record.caseId = none → Guarded state label jobId (.idempotency jobId) → False) :
    record ∈ db.idempotency := by
  cases hstep with
  | same htables | newArtifact _ _ _ _ htables | caseFields _ _ _ _ htables =>
      simp only [businessTables, Prod.mk.injEq] at htables
      exact htables.2.2.2 ▸ hrecord
  | enqueued _ _ _ _ htables =>
      simp only [businessTables, Prod.mk.injEq] at htables
      rw [htables.2.2.2]
      exact List.mem_append_left _ hrecord
  | @newCase unlinked case jobId hacting hmem hjob hnone _ _ _ hguarded _ htables =>
      simp only [businessTables, Prod.mk.injEq] at htables
      rw [htables.2.2.2]
      refine Table.mem_replace_of_ne hrecord fun hkey => ?_
      have hsame : record = unlinked := h.records_unique.eq hrecord hmem hkey
      subst hsame
      exact hother jobId hacting hjob hnone hguarded

/-- A linked record stays as it is. -/
theorem BusinessStep.link_kept {db : Db} (h : BusinessInvariant state)
    (hstep : BusinessStep state label db) {record : IdempotencyRecord}
    (hrecord : record ∈ state.db.idempotency) (hlinked : record.caseId.isSome) :
    record ∈ db.idempotency := by
  refine hstep.record_kept h hrecord fun _ _ _ hnone _ => ?_
  rw [hnone] at hlinked
  cases hlinked

theorem RowsStep.marked {locked : Uuid → Prop} {cause : AgentJob → Cause} {db next : Db}
    (h : RowsStep locked cause db next) {tenantId jobId : Uuid}
    (hmarked : Marked db tenantId jobId) :
    Marked next tenantId jobId := by
  obtain ⟨job, hjob, hid, htenant, hmarker⟩ := hmarked
  obtain ⟨row, hrow, hstep⟩ := h.rows job hjob
  exact ⟨row, hrow, hstep.id_eq.trans hid, hstep.tenant_eq.trans htenant, hstep.marker_kept hmarker⟩

theorem BusinessStep.result_kept {db : Db} (h : BusinessInvariant state)
    (hstep : BusinessStep state label db) {attempt : Attempt} {result : PortResult}
    (hresult : ResultOk state.db attempt result) : ResultOk db attempt result := by
  cases result with
  | createdCase id status fields =>
      obtain ⟨record, hrecord, htenant, hjob, hlinked⟩ := hresult
      exact ⟨record, hstep.link_kept h hrecord (by rw [hlinked]; rfl), htenant, hjob, hlinked⟩
  | reference value =>
      obtain ⟨artifact, hartifact, hrest⟩ := hresult
      exact ⟨artifact, hstep.artifact_kept hartifact, hrest⟩
  | updatedCase | absent => trivial

/-- The writes of a port stay right while others take their steps. -/
theorem WritesOk.step (h : BusinessInvariant state) (hstep : BusinessStep state label next.db)
    {port : ℕ} {attempt : Attempt} {writes : PortWrites}
    (hwrites : WritesOk state port attempt writes) (hother : label.port? ≠ some port)
    (hlocks : ∀ lock, state.locks lock = some port → next.locks lock = some port)
    (howns : ∀ row, attempt.Owns next.db row → ∃ job, attempt.Owns state.db job) :
    WritesOk next port attempt writes := by
  cases writes with
  | newCase record case =>
      obtain ⟨hrecord, hrecordLock, hcaseLock, hfresh, hmem⟩ := hwrites
      refine ⟨hrecord, hlocks _ hrecordLock, hlocks _ hcaseLock, ?_, ?_⟩
      · cases hstep with
        | same htables | enqueued _ _ _ _ htables | newArtifact _ _ _ _ htables =>
            simp only [businessTables, Prod.mk.injEq] at htables
            rw [htables.1]
            exact hfresh
        | newCase _ _ _ _ _ _ hlock _ _ htables =>
            simp only [businessTables, Prod.mk.injEq] at htables
            rw [htables.1]
            intro old hold hid
            rcases List.mem_append.1 hold with hold | hnew
            · exact hfresh old hold hid
            · rw [List.mem_singleton.1 hnew] at hid
              exact hlock port hother (hid ▸ hcaseLock)
        | @caseFields changed old _ _ hold hid _ htables =>
            simp only [businessTables, Prod.mk.injEq] at htables
            rw [htables.1]
            intro row hrow
            rcases Table.mem_of_mem_replace hrow with rfl | ⟨hrow, -⟩
            · exact fun hsame => hfresh old hold (hid.trans hsame)
            · exact hfresh row hrow
      · intro row hrow
        obtain ⟨job, hjob⟩ := howns row hrow
        refine hstep.record_kept h (hmem job hjob) fun jobId _ hthis _ hguarded => ?_
        have hattempt : attempt.jobId = jobId :=
          Option.some.inj (hrecord.2.1.symm.trans hthis)
        exact hguarded.not_owns hother (hattempt ▸ hrecordLock) hattempt job hjob
  | newArtifact artifact =>
      obtain ⟨hartifact, hlock, hfresh⟩ := hwrites
      refine ⟨hartifact, hlocks _ hlock, ?_⟩
      intro row hrow
      obtain ⟨job, hjob⟩ := howns row hrow
      cases hstep with
      | same htables | enqueued _ _ _ _ htables | newCase _ _ _ _ _ _ _ _ _ htables
      | caseFields _ _ _ _ htables =>
          simp only [businessTables, Prod.mk.injEq] at htables
          rw [htables.2.2.1]
          exact hfresh job hjob
      | @newArtifact added _ _ hguarded _ htables =>
          simp only [businessTables, Prod.mk.injEq] at htables
          rw [htables.2.2.1]
          intro old hold hkey
          rcases List.mem_append.1 hold with hold | hnew
          · exact hfresh job hjob old hold hkey
          · rw [List.mem_singleton.1 hnew] at hkey
            have hattempt : attempt.jobId = added.jobId := by
              rw [← hartifact.2]
              exact (congrArg (fun key => key.2.1) hkey).symm
            exact hguarded.not_owns hother (hkey ▸ hlock) hattempt job hjob
  | existingArtifact reference =>
      have hresult : ResultOk state.db attempt (.reference reference) := hwrites
      exact hstep.result_kept h hresult
  | caseFields case fields =>
      obtain ⟨old, hold, hid, htenant⟩ := hwrites
      obtain ⟨row, hrow, hrowId, hrowTenant⟩ := hstep.case_kept h hold
      exact ⟨row, hrow, hrowId.trans hid, hrowTenant.trans htenant⟩

/-! ## What a port reads -/

theorem case?_eq_some {db : Db} {caseId tenantId : Uuid} {case : IntakeCase}
    (h : db.case? caseId tenantId = some case) :
    case ∈ db.cases ∧ case.id = caseId ∧ case.tenantId = tenantId :=
  ⟨List.mem_of_find?_eq_some h, by simpa using List.find?_some h⟩

/-- The artifact that a create finds is the one it returns. -/
theorem artifact?_result {db : Db} {attempt : Attempt} {kind : ArtifactKind}
    {existing : JobArtifact}
    (h : db.artifact? attempt.tenantId attempt.jobId kind = some existing) :
    ResultOk db attempt (.reference ⟨kind.resultKind, existing.id⟩) := by
  have hkey := Table.key_of_lookup h
  simp only [JobArtifact.key, Prod.mk.injEq] at hkey
  exact ⟨existing, Table.mem_of_lookup h, hkey.1, hkey.2.1, rfl, by rw [hkey.2.2]⟩

theorem openCreateCase_cases {attempt : Attempt} (newId : Uuid) (source : TrustedSource)
    (customerId : Option Uuid) (fields : List (String × Json))
    {record : IdempotencyRecord} {db : Db}
    (hrecord : db.idempotencyOf? attempt.jobId attempt.tenantId = some record) :
    (∃ error, openCreateCase attempt newId source customerId fields record db =
      .ends (.error error)) ∨
    (∃ result, openCreateCase attempt newId source customerId fields record db =
      .ends (.ok result) ∧ ResultOk db attempt result) ∨
    ∃ case, openCreateCase attempt newId source customerId fields record db =
      .writes (.newCase record case) ∧ case.id = newId ∧ case.tenantId = attempt.tenantId ∧
      record.caseId = none ∧ ∀ old ∈ db.cases, old.id ≠ newId := by
  obtain ⟨hmem, htenant, hjob⟩ := idempotencyOf?_eq_some hrecord
  unfold openCreateCase
  cases hlinked : record.caseId with
  | some caseId =>
      dsimp only
      cases hcase : db.case? caseId attempt.tenantId with
      | none => exact .inl ⟨_, rfl⟩
      | some existing =>
          have hid : existing.id = caseId := (case?_eq_some hcase).2.1
          exact .inr (.inl ⟨_, rfl, record, hmem, htenant, hjob, hid ▸ hlinked⟩)
  | none =>
      dsimp only
      split
      · exact .inl ⟨_, rfl⟩
      · split
        · exact .inl ⟨_, rfl⟩
        · rename_i hfresh
          exact .inr (.inr ⟨_, rfl, rfl, rfl, rfl, by simpa using hfresh⟩)

/-- What the first statements of a mutation lead to. -/
theorem opening_ok {attempt : Attempt} {mutation : PortMutation} (next : SystemState) (port : ℕ)
    (hdb : next.db = state.db) :
    (∀ writes, mutation.opening attempt state.db = .writes writes →
      (∀ lock ∈ mutation.locks attempt state.db, next.locks lock = some port) →
      WritesOk next port attempt writes) ∧
    ∀ result, mutation.opening attempt state.db = .ends (.ok result) →
      ResultOk next.db attempt result := by
  cases mutation with
  | createCase newId source customerId fields =>
      simp only [PortMutation.opening, PortMutation.locks, List.mem_cons,
        List.not_mem_nil, or_false,
        forall_eq_or_imp, forall_eq]
      cases hrecord : state.db.idempotencyOf? attempt.jobId attempt.tenantId with
      | none => exact ⟨fun _ h => (by cases h), fun _ h => (by cases h)⟩
      | some record =>
          obtain ⟨hmem, htenant, hjob⟩ := idempotencyOf?_eq_some hrecord
          rcases openCreateCase_cases newId source customerId fields hrecord with
            ⟨error, heq⟩ | ⟨result, heq, hresult⟩ | ⟨case, heq, hid, hcase, hunlinked, hfresh⟩ <;>
            simp only [heq]
          · exact ⟨fun _ h => (by cases h), fun _ h => (by cases h)⟩
          · refine ⟨fun _ h => (by cases h), fun _ h => ?_⟩
            cases h
            exact hdb ▸ hresult
          · refine ⟨fun _ h hlocks => ?_, fun _ h => (by cases h)⟩
            cases h
            exact ⟨⟨htenant, hjob, hunlinked, hcase⟩, hlocks.1, hid ▸ hlocks.2, hid ▸ hdb ▸ hfresh,
              fun _ _ => hdb ▸ hmem⟩
  | createArtifact newId kind payload =>
      simp only [PortMutation.opening]
      cases hfound : state.db.artifact? attempt.tenantId attempt.jobId kind with
      | none => exact ⟨fun _ h => (by cases h), fun _ h => (by cases h)⟩
      | some existing =>
          refine ⟨fun _ h _ => ?_, fun _ h => (by cases h)⟩
          cases h
          have hresult : ResultOk next.db attempt (.reference ⟨kind.resultKind, existing.id⟩) :=
            hdb ▸ artifact?_result hfound
          exact hresult
  | updateCaseFields caseId fields =>
      simp only [PortMutation.opening]
      cases hfound : state.db.case? caseId attempt.tenantId with
      | none =>
          refine ⟨fun _ h => (by cases h), fun _ h => ?_⟩
          cases h
          trivial
      | some case =>
          refine ⟨fun _ h _ => ?_, fun _ h => (by cases h)⟩
          cases h
          exact ⟨case, hdb ▸ (case?_eq_some hfound).1, rfl, rfl⟩

/-- What the savepoint of an artifact leads to. -/
theorem insertArtifact_ok {attempt : Attempt} {newId : Uuid} {kind : ArtifactKind} {payload : Json}
    (next : SystemState) (port : ℕ) (hdb : next.db = state.db) :
    (∀ writes, insertArtifact attempt newId kind payload state.db = .writes writes →
      next.locks (.artifact (attempt.tenantId, attempt.jobId, kind)) = some port →
      WritesOk next port attempt writes) ∧
    ∀ result, insertArtifact attempt newId kind payload state.db ≠ .ends (.ok result) := by
  unfold insertArtifact
  cases hfound : state.db.artifact? attempt.tenantId attempt.jobId kind with
  | some existing =>
      refine ⟨fun _ h _ => ?_, fun _ h => (by cases h)⟩
      cases h
      have hresult : ResultOk next.db attempt (.reference ⟨kind.resultKind, existing.id⟩) :=
        hdb ▸ artifact?_result hfound
      exact hresult
  | none =>
      dsimp only
      split
      · exact ⟨fun _ h => (by cases h), fun _ h => (by cases h)⟩
      · refine ⟨fun _ h hlock => ?_, fun _ h => (by cases h)⟩
        cases h
        exact ⟨⟨rfl, rfl⟩, hlock, fun _ _ => hdb ▸ Table.lookup_eq_none_iff.1 hfound⟩

end Step
end IntegraIntake
