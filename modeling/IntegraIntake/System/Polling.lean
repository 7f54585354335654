import IntegraIntake.Jobs.Response
import IntegraIntake.System.Replay
import IntegraIntake.System.Submission

/-!
# Polling a job

`get_job` reads a job with three statements, each of which sees what is committed
when it begins, while workers, tools and operators go on.  Such a read is torn, and
still a client can rely on it: once it shows a terminal status every later read
gives the same response (`polls_agree_once_settled`), and until then a later read
takes nothing back (`polls_progress`).
-/

namespace IntegraIntake

open Library JobRepository

namespace JobRead

/-- The reference to the case of a job. -/
def caseReferences (jobId tenantId : Uuid) (db : Db) : List ResultReference :=
  (((db.idempotencyOf? jobId tenantId).bind IdempotencyRecord.caseId).map
    (ResultReference.mk .case)).toList

/-- The references to the artifacts of a job. -/
def artifactReferences (jobId tenantId : Uuid) (db : Db) : List ResultReference :=
  (artifactsOf jobId tenantId db).map fun artifact => ⟨artifact.kind.resultKind, artifact.id⟩

/-- `get_read_for_tenant`: the databases are those that the select of the job, that
of the case and that of the artifacts see. -/
def readStatements (jobId tenantId : Uuid) (first second third : Db) :
    Except AppError (Option PersistedJobRead) :=
  match first.job? jobId tenantId with
  | none => .ok none
  | some job =>
    match publicApprovals job first with
    | _ :: _ :: _ => .error .integrityError
    | joined =>
      if (asDict? job.sourceSnapshot).isNone ∨ (asDict? job.tenantConfigSnapshot).isNone then
        .ok none
      else .ok (some { persistedRow job joined.head? first with
        resultReferences := caseReferences jobId tenantId second ++
          artifactReferences jobId tenantId third })

/-- Between two commits the statements see the same. -/
theorem getReadForTenant_eq (jobId tenantId : Uuid) (db : Db) :
    getReadForTenant jobId tenantId db = readStatements jobId tenantId db db db := by
  unfold getReadForTenant readStatements
  cases hjob : db.job? jobId tenantId with
  | none => rfl
  | some job =>
      have hids : job.id = jobId ∧ job.tenantId = tenantId := by
        simpa using List.find?_some hjob
      obtain ⟨rfl, rfl⟩ := hids
      rfl

/-- The row that a read finds, if it finds one. -/
theorem readStatements_eq_some {jobId tenantId : Uuid} {first second third : Db}
    {read : PersistedJobRead}
    (h : readStatements jobId tenantId first second third = .ok (some read)) :
    ∃ job, first.job? jobId tenantId = some job ∧ (publicApprovals job first).length ≤ 1 ∧
      ¬ ((asDict? job.sourceSnapshot).isNone ∨ (asDict? job.tenantConfigSnapshot).isNone) ∧
      read = { persistedRow job (publicApprovals job first).head? first with
        resultReferences := caseReferences jobId tenantId second ++
          artifactReferences jobId tenantId third } := by
  unfold readStatements at h
  cases hjob : first.job? jobId tenantId with
  | none =>
      rw [hjob] at h
      cases h
  | some job =>
      rw [hjob] at h
      dsimp only at h
      split at h
      · cases h
      · rename_i joined hlong
        split at h
        · cases h
        · rename_i hdicts
          refine ⟨job, rfl, ?_, hdicts, (Option.some.inj (Except.ok.inj h)).symm⟩
          cases hrows : publicApprovals job first with
          | nil => simp
          | cons approval rest =>
              cases rest with
              | nil => simp
              | cons other rest => exact absurd hrows (hlong _ _ _)

/-- A job with one public approval at most is read, if its snapshots are dictionaries. -/
theorem readStatements_of_job {jobId tenantId : Uuid} {first : Db} (second third : Db)
    {job : AgentJob}
    (hjob : first.job? jobId tenantId = some job)
    (happrovals : (publicApprovals job first).length ≤ 1)
    (hdicts : ¬ ((asDict? job.sourceSnapshot).isNone ∨
      (asDict? job.tenantConfigSnapshot).isNone)) :
    readStatements jobId tenantId first second third =
      .ok (some { persistedRow job (publicApprovals job first).head? first with
        resultReferences := caseReferences jobId tenantId second ++
          artifactReferences jobId tenantId third }) := by
  unfold readStatements
  rw [hjob]
  dsimp only
  split
  · rename_i approval other rest hrows
    rw [hrows] at happrovals
    simp at happrovals
  · rw [if_neg hdicts]

end JobRead

open JobRead

/-! ## The rows of a settled job -/

/-- The rows that belong to a job are the same in both databases. -/
structure SameJobRows (jobId : Uuid) (db next : Db) : Prop where
  approvals : next.approvals.filter (fun approval => approval.jobId = some jobId) =
    db.approvals.filter fun approval => approval.jobId = some jobId
  records : next.idempotency.filter (fun record => record.jobId = some jobId) =
    db.idempotency.filter fun record => record.jobId = some jobId
  artifacts : next.artifacts.filter (fun artifact => artifact.jobId = jobId) =
    db.artifacts.filter fun artifact => artifact.jobId = jobId

namespace SameJobRows

variable {jobId tenantId : Uuid} {db middle next : Db} {job : AgentJob}

theorem refl (jobId : Uuid) (db : Db) : SameJobRows jobId db db := ⟨rfl, rfl, rfl⟩

theorem trans (h : SameJobRows jobId db middle) (h' : SameJobRows jobId middle next) :
    SameJobRows jobId db next :=
  ⟨h'.approvals.trans h.approvals, h'.records.trans h.records, h'.artifacts.trans h.artifacts⟩

theorem publicApprovals_eq (h : SameJobRows job.id db next) :
    publicApprovals job next = publicApprovals job db := by
  have hrows : ∀ db : Db, publicApprovals job db =
      (db.approvals.filter fun approval => approval.jobId = some job.id).filter fun approval =>
        approval.tenantId = job.tenantId ∧ approval.status.isPublic := by
    intro db
    rw [List.filter_filter]
    refine List.filter_congr fun approval _ => ?_
    simp [Bool.and_comm]
  rw [hrows, hrows, h.approvals]

theorem caseReferences_eq (h : SameJobRows jobId db next) :
    caseReferences jobId tenantId next = caseReferences jobId tenantId db := by
  have hrecord : ∀ db : Db, db.idempotencyOf? jobId tenantId =
      (db.idempotency.filter fun record => record.jobId = some jobId).find? fun record =>
        record.tenantId = tenantId := by
    intro db
    rw [List.find?_filter, Db.idempotencyOf?]
    congr 1
    funext record
    simp [Bool.and_comm]
  rw [caseReferences, caseReferences, hrecord, hrecord, h.records]

theorem artifactReferences_eq (h : SameJobRows jobId db next) :
    artifactReferences jobId tenantId next = artifactReferences jobId tenantId db := by
  have hrows : ∀ db : Db, (db.artifacts.filter fun artifact =>
      artifact.tenantId = tenantId ∧ artifact.jobId = jobId) =
        (db.artifacts.filter fun artifact => artifact.jobId = jobId).filter fun artifact =>
          artifact.tenantId = tenantId := by
    intro db
    rw [List.filter_filter]
    refine List.filter_congr fun artifact _ => ?_
    simp
  rw [artifactReferences, artifactReferences, artifactsOf, artifactsOf, hrows, hrows, h.artifacts]

end SameJobRows

section Settled

variable {services : Services} {state next : SystemState} {label : SystemStep} {job : AgentJob}

/-- A move changes the approvals of the live job that moves, and no others. -/
theorem Move.approvals_eq {db after : Db} (h : Lifecycle db) (hmove : Move db after)
    (hjob : job ∈ db.jobs) (hterminal : job.status.isTerminal = true) :
    after.approvals.filter (fun approval => approval.jobId = some job.id) =
      db.approvals.filter fun approval => approval.jobId = some job.id := by
  cases hmove with
  | insert _ _ _ _ happrovals => rw [happrovals]
  | @update moving changed hmoving hmove _ _ hupdate =>
      have hother : ∀ approval : Approval, approval.jobId = some moving.id →
          decide (approval.jobId = some job.id) = false := by
        intro approval hthis
        rw [hthis, decide_eq_false_iff_not]
        intro hsame
        have heq := h.jobs_unique.eq hmoving hjob (Option.some.inj hsame)
        rw [← heq, hmove.live] at hterminal
        cases hterminal
      generalize happrovals : after.approvals = approvals at hupdate
      cases hupdate with
      | keep => rfl
      | @set approval changed hmem hthis hamove _ _ =>
          have hchanged := hother _ (hamove.job_eq.trans hthis)
          refine Table.filter_replace (fun old hold hkey => ?_) hchanged
          rw [h.approvals_unique.eq hold hmem (hkey.trans hamove.id_eq)]
          exact hother approval hthis
      | @add added _ _ hthis _ _ _ =>
          rw [List.filter_append, List.filter_cons_of_neg (by simp [hother added hthis]),
            List.filter_nil, List.append_nil]

theorem Moves.approvals_eq {db after : Db} (h : Lifecycle db) (hmoves : Moves db after)
    (hjob : job ∈ db.jobs) (hterminal : job.status.isTerminal = true) :
    after.approvals.filter (fun approval => approval.jobId = some job.id) =
      db.approvals.filter fun approval => approval.jobId = some job.id := by
  induction hmoves with
  | refl => rfl
  | @tail middle after hbefore hmove ih =>
      obtain ⟨row, hrow, hevolves⟩ := (Moves.evolves h hbefore).jobs job hjob
      rw [hevolves.absorbing hterminal] at hrow
      rw [hmove.approvals_eq (h.moves hbefore) hrow hterminal, ih]

/-- The job for which a step writes business rows is not settled. -/
theorem SystemTaken.acting_live (h : SystemInvariant state)
    (htaken : SystemTaken services state label next) :
    businessTables next.db = businessTables state.db ∨
      ∀ job ∈ state.db.jobs, label.actingJob? state = some job.id →
        job.status.isTerminal = false := by
  cases htaken with
  | @portCommit port now attempt writes row hport =>
      refine .inr fun job hjob hacting => ?_
      obtain ⟨howns, -⟩ := h.fenced _ _ _ _ hport
      simp only [SystemStep.actingJob?, hport, PortStage.attempt?, Option.map_some,
        Option.some.injEq] at hacting
      have hrunning := howns.running
      rw [h.lifecycle.jobs_unique.eq howns.mem hjob (howns.id_eq.trans hacting)] at hrunning
      rw [hrunning]
      rfl
  | @decide newId approvalId operator request now hfree =>
      rw [SystemState.setDb, decide_eq]
      cases hfound : ApprovalRepository.getForTenant approvalId operator.tenantId state.db with
      | none => exact .inl rfl
      | some approval =>
          obtain ⟨happroval, hid, -⟩ := getForTenant_eq_some hfound
          rcases h.lifecycle.decideHolding_cases happroval services newId operator request now with
            ⟨error, middle, -, heq⟩ | ⟨verdict, middle, -, hdecided, heq⟩
          · dsimp only
            rw [heq]
            exact .inl rfl
          · dsimp only
            rw [heq, report_state]
            rcases hdecided.business with hsame | ⟨parked, key, writes, hparked, -⟩
            · exact .inl hsame
            · refine .inr fun job hjob hacting => ?_
              obtain ⟨row, hrow, hthis⟩ := Option.bind_eq_some_iff.1 hacting
              have hrowId := List.find?_some hrow
              have hsame : row = approval :=
                h.lifecycle.approvals_unique.eq (List.mem_of_find?_eq_some hrow) happroval
                  ((of_decide_eq_true hrowId).trans hid.symm)
              have hjobId : parked.id = job.id := by
                rw [hsame, hparked.job_eq] at hthis
                exact Option.some.inj hthis
              rw [← h.lifecycle.jobs_unique.eq hparked.job_mem hjob hjobId, hparked.awaiting]
              rfl
  | _ =>
      refine .inr fun job _ hacting => ?_
      cases hacting

/-- What one step does to the rows of a settled job: nothing. -/
theorem SystemTaken.sameJobRows (h : SystemInvariant state) (hbusiness : BusinessInvariant state)
    (htaken : SystemTaken services state label next) (hjob : job ∈ state.db.jobs)
    (hterminal : job.status.isTerminal = true) : SameJobRows job.id state.db next.db := by
  have happrovals := (htaken.moves h).approvals_eq h.lifecycle hjob hterminal
  have hsame : businessTables next.db = businessTables state.db →
      SameJobRows job.id state.db next.db := by
    intro htables
    simp only [businessTables, Prod.mk.injEq] at htables
    exact ⟨happrovals, by rw [htables.2.2.2], by rw [htables.2.2.1]⟩
  rcases htaken.acting_live h with htables | hlive
  · exact hsame htables
  · have hother : ∀ jobId, label.actingJob? state = some jobId → jobId ≠ job.id := by
      rintro jobId hacting rfl
      rw [hlive job hjob hacting] at hterminal
      cases hterminal
    cases htaken.business h hbusiness with
    | same htables => exact hsame htables
    | @enqueued record _ _ hnew _ htables =>
        simp only [businessTables, Prod.mk.injEq] at htables
        refine ⟨happrovals, ?_, by rw [htables.2.2.1]⟩
        rw [htables.2.2.2, List.filter_append, List.filter_cons_of_neg (by simp [hnew job hjob]),
          List.filter_nil, List.append_nil]
    | @newCase record case jobId hacting hmem hthis _ _ _ _ _ _ htables =>
        simp only [businessTables, Prod.mk.injEq] at htables
        have hnot : Decidable.decide (record.jobId = some job.id) = false := by
          rw [hthis, decide_eq_false_iff_not]
          exact fun heq => hother jobId hacting (Option.some.inj heq)
        refine ⟨happrovals, ?_, by rw [htables.2.2.1]⟩
        rw [htables.2.2.2]
        refine Table.filter_replace (fun old hold hkey => ?_) hnot
        have hold' : old = record := hbusiness.records_unique.eq hold hmem hkey
        rw [hold', hnot]
    | @newArtifact artifact hacting _ _ _ htables =>
        simp only [businessTables, Prod.mk.injEq] at htables
        refine ⟨happrovals, by rw [htables.2.2.2], ?_⟩
        rw [htables.2.2.1, List.filter_append,
          List.filter_cons_of_neg (by simp [hother artifact.jobId hacting]), List.filter_nil,
          List.append_nil]
    | caseFields _ _ _ _ htables =>
        simp only [businessTables, Prod.mk.injEq] at htables
        exact ⟨happrovals, by rw [htables.2.2.2], by rw [htables.2.2.1]⟩

/-- The settled jobs stay as they are, with everything that belongs to them. -/
def SettledStays (state next : SystemState) : Prop :=
  ∀ job ∈ state.db.jobs, job.status.isTerminal = true →
    job ∈ next.db.jobs ∧ SameJobRows job.id state.db next.db

theorem SystemTaken.settledStays (h : SystemInvariant state) (hbusiness : BusinessInvariant state)
    (htaken : SystemTaken services state label next) : SettledStays state next := by
  intro job hjob hterminal
  obtain ⟨row, hrow, hevolves⟩ := ((htaken.moves h).evolves h.lifecycle).jobs job hjob
  rw [hevolves.absorbing hterminal] at hrow
  exact ⟨hrow, htaken.sameJobRows h hbusiness hjob hterminal⟩

theorem settledStays_later (hlater : (systemMachine services).Later state next)
    (h : (systemMachine services).Reachable state) : SettledStays state next := by
  have hrefl : ∀ state, SettledStays state state := fun state job hjob _ =>
    ⟨hjob, .refl job.id state.db⟩
  refine Machine.Later.preorder hrefl (fun hfirst hsecond job hjob hterminal => ?_)
    (fun hreachable hstep => ?_) hlater h
  · obtain ⟨hmiddle, hrows⟩ := hfirst job hjob hterminal
    obtain ⟨hlast, hrows'⟩ := hsecond job hmiddle hterminal
    exact ⟨hlast, hrows.trans hrows'⟩
  · exact (systemTaken_of_step hstep).settledStays (systemInvariant_of_reachable hreachable)
      (businessInvariant_of_reachable hreachable)

end Settled

/-! ## What nothing takes back -/

section Progress

variable {services : Services} {state next : SystemState} {label : SystemStep}

/-- The later state goes on from the earlier one. -/
structure Progress (state next : SystemState) : Prop where
  jobs : JobsGoOn state.db next.db
  rows : Evolves state.db next.db
  linked : ∀ record ∈ state.db.idempotency, record.caseId.isSome → record ∈ next.db.idempotency
  artifacts : ∀ artifact ∈ state.db.artifacts, artifact ∈ next.db.artifacts

theorem Progress.refl (state : SystemState) : Progress state state :=
  ⟨.of_eq rfl, .refl state.db, fun _ hrecord _ => hrecord, fun _ h => h⟩

theorem Progress.trans {middle : SystemState} (h : Progress state middle)
    (h' : Progress middle next) : Progress state next where
  jobs := h.jobs.trans h'.jobs
  rows := h.rows.trans h'.rows
  linked record hrecord hlinked := h'.linked record (h.linked record hrecord hlinked) hlinked
  artifacts artifact hartifact := h'.artifacts artifact (h.artifacts artifact hartifact)

theorem SystemTaken.progress (h : SystemInvariant state) (hbusiness : BusinessInvariant state)
    (htaken : SystemTaken services state label next) : Progress state next where
  jobs := htaken.goesOn h
  rows := (htaken.moves h).evolves h.lifecycle
  linked _ hrecord hlinked := (htaken.business h hbusiness).link_kept hbusiness hrecord hlinked
  artifacts _ hartifact := (htaken.business h hbusiness).artifact_kept hartifact

theorem progress_later (hlater : (systemMachine services).Later state next)
    (h : (systemMachine services).Reachable state) : Progress state next :=
  Machine.Later.preorder Progress.refl Progress.trans
    (fun hreachable hstep => (systemTaken_of_step hstep).progress
      (systemInvariant_of_reachable hreachable) (businessInvariant_of_reachable hreachable))
    hlater h

theorem caseReferences_subset (h : Progress state next) (hbusiness : BusinessInvariant next)
    (jobId tenantId : Uuid) :
    caseReferences jobId tenantId state.db ⊆ caseReferences jobId tenantId next.db := by
  intro reference hreference
  simp only [caseReferences, Option.mem_toList, Option.map_eq_some_iff,
    Option.bind_eq_some_iff] at hreference ⊢
  obtain ⟨caseId, ⟨record, hfound, hcase⟩, rfl⟩ := hreference
  obtain ⟨hrecord, htenant, hjob⟩ := idempotencyOf?_eq_some hfound
  have hkept := h.linked record hrecord (by rw [hcase]; rfl)
  exact ⟨caseId, ⟨record, hbusiness.idempotencyOf?_eq hkept hjob htenant, hcase⟩, rfl⟩

theorem artifactReferences_subset (h : Progress state next) (jobId tenantId : Uuid) :
    artifactReferences jobId tenantId state.db ⊆ artifactReferences jobId tenantId next.db := by
  intro reference hreference
  simp only [artifactReferences, artifactsOf, List.mem_map, List.mem_insertionSort,
    List.mem_filter] at hreference ⊢
  obtain ⟨artifact, ⟨hartifact, hkey⟩, rfl⟩ := hreference
  exact ⟨artifact, ⟨h.artifacts artifact hartifact, hkey⟩, rfl⟩

/-- A public approval stays public. -/
theorem ApprovalEvolves.isPublic {approval row : Approval} (h : ApprovalEvolves approval row)
    (hpublic : approval.status.isPublic = true) : row.status.isPublic = true ∧
      (row.status = approval.status ∨
        approval.status = .pending ∧ row.status.isFinal = true) := by
  have hfinal : ∀ status : ApprovalStatus, status.isFinal = true → status.isPublic = true := by
    intro status
    cases status <;> simp [ApprovalStatus.isFinal, ApprovalStatus.isPublic]
  by_cases hpending : approval.status = .pending
  · rcases h.pending hpending with rfl | hrow
    · exact ⟨hpublic, .inl rfl⟩
    · exact ⟨hfinal _ hrow, .inr ⟨hpending, hrow⟩⟩
  · have hclosed : approval.status.isFinal = true := by
      cases hstatus : approval.status <;> rw [hstatus] at hpublic hpending
      · cases hpublic
      · cases hpublic
      · exact absurd rfl hpending
      · rfl
      · rfl
      · rfl
    rw [h.closed (.inl hclosed)]
    exact ⟨hpublic, .inl rfl⟩

theorem publicApprovals_length (h : Lifecycle state.db) (job : AgentJob) :
    (publicApprovals job state.db).length ≤ 1 := by
  refine le_trans (List.Sublist.length_le (List.monotone_filter_right _ ?_))
    (h.approvals_le_one job.id)
  intro approval
  simp +contextual

end Progress

/-! ## Polls -/

/-- One poll of a job: the states in which its three statements run. -/
structure Poll (services : Services) where
  first : SystemState
  second : SystemState
  third : SystemState
  reachable : (systemMachine services).Reachable first
  second_later : (systemMachine services).Later first second
  third_later : (systemMachine services).Later second third

/-- A response that takes back nothing of an earlier one. -/
structure ResponseAfter (earlier later : JobReadResponse) : Prop where
  job_eq : later.jobId = earlier.jobId
  trace_eq : later.traceId = earlier.traceId
  created_eq : later.createdAt = earlier.createdAt
  scenario_eq : later.scenarioKey = earlier.scenarioKey
  attempt_le : earlier.attemptCount ≤ later.attemptCount
  started_eq : earlier.startedAt.isSome → later.startedAt = earlier.startedAt
  references : earlier.resultReferences ⊆ later.resultReferences
  /-- The approval stays in sight, and changes at most once: when it is decided. -/
  approval : ∀ shown, earlier.approval = some shown → ∃ row, later.approval = some row ∧
    row.approvalId = shown.approvalId ∧ (row.status = shown.status ∨
      shown.status = .pending ∧ row.status.isFinal = true)

namespace Poll

variable {services : Services} (sha256 : ByteArray → String) (floatText : PyFloat → List Char)

/-- What `get_read_for_tenant` returns. -/
def read (poll : Poll services) (jobId tenantId : Uuid) :
    Except AppError (Option PersistedJobRead) :=
  readStatements jobId tenantId poll.first.db poll.second.db poll.third.db

/-- `get_job`; `none` is the 404. -/
def response (poll : Poll services) (jobId tenantId : Uuid) :
    Except AppError (Option JobReadResponse) :=
  (poll.read jobId tenantId).map fun found => found.map (projectJobRead sha256 floatText)

variable (poll later : Poll services) {jobId tenantId : Uuid}

theorem second_reachable : (systemMachine services).Reachable poll.second :=
  poll.second_later.reachable poll.reachable

theorem third_reachable : (systemMachine services).Reachable poll.third :=
  poll.third_later.reachable poll.second_reachable

variable {poll later sha256 floatText}

/-- A read that begins in a later state than one that shows a settled job reads the same. -/
theorem read_settled (hlater : (systemMachine services).Later poll.first later.first)
    {read : PersistedJobRead} (h : poll.read jobId tenantId = .ok (some read))
    (hterminal : read.status.isTerminal = true) :
    later.read jobId tenantId = .ok (some read) := by
  obtain ⟨job, hfound, hlength, hdicts, rfl⟩ := readStatements_eq_some h
  have hjob := List.mem_of_find?_eq_some hfound
  have hids : job.id = jobId ∧ job.tenantId = tenantId := by simpa using List.find?_some hfound
  obtain ⟨rfl, rfl⟩ := hids
  -- what every later state has of the job
  have hrows : ∀ {state : SystemState}, (systemMachine services).Later poll.first state →
      job ∈ state.db.jobs ∧ SameJobRows job.id poll.first.db state.db := fun hstate =>
    settledStays_later hstate poll.reachable job hjob hterminal
  obtain ⟨hmem, hfirst⟩ := hrows hlater
  have hsecond := (hrows (hlater.trans later.second_later)).2
  have hthird := (hrows ((hlater.trans later.second_later).trans later.third_later)).2
  have hpollSecond := (hrows poll.second_later).2
  have hpollThird := (hrows (poll.second_later.trans poll.third_later)).2
  have hlaterFound : later.first.db.job? job.id job.tenantId = some job :=
    (systemInvariant_of_reachable later.reachable).lifecycle.job?_eq hmem
  have hread := fun second third => readStatements_of_job second third hlaterFound
    (by rw [hfirst.publicApprovals_eq]; exact hlength) hdicts
  rw [Poll.read, hread, hfirst.publicApprovals_eq, hsecond.caseReferences_eq,
    hthird.artifactReferences_eq, hpollSecond.caseReferences_eq, hpollThird.artifactReferences_eq]
  rfl

/-- The row of a later read, with the public approval of the job. -/
theorem read_progress (hlater : (systemMachine services).Later poll.third later.first)
    {read : PersistedJobRead} (h : poll.read jobId tenantId = .ok (some read)) :
    ∃ next, later.read jobId tenantId = .ok (some next) ∧
      ResponseAfter (projectJobRead sha256 floatText read)
        (projectJobRead sha256 floatText next) := by
  obtain ⟨job, hfound, hlength, hdicts, rfl⟩ := readStatements_eq_some h
  have hjob := List.mem_of_find?_eq_some hfound
  have hids : job.id = jobId ∧ job.tenantId = tenantId := by simpa using List.find?_some hfound
  obtain ⟨rfl, rfl⟩ := hids
  have hfirst : Progress poll.first later.first :=
    progress_later ((poll.second_later.trans poll.third_later).trans hlater) poll.reachable
  have hinvariant := systemInvariant_of_reachable later.reachable
  obtain ⟨row, hrow, hgoes⟩ := hfirst.jobs job hjob
  have hcolumns := hgoes.submission_eq
  simp only [AgentJob.submission, Prod.mk.injEq] at hcolumns
  obtain ⟨hid, htenant, htrace, hsource, hconfig, hsha, -, hcreated⟩ := hcolumns
  have hlaterFound : later.first.db.job? job.id job.tenantId = some row := by
    rw [← hid, ← htenant]
    exact hinvariant.lifecycle.job?_eq hrow
  have hread := readStatements_of_job later.second.db later.third.db hlaterFound
    (publicApprovals_length hinvariant.lifecycle row) (by rw [hsource, hconfig]; exact hdicts)
  refine ⟨_, hread, hid, htrace, hcreated, ?_, hgoes.attempt_le, hgoes.started_eq, ?_, ?_⟩
  · simp only [projectJobRead, readProfile, persistedRow, hconfig, hsha]
  · -- references that were there stay there
    have hcase : caseReferences job.id job.tenantId poll.second.db ⊆
        caseReferences job.id job.tenantId later.second.db :=
      caseReferences_subset (progress_later ((poll.third_later.trans hlater).trans
        later.second_later) poll.second_reachable)
        (businessInvariant_of_reachable later.second_reachable) _ _
    have hartifacts : artifactReferences job.id job.tenantId poll.third.db ⊆
        artifactReferences job.id job.tenantId later.third.db :=
      artifactReferences_subset (progress_later ((hlater.trans later.second_later).trans
        later.third_later) poll.third_reachable) _ _
    exact List.append_subset.2 ⟨List.subset_append_of_subset_left _ hcase,
      List.subset_append_of_subset_right _ hartifacts⟩
  · intro shown hshown
    simp only [projectJobRead, projectApproval, persistedRow] at hshown ⊢
    cases hrows : publicApprovals job poll.first.db with
    | nil =>
        rw [hrows] at hshown
        cases hshown
    | cons approval rest =>
        obtain ⟨happroval, hkey⟩ := List.mem_filter.1
          (hrows ▸ List.mem_cons_self : approval ∈ publicApprovals job poll.first.db)
        simp only [decide_eq_true_eq] at hkey
        obtain ⟨hthis, -, hpublic⟩ := hkey
        obtain ⟨changed, hchanged, hevolves⟩ := hfirst.rows.approvals approval happroval
        obtain ⟨hstill, hstatus⟩ := hevolves.isPublic hpublic
        have hchangedJob : changed.jobId = some row.id := by
          rw [hevolves.job_eq, hthis, hid]
        have hcoupled := (hinvariant.lifecycle.coupled_of_job hchanged hrow hchangedJob).2
        have hmatches := ((systemInvariant_of_reachable poll.reachable).lifecycle.coupled_of_job
          happroval hjob hthis).2.stateMatches hpublic
        simp only [hrows, List.head?_cons, Option.map_some, hmatches, if_true,
          Option.some.injEq] at hshown
        rw [hinvariant.lifecycle.publicApprovals_eq hrow hchanged hchangedJob hstill]
        simp only [List.head?_cons, Option.map_some, hcoupled.stateMatches hstill, if_true]
        refine ⟨_, rfl, ?_, ?_⟩
        · rw [← hshown]
          exact hevolves.id_eq
        · rw [← hshown]
          exact hstatus

end Poll

/-- Once a poll shows a terminal status, every poll that begins later gives the same
response, however the three statements of each interleave with the rest. -/
theorem polls_agree_once_settled {services : Services} (sha256 : ByteArray → String)
    (floatText : PyFloat → List Char) {poll later : Poll services}
    (hlater : (systemMachine services).Later poll.first later.first) {jobId tenantId : Uuid}
    {response : JobReadResponse}
    (h : poll.response sha256 floatText jobId tenantId = .ok (some response))
    (hterminal : response.status.isTerminal = true) :
    later.response sha256 floatText jobId tenantId = .ok (some response) := by
  unfold Poll.response at h ⊢
  cases hread : poll.read jobId tenantId with
  | error error =>
      rw [hread] at h
      cases h
  | ok found =>
      rw [hread] at h
      cases found with
      | none => cases h
      | some read =>
          cases h
          rw [Poll.read_settled hlater hread hterminal]
          rfl

/-- A poll that begins when an earlier one has ended takes nothing back of what that
one has shown: it finds the job, of the same scenario, with no fewer attempts, all
the references and the same approval, which at most has been decided. -/
theorem polls_progress {services : Services} (sha256 : ByteArray → String)
    (floatText : PyFloat → List Char) {poll later : Poll services}
    (hlater : (systemMachine services).Later poll.third later.first) {jobId tenantId : Uuid}
    {response : JobReadResponse}
    (h : poll.response sha256 floatText jobId tenantId = .ok (some response)) :
    ∃ next, later.response sha256 floatText jobId tenantId = .ok (some next) ∧
      ResponseAfter response next := by
  unfold Poll.response at h ⊢
  cases hread : poll.read jobId tenantId with
  | error error =>
      rw [hread] at h
      cases h
  | ok found =>
      rw [hread] at h
      cases found with
      | none => cases h
      | some read =>
          cases h
          obtain ⟨next, hnext, hafter⟩ := Poll.read_progress hlater hread
          refine ⟨projectJobRead sha256 floatText next, ?_, hafter⟩
          rw [hnext]
          rfl

/-! ## A job that is flagged -/

/-- A poll during which nothing is committed. -/
def Poll.still {services : Services} {state : SystemState}
    (h : (systemMachine services).Reachable state) : Poll services :=
  ⟨state, state, state, h, .refl _ state, .refl _ state⟩

def polledSteps : List SystemStep :=
  [.enqueue exampleNewJob, .claim 0 0 60 []]

/-- A tool call flags the job for review. -/
def flaggingSteps : List SystemStep :=
  [.portBegin 0 0 (.flagForReview 5 "unclear"), .portOpen 0, .portInsert 0, .portFence 0,
    .portCommit 0 12]

/-- The job succeeds. -/
def settlingSteps : List SystemStep :=
  [.runEnds 0 (.completed (.obj [])), .write 0 13 20]

/-- The state in which some steps end. -/
def stepsEnd (steps : List SystemStep) : SystemState :=
  ((systemMachine noServices).run idleSystem steps).getD idleSystem

theorem stepsEnd_reachable (steps : List SystemStep)
    (hrun : (systemMachine noServices).run idleSystem steps = some (stepsEnd steps)) :
    (systemMachine noServices).Reachable (stepsEnd steps) :=
  Machine.Reachable.run (.initial (idleSystem_initial noServices)) steps hrun

/-- A poll whose first statement runs while the job is claimed, and whose others run
when a tool has flagged it. -/
def tornPoll : Poll noServices where
  first := stepsEnd polledSteps
  second := stepsEnd (polledSteps ++ flaggingSteps)
  third := stepsEnd (polledSteps ++ flaggingSteps)
  reachable := stepsEnd_reachable _ rfl
  second_later := .of_run flaggingSteps rfl
  third_later := .refl _ _

def anotherJobSteps : List SystemStep :=
  [.enqueue { exampleNewJob with id := 8, traceId := 9, key := "other" }]

/-- A poll of the job when it has succeeded. -/
def settledPoll : Poll noServices :=
  .still (stepsEnd_reachable (polledSteps ++ flaggingSteps ++ settlingSteps) rfl)

theorem polls_progress_flagged : ∃ response next,
    tornPoll.response (fun _ => "") (fun _ => []) 1 7 = .ok (some response) ∧
      response.status = .running ∧ response.resultReferences = [⟨.reviewFlag, 5⟩] ∧
      settledPoll.response (fun _ => "") (fun _ => []) 1 7 = .ok (some next) ∧
      ResponseAfter response next := by
  have hlater : (systemMachine noServices).Later tornPoll.third settledPoll.first :=
    .of_run settlingSteps rfl
  obtain ⟨response, htorn, hrunning, hflag⟩ : ∃ response,
      tornPoll.response (fun _ => "") (fun _ => []) 1 7 = .ok (some response) ∧
        response.status = .running ∧ response.resultReferences = [⟨.reviewFlag, 5⟩] :=
    ⟨_, rfl, rfl, rfl⟩
  obtain ⟨next, hnext, hafter⟩ := polls_progress (fun _ => "") (fun _ => []) hlater htorn
  exact ⟨response, next, htorn, hrunning, hflag, hnext, hafter⟩

theorem polls_agree_once_settled_flagged : ∃ later : Poll noServices, ∃ response,
    later.first.db.jobs.length = 2 ∧
      settledPoll.response (fun _ => "") (fun _ => []) 1 7 = .ok (some response) ∧
      response.status = .succeeded ∧
      later.response (fun _ => "") (fun _ => []) 1 7 = .ok (some response) := by
  have hlater : (systemMachine noServices).Later settledPoll.first
      (stepsEnd (polledSteps ++ flaggingSteps ++ settlingSteps ++ anotherJobSteps)) :=
    .of_run anotherJobSteps rfl
  obtain ⟨response, hsettled, hsucceeded⟩ : ∃ response,
      settledPoll.response (fun _ => "") (fun _ => []) 1 7 = .ok (some response) ∧
        response.status = .succeeded := ⟨_, rfl, rfl⟩
  have hterminal : response.status.isTerminal = true := by
    rw [hsucceeded]
    rfl
  let later : Poll noServices := .still (hlater.reachable settledPoll.reachable)
  exact ⟨later, response, rfl, hsettled, hsucceeded,
    polls_agree_once_settled (fun _ => "") (fun _ => []) hlater hsettled hterminal⟩

end IntegraIntake
