import IntegraIntake.System.Unique

/-!
# Runs that create cases and artifacts

The invariant of the business rows holds in every reachable state.  From it: a
job gets one case and one artifact of each kind, whoever creates them.
-/

namespace IntegraIntake

open Library JobRepository

section Step

variable {services : Services} {state next : SystemState} {label : SystemStep} {db : Db}

/-! ## Records -/

theorem BusinessStep.records_unique (h : BusinessInvariant state)
    (hstep : BusinessStep state label db) :
    Table.Unique IdempotencyRecord.uniqueKey db.idempotency := by
  cases hstep with
  | same htables | newArtifact _ _ _ _ htables | caseFields _ _ _ _ htables =>
      simp only [businessTables, Prod.mk.injEq] at htables
      exact htables.2.2.2 ▸ h.records_unique
  | enqueued _ hkey _ _ htables =>
      simp only [businessTables, Prod.mk.injEq] at htables
      exact htables.2.2.2 ▸ h.records_unique.append hkey
  | newCase _ _ _ _ _ _ _ _ _ htables =>
      simp only [businessTables, Prod.mk.injEq] at htables
      exact htables.2.2.2 ▸ h.records_unique.replace

theorem BusinessStep.one_record (h : BusinessInvariant state)
    (hstep : BusinessStep state label db) :
    Table.Unique IdempotencyRecord.jobId db.idempotency := by
  cases hstep with
  | same htables | newArtifact _ _ _ _ htables | caseFields _ _ _ _ htables =>
      simp only [businessTables, Prod.mk.injEq] at htables
      exact htables.2.2.2 ▸ h.one_record
  | enqueued _ _ hfresh _ htables =>
      simp only [businessTables, Prod.mk.injEq] at htables
      refine htables.2.2.2 ▸ h.one_record.append fun old hold hsame => ?_
      obtain ⟨job, hjob, hthis, -⟩ := h.record_job old hold
      exact hfresh job hjob (hsame.symm.trans hthis)
  | @newCase record case _ _ hmem _ _ _ _ _ _ _ htables =>
      simp only [businessTables, Prod.mk.injEq] at htables
      rw [htables.2.2.2, Table.Unique, Table.map_replace IdempotencyRecord.jobId]
      · exact h.one_record
      · intro old hold hkey
        rw [h.records_unique.eq hold hmem hkey]
        rfl

/-- The records after a step: the old ones, a new one without a case, or the one
that has just been linked. -/
theorem BusinessStep.mem_records (hstep : BusinessStep state label db) {record : IdempotencyRecord}
    (hrecord : record ∈ db.idempotency) :
    record ∈ state.db.idempotency ∨
      (record.caseId = none ∧ ∃ job ∈ db.jobs, record.jobId = some job.id ∧
        record.tenantId = job.tenantId) ∨
      ∃ old ∈ state.db.idempotency, ∃ case ∈ db.cases, ∃ jobId, record = old.linked case.id ∧
        case.tenantId = old.tenantId ∧ old.jobId = some jobId ∧ Marked db old.tenantId jobId ∧
        (∀ existing ∈ state.db.cases, existing.id ≠ case.id) ∧
        db.caseEvents = state.db.caseEvents ++ [createdEvent case.tenantId case.id] := by
  cases hstep with
  | same htables | newArtifact _ _ _ _ htables | caseFields _ _ _ _ htables =>
      simp only [businessTables, Prod.mk.injEq] at htables
      exact .inl (htables.2.2.2 ▸ hrecord)
  | enqueued hunlinked _ _ hjob htables =>
      simp only [businessTables, Prod.mk.injEq] at htables
      rw [htables.2.2.2] at hrecord
      rcases List.mem_append.1 hrecord with hold | hnew
      · exact .inl hold
      · rw [List.mem_singleton.1 hnew]
        exact .inr (.inl ⟨hunlinked, hjob⟩)
  | @newCase old case jobId _ hold hjob _ htenant hfresh _ _ hmarked htables =>
      simp only [businessTables, Prod.mk.injEq] at htables
      rw [htables.2.2.2] at hrecord
      rcases Table.mem_of_mem_replace hrecord with rfl | ⟨hkept, -⟩
      · exact .inr (.inr ⟨old, hold, case, by rw [htables.1]; simp, jobId, rfl, htenant, hjob,
          hmarked, hfresh, htables.2.1⟩)
      · exact .inl hkept

/-! ## Cases and their events -/

theorem BusinessStep.cases_unique (h : BusinessInvariant state)
    (hstep : BusinessStep state label db) : Table.Unique IntakeCase.id db.cases := by
  cases hstep with
  | same htables | enqueued _ _ _ _ htables | newArtifact _ _ _ _ htables =>
      simp only [businessTables, Prod.mk.injEq] at htables
      exact htables.1 ▸ h.cases_unique
  | newCase _ _ _ _ _ hfresh _ _ _ htables =>
      simp only [businessTables, Prod.mk.injEq] at htables
      exact htables.1 ▸ h.cases_unique.append hfresh
  | caseFields _ _ _ _ htables =>
      simp only [businessTables, Prod.mk.injEq] at htables
      exact htables.1 ▸ h.cases_unique.replace

theorem BusinessStep.event_case (h : BusinessInvariant state)
    (hstep : BusinessStep state label db) :
    ∀ event ∈ db.caseEvents, ∃ case ∈ db.cases, case.id = event.caseId := by
  have hold : ∀ event ∈ state.db.caseEvents, ∃ case ∈ db.cases, case.id = event.caseId := by
    intro event hevent
    obtain ⟨case, hcase, hid⟩ := h.event_case event hevent
    obtain ⟨row, hrow, hrowId, -⟩ := hstep.case_kept h hcase
    exact ⟨row, hrow, hrowId.trans hid⟩
  intro event hevent
  cases hstep with
  | same htables | enqueued _ _ _ _ htables | newArtifact _ _ _ _ htables =>
      simp only [businessTables, Prod.mk.injEq] at htables
      exact hold event (htables.2.1 ▸ hevent)
  | @newCase _ case _ _ _ _ _ _ _ _ _ _ htables =>
      simp only [businessTables, Prod.mk.injEq] at htables
      rw [htables.2.1] at hevent
      rcases List.mem_append.1 hevent with hevent | hnew
      · exact hold event hevent
      · rw [List.mem_singleton.1 hnew]
        exact ⟨case, by rw [htables.1]; simp, rfl⟩
  | @caseFields case old fields _ hmem hid _ htables =>
      simp only [businessTables, Prod.mk.injEq] at htables
      rw [htables.2.1] at hevent
      rcases List.mem_append.1 hevent with hevent | hnew
      · exact hold event hevent
      · rw [List.mem_singleton.1 hnew]
        refine ⟨mergedCase fields case, ?_, rfl⟩
        rw [htables.1]
        exact Table.mem_replace_self ⟨old, hmem, hid⟩

theorem createdEvents_append {before : Db} {event : CaseEvent} (caseId : Uuid)
    (h : db.caseEvents = before.caseEvents ++ [event]) :
    createdEvents db caseId = createdEvents before caseId +
      if event.caseId = caseId ∧ event.eventType = .created then 1 else 0 := by
  rw [createdEvents, h, List.countP_append, createdEvents, List.countP_singleton]
  simp

/-- A case that is there gets no further `created` event. -/
theorem BusinessStep.createdEvents_eq (hstep : BusinessStep state label db) {caseId : Uuid}
    (hcase : ∃ case ∈ state.db.cases, case.id = caseId) :
    createdEvents db caseId = createdEvents state.db caseId := by
  cases hstep with
  | same htables | enqueued _ _ _ _ htables | newArtifact _ _ _ _ htables =>
      simp only [businessTables, Prod.mk.injEq] at htables
      rw [createdEvents, htables.2.1, createdEvents]
  | newCase _ _ _ _ _ hfresh _ _ _ htables =>
      simp only [businessTables, Prod.mk.injEq] at htables
      obtain ⟨existing, hexisting, rfl⟩ := hcase
      rw [createdEvents_append _ htables.2.1, if_neg, Nat.add_zero]
      exact fun hsame => hfresh existing hexisting hsame.1.symm
  | caseFields _ _ _ _ htables =>
      simp only [businessTables, Prod.mk.injEq] at htables
      rw [createdEvents_append _ htables.2.1, if_neg, Nat.add_zero]
      simp [fieldsUpdatedEvent]

/-- A case that is not there yet has no events. -/
theorem BusinessInvariant.createdEvents_zero (h : BusinessInvariant state) {caseId : Uuid}
    (hfresh : ∀ case ∈ state.db.cases, case.id ≠ caseId) : createdEvents state.db caseId = 0 := by
  refine List.countP_eq_zero.2 fun event hevent => ?_
  obtain ⟨case, hcase, hid⟩ := h.event_case event hevent
  simp only [decide_eq_true_eq, not_and]
  exact fun hsame => absurd (hid.trans hsame) (hfresh case hcase)

/-! ## Artifacts -/

theorem BusinessStep.artifacts_unique (h : BusinessInvariant state)
    (hstep : BusinessStep state label db) : Table.Unique JobArtifact.key db.artifacts := by
  cases hstep with
  | same htables | enqueued _ _ _ _ htables | newCase _ _ _ _ _ _ _ _ _ htables
  | caseFields _ _ _ _ htables =>
      simp only [businessTables, Prod.mk.injEq] at htables
      exact htables.2.2.1 ▸ h.artifacts_unique
  | newArtifact _ hfresh _ _ htables =>
      simp only [businessTables, Prod.mk.injEq] at htables
      exact htables.2.2.1 ▸ h.artifacts_unique.append hfresh

theorem BusinessStep.mem_artifacts (hstep : BusinessStep state label db) {artifact : JobArtifact}
    (hartifact : artifact ∈ db.artifacts) :
    artifact ∈ state.db.artifacts ∨ Marked db artifact.tenantId artifact.jobId := by
  cases hstep with
  | same htables | enqueued _ _ _ _ htables | newCase _ _ _ _ _ _ _ _ _ htables
  | caseFields _ _ _ _ htables =>
      simp only [businessTables, Prod.mk.injEq] at htables
      exact .inl (htables.2.2.1 ▸ hartifact)
  | newArtifact _ _ _ hmarked htables =>
      simp only [businessTables, Prod.mk.injEq] at htables
      rw [htables.2.2.1] at hartifact
      rcases List.mem_append.1 hartifact with hold | hnew
      · exact .inl hold
      · rw [List.mem_singleton.1 hnew]
        exact .inr hmarked

/-! ## Ports -/

theorem WritesOk.of_db {port : ℕ} {attempt : Attempt} {writes : PortWrites}
    (hwrites : WritesOk state port attempt writes) (hdb : next.db = state.db)
    (hlocks : ∀ lock, state.locks lock = some port → next.locks lock = some port) :
    WritesOk next port attempt writes := by
  cases writes with
  | newCase record case =>
      obtain ⟨hrecord, hrecordLock, hcaseLock, hrest⟩ := hwrites
      exact ⟨hrecord, hlocks _ hrecordLock, hlocks _ hcaseLock, hdb ▸ hrest⟩
  | newArtifact artifact =>
      obtain ⟨hartifact, hlock, hrest⟩ := hwrites
      exact ⟨hartifact, hlocks _ hlock, hdb ▸ hrest⟩
  | existingArtifact reference =>
      have hresult : ResultOk state.db attempt (.reference reference) := hwrites
      exact (hdb ▸ hresult : ResultOk next.db attempt (.reference reference))
  | caseFields case fields =>
      obtain ⟨old, hold, hrest⟩ := hwrites
      exact ⟨old, hdb ▸ hold, hrest⟩

/-- The locks that a port takes are its own afterwards. -/
theorem take_mem {port : ℕ} {taken : List Lock} {lock : Lock} (h : lock ∈ taken) :
    (state.take port taken).locks lock = some port :=
  if_pos h

theorem BusinessInvariant.writes_step (h : SystemInvariant state)
    (hbusiness : BusinessInvariant state) (htaken : SystemTaken services state label next)
    {port : ℕ} {attempt : Attempt} {writes : PortWrites}
    (hwrites : (next.ports port).writes? = some (attempt, writes)) :
    WritesOk next port attempt writes := by
  by_cases hown : label.port? = some port
  · cases htaken with
    | @portOpen _ old mutation hstage hfree =>
        cases hown
        simp only [SystemState.take, SystemState.setPort, Function.update_self] at hwrites
        cases hopening : mutation.opening old state.db with
        | ends | inserts =>
            rw [hopening] at hwrites
            cases hwrites
        | writes value =>
            rw [hopening] at hwrites
            cases hwrites
            exact (opening_ok _ port rfl).1 writes hopening fun lock hlock => take_mem hlock
    | @portInsert _ old newId kind payload hstage hfree =>
        cases hown
        simp only [SystemState.take, SystemState.setPort, Function.update_self] at hwrites
        cases hopening : insertArtifact old newId kind payload state.db with
        | ends | inserts =>
            rw [hopening] at hwrites
            cases hwrites
        | writes value =>
            rw [hopening] at hwrites
            cases hwrites
            exact (insertArtifact_ok _ port rfl).1 writes hopening
              (take_mem (List.mem_singleton.2 rfl))
    | @portFence _ old oldWrites job hstage hfree hcancelled hjob =>
        cases hown
        simp only [SystemState.take, SystemState.setPort, Function.update_self] at hwrites
        cases hwrites
        refine (hbusiness.writes port attempt writes (by rw [hstage]; rfl)).of_db rfl ?_
        intro lock hlock
        refine take_locks (fun taken htaken => ?_) hlock port
        rw [List.mem_singleton.1 htaken, (fencedJob_owns hjob).id_eq]
        exact hfree
    | portBegin | portRefused | portCommit | portAbort =>
        cases hown
        simp [SystemState.release, SystemState.setPort, PortStage.writes?] at hwrites
    | _ => cases hown
  · have hold : (state.ports port).writes? = some (attempt, writes) :=
      htaken.port_frame hown ▸ hwrites
    have hattempt : (state.ports port).attempt? = some attempt := by
      cases hstage : state.ports port <;> rw [hstage] at hold <;> cases hold <;> rfl
    refine WritesOk.step hbusiness (htaken.business h hbusiness)
      (hbusiness.writes port attempt writes hold) hown
      (fun lock hlock => htaken.locks_frame hown hlock) fun row howns => ?_
    obtain ⟨job, hjob, -⟩ := (htaken.rows h).owns h.lifecycle.jobs_unique
      (h.ports_known port attempt hattempt) howns
    exact ⟨job, hjob⟩

/-- What a port returns when it commits is in the database. -/
theorem WritesOk.result {port : ℕ} {attempt : Attempt} {writes : PortWrites} {job : AgentJob}
    (hwrites : WritesOk state port attempt writes) (howns : attempt.Owns state.db job)
    (row : AgentJob) : ResultOk ((writes.apply state.db).setJob row) attempt writes.result := by
  cases writes with
  | newCase record case =>
      obtain ⟨⟨htenant, hjob, -, -⟩, -, -, -, hrecord⟩ := hwrites
      exact ⟨record.linked case.id, Table.mem_replace_self
        ⟨record, hrecord job howns, rfl⟩, htenant,
        hjob, rfl⟩
  | newArtifact artifact =>
      obtain ⟨⟨htenant, hjob⟩, -, -⟩ := hwrites
      exact ⟨artifact, List.mem_append_right _ (List.mem_singleton.2 rfl), htenant, hjob, rfl, rfl⟩
  | existingArtifact reference => exact hwrites
  | caseFields case fields => trivial

theorem BusinessInvariant.results_step (h : SystemInvariant state)
    (hbusiness : BusinessInvariant state) (htaken : SystemTaken services state label next)
    {port : ℕ} {attempt : Attempt} {result : PortResult}
    (hreturned : next.ports port = .returned attempt (.ok result)) :
    ResultOk next.db attempt result := by
  by_cases hown : label.port? = some port
  · cases htaken with
    | @portOpen _ old mutation hstage hfree =>
        cases hown
        simp only [SystemState.take, SystemState.setPort, Function.update_self] at hreturned
        cases hopening : mutation.opening old state.db with
        | writes | inserts =>
            rw [hopening] at hreturned
            cases hreturned
        | ends outcome =>
            rw [hopening] at hreturned
            cases hreturned
            exact (opening_ok _ port rfl).2 result hopening
    | @portInsert _ old newId kind payload hstage hfree =>
        cases hown
        simp only [SystemState.take, SystemState.setPort, Function.update_self] at hreturned
        cases hopening : insertArtifact old newId kind payload state.db with
        | writes | inserts =>
            rw [hopening] at hreturned
            cases hreturned
        | ends outcome =>
            rw [hopening] at hreturned
            cases hreturned
            exact absurd hopening ((insertArtifact_ok state port rfl).2 result)
    | @portCommit _ now old writes job hstage =>
        cases hown
        simp only [SystemState.release, SystemState.setPort, Function.update_self] at hreturned
        cases hreturned
        exact (hbusiness.writes port attempt writes (by rw [hstage]; rfl)).result
          (h.fenced port attempt writes job hstage).1 (markedRow now job)
    | portBegin | portRefused | portFence | portAbort =>
        cases hown
        simp [SystemState.take, SystemState.release, SystemState.setPort] at hreturned
    | _ => cases hown
  · rw [htaken.port_frame hown] at hreturned
    exact (htaken.business h hbusiness).result_kept hbusiness
      (hbusiness.results port attempt result hreturned)

/-! ## The run -/

theorem BusinessInvariant.step (h : SystemInvariant state) (hbusiness : BusinessInvariant state)
    (htaken : SystemTaken services state label next) : BusinessInvariant next := by
  have hrows := htaken.rows h
  have hstep := htaken.business h hbusiness
  have hrecordJob : ∀ record ∈ state.db.idempotency, ∃ job ∈ next.db.jobs,
      record.jobId = some job.id ∧ record.tenantId = job.tenantId := by
    intro record hrecord
    obtain ⟨job, hjob, hid, htenant⟩ := hbusiness.record_job record hrecord
    obtain ⟨row, hrow, hrowStep⟩ := hrows.rows job hjob
    exact ⟨row, hrow, by rw [hid, hrowStep.id_eq], by rw [htenant, hrowStep.tenant_eq]⟩
  refine ⟨hstep.records_unique hbusiness, hstep.one_record hbusiness, ?_,
    hstep.cases_unique hbusiness, hstep.event_case hbusiness, ?_, hstep.artifacts_unique hbusiness,
    ?_, fun port attempt writes => hbusiness.writes_step h htaken,
    fun port attempt result => hbusiness.results_step h htaken⟩
  · intro record hrecord
    rcases hstep.mem_records hrecord with hold | ⟨-, hjob⟩ | ⟨old, hold, case, -, _, rfl, -⟩
    · exact hrecordJob record hold
    · exact hjob
    · exact hrecordJob old hold
  · intro record hrecord caseId hlinked
    rcases hstep.mem_records hrecord with hold | ⟨hnone, -⟩ |
      ⟨old, hold, case, hcase, jobId, rfl, htenant, hjob, hmarked, hfresh, hevents⟩
    · obtain ⟨⟨case, hcase, hid, hcaseTenant⟩, hcreated, jobId, hjob, hmarked⟩ :=
        hbusiness.linked record hold caseId hlinked
      obtain ⟨row, hrow, hrowId, hrowTenant⟩ := hstep.case_kept hbusiness hcase
      exact ⟨⟨row, hrow, hrowId.trans hid, hrowTenant.trans hcaseTenant⟩,
        (hstep.createdEvents_eq ⟨case, hcase, hid⟩).trans hcreated, jobId, hjob,
        hrows.marked hmarked⟩
    · rw [hnone] at hlinked
      cases hlinked
    · cases hlinked
      refine ⟨⟨case, hcase, rfl, htenant⟩, ?_, jobId, hjob, hmarked⟩
      rw [createdEvents_append _ hevents, hbusiness.createdEvents_zero hfresh]
      simp [createdEvent]
  · intro artifact hartifact
    rcases hstep.mem_artifacts hartifact with hold | hmarked
    · exact hrows.marked (hbusiness.artifact_marked artifact hold)
    · exact hmarked

theorem businessInvariant_of_reachable (h : (systemMachine services).Reachable state) :
    BusinessInvariant state := by
  refine h.invariant ?_ ?_
  · rintro state ⟨-, -, hrecords, hartifacts, hcases, hevents, -, hports, -⟩
    refine ⟨?_, ?_, ?_, hcases, hevents, ?_, ?_, ?_, ?_, ?_⟩
    · simp [hrecords, Table.Unique]
    · simp [hrecords, Table.Unique]
    · simp [hrecords]
    · simp [hrecords]
    · simp [hartifacts, Table.Unique]
    · simp [hartifacts]
    · simp [hports, PortStage.writes?]
    · simp [hports]
  · intro state label next hreach hstate hstep
    exact hstate.step (systemInvariant_of_reachable hreach) (systemTaken_of_step hstep)

/-! ## Creations -/

/-- A step in which a case appears that was created for a job. -/
def CreatesCase (jobId : Uuid) (transition : SystemState × SystemStep × SystemState) : Prop :=
  transition.2.1.actingJob? transition.1 = some jobId ∧
    ∃ case ∈ transition.2.2.db.cases, ∀ old ∈ transition.1.db.cases, old.id ≠ case.id

/-- A case that appears in a step was created for an unlinked job, which it is
linked with, and has come with its `created` event. -/
theorem BusinessStep.created (hstep : BusinessStep state label db) {case : IntakeCase}
    (hcase : case ∈ db.cases) (hfresh : ∀ old ∈ state.db.cases, old.id ≠ case.id) :
    ∃ jobId, ∃ record ∈ state.db.idempotency, label.actingJob? state = some jobId ∧
      record.jobId = some jobId ∧ record.caseId = none ∧ record.linked case.id ∈ db.idempotency ∧
      db.cases = state.db.cases ++ [case] ∧
      db.caseEvents = state.db.caseEvents ++ [createdEvent case.tenantId case.id] := by
  cases hstep with
  | same htables | enqueued _ _ _ _ htables | newArtifact _ _ _ _ htables =>
      simp only [businessTables, Prod.mk.injEq] at htables
      exact absurd rfl (hfresh case (htables.1 ▸ hcase))
  | @newCase record added jobId hacting hmem hjob hunlinked _ _ _ _ _ htables =>
      simp only [businessTables, Prod.mk.injEq] at htables
      rw [htables.1] at hcase
      rcases List.mem_append.1 hcase with hold | hnew
      · exact absurd rfl (hfresh case hold)
      · obtain rfl := List.mem_singleton.1 hnew
        refine ⟨jobId, record, hmem, hacting, hjob, hunlinked, ?_, htables.1, htables.2.1⟩
        rw [htables.2.2.2]
        exact Table.mem_replace_self ⟨record, hmem, rfl⟩
  | @caseFields changed old _ _ hmem hid _ htables =>
      simp only [businessTables, Prod.mk.injEq] at htables
      rw [htables.1] at hcase
      rcases Table.mem_of_mem_replace hcase with rfl | ⟨hold, -⟩
      · exact absurd hid (hfresh old hmem)
      · exact absurd rfl (hfresh case hold)

open Classical in
theorem countP_createsCase (jobId : Uuid)
    {transitions : List (SystemState × SystemStep × SystemState)} {final : SystemState}
    (hpath : (systemMachine services).Path state transitions final)
    (hreachable : (systemMachine services).Reachable state) :
    transitions.countP (fun t => decide (CreatesCase jobId t)) ≤ 1 := by
  refine hpath.countP_le_one
    (P := fun s => ∃ record ∈ s.db.idempotency, record.jobId = some jobId ∧ record.caseId = none)
    (Q := fun s => ∃ record ∈ s.db.idempotency, record.jobId = some jobId ∧
      record.caseId.isSome) ?_ ?_ ?_ hreachable
  · rintro state label next hreach hstep ⟨hthis, case, hcase, hfresh⟩
    obtain ⟨_, record, hmem, hacting, hjob, hunlinked, hlinked, -⟩ :=
      ((systemTaken_of_step hstep).business (systemInvariant_of_reachable hreach)
        (businessInvariant_of_reachable hreach)).created hcase hfresh
    cases hthis.symm.trans hacting
    exact ⟨⟨record, hmem, hjob, hunlinked⟩, record.linked case.id, hlinked, hjob, rfl⟩
  · rintro state label next hreach ⟨record, hrecord, hjob, hlinked⟩ hstep
    have hbusiness := businessInvariant_of_reachable hreach
    exact ⟨record, ((systemTaken_of_step hstep).business (systemInvariant_of_reachable hreach)
      hbusiness).link_kept hbusiness hrecord hlinked, hjob, hlinked⟩
  · rintro state hreach ⟨record, hrecord, hjob, hunlinked⟩ ⟨other, hother, hotherJob, hlinked⟩
    rw [(businessInvariant_of_reachable hreach).one_record.eq hother hrecord
      (hotherJob.trans hjob.symm), hunlinked] at hlinked
    cases hlinked

/-- Only an update changes the row of a case. -/
theorem BusinessStep.case_same (hstep : BusinessStep state label db)
    (hupdates : ¬ label.UpdatesCase state) {case : IntakeCase} (hcase : case ∈ state.db.cases) :
    case ∈ db.cases := by
  cases hstep with
  | same htables | enqueued _ _ _ _ htables | newArtifact _ _ _ _ htables =>
      simp only [businessTables, Prod.mk.injEq] at htables
      exact htables.1 ▸ hcase
  | newCase _ _ _ _ _ _ _ _ _ htables =>
      simp only [businessTables, Prod.mk.injEq] at htables
      rw [htables.1]
      exact List.mem_append_left _ hcase
  | caseFields hthis => exact absurd hthis hupdates

/-! ## Repeated creates -/

theorem BusinessInvariant.idempotencyOf?_eq (h : BusinessInvariant state)
    {record : IdempotencyRecord} (hrecord : record ∈ state.db.idempotency) {jobId tenantId : Uuid}
    (hjob : record.jobId = some jobId) (htenant : record.tenantId = tenantId) :
    state.db.idempotencyOf? jobId tenantId = some record := by
  refine h.one_record.find?_eq hrecord (by simp [hjob, htenant]) fun other hother => ?_
  simp only [decide_eq_true_eq] at hother
  rw [hother.2, hjob]

/-- The case of a linked record is found. -/
theorem BusinessInvariant.case?_linked (h : BusinessInvariant state) {record : IdempotencyRecord}
    (hrecord : record ∈ state.db.idempotency) {caseId : Uuid}
    (hlinked : record.caseId = some caseId) :
    ∃ case ∈ state.db.cases, case.id = caseId ∧
      state.db.case? caseId record.tenantId = some case := by
  obtain ⟨⟨case, hcase, hid, htenant⟩, -⟩ := h.linked record hrecord caseId hlinked
  refine ⟨case, hcase, hid, h.cases_unique.find?_eq hcase (by simp [hid, htenant]) ?_⟩
  intro other hother
  simp only [decide_eq_true_eq] at hother
  rw [hother.1, hid]

theorem BusinessInvariant.artifact?_eq (h : BusinessInvariant state) {existing : JobArtifact}
    (hexisting : existing ∈ state.db.artifacts) {tenantId jobId : Uuid} {kind : ArtifactKind}
    (hkey : existing.key = (tenantId, jobId, kind)) :
    state.db.artifact? tenantId jobId kind = some existing := by
  rw [Db.artifact?, ← hkey]
  exact h.artifacts_unique.lookup_eq hexisting

/-- `create_case` of the port on a job that has its case. -/
theorem BusinessInvariant.opening_linked (h : BusinessInvariant state) {record : IdempotencyRecord}
    (hrecord : record ∈ state.db.idempotency) {caseId : Uuid}
    (hlinked : record.caseId = some caseId)
    {attempt : Attempt} (hjob : record.jobId = some attempt.jobId)
    (htenant : record.tenantId = attempt.tenantId) (newId : Uuid) (source : TrustedSource)
    (customerId : Option Uuid) (fields : List (String × Json)) :
    ∃ case ∈ state.db.cases, case.id = caseId ∧
      (PortMutation.createCase newId source customerId fields).opening attempt state.db =
        .ends (.ok (.createdCase caseId case.status
          (sortedSet (dictKeys case.extractedFields)))) := by
  obtain ⟨case, hcase, rfl, hfound⟩ := h.case?_linked hrecord hlinked
  refine ⟨case, hcase, rfl, ?_⟩
  rw [htenant] at hfound
  simp only [PortMutation.opening, h.idempotencyOf?_eq hrecord hjob htenant,
    openCreateCase, hlinked,
    hfound]

/-- `_create_case` of the executor on a job that has its case. -/
theorem BusinessInvariant.createCase_linked (h : BusinessInvariant state)
    {record : IdempotencyRecord} (hrecord : record ∈ state.db.idempotency) {caseId : Uuid}
    (hlinked : record.caseId = some caseId) {approval : Approval} {job : AgentJob}
    (hjob : record.jobId = some job.id) (htenant : record.tenantId = approval.tenantId)
    (newId : Uuid) (action : PendingAction) (values : CreateCaseArgs) :
    ∃ case ∈ state.db.cases, case.id = caseId ∧
      ApprovalExecutor.createCase services newId approval job action values state.db =
        (.ok ⟨some caseId, ApprovalExecutor.caseResult caseId case.status
          (dictKeys case.extractedFields)⟩, state.db) := by
  obtain ⟨case, hcase, rfl, hfound⟩ := h.case?_linked hrecord hlinked
  refine ⟨case, hcase, rfl, ?_⟩
  rw [htenant] at hfound
  simp only [ApprovalExecutor.createCase, Session.read_bind_run,
    h.idempotencyOf?_eq hrecord hjob htenant, hlinked, hfound, Session.pure_run]

end Step

/-! ## One case, one artifact of a kind -/

open Classical in
/-- What every run with any number of attempts, calls, orphaned transactions and
approval executions guarantees. -/
structure OnePerJob (services : Services) : Prop where
  one_case : ∀ jobId state transitions final, (systemMachine services).Reachable state →
    (systemMachine services).Path state transitions final →
    transitions.countP (fun t => decide (CreatesCase jobId t)) ≤ 1
  /-- Every case that appears is the first one of a job, comes alone, is linked
  with the job and has its `created` event. -/
  created : ∀ state label next, (systemMachine services).Reachable state →
    (systemMachine services).step state label = some next →
    ∀ case ∈ next.db.cases, (∀ old ∈ state.db.cases, old.id ≠ case.id) →
    ∃ jobId, ∃ record ∈ next.db.idempotency, CreatesCase jobId (state, label, next) ∧
      record.jobId = some jobId ∧ record.caseId = some case.id ∧
      next.db.cases = state.db.cases ++ [case] ∧
      next.db.caseEvents = state.db.caseEvents ++ [createdEvent case.tenantId case.id]
  one_created_event : ∀ state, (systemMachine services).Reachable state →
    ∀ record ∈ state.db.idempotency, ∀ caseId, record.caseId = some caseId →
      (∃ case ∈ state.db.cases, case.id = caseId) ∧ createdEvents state.db caseId = 1
  one_artifact : ∀ state, (systemMachine services).Reachable state →
    Table.Unique JobArtifact.key state.db.artifacts
  case_marked : ∀ state, (systemMachine services).Reachable state →
    ∀ record ∈ state.db.idempotency, record.caseId.isSome → ∃ job ∈ state.db.jobs,
      record.jobId = some job.id ∧ job.sideEffectCommittedAt.isSome
  artifact_marked : ∀ state, (systemMachine services).Reachable state →
    ∀ artifact ∈ state.db.artifacts, ∃ job ∈ state.db.jobs,
      job.id = artifact.jobId ∧ job.sideEffectCommittedAt.isSome
  /-- Creates return the rows that are there. -/
  returned : ∀ state port attempt result, (systemMachine services).Reachable state →
    state.ports port = .returned attempt (.ok result) → ResultOk state.db attempt result
  repeated_port_case : ∀ state port attempt newId source customerId fields next,
    (systemMachine services).Reachable state →
    state.ports port = .started attempt (.createCase newId source customerId fields) →
    (systemMachine services).step state (.portOpen port) = some next →
    ∀ record ∈ state.db.idempotency, record.jobId = some attempt.jobId →
      record.tenantId = attempt.tenantId → ∀ caseId, record.caseId = some caseId →
      next.db = state.db ∧ ∃ status accepted,
        next.ports port = .returned attempt (.ok (.createdCase caseId status accepted))
  repeated_port_artifact : ∀ state port attempt newId kind payload next,
    (systemMachine services).Reachable state →
    state.ports port = .started attempt (.createArtifact newId kind payload) →
    (systemMachine services).step state (.portOpen port) = some next →
    ∀ existing ∈ state.db.artifacts, existing.key = (attempt.tenantId, attempt.jobId, kind) →
      next.ports port = .written attempt (.existingArtifact ⟨kind.resultKind, existing.id⟩)
  repeated_approved_case : ∀ state newId approval job action values,
    (systemMachine services).Reachable state → ∀ record ∈ state.db.idempotency,
      record.jobId = some job.id → record.tenantId = approval.tenantId →
      ∀ caseId, record.caseId = some caseId → ∃ result,
        ApprovalExecutor.createCase services newId approval job action values state.db =
          (.ok ⟨some caseId, result⟩, state.db)
  repeated_approved_artifact : ∀ state newId tenantId jobId kind payload,
    (systemMachine services).Reachable state →
    ∀ existing ∈ state.db.artifacts, existing.key = (tenantId, jobId, kind) →
      createForJob newId tenantId jobId kind payload state.db =
        (.ok ⟨kind.resultKind, existing.id⟩, state.db)
  /-- Links and artifacts never change, cases only by an update. -/
  kept : ∀ state label next, (systemMachine services).Reachable state →
    (systemMachine services).step state label = some next →
    (∀ record ∈ state.db.idempotency, record.caseId.isSome → record ∈ next.db.idempotency) ∧
    (∀ artifact ∈ state.db.artifacts, artifact ∈ next.db.artifacts) ∧
    (¬ label.UpdatesCase state → ∀ case ∈ state.db.cases, case ∈ next.db.cases)

theorem one_case_and_artifact_per_job (services : Services) : OnePerJob services := by
  constructor
  · intro jobId state transitions final hreach hpath
    exact countP_createsCase jobId hpath hreach
  · intro state label next hreach hstep case hcase hfresh
    obtain ⟨jobId, record, -, hacting, hjob, -, hlinked, hcases, hevents⟩ :=
      ((systemTaken_of_step hstep).business (systemInvariant_of_reachable hreach)
        (businessInvariant_of_reachable hreach)).created hcase hfresh
    exact ⟨jobId, record.linked case.id, hlinked, ⟨hacting, case, hcase, hfresh⟩, hjob, rfl, hcases,
      hevents⟩
  · intro state hreach record hrecord caseId hlinked
    obtain ⟨⟨case, hcase, hid, -⟩, hcreated, -⟩ :=
      (businessInvariant_of_reachable hreach).linked record hrecord caseId hlinked
    exact ⟨⟨case, hcase, hid⟩, hcreated⟩
  · exact fun state hreach => (businessInvariant_of_reachable hreach).artifacts_unique
  · intro state hreach record hrecord hlinked
    obtain ⟨caseId, hcaseId⟩ := Option.isSome_iff_exists.1 hlinked
    obtain ⟨-, -, jobId, hjobId, job, hjob, rfl, -, hmarker⟩ :=
      (businessInvariant_of_reachable hreach).linked record hrecord caseId hcaseId
    exact ⟨job, hjob, hjobId, hmarker⟩
  · intro state hreach artifact hartifact
    obtain ⟨job, hjob, hid, -, hmarker⟩ :=
      (businessInvariant_of_reachable hreach).artifact_marked artifact hartifact
    exact ⟨job, hjob, hid, hmarker⟩
  · exact fun state port attempt result hreach hreturned =>
      (businessInvariant_of_reachable hreach).results port attempt result hreturned
  · intro state port attempt newId source customerId fields next hreach hport hstep record hrecord
      hjob htenant caseId hlinked
    obtain ⟨case, -, -, hopening⟩ := (businessInvariant_of_reachable hreach).opening_linked hrecord
      hlinked hjob htenant newId source customerId fields
    simp only [systemMachine, systemStep, hport, openPort, hopening] at hstep
    split at hstep
    · cases hstep
      exact ⟨rfl, _, _, Function.update_self ..⟩
    · cases hstep
  · intro state port attempt newId kind payload next hreach hport hstep existing hexisting hkey
    have hfound := (businessInvariant_of_reachable hreach).artifact?_eq hexisting hkey
    simp only [systemMachine, systemStep, hport, openPort, PortMutation.opening, hfound] at hstep
    split at hstep
    · cases hstep
      exact Function.update_self ..
    · cases hstep
  · intro state newId approval job action values hreach record hrecord hjob htenant caseId hlinked
    obtain ⟨case, -, -, heq⟩ := (businessInvariant_of_reachable hreach).createCase_linked hrecord
      hlinked hjob htenant newId action values
    exact ⟨_, heq⟩
  · intro state newId tenantId jobId kind payload hreach existing hexisting hkey
    have hfound := (businessInvariant_of_reachable hreach).artifact?_eq hexisting hkey
    simp only [createForJob, Session.read_bind_run, hfound, Session.pure_run]
  · intro state label next hreach hstep
    have hbusiness := businessInvariant_of_reachable hreach
    have hchange := (systemTaken_of_step hstep).business (systemInvariant_of_reachable hreach)
      hbusiness
    exact ⟨fun record hrecord hlinked => hchange.link_kept hbusiness hrecord hlinked,
      fun artifact hartifact => hchange.artifact_kept hartifact,
      fun hupdates case hcase => hchange.case_same hupdates hcase⟩

end IntegraIntake
