import IntegraIntake.Intake.Enqueue

/-!
# What every run of enqueue calls keeps

The committed jobs and records stand in pairs, made by the one call that was
answered with `created`.  A call that has inserted rows holds their unique keys
until it commits, and nobody else has these keys, committed or not.
-/

namespace IntegraIntake

open Library JobRepository

/-- A record and its job. -/
def Paired (job : AgentJob) (record : IdempotencyRecord) : Prop :=
  record.tenantId = job.tenantId ∧ record.jobId = some job.id

/-- The columns that a call asks for. -/
def EnqueueCall.scope (call : EnqueueCall) : Option (Uuid × String) :=
  call.key.map fun key => (call.tenantId, key)

/-- The answer to a call whose record is there. -/
def repeatAnswer (sha256 : ByteArray → String) (call : EnqueueCall) (record : IdempotencyRecord)
    (job : AgentJob) : Except AppError EnqueueResult :=
  if record.requestHash = call.requestHash sha256 then .ok ⟨job.id, false, job.traceId⟩
  else .error (.idempotencyConflict "idempotency key conflicts with request")

/-- The ways in which a call with a valid key can be turned away: its tenant's
profile takes no such attachment, or its trace identifier is that of a job
enqueued under another key. -/
def Refused (db : Db) (call : EnqueueCall) (outcome : Except AppError EnqueueResult) : Prop :=
  ((∃ command, call = .enqueueDocument command) ∧
    (outcome = .error (.valueError "tenant profile has no inbound document binding") ∨
      outcome = .error (.documentCapabilityUnavailable "document capability unavailable"))) ∨
  (outcome = .error .integrityError ∧ ∃ job ∈ db.jobs, ∃ record ∈ db.idempotency,
    Paired job record ∧ job.traceId = call.traceId ∧ call.scope ≠ some record.scope)

/-- The outcomes of a call. -/
inductive Settled (services : IntakeServices) (db : Db) (call : EnqueueCall) :
    Except AppError EnqueueResult → Prop
  | invalidKey : call.key = none →
      Settled services db call (.error (.valueError "invalid idempotency key"))
  | created {record : IdempotencyRecord} {job : AgentJob} : record ∈ db.idempotency →
      job ∈ db.jobs → Paired job record → call.scope = some record.scope →
      record.requestHash = call.requestHash services.sha256 → job.traceId = call.traceId →
      Settled services db call (.ok ⟨job.id, true, call.traceId⟩)
  | repeated {record : IdempotencyRecord} {job : AgentJob} : record ∈ db.idempotency →
      job ∈ db.jobs → Paired job record → call.scope = some record.scope →
      Settled services db call (repeatAnswer services.sha256 call record job)
  | refused {outcome : Except AppError EnqueueResult} : Refused db call outcome →
      Settled services db call outcome

/-- The committed rows. -/
structure CommittedRows (services : IntakeServices) (slugOf : Uuid → String) (db : Db) : Prop where
  jobs_unique : Table.Unique AgentJob.id db.jobs
  scopes_unique : Table.Unique IdempotencyRecord.scope db.idempotency
  record_jobs_unique : Table.Unique IdempotencyRecord.jobId db.idempotency
  job_of_record : ∀ record ∈ db.idempotency, ∃ job ∈ db.jobs, Paired job record
  record_of_job : ∀ job ∈ db.jobs, ∃ record ∈ db.idempotency, Paired job record
  resolvable : ∀ job ∈ db.jobs, ∃ snapshot, job.tenantConfigSnapshot = .obj snapshot ∧
    services.resolvePersisted snapshot job.tenantConfigSha256 (slugOf job.tenantId) = true

/-- The rows that a call inserts are its own. -/
structure Insertion (services : IntakeServices) (call : EnqueueCall) (key : String)
    (new : NewJob) : Prop where
  tenant_eq : new.tenantId = call.tenantId
  trace_eq : new.traceId = call.traceId
  key_eq : new.key = key
  hash_eq : new.requestHash = call.requestHash services.sha256
  resolvable : ∃ snapshot, new.tenantConfigSnapshot = .obj snapshot ∧
    services.resolvePersisted snapshot new.tenantConfigSha256 call.tenantSlug = true

/-- What is known of a call at each stage. -/
def StageOk (services : IntakeServices) (db : Db) (call : EnqueueCall) (key : String) :
    EnqueueStage → Prop
  | .probing => ∃ command, call = .enqueueDocument command
  | .resolving => ∃ command, call = .enqueueDocument command
  | .normalizing profile => (∃ command, call = .enqueueDocument command) ∧
      services.resolvePersisted profile.snapshot profile.sha256 call.tenantSlug = true
  | .looking _ profile | .inserting _ profile =>
    services.resolvePersisted profile.snapshot profile.sha256 call.tenantSlug = true
  | .jobInserted new => Insertion services call key new ∧
      ∀ job ∈ db.jobs, job.id ≠ new.id ∧ job.traceId ≠ new.traceId
  | .recordInserted new => Insertion services call key new ∧
      (∀ job ∈ db.jobs, job.id ≠ new.id ∧ job.traceId ≠ new.traceId) ∧
      ∀ record ∈ db.idempotency, record.scope ≠ new.record.scope
  | .recovering => (∃ record ∈ db.idempotency, record.scope = (call.tenantId, key)) ∨
      ∃ job ∈ db.jobs, job.traceId = call.traceId

/-- What is known of a call where it stands. -/
def ProcessOk (services : IntakeServices) (slugOf : Uuid → String) (db : Db) :
    EnqueueProcess → Prop
  | .idle => True
  | .aborted => True
  | .active call key stage => call.key = some key ∧ call.tenantSlug = slugOf call.tenantId ∧
      StageOk services db call key stage
  | .returned call outcome => Settled services db call outcome

/-- The unique keys of the rows that a call has inserted. -/
def EnqueueProcess.held : EnqueueProcess → List UniqueKey
  | .active _ _ (.jobInserted new) => [.jobId new.id, .traceId new.traceId]
  | .active _ _ (.recordInserted new) =>
    [.recordScope new.record.scope, .jobId new.id, .traceId new.traceId]
  | _ => []

/-- A unique key is pending exactly while a call has inserted a row with it. -/
def Held (state : EnqueueState) : Prop :=
  ∀ unique process, state.pending unique = some process ↔ unique ∈ (state.processes process).held

/-- What holds in every state that the calls reach. -/
structure EnqueueInvariant (services : IntakeServices) (slugOf : Uuid → String)
    (state : EnqueueState) : Prop where
  rows : CommittedRows services slugOf state.db
  held : Held state
  processes : ∀ process, ProcessOk services slugOf state.db (state.processes process)
  creators : ∀ job ∈ state.db.jobs, ∃ process call traceId,
    state.processes process = .returned call (.ok ⟨job.id, true, traceId⟩)
  created_once : ∀ process other call call' jobId traceId traceId',
    state.processes process = .returned call (.ok ⟨jobId, true, traceId⟩) →
    state.processes other = .returned call' (.ok ⟨jobId, true, traceId'⟩) → process = other

/-! ## Committed rows -/

section Rows

variable {services : IntakeServices} {slugOf : Uuid → String} {db : Db} {call : EnqueueCall}
  {key : String}

/-- A record determines its job. -/
theorem CommittedRows.job_eq (h : CommittedRows services slugOf db) {job other : AgentJob}
    {record : IdempotencyRecord} (hjob : job ∈ db.jobs) (hother : other ∈ db.jobs)
    (hpaired : Paired job record) (hpaired' : Paired other record) : job = other :=
  h.jobs_unique.eq hjob hother (Option.some.inj (hpaired.2.symm.trans hpaired'.2))

/-- `_existing_result` on a record that is there. -/
theorem CommittedRows.existingResult_eq (h : CommittedRows services slugOf db)
    (hslug : call.tenantSlug = slugOf call.tenantId) {record : IdempotencyRecord}
    (hrecord : record ∈ db.idempotency) (htenant : record.tenantId = call.tenantId) :
    ∃ job ∈ db.jobs, Paired job record ∧
      existingResult services call record db = repeatAnswer services.sha256 call record job := by
  obtain ⟨job, hjob, hpaired⟩ := h.job_of_record record hrecord
  refine ⟨job, hjob, hpaired, ?_⟩
  have hfound : db.job? job.id call.tenantId = some job := by
    refine h.jobs_unique.find?_eq hjob ?_ ?_
    · simp [← hpaired.1, htenant]
    · intro other hother
      simp only [decide_eq_true_eq] at hother
      exact hother.1
  obtain ⟨snapshot, hsnapshot, hresolves⟩ := h.resolvable job hjob
  rw [← hpaired.1, htenant, ← hslug] at hresolves
  have hidentity : getObservationIdentity job.id call.tenantId db =
      some ⟨job.traceId, snapshot, job.tenantConfigSha256⟩ := by
    rw [getObservationIdentity, hfound]
    simp only [hsnapshot]
  unfold existingResult repeatAnswer
  by_cases hhash : record.requestHash = call.requestHash services.sha256
  · rw [if_neg (by simpa using hhash), if_pos hhash]
    simp only [hpaired.2, hidentity, hresolves, if_true]
  · rw [if_pos hhash, if_neg hhash]

theorem getIdempotencyForTenant_eq_some {record : IdempotencyRecord}
    (hfound : getIdempotencyForTenant call.tenantId key db = some record) :
    record ∈ db.idempotency ∧ record.scope = (call.tenantId, key) :=
  ⟨Table.mem_of_lookup hfound, Table.key_of_lookup hfound⟩

/-- A locked lookup settles the call or goes on. -/
theorem CommittedRows.afterLookup_cases (h : CommittedRows services slugOf db)
    (hkey : call.key = some key) (hslug : call.tenantSlug = slugOf call.tenantId)
    (missing : EnqueueProcess) :
    (∃ record ∈ db.idempotency, ∃ job ∈ db.jobs, Paired job record ∧
        call.scope = some record.scope ∧ afterLookup services db call key missing =
          .returned call (repeatAnswer services.sha256 call record job)) ∨
      ((∀ record ∈ db.idempotency, record.scope ≠ (call.tenantId, key)) ∧
        afterLookup services db call key missing = missing) := by
  unfold afterLookup
  cases hfound : getIdempotencyForTenant call.tenantId key db with
  | none => exact .inr ⟨Table.lookup_eq_none_iff.1 hfound, rfl⟩
  | some record =>
      obtain ⟨hrecord, hscope⟩ := getIdempotencyForTenant_eq_some hfound
      obtain ⟨job, hjob, hpaired, hresult⟩ :=
        h.existingResult_eq hslug hrecord (congrArg Prod.fst hscope)
      refine .inl ⟨record, hrecord, job, hjob, hpaired, ?_, ?_⟩
      · rw [hscope, EnqueueCall.scope, hkey, Option.map_some]
      · simp only [hresult]

/-- The rows after a commit. -/
theorem CommittedRows.commit (h : CommittedRows services slugOf db) {new : NewJob}
    (hinsertion : Insertion services call key new)
    (hslug : call.tenantSlug = slugOf call.tenantId)
    (hjobs : ∀ job ∈ db.jobs, job.id ≠ new.id ∧ job.traceId ≠ new.traceId)
    (hrecords : ∀ record ∈ db.idempotency, record.scope ≠ new.record.scope) :
    CommittedRows services slugOf { db with
      jobs := db.jobs ++ [new.row], idempotency := db.idempotency ++ [new.record] } where
  jobs_unique := h.jobs_unique.append fun job hjob => (hjobs job hjob).1
  scopes_unique := h.scopes_unique.append hrecords
  record_jobs_unique := by
    refine h.record_jobs_unique.append fun record hrecord hsame => ?_
    obtain ⟨job, hjob, hpaired⟩ := h.job_of_record record hrecord
    exact (hjobs job hjob).1 (Option.some.inj (hpaired.2.symm.trans hsame))
  job_of_record record hrecord := by
    rcases List.mem_append.1 hrecord with hold | hnew
    · obtain ⟨job, hjob, hpaired⟩ := h.job_of_record record hold
      exact ⟨job, List.mem_append_left _ hjob, hpaired⟩
    · rw [List.mem_singleton.1 hnew]
      exact ⟨new.row, by simp, rfl, rfl⟩
  record_of_job job hjob := by
    rcases List.mem_append.1 hjob with hold | hnew
    · obtain ⟨record, hrecord, hpaired⟩ := h.record_of_job job hold
      exact ⟨record, List.mem_append_left _ hrecord, hpaired⟩
    · rw [List.mem_singleton.1 hnew]
      exact ⟨new.record, by simp, rfl, rfl⟩
  resolvable job hjob := by
    rcases List.mem_append.1 hjob with hold | hnew
    · exact h.resolvable job hold
    · rw [List.mem_singleton.1 hnew]
      obtain ⟨snapshot, hsnapshot, hresolves⟩ := hinsertion.resolvable
      refine ⟨snapshot, hsnapshot, ?_⟩
      rw [hslug, ← hinsertion.tenant_eq] at hresolves
      exact hresolves

/-- No row is lost. -/
structure Extends (db next : Db) : Prop where
  jobs : ∀ job ∈ db.jobs, job ∈ next.jobs
  records : ∀ record ∈ db.idempotency, record ∈ next.idempotency

theorem Settled.extend {next : Db} {outcome : Except AppError EnqueueResult}
    (h : Settled services db call outcome) (hextends : Extends db next) :
    Settled services next call outcome := by
  cases h with
  | invalidKey hkey => exact .invalidKey hkey
  | created hrecord hjob hpaired hscope hhash htrace =>
      exact .created (hextends.records _ hrecord) (hextends.jobs _ hjob) hpaired hscope hhash htrace
  | repeated hrecord hjob hpaired hscope =>
      exact .repeated (hextends.records _ hrecord) (hextends.jobs _ hjob) hpaired hscope
  | refused hrefused =>
      rcases hrefused with hdocument | ⟨rfl, job, hjob, record, hrecord, hother⟩
      · exact .refused (.inl hdocument)
      · exact .refused (.inr ⟨rfl, job, hextends.jobs _ hjob, record, hextends.records _ hrecord,
          hother⟩)

/-- The job of a call that was answered with `created`. -/
theorem Settled.job_of_created {outcome : Except AppError EnqueueResult} {jobId traceId : Uuid}
    (h : Settled services db call outcome) (hcreated : outcome = .ok ⟨jobId, true, traceId⟩) :
    ∃ job ∈ db.jobs, job.id = jobId := by
  cases h with
  | invalidKey => cases hcreated
  | @created record job hrecord hjob =>
      simp only [Except.ok.injEq, EnqueueResult.mk.injEq] at hcreated
      exact ⟨job, hjob, hcreated.1⟩
  | repeated =>
      unfold repeatAnswer at hcreated
      split at hcreated <;> simp at hcreated
  | refused hrefused =>
      subst hcreated
      simp [Refused] at hrefused

end Rows

/-! ## Steps -/

section Steps

variable {services : IntakeServices} {slugOf : Uuid → String} {state next : EnqueueState}
  {label : EnqueueStep}

/-- A step moves one call. -/
theorem EnqueueTaken.frame (htaken : EnqueueTaken services state label next) {other : ℕ}
    (hne : other ≠ label.process) : next.processes other = state.processes other := by
  cases htaken <;> exact EnqueueState.setProcess_of_ne _ _ hne

/-- A call that has returned is not moved. -/
theorem EnqueueTaken.not_returned (htaken : EnqueueTaken services state label next)
    (call : EnqueueCall) (outcome : Except AppError EnqueueResult) :
    state.processes label.process ≠ .returned call outcome := by
  intro hreturned
  cases htaken <;> rename_i hprocess <;> simp_all [EnqueueStep.process]

/-- An existing record never makes a call the creator. -/
theorem afterLookup_not_created {db : Db} {call call' : EnqueueCall} {key : String}
    {missing : EnqueueProcess} {jobId traceId : Uuid}
    (hmissing : missing ≠ .returned call' (.ok ⟨jobId, true, traceId⟩)) :
    afterLookup services db call key missing ≠ .returned call' (.ok ⟨jobId, true, traceId⟩) := by
  unfold afterLookup
  split
  · intro hreturned
    obtain ⟨-, hresult⟩ := EnqueueProcess.returned.inj hreturned
    unfold existingResult at hresult
    split at hresult
    · cases hresult
    · split at hresult
      · cases hresult
      · split at hresult
        · cases hresult
        · split at hresult <;> simp at hresult
  · exact hmissing

/-- Only the commit of a creating call changes the database. -/
theorem EnqueueTaken.db_cases (htaken : EnqueueTaken services state label next) :
    (next.db = state.db ∧ ∀ call jobId traceId,
        next.processes label.process ≠ .returned call (.ok ⟨jobId, true, traceId⟩)) ∨
      ∃ call key new, state.processes label.process = .active call key (.recordInserted new) ∧
        next.db = (state.commit new).db ∧
        next.processes label.process = .returned call (.ok ⟨new.id, true, call.traceId⟩) := by
  cases htaken with
  | commit hprocess => exact .inr ⟨_, _, _, hprocess, rfl, EnqueueState.setProcess_self _ _ _⟩
  | enqueue =>
      refine .inl ⟨rfl, fun call jobId traceId => ?_⟩
      rw [EnqueueStep.process, EnqueueState.setProcess_self, beginEnqueue]
      split <;> simp
  | enqueueDocument =>
      refine .inl ⟨rfl, fun call jobId traceId => ?_⟩
      rw [EnqueueStep.process, EnqueueState.setProcess_self, beginEnqueueDocument]
      split <;> simp
  | resolve =>
      refine .inl ⟨rfl, fun call jobId traceId => ?_⟩
      rw [EnqueueStep.process, EnqueueState.setProcess_self, afterResolve]
      split
      · simp
      · split <;> simp
  | probe | lookup | recover =>
      refine .inl ⟨rfl, fun call jobId traceId => ?_⟩
      rw [EnqueueStep.process, EnqueueState.setProcess_self]
      exact afterLookup_not_created (by simp)
  | normalize | traceTaken | insertJob | keyTaken | insertRecord | abort =>
      refine .inl ⟨rfl, fun call jobId traceId => ?_⟩
      simp [EnqueueStep.process]

/-! ## Pending keys -/

theorem Held.setProcess (h : Held state) {process : ℕ} {value : EnqueueProcess}
    (hsame : value.held = (state.processes process).held) :
    Held (state.setProcess process value) := by
  intro unique other
  rw [EnqueueState.setProcess_pending, h]
  by_cases hother : other = process
  · rw [hother, EnqueueState.setProcess_self, hsame]
  · rw [EnqueueState.setProcess_of_ne _ _ hother]

/-- New keys that nobody had. -/
theorem Held.hold (h : Held state) {process : ℕ} {value : EnqueueProcess} {keys : List UniqueKey}
    (hfree : ∀ unique ∈ keys, state.pending unique = none)
    (hheld : value.held = keys ++ (state.processes process).held) :
    Held ((state.setProcess process value).hold process keys) := by
  intro unique other
  simp only [EnqueueState.hold, EnqueueState.setProcess_pending]
  by_cases hkey : unique ∈ keys
  · rw [if_pos hkey, Option.some.injEq]
    by_cases hother : other = process
    · simp [hother, hheld, hkey]
    · rw [EnqueueState.setProcess_of_ne _ _ hother, ← h, hfree unique hkey]
      simp [Ne.symm hother]
  · rw [if_neg hkey, h]
    by_cases hother : other = process
    · simp [hother, hheld, hkey]
    · rw [EnqueueState.setProcess_of_ne _ _ hother]

theorem Held.release (h : Held state) {process : ℕ} {value : EnqueueProcess}
    (hheld : value.held = []) : Held ((state.setProcess process value).release process) := by
  intro unique other
  change (if state.pending unique = some process then none else state.pending unique) =
    some other ↔ unique ∈ ((state.setProcess process value).processes other).held
  by_cases hother : other = process
  · subst hother
    rw [EnqueueState.setProcess_self, hheld]
    by_cases hpending : state.pending unique = some other <;> simp [hpending]
  · rw [EnqueueState.setProcess_of_ne _ _ hother, ← h]
    by_cases hpending : state.pending unique = some process
    · simp [hpending, Ne.symm hother]
    · rw [if_neg hpending]

theorem afterLookup_held {db : Db} {call : EnqueueCall} {key : String} {missing : EnqueueProcess}
    (hmissing : missing.held = []) : (afterLookup services db call key missing).held = [] := by
  unfold afterLookup
  split
  · rfl
  · exact hmissing

theorem Held.step (h : Held state) (htaken : EnqueueTaken services state label next) :
    Held next := by
  cases htaken with
  | enqueue hprocess =>
      refine h.setProcess ?_
      rw [hprocess, beginEnqueue]
      split <;> rfl
  | enqueueDocument hprocess =>
      refine h.setProcess ?_
      rw [hprocess, beginEnqueueDocument]
      split <;> rfl
  | resolve hprocess =>
      refine h.setProcess ?_
      rw [hprocess, afterResolve]
      split
      · rfl
      · split <;> rfl
  | probe hprocess | lookup hprocess | recover hprocess =>
      refine h.setProcess ?_
      rw [hprocess, afterLookup_held rfl]
      rfl
  | normalize hprocess | traceTaken hprocess =>
      refine h.setProcess ?_
      rw [hprocess]
      rfl
  | insertJob hprocess _ hfree =>
      refine h.hold hfree ?_
      rw [hprocess]
      rfl
  | insertRecord hprocess hfree =>
      refine h.hold (by simpa using hfree) ?_
      rw [hprocess]
      rfl
  | keyTaken | abort => exact h.release rfl
  | @commit process call key new =>
      have hcommit : Held (state.commit new) := h
      exact hcommit.release rfl

/-- Two calls never have the same key pending. -/
theorem Held.disjoint (h : Held state) {process other : ℕ} (hne : process ≠ other)
    {unique : UniqueKey} (hheld : unique ∈ (state.processes process).held)
    (hother : unique ∈ (state.processes other).held) : False :=
  hne (Option.some.inj (((h unique process).2 hheld).symm.trans ((h unique other).2 hother)))

/-! ## The calls -/

/-- What is known of a call survives the commit of another. -/
theorem ProcessOk.commit {db : Db} {process : EnqueueProcess} {new : NewJob}
    (h : ProcessOk services slugOf db process)
    (hfree : ∀ unique ∈ process.held, unique ∉ [UniqueKey.recordScope new.record.scope,
      .jobId new.id, .traceId new.traceId]) :
    ProcessOk services slugOf { db with
      jobs := db.jobs ++ [new.row], idempotency := db.idempotency ++ [new.record] } process := by
  have hextends : Extends db { db with
      jobs := db.jobs ++ [new.row], idempotency := db.idempotency ++ [new.record] } :=
    ⟨fun _ hjob => List.mem_append_left _ hjob, fun _ hrecord => List.mem_append_left _ hrecord⟩
  cases process with
  | idle => trivial
  | aborted => trivial
  | returned call outcome => exact Settled.extend h hextends
  | active call key stage =>
      obtain ⟨hkey, hslug, hstage⟩ := h
      refine ⟨hkey, hslug, ?_⟩
      cases stage with
      | probing | resolving | normalizing | looking | inserting => exact hstage
      | recovering =>
          rcases hstage with ⟨record, hrecord, hscope⟩ | ⟨job, hjob, htrace⟩
          · exact .inl ⟨record, hextends.records _ hrecord, hscope⟩
          · exact .inr ⟨job, hextends.jobs _ hjob, htrace⟩
      | jobInserted own =>
          simp only [EnqueueProcess.held, List.mem_cons, List.not_mem_nil, or_false] at hfree
          refine ⟨hstage.1, fun job hjob => ?_⟩
          rcases List.mem_append.1 hjob with hold | hnew
          · exact hstage.2 job hold
          · rw [List.mem_singleton.1 hnew]
            constructor
            · intro hsame
              exact hfree (.jobId own.id) (.inl rfl) (.inr (.inl (congrArg _ hsame.symm)))
            · intro hsame
              exact hfree (.traceId own.traceId) (.inr rfl) (.inr (.inr (congrArg _ hsame.symm)))
      | recordInserted own =>
          simp only [EnqueueProcess.held, List.mem_cons, List.not_mem_nil, or_false] at hfree
          refine ⟨hstage.1, fun job hjob => ?_, fun record hrecord => ?_⟩
          · rcases List.mem_append.1 hjob with hold | hnew
            · exact hstage.2.1 job hold
            · rw [List.mem_singleton.1 hnew]
              constructor
              · intro hsame
                exact hfree (.jobId own.id) (.inr (.inl rfl)) (.inr (.inl (congrArg _ hsame.symm)))
              · intro hsame
                exact hfree (.traceId own.traceId) (.inr (.inr rfl))
                  (.inr (.inr (congrArg _ hsame.symm)))
          · rcases List.mem_append.1 hrecord with hold | hnew
            · exact hstage.2.2 record hold
            · rw [List.mem_singleton.1 hnew]
              intro hsame
              exact hfree (.recordScope own.record.scope) (.inl rfl) (.inl (congrArg _ hsame.symm))

/-- What is known of the call that a step moves. -/
theorem EnqueueInvariant.processOk (h : EnqueueInvariant services slugOf state)
    (htaken : EnqueueTaken services state label next)
    (hresolvable : label.Resolvable services slugOf state)
    (hdb : next.db = state.db) :
    ProcessOk services slugOf state.db (next.processes label.process) := by
  have hbefore := h.processes label.process
  have hlookup : ∀ {call : EnqueueCall} {key : String} {missing : EnqueueProcess},
      call.key = some key → call.tenantSlug = slugOf call.tenantId →
      ((∀ record ∈ state.db.idempotency, record.scope ≠ (call.tenantId, key)) →
        ProcessOk services slugOf state.db missing) →
      ProcessOk services slugOf state.db (afterLookup services state.db call key missing) := by
    intro call key missing hkey hslug hmissing
    rcases h.rows.afterLookup_cases hkey hslug missing with
      ⟨record, hrecord, job, hjob, hpaired, hscope, heq⟩ | ⟨hnone, heq⟩
    · rw [heq]
      exact .repeated hrecord hjob hpaired hscope
    · rw [heq]
      exact hmissing hnone
  cases htaken with
  | @enqueue process command profile hprocess =>
      rw [EnqueueStep.process, EnqueueState.setProcess_self, beginEnqueue]
      split
      · rename_i hkey
        exact .invalidKey hkey
      · rename_i key hkey
        exact ⟨hkey, hresolvable.1, hresolvable.2⟩
  | @enqueueDocument process command hprocess =>
      rw [EnqueueStep.process, EnqueueState.setProcess_self, beginEnqueueDocument]
      split
      · rename_i hkey
        exact .invalidKey hkey
      · rename_i key hkey
        exact ⟨hkey, hresolvable, command, rfl⟩
  | probe hprocess =>
      rw [EnqueueStep.process, hprocess] at hbefore
      rw [EnqueueStep.process, EnqueueState.setProcess_self]
      exact hlookup hbefore.1 hbefore.2.1 fun _ => hbefore
  | @resolve process command key profile hprocess =>
      rw [EnqueueStep.process, hprocess] at hbefore
      rw [EnqueueStep.process, EnqueueState.setProcess_self, afterResolve]
      split
      · exact .refused (.inl ⟨⟨command, rfl⟩, .inl rfl⟩)
      · split
        · exact ⟨hbefore.1, hbefore.2.1, ⟨command, rfl⟩, hresolvable _ _ hprocess⟩
        · exact .refused (.inl ⟨⟨command, rfl⟩, .inr rfl⟩)
  | normalize hprocess =>
      rw [EnqueueStep.process, hprocess] at hbefore
      rw [EnqueueStep.process, EnqueueState.setProcess_self]
      exact ⟨hbefore.1, hbefore.2.1, hbefore.2.2.2⟩
  | lookup hprocess =>
      rw [EnqueueStep.process, hprocess] at hbefore
      rw [EnqueueStep.process, EnqueueState.setProcess_self]
      exact hlookup hbefore.1 hbefore.2.1 fun _ => hbefore
  | traceTaken hprocess hjob htrace =>
      rw [EnqueueStep.process, hprocess] at hbefore
      rw [EnqueueStep.process, EnqueueState.setProcess_self]
      exact ⟨hbefore.1, hbefore.2.1, .inr ⟨_, hjob, htrace⟩⟩
  | insertJob hprocess hnew _ hfresh =>
      rw [EnqueueStep.process, hprocess] at hbefore
      rw [EnqueueStep.process, EnqueueState.hold_processes, EnqueueState.setProcess_self]
      refine ⟨hbefore.1, hbefore.2.1, ?_, hfresh⟩
      rw [hnew]
      exact ⟨rfl, rfl, rfl, rfl, _, rfl, hbefore.2.2⟩
  | @keyTaken process call key new record hprocess hrecord hclash =>
      rw [EnqueueStep.process, hprocess] at hbefore
      rw [EnqueueStep.process, EnqueueState.release_processes, EnqueueState.setProcess_self]
      obtain ⟨hkey, hslug, hinsertion, hfresh⟩ := hbefore
      refine ⟨hkey, hslug, .inl ⟨record, hrecord, ?_⟩⟩
      rcases hclash with hscope | hjobId
      · rw [hscope, ← hinsertion.tenant_eq, ← hinsertion.key_eq]
        rfl
      · -- the identifier of the new job is in no record
        obtain ⟨job, hjob, hpaired⟩ := h.rows.job_of_record record hrecord
        exact absurd (Option.some.inj (hpaired.2.symm.trans hjobId)) (hfresh job hjob).1
  | insertRecord hprocess _ hfresh =>
      rw [EnqueueStep.process, hprocess] at hbefore
      rw [EnqueueStep.process, EnqueueState.hold_processes, EnqueueState.setProcess_self]
      exact ⟨hbefore.1, hbefore.2.1, hbefore.2.2.1, hbefore.2.2.2, hfresh⟩
  | @commit process call key new hprocess =>
      have hlength := congrArg (fun db : Db => db.jobs.length) hdb
      simp [EnqueueState.commit] at hlength
  | @recover process call key hprocess =>
      rw [EnqueueStep.process, hprocess] at hbefore
      rw [EnqueueStep.process, EnqueueState.setProcess_self]
      refine hlookup hbefore.1 hbefore.2.1 fun hnone => ?_
      rcases hbefore.2.2 with ⟨record, hrecord, hscope⟩ | ⟨job, hjob, htrace⟩
      · exact absurd hscope (hnone record hrecord)
      · obtain ⟨record, hrecord, hpaired⟩ := h.rows.record_of_job job hjob
        refine .refused (.inr ⟨rfl, job, hjob, record, hrecord, hpaired, htrace, ?_⟩)
        rw [EnqueueCall.scope, hbefore.1, Option.map_some]
        exact fun hscope => hnone record hrecord (Option.some.inj hscope).symm
  | abort =>
      rw [EnqueueStep.process, EnqueueState.release_processes, EnqueueState.setProcess_self]
      trivial

/-! ## The invariant -/

/-- A step that commits nothing. -/
theorem EnqueueInvariant.quiet (h : EnqueueInvariant services slugOf state)
    (htaken : EnqueueTaken services state label next)
    (hresolvable : label.Resolvable services slugOf state) (hdb : next.db = state.db)
    (hnew : ∀ call jobId traceId,
      next.processes label.process ≠ .returned call (.ok ⟨jobId, true, traceId⟩)) :
    EnqueueInvariant services slugOf next := by
  -- a creator of the next state was one before
  have hcreator : ∀ {process : ℕ} {call : EnqueueCall} {jobId traceId : Uuid},
      next.processes process = .returned call (.ok ⟨jobId, true, traceId⟩) →
      state.processes process = .returned call (.ok ⟨jobId, true, traceId⟩) := by
    intro process call jobId traceId hreturned
    by_cases hmoved : process = label.process
    · rw [hmoved] at hreturned
      exact absurd hreturned (hnew call jobId traceId)
    · rwa [htaken.frame hmoved] at hreturned
  constructor
  · rw [hdb]
    exact h.rows
  · exact h.held.step htaken
  · intro process
    rw [hdb]
    by_cases hmoved : process = label.process
    · rw [hmoved]
      exact h.processOk htaken hresolvable hdb
    · rw [htaken.frame hmoved]
      exact h.processes process
  · intro job hjob
    rw [hdb] at hjob
    obtain ⟨process, call, traceId, hreturned⟩ := h.creators job hjob
    refine ⟨process, call, traceId, ?_⟩
    rw [htaken.frame, hreturned]
    rintro rfl
    exact htaken.not_returned _ _ hreturned
  · intro process other call call' jobId traceId traceId' hprocess hother
    exact h.created_once process other call call' jobId traceId traceId' (hcreator hprocess)
      (hcreator hother)

/-- A commit makes one pair of rows and one creator. -/
theorem EnqueueInvariant.commit (h : EnqueueInvariant services slugOf state)
    (htaken : EnqueueTaken services state label next) {call : EnqueueCall} {key : String}
    {new : NewJob}
    (hprocess : state.processes label.process = .active call key (.recordInserted new))
    (hdb : next.db = (state.commit new).db)
    (hreturned : next.processes label.process =
      .returned call (.ok ⟨new.id, true, call.traceId⟩)) :
    EnqueueInvariant services slugOf next := by
  have hown := h.processes label.process
  rw [hprocess] at hown
  obtain ⟨hkey, hslug, hinsertion, hjobs, hrecords⟩ := hown
  -- no call has been answered with the new identifier yet
  have hfresh : ∀ {process : ℕ} {call' : EnqueueCall} {traceId : Uuid},
      state.processes process ≠ .returned call' (.ok ⟨new.id, true, traceId⟩) := by
    intro process call' traceId hother
    have hsettled := h.processes process
    rw [hother] at hsettled
    obtain ⟨job, hjob, hid⟩ := hsettled.job_of_created rfl
    exact (hjobs job hjob).1 hid
  constructor
  · rw [hdb]
    exact h.rows.commit hinsertion hslug hjobs hrecords
  · exact h.held.step htaken
  · intro process
    rw [hdb]
    by_cases hmoved : process = label.process
    · rw [hmoved, hreturned]
      have hsettled : Settled services (state.commit new).db call
          (.ok ⟨new.row.id, true, call.traceId⟩) := by
        refine .created (List.mem_append_right _ (List.mem_singleton_self new.record))
          (List.mem_append_right _ (List.mem_singleton_self new.row)) ⟨rfl, rfl⟩ ?_
          hinsertion.hash_eq hinsertion.trace_eq
        rw [EnqueueCall.scope, hkey, Option.map_some, ← hinsertion.tenant_eq, ← hinsertion.key_eq]
        rfl
      exact hsettled
    · rw [htaken.frame hmoved]
      refine ProcessOk.commit (h.processes process) fun unique hheld hnew => ?_
      refine h.held.disjoint hmoved hheld ?_
      rw [hprocess]
      exact hnew
  · intro job hjob
    rw [hdb] at hjob
    rcases List.mem_append.1 hjob with hold | hnew
    · obtain ⟨process, call', traceId, hcreator⟩ := h.creators job hold
      refine ⟨process, call', traceId, ?_⟩
      rw [htaken.frame, hcreator]
      rintro rfl
      exact htaken.not_returned _ _ hcreator
    · rw [List.mem_singleton.1 hnew]
      exact ⟨label.process, call, call.traceId, hreturned⟩
  · intro process other call₁ call₂ jobId traceId₁ traceId₂ hfirst hsecond
    by_cases hmoved : process = label.process <;> by_cases hmoved' : other = label.process
    · rw [hmoved, hmoved']
    · rw [hmoved, hreturned] at hfirst
      cases hfirst
      rw [htaken.frame hmoved'] at hsecond
      exact absurd hsecond hfresh
    · rw [hmoved', hreturned] at hsecond
      cases hsecond
      rw [htaken.frame hmoved] at hfirst
      exact absurd hfirst hfresh
    · rw [htaken.frame hmoved] at hfirst
      rw [htaken.frame hmoved'] at hsecond
      exact h.created_once process other call₁ call₂ jobId traceId₁ traceId₂ hfirst hsecond

theorem EnqueueInvariant.step (h : EnqueueInvariant services slugOf state)
    (hresolvable : label.Resolvable services slugOf state)
    (hstep : (enqueueMachine services).step state label = some next) :
    EnqueueInvariant services slugOf next := by
  have htaken := enqueueTaken_of_step hstep
  rcases htaken.db_cases with ⟨hdb, hnew⟩ | ⟨call, key, new, hprocess, hdb, hreturned⟩
  · exact h.quiet htaken hresolvable hdb hnew
  · exact h.commit htaken hprocess hdb hreturned

theorem EnqueueInvariant.initial (h : (enqueueMachine services).initial state) :
    EnqueueInvariant services slugOf state := by
  obtain ⟨hjobs, hrecords, hidle, hpending⟩ := h
  constructor
  · constructor <;> simp [hjobs, hrecords, Table.Unique]
  · intro unique process
    simp [hidle, hpending, EnqueueProcess.held]
  · intro process
    rw [hidle]
    trivial
  · simp [hjobs]
  · intro process other call call' jobId traceId traceId' hprocess
    rw [hidle] at hprocess
    cases hprocess

/-- The invariant holds in every state of every run. -/
theorem enqueueInvariant_of_reachable
    (h : (enqueueMachine services).ReachableWith
      (fun state label => label.Resolvable services slugOf state) state) :
    EnqueueInvariant services slugOf state :=
  h.invariant (fun _ hinit => .initial hinit)
    fun _ _ _ _ hinvariant hresolvable hstep => hinvariant.step hresolvable hstep

end Steps

end IntegraIntake
