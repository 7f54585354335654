import IntegraIntake.System.Rows

/-!
# Attempts, fences and locks

An attempt that has lost its job never gets it back, and a transaction that has
passed its fence holds the lock of the row it saw.  So in every reachable state
the row a port is going to mark is the row in the database, running under the
port's own attempt.
-/

namespace IntegraIntake

open Library JobRepository

/-! ## Attempts -/

/-- The row of the job that an attempt still has. -/
def Attempt.Owns (attempt : Attempt) (db : Db) (job : AgentJob) : Prop :=
  Owned db attempt.jobId attempt.tenantId attempt.count job

/-- The attempt has been made. -/
def Attempt.Known (attempt : Attempt) (db : Db) : Prop :=
  ∃ job ∈ db.jobs, job.id = attempt.jobId ∧ job.tenantId = attempt.tenantId ∧
    attempt.count ≤ job.attemptCount

theorem Attempt.Owns.attempt_eq {attempt : Attempt} {db : Db} {job : AgentJob}
    (h : attempt.Owns db job) : job.attempt = attempt := by
  rw [AgentJob.attempt, h.id_eq, h.tenant_eq, JobRepository.Owned.attempt_eq h]

theorem Attempt.owns_of_running {db : Db} {job : AgentJob} (hjob : job ∈ db.jobs)
    (hrunning : job.status = .running) : job.attempt.Owns db job :=
  ⟨hjob, rfl, rfl, rfl, hrunning⟩

/-- The fence finds the row that the attempt still has. -/
theorem fencedJob_owns {attempt : Attempt} {db : Db} {job : AgentJob}
    (h : fencedJob attempt db = some job) : attempt.Owns db job := by
  have hjob := List.find?_some h
  simp only [decide_eq_true_eq] at hjob
  exact ⟨List.mem_of_find?_eq_some h, hjob.1, hjob.2.1, hjob.2.2.2, hjob.2.2.1⟩

section RowsStep

variable {locked : Uuid → Prop} {cause : AgentJob → Cause} {db next : Db} {attempt : Attempt}

theorem RowsStep.known (h : RowsStep locked cause db next) (hknown : attempt.Known db) :
    attempt.Known next := by
  obtain ⟨job, hjob, hid, htenant, hle⟩ := hknown
  obtain ⟨row, hrow, hstep⟩ := h.rows job hjob
  exact ⟨row, hrow, hstep.id_eq.trans hid, hstep.tenant_eq.trans htenant,
    hle.trans hstep.attempt_le⟩

/-- A job that an attempt has after a step, it had before. -/
theorem RowsStep.owns (h : RowsStep locked cause db next)
    (hunique : Table.Unique AgentJob.id db.jobs) (hknown : attempt.Known db) {row : AgentJob}
    (howns : attempt.Owns next row) :
    ∃ job, attempt.Owns db job ∧ RowStep (cause job) job row := by
  rcases h.back row howns.mem with ⟨job, hjob, hstep⟩ | ⟨hqueued, -⟩
  · have hid : job.id = attempt.jobId := hstep.id_eq.symm.trans howns.id_eq
    have hcount := JobRepository.Owned.attempt_eq howns
    rcases hstep.no_return howns.running with ⟨hrunning, hsame⟩ | hlt
    · exact ⟨job, ⟨hjob, hid, hstep.tenant_eq.symm.trans howns.tenant_eq, hsame.symm.trans hcount,
        hrunning⟩, hstep⟩
    · obtain ⟨other, hother, hotherId, -, hle⟩ := hknown
      rw [hunique.eq hother hjob (hotherId.trans hid.symm)] at hle
      omega
  · have hrunning := howns.running
    rw [hqueued] at hrunning
    cases hrunning

end RowsStep

/-! ## Frames -/

/-- The port whose transaction a step belongs to. -/
def SystemStep.port? : SystemStep → Option ℕ
  | .portBegin _ port _ | .portOpen port | .portInsert port | .portFence port
  | .portCommit port _ | .portAbort port => some port
  | _ => none

/-- The worker that takes a step. -/
def SystemStep.worker? : SystemStep → Option ℕ
  | .claim worker _ _ _ | .runEnds worker _ | .inspect worker _ | .write worker _ _
  | .stop worker | .portBegin worker _ _ => some worker
  | _ => none

section Frames

variable {services : Services} {state next : SystemState} {label : SystemStep} {port worker : ℕ}
  {lock : Lock}

theorem PortOpening.mem_of_mem_held {locks : List Lock} {opening : PortOpening}
    (h : lock ∈ opening.held locks) : lock ∈ locks := by
  cases opening with
  | writes value => exact h
  | ends | inserts => cases h

theorem PortOpening.attempt_of_stage {attempt old : Attempt} {opening : PortOpening}
    (h : (opening.stage old).attempt? = some attempt) : some old = some attempt := by
  cases opening with
  | ends outcome => cases h
  | writes | inserts => exact h

/-- Taking free locks takes nothing from anybody. -/
theorem take_locks {taken : List Lock} (hfree : ∀ lock ∈ taken, state.locks lock = none)
    (h : state.locks lock = some port) (taker : ℕ) :
    (state.take taker taken).locks lock = some port := by
  have hnot : lock ∉ taken := fun hmem => by
    rw [hfree lock hmem] at h
    cases h
  simp [SystemState.take, hnot, h]

theorem release_locks {releaser : ℕ} (hne : releaser ≠ port) (h : state.locks lock = some port) :
    (state.release releaser).locks lock = some port := by
  simp [SystemState.release, h, hne.symm]

theorem SystemTaken.port_frame (h : SystemTaken services state label next)
    (hne : label.port? ≠ some port) : next.ports port = state.ports port := by
  cases h <;> first
    | rfl
    | exact Function.update_of_ne (fun heq => hne (congrArg some heq.symm)) _ _

theorem SystemTaken.worker_frame (h : SystemTaken services state label next)
    (hne : label.worker? ≠ some worker) : next.workers worker = state.workers worker := by
  cases h <;> first
    | rfl
    | exact Function.update_of_ne (fun heq => hne (congrArg some heq.symm)) _ _

theorem SystemTaken.locks_frame (h : SystemTaken services state label next)
    (hne : label.port? ≠ some port) (hlock : state.locks lock = some port) :
    next.locks lock = some port := by
  cases h with
  | portOpen hport hfree =>
      exact take_locks (fun lock hheld => hfree lock (PortOpening.mem_of_mem_held hheld)) hlock _
  | portInsert hport hfree =>
      refine take_locks (fun lock hheld => ?_) hlock _
      rw [List.mem_singleton.1 (PortOpening.mem_of_mem_held hheld)]
      exact hfree
  | portRefused | portCommit | portAbort =>
      exact release_locks (fun heq => hne (congrArg some heq)) hlock
  | portFence hport hfree hcancelled hjob =>
      refine take_locks (fun lock hheld => ?_) hlock _
      rw [List.mem_singleton.1 hheld, (fencedJob_owns hjob).id_eq]
      exact hfree
  | _ => exact hlock

/-- The claims of the workers after a step: the old ones, and one for a job that
was just claimed. -/
theorem SystemTaken.claim_cases (h : SystemTaken services state label next) {claim : AgentJob}
    (hclaim : (next.workers worker).claim? = some claim) :
    (state.workers worker).claim? = some claim ∨
      (label.worker? = some worker ∧ ∃ now leaseUntil, ∃ job ∈ state.db.jobs,
        job.status = .queued ∧ claim = claimedRow now leaseUntil job ∧ claim ∈ next.db.jobs) := by
  by_cases hworker : label.worker? = some worker
  · cases h with
    | @claim _ now leaseUntil excluded claimed db hidle hnext =>
        cases hworker
        rcases claimNext_cases now leaseUntil excluded state.lockedJobs state.db with
          heq | ⟨job, hjob, hqueued, -, heq⟩
        · rw [heq] at hnext
          cases hnext
        · rw [heq] at hnext
          cases hnext
          simp only [SystemState.setWorker, Function.update_self, WorkerStage.claim?,
            Option.some.injEq] at hclaim
          subst hclaim
          exact .inr ⟨rfl, now, leaseUntil, job, hjob, hqueued, rfl,
            Table.mem_replace_self ⟨job, hjob, rfl⟩⟩
    | @runEnds _ ending claimed called hstage =>
        cases hworker
        rw [hstage]
        simp only [SystemState.cancel, SystemState.setWorker, Function.update_self] at hclaim
        cases hnext : ending.next <;> rw [hnext] at hclaim <;> exact .inl hclaim
    | @inspect _ maxRetries ending claimed hstage =>
        cases hworker
        rw [hstage]
        simp only [SystemState.setWorker, Function.update_self, inspectedStage] at hclaim
        split at hclaim
        · cases hclaim
        · exact .inl hclaim
        · exact .inl hclaim
    | write | stop =>
        cases hworker
        simp only [SystemState.cancel, SystemState.setWorker, Function.update_self] at hclaim
        cases hclaim
    | portBegin hstage =>
        cases hworker
        rw [hstage]
        simp only [SystemState.setPort, SystemState.setWorker, Function.update_self] at hclaim
        exact .inl hclaim
    | _ => cases hworker
  · rw [h.worker_frame hworker] at hclaim
    exact .inl hclaim

/-- The attempts of the open transactions after a step: the old ones, and that
of a worker which has just called its port. -/
theorem SystemTaken.attempt_cases (h : SystemTaken services state label next) {attempt : Attempt}
    (hattempt : (next.ports port).attempt? = some attempt) :
    (state.ports port).attempt? = some attempt ∨
      ∃ worker mutation claim called, label = .portBegin worker port mutation ∧
        state.workers worker = .running claim called ∧ claim.attempt = attempt ∧
        next.workers worker = .running claim true := by
  by_cases hport : label.port? = some port
  · cases h with
    | @portBegin worker _ mutation claim called hworker =>
        cases hport
        simp only [SystemState.setPort, Function.update_self, PortStage.attempt?,
          Option.some.injEq] at hattempt
        exact .inr ⟨worker, mutation, claim, called, rfl, hworker, hattempt,
          Function.update_self ..⟩
    | @portOpen _ old mutation hstage =>
        cases hport
        rw [hstage]
        simp only [SystemState.take, SystemState.setPort, Function.update_self] at hattempt
        exact .inl (PortOpening.attempt_of_stage hattempt)
    | @portInsert _ old newId kind payload hstage =>
        cases hport
        rw [hstage]
        simp only [SystemState.take, SystemState.setPort, Function.update_self] at hattempt
        exact .inl (PortOpening.attempt_of_stage hattempt)
    | portRefused | portCommit | portAbort =>
        cases hport
        simp only [SystemState.release, SystemState.setPort, Function.update_self] at hattempt
        cases hattempt
    | portFence hstage =>
        cases hport
        rw [hstage]
        simp only [SystemState.take, SystemState.setPort, Function.update_self] at hattempt
        exact .inl hattempt
    | _ => cases hport
  · rw [h.port_frame hport] at hattempt
    exact .inl hattempt

end Frames

/-! ## The job rows along a step -/

/-- The cause with which a step changes the row of a job. -/
def SystemStep.cause (state : SystemState) (label : SystemStep) (job : AgentJob) : Cause :=
  match label with
  | .write worker _ _ =>
    match state.workers worker with
    | .writing claimed (.retry _) =>
      if job.attempt = claimed.attempt ∧ job.status = .running then .retry else .plain
    | .writing claimed (.fail _) =>
      if job.attempt = claimed.attempt ∧ job.status = .running then .blame else .plain
    | _ => .plain
  | .portCommit port _ =>
    match state.ports port with
    | .fenced attempt _ _ =>
      if job.attempt = attempt ∧ job.status = .running then .mark else .plain
    | _ => .plain
  | _ => .plain

/-- The job rows under a lock that a step has to respect: all that are held, but
for those of the port that commits. -/
def SystemState.heldJob (state : SystemState) (label : SystemStep) (jobId : Uuid) : Prop :=
  ∃ port, state.locks (.job jobId) = some port ∧ ∀ now, label ≠ .portCommit port now

/-- What holds in every reachable state. -/
structure SystemInvariant (state : SystemState) : Prop where
  lifecycle : Lifecycle state.db
  workers_known : ∀ worker claim, (state.workers worker).claim? = some claim →
    claim.attempt.Known state.db
  ports_known : ∀ port attempt, (state.ports port).attempt? = some attempt →
    attempt.Known state.db
  /-- A fenced transaction holds the lock of its job, whose row is as it saw it. -/
  fenced : ∀ port attempt writes job, state.ports port = .fenced attempt writes job →
    attempt.Owns state.db job ∧ state.locks (.job attempt.jobId) = some port

section Step

variable {services : Services} {state next : SystemState} {label : SystemStep}

theorem SystemStep.cause_retry {job : AgentJob} (h : label.cause state job = .retry) :
    ∃ worker now availableAt claim errorCode, label = .write worker now availableAt ∧
      state.workers worker = .writing claim (.retry errorCode) ∧ job.attempt = claim.attempt ∧
      job.status = .running := by
  unfold SystemStep.cause at h
  repeat' split at h
  all_goals first
    | exact ⟨_, _, _, _, _, rfl, ‹_›, ‹_ ∧ _›⟩
    | cases h

theorem SystemStep.cause_blame {job : AgentJob} (h : label.cause state job = .blame) :
    ∃ worker now availableAt claim errorCode, label = .write worker now availableAt ∧
      state.workers worker = .writing claim (.fail errorCode) ∧ job.attempt = claim.attempt ∧
      job.status = .running := by
  unfold SystemStep.cause at h
  repeat' split at h
  all_goals first
    | exact ⟨_, _, _, _, _, rfl, ‹_›, ‹_ ∧ _›⟩
    | cases h

theorem SystemStep.cause_mark {job : AgentJob} (h : label.cause state job = .mark) :
    ∃ port now attempt writes fenced, label = .portCommit port now ∧
      state.ports port = .fenced attempt writes fenced ∧ job.attempt = attempt ∧
      job.status = .running := by
  unfold SystemStep.cause at h
  repeat' split at h
  all_goals first
    | exact ⟨_, _, _, _, _, rfl, ‹_›, ‹_ ∧ _›⟩
    | cases h

theorem PortWrites.apply_jobs (writes : PortWrites) (db : Db) :
    (writes.apply db).jobs = db.jobs := by
  cases writes <;> rfl

theorem PortWrites.apply_approvals (writes : PortWrites) (db : Db) :
    (writes.apply db).approvals = db.approvals := by
  cases writes <;> rfl

theorem not_heldJob {jobId : Uuid} (h : state.locks (.job jobId) = none) :
    ¬ state.heldJob label jobId := by
  rintro ⟨port, hport, -⟩
  rw [h] at hport
  cases hport

/-- The rows that a final write changes. -/
theorem FinalWrite.run_rows {worker : ℕ} {claim : AgentJob} {write : FinalWrite}
    {now availableAt : Timestamp} (h : Lifecycle state.db)
    (hworker : state.workers worker = .writing claim write)
    (hfree : ¬ state.heldJob (.write worker now availableAt) claim.id) :
    RowsStep (state.heldJob (.write worker now availableAt))
      (SystemStep.cause state (.write worker now availableAt)) state.db
      (write.run claim now availableAt state.db).2 := by
  have howner : ∀ job, Owned state.db claim.id claim.tenantId claim.attemptCount job →
      job.attempt = claim.attempt ∧ job.status = .running := fun job howned =>
    ⟨Attempt.Owns.attempt_eq (howned : claim.attempt.Owns state.db job), howned.running⟩
  cases write with
  | retry errorCode =>
      refine h.scheduleRetry_rows _ _ _ _ _ hfree fun job howned => ?_
      simp only [SystemStep.cause, hworker, if_pos (howner job howned)]
  | fail errorCode =>
      refine h.markTerminal_rows _ rfl _ _ _ _ _ hfree fun _ job howned => ?_
      simp only [SystemStep.cause, hworker, if_pos (howner job howned)]
  | uncertain errorCode => exact h.markTerminal_rows _ rfl _ _ _ _ _ hfree (by simp)
  | succeed result => exact h.markTerminal_rows _ rfl _ _ _ _ _ hfree (by simp)
  | park result => exact h.recordAwaitingApprovalResult_rows _ _ _ _ hfree

theorem SystemTaken.rows (h : SystemInvariant state)
    (htaken : SystemTaken services state label next) :
    RowsStep (state.heldJob label) (label.cause state) state.db next.db := by
  cases htaken with
  | enqueue => exact insertJob_rows _ _
  | @claim worker now leaseUntil excluded claim db hidle hclaim =>
      have hrows : RowsStep (state.heldJob (.claim worker now leaseUntil excluded))
          (SystemStep.cause state (.claim worker now leaseUntil excluded)) state.db
          (JobRepository.claimNext now leaseUntil excluded state.lockedJobs state.db).2 :=
        h.lifecycle.claimNext_rows ..
      rw [hclaim] at hrows
      exact hrows
  | renewLease hfree => exact h.lifecycle.renewLease_rows _ _ _ _ (not_heldJob hfree)
  | requestApproval hfree => exact createForRunningJob_rows ..
  | write hworker hfree => exact FinalWrite.run_rows h.lifecycle hworker (not_heldJob hfree)
  | recover =>
      refine h.lifecycle.recoverExpiredLeases_rows _ _ _ _ ?_
      rintro jobId ⟨port, hport, -⟩
      simp [SystemState.lockedJobs, hport]
  | decide => exact h.lifecycle.decide_rows ..
  | expireDue => exact h.lifecycle.expireDue_rows ..
  | @portCommit port now attempt writes job hport =>
      obtain ⟨howns, hlock⟩ := h.fenced _ _ _ _ hport
      have hcause : SystemStep.cause state (.portCommit port now) job = .mark := by
        simp only [SystemStep.cause, hport, howns.attempt_eq, howns.running, and_self, if_true]
      have hstep : RowStep (SystemStep.cause state (.portCommit port now) job) job
          (markedRow now job) := hcause ▸ .markedRow howns.running now
      refine .of_replace h.lifecycle.jobs_unique howns.mem hstep ?_ ?_
      · rintro - ⟨holder, hholder, hother⟩
        rw [howns.id_eq, hlock] at hholder
        cases hholder
        exact hother now rfl
      · rw [← writes.apply_jobs state.db]
        rfl
  | runEnds | inspect | stop | portBegin | portOpen | portInsert | portRefused | portFence
  | portAbort => exact .of_eq rfl

theorem FinalWrite.run_moves {db : Db} (h : Lifecycle db) (write : FinalWrite) (claim : AgentJob)
    (now availableAt : Timestamp) : Moves db (write.run claim now availableAt db).2 := by
  cases write with
  | retry errorCode => exact h.scheduleRetry ..
  | fail | uncertain | succeed => exact h.markTerminal _ rfl ..
  | park result => exact h.recordAwaitingApprovalResult ..

theorem SystemTaken.moves (h : SystemInvariant state)
    (htaken : SystemTaken services state label next) : Moves state.db next.db := by
  cases htaken with
  | enqueue => exact insertJob_moves _ _
  | @claim worker now leaseUntil excluded claim db hidle hclaim =>
      have hmoves := h.lifecycle.claimNext now leaseUntil excluded state.lockedJobs
      rw [hclaim] at hmoves
      exact hmoves
  | renewLease => exact h.lifecycle.renewLease ..
  | requestApproval => exact h.lifecycle.createForRunningJob ..
  | write => exact FinalWrite.run_moves h.lifecycle ..
  | recover => exact h.lifecycle.recoverExpiredLeases ..
  | decide => exact h.lifecycle.decide_moves ..
  | @expireDue now limit =>
      obtain ⟨final, hrun, hmoves⟩ := h.lifecycle.expireDue_run now limit fun _ => false
      rw [SystemState.setDb, hrun]
      exact hmoves
  | @portCommit port now attempt writes job hport =>
      have howns := (h.fenced _ _ _ _ hport).1
      have hok := h.lifecycle.job_ok job howns.mem
      have hmove : JobMove job (markedRow now job) := howns.jobMove rfl rfl rfl rfl
      refine .single (.update howns.mem hmove ⟨hok.lease, hok.finished⟩ ?_ ?_)
      · rw [← writes.apply_jobs state.db]
        rfl
      · refine (writes.apply_approvals state.db).symm ▸ .keep ?_ ?_
        · exact fun approval happroval hthis =>
            (h.lifecycle.coupled_of_job happroval howns.mem hthis).2
        · simp [markedRow, howns.running]
  | runEnds | inspect | stop | portBegin | portOpen | portInsert | portRefused | portFence
  | portAbort => exact .refl

/-- A transaction that is past its fence after a step was so before, or has just
got there. -/
theorem SystemTaken.fenced_cases (h : SystemTaken services state label next) {port : ℕ}
    {attempt : Attempt} {writes : PortWrites} {job : AgentJob}
    (hport : next.ports port = .fenced attempt writes job) :
    (state.ports port = .fenced attempt writes job ∧ label.port? ≠ some port) ∨
      (state.ports port = .written attempt writes ∧ fencedJob attempt state.db = some job ∧
        next.locks (.job attempt.jobId) = some port ∧ next.db = state.db) := by
  by_cases hown : label.port? = some port
  · cases h with
    | @portFence _ old oldWrites found hstage hfree hcancelled hjob =>
        cases hown
        simp only [SystemState.take, SystemState.setPort, Function.update_self,
          PortStage.fenced.injEq] at hport
        obtain ⟨rfl, rfl, rfl⟩ := hport
        refine .inr ⟨hstage, hjob, ?_, rfl⟩
        simp [SystemState.take, (fencedJob_owns hjob).id_eq]
    | portBegin | portRefused | portCommit | portAbort =>
        cases hown
        simp [SystemState.release, SystemState.setPort] at hport
    | @portOpen _ old mutation hstage =>
        cases hown
        simp only [SystemState.take, SystemState.setPort, Function.update_self] at hport
        cases hopening : mutation.opening old state.db <;> rw [hopening] at hport <;> cases hport
    | @portInsert _ old newId kind payload hstage =>
        cases hown
        simp only [SystemState.take, SystemState.setPort, Function.update_self] at hport
        cases hopening : insertArtifact old newId kind payload state.db <;>
          rw [hopening] at hport <;> cases hport
    | _ => cases hown
  · rw [h.port_frame hown] at hport
    exact .inl ⟨hport, hown⟩

theorem SystemInvariant.initial (hinit : (systemMachine services).initial state) :
    SystemInvariant state := by
  obtain ⟨hjobs, happrovals, -, -, -, -, hworkers, hports, -⟩ := hinit
  refine ⟨.of_empty hjobs happrovals, ?_, ?_, ?_⟩
  · intro worker claim hclaim
    rw [hworkers worker] at hclaim
    cases hclaim
  · intro port attempt hattempt
    rw [hports port] at hattempt
    cases hattempt
  · intro port attempt writes job hport
    rw [hports port] at hport
    cases hport

/-- One step. -/
theorem SystemInvariant.step (h : SystemInvariant state)
    (htaken : SystemTaken services state label next) : SystemInvariant next := by
  have hrows := htaken.rows h
  refine ⟨h.lifecycle.moves (htaken.moves h), ?_, ?_, ?_⟩
  · intro worker claim hclaim
    rcases htaken.claim_cases hclaim with hold | ⟨-, _, _, _, -, -, -, hmem⟩
    · exact hrows.known (h.workers_known worker claim hold)
    · exact ⟨claim, hmem, rfl, rfl, le_rfl⟩
  · intro port attempt hattempt
    rcases htaken.attempt_cases hattempt with hold | ⟨worker, _, claim, _, -, hworker, rfl, -⟩
    · exact hrows.known (h.ports_known port attempt hold)
    · exact hrows.known (h.workers_known worker claim (by rw [hworker]; rfl))
  · intro port attempt writes job hport
    rcases htaken.fenced_cases hport with ⟨hold, hother⟩ | ⟨-, hjob, hlock, hdb⟩
    · obtain ⟨howns, hlock⟩ := h.fenced port attempt writes job hold
      refine ⟨⟨hrows.kept job howns.mem howns.running ?_, howns.id_eq, howns.tenant_eq,
        JobRepository.Owned.attempt_eq howns, howns.running⟩, htaken.locks_frame hother hlock⟩
      refine ⟨port, howns.id_eq ▸ hlock, fun now heq => hother ?_⟩
      rw [heq]
      rfl
    · exact ⟨hdb ▸ fencedJob_owns hjob, hlock⟩

/-- The run. -/
theorem systemInvariant_of_reachable (h : (systemMachine services).Reachable state) :
    SystemInvariant state := by
  refine h.invariant (fun _ => SystemInvariant.initial) ?_
  intro state label next _ hstate hstep
  exact hstate.step (systemTaken_of_step hstep)

end Step
end IntegraIntake
