import IntegraIntake.System.Failure
import IntegraIntake.System.Queue

/-!
# No job is stuck

Workers crash, connections are lost in the middle of a transaction, leases run out and
approvals stay undecided.  From whatever state of the system this leads to, every job can
still be brought to its end by what runs by itself: transactions that are rolled back,
workers that stop, claim, fail and write, lease recovery with its settings, and the sweep of
expired approvals.  No operator is needed for it, and no tool.

```text
queued              claimed when those in front of it are, and its run fails
running             its lease is recovered, once nobody holds its row
awaiting approval   its approval expires
```

A row is locked only by a transaction that is past its fence, and that one can always be
rolled back.
-/

namespace IntegraIntake

open Library JobRepository ApprovalRepository

/-! ## Who holds a lock -/

/-- The locks that a transaction may hold in a stage. -/
def PortStage.MayHold : PortStage → Lock → Prop
  | .written _ _, .job _ => False
  | .written _ _, _ => True
  | .fenced attempt _ _, .job jobId => attempt.jobId = jobId
  | .fenced _ _ _, _ => True
  | _, _ => False

/-- Every lock is held by an open transaction, and that of a job by one past its fence. -/
def LocksOpen (state : SystemState) : Prop :=
  ∀ lock port, state.locks lock = some port → (state.ports port).MayHold lock

section Locks

variable {services : Services} {state next : SystemState} {label : SystemStep} {port : ℕ}

theorem not_mayHold_of_started {attempt : Attempt} {mutation : PortMutation} (lock : Lock) :
    ¬ (PortStage.started attempt mutation).MayHold lock := by
  cases lock <;> exact id

theorem not_mayHold_of_inserting {attempt : Attempt} {newId : Uuid} {kind : ArtifactKind}
    {payload : Json} (lock : Lock) :
    ¬ (PortStage.inserting attempt newId kind payload).MayHold lock := by
  cases lock <;> exact id

theorem job_not_mem_locks (mutation : PortMutation) (attempt : Attempt) (db : Db) (jobId : Uuid) :
    Lock.job jobId ∉ mutation.locks attempt db := by
  cases mutation with
  | createCase => simp [PortMutation.locks]
  | createArtifact => simp [PortMutation.locks]
  | updateCaseFields caseId fields =>
      simp only [PortMutation.locks]
      split <;> simp

/-- What a transaction holds after its first statements. -/
theorem mayHold_of_mem_held {attempt : Attempt} {locks : List Lock} {opening : PortOpening}
    {lock : Lock} (hlock : lock ∈ opening.held locks) (hjob : ∀ jobId, lock ≠ .job jobId) :
    (opening.stage attempt).MayHold lock := by
  cases opening with
  | writes value =>
      cases lock with
      | job jobId => exact absurd rfl (hjob jobId)
      | idempotency | case | artifact => trivial
  | ends | inserts => cases hlock

/-- Letting go of the locks of a port whose transaction has ended. -/
theorem LocksOpen.release (h : LocksOpen state) (stage : PortStage) :
    LocksOpen ((state.setPort port stage).release port) := by
  intro lock holder hlock
  simp only [SystemState.release] at hlock
  split at hlock
  · cases hlock
  · rename_i hnot
    have hne : holder ≠ port := fun heq => hnot (heq ▸ hlock)
    have hheld := h lock holder hlock
    simp only [SystemState.release, SystemState.setPort, Function.update_of_ne hne]
    exact hheld

/-- A port without locks takes some. -/
theorem LocksOpen.opened (h : LocksOpen state) {attempt : Attempt} {opening : PortOpening}
    {locks : List Lock} (hnone : ∀ lock, ¬ (state.ports port).MayHold lock)
    (hjob : ∀ jobId, Lock.job jobId ∉ locks) :
    LocksOpen ((state.setPort port (opening.stage attempt)).take port (opening.held locks)) := by
  intro lock holder hlock
  simp only [SystemState.take] at hlock
  split at hlock
  · rename_i hheld
    cases hlock
    have hmem := PortOpening.mem_of_mem_held hheld
    simp only [SystemState.take, SystemState.setPort, Function.update_self]
    exact mayHold_of_mem_held hheld fun jobId heq => hjob jobId (heq ▸ hmem)
  · have hheld := h lock holder hlock
    have hne : holder ≠ port := by
      rintro rfl
      exact hnone lock hheld
    simp only [SystemState.take, SystemState.setPort, Function.update_of_ne hne]
    exact hheld

theorem LocksOpen.step (h : LocksOpen state) (htaken : SystemTaken services state label next) :
    LocksOpen next := by
  cases htaken with
  | @portBegin worker port mutation claim called hworker hport =>
      intro lock holder hlock
      have hheld := h lock holder hlock
      have hne : holder ≠ port := by
        rintro rfl
        rw [hport] at hheld
        cases lock <;> exact hheld
      simp only [SystemState.setPort, SystemState.setWorker, Function.update_of_ne hne]
      exact hheld
  | portOpen hport =>
      exact h.opened (fun lock => hport ▸ not_mayHold_of_started lock) (job_not_mem_locks _ _ _)
  | portInsert hport =>
      exact h.opened (fun lock => hport ▸ not_mayHold_of_inserting lock) (by simp)
  | @portFence port attempt writes job hport hfree _ hjob =>
      intro lock holder hlock
      simp only [SystemState.take] at hlock
      split at hlock
      · rename_i hheld
        cases hlock
        rw [List.mem_singleton.1 hheld]
        simp only [SystemState.take, SystemState.setPort, Function.update_self]
        exact (fencedJob_owns hjob).id_eq.symm
      · have hheld := h lock holder hlock
        by_cases hsame : holder = port
        · -- what it held before, it holds on
          subst hsame
          rw [hport] at hheld
          simp only [SystemState.take, SystemState.setPort, Function.update_self]
          cases lock with
          | job jobId => exact hheld.elim
          | idempotency | case | artifact => trivial
        · simp only [SystemState.take, SystemState.setPort, Function.update_of_ne hsame]
          exact hheld
  | portRefused => exact h.release _
  | @portCommit port now attempt writes job hport =>
      have hreleased : LocksOpen
          ((state.setPort port (.returned attempt (.ok writes.result))).release port) :=
        h.release _
      intro lock holder hlock
      exact hreleased lock holder hlock
  | portAbort => exact h.release _
  | _ => exact h

theorem locksOpen_of_reachable (h : (systemMachine services).Reachable state) :
    LocksOpen state := by
  refine h.invariant ?_ ?_
  · rintro state ⟨-, -, -, -, -, -, -, -, hlocks, -⟩ lock port hlock
    rw [hlocks lock] at hlock
    cases hlock
  · exact fun state label next _ hstate hstep => hstate.step (systemTaken_of_step hstep)

/-- A job whose row is locked is running. -/
theorem running_of_locked (h : (systemMachine services).Reachable state) {jobId : Uuid}
    (hlock : state.locks (.job jobId) = some port) :
    ∃ attempt writes job, state.ports port = .fenced attempt writes job ∧
      attempt.Owns state.db job ∧ job.id = jobId := by
  have hheld := locksOpen_of_reachable h _ _ hlock
  cases hport : state.ports port with
  | fenced attempt writes job =>
      rw [hport] at hheld
      have howns := ((systemInvariant_of_reachable h).fenced port attempt writes job hport).1
      exact ⟨attempt, writes, job, rfl, howns, howns.id_eq.trans hheld⟩
  | inactive | started | inserting | written | returned | aborted =>
      rw [hport] at hheld
      exact hheld.elim

end Locks

/-! ## Upkeep -/

/-- The steps that are taken without an operator, a tool or the model: workers that claim,
fail with an exception, write and stop, lease recovery, the sweep of expired approvals, and
transactions that are rolled back.  Their clocks are past `time`. -/
def SystemStep.IsUpkeep (time : Timestamp) (maxRetries : ℕ) (retryDelay : ℤ) : SystemStep → Prop
  | .claim _ now _ excluded => time ≤ now ∧ excluded = []
  | .inspect _ retries => retries = maxRetries
  | .write _ now _ => time ≤ now
  | .recover now retries delay => time ≤ now ∧ retries = maxRetries ∧ delay = retryDelay
  | .expireDue now limit => time ≤ now ∧ limit = 100
  | .runEnds _ ending => ending = .unexpected
  | .stop _ | .portAbort _ => True
  | _ => False

/-- `final` is reached from `state` by upkeep alone. -/
def Upkeep (services : Services) (time : Timestamp) (maxRetries : ℕ) (retryDelay : ℤ)
    (state final : SystemState) : Prop :=
  ((systemMachine services).startingAt state).ReachableWith
    (fun _ label => label.IsUpkeep time maxRetries retryDelay) final

section Keeps

variable {db next : Db}

theorem map_id_of_replace {changed : AgentJob}
    (hjobs : next.jobs = Table.replace AgentJob.id changed db.jobs) :
    next.jobs.map AgentJob.id = db.jobs.map AgentJob.id := by
  rw [hjobs, Table.map_key_replace]

theorem markTerminal_map_id (jobId : Uuid) (status : JobStatus) (now : Timestamp)
    (tenantId : Uuid) (attemptCount : ℕ) (result : Option Json) (errorCode : Option String)
    (db : Db) :
    (JobRepository.markTerminal jobId status now tenantId attemptCount result errorCode
      db).2.jobs.map AgentJob.id = db.jobs.map AgentJob.id := by
  rcases markTerminal_cases jobId status now tenantId attemptCount result errorCode db with
    ⟨error, heq⟩ | ⟨job, -, heq⟩
  · rw [heq]
  · rw [heq]
    have hjobs : ((cancelStagedApproval jobId tenantId db).setJob
        (terminalRow status now result errorCode job)).jobs =
        Table.replace AgentJob.id (terminalRow status now result errorCode job) db.jobs := by
      rw [setJob_jobs, cancelStagedApproval_jobs]
    exact map_id_of_replace hjobs

/-- A final write neither adds a job nor removes one. -/
theorem FinalWrite.run_map_id (write : FinalWrite) (claim : AgentJob) (now availableAt : Timestamp)
    (db : Db) :
    (write.run claim now availableAt db).2.jobs.map AgentJob.id = db.jobs.map AgentJob.id := by
  cases write with
  | retry errorCode =>
      rcases scheduleRetry_cases claim.id errorCode availableAt claim.tenantId claim.attemptCount db
        with ⟨error, heq⟩ | ⟨job, -, heq⟩
      · simp only [FinalWrite.run, heq]
      · simp only [FinalWrite.run, heq]
        exact map_id_of_replace rfl
  | fail | uncertain | succeed => exact markTerminal_map_id ..
  | park result =>
      rcases recordAwaitingApprovalResult_cases claim.id result claim.tenantId claim.attemptCount db
        with ⟨error, heq⟩ | ⟨job, approval, -, -, -, -, -, heq⟩
      · simp only [FinalWrite.run, heq]
      · simp only [FinalWrite.run, heq]
        exact map_id_of_replace rfl

theorem Lifecycle.recoverExpiredLeases_map_id (h : Lifecycle db) (now : Timestamp)
    (maxRetries : ℕ) (retryDelay : ℤ) (skipped : Uuid → Bool) :
    (JobRepository.recoverExpiredLeases now maxRetries retryDelay skipped db).jobs.map
      AgentJob.id = db.jobs.map AgentJob.id := by
  rw [h.recoverExpiredLeases_jobs, List.map_map]
  refine List.map_congr_left fun job _ => ?_
  simp only [Function.comp_apply]
  split
  · exact recoveredRow_id ..
  · rfl

theorem Expirations.map_id {now : Timestamp} {selected : List Approval}
    (hexpired : Expirations now db selected next) :
    next.jobs.map AgentJob.id = db.jobs.map AgentJob.id := by
  induction hexpired with
  | nil => rfl
  | cons _ _ _ ih => exact ih.trans (map_id_of_replace rfl)

end Keeps

section Upkeep

variable {services : Services} {time : Timestamp} {maxRetries : ℕ} {retryDelay : ℤ}
  {state middle next final : SystemState} {label : SystemStep}

theorem Upkeep.refl (state : SystemState) :
    Upkeep services time maxRetries retryDelay state state :=
  .initial rfl

theorem Upkeep.trans (h : Upkeep services time maxRetries retryDelay state middle)
    (h' : Upkeep services time maxRetries retryDelay middle final) :
    Upkeep services time maxRetries retryDelay state final :=
  Machine.ReachableWith.later h h'

theorem Upkeep.of_step (label : SystemStep) (hupkeep : label.IsUpkeep time maxRetries retryDelay)
    (hstep : (systemMachine services).step state label = some next) :
    Upkeep services time maxRetries retryDelay state next :=
  .step (.initial rfl) hupkeep hstep

theorem Upkeep.reachable (h : Upkeep services time maxRetries retryDelay state final)
    (hstate : (systemMachine services).Reachable state) :
    (systemMachine services).Reachable final :=
  hstate.later (h.mono fun _ _ _ => trivial)

/-- Upkeep neither adds a job nor removes one. -/
theorem SystemTaken.map_id (h : SystemInvariant state)
    (htaken : SystemTaken services state label next)
    (hupkeep : label.IsUpkeep time maxRetries retryDelay) :
    next.db.jobs.map AgentJob.id = state.db.jobs.map AgentJob.id := by
  cases htaken with
  | @claim worker now leaseUntil excluded claim db hidle hclaim =>
      rcases claimNext_cases now leaseUntil excluded state.lockedJobs state.db with
        heq | ⟨job, -, -, -, heq⟩
      · rw [heq] at hclaim
        cases hclaim
      · rw [heq] at hclaim
        cases hclaim
        exact map_id_of_replace rfl
  | write => exact FinalWrite.run_map_id ..
  | recover => exact h.lifecycle.recoverExpiredLeases_map_id ..
  | @expireDue now limit =>
      obtain ⟨middle, hrun, hexpired⟩ :=
        h.lifecycle.expireDue_expirations now limit fun _ => false
      rw [SystemState.setDb, hrun]
      exact hexpired.map_id
  | runEnds | inspect | stop | portAbort => rfl
  | enqueue | renewLease | requestApproval | decide | portBegin | portOpen | portInsert
  | portRefused | portFence | portCommit => exact hupkeep.elim

/-- Along upkeep jobs change as they may, and none comes or goes. -/
theorem Upkeep.keeps (h : Upkeep services time maxRetries retryDelay state final)
    (hstate : (systemMachine services).Reachable state) :
    Moves state.db final.db ∧ final.db.jobs.map AgentJob.id = state.db.jobs.map AgentJob.id := by
  refine h.invariant (P := fun final => Moves state.db final.db ∧
    final.db.jobs.map AgentJob.id = state.db.jobs.map AgentJob.id) ?_ ?_
  · rintro _ rfl
    exact ⟨.refl, rfl⟩
  · rintro middle label next hmiddle ⟨hmoves, hids⟩ hupkeep hstep
    have hinv := systemInvariant_of_reachable (Upkeep.reachable hmiddle hstate)
    have htaken := systemTaken_of_step hstep
    exact ⟨hmoves.trans (htaken.moves hinv), (htaken.map_id hinv hupkeep).trans hids⟩

/-! ### Making way -/

/-- The transaction that holds a job's row is rolled back. -/
theorem Upkeep.unlocks (h : (systemMachine services).Reachable state) (jobId : Uuid) :
    ∃ next, Upkeep services time maxRetries retryDelay state next ∧ next.db = state.db ∧
      next.locks (.job jobId) = none := by
  cases hlock : state.locks (.job jobId) with
  | none => exact ⟨state, .refl state, rfl, hlock⟩
  | some port =>
      obtain ⟨attempt, writes, job, hport, -, -⟩ := running_of_locked h hlock
      have hstep : (systemMachine services).step state (.portAbort port) =
          some ((state.setPort port .aborted).release port) := by
        simp only [systemMachine, systemStep, hport]
      exact ⟨_, .of_step (.portAbort port) trivial hstep, rfl, if_pos hlock⟩

/-- A worker stops. -/
theorem Upkeep.idles (state : SystemState) (worker : ℕ) :
    ∃ next, Upkeep services time maxRetries retryDelay state next ∧ next.db = state.db ∧
      next.locks = state.locks ∧ next.workers worker = .idle := by
  cases hclaim : (state.workers worker).claim? with
  | none =>
      refine ⟨state, .refl state, rfl, rfl, ?_⟩
      cases hworker : state.workers worker with
      | idle => rfl
      | running | inspecting | writing =>
          rw [hworker] at hclaim
          cases hclaim
  | some claim =>
      have hstep : (systemMachine services).step state (.stop worker) =
          some ((state.setWorker worker .idle).cancel claim.attempt) := by
        simp only [systemMachine, systemStep, hclaim]
      exact ⟨_, .of_step (.stop worker) trivial hstep, rfl, rfl, Function.update_self _ _ _⟩

/-! ### One job -/

/-- The job has ended. -/
def HasEnded (db : Db) (jobId : Uuid) : Prop :=
  ∃ row ∈ db.jobs, row.id = jobId ∧ row.status.isTerminal = true

theorem HasEnded.of_terminal {db : Db} {row : AgentJob} (hrow : row ∈ db.jobs)
    (hterminal : row.status.isTerminal = true) : HasEnded db row.id :=
  ⟨row, hrow, rfl, hterminal⟩

theorem HasEnded.moves {db after : Db} {jobId : Uuid} (hended : HasEnded db jobId)
    (h : Lifecycle db) (hmoves : Moves db after) : HasEnded after jobId := by
  obtain ⟨row, hrow, hid, hterminal⟩ := hended
  obtain ⟨later, hlater, hevolves⟩ := (hmoves.evolves h).jobs row hrow
  exact ⟨row, hevolves.absorbing hterminal ▸ hlater, hid, hterminal⟩

/-- What the worker of a run that has failed reads and is going to write. -/
theorem inspectedStage_unexpected {db : Db} {claim : AgentJob}
    (howns : claim.attempt.Owns db claim) (hunique : Table.Unique AgentJob.id db.jobs)
    (maxRetries : ℕ) : ∃ status errorCode write, status.isTerminal = true ∧
      inspectedStage claim .unexpected maxRetries db = .writing claim write ∧
      ∀ now availableAt, write.run claim now availableAt db =
        markTerminal claim.id status now claim.tenantId claim.attemptCount none
          (some errorCode) db := by
  have hread : (hasSideEffect claim db).1 = .ok claim.sideEffectCommittedAt.isSome := by
    unfold hasSideEffect
    cases hmarker : claim.sideEffectCommittedAt with
    | some committedAt => rfl
    | none =>
        have hfound := howns.requireRunning hunique
          "job lease ownership changed before side-effect inspection"
        simp only [AgentJob.attempt] at hfound
        simp only [getSideEffectMarker, Session.bind_run, hfound, Session.pure_run, hmarker,
          Option.isSome_none, Bool.false_eq_true, if_false]
  simp only [inspectedStage, hread]
  cases claim.sideEffectCommittedAt.isSome with
  | true => exact ⟨.failedUncertain, _, _, rfl, rfl, fun _ _ => rfl⟩
  | false => exact ⟨.failed, _, _, rfl, rfl, fun _ _ => rfl⟩

/-- A run that has just begun fails. -/
theorem Upkeep.fails (h : (systemMachine services).Reachable state) {worker : ℕ}
    {claim : AgentJob} (hworker : state.workers worker = .running claim false)
    (howns : claim.attempt.Owns state.db claim) (hfree : state.locks (.job claim.id) = none) :
    ∃ next, Upkeep services time maxRetries retryDelay state next ∧
      HasEnded next.db claim.id := by
  have hunique := (systemInvariant_of_reachable h).lifecycle.jobs_unique
  obtain ⟨status, errorCode, write, hterminal, hstage, hrun⟩ :=
    inspectedStage_unexpected howns hunique maxRetries
  -- the run ends with an exception, the marker is read, and the verdict is written
  let stopped := (state.setWorker worker (.inspecting claim .unexpected)).cancel claim.attempt
  let writing := stopped.setWorker worker (.writing claim write)
  have hstopped : stopped.workers worker = .inspecting claim .unexpected :=
    Function.update_self _ _ _
  have hwriting : writing.workers worker = .writing claim write := Function.update_self _ _ _
  have hends : (systemMachine services).step state (.runEnds worker .unexpected) =
      some stopped := by
    simp only [systemMachine, systemStep, hworker, RunEnd.withoutCalls, Bool.false_and]
    rfl
  have hinspects : (systemMachine services).step stopped (.inspect worker maxRetries) =
      some writing := by
    simp only [systemMachine, systemStep, hstopped]
    exact congrArg (fun stage => some (stopped.setWorker worker stage)) hstage
  have hwrites : (systemMachine services).step writing (.write worker time time) =
      some ((writing.setDb (write.run claim time time state.db).2).setWorker worker .idle) :=
    write_enabled hwriting hfree time time
  have hupkeep : Upkeep services time maxRetries retryDelay state
      ((writing.setDb (write.run claim time time state.db).2).setWorker worker .idle) :=
    ((Upkeep.of_step (.runEnds worker .unexpected) rfl hends).trans
      (.of_step (.inspect worker maxRetries) rfl hinspects)).trans
      (.of_step (.write worker time time) (le_refl time) hwrites)
  refine ⟨_, hupkeep, terminalRow status time none (some errorCode) claim, ?_, rfl, hterminal⟩
  have hmarked := markTerminal_of_owned howns hunique status time none (some errorCode)
  simp only [AgentJob.attempt] at hmarked
  simp only [SystemState.setWorker, SystemState.setDb, hrun, hmarked, setJob_jobs,
    cancelStagedApproval_jobs]
  exact Table.mem_replace_self ⟨claim, howns.mem, rfl⟩

/-- An idle worker finds a job that may be claimed. -/
theorem claim_enabled {worker : ℕ} {now : Timestamp} {excluded : List Uuid} {waiting : AgentJob}
    (hworker : state.workers worker = .idle) (hwaiting : waiting ∈ state.db.jobs)
    (hclaimable : claimable now excluded state.lockedJobs waiting = true)
    (leaseUntil : Timestamp) : ∃ claim db,
      (systemMachine services).step state (.claim worker now leaseUntil excluded) =
        some ((state.setDb db).setWorker worker (.running claim false)) := by
  cases hfirst : (state.db.jobs.filter (claimable now excluded state.lockedJobs)).argmin
      claimOrder with
  | none =>
      have hempty := List.argmin_eq_none.1 hfirst
      have hmem := List.mem_filter.2 ⟨hwaiting, hclaimable⟩
      rw [hempty] at hmem
      cases hmem
  | some job =>
      refine ⟨claimedRow now leaseUntil job, state.db.setJob (claimedRow now leaseUntil job), ?_⟩
      have hclaim : claimNext now leaseUntil excluded state.lockedJobs state.db =
          (.ok (some (claimedRow now leaseUntil job)),
            state.db.setJob (claimedRow now leaseUntil job)) := by
        unfold claimNext
        rw [Session.read_bind_run, hfirst]
        rfl
      simp only [systemMachine, systemStep, hworker, hclaim]

/-- A job in the queue is claimed, after those in front of it. -/
theorem Upkeep.claims (h : (systemMachine services).Reachable state) {waiting : AgentJob}
    (hwaiting : waiting ∈ state.db.jobs) (hqueued : waiting.status = .queued) :
    ∃ next claim, Upkeep services time maxRetries retryDelay state next ∧
      next.workers 0 = .running claim false ∧ claim.attempt.Owns next.db claim ∧
      next.locks (.job claim.id) = none ∧ claim.id = waiting.id := by
  -- by induction on the number of jobs in front of it
  induction hfront : (inFront state.db waiting).card using Nat.strong_induction_on
    generalizing state with
  | _ front ih =>
      obtain ⟨idle, hidle, hdb, -, hworker⟩ : ∃ next,
          Upkeep services time maxRetries retryDelay state next ∧ next.db = state.db ∧
          next.locks = state.locks ∧ next.workers 0 = .idle := Upkeep.idles state 0
      have hreach := hidle.reachable h
      have hinv := systemInvariant_of_reachable hreach
      rw [← hdb] at hwaiting hfront
      -- nobody holds the row of a job that is not running
      have hunlocked : idle.lockedJobs waiting.id = false := by
        cases hlock : idle.locks (.job waiting.id) with
        | none => simp only [SystemState.lockedJobs, hlock, Option.isSome_none]
        | some port =>
            obtain ⟨attempt, writes, job, -, howns, hid⟩ := running_of_locked hreach hlock
            have hsame := hinv.lifecycle.jobs_unique.eq howns.mem hwaiting hid
            exact absurd hqueued (hsame ▸ howns.not_queued)
      let now := max time waiting.availableAt
      have hclaimable : claimable now [] idle.lockedJobs waiting = true := by
        simp only [claimable, hqueued, hunlocked, now, le_max_right, List.not_mem_nil,
          not_false_eq_true, Bool.not_false, and_self, decide_true]
      obtain ⟨claim, db, hstep⟩ : ∃ claim db,
          (systemMachine services).step idle (.claim 0 now now []) =
            some ((idle.setDb db).setWorker 0 (.running claim false)) :=
        claim_enabled hworker hwaiting hclaimable now
      have hupkeep := hidle.trans (.of_step (.claim 0 now now []) ⟨le_max_left .., rfl⟩ hstep)
      have htaken := systemTaken_of_step hstep
      have hmay : (SystemStep.claim 0 now now []).MayTake waiting idle := ⟨hwaiting, hclaimable⟩
      obtain ⟨worker, _, _, _, hlabel, job, hjob, -, -, hnext, hclaims⟩ := htaken.takes hmay
      cases hlabel
      by_cases hid : job.id = waiting.id
      · refine ⟨_, _, hupkeep, hclaims, ⟨?_, rfl, rfl, rfl, rfl⟩, ?_, hid⟩
        · rw [hnext, setJob_jobs]
          exact Table.mem_replace_self ⟨job, hjob, rfl⟩
        · cases hlock : idle.locks (.job job.id) with
          | none => exact hlock
          | some port =>
              rw [SystemState.lockedJobs, ← hid, hlock] at hunlocked
              cases hunlocked
      · -- the queue in front of the job has become shorter
        have hstays : waiting ∈ ((idle.setDb db).setWorker 0 (.running claim false)).db.jobs := by
          rw [hnext, setJob_jobs]
          exact Table.mem_replace_of_ne hwaiting fun hsame => hid hsame.symm
        have hshorter := Finset.card_lt_card
          (htaken.inFront_ssubset hinv trivial ⟨hmay, hstays⟩)
        obtain ⟨next, claim, hlater, hclaimed⟩ := ih _ (hfront ▸ hshorter)
          (hupkeep.reachable h) hstays rfl
        exact ⟨next, claim, hupkeep.trans hlater, hclaimed⟩

/-! ### One sweep -/

/-- The approvals that wait for a decision. -/
def pendingIds (db : Db) : Finset Uuid :=
  ((db.approvals.filter fun approval => approval.status = .pending).map Approval.id).toFinset

theorem mem_pendingIds {db : Db} {approvalId : Uuid} : approvalId ∈ pendingIds db ↔
    ∃ approval ∈ db.approvals, approval.status = .pending ∧ approval.id = approvalId := by
  simp only [pendingIds, List.mem_toFinset, List.mem_map, List.mem_filter, decide_eq_true_eq,
    and_assoc]

theorem expiredDb_pendingIds {db : Db} {approval : Approval} {job : AgentJob}
    (hparked : Parked db approval job) (now : Timestamp) :
    pendingIds (expiredDb now approval job db) ⊂ pendingIds db := by
  have hold : ∀ row ∈ (expiredDb now approval job db).approvals, row.status = .pending →
      row ∈ db.approvals ∧ row.id ≠ approval.id := by
    intro row hrow hpending
    rcases Table.mem_of_mem_replace hrow with rfl | hother
    · cases hpending
    · exact hother
  refine Finset.ssubset_iff_of_subset (fun approvalId hmem => ?_) |>.2
    ⟨approval.id, mem_pendingIds.2 ⟨approval, hparked.mem, hparked.pending, rfl⟩, fun hmem => ?_⟩
  · obtain ⟨row, hrow, hpending, hid⟩ := mem_pendingIds.1 hmem
    exact mem_pendingIds.2 ⟨row, (hold row hrow hpending).1, hpending, hid⟩
  · obtain ⟨row, hrow, hpending, hid⟩ := mem_pendingIds.1 hmem
    exact (hold row hrow hpending).2 hid

theorem Expirations.pendingIds_subset {now : Timestamp} {selected : List Approval} {db after : Db}
    (hexpired : Expirations now db selected after) : pendingIds after ⊆ pendingIds db := by
  induction hexpired with
  | nil => exact Finset.Subset.refl _
  | cons hparked _ _ ih => exact ih.trans (expiredDb_pendingIds hparked now).subset

/-- A sweep that selects something leaves fewer approvals for the next one. -/
theorem Expirations.pendingIds_ssubset {now : Timestamp} {selected : List Approval}
    {db after : Db} (hexpired : Expirations now db selected after) (hsome : selected ≠ []) :
    pendingIds after ⊂ pendingIds db := by
  cases hexpired with
  | nil => exact absurd rfl hsome
  | cons hparked _ hrest =>
      exact hrest.pendingIds_subset.trans_ssubset (expiredDb_pendingIds hparked now)

/-- A sweep past the deadline of a pending approval selects something. -/
theorem Lifecycle.selectDue_ne_nil {db : Db} (h : Lifecycle db) {approval : Approval}
    (happroval : approval ∈ db.approvals) (hpending : approval.status = .pending)
    {deadline now : Timestamp} (hdeadline : approval.expiresAt = some deadline)
    (hdue : deadline ≤ now) : selectDue now 100 (fun _ => false) db ≠ [] := by
  obtain ⟨job, -, -, -, hcoupled, hjoined⟩ := h.joinedJob_eq happroval
  rw [hpending] at hcoupled
  have hselected : expiryDue now (fun _ => false) db approval = true := by
    simp only [expiryDue, hpending, hjoined, hdeadline]
    simpa using ⟨.inr hcoupled, hdue⟩
  have hsorted := (List.mem_insertionSort
    fun left right => expiryOrder left ≤ expiryOrder right).2
    (List.mem_filter.2 ⟨happroval, hselected⟩)
  intro hnil
  rcases List.take_eq_nil_iff.1 hnil with hzero | hempty
  · cases hzero
  · rw [hempty] at hsorted
    cases hsorted

/-! ### Every job -/

theorem Upkeep.ends_queued (h : (systemMachine services).Reachable state) {job : AgentJob}
    (hjob : job ∈ state.db.jobs) (hqueued : job.status = .queued) :
    ∃ next, Upkeep services time maxRetries retryDelay state next ∧ HasEnded next.db job.id := by
  obtain ⟨claimed, claim, hclaims, hworker, howns, hfree, hid⟩ :
      ∃ next claim, Upkeep services time maxRetries retryDelay state next ∧
        next.workers 0 = .running claim false ∧ claim.attempt.Owns next.db claim ∧
        next.locks (.job claim.id) = none ∧ claim.id = job.id := Upkeep.claims h hjob hqueued
  obtain ⟨next, hfails, hended⟩ := Upkeep.fails (hclaims.reachable h) hworker howns hfree
  exact ⟨next, hclaims.trans hfails, hid ▸ hended⟩

/-- The lease of a running job runs out. -/
theorem Upkeep.ends_running (h : (systemMachine services).Reachable state) {job : AgentJob}
    (hjob : job ∈ state.db.jobs) (hrunning : job.status = .running) :
    ∃ next, Upkeep services time maxRetries retryDelay state next ∧ HasEnded next.db job.id := by
  obtain ⟨free, hfrees, hdb, hunlocked⟩ : ∃ next,
      Upkeep services time maxRetries retryDelay state next ∧ next.db = state.db ∧
      next.locks (.job job.id) = none := Upkeep.unlocks h job.id
  have hreach := hfrees.reachable h
  have hlifecycle := (systemInvariant_of_reachable hreach).lifecycle
  rw [← hdb] at hjob
  obtain ⟨lease, hlease⟩ := Option.isSome_iff_exists.1
    ((hlifecycle.job_ok job hjob).lease.2 hrunning)
  let now := max time lease
  let recovered := free.setDb
    (recoverExpiredLeases now maxRetries retryDelay free.lockedJobs free.db)
  have hstep : (systemMachine services).step free (.recover now maxRetries retryDelay) =
      some recovered := rfl
  have hrecovers := hfrees.trans (.of_step (.recover now maxRetries retryDelay)
    ⟨le_max_left .., rfl, rfl⟩ hstep)
  have hexpired : leaseExpired now free.lockedJobs job = true := by
    simp [leaseExpired, hrunning, SystemState.lockedJobs, hunlocked, hlease, now]
  have hrow : recoveredRow now maxRetries retryDelay job ∈ recovered.db.jobs := by
    have hselected := List.mem_map_of_mem (f := AgentJob.id)
      (List.mem_filter.2 ⟨hjob, hexpired⟩)
    refine hlifecycle.recoverExpiredLeases_jobs now maxRetries retryDelay free.lockedJobs ▸ ?_
    exact List.mem_map.2 ⟨job, hjob, if_pos hselected⟩
  have hid := recoveredRow_id now maxRetries retryDelay job
  by_cases hterminal : (recoveredRow now maxRetries retryDelay job).status.isTerminal = true
  · exact ⟨recovered, hrecovers, _, hrow, hid, hterminal⟩
  · have hqueued : (recoveredRow now maxRetries retryDelay job).status = .queued := by
      unfold recoveredRow at hterminal ⊢
      split_ifs at hterminal ⊢
      · exact absurd rfl hterminal
      · rfl
      · exact absurd rfl hterminal
    obtain ⟨next, hends, hended⟩ : ∃ next,
        Upkeep services time maxRetries retryDelay recovered next ∧
        HasEnded next.db (recoveredRow now maxRetries retryDelay job).id :=
      Upkeep.ends_queued (hrecovers.reachable h) hrow hqueued
    exact ⟨next, hrecovers.trans hends, hid ▸ hended⟩

/-- The approval of a parked job runs out, and sweep after sweep gets to it. -/
theorem Upkeep.ends_awaiting (h : (systemMachine services).Reachable state) {job : AgentJob}
    (hjob : job ∈ state.db.jobs) (hawaiting : job.status = .awaitingApproval) :
    ∃ next, Upkeep services time maxRetries retryDelay state next ∧ HasEnded next.db job.id := by
  -- by induction on the number of pending approvals
  induction hpendings : (pendingIds state.db).card using Nat.strong_induction_on
    generalizing state job with
  | _ pendings ih =>
      have hlifecycle := (systemInvariant_of_reachable h).lifecycle
      obtain ⟨approval, happroval, -, hpending⟩ := (hlifecycle.approval_of_job hjob).1 hawaiting
      obtain ⟨deadline, hdeadline⟩ := Option.isSome_iff_exists.1
        (hlifecycle.approval_ok approval happroval).expires_at
      let now := max time deadline
      obtain ⟨after, hrun, hexpired⟩ := hlifecycle.expireDue_expirations now 100 fun _ => false
      have hstep : (systemMachine services).step state (.expireDue now 100) =
          some (state.setDb after) := by
        simp only [systemMachine, systemStep, hrun]
      have hsweeps : Upkeep services time maxRetries retryDelay state (state.setDb after) :=
        .of_step (.expireDue now 100) ⟨le_max_left .., rfl⟩ hstep
      have hfewer := Finset.card_lt_card (hexpired.pendingIds_ssubset
        (hlifecycle.selectDue_ne_nil happroval hpending hdeadline (le_max_right time deadline)))
      -- the job has ended, or goes on as it may
      obtain ⟨row, hrow, hevolves⟩ := ((hsweeps.keeps h).1.evolves hlifecycle).jobs job hjob
      have hreach := hsweeps.reachable h
      obtain ⟨next, hends, hended⟩ : ∃ next,
          Upkeep services time maxRetries retryDelay (state.setDb after) next ∧
          HasEnded next.db row.id := by
        cases hstatus : row.status with
        | queued => exact Upkeep.ends_queued hreach hrow hstatus
        | running => exact Upkeep.ends_running hreach hrow hstatus
        | awaitingApproval => exact ih _ (hpendings ▸ hfewer) hreach hrow hstatus rfl
        | succeeded | failed | failedUncertain =>
            exact ⟨_, .refl _, .of_terminal hrow (by rw [hstatus]; rfl)⟩
      exact ⟨next, hsweeps.trans hends, hevolves.id_eq ▸ hended⟩

theorem Upkeep.ends (h : (systemMachine services).Reachable state) {job : AgentJob}
    (hjob : job ∈ state.db.jobs) :
    ∃ next, Upkeep services time maxRetries retryDelay state next ∧ HasEnded next.db job.id := by
  cases hstatus : job.status with
  | queued => exact Upkeep.ends_queued h hjob hstatus
  | running => exact Upkeep.ends_running h hjob hstatus
  | awaitingApproval => exact Upkeep.ends_awaiting h hjob hstatus
  | succeeded | failed | failedUncertain =>
      exact ⟨state, .refl state, .of_terminal hjob (by rw [hstatus]; rfl)⟩

/-- The jobs of a list end, one after the other. -/
theorem Upkeep.ends_all (h : (systemMachine services).Reachable state) (jobIds : List Uuid)
    (hjobIds : ∀ jobId ∈ jobIds, jobId ∈ state.db.jobs.map AgentJob.id) :
    ∃ next, Upkeep services time maxRetries retryDelay state next ∧
      ∀ jobId ∈ jobIds, HasEnded next.db jobId := by
  induction jobIds with
  | nil => exact ⟨state, .refl state, fun _ hmem => absurd hmem List.not_mem_nil⟩
  | cons jobId rest ih =>
      obtain ⟨middle, hrest, hended⟩ := ih fun other hother =>
        hjobIds other (List.mem_cons_of_mem _ hother)
      have hreach := hrest.reachable h
      have hmem := hjobIds jobId List.mem_cons_self
      rw [← (hrest.keeps h).2] at hmem
      obtain ⟨job, hjob, rfl⟩ := List.mem_map.1 hmem
      obtain ⟨next, hends, hfirst⟩ : ∃ next,
          Upkeep services time maxRetries retryDelay middle next ∧ HasEnded next.db job.id :=
        Upkeep.ends hreach hjob
      refine ⟨next, hrest.trans hends, fun other hother => ?_⟩
      rcases List.mem_cons.1 hother with rfl | hlater
      · exact hfirst
      · exact (hended other hlater).moves (systemInvariant_of_reachable hreach).lifecycle
          (hends.keeps hreach).1

/-- No job is stuck.  From every state that the system can get into, whatever the retry
settings and however late it is, upkeep alone can bring all jobs to their ends. -/
theorem upkeep_ends_all_jobs (h : (systemMachine services).Reachable state) (time : Timestamp)
    (maxRetries : ℕ) (retryDelay : ℤ) : ∃ final,
      Upkeep services time maxRetries retryDelay state final ∧
      final.db.jobs.map AgentJob.id = state.db.jobs.map AgentJob.id ∧
      ∀ job ∈ final.db.jobs, job.status.isTerminal = true := by
  obtain ⟨final, hupkeep, hended⟩ : ∃ next,
      Upkeep services time maxRetries retryDelay state next ∧
      ∀ jobId ∈ state.db.jobs.map AgentJob.id, HasEnded next.db jobId :=
    Upkeep.ends_all h _ fun _ hmem => hmem
  have hids := (hupkeep.keeps h).2
  refine ⟨final, hupkeep, hids, fun job hjob => ?_⟩
  obtain ⟨row, hrow, hid, hterminal⟩ := hended job.id (hids ▸ List.mem_map_of_mem hjob)
  have hunique := (systemInvariant_of_reachable (hupkeep.reachable h)).lifecycle.jobs_unique
  exact hunique.eq hrow hjob hid ▸ hterminal

end Upkeep

/-- The state in which a transaction is past its fence. -/
def heldState : SystemState :=
  ((systemMachine noServices).run idleSystem (timedOutSteps.take 6)).getD idleSystem

/-- A worker runs its job, whose row is locked. -/
theorem upkeep_ends_all_jobs_held : heldState.locks (.job 1) = some 0 ∧ ∃ final,
    Upkeep noServices 100 2 10 heldState final ∧
    final.db.jobs.map AgentJob.id = heldState.db.jobs.map AgentJob.id ∧
    ∀ job ∈ final.db.jobs, job.status.isTerminal = true := by
  have hrun : (systemMachine noServices).run idleSystem (timedOutSteps.take 6) =
      some heldState := rfl
  have hreach := Machine.Reachable.run (.initial (idleSystem_initial noServices)) _ hrun
  exact ⟨rfl, upkeep_ends_all_jobs hreach 100 2 10⟩

end IntegraIntake
