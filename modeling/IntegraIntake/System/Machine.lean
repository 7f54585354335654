import Mathlib.Logic.Function.Basic
import IntegraIntake.Lifecycle.Machine
import IntegraIntake.Tools.Postgres
import IntegraIntake.Workers.AgentWorker

/-!
# Workers, tool transactions and the rest of the system

Any number of workers and of tool-port transactions in flight, next to lease
recovery, heartbeats, requests for approval, decisions, sweeps and new jobs,
under READ COMMITTED with row locks held to commit.

A worker's marker read and its final write are separate steps.  A port
transaction goes on when its worker has given up: it checks the cancellation
flag for the last time in the step that locks the job row, and commits, if at
all, at any later time.  A transaction sees the committed database; what it has
written becomes visible when it commits.

Reads that lock a row nobody is going to write (an existing artifact, the rows
a decision reads) do not wait here.  That only adds interleavings.
-/

namespace IntegraIntake

open Library JobRepository

/-- The row locks that port transactions hold. -/
inductive Lock where
  | job (jobId : Uuid)
  /-- The idempotency record of a job. -/
  | idempotency (jobId : Uuid)
  /-- A case row, or the key of one that is being inserted. -/
  | case (caseId : Uuid)
  /-- The unique key of an artifact that is being inserted. -/
  | artifact (key : Uuid × Uuid × ArtifactKind)
  deriving DecidableEq

/-- Where a worker stands. -/
inductive WorkerStage where
  | idle
  /-- The claimed job runs; `called` says whether the port was called. -/
  | running (claim : AgentJob) (called : Bool)
  /-- The run has ended and the marker is going to be read. -/
  | inspecting (claim : AgentJob) (ending : RunEnd)
  /-- The final write is going to be made. -/
  | writing (claim : AgentJob) (write : FinalWrite)

/-- Where a tool-port transaction stands. -/
inductive PortStage where
  | inactive
  | started (attempt : Attempt) (mutation : PortMutation)
  /-- The artifact was not found and is going to be inserted. -/
  | inserting (attempt : Attempt) (newId : Uuid) (kind : ArtifactKind) (payload : Json)
  | written (attempt : Attempt) (writes : PortWrites)
  /-- The job row is locked and the last cancellation check is passed. -/
  | fenced (attempt : Attempt) (writes : PortWrites) (job : AgentJob)
  | returned (attempt : Attempt) (outcome : Except AppError PortResult)
  | aborted

/-- The committed database, with the workers, the transactions and what they hold. -/
structure SystemState where
  db : Db
  workers : ℕ → WorkerStage
  ports : ℕ → PortStage
  locks : Lock → Option ℕ
  /-- The cancellation event of an attempt. -/
  cancelled : Attempt → Bool

/-- What may happen next, with the clock values and new identifiers that it takes. -/
inductive SystemStep where
  | enqueue (new : NewJob)
  | claim (worker : ℕ) (now leaseUntil : Timestamp) (excluded : List Uuid)
  | renewLease (attempt : Attempt) (leaseUntil : Timestamp)
  | requestApproval (attempt : Attempt) (newId : Uuid) (action : PendingAction)
      (policyReason : String) (expiresIn : ℤ) (now : Timestamp)
  | runEnds (worker : ℕ) (ending : RunEnd)
  | inspect (worker : ℕ) (maxRetries : ℕ)
  | write (worker : ℕ) (now availableAt : Timestamp)
  /-- The worker stops: it lost its lease, was cancelled or crashed. -/
  | stop (worker : ℕ)
  | recover (now : Timestamp) (maxRetries : ℕ) (retryDelay : ℤ)
  | decide (newId approvalId : Uuid) (operator : Operator) (request : DecisionRequest)
      (now : Timestamp)
  | expireDue (now : Timestamp) (limit : ℕ)
  | portBegin (worker port : ℕ) (mutation : PortMutation)
  | portOpen (port : ℕ)
  | portInsert (port : ℕ)
  | portFence (port : ℕ)
  | portCommit (port : ℕ) (now : Timestamp)
  /-- The transaction is rolled back: its coroutine or connection is gone. -/
  | portAbort (port : ℕ)

namespace SystemState

/-- A transaction commits. -/
def setDb (state : SystemState) (db : Db) : SystemState :=
  { state with db := db }

/-- A worker moves on. -/
def setWorker (state : SystemState) (worker : ℕ) (stage : WorkerStage) : SystemState :=
  { state with workers := Function.update state.workers worker stage }

/-- A port transaction moves on. -/
def setPort (state : SystemState) (port : ℕ) (stage : PortStage) : SystemState :=
  { state with ports := Function.update state.ports port stage }

/-- The cancellation event of an attempt is set. -/
def cancel (state : SystemState) (attempt : Attempt) : SystemState :=
  { state with cancelled := Function.update state.cancelled attempt true }

/-- Give free locks to a port. -/
def take (state : SystemState) (port : ℕ) (locks : List Lock) : SystemState :=
  { state with locks := fun lock => if lock ∈ locks then some port else state.locks lock }

/-- Let go of everything a port holds. -/
def release (state : SystemState) (port : ℕ) : SystemState :=
  { state with
    locks := fun lock => if state.locks lock = some port then none else state.locks lock }

/-- No port holds any of the locks. -/
def free (state : SystemState) (locks : List Lock) : Bool :=
  locks.all fun lock => (state.locks lock).isNone

/-- The job rows that `SKIP LOCKED` passes over. -/
def lockedJobs (state : SystemState) (jobId : Uuid) : Bool :=
  (state.locks (.job jobId)).isSome

end SystemState

/-- The locks that the first statements of a mutation wait for.  A case that
does not exist is not waited for. -/
def PortMutation.locks (attempt : Attempt) (db : Db) : PortMutation → List Lock
  | .createCase newId _ _ _ => [.idempotency attempt.jobId, .case newId]
  | .createArtifact _ _ _ => []
  | .updateCaseFields caseId _ =>
    if (db.case? caseId attempt.tenantId).isSome then [.case caseId] else []

/-- The stage that a port is in after some statements. -/
def PortOpening.stage (attempt : Attempt) : PortOpening → PortStage
  | .ends outcome => .returned attempt outcome
  | .writes value => .written attempt value
  | .inserts newId kind payload => .inserting attempt newId kind payload

/-- The locks among `locks` that a port still holds after some statements. -/
def PortOpening.held (locks : List Lock) : PortOpening → List Lock
  | .writes _ => locks
  | _ => []

/-- Take the stage that `opening` leads to, waiting for `locks`. -/
def openPort (state : SystemState) (port : ℕ) (attempt : Attempt) (locks : List Lock)
    (opening : PortOpening) : Option SystemState :=
  if state.free locks then
    some ((state.setPort port (opening.stage attempt)).take port (opening.held locks))
  else none

/-- Where a worker goes when its run has ended. -/
def AfterRun.stage (claim : AgentJob) (ending : RunEnd) : AfterRun → WorkerStage
  | .inspect => .inspecting claim ending
  | .write value => .writing claim value

/-- Where a worker goes after its marker read. -/
def inspectedStage (claim : AgentJob) (ending : RunEnd) (maxRetries : ℕ) (db : Db) : WorkerStage :=
  match (hasSideEffect claim db).1 with
  | .error _ => .idle
  | .ok true => .writing claim ending.uncertainWrite
  | .ok false => .writing claim (ending.cleanWrite maxRetries claim.attemptCount)

/-- The attempt that an open transaction belongs to. -/
def PortStage.attempt? : PortStage → Option Attempt
  | .started attempt _ => some attempt
  | .inserting attempt _ _ _ => some attempt
  | .written attempt _ => some attempt
  | .fenced attempt _ _ => some attempt
  | _ => none

/-- The claim that a worker stage is about. -/
def WorkerStage.claim? : WorkerStage → Option AgentJob
  | .idle => none
  | .running claim _ => some claim
  | .inspecting claim _ => some claim
  | .writing claim _ => some claim

/-- The result of one step; `none` when it is not enabled. -/
def systemStep (services : Services) (state : SystemState) : SystemStep → Option SystemState
  | .enqueue new => some (state.setDb (insertJob new state.db).2)
  | .claim worker now leaseUntil excluded =>
    match state.workers worker with
    | .idle =>
      match claimNext now leaseUntil excluded state.lockedJobs state.db with
      | (.ok (some claim), db) => some ((state.setDb db).setWorker worker (.running claim false))
      | _ => none
    | _ => none
  | .renewLease attempt leaseUntil =>
    if state.free [.job attempt.jobId] then
      some (state.setDb
        (renewLease attempt.jobId attempt.tenantId attempt.count leaseUntil state.db).2)
    else none
  | .requestApproval attempt newId action policyReason expiresIn now =>
    if state.free [.job attempt.jobId] then
      some (state.setDb (ApprovalRepository.createForRunningJob newId attempt.tenantId attempt.jobId
        attempt.count action policyReason expiresIn now state.db).2)
    else none
  | .runEnds worker ending =>
    match state.workers worker with
    | .running claim called =>
      if ending.withoutCalls && called then none
      else some ((state.setWorker worker (ending.next.stage claim ending)).cancel claim.attempt)
    | _ => none
  | .inspect worker maxRetries =>
    match state.workers worker with
    | .inspecting claim ending =>
      some (state.setWorker worker (inspectedStage claim ending maxRetries state.db))
    | _ => none
  | .write worker now availableAt =>
    match state.workers worker with
    | .writing claim write =>
      if state.free [.job claim.id] then
        some ((state.setDb (write.run claim now availableAt state.db).2).setWorker worker .idle)
      else none
    | _ => none
  | .stop worker =>
    match (state.workers worker).claim? with
    | some claim => some ((state.setWorker worker .idle).cancel claim.attempt)
    | none => none
  | .recover now maxRetries retryDelay =>
    some (state.setDb (recoverExpiredLeases now maxRetries retryDelay state.lockedJobs state.db))
  | .decide newId approvalId operator request now =>
    -- an insert waits for an uncommitted row with its key
    if state.free [.case newId] then
      some (state.setDb
        (ApprovalDecision.decide services newId approvalId operator request now state.db).2)
    else none
  | .expireDue now limit =>
    some (state.setDb (ApprovalRepository.expireDue now limit (fun _ => false) state.db).2)
  | .portBegin worker port mutation =>
    match state.workers worker, state.ports port with
    | .running claim _, .inactive =>
      -- the executor checks the cancellation before every call
      if state.cancelled claim.attempt then none
      else some ((state.setWorker worker (.running claim true)).setPort port
        (.started claim.attempt mutation))
    | _, _ => none
  | .portOpen port =>
    match state.ports port with
    | .started attempt mutation =>
      openPort state port attempt (mutation.locks attempt state.db)
        (mutation.opening attempt state.db)
    | _ => none
  | .portInsert port =>
    match state.ports port with
    | .inserting attempt newId kind payload =>
      openPort state port attempt [.artifact (attempt.tenantId, attempt.jobId, kind)]
        (insertArtifact attempt newId kind payload state.db)
    | _ => none
  | .portFence port =>
    match state.ports port with
    | .written attempt writes =>
      if state.free [.job attempt.jobId] then
        -- a worker that has given up is not followed by a commit
        if state.cancelled attempt then
          some ((state.setPort port (.returned attempt (.error .cancelled))).release port)
        else match fencedJob attempt state.db with
          | none => some ((state.setPort port (.returned attempt
              (.error (.runtimeError "agent job is unavailable")))).release port)
          | some job =>
            some ((state.setPort port (.fenced attempt writes job)).take port [.job job.id])
      else none
    | _ => none
  | .portCommit port now =>
    match state.ports port with
    | .fenced attempt writes job =>
      some (((state.setDb ((writes.apply state.db).setJob (markedRow now job))).setPort port
        (.returned attempt (.ok writes.result))).release port)
    | _ => none
  | .portAbort port =>
    match state.ports port with
    | .started .. | .inserting .. | .written .. | .fenced .. =>
      some ((state.setPort port .aborted).release port)
    | _ => none

/-- Runs of the system, from a database without jobs; the cases that are there
came from elsewhere. -/
def systemMachine (services : Services) : Machine SystemState SystemStep where
  initial state := state.db.jobs = [] ∧ state.db.approvals = [] ∧ state.db.idempotency = [] ∧
    state.db.artifacts = [] ∧ Table.Unique IntakeCase.id state.db.cases ∧
    (∀ event ∈ state.db.caseEvents, ∃ case ∈ state.db.cases, case.id = event.caseId) ∧
    (∀ worker, state.workers worker = .idle) ∧ (∀ port, state.ports port = .inactive) ∧
    (∀ lock, state.locks lock = none) ∧ ∀ attempt, state.cancelled attempt = false
  step := systemStep services

/-! ## The steps that are taken -/

/-- Every step that is taken, with what made it possible. -/
inductive SystemTaken (services : Services) (state : SystemState) :
    SystemStep → SystemState → Prop
  | enqueue {new : NewJob} :
      SystemTaken services state (.enqueue new) (state.setDb (insertJob new state.db).2)
  | claim {worker : ℕ} {now leaseUntil : Timestamp} {excluded : List Uuid} {claim : AgentJob}
      {db : Db} : state.workers worker = .idle →
      claimNext now leaseUntil excluded state.lockedJobs state.db = (.ok (some claim), db) →
      SystemTaken services state (.claim worker now leaseUntil excluded)
        ((state.setDb db).setWorker worker (.running claim false))
  | renewLease {attempt : Attempt} {leaseUntil : Timestamp} :
      state.locks (.job attempt.jobId) = none →
      SystemTaken services state (.renewLease attempt leaseUntil) (state.setDb
        (JobRepository.renewLease attempt.jobId attempt.tenantId attempt.count leaseUntil
          state.db).2)
  | requestApproval {attempt : Attempt} {newId : Uuid} {action : PendingAction}
      {policyReason : String} {expiresIn : ℤ} {now : Timestamp} :
      state.locks (.job attempt.jobId) = none →
      SystemTaken services state
        (.requestApproval attempt newId action policyReason expiresIn now)
        (state.setDb (ApprovalRepository.createForRunningJob newId attempt.tenantId attempt.jobId
          attempt.count action policyReason expiresIn now state.db).2)
  | runEnds {worker : ℕ} {ending : RunEnd} {claim : AgentJob} {called : Bool} :
      state.workers worker = .running claim called →
      (ending.withoutCalls = true → called = false) →
      SystemTaken services state (.runEnds worker ending)
        ((state.setWorker worker (ending.next.stage claim ending)).cancel claim.attempt)
  | inspect {worker maxRetries : ℕ} {ending : RunEnd} {claim : AgentJob} :
      state.workers worker = .inspecting claim ending →
      SystemTaken services state (.inspect worker maxRetries)
        (state.setWorker worker (inspectedStage claim ending maxRetries state.db))
  | write {worker : ℕ} {now availableAt : Timestamp} {claim : AgentJob} {write : FinalWrite} :
      state.workers worker = .writing claim write → state.locks (.job claim.id) = none →
      SystemTaken services state (.write worker now availableAt)
        ((state.setDb (write.run claim now availableAt state.db).2).setWorker worker .idle)
  | stop {worker : ℕ} {claim : AgentJob} : (state.workers worker).claim? = some claim →
      SystemTaken services state (.stop worker)
        ((state.setWorker worker .idle).cancel claim.attempt)
  | recover {now : Timestamp} {maxRetries : ℕ} {retryDelay : ℤ} :
      SystemTaken services state (.recover now maxRetries retryDelay) (state.setDb
        (recoverExpiredLeases now maxRetries retryDelay state.lockedJobs state.db))
  | decide {newId approvalId : Uuid} {operator : Operator} {request : DecisionRequest}
      {now : Timestamp} : state.locks (.case newId) = none →
      SystemTaken services state (.decide newId approvalId operator request now) (state.setDb
        (ApprovalDecision.decide services newId approvalId operator request now state.db).2)
  | expireDue {now : Timestamp} {limit : ℕ} :
      SystemTaken services state (.expireDue now limit)
        (state.setDb (ApprovalRepository.expireDue now limit (fun _ => false) state.db).2)
  | portBegin {worker port : ℕ} {mutation : PortMutation} {claim : AgentJob} {called : Bool} :
      state.workers worker = .running claim called → state.ports port = .inactive →
      state.cancelled claim.attempt = false →
      SystemTaken services state (.portBegin worker port mutation)
        ((state.setWorker worker (.running claim true)).setPort port
          (.started claim.attempt mutation))
  | portOpen {port : ℕ} {attempt : Attempt} {mutation : PortMutation} :
      state.ports port = .started attempt mutation →
      (∀ lock ∈ mutation.locks attempt state.db, state.locks lock = none) →
      SystemTaken services state (.portOpen port)
        ((state.setPort port ((mutation.opening attempt state.db).stage attempt)).take port
          ((mutation.opening attempt state.db).held (mutation.locks attempt state.db)))
  | portInsert {port : ℕ} {attempt : Attempt} {newId : Uuid} {kind : ArtifactKind}
      {payload : Json} : state.ports port = .inserting attempt newId kind payload →
      state.locks (.artifact (attempt.tenantId, attempt.jobId, kind)) = none →
      SystemTaken services state (.portInsert port)
        ((state.setPort port
          ((insertArtifact attempt newId kind payload state.db).stage attempt)).take
          port ((insertArtifact attempt newId kind payload state.db).held
            [.artifact (attempt.tenantId, attempt.jobId, kind)]))
  | portRefused {port : ℕ} {attempt : Attempt} {writes : PortWrites} {error : AppError} :
      state.ports port = .written attempt writes →
      state.cancelled attempt = true ∨ fencedJob attempt state.db = none →
      SystemTaken services state (.portFence port)
        ((state.setPort port (.returned attempt (.error error))).release port)
  | portFence {port : ℕ} {attempt : Attempt} {writes : PortWrites} {job : AgentJob} :
      state.ports port = .written attempt writes → state.locks (.job attempt.jobId) = none →
      state.cancelled attempt = false → fencedJob attempt state.db = some job →
      SystemTaken services state (.portFence port)
        ((state.setPort port (.fenced attempt writes job)).take port [.job job.id])
  | portCommit {port : ℕ} {now : Timestamp} {attempt : Attempt} {writes : PortWrites}
      {job : AgentJob} : state.ports port = .fenced attempt writes job →
      SystemTaken services state (.portCommit port now)
        (((state.setDb ((writes.apply state.db).setJob (markedRow now job))).setPort port
          (.returned attempt (.ok writes.result))).release port)
  | portAbort {port : ℕ} {attempt : Attempt} : (state.ports port).attempt? = some attempt →
      SystemTaken services state (.portAbort port)
        ((state.setPort port .aborted).release port)

theorem free_eq_true {state : SystemState} {locks : List Lock} :
    state.free locks = true ↔ ∀ lock ∈ locks, state.locks lock = none := by
  simp [SystemState.free]

theorem systemTaken_of_step {services : Services} {state next : SystemState} {label : SystemStep}
    (h : (systemMachine services).step state label = some next) :
    SystemTaken services state label next := by
  change systemStep services state label = some next at h
  cases label with
  | enqueue new =>
      cases h
      exact .enqueue
  | claim worker now leaseUntil excluded =>
      cases hworker : state.workers worker <;> simp only [systemStep, hworker] at h <;>
        try cases h
      split at h
      · rename_i claim db hclaim
        cases h
        exact .claim hworker hclaim
      · cases h
  | renewLease attempt leaseUntil =>
      simp only [systemStep, Option.ite_none_right_eq_some, free_eq_true, List.mem_singleton,
        forall_eq, Option.some.injEq] at h
      exact h.2 ▸ .renewLease h.1
  | requestApproval attempt newId action policyReason expiresIn now =>
      simp only [systemStep, Option.ite_none_right_eq_some, free_eq_true, List.mem_singleton,
        forall_eq, Option.some.injEq] at h
      exact h.2 ▸ .requestApproval h.1
  | runEnds worker ending =>
      cases hworker : state.workers worker <;> simp only [systemStep, hworker] at h <;>
        try cases h
      rename_i claim called
      simp only [Option.ite_none_left_eq_some, Bool.and_eq_true, not_and, Bool.not_eq_true,
        Option.some.injEq] at h
      exact h.2 ▸ .runEnds hworker h.1
  | inspect worker maxRetries =>
      cases hworker : state.workers worker <;> simp only [systemStep, hworker] at h <;> cases h
      exact .inspect hworker
  | write worker now availableAt =>
      cases hworker : state.workers worker <;> simp only [systemStep, hworker] at h <;>
        try cases h
      simp only [Option.ite_none_right_eq_some, free_eq_true, List.mem_singleton, forall_eq,
        Option.some.injEq] at h
      exact h.2 ▸ .write hworker h.1
  | stop worker =>
      simp only [systemStep] at h
      split at h
      · rename_i claim hclaim
        cases h
        exact .stop hclaim
      · cases h
  | recover now maxRetries retryDelay =>
      cases h
      exact .recover
  | decide newId approvalId operator request now =>
      simp only [systemStep, Option.ite_none_right_eq_some, free_eq_true, List.mem_singleton,
        forall_eq, Option.some.injEq] at h
      exact h.2 ▸ .decide h.1
  | expireDue now limit =>
      cases h
      exact .expireDue
  | portBegin worker port mutation =>
      simp only [systemStep] at h
      split at h
      · rename_i claim called hworker hport
        simp only [Option.ite_none_left_eq_some, Bool.not_eq_true, Option.some.injEq] at h
        exact h.2 ▸ .portBegin hworker hport h.1
      · cases h
  | portOpen port =>
      cases hport : state.ports port <;> simp only [systemStep, hport] at h <;> try cases h
      simp only [openPort, Option.ite_none_right_eq_some, free_eq_true, Option.some.injEq] at h
      exact h.2 ▸ .portOpen hport h.1
  | portInsert port =>
      cases hport : state.ports port <;> simp only [systemStep, hport] at h <;> try cases h
      simp only [openPort, Option.ite_none_right_eq_some, free_eq_true, List.mem_singleton,
        forall_eq, Option.some.injEq] at h
      exact h.2 ▸ .portInsert hport h.1
  | portFence port =>
      cases hport : state.ports port <;> simp only [systemStep, hport] at h <;> try cases h
      rename_i attempt writes
      simp only [Option.ite_none_right_eq_some, free_eq_true, List.mem_singleton, forall_eq] at h
      obtain ⟨hfree, h⟩ := h
      cases hcancelled : state.cancelled attempt with
      | true =>
          simp only [hcancelled, if_true, Option.some.injEq] at h
          exact h ▸ .portRefused hport (.inl hcancelled)
      | false =>
          simp only [hcancelled, Bool.false_eq_true, if_false] at h
          cases hjob : fencedJob attempt state.db with
          | none =>
              simp only [hjob, Option.some.injEq] at h
              exact h ▸ .portRefused hport (.inr hjob)
          | some job =>
              simp only [hjob, Option.some.injEq] at h
              exact h ▸ .portFence hport hfree hcancelled hjob
  | portCommit port now =>
      cases hport : state.ports port <;> simp only [systemStep, hport] at h <;> cases h
      exact .portCommit hport
  | portAbort port =>
      cases hport : state.ports port <;> simp only [systemStep, hport] at h <;> cases h <;>
        exact .portAbort (by rw [hport]; rfl)

end IntegraIntake
