import Mathlib.Logic.Function.Basic
import IntegraIntake.Intake.Requests
import IntegraIntake.Jobs.Repository
import IntegraIntake.Library.Machine
import IntegraIntake.Tenants.Compiled

/-!
# Concurrent enqueue calls

`IntakeEnqueueService`: any number of calls, each a chain of statements between
which the others may run, under READ COMMITTED.  A row that is inserted but not
committed is invisible; an insert with the same unique key waits for it.

The locked lookup of a record and what follows when it is found only read, so
they are one step.  The profile that a call resolves and the document that the
normalizer returns, in time or not, are in the labels.
-/

namespace IntegraIntake

open Library JobRepository

/-- `ResolvedTenantProfile`. -/
structure ResolvedTenantProfile where
  snapshot : List (String × Json)
  sha256 : String
  compiled : Option CompiledTenantProfile

/-- `EnqueueResult`. -/
structure EnqueueResult where
  jobId : Uuid
  created : Bool
  traceId : Uuid
  deriving DecidableEq, Repr

/-- What the service uses from outside. -/
structure IntakeServices where
  /-- `hashlib.sha256(value).hexdigest()`. -/
  sha256 : ByteArray → String
  /-- Whether `resolve_persisted_profile` returns for a snapshot, a hash and a slug. -/
  resolvePersisted : List (String × Json) → String → String → Bool

/-! ## The statements -/

/-- `_source_snapshot`. -/
def sourceSnapshot (source : TrustedSource) : Json :=
  (Plain.obj ([("channel", .str source.channel), ("subject", .str source.subject),
      ("body", .str source.body)] ++
    optionalMember "sender" (source.sender.map .str) ++
    optionalMember "document" (source.document.map fun document => .obj document.modelDump))).toJson

/-- The columns of `uq_idempotency_records_tenant_id_key`. -/
def IdempotencyRecord.scope (record : IdempotencyRecord) : Uuid × String :=
  (record.tenantId, record.key)

/-- `get_idempotency_for_tenant`. -/
def getIdempotencyForTenant (tenantId : Uuid) (key : String) (db : Db) :
    Option IdempotencyRecord :=
  Table.lookup IdempotencyRecord.scope (tenantId, key) db.idempotency

/-- `JobObservationIdentity`. -/
structure JobObservationIdentity where
  traceId : Uuid
  tenantConfigSnapshot : List (String × Json)
  tenantConfigSha256 : String

/-- `get_observation_identity`. -/
def getObservationIdentity (jobId tenantId : Uuid) (db : Db) : Option JobObservationIdentity :=
  match db.job? jobId tenantId with
  | none => none
  | some job =>
    match job.tenantConfigSnapshot with
    | .obj snapshot => some ⟨job.traceId, snapshot, job.tenantConfigSha256⟩
    | _ => none

/-- `_existing_result`. -/
def existingResult (services : IntakeServices) (call : EnqueueCall) (existing : IdempotencyRecord)
    (db : Db) : Except AppError EnqueueResult :=
  if existing.requestHash ≠ call.requestHash services.sha256 then
    .error (.idempotencyConflict "idempotency key conflicts with request")
  else
    match existing.jobId with
    | none => .error (.runtimeError "idempotency record has no job")
    | some jobId =>
      match getObservationIdentity jobId call.tenantId db with
      | none => .error (.runtimeError "idempotency record has no observation identity")
      | some identity =>
        if services.resolvePersisted identity.tenantConfigSnapshot identity.tenantConfigSha256
            call.tenantSlug then
          .ok ⟨jobId, false, identity.traceId⟩
        else .error .tenantProfileUnavailable

/-- The rows of `create_job` and `create_idempotency_record`. -/
def EnqueueCall.newJob (services : IntakeServices) (call : EnqueueCall) (key : String)
    (source : TrustedSource) (profile : ResolvedTenantProfile) (newId : Uuid) (now : Timestamp) :
    NewJob where
  id := newId
  tenantId := call.tenantId
  traceId := call.traceId
  sourceSnapshot := sourceSnapshot source
  tenantConfigSnapshot := .obj profile.snapshot
  tenantConfigSha256 := profile.sha256
  riskSignals := .obj [("safety_or_legal_risk", .bool call.riskSignals.safetyOrLegalRisk)]
  availableAt := now
  key := key
  requestHash := call.requestHash services.sha256

/-- The source of a request with an attachment. -/
def EnqueueDocumentIntakeCommand.source (command : EnqueueDocumentIntakeCommand)
    (normalized : NormalizedDocument) : TrustedSource where
  channel := command.document.channel
  subject := command.document.subject
  body := command.document.body
  document := some normalized
  sender := command.sender

/-! ## States -/

/-- Where a call stands. -/
inductive EnqueueStage where
  /-- In `_existing_document_result`. -/
  | probing
  /-- The probe has found nothing and the profile is going to be resolved. -/
  | resolving
  | normalizing (profile : ResolvedTenantProfile)
  /-- In `_enqueue`, before the locked lookup. -/
  | looking (source : TrustedSource) (profile : ResolvedTenantProfile)
  /-- In the savepoint, before the insert of the job. -/
  | inserting (source : TrustedSource) (profile : ResolvedTenantProfile)
  | jobInserted (new : NewJob)
  | recordInserted (new : NewJob)
  /-- After an `IntegrityError`: the savepoint is rolled back. -/
  | recovering

/-- A call: not made yet, under way, or ended. -/
inductive EnqueueProcess where
  | idle
  | active (call : EnqueueCall) (key : String) (stage : EnqueueStage)
  | returned (call : EnqueueCall) (outcome : Except AppError EnqueueResult)
  /-- The call was cancelled or lost its connection; its transaction is rolled back. -/
  | aborted

/-- The unique keys of rows that are not yet committed. -/
inductive UniqueKey where
  | jobId (id : Uuid)
  | traceId (id : Uuid)
  | recordScope (scope : Uuid × String)
  deriving DecidableEq

/-- The committed database, with the calls and their uncommitted rows. -/
structure EnqueueState where
  db : Db
  processes : ℕ → EnqueueProcess
  /-- Which call has inserted a row with the key and not committed it. -/
  pending : UniqueKey → Option ℕ

/-- The next statement of a call, with what it gets from outside. -/
inductive EnqueueStep where
  | enqueue (process : ℕ) (command : EnqueueIntakeCommand) (profile : ResolvedTenantProfile)
  | enqueueDocument (process : ℕ) (command : EnqueueDocumentIntakeCommand)
  | probe (process : ℕ)
  | resolve (process : ℕ) (profile : ResolvedTenantProfile)
  | normalize (process : ℕ) (normalized : NormalizedDocument)
  | lookup (process : ℕ)
  | insertJob (process : ℕ) (newId : Uuid) (now : Timestamp)
  | insertRecord (process : ℕ)
  | commit (process : ℕ)
  | recover (process : ℕ)
  | abort (process : ℕ)

namespace EnqueueState

/-- A call moves on. -/
def setProcess (state : EnqueueState) (process : ℕ) (value : EnqueueProcess) : EnqueueState :=
  { state with processes := Function.update state.processes process value }

/-- Rows with the keys `keys` are inserted by `process`. -/
def hold (state : EnqueueState) (process : ℕ) (keys : List UniqueKey) : EnqueueState :=
  { state with pending := fun key => if key ∈ keys then some process else state.pending key }

/-- The rows of `process` are committed or rolled back. -/
def release (state : EnqueueState) (process : ℕ) : EnqueueState :=
  { state with
    pending := fun key => if state.pending key = some process then none else state.pending key }

/-- No uncommitted row has one of the keys. -/
def free (state : EnqueueState) (keys : List UniqueKey) : Bool :=
  keys.all fun key => (state.pending key).isNone

/-- Both rows of a call become visible. -/
def commit (state : EnqueueState) (new : NewJob) : EnqueueState :=
  { state with db := { state.db with
      jobs := state.db.jobs ++ [new.row]
      idempotency := state.db.idempotency ++ [new.record] } }

@[simp] theorem setProcess_db (state : EnqueueState) (process : ℕ) (value : EnqueueProcess) :
    (state.setProcess process value).db = state.db := rfl

@[simp] theorem setProcess_pending (state : EnqueueState) (process : ℕ) (value : EnqueueProcess) :
    (state.setProcess process value).pending = state.pending := rfl

@[simp] theorem setProcess_self (state : EnqueueState) (process : ℕ) (value : EnqueueProcess) :
    (state.setProcess process value).processes process = value :=
  Function.update_self ..

theorem setProcess_of_ne (state : EnqueueState) {process other : ℕ} (value : EnqueueProcess)
    (hne : other ≠ process) :
    (state.setProcess process value).processes other = state.processes other :=
  Function.update_of_ne hne ..

@[simp] theorem hold_db (state : EnqueueState) (process : ℕ) (keys : List UniqueKey) :
    (state.hold process keys).db = state.db := rfl

@[simp] theorem hold_processes (state : EnqueueState) (process : ℕ) (keys : List UniqueKey) :
    (state.hold process keys).processes = state.processes := rfl

@[simp] theorem release_db (state : EnqueueState) (process : ℕ) :
    (state.release process).db = state.db := rfl

@[simp] theorem release_processes (state : EnqueueState) (process : ℕ) :
    (state.release process).processes = state.processes := rfl

@[simp] theorem commit_processes (state : EnqueueState) (new : NewJob) :
    (state.commit new).processes = state.processes := rfl

@[simp] theorem commit_pending (state : EnqueueState) (new : NewJob) :
    (state.commit new).pending = state.pending := rfl

theorem free_iff {state : EnqueueState} {keys : List UniqueKey} :
    state.free keys = true ↔ ∀ key ∈ keys, state.pending key = none := by
  simp [free]

end EnqueueState

/-! ## Steps -/

/-- The first part of `enqueue`, up to the transaction of `_enqueue`. -/
def beginEnqueue (command : EnqueueIntakeCommand) (profile : ResolvedTenantProfile) :
    EnqueueProcess :=
  match (EnqueueCall.enqueue command).key with
  | none => .returned (.enqueue command) (.error (.valueError "invalid idempotency key"))
  | some key => .active (.enqueue command) key (.looking command.source profile)

/-- The first part of `enqueue_document`, up to the transaction of the probe. -/
def beginEnqueueDocument (command : EnqueueDocumentIntakeCommand) : EnqueueProcess :=
  match (EnqueueCall.enqueueDocument command).key with
  | none => .returned (.enqueueDocument command) (.error (.valueError "invalid idempotency key"))
  | some key => .active (.enqueueDocument command) key .probing

/-- A locked lookup: answer from the record, or go on as `missing`. -/
def afterLookup (services : IntakeServices) (db : Db) (call : EnqueueCall) (key : String)
    (missing : EnqueueProcess) : EnqueueProcess :=
  match getIdempotencyForTenant call.tenantId key db with
  | some existing => .returned call (existingResult services call existing db)
  | none => missing

/-- The checks of `enqueue_document` on the resolved profile. -/
def afterResolve (command : EnqueueDocumentIntakeCommand) (key : String)
    (profile : ResolvedTenantProfile) : EnqueueProcess :=
  match profile.compiled.bind (·.defaultInboundDocument) with
  | none => .returned (.enqueueDocument command)
      (.error (.valueError "tenant profile has no inbound document binding"))
  | some binding =>
    if command.document.mediaType ∈ binding.capability.supportedMediaTypes then
      .active (.enqueueDocument command) key (.normalizing profile)
    else .returned (.enqueueDocument command)
      (.error (.documentCapabilityUnavailable "document capability unavailable"))

/-- The insert of the job.  `newId` comes from `uuid4`, which gives no
identifier twice. -/
def insertJobStep (state : EnqueueState) (process : ℕ) (call : EnqueueCall) (key : String)
    (new : NewJob) : Option EnqueueState :=
  if state.free [.jobId new.id, .traceId new.traceId] then
    if state.db.jobs.any fun job => job.id = new.id then none
    else if state.db.jobs.any fun job => job.traceId = new.traceId then
      some (state.setProcess process (.active call key .recovering))
    else some ((state.setProcess process (.active call key (.jobInserted new))).hold process
      [.jobId new.id, .traceId new.traceId])
  else none

/-- The insert of the record, at the end of the savepoint. -/
def insertRecordStep (state : EnqueueState) (process : ℕ) (call : EnqueueCall) (key : String)
    (new : NewJob) : Option EnqueueState :=
  if state.free [.recordScope new.record.scope] then
    if state.db.idempotency.any fun record => record.scope = new.record.scope ∨
        (record.tenantId = new.tenantId ∧ record.jobId = some new.id) then
      some ((state.setProcess process (.active call key .recovering)).release process)
    else some ((state.setProcess process (.active call key (.recordInserted new))).hold process
      [.recordScope new.record.scope])
  else none

/-- The result of one step; `none` when it is not enabled. -/
def enqueueStep (services : IntakeServices) (state : EnqueueState) :
    EnqueueStep → Option EnqueueState
  | .enqueue process command profile =>
    match state.processes process with
    | .idle => some (state.setProcess process (beginEnqueue command profile))
    | _ => none
  | .enqueueDocument process command =>
    match state.processes process with
    | .idle => some (state.setProcess process (beginEnqueueDocument command))
    | _ => none
  | .probe process =>
    match state.processes process with
    | .active call key .probing => some (state.setProcess process
        (afterLookup services state.db call key (.active call key .resolving)))
    | _ => none
  | .resolve process profile =>
    match state.processes process with
    | .active (.enqueueDocument command) key .resolving =>
      some (state.setProcess process (afterResolve command key profile))
    | _ => none
  | .normalize process normalized =>
    match state.processes process with
    | .active (.enqueueDocument command) key (.normalizing profile) =>
      some (state.setProcess process (.active (.enqueueDocument command) key
        (.looking (command.source normalized) profile)))
    | _ => none
  | .lookup process =>
    match state.processes process with
    | .active call key (.looking source profile) => some (state.setProcess process
        (afterLookup services state.db call key (.active call key (.inserting source profile))))
    | _ => none
  | .insertJob process newId now =>
    match state.processes process with
    | .active call key (.inserting source profile) =>
      insertJobStep state process call key (call.newJob services key source profile newId now)
    | _ => none
  | .insertRecord process =>
    match state.processes process with
    | .active call key (.jobInserted new) => insertRecordStep state process call key new
    | _ => none
  | .commit process =>
    match state.processes process with
    | .active call _ (.recordInserted new) =>
      some (((state.commit new).setProcess process
        (.returned call (.ok ⟨new.id, true, call.traceId⟩))).release process)
    | _ => none
  | .recover process =>
    match state.processes process with
    | .active call key .recovering => some (state.setProcess process
        (afterLookup services state.db call key (.returned call (.error .integrityError))))
    | _ => none
  | .abort process =>
    match state.processes process with
    | .active _ _ _ => some ((state.setProcess process .aborted).release process)
    | _ => none

/-- Runs of enqueue calls, from a database without jobs. -/
def enqueueMachine (services : IntakeServices) : Machine EnqueueState EnqueueStep where
  initial state := state.db.jobs = [] ∧ state.db.idempotency = [] ∧
    (∀ process, state.processes process = .idle) ∧ ∀ key, state.pending key = none
  step := enqueueStep services

/-- The call that a step belongs to. -/
def EnqueueStep.process : EnqueueStep → ℕ
  | .enqueue process _ _ | .enqueueDocument process _ | .probe process | .resolve process _
  | .normalize process _ | .lookup process | .insertJob process _ _ | .insertRecord process
  | .commit process | .recover process | .abort process => process

/-- Profiles resolve: every call names its tenant by the slug that the tenant
has, and a profile resolved for it can be resolved again from what is stored. -/
def EnqueueStep.Resolvable (services : IntakeServices) (slugOf : Uuid → String)
    (state : EnqueueState) : EnqueueStep → Prop
  | .enqueue _ command profile => command.tenantSlug = slugOf command.tenantId ∧
      services.resolvePersisted profile.snapshot profile.sha256 command.tenantSlug = true
  | .enqueueDocument _ command => command.tenantSlug = slugOf command.tenantId
  | .resolve process profile => ∀ call key, state.processes process = .active call key .resolving →
      services.resolvePersisted profile.snapshot profile.sha256 call.tenantSlug = true
  | _ => True

/-- Every step that is taken, with what made it possible. -/
inductive EnqueueTaken (services : IntakeServices) (state : EnqueueState) :
    EnqueueStep → EnqueueState → Prop
  | enqueue {process : ℕ} {command : EnqueueIntakeCommand} {profile : ResolvedTenantProfile} :
      state.processes process = .idle →
      EnqueueTaken services state (.enqueue process command profile)
        (state.setProcess process (beginEnqueue command profile))
  | enqueueDocument {process : ℕ} {command : EnqueueDocumentIntakeCommand} :
      state.processes process = .idle →
      EnqueueTaken services state (.enqueueDocument process command)
        (state.setProcess process (beginEnqueueDocument command))
  | probe {process : ℕ} {call : EnqueueCall} {key : String} :
      state.processes process = .active call key .probing →
      EnqueueTaken services state (.probe process) (state.setProcess process
        (afterLookup services state.db call key (.active call key .resolving)))
  | resolve {process : ℕ} {command : EnqueueDocumentIntakeCommand} {key : String}
      {profile : ResolvedTenantProfile} :
      state.processes process = .active (.enqueueDocument command) key .resolving →
      EnqueueTaken services state (.resolve process profile)
        (state.setProcess process (afterResolve command key profile))
  | normalize {process : ℕ} {command : EnqueueDocumentIntakeCommand} {key : String}
      {profile : ResolvedTenantProfile} {normalized : NormalizedDocument} :
      state.processes process = .active (.enqueueDocument command) key (.normalizing profile) →
      EnqueueTaken services state (.normalize process normalized)
        (state.setProcess process (.active (.enqueueDocument command) key
          (.looking (command.source normalized) profile)))
  | lookup {process : ℕ} {call : EnqueueCall} {key : String} {source : TrustedSource}
      {profile : ResolvedTenantProfile} :
      state.processes process = .active call key (.looking source profile) →
      EnqueueTaken services state (.lookup process) (state.setProcess process
        (afterLookup services state.db call key (.active call key (.inserting source profile))))
  | traceTaken {process : ℕ} {call : EnqueueCall} {key : String} {source : TrustedSource}
      {profile : ResolvedTenantProfile} {newId : Uuid} {now : Timestamp} {job : AgentJob} :
      state.processes process = .active call key (.inserting source profile) →
      job ∈ state.db.jobs → job.traceId = call.traceId →
      EnqueueTaken services state (.insertJob process newId now)
        (state.setProcess process (.active call key .recovering))
  | insertJob {process : ℕ} {call : EnqueueCall} {key : String} {source : TrustedSource}
      {profile : ResolvedTenantProfile} {newId : Uuid} {now : Timestamp} {new : NewJob} :
      state.processes process = .active call key (.inserting source profile) →
      new = call.newJob services key source profile newId now →
      (∀ unique ∈ [UniqueKey.jobId new.id, .traceId new.traceId], state.pending unique = none) →
      (∀ job ∈ state.db.jobs, job.id ≠ new.id ∧ job.traceId ≠ new.traceId) →
      EnqueueTaken services state (.insertJob process newId now)
        ((state.setProcess process (.active call key (.jobInserted new))).hold process
          [.jobId new.id, .traceId new.traceId])
  | keyTaken {process : ℕ} {call : EnqueueCall} {key : String} {new : NewJob}
      {record : IdempotencyRecord} :
      state.processes process = .active call key (.jobInserted new) →
      record ∈ state.db.idempotency →
      record.scope = new.record.scope ∨ record.jobId = some new.id →
      EnqueueTaken services state (.insertRecord process)
        ((state.setProcess process (.active call key .recovering)).release process)
  | insertRecord {process : ℕ} {call : EnqueueCall} {key : String} {new : NewJob} :
      state.processes process = .active call key (.jobInserted new) →
      state.pending (.recordScope new.record.scope) = none →
      (∀ record ∈ state.db.idempotency, record.scope ≠ new.record.scope) →
      EnqueueTaken services state (.insertRecord process)
        ((state.setProcess process (.active call key (.recordInserted new))).hold process
          [.recordScope new.record.scope])
  | commit {process : ℕ} {call : EnqueueCall} {key : String} {new : NewJob} :
      state.processes process = .active call key (.recordInserted new) →
      EnqueueTaken services state (.commit process)
        (((state.commit new).setProcess process
          (.returned call (.ok ⟨new.id, true, call.traceId⟩))).release process)
  | recover {process : ℕ} {call : EnqueueCall} {key : String} :
      state.processes process = .active call key .recovering →
      EnqueueTaken services state (.recover process) (state.setProcess process
        (afterLookup services state.db call key (.returned call (.error .integrityError))))
  | abort {process : ℕ} {call : EnqueueCall} {key : String} {stage : EnqueueStage} :
      state.processes process = .active call key stage →
      EnqueueTaken services state (.abort process)
        ((state.setProcess process .aborted).release process)

section Taken

variable {services : IntakeServices} {state next : EnqueueState} {label : EnqueueStep}

theorem insertJobStep_taken {process : ℕ} {call : EnqueueCall} {key : String}
    {source : TrustedSource} {profile : ResolvedTenantProfile} {newId : Uuid} {now : Timestamp}
    (hprocess : state.processes process = .active call key (.inserting source profile))
    (h : insertJobStep state process call key (call.newJob services key source profile newId now) =
      some next) :
    EnqueueTaken services state (.insertJob process newId now) next := by
  unfold insertJobStep at h
  split at h
  · rename_i hfree
    split at h
    · cases h
    · rename_i hid
      split at h
      · rename_i htrace
        cases h
        obtain ⟨job, hjob, hsame⟩ := List.any_eq_true.1 htrace
        exact .traceTaken hprocess hjob (of_decide_eq_true hsame)
      · rename_i htrace
        cases h
        refine .insertJob hprocess rfl (EnqueueState.free_iff.1 hfree) fun job hjob => ⟨?_, ?_⟩
        · exact fun hsame => hid (List.any_eq_true.2 ⟨job, hjob, decide_eq_true hsame⟩)
        · exact fun hsame => htrace (List.any_eq_true.2 ⟨job, hjob, decide_eq_true hsame⟩)
  · cases h

theorem insertRecordStep_taken {process : ℕ} {call : EnqueueCall} {key : String} {new : NewJob}
    (hprocess : state.processes process = .active call key (.jobInserted new))
    (h : insertRecordStep state process call key new = some next) :
    EnqueueTaken services state (.insertRecord process) next := by
  unfold insertRecordStep at h
  split at h
  · rename_i hfree
    split at h
    · rename_i hclash
      cases h
      obtain ⟨record, hrecord, hsame⟩ := List.any_eq_true.1 hclash
      exact .keyTaken hprocess hrecord ((of_decide_eq_true hsame).imp_right And.right)
    · rename_i hclash
      cases h
      refine .insertRecord hprocess (EnqueueState.free_iff.1 hfree _ List.mem_cons_self) ?_
      intro record hrecord hsame
      exact hclash (List.any_eq_true.2 ⟨record, hrecord, decide_eq_true (.inl hsame)⟩)
  · cases h

theorem enqueueTaken_of_step (h : (enqueueMachine services).step state label = some next) :
    EnqueueTaken services state label next := by
  change enqueueStep services state label = some next at h
  cases label with
  | enqueue process command profile =>
      simp only [enqueueStep] at h
      split at h
      · rename_i hprocess
        cases h
        exact .enqueue hprocess
      · cases h
  | enqueueDocument process command =>
      simp only [enqueueStep] at h
      split at h
      · rename_i hprocess
        cases h
        exact .enqueueDocument hprocess
      · cases h
  | probe process =>
      simp only [enqueueStep] at h
      split at h
      · rename_i hprocess
        cases h
        exact .probe hprocess
      · cases h
  | resolve process profile =>
      simp only [enqueueStep] at h
      split at h
      · rename_i hprocess
        cases h
        exact .resolve hprocess
      · cases h
  | normalize process normalized =>
      simp only [enqueueStep] at h
      split at h
      · rename_i hprocess
        cases h
        exact .normalize hprocess
      · cases h
  | lookup process =>
      simp only [enqueueStep] at h
      split at h
      · rename_i hprocess
        cases h
        exact .lookup hprocess
      · cases h
  | insertJob process newId now =>
      simp only [enqueueStep] at h
      split at h
      · rename_i hprocess
        exact insertJobStep_taken hprocess h
      · cases h
  | insertRecord process =>
      simp only [enqueueStep] at h
      split at h
      · rename_i hprocess
        exact insertRecordStep_taken hprocess h
      · cases h
  | commit process =>
      simp only [enqueueStep] at h
      split at h
      · rename_i hprocess
        cases h
        exact .commit hprocess
      · cases h
  | recover process =>
      simp only [enqueueStep] at h
      split at h
      · rename_i hprocess
        cases h
        exact .recover hprocess
      · cases h
  | abort process =>
      simp only [enqueueStep] at h
      split at h
      · rename_i hprocess
        cases h
        exact .abort hprocess
      · cases h

end Taken

end IntegraIntake
