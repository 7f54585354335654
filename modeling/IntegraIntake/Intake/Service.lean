import IntegraIntake.Intake.Enqueue

/-!
# The enqueue service

`IntakeEnqueueService` of `app/domain/intake.py`: one call from its first
statement to its last.  Between the statements of a call other calls may run;
what comes of that is in `Intake/Enqueue`.
-/

namespace IntegraIntake

open Library JobRepository

/-- What a call takes from outside the database. -/
structure IntakeResources extends IntakeServices where
  /-- `TenantProfileResolver.resolve`. -/
  resolve : String → Except AppError ResolvedTenantProfile
  /-- `_normalize_document`, with the normalizer of the binding. -/
  normalize : CompiledDocumentBinding → DocumentInput → Except AppError NormalizedDocument

namespace IntakeEnqueueService

variable (resources : IntakeResources)

/-- The locked lookup of the record, and `_existing_result` when there is one. -/
def lookup (call : EnqueueCall) (key : String) : Query (Option EnqueueResult) := do
  let db ← Session.read
  match getIdempotencyForTenant call.tenantId key db with
  | none => pure none
  | some existing => do
    let result ← Session.ofExcept (existingResult resources.toIntakeServices call existing db)
    pure (some result)

/-- The savepoint of `_enqueue`. -/
def insertOrRecover (call : EnqueueCall) (key : String) (new : NewJob) : Query EnqueueResult :=
  Session.savepoint
    (do
      insertJob new
      pure ⟨new.id, true, call.traceId⟩)
    fun error =>
      match error with
      | .integrityError => do
        let existing ← lookup resources call key
        match existing with
        | some result => pure result
        | none => Session.raise .integrityError
      | error => Session.raise error

/-- `_enqueue`, for a valid key. -/
def enqueueKeyed (call : EnqueueCall) (key : String) (source : TrustedSource)
    (profile : ResolvedTenantProfile) (newId : Uuid) (now : Timestamp) : Query EnqueueResult :=
  Session.transaction do
    let existing ← lookup resources call key
    match existing with
    | some result => pure result
    | none =>
      let new := call.newJob resources.toIntakeServices key source profile newId now
      insertOrRecover resources call key new

/-- `enqueue`: the profile is resolved before the key is looked at. -/
def enqueue (command : EnqueueIntakeCommand) (newId : Uuid) (now : Timestamp) :
    Query EnqueueResult := do
  let profile ← Session.ofExcept (resources.resolve command.tenantSlug)
  match (EnqueueCall.enqueue command).key with
  | none => Session.raise (.valueError "invalid idempotency key")
  | some key =>
    enqueueKeyed resources (.enqueue command) key command.source profile newId now

/-- `_existing_document_result`, under the handler of `enqueue_document`: on a
conflict the profile is resolved for the event, and its error comes first. -/
def probe (command : EnqueueDocumentIntakeCommand) (key : String) :
    Query (Option EnqueueResult) :=
  Session.savepoint (Session.transaction (lookup resources (.enqueueDocument command) key))
    fun error =>
      match error with
      | .idempotencyConflict message => do
        let _ ← Session.ofExcept (resources.resolve command.tenantSlug)
        Session.raise (.idempotencyConflict message)
      | error => Session.raise error

/-- The checks of `enqueue_document` on the resolved profile. -/
def inboundBinding (command : EnqueueDocumentIntakeCommand) (profile : ResolvedTenantProfile) :
    Except AppError CompiledDocumentBinding :=
  match profile.compiled.bind (·.defaultInboundDocument) with
  | none => .error (.valueError "tenant profile has no inbound document binding")
  | some binding =>
    if command.document.mediaType ∈ binding.capability.supportedMediaTypes then .ok binding
    else .error (.documentCapabilityUnavailable "document capability unavailable")

/-- `enqueue_document`. -/
def enqueueDocument (command : EnqueueDocumentIntakeCommand) (newId : Uuid) (now : Timestamp) :
    Query EnqueueResult :=
  match (EnqueueCall.enqueueDocument command).key with
  | none => Session.raise (.valueError "invalid idempotency key")
  | some key => do
    let existing ← probe resources command key
    match existing with
    | some result => pure result
    | none => do
      let profile ← Session.ofExcept (resources.resolve command.tenantSlug)
      let binding ← Session.ofExcept (inboundBinding command profile)
      let normalized ← Session.ofExcept (resources.normalize binding command.document)
      enqueueKeyed resources (.enqueueDocument command) key (command.source normalized) profile
        newId now

/-- The step of the concurrent service makes the same checks. -/
theorem afterResolve_eq (command : EnqueueDocumentIntakeCommand) (key : String)
    (profile : ResolvedTenantProfile) :
    afterResolve command key profile =
      match inboundBinding command profile with
      | .ok _ => .active (.enqueueDocument command) key (.normalizing profile)
      | .error error => .returned (.enqueueDocument command) (.error error) := by
  unfold afterResolve inboundBinding
  cases profile.compiled.bind (·.defaultInboundDocument) with
  | none => rfl
  | some binding =>
      by_cases hmedia : command.document.mediaType ∈ binding.capability.supportedMediaTypes
      · simp only [hmedia, if_true]
      · simp only [hmedia, if_false]

end IntakeEnqueueService
end IntegraIntake
