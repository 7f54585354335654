import IntegraIntake.Approvals.Frozen
import IntegraIntake.Approvals.Review
import IntegraIntake.Lifecycle.ApprovalOperations

/-!
# What a review promises of a decision

A review shows an approval as `executable`; a decision to approve it runs its
own checks, and the action executor repeats some of them.  The three copies of
the rule do not ask for the same.  Here the decision is written for any
registry and any handlers, with the checks before the handler taken together in
`decideChecks`, and `executable_passes_iff` says what has to come to `executable`
for them to pass.
-/

namespace IntegraIntake

open Library ApprovalRepository ApprovalDecision

/-! ## Deciding with any registry -/

namespace ApprovalExecutor

/-- The checks of `execute` before it calls a handler.  Its table of handlers has
the built-in keys, so past the last check it finds one. -/
def executeChecks (registry : ActionRegistry) (approval : Approval) (job : AgentJob)
    (action : PendingAction) : Except AppError RegisteredAction :=
  if job.status ≠ .awaitingApproval ∨ approval.tenantConfigSha256 ≠ some job.tenantConfigSha256 ∨
      approval.action ≠ action.name then
    .error (.runtimeError "approval trusted job is unavailable")
  else match registry.require action.name with
    | none => .error (.runtimeError "approval action is not registered")
    | some capability =>
      if action.version ≠ capability.pendingActionVersion then
        .error (.runtimeError "approval action version is unavailable")
      else match capability.argumentsModel action.arguments with
        | .error _ => .error (.runtimeError "approved action arguments are invalid")
        | .ok _ =>
          if sortedSet registry.keys ≠ sortedSet registryKeys then
            .error (.runtimeError "action registry and approval handlers are incompatible")
          else .ok capability

/-- The handlers of the executor, by the key of the action. -/
abbrev Handlers := String → Approval → AgentJob → PendingAction → Query Handled

/-- The handlers of the built-in actions; each validates the arguments with its own model. -/
def builtinHandlers (services : Services) (newId : Uuid) : Handlers :=
  fun name approval job action =>
    match requireAction name with
    | none => Session.raise (.runtimeError "approval action is not registered")
    | some capability =>
      match ToolArgs.modelValidate capability.key action.arguments with
      | .error .validation => Session.raise (.valueError "validation error")
      | .error .typeError => Session.raise .typeError
      | .ok arguments => handle services newId approval job action arguments

/-- What is left of `execute` once its checks have passed. -/
def executePassed (handlers : Handlers) (approval : Approval) (job : AgentJob)
    (action : PendingAction) (capability : RegisteredAction) (now : Timestamp) :
    Query Executed := do
  let handled ← handlers capability.key approval job action
  pure {
    approval := { approval with caseId := handled.caseId }
    job := { job with sideEffectCommittedAt :=
      if capability.commitsSideEffect then some now else job.sideEffectCommittedAt }
    result := .obj handled.result }

end ApprovalExecutor

namespace ApprovalDecision

open ApprovalExecutor (Handlers executeChecks executePassed builtinHandlers)

variable (services : Services) (registry : ActionRegistry) (handlers : Handlers)

/-- `approvableAction` for any registry. -/
def approvableActionIn (approval : Approval) (pending : Json)
    (profile : TenantConfig × Option CompiledTenantProfile) : Except AppError PendingAction :=
  match PendingAction.modelValidate pending with
  | none => .error (.approvalDecisionConflict "approval action is invalid")
  | some action =>
    if action.name ≠ approval.action then
      .error (.approvalDecisionConflict "approval action is invalid")
    else match registry.require action.name with
      | none => .error (.approvalDecisionConflict "approval action is invalid")
      | some capability =>
        if action.version ≠ capability.pendingActionVersion then
          .error (.approvalDecisionConflict "approval action is invalid")
        else match capability.argumentsModel action.arguments with
          | .error .validation => .error (.approvalDecisionConflict "approval action is invalid")
          | .error .typeError => .error .typeError
          | .ok _ =>
            if !(profile.2.any fun compiled => compiled.availableActions.contains action.name) then
              .error (.approvalDecisionConflict "approval action is no longer authorized")
            else
              let validated :=
                validateFrozenFields services.checks action.knownFields profile.1 none
              if validated.invalidFields ≠ [] ∨
                  sortedSet (dictKeys validated.values) ≠ sortedSet (dictKeys action.knownFields)
              then .error (.approvalDecisionConflict "approval known fields are no longer valid")
              else .ok action

/-- The rows a decision works with, after it has locked the job and resolved its
profile. -/
structure LockedRows where
  pending : Json
  deadline : Timestamp
  job : AgentJob
  profile : TenantConfig × Option CompiledTenantProfile

/-- From the locked approval row to the resolved profile. -/
def lockedRows (approval : Approval) (db : Db) : Except AppError LockedRows :=
  match approval.jobId, approval.pendingAction, approval.tenantConfigSha256,
      approval.expiresAt with
  | some jobId, some pending, some _, some deadline =>
    match db.job? jobId approval.tenantId with
    | none => .error (.approvalDecisionConflict "approval job is unavailable")
    | some job =>
      match getJobObservationIdentity approval db with
      | none => .error (.approvalDecisionConflict "approval job is unavailable")
      | some identity =>
        match services.resolvePersistedProfile identity.1 identity.2 with
        | none => .error (.approvalDecisionConflict "approval trusted profile is unavailable")
        | some profile => .ok ⟨pending, deadline, job, profile⟩
  | _, _, _, _ => .error (.approvalDecisionConflict "legacy approval is not executable")

/-- The approving branch of `decide`, from the call of the handler on. -/
def approvePassed (approval : Approval) (job : AgentJob) (action : PendingAction)
    (capability : RegisteredAction) (operator : Operator) (request : DecisionRequest)
    (now : Timestamp) : Query Verdict := do
  let executed ← executePassed handlers approval job action capability now
  let approved := approvedRow operator request now executed
  Session.write fun db => ((db.setApproval approved).addApprovalEvent
    ⟨approval.tenantId, approval.id, .approved, some operator.actorRef, .obj []⟩).addApprovalEvent
    ⟨approval.tenantId, approval.id, .actionExecuted, some operator.actorRef,
      .obj [("action", .str approval.action), ("executed", .bool true)]⟩
  finalizeJob approved executed.job now
  let value ← ofExcept (response approved)
  pure (.response value)

/-- The approving branch of `decide`. -/
def approveBranchIn (approval : Approval) (rows : LockedRows) (operator : Operator)
    (request : DecisionRequest) (now : Timestamp) : Query Verdict := do
  let action ← ofExcept (approvableActionIn services registry approval rows.pending rows.profile)
  let capability ← ofExcept (executeChecks registry approval rows.job action)
  approvePassed handlers approval rows.job action capability operator request now

/-- The body of the transaction, once the job is locked and its profile resolved. -/
def decideResolvedIn (approval : Approval) (rows : LockedRows) (operator : Operator)
    (request : DecisionRequest) (now : Timestamp) : Query Verdict :=
  if approval.status.isFinal then
    if isSameFinalDecision approval request.decision then do
      let value ← ofExcept (response approval)
      pure (.response value)
    else Session.raise (.approvalDecisionConflict "approval already decided")
  else if approval.status ≠ .pending then
    Session.raise (.approvalDecisionConflict "approval state is not decidable")
  else if rows.deadline ≤ now then expireBranch approval rows.job request now
  else match request.decision with
    | .reject => rejectBranch approval rows.job operator request now
    | .approve => approveBranchIn services registry handlers approval rows operator request now

/-- The statements of `decide` in its transaction. -/
def decideBodyIn (approvalId : Uuid) (operator : Operator) (request : DecisionRequest)
    (now : Timestamp) : Query Verdict := do
  let db ← Session.read
  match getForTenant approvalId operator.tenantId db with
  | none => Session.raise .approvalNotFound
  | some approval => do
    let rows ← ofExcept (lockedRows services approval db)
    decideResolvedIn services registry handlers approval rows operator request now

/-- `ApprovalDecisionService.decide` with a registry and the handlers of an executor. -/
def decideIn (approvalId : Uuid) (operator : Operator) (request : DecisionRequest)
    (now : Timestamp) : Query DecisionResponse := do
  let verdict ← Session.transaction
    (decideBodyIn services registry handlers approvalId operator request now)
  report verdict

/-- What a decision has when it calls the handler of the action. -/
structure Passed where
  approval : Approval
  job : AgentJob
  action : PendingAction
  capability : RegisteredAction

/-- The checks that `decide` makes before the handler, for a pending approval that
is to be approved. -/
def decideChecks (approvalId : Uuid) (operator : Operator) (now : Timestamp) (db : Db) :
    Except AppError Passed :=
  match getForTenant approvalId operator.tenantId db with
  | none => .error .approvalNotFound
  | some approval => do
    let rows ← lockedRows services approval db
    if approval.status ≠ .pending then
      .error (.approvalDecisionConflict "approval already decided")
    else if rows.deadline ≤ now then .error (.approvalExpired "approval expired")
    else do
      let action ← approvableActionIn services registry approval rows.pending rows.profile
      let capability ← executeChecks registry approval rows.job action
      .ok ⟨approval, rows.job, action, capability⟩

/-! ## What the checks ask for -/

variable {services : Services} {registry : ActionRegistry} {handlers : Handlers}
  {approval : Approval} {pending : Json} {profile : TenantConfig × Option CompiledTenantProfile}
  {action : PendingAction} {job : AgentJob} {capability : RegisteredAction} {rows : LockedRows}
  {operator : Operator} {request : DecisionRequest} {now : Timestamp} {approvalId : Uuid} {db : Db}

/-- The frozen fields are those of the profile, and none is dropped. -/
structure FieldsKept (checks : ValueChecks) (config : TenantConfig)
    (fields : List (String × Json)) : Prop where
  valid : (validateFrozenFields checks fields config none).invalidFields = []
  same_keys : sortedSet (dictKeys (validateFrozenFields checks fields config none).values) =
    sortedSet (dictKeys fields)

/-- The command names an action of the registry, in its version and with valid
arguments. -/
structure Registered (registry : ActionRegistry) (action : PendingAction)
    (capability : RegisteredAction) : Prop where
  required : registry.require action.name = some capability
  version_eq : action.version = capability.pendingActionVersion
  arguments_valid : capability.argumentsModel action.arguments = .ok ()

/-- The compiled profile still allows the action. -/
def Authorized (profile : TenantConfig × Option CompiledTenantProfile) (name : String) : Prop :=
  (profile.2.any fun compiled => compiled.availableActions.contains name) = true

theorem approvableActionIn_eq_ok_iff :
    approvableActionIn services registry approval pending profile = .ok action ↔
      PendingAction.modelValidate pending = some action ∧ action.name = approval.action ∧
        (∃ capability, Registered registry action capability) ∧ Authorized profile action.name ∧
        FieldsKept services.checks profile.1 action.knownFields := by
  constructor
  · intro h
    unfold approvableActionIn at h
    cases hdecoded : PendingAction.modelValidate pending with
    | none =>
        rw [hdecoded] at h
        cases h
    | some decoded =>
        rw [hdecoded] at h
        dsimp only at h
        split at h
        · cases h
        rename_i hname
        split at h
        · cases h
        rename_i capability hrequired
        split at h
        · cases h
        rename_i hversion
        split at h
        · cases h
        · cases h
        rename_i harguments
        split at h
        · cases h
        rename_i hauthorized
        split at h
        · cases h
        rename_i hfields
        cases h
        rw [not_or, not_not, not_not] at hfields
        exact ⟨rfl, not_not.1 hname, ⟨capability, hrequired, not_not.1 hversion, harguments⟩,
          by rw [Authorized]; simpa using hauthorized, hfields.1, hfields.2⟩
  · rintro ⟨hdecoded, hname, ⟨capability, hregistered⟩, hauthorized, hfields⟩
    have hkept : ¬ ((validateFrozenFields services.checks action.knownFields profile.1
        none).invalidFields ≠ [] ∨
          sortedSet (dictKeys (validateFrozenFields services.checks action.knownFields profile.1
            none).values) ≠ sortedSet (dictKeys action.knownFields)) := by
      rw [not_or, not_not, not_not]
      exact ⟨hfields.valid, hfields.same_keys⟩
    unfold approvableActionIn
    rw [hdecoded]
    dsimp only
    rw [if_neg (not_not.2 hname), hregistered.required]
    dsimp only
    rw [if_neg (not_not.2 hregistered.version_eq), hregistered.arguments_valid]
    dsimp only
    rw [hauthorized, if_neg (by decide), if_neg hkept]

theorem executeChecks_eq_ok_iff :
    ApprovalExecutor.executeChecks registry approval job action = .ok capability ↔
      job.status = .awaitingApproval ∧ approval.tenantConfigSha256 = some job.tenantConfigSha256 ∧
        approval.action = action.name ∧ Registered registry action capability ∧
        sortedSet registry.keys = sortedSet registryKeys := by
  constructor
  · intro h
    unfold ApprovalExecutor.executeChecks at h
    split at h
    · cases h
    rename_i htrusted
    rw [not_or, not_or, not_not, not_not, not_not] at htrusted
    split at h
    · cases h
    rename_i required hrequired
    split at h
    · cases h
    rename_i hversion
    split at h
    · cases h
    rename_i harguments
    split at h
    · cases h
    rename_i hkeys
    cases h
    exact ⟨htrusted.1, htrusted.2.1, htrusted.2.2, ⟨hrequired, not_not.1 hversion, harguments⟩,
      not_not.1 hkeys⟩
  · rintro ⟨hstatus, hsha, hname, hregistered, hkeys⟩
    have htrusted : ¬ (job.status ≠ .awaitingApproval ∨
        approval.tenantConfigSha256 ≠ some job.tenantConfigSha256 ∨
        approval.action ≠ action.name) := by
      simp [hstatus, hsha, hname]
    unfold ApprovalExecutor.executeChecks
    rw [if_neg htrusted, hregistered.required]
    dsimp only
    rw [if_neg (not_not.2 hregistered.version_eq), hregistered.arguments_valid]
    dsimp only
    rw [if_neg (not_not.2 hkeys)]

theorem lockedRows_eq_ok_iff :
    lockedRows services approval db = .ok rows ↔
      approval.pendingAction = some rows.pending ∧ approval.tenantConfigSha256.isSome ∧
        approval.expiresAt = some rows.deadline ∧ joinedJob db approval = some rows.job ∧
        ApprovalReview.reviewProfile services approval db = some rows.profile := by
  unfold lockedRows ApprovalReview.reviewProfile joinedJob
  cases hjob : approval.jobId with
  | none => simp
  | some jobId =>
      cases hpending : approval.pendingAction with
      | none => simp
      | some pending =>
          cases hsha : approval.tenantConfigSha256 with
          | none => simp
          | some sha256 =>
              cases hdeadline : approval.expiresAt with
              | none => simp
              | some deadline =>
                  cases hfound : db.job? jobId approval.tenantId with
                  | none => simp [hfound]
                  | some job =>
                      cases hidentity : getJobObservationIdentity approval db with
                      | none => simp [hfound]
                      | some identity =>
                          cases hprofile : services.resolvePersistedProfile identity.1
                              identity.2 with
                          | none => simp [hfound, hprofile]
                          | some profile =>
                              simp only [hfound, hprofile, Option.bind_some, Except.ok.injEq,
                                Option.some.injEq, Option.isSome_some, true_and]
                              constructor
                              · rintro rfl
                                exact ⟨rfl, rfl, rfl, rfl⟩
                              · rintro ⟨rfl, rfl, rfl, rfl⟩
                                rfl

/-- A check of a pending approval passes when every stage does. -/
theorem decideChecks_eq_ok_iff {passed : Passed} :
    decideChecks services registry approvalId operator now db = .ok passed ↔
      getForTenant approvalId operator.tenantId db = some passed.approval ∧
        passed.approval.status = .pending ∧
        ∃ rows, lockedRows services passed.approval db = .ok rows ∧ now < rows.deadline ∧
          passed.job = rows.job ∧
          approvableActionIn services registry passed.approval rows.pending rows.profile =
            .ok passed.action ∧
          ApprovalExecutor.executeChecks registry passed.approval rows.job passed.action =
            .ok passed.capability := by
  constructor
  · intro h
    unfold decideChecks at h
    split at h
    · cases h
    rename_i approval hfound
    obtain ⟨rows, hrows, h⟩ := ok_of_bind h
    split at h
    · cases h
    rename_i hpending
    split at h
    · cases h
    rename_i htime
    obtain ⟨action, haction, h⟩ := ok_of_bind h
    obtain ⟨capability, hcapability, h⟩ := ok_of_bind h
    cases h
    exact ⟨hfound, not_not.1 hpending, rows, hrows, not_le.1 htime, rfl, haction, hcapability⟩
  · rintro ⟨hfound, hpending, rows, hrows, htime, hjob, haction, hcapability⟩
    obtain ⟨approval, job, action, capability⟩ := passed
    dsimp only at hfound hpending hrows hjob haction hcapability
    subst hjob
    have hlate : ¬ rows.deadline ≤ now := not_le.2 htime
    unfold decideChecks
    rw [hfound]
    dsimp only
    rw [hrows]
    change (if approval.status ≠ .pending then _ else _) = _
    rw [if_neg (not_not.2 hpending), if_neg hlate, haction]
    change (ApprovalExecutor.executeChecks registry approval rows.job action >>= _) = _
    rw [hcapability]
    rfl

/-- Past its checks, a decision to approve is the handler and the writes after it. -/
theorem decideBodyIn_of_passed {passed : Passed} (hrequest : request.decision = .approve)
    (h : decideChecks services registry approvalId operator now db = .ok passed) :
    decideBodyIn services registry handlers approvalId operator request now db =
      approvePassed handlers passed.approval passed.job passed.action passed.capability operator
        request now db := by
  obtain ⟨hfound, hpending, rows, hrows, htime, hjob, haction, hcapability⟩ :=
    decideChecks_eq_ok_iff.1 h
  have hlate : ¬ rows.deadline ≤ now := not_le.2 htime
  unfold decideBodyIn
  rw [Session.read_bind_run, hfound]
  dsimp only
  rw [hrows, ofExcept, Session.pure_bind]
  unfold decideResolvedIn
  rw [hpending, if_neg (by decide), if_neg (by decide), if_neg hlate, hrequest]
  dsimp only
  unfold approveBranchIn
  rw [haction, ofExcept, Session.pure_bind, hcapability, ofExcept, Session.pure_bind, hjob]

/-- A pending approval of a job is visible exactly while the job is parked. -/
theorem publishedLifecycle_pending_iff (hpending : approval.status = .pending)
    (hjob : joinedJob db approval = some job) :
    publishedLifecycle approval (joinedJob db approval) = true ↔ job.status =
      .awaitingApproval := by
  have hlinked : approval.jobId ≠ none := by
    intro hnone
    rw [joinedJob, hnone] at hjob
    cases hjob
  simp [publishedLifecycle, hpending, hjob, hlinked]

theorem expireBranch_run (hpending : approval.status = .pending)
    (hparked : job.status = .awaitingApproval) (hrequest : request.decision = .approve) :
    ∃ next, expireBranch approval job request now db = (.ok .expired, next) := by
  unfold expireBranch
  rw [expireLocked, if_neg (not_not.2 hpending), Session.bind_run, Session.write_bind_run]
  dsimp only [Session.pure_run]
  rw [Session.bind_run, finalizeJob_of_awaiting hparked rfl, hrequest]
  exact ⟨_, rfl⟩

/-- The body of a decision that fails a check raises it, except that a decision
past the deadline ends with the note of the expiry. -/
theorem decideBodyIn_of_refused {error : AppError} (hrequest : request.decision = .approve)
    (hpending : ∀ approval, getForTenant approvalId operator.tenantId db = some approval →
      approval.status = .pending)
    (h : decideChecks services registry approvalId operator now db = .error error) :
    (∃ next, decideBodyIn services registry handlers approvalId operator request now db =
        (.error error, next)) ∨
      error = .approvalExpired "approval expired" ∧ ∃ next,
        decideBodyIn services registry handlers approvalId operator request now db =
          (.ok .expired, next) := by
  unfold decideChecks at h
  unfold decideBodyIn
  rw [Session.read_bind_run]
  split at h
  · rename_i hmissing
    cases h
    rw [hmissing]
    exact .inl ⟨_, rfl⟩
  rename_i approval hfound
  have hstatus : approval.status = .pending := hpending approval hfound
  rw [hfound]
  dsimp only
  cases hrows : lockedRows services approval db with
  | error raised =>
      rw [hrows] at h
      cases h
      exact .inl ⟨_, rfl⟩
  | ok rows =>
      rw [hrows] at h
      rw [ofExcept, Session.pure_bind]
      change (if approval.status ≠ .pending then _ else _) = _ at h
      rw [if_neg (not_not.2 hstatus)] at h
      unfold decideResolvedIn
      rw [hstatus, if_neg (by decide), if_neg (by decide), hrequest]
      split at h
      · rename_i hlate
        cases h
        have hpublished := List.find?_some hfound
        simp only [decide_eq_true_eq] at hpublished
        have hparked := (publishedLifecycle_pending_iff hstatus
          (lockedRows_eq_ok_iff.1 hrows).2.2.2.1).1 hpublished.2.2
        rw [if_pos hlate]
        exact .inr ⟨rfl, expireBranch_run hstatus hparked hrequest⟩
      · rename_i hlate
        rw [if_neg hlate]
        refine .inl ?_
        dsimp only
        unfold approveBranchIn
        cases haction : approvableActionIn services registry approval rows.pending rows.profile with
        | error raised =>
            rw [haction] at h
            cases h
            exact ⟨_, rfl⟩
        | ok action =>
            rw [haction] at h
            change (ApprovalExecutor.executeChecks registry approval rows.job action >>= _) = _ at h
            rw [ofExcept, Session.pure_bind]
            cases hcapability :
              ApprovalExecutor.executeChecks registry approval rows.job action with
            | error raised =>
                rw [hcapability] at h
                cases h
                exact ⟨_, rfl⟩
            | ok capability =>
                rw [hcapability] at h
                cases h

/-- A decision to approve a pending approval that fails a check raises what the
check raises. -/
theorem decideIn_of_refused {error : AppError} (hrequest : request.decision = .approve)
    (hpending : ∀ approval, getForTenant approvalId operator.tenantId db = some approval →
      approval.status = .pending)
    (h : decideChecks services registry approvalId operator now db = .error error) :
    (decideIn services registry handlers approvalId operator request now db).1 = .error error := by
  unfold decideIn
  rw [Session.bind_run]
  rcases decideBodyIn_of_refused hrequest hpending h with ⟨next, hbody⟩ | ⟨rfl, next, hbody⟩
  · rw [Session.transaction, hbody]
  · rw [Session.transaction, hbody]
    rfl

/-! ## The built-in registry -/

/-- With the built-in registry the checks of the command are those of `decide`. -/
theorem approvableActionIn_builtin :
    approvableActionIn services .builtin approval pending profile =
      approvableAction services approval pending profile := by
  unfold approvableActionIn approvableAction
  cases PendingAction.modelValidate pending with
  | none => rfl
  | some action =>
      dsimp only
      by_cases hname : action.name ≠ approval.action
      · rw [if_pos hname, if_pos hname]
      rw [if_neg hname, if_neg hname]
      cases hrequired : requireAction action.name with
      | none => rw [ActionRegistry.builtin_require_none hrequired]
      | some capability =>
          rw [ActionRegistry.builtin_require_some hrequired]
          simp only [ActionCapability.registered]
          cases ToolArgs.modelValidate capability.key action.arguments with
          | error error => cases error <;> rfl
          | ok arguments => rfl

/-- With the built-in registry and handlers the executor is `execute`. -/
theorem execute_builtin {newId : Uuid} :
    (ofExcept (executeChecks .builtin approval job action) >>= fun capability =>
      executePassed (builtinHandlers services newId) approval job action capability now) =
      ApprovalExecutor.execute services newId approval job action now := by
  unfold executeChecks ApprovalExecutor.execute
  split
  · rfl
  cases hrequired : requireAction action.name with
  | none =>
      rw [ActionRegistry.builtin_require_none hrequired]
      rfl
  | some capability =>
      rw [ActionRegistry.builtin_require_some hrequired]
      dsimp only
      have hsame : (capability.registered (requireAction_version hrequired)).pendingActionVersion =
          capability.pendingActionVersion := rfl
      have hmodel : (capability.registered (requireAction_version hrequired)).argumentsModel
          action.arguments =
          (ToolArgs.modelValidate capability.key action.arguments).map fun _ => () := rfl
      rw [hsame, hmodel]
      by_cases hversion : action.version ≠ capability.pendingActionVersion
      · rw [if_pos hversion, if_pos hversion]
        rfl
      rw [if_neg hversion, if_neg hversion]
      cases harguments : ToolArgs.modelValidate capability.key action.arguments with
      | error error => rfl
      | ok arguments =>
          have hkeys : ¬ sortedSet ActionRegistry.builtin.keys ≠ sortedSet registryKeys :=
            not_not.2 (congrArg sortedSet ActionRegistry.builtin_keys)
          have hhandler : builtinHandlers services newId capability.key.name approval job action =
              ApprovalExecutor.handle services newId approval job action arguments := by
            have hname : requireAction capability.key.name = some capability := by
              rw [requireAction_name hrequired, hrequired]
            simp only [builtinHandlers, hname, harguments]
          rw [Except.map]
          dsimp only
          rw [if_neg hkeys, ofExcept, Session.pure_bind, executePassed]
          change (builtinHandlers services newId capability.key.name approval job action >>= _) = _
          rw [hhandler]
          rfl

/-- With the built-in registry and handlers, on rows whose profile snapshots are
dictionaries, the decision is `decide`. -/
theorem decideIn_builtin {newId : Uuid}
    (hsnapshots : ∀ job ∈ db.jobs, ∃ members, job.tenantConfigSnapshot = .obj members) :
    decideIn services .builtin (builtinHandlers services newId) approvalId operator request now db =
      decide services newId approvalId operator request now db := by
  have hbranch : ∀ (approval : Approval) (rows : LockedRows),
      approveBranchIn services .builtin (builtinHandlers services newId) approval rows operator
        request now =
      approveBranch services newId approval rows.pending rows.job rows.profile operator request
        now := by
    intro approval rows
    unfold approveBranchIn approveBranch
    rw [approvableActionIn_builtin]
    refine congrArg (ofExcept _ >>= ·) (funext fun action => ?_)
    rw [← execute_builtin, Session.bind_assoc]
    rfl
  have hresolved : ∀ (approval : Approval) (rows : LockedRows),
      decideResolvedIn services .builtin (builtinHandlers services newId) approval rows operator
        request now =
      decideResolved services newId approval rows.pending rows.deadline rows.job rows.profile
        operator request now := by
    intro approval rows
    unfold decideResolvedIn decideResolved
    cases request.decision with
    | approve => simp only [hbranch]
    | reject => rfl
  have hbody : decideBodyIn services .builtin (builtinHandlers services newId) approvalId operator
      request now db = decideBody services newId approvalId operator request now db := by
    unfold decideBodyIn decideBody
    rw [Session.read_bind_run, Session.read_bind_run]
    cases getForTenant approvalId operator.tenantId db with
    | none => rfl
    | some approval =>
        dsimp only
        unfold lockedRows decideLocked
        cases hlinked : approval.jobId with
        | none => rfl
        | some jobId =>
            cases approval.pendingAction with
            | none => rfl
            | some pending =>
                cases approval.tenantConfigSha256 with
                | none => rfl
                | some sha256 =>
                    cases approval.expiresAt with
                    | none => rfl
                    | some deadline =>
                        dsimp only
                        rw [Session.read_bind_run]
                        cases hfound : db.job? jobId approval.tenantId with
                        | none => rfl
                        | some job =>
                            obtain ⟨members, hmembers⟩ :=
                              hsnapshots job (List.mem_of_find?_eq_some hfound)
                            have hidentity : getJobObservationIdentity approval db =
                                some (job.tenantConfigSnapshot, job.tenantConfigSha256) := by
                              rw [getJobObservationIdentity, joinedJob, hlinked, Option.bind_some,
                                hfound, Option.bind_some, hmembers]
                            rw [hidentity]
                            dsimp only
                            cases services.resolvePersistedProfile job.tenantConfigSnapshot
                                job.tenantConfigSha256 with
                            | none => rfl
                            | some profile =>
                                exact congrFun
                                  (hresolved approval ⟨pending, deadline, job, profile⟩)
                                  db
  rw [decideIn, decide, decideTransaction, Session.bind_run, Session.bind_run, Session.transaction,
    Session.transaction, hbody]

end ApprovalDecision

/-! ## Frozen fields that are dropped -/

/-- The value of a frozen field, as the checks see it, is not blank. -/
def frozenPresent (value : Json) : Bool :=
  match ProposalValueData.ofJson? value with
  | some data => proposalValueIsPresent data
  | none => false

theorem sortedSet_eq_iff {names others : List String} :
    sortedSet names = sortedSet others ↔ ∀ name, name ∈ names ↔ name ∈ others := by
  constructor
  · intro h name
    rw [← mem_sortedSet, h, mem_sortedSet]
  · intro h
    have hperm : names.dedup.Perm others.dedup := by
      rw [List.perm_ext_iff_of_nodup (List.nodup_dedup _) (List.nodup_dedup _)]
      intro name
      rw [List.mem_dedup, List.mem_dedup]
      exact h name
    have hsorted : (sortedSet names).Perm (sortedSet others) :=
      (List.perm_insertionSort _ _).trans (hperm.trans (List.perm_insertionSort _ _).symm)
    exact hsorted.eq_of_pairwise' (List.pairwise_insertionSort _ _)
      (List.pairwise_insertionSort _ _)

section Dropped

variable {checks : ValueChecks} {config : TenantConfig} {fields : List (String × Json)}

/-- Frozen fields that pass become items of a proposal, one for each field. -/
theorem frozenItems_of_valid
    (h : (validateFrozenFields checks fields config none).invalidFields = []) :
    ∃ items, fields.mapM frozenValue = some items ∧
      (∀ name ∈ dictKeys fields, name ∈ dictKeys config.fields) ∧
      (∀ item ∈ items, FieldSupported checks config none item) ∧
      (validateFrozenFields checks fields config none).values =
        (validateFields checks items config none).values := by
  cases hitems : fields.mapM frozenValue with
  | none =>
      unfold validateFrozenFields at h
      rw [hitems] at h
      have hempty : dictKeys fields = [] := sortedSet_eq_nil_iff.1 h
      rw [dictKeys, List.map_eq_nil_iff] at hempty
      subst hempty
      cases hitems
  | some items =>
      unfold validateFrozenFields at h
      rw [hitems] at h
      dsimp only at h
      rw [sortedSet_eq_nil_iff, List.append_eq_nil_iff, List.filter_eq_nil_iff] at h
      refine ⟨items, rfl, ?_, ?_, ?_⟩
      · intro name hname
        have hknown := h.2 name hname
        simpa using hknown
      · exact validateFields_invalidFields_eq_nil_iff.1 h.1
      · unfold validateFrozenFields
        rw [hitems]
        rfl

theorem exists_mem_of_forall₂ {α β : Type} {R : α → β → Prop} {left : List α} {right : List β}
    (h : List.Forall₂ R left right) {a : α} (ha : a ∈ left) : ∃ b ∈ right, R a b := by
  induction h with
  | nil => cases ha
  | @cons first second _ _ hfirst _ ih =>
      rcases List.mem_cons.1 ha with rfl | hrest
      · exact ⟨second, List.mem_cons_self, hfirst⟩
      · obtain ⟨b, hb, hab⟩ := ih hrest
        exact ⟨b, List.mem_cons_of_mem _ hb, hab⟩

/-- The items are those of the fields, one by one. -/
theorem forall₂_of_mapM_frozenValue {items : List ProposalValue}
    (h : fields.mapM frozenValue = some items) :
    List.Forall₂ (fun field item => frozenValue field = some item) fields items := by
  induction fields generalizing items with
  | nil =>
      cases h
      exact .nil
  | cons field rest ih =>
      rw [List.mapM_cons] at h
      obtain ⟨first, hfirst, h⟩ := Option.bind_eq_some_iff.1 h
      obtain ⟨others, hothers, h⟩ := Option.bind_eq_some_iff.1 h
      cases h
      exact .cons hfirst (ih hothers)

/-- The item of a frozen field has its name and value, and no text to support it. -/
theorem frozenValue_eq_some {field : String × Json} {item : ProposalValue}
    (h : frozenValue field = some item) : item.name = field.1 ∧
      ProposalValueData.ofJson? field.2 = some item.value ∧ item.source = some .body ∧
      item.sourceExcerpt = none := by
  unfold frozenValue at h
  split at h
  · obtain ⟨value, hvalue, rfl⟩ := Option.map_eq_some_iff.1 h
    exact ⟨rfl, hvalue, rfl, rfl⟩
  · cases h

/-- A valid frozen field is kept exactly when it is not blank. -/
theorem mem_frozenValues_iff
    (h : (validateFrozenFields checks fields config none).invalidFields = []) {name : String} :
    name ∈ dictKeys (validateFrozenFields checks fields config none).values ↔
      ∃ value, (name, value) ∈ fields ∧ frozenPresent value = true := by
  obtain ⟨items, hitems, hknown, hsupported, hvalues⟩ := frozenItems_of_valid h
  rw [hvalues]
  constructor
  · intro hname
    obtain ⟨⟨_, data⟩, hfield, rfl⟩ := List.mem_map.1 hname
    obtain ⟨origin, hcandidate⟩ := mem_validateFields hfield
    obtain ⟨item, hitem, hcandidate⟩ := mem_proposalCandidates.1 hcandidate
    obtain ⟨⟨key, value⟩, hmem, hfrozen⟩ := 
      exists_mem_of_forall₂ (forall₂_of_mapM_frozenValue hitems).flip hitem
    obtain ⟨hkey, hvalue, -, -⟩ := frozenValue_eq_some hfrozen
    refine ⟨value, ?_, ?_⟩
    · have hsame := hcandidate.name_eq
      dsimp only at hsame hkey ⊢
      rw [hsame, hkey]
      exact hmem
    · rw [frozenPresent, hvalue]
      exact hcandidate.accepted.present
  · rintro ⟨value, hmem, hpresent⟩
    obtain ⟨item, hitem, hfrozen⟩ := 
      exists_mem_of_forall₂ (forall₂_of_mapM_frozenValue hitems) hmem
    obtain ⟨hkey, hvalue, hbody, hexcerpt⟩ := frozenValue_eq_some hfrozen
    dsimp only at hkey hvalue
    rw [frozenPresent, hvalue] at hpresent
    have hdefined : ∃ definition, config.field? item.name = some definition := by
      refine Option.isSome_iff_exists.1 ?_
      rw [hkey, TenantConfig.field?, ← mem_dictKeys_iff]
      exact hknown name (List.mem_map.2 ⟨(name, value), hmem, rfl⟩)
    obtain ⟨definition, hdefinition⟩ := hdefined
    obtain ⟨-, hnormalized⟩ := hsupported item hitem definition hdefinition hpresent
    obtain ⟨kept, hkept⟩ := Option.isSome_iff_exists.1 hnormalized
    obtain rfl := normalizedValue_eq hkept
    have hcandidate : (item.name, FieldSource.body, item.value) ∈
        proposalCandidates checks items config none := by
      refine mem_proposalCandidates.2 ⟨item, hitem, rfl, ?_, rfl, item.name_nonempty, hpresent,
        definition, hdefinition, hkept⟩
      show FieldSource.body ∈ sourceCandidates item (sourceBody none) none
      simp [sourceCandidates, hbody, hexcerpt]
    obtain ⟨data, hdata⟩ := exists_mem_validateFields hcandidate
    rw [← hkey]
    exact List.mem_map.2 ⟨(item.name, data), hdata, rfl⟩

end Dropped
/-! ## From a review to a decision -/

namespace ApprovalReview

variable {services : Services} {registry : ActionRegistry} {approval : Approval} {db : Db}
  {now : Timestamp}

/-- What an executable approval still needs to be approved at `now`. -/
structure Actionable (registry : ActionRegistry) (approval : Approval) (db : Db)
    (now : Timestamp) : Prop where
  parked : ∃ job, joinedJob db approval = some job ∧ job.status = .awaitingApproval ∧
    approval.tenantConfigSha256 = some job.tenantConfigSha256
  in_time : ∃ deadline, approval.expiresAt = some deadline ∧ now < deadline
  version_current : ∀ action capability, frozenCommand approval = some action →
    registry.require action.name = some capability →
    action.version = capability.pendingActionVersion
  fields_present : ∀ action, frozenCommand approval = some action →
    ∀ name ∈ dictKeys action.knownFields,
      ∃ value, (name, value) ∈ action.knownFields ∧ frozenPresent value = true
  handled : ∀ name, name ∈ registry.keys ↔ name ∈ registryKeys

/-- What the projection has found of an approval that it shows as executable. -/
structure Executable (services : Services) (registry : ActionRegistry) (approval : Approval)
    (db : Db) (action : PendingAction) (profile : TenantConfig × Option CompiledTenantProfile)
    (capability : RegisteredAction) : Prop where
  frozen : frozenCommand approval = some action
  resolved : reviewProfile services approval db = some profile
  fields_valid : (validateFrozenFields services.checks action.knownFields profile.1
    none).invalidFields = []
  pending : approval.status = .pending
  required : registry.require action.name = some capability
  arguments_valid : capability.argumentsModel action.arguments = .ok ()
  authorized : ApprovalDecision.Authorized profile action.name

theorem projectExecutable_true {action : PendingAction} {compiled : Option CompiledTenantProfile}
    (h : projectExecutable registry approval action compiled = .ok true) :
    ∃ capability, registry.require action.name = some capability ∧
      capability.argumentsModel action.arguments = .ok () ∧
      (compiled.any fun profile => profile.availableActions.contains action.name) = true := by
  unfold projectExecutable at h
  split at h
  · cases h
  rename_i capability hrequired
  split at h
  · cases h
  · cases h
  rename_i harguments
  have hboth := Except.ok.inj h
  rw [Bool.and_eq_true] at hboth
  exact ⟨capability, hrequired, harguments, hboth.1⟩

theorem executable_of_project {view : ApprovalReviewRead}
    (h : project services registry approval db = .ok view) (hexecutable : view.executable = true) :
    ∃ action profile capability,
      Executable services registry approval db action profile capability := by
  obtain ⟨⟨fields, executable⟩, hcommand, hview⟩ := ok_of_bind h
  cases hview
  dsimp only at hexecutable
  subst hexecutable
  unfold projectCommand at hcommand
  split at hcommand
  · cases hcommand
  rename_i action hfrozen
  split at hcommand
  · cases hcommand
  rename_i profile hresolved
  dsimp only at hcommand
  split at hcommand
  · rename_i hvalid
    obtain ⟨shown, hshown, hcommand⟩ := ok_of_bind hcommand
    cases hcommand
    obtain ⟨capability, hrequired, harguments, hauthorized⟩ := projectExecutable_true hshown
    exact ⟨action, profile, capability, hfrozen, hresolved, hvalid.1, hvalid.2, hrequired,
      harguments, hauthorized⟩
  · cases hcommand

theorem frozenCommand_eq_some_iff {action : PendingAction} :
    frozenCommand approval = some action ↔ ∃ pending, approval.pendingAction = some pending ∧
      PendingAction.modelValidate pending = some action ∧ action.name = approval.action := by
  unfold frozenCommand
  constructor
  · intro h
    obtain ⟨pending, hpending, h⟩ := Option.bind_eq_some_iff.1 h
    obtain ⟨decoded, hdecoded, h⟩ := Option.bind_eq_some_iff.1 h
    obtain ⟨_, hname, h⟩ := Option.bind_eq_some_iff.1 h
    cases h
    exact ⟨pending, hpending, hdecoded, by simpa using hname⟩
  · rintro ⟨pending, hpending, hdecoded, hname⟩
    simp [hpending, hdecoded, hname]

/-- For an executable approval, the checks of a decision to approve it pass exactly
when it is actionable. -/
theorem Executable.passes_iff {action : PendingAction}
    {profile : TenantConfig × Option CompiledTenantProfile} {capability : RegisteredAction}
    (h : Executable services registry approval db action profile capability)
    (hrow : approval ∈ db.approvals) (hkey : Table.Unique Approval.id db.approvals)
    {operator : Operator} (htenant : operator.tenantId = approval.tenantId) :
    (∃ passed, ApprovalDecision.decideChecks services registry approval.id operator now db =
      .ok passed) ↔ Actionable registry approval db now := by
  obtain ⟨pending, hpending, hdecoded, hname⟩ := frozenCommand_eq_some_iff.1 h.frozen
  constructor
  · rintro ⟨passed, hpassed⟩
    obtain ⟨hfound, -, rows, hrows, htime, -, haction, hcapability⟩ :=
      ApprovalDecision.decideChecks_eq_ok_iff.1 hpassed
    have happroval : passed.approval = approval := by
      have hfoundId := List.find?_some hfound
      simp only [decide_eq_true_eq] at hfoundId
      exact hkey.eq (List.mem_of_find?_eq_some hfound) hrow hfoundId.1
    rw [happroval] at hrows haction hcapability
    obtain ⟨hrowsPending, -, hdeadline, hjoined, hprofile⟩ :=
      ApprovalDecision.lockedRows_eq_ok_iff.1 hrows
    obtain rfl : pending = rows.pending := Option.some.inj (hpending.symm.trans hrowsPending)
    obtain rfl : profile = rows.profile := Option.some.inj (h.resolved.symm.trans hprofile)
    obtain ⟨hpassedDecoded, -, -, -, hfields⟩ :=
      ApprovalDecision.approvableActionIn_eq_ok_iff.1 haction
    obtain ⟨hparked, hsha, -, hregistered, hkeys⟩ :=
      ApprovalDecision.executeChecks_eq_ok_iff.1 hcapability
    have hsame : passed.action = action := Option.some.inj (hpassedDecoded.symm.trans hdecoded)
    rw [hsame] at hfields hregistered
    refine ⟨⟨rows.job, hjoined, hparked, hsha⟩, ⟨rows.deadline, hdeadline, htime⟩, ?_, ?_,
      sortedSet_eq_iff.1 hkeys⟩
    · intro other found hother hfoundCapability
      obtain rfl : action = other := Option.some.inj (h.frozen.symm.trans hother)
      obtain rfl : passed.capability = found :=
        Option.some.inj (hregistered.required.symm.trans hfoundCapability)
      exact hregistered.version_eq
    · intro other hother name hmem
      obtain rfl : action = other := Option.some.inj (h.frozen.symm.trans hother)
      refine (mem_frozenValues_iff hfields.valid).1 ?_
      exact (sortedSet_eq_iff.1 hfields.same_keys name).2 hmem
  · intro hactionable
    obtain ⟨job, hjoined, hparked, hsha⟩ := hactionable.parked
    obtain ⟨deadline, hdeadline, htime⟩ := hactionable.in_time
    have hfound : getForTenant approval.id operator.tenantId db = some approval := by
      refine hkey.find?_eq hrow ?_ fun other hother => ?_
      · simp only [decide_eq_true_eq]
        exact ⟨trivial, htenant.symm,
          (ApprovalDecision.publishedLifecycle_pending_iff h.pending hjoined).2 hparked⟩
      · simp only [decide_eq_true_eq] at hother
        exact hother.1
    have hregistered : ApprovalDecision.Registered registry action capability :=
      ⟨h.required, hactionable.version_current action capability h.frozen h.required,
        h.arguments_valid⟩
    have hkept : ApprovalDecision.FieldsKept services.checks profile.1 action.knownFields := by
      refine ⟨h.fields_valid, sortedSet_eq_iff.2 fun name => ?_⟩
      rw [mem_frozenValues_iff h.fields_valid]
      constructor
      · rintro ⟨value, hmem, -⟩
        exact List.mem_map.2 ⟨(name, value), hmem, rfl⟩
      · exact hactionable.fields_present action h.frozen name
    refine ⟨⟨approval, job, action, capability⟩, ApprovalDecision.decideChecks_eq_ok_iff.2
      ⟨hfound, h.pending, ⟨pending, deadline, job, profile⟩, ?_, htime, rfl, ?_, ?_⟩⟩
    · exact ApprovalDecision.lockedRows_eq_ok_iff.2
        ⟨hpending, by rw [hsha]; rfl, hdeadline, hjoined, h.resolved⟩
    · exact ApprovalDecision.approvableActionIn_eq_ok_iff.2
        ⟨hdecoded, hname, ⟨capability, hregistered⟩, h.authorized, hkept⟩
    · exact ApprovalDecision.executeChecks_eq_ok_iff.2
        ⟨hparked, hsha, hname.symm, hregistered, sortedSet_eq_iff.2 hactionable.handled⟩

/-- What a review that shows an approval as executable promises.  The checks of
a decision to approve it, at any later moment on the same rows, pass exactly when
the job is still parked under the profile of the approval, the deadline is ahead,
the command has the registered version, none of its fields is blank, and the
registry has the actions that the executor handles.  When they pass, the decision
is the handler of the action and the writes after it; when they do not, it raises
what the failing check raises. -/
theorem executable_passes_iff (registry : ActionRegistry) {view : ApprovalReviewRead}
    (hview : project services registry approval db = .ok view)
    (hexecutable : view.executable = true)
    (hrow : approval ∈ db.approvals) (hkey : Table.Unique Approval.id db.approvals)
    {operator : Operator} (htenant : operator.tenantId = approval.tenantId)
    {request : DecisionRequest} (hrequest : request.decision = .approve) (now : Timestamp)
    (handlers : ApprovalExecutor.Handlers) :
    ((∃ passed, ApprovalDecision.decideChecks services registry approval.id operator now db =
        .ok passed) ↔ Actionable registry approval db now) ∧
      (∀ passed, ApprovalDecision.decideChecks services registry approval.id operator now db =
          .ok passed →
        ApprovalDecision.decideBodyIn services registry handlers approval.id operator
        request now db =
          ApprovalDecision.approvePassed handlers passed.approval passed.job passed.action
            passed.capability operator request now db) ∧
      ∀ error, ApprovalDecision.decideChecks services registry approval.id operator now db =
          .error error →
        (ApprovalDecision.decideIn services registry handlers approval.id operator request now
          db).1 = .error error := by
  obtain ⟨action, profile, capability, hshown⟩ := executable_of_project hview hexecutable
  refine ⟨hshown.passes_iff hrow hkey htenant, fun passed hpassed => ?_, fun error herror => ?_⟩
  · exact ApprovalDecision.decideBodyIn_of_passed hrequest hpassed
  · refine ApprovalDecision.decideIn_of_refused hrequest ?_ herror
    intro found hfound
    have hfoundId := List.find?_some hfound
    simp only [decide_eq_true_eq] at hfoundId
    rw [hkey.eq (List.mem_of_find?_eq_some hfound) hrow hfoundId.1]
    exact hshown.pending

/-! ### An approval under review -/

def reviewServices : Services where
  checks := noChecks
  decodeDocument _ := none
  resolvePersistedProfile _ _ :=
    some (replyProfile, (compileTenantProfile replyProfile replyFingerprint).toOption)

def reviewedJob : AgentJob :=
  { parkedJob with tenantConfigSnapshot := .obj [] }

/-- A pending approval that is due at 100, with a given version and given fields. -/
def reviewedApproval (version : ℕ) (fields : List (String × Json)) : Approval :=
  { frozenApproval with
    pendingAction := some (PendingAction.modelDump
      { frozenReply with version := version, knownFields := fields }) }

def reviewedDb (version : ℕ) (fields : List (String × Json)) : Db :=
  ⟨[reviewedJob], [], [reviewedApproval version fields], [], [], [], [], []⟩

def approvingRequest : DecisionRequest := ⟨.approve, "Fine.", approving_reason_valid⟩

/-- The decision to approve the reviewed approval. -/
def reviewedDecision (version : ℕ) (fields : List (String × Json)) (now : Timestamp) :
    Except AppError DecisionResponse :=
  (ApprovalDecision.decideIn reviewServices .builtin
    (ApprovalExecutor.builtinHandlers reviewServices 5) 4 ⟨1, "ops"⟩ approvingRequest now
    (reviewedDb version fields)).1

/-- The projection of the reviewed approval. -/
def reviewedView (version : ℕ) (fields : List (String × Json)) :
    Except AppError ApprovalReviewRead :=
  project reviewServices .builtin (reviewedApproval version fields) (reviewedDb version fields)

/-- The approval is shown as executable and approved before its deadline. -/
theorem executable_passes_iff_reply : ∃ view passed,
    reviewedView 1 [("message", .str "When do you open?")] = .ok view ∧ view.executable = true ∧
    ApprovalDecision.decideChecks reviewServices .builtin 4 ⟨1, "ops"⟩ 10
      (reviewedDb 1 [("message", .str "When do you open?")]) = .ok passed := by
  have hview : ∃ view, reviewedView 1 [("message", .str "When do you open?")] = .ok view ∧
      view.executable = true := ⟨_, rfl, rfl⟩
  obtain ⟨view, hview, hexecutable⟩ := hview
  have hfrozen : frozenCommand (reviewedApproval 1 [("message", .str "When do you open?")]) =
      some { frozenReply with knownFields := [("message", .str "When do you open?")] } := rfl
  have hactionable : Actionable .builtin
      (reviewedApproval 1 [("message", .str "When do you open?")])
      (reviewedDb 1 [("message", .str "When do you open?")]) 10 := by
    refine ⟨⟨reviewedJob, rfl, rfl, rfl⟩, ⟨100, rfl, by decide⟩, ?_, ?_, ?_⟩
    · intro action capability haction hcapability
      cases hfrozen.symm.trans haction
      cases hcapability
      rfl
    · intro action haction name hname
      cases hfrozen.symm.trans haction
      obtain rfl := List.mem_singleton.1 hname
      exact ⟨_, List.mem_singleton_self _, by decide +kernel⟩
    · intro name
      rw [ActionRegistry.builtin_keys]
  have htenant : (⟨1, "ops"⟩ : Operator).tenantId =
      (reviewedApproval 1 [("message", .str "When do you open?")]).tenantId := rfl
  have hrequest : approvingRequest.decision = .approve := rfl
  obtain ⟨hpasses, -⟩ := executable_passes_iff .builtin hview hexecutable
    (List.mem_singleton_self _) (List.nodup_singleton _) htenant hrequest 10
    (ApprovalExecutor.builtinHandlers reviewServices 5)
  obtain ⟨passed, hpassed⟩ := hpasses.2 hactionable
  exact ⟨view, passed, hview, hexecutable, hpassed⟩

/-- Three reviews that promise too much.  An approval is executable at its
deadline, in another version than the registered one, and with a blank field;
the decision to approve it raises each time. -/
theorem executable_review_refused :
    ((∃ view, reviewedView 1 [("message", .str "When do you open?")] = .ok view ∧
        view.executable = true) ∧
      reviewedDecision 1 [("message", .str "When do you open?")] 100 =
        .error (.approvalExpired "approval expired")) ∧
    ((∃ view, reviewedView 2 [("message", .str "When do you open?")] = .ok view ∧
        view.executable = true) ∧
      reviewedDecision 2 [("message", .str "When do you open?")] 10 =
        .error (.approvalDecisionConflict "approval action is invalid")) ∧
    (∃ view, reviewedView 1 [("message", .str "")] = .ok view ∧ view.executable = true) ∧
      reviewedDecision 1 [("message", .str "")] 10 =
        .error (.approvalDecisionConflict "approval known fields are no longer valid") := by
  refine ⟨⟨⟨_, rfl, rfl⟩, ?_⟩, ⟨⟨_, rfl, rfl⟩, ?_⟩, ⟨_, rfl, rfl⟩, ?_⟩
  · rfl
  · rfl
  · rfl

end ApprovalReview
end IntegraIntake
