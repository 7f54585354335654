import IntegraIntake.Approvals.Decision
import IntegraIntake.Tenants.FrozenFields
import IntegraIntake.Tools.Arguments
import IntegraIntake.Tools.ModelInput
import IntegraIntake.Tools.Registry

/-!
# Frozen commands stay approvable

The executor freezes a command when it asks for an approval: the validated
arguments in their JSON form and the accepted field values.  The command goes
through a JSONB column and is checked again when an operator approves it, by
`decide` and once more by the action executor.  `Approvable` collects the checks
of `decide`; with the job still parked and its profile the one of the request,
passing them leads to the handler of the action.
-/

namespace IntegraIntake

open Library

/-! ## The checks of a decision -/

namespace ApprovalDecision

variable {services : Services} {approval : Approval} {pending : Json}
  {profile : TenantConfig × Option CompiledTenantProfile} {action : PendingAction}

/-- The stored command passes every check `decide` makes before it executes it. -/
structure Approvable (services : Services) (approval : Approval) (pending : Json)
    (profile : TenantConfig × Option CompiledTenantProfile) (action : PendingAction)
    (capability : ActionCapability) (arguments : ToolArgs) : Prop where
  decoded : PendingAction.modelValidate pending = some action
  name_eq : action.name = approval.action
  registered : requireAction action.name = some capability
  version_eq : action.version = capability.pendingActionVersion
  arguments_valid : ToolArgs.modelValidate capability.key action.arguments = .ok arguments
  authorized : ∃ compiled, profile.2 = some compiled ∧ action.name ∈ compiled.availableActions
  fields_valid :
    (validateFrozenFields services.checks action.knownFields profile.1 none).invalidFields = []
  fields_same :
    sortedSet (dictKeys
      (validateFrozenFields services.checks action.knownFields profile.1 none).values) =
      sortedSet (dictKeys action.knownFields)

theorem Approvable.approvableAction_eq {capability : ActionCapability} {arguments : ToolArgs}
    (h : Approvable services approval pending profile action capability arguments) :
    approvableAction services approval pending profile = .ok action := by
  obtain ⟨compiled, hprofile, havailable⟩ := h.authorized
  have hauthorized : (profile.2.any fun compiled =>
      compiled.availableActions.contains action.name) = true := by
    rw [hprofile]
    simpa using havailable
  unfold approvableAction
  rw [h.decoded]
  simp only [h.name_eq]
  rw [← h.name_eq, h.registered]
  simp only [h.version_eq, ne_eq, not_true_eq_false, if_false, h.arguments_valid, hauthorized,
    Bool.not_true, Bool.false_eq_true, h.fields_valid, h.fields_same, or_self]

end ApprovalDecision

/-! ## Past the checks -/

/-- `execute` of the action executor, once its checks have passed. -/
def ApprovalExecutor.executeHandler (services : Services) (newId : Uuid) (approval : Approval)
    (job : AgentJob) (action : PendingAction) (capability : ActionCapability) (arguments : ToolArgs)
    (now : Timestamp) : Query Executed := do
  let handled ← handle services newId approval job action arguments
  pure {
    approval := { approval with caseId := handled.caseId }
    job := { job with sideEffectCommittedAt :=
      if capability.commitsSideEffect then some now else job.sideEffectCommittedAt }
    result := .obj handled.result }

namespace ApprovalDecision

open ApprovalRepository

/-- The approving branch of `decide`, once every check before the action's
handler has passed, those of the action executor included. -/
def approveChecked (services : Services) (newId : Uuid) (approval : Approval) (job : AgentJob)
    (action : PendingAction) (capability : ActionCapability) (arguments : ToolArgs)
    (operator : Operator) (request : DecisionRequest) (now : Timestamp) : Query Verdict := do
  let executed ← ApprovalExecutor.executeHandler services newId approval job action capability
    arguments now
  let approved := approvedRow operator request now executed
  Session.write fun db => ((db.setApproval approved).addApprovalEvent
    ⟨approval.tenantId, approval.id, .approved, some operator.actorRef, .obj []⟩).addApprovalEvent
    ⟨approval.tenantId, approval.id, .actionExecuted, some operator.actorRef,
      .obj [("action", .str approval.action), ("executed", .bool true)]⟩
  finalizeJob approved executed.job now
  let value ← ofExcept (response approved)
  pure (.response value)

variable {services : Services} {approval : Approval} {pending : Json} {job : AgentJob}
  {profile : TenantConfig × Option CompiledTenantProfile} {action : PendingAction}
  {capability : ActionCapability} {arguments : ToolArgs} {operator : Operator}
  {request : DecisionRequest} {now deadline : Timestamp} {newId approvalId : Uuid} {db : Db}

/-- The executor repeats the checks of `decide` on the command, and adds those
on the job. -/
theorem Approvable.execute_eq
    (h : Approvable services approval pending profile action capability arguments)
    (hstatus : job.status = .awaitingApproval)
    (hsha : approval.tenantConfigSha256 = some job.tenantConfigSha256) :
    ApprovalExecutor.execute services newId approval job action now =
      ApprovalExecutor.executeHandler services newId approval job action capability
      arguments now := by
  have htrusted : ¬ (job.status ≠ .awaitingApproval ∨
      approval.tenantConfigSha256 ≠ some job.tenantConfigSha256 ∨
      approval.action ≠ action.name) := by
    simp [hstatus, hsha, h.name_eq]
  have hversion : ¬ action.version ≠ capability.pendingActionVersion := not_not.2 h.version_eq
  unfold ApprovalExecutor.execute
  rw [if_neg htrusted, h.registered]
  dsimp only
  rw [if_neg hversion, h.arguments_valid]
  rfl

theorem Approvable.approveBranch_eq
    (h : Approvable services approval pending profile action capability arguments)
    (hstatus : job.status = .awaitingApproval)
    (hsha : approval.tenantConfigSha256 = some job.tenantConfigSha256) :
    approveBranch services newId approval pending job profile operator request now =
      approveChecked services newId approval job action capability arguments operator
      request now := by
  unfold approveBranch
  rw [h.approvableAction_eq, ofExcept, Session.pure_bind, h.execute_eq hstatus hsha]
  rfl

/-- The rows a decision about a pending approval finds. -/
structure AwaitsDecision (services : Services) (db : Db) (approvalId tenantId : Uuid)
    (approval : Approval) (pending : Json) (deadline : Timestamp) (job : AgentJob)
    (profile : TenantConfig × Option CompiledTenantProfile) : Prop where
  found : getForTenant approvalId tenantId db = some approval
  status_eq : approval.status = .pending
  job_eq : approval.jobId = some job.id
  pending_eq : approval.pendingAction = some pending
  sha_eq : approval.tenantConfigSha256 = some job.tenantConfigSha256
  deadline_eq : approval.expiresAt = some deadline
  job_found : db.job? job.id approval.tenantId = some job
  resolved : services.resolvePersistedProfile job.tenantConfigSnapshot job.tenantConfigSha256 =
    some profile

/-- A pending approval is published only while its job is parked. -/
theorem AwaitsDecision.parked {tenantId : Uuid}
    (h : AwaitsDecision services db approvalId tenantId approval pending deadline job profile) :
    job.status = .awaitingApproval := by
  have hpublished := List.find?_some h.found
  simp only [decide_eq_true_eq] at hpublished
  have hlifecycle := hpublished.2.2
  have hjoined : joinedJob db approval = some job := by
    rw [joinedJob, h.job_eq]
    exact h.job_found
  simpa [publishedLifecycle, h.status_eq, h.job_eq, hjoined] using hlifecycle

/-- An approval that passes the checks of `decide` in time is executed. -/
theorem decideBody_approve
    (hawaits : AwaitsDecision services db approvalId operator.tenantId approval pending deadline job
      profile)
    (happrovable : Approvable services approval pending profile action capability arguments)
    (htime : now < deadline) (hrequest : request.decision = .approve) :
    decideBody services newId approvalId operator request now db =
      approveChecked services newId approval job action capability arguments operator request now
        db := by
  have hlate : ¬ deadline ≤ now := not_le.2 htime
  unfold decideBody
  rw [Session.read_bind_run, hawaits.found]
  dsimp only
  unfold decideLocked
  rw [hawaits.job_eq, hawaits.pending_eq, hawaits.sha_eq, hawaits.deadline_eq]
  dsimp only
  rw [Session.read_bind_run, hawaits.job_found]
  dsimp only
  rw [hawaits.resolved]
  dsimp only
  unfold decideResolved
  rw [hawaits.status_eq, if_neg (by decide), if_neg (by decide), if_neg hlate, hrequest]
  exact congrFun (happrovable.approveBranch_eq hawaits.parked hawaits.sha_eq) db

end ApprovalDecision

/-! ## The command read back -/

theorem ToolArgs.stored_modelDump (order : MemberOrder) (arguments : ToolArgs) :
    (arguments.modelDump.map fun member => (member.1, Json.stored order member.2)) =
      arguments.modelDump := by
  have hoption : ∀ {α : Type} (text : α → String) (value : Option α),
      Json.stored order (optionJson (fun a => .str (text a)) value) =
        optionJson (fun a => .str (text a)) value := by
    intro α text value
    cases value <;> rfl
  cases arguments with
  | findCustomer values =>
      simp only [ToolArgs.modelDump, List.map_cons, List.map_nil]
      rw [hoption fun text => text, hoption fun text => text]
  | createCase values => simp only [ToolArgs.modelDump, List.map_cons, List.map_nil, hoption]
  | updateCaseFields values => rfl
  | createReplyDraft values => simp only [ToolArgs.modelDump, List.map_cons, List.map_nil, hoption]
  | flagForReview values =>
      simp only [ToolArgs.modelDump, List.map_cons, List.map_nil]
      rw [hoption fun text => text]

theorem stored_knownFieldsJson (order : MemberOrder) (fields : List (String × ProposalValueData)) :
    ((knownFieldsJson fields).map fun member => (member.1, Json.stored order member.2)) =
      knownFieldsJson fields := by
  rw [knownFieldsJson, List.map_map]
  refine List.map_congr_left fun field _ => ?_
  exact congrArg (Prod.mk field.1) (ProposalValueData.stored_toJson order field.2)

/-- A dumped command is a command again after it was stored; only the members of
its two dictionaries may change places. -/
theorem PendingAction.modelValidate_stored (order : MemberOrder) (command : PendingAction)
    (hversion : 1 ≤ command.version) (hname : isSafeIdentifier command.name = true) :
    ∃ action, PendingAction.modelValidate (Json.stored order command.modelDump) = some action ∧
      action.version = command.version ∧ action.name = command.name ∧
      action.arguments.Perm
        (command.arguments.map fun member => (member.1, Json.stored order member.2)) ∧
      action.knownFields.Perm
        (command.knownFields.map fun member => (member.1, Json.stored order member.2)) := by
  obtain ⟨arguments, harguments, hargumentsPerm⟩ := Json.stored_obj order command.arguments
  obtain ⟨fields, hfields, hfieldsPerm⟩ := Json.stored_obj order command.knownFields
  refine ⟨⟨command.version, command.name, arguments, fields⟩, ?_, rfl, rfl, hargumentsPerm,
    hfieldsPerm⟩
  obtain ⟨members, hmembers, hperm⟩ := Json.stored_obj order
    [("version", .int command.version), ("name", .str command.name),
      ("arguments", .obj command.arguments), ("known_fields", .obj command.knownFields)]
  have hperm : members.Perm [("version", .int command.version), ("name", .str command.name),
      ("arguments", .obj arguments), ("known_fields", .obj fields)] := by
    rw [← harguments, ← hfields]
    exact hperm
  have hnodup : ([("version", Json.int command.version), ("name", .str command.name),
      ("arguments", .obj arguments), ("known_fields", .obj fields)].map Prod.fst).Nodup := by
    simp
  have hversionBack : members.lookup "version" = some (.int command.version) :=
    lookup_of_perm hperm hnodup
  have hnameBack : members.lookup "name" = some (.str command.name) := lookup_of_perm hperm hnodup
  have hargumentsBack : members.lookup "arguments" = some (.obj arguments) :=
    lookup_of_perm hperm hnodup
  have hfieldsBack : members.lookup "known_fields" = some (.obj fields) :=
    lookup_of_perm hperm hnodup
  have hclosed : (members.all fun member =>
      ["version", "name", "arguments", "known_fields"].contains member.1) = true := by
    rw [hperm.all_eq]
    rfl
  have hpositive : (1 : ℤ) ≤ command.version := by exact_mod_cast hversion
  rw [PendingAction.modelDump, hmembers, PendingAction.modelValidate]
  simp only [hversionBack, hnameBack, hargumentsBack, hfieldsBack, hclosed, hpositive, if_true]
  simp [Json.asStr?, hname]

/-- Read back as it was written, a command is the same command. -/
theorem PendingAction.modelValidate_modelDump {command : PendingAction}
    (hversion : 1 ≤ command.version) (hname : isSafeIdentifier command.name = true) :
    PendingAction.modelValidate command.modelDump = some command := by
  have hpositive : (1 : ℤ) ≤ command.version := by exact_mod_cast hversion
  simp [PendingAction.modelDump, PendingAction.modelValidate, List.lookup_cons, Json.asStr?,
    hpositive, hname]

/-! ## What the executor freezes -/

theorem availableActions_mem {policy : List (String × ActionRule)} {available : List String}
    (h : availableActions policy = .ok available) {name : String} {rule : ActionRule}
    (hrule : policy.lookup name = some rule) (hexecutable : rule.execution = .executable)
    (hallowed : rule.allowed = true) : name ∈ available := by
  induction policy generalizing available with
  | nil => cases hrule
  | cons entry rest ih =>
      obtain ⟨action, first⟩ := entry
      rw [List.lookup_cons] at hrule
      unfold availableActions at h
      split at hrule
      · rename_i hsame
        cases hrule
        obtain rfl : name = action := by simpa using hsame
        rw [hexecutable] at h
        dsimp only at h
        split at h
        · cases h
        · rename_i capability hcapability
          obtain ⟨others, -, h⟩ := ok_of_bind h
          cases h
          rw [if_pos hallowed, requireAction_name hcapability]
          exact List.mem_cons_self
      · split at h
        · exact ih h hrule
        · split at h
          · cases h
          · obtain ⟨others, hothers, h⟩ := ok_of_bind h
            cases h
            have hmem := ih hothers hrule
            split
            · exact List.mem_cons_of_mem _ hmem
            · exact hmem

variable {σ : Type} {checks : ValueChecks} {port : TenantToolPort σ}
  {runtime : TrustedToolRuntimeContext} {proposal : AgentProposal} {call : ToolCall}

/-- A call that reaches `request_approval` was permitted, has valid arguments, and
leaves the port with the frozen command. -/
theorem execute_requested {world : World σ} {invoked : List Invocation}
    (hlog : (execute checks port runtime proposal call world).2.log = world.log ++ invoked)
    (hrequested : Invocation.port .requestApproval ∈ invoked) :
    ∃ capability arguments reason, Permitted checks runtime proposal call ∧
      requireAction call.name = some capability ∧
      ToolArgs.modelValidate capability.key call.arguments = .ok arguments ∧
      (execute checks port runtime proposal call world).2.state =
        (port.requestApproval runtime.tenantId
          (pendingAction checks runtime proposal capability arguments) reason world.state).2 := by
  have hsilent : (execute checks port runtime proposal call world).2 = world → False := by
    intro hworld
    rw [hworld] at hlog
    rw [List.self_eq_append_right.1 hlog] at hrequested
    cases hrequested
  by_cases hadmissible : Permitted checks runtime proposal call ∧ ArgumentsValid call
  swap
  · exact (hsilent (execute_quiet port hadmissible world).1).elim
  obtain ⟨hpermitted, capability, arguments, hcapability, harguments⟩ := hadmissible
  refine ⟨capability, arguments,
    (evaluate (policyInput checks runtime proposal call)).reason, hpermitted, hcapability,
    harguments, ?_⟩
  by_cases hcancelled : runtime.cancelled 0 = true
  · refine (hsilent ?_).elim
    rw [execute, checkCancelled, if_pos hcancelled]
    rfl
  have hdecided : execute checks port runtime proposal call =
      executeDecided checks port runtime proposal call
        (evaluate (policyInput checks runtime proposal call)) := by
    rw [execute, checkCancelled, if_neg hcancelled]
    rfl
  rcases evaluate_decision checks runtime proposal call with
    ⟨-, hnot⟩ | ⟨hdecision, -, -⟩ | ⟨hdecision, -, -⟩
  · exact absurd hpermitted hnot
  · rw [executeDecided_of_valid hcapability harguments (by simp [hdecision]),
      if_pos hdecision] at hdecided
    by_cases hsecond : runtime.cancelled 1 = true
    · refine (hsilent ?_).elim
      rw [hdecided, requestApprovalBranch, checkCancelled, if_pos hsecond]
      rfl
    · rw [hdecided, requestApprovalBranch, checkCancelled, if_neg hsecond, Session.pure_bind,
        Session.bind_run]
      unfold callPort
      cases hport : port.requestApproval runtime.tenantId
          (pendingAction checks runtime proposal capability arguments)
          (evaluate (policyInput checks runtime proposal call)).reason world.state with
      | mk answer next => cases answer <;> rfl
  · -- the branch that runs the handler asks nobody
    rw [executeDecided_of_valid hcapability harguments (by simp [hdecision]),
      if_neg (by simp [hdecision])] at hdecided
    obtain ⟨others, hothers, hnone⟩ := handlerBranch_noRequest _ capability arguments world
    rw [hdecided, hothers] at hlog
    rw [List.append_cancel_left hlog] at hnone
    exact absurd hrequested hnone

/-- The JSON value decodes to the command, but for the order of the members of its
dictionaries. -/
structure Reloads (command : PendingAction) (pending : Json) (action : PendingAction) : Prop where
  decoded : PendingAction.modelValidate pending = some action
  version_eq : action.version = command.version
  name_eq : action.name = command.name
  arguments_perm : action.arguments.Perm command.arguments
  fields_perm : action.knownFields.Perm command.knownFields

section Reloaded

variable {capability : ActionCapability} {arguments : ToolArgs} {pending : Json}
  {action : PendingAction}

/-- A frozen command comes back from its column. -/
theorem exists_reloads (order : MemberOrder) (checks : ValueChecks)
    (runtime : TrustedToolRuntimeContext) (proposal : AgentProposal) (arguments : ToolArgs)
    {name : String} (hcapability : requireAction name = some capability) :
    ∃ action, Reloads (pendingAction checks runtime proposal capability arguments)
      (Json.stored order (pendingAction checks runtime proposal capability arguments).modelDump)
      action := by
  obtain ⟨action, hdecoded, hversion, hname, hargumentsPerm, hfieldsPerm⟩ :=
    PendingAction.modelValidate_stored order
      (pendingAction checks runtime proposal capability arguments)
      (requireAction_version hcapability) capability.key.name_safe
  refine ⟨action, hdecoded, hversion, hname, ?_, ?_⟩
  · exact hargumentsPerm.trans (List.Perm.of_eq (ToolArgs.stored_modelDump order arguments))
  · exact hfieldsPerm.trans (List.Perm.of_eq (stored_knownFieldsJson order
      (validateProposalFields checks proposal runtime).values))

theorem Reloads.arguments_valid
    (h : Reloads (pendingAction checks runtime proposal capability arguments) pending action)
    (harguments : ToolArgs.modelValidate capability.key call.arguments = .ok arguments) :
    ToolArgs.modelValidate capability.key action.arguments = .ok arguments :=
  ToolArgs.modelValidate_dump harguments h.arguments_perm

/-- The check of frozen fields accepts them as they come back. -/
theorem Reloads.fields_valid
    (h : Reloads (pendingAction checks runtime proposal capability arguments) pending action)
    (source : Option TrustedSource) :
    (validateFrozenFields checks action.knownFields runtime.tenantConfig
      source).invalidFields = [] ∧
      knownFieldsJson
        (validateFrozenFields checks action.knownFields runtime.tenantConfig source).values =
        action.knownFields := by
  obtain ⟨fields, hfields, hknown⟩ :=
    (validateFields_frozen proposal.fields).reloaded h.fields_perm
  have hfrozen : validateFrozenFields checks action.knownFields runtime.tenantConfig source =
      ⟨fields, []⟩ := by
    rw [← hknown]
    exact hfields.validateFrozenFields_eq
  rw [hfrozen]
  exact ⟨rfl, hknown⟩

theorem Permitted.available (h : Permitted checks runtime proposal call) {fingerprint : String}
    {compiled : CompiledTenantProfile}
    (hcompiled : compileTenantProfile runtime.tenantConfig fingerprint = .ok compiled) :
    call.name ∈ compiled.availableActions := by
  obtain ⟨rule, hrule, hexecutable, hallowed⟩ := h.rule_executable
  exact availableActions_mem (compileTenantProfile_ok hcompiled).2.2 hrule hexecutable hallowed

/-- A permitted call, frozen and read back, passes the checks of `decide` under the
profile it was permitted by. -/
theorem Reloads.approvable
    (h : Reloads (pendingAction checks runtime proposal capability arguments) pending action)
    (hpermitted : Permitted checks runtime proposal call)
    (hcapability : requireAction call.name = some capability)
    (harguments : ToolArgs.modelValidate capability.key call.arguments = .ok arguments)
    {fingerprint : String} {compiled : CompiledTenantProfile}
    (hcompiled : compileTenantProfile runtime.tenantConfig fingerprint = .ok compiled)
    {services : Services} (hchecks : services.checks = checks) {approval : Approval}
    (haction : approval.action =
      (pendingAction checks runtime proposal capability arguments).name) :
    ApprovalDecision.Approvable services approval pending (runtime.tenantConfig, some compiled)
      action capability arguments := by
  subst hchecks
  have hcall : action.name = call.name := h.name_eq.trans (requireAction_name hcapability)
  obtain ⟨hinvalid, hvalues⟩ := h.fields_valid none
  exact {
    decoded := h.decoded
    name_eq := h.name_eq.trans haction.symm
    registered := by rw [hcall, hcapability]
    version_eq := h.version_eq
    arguments_valid := h.arguments_valid harguments
    authorized := ⟨compiled, rfl, hcall ▸ hpermitted.available hcompiled⟩
    fields_valid := hinvalid
    fields_same := by
      conv_rhs => rw [← hvalues]
      rw [dictKeys_knownFieldsJson] }

end Reloaded

/-- Every command that `execute` freezes in a request for an approval can be
approved.  Stored as JSONB and read back, it is a command with the same version
and name, its arguments validate to the same values, its action is available in
the compiled profile, and its fields pass the check of frozen fields as they are.
A decision to approve it before its deadline then passes every check on its way
to the handler of the action. -/
theorem requested_command_approvable {world : World σ} {invoked : List Invocation}
    (hlog : (execute checks port runtime proposal call world).2.log = world.log ++ invoked)
    (hrequested : Invocation.port .requestApproval ∈ invoked) {fingerprint : String}
    {compiled : CompiledTenantProfile}
    (hcompiled : compileTenantProfile runtime.tenantConfig fingerprint = .ok compiled) :
    ∃ capability arguments reason,
      requireAction call.name = some capability ∧
      ToolArgs.modelValidate capability.key call.arguments = .ok arguments ∧
      (execute checks port runtime proposal call world).2.state =
        (port.requestApproval runtime.tenantId
          (pendingAction checks runtime proposal capability arguments) reason world.state).2 ∧
      ∀ order : MemberOrder, ∃ action,
        PendingAction.modelValidate (Json.stored order
          (pendingAction checks runtime proposal capability arguments).modelDump) = some action ∧
        action.version = (pendingAction checks runtime proposal capability arguments).version ∧
        action.name = (pendingAction checks runtime proposal capability arguments).name ∧
        ToolArgs.modelValidate capability.key action.arguments = .ok arguments ∧
        action.name ∈ compiled.availableActions ∧
        action.knownFields.Perm
          (pendingAction checks runtime proposal capability arguments).knownFields ∧
        (∀ source,
          (validateFrozenFields checks action.knownFields runtime.tenantConfig source).invalidFields
            = [] ∧
          knownFieldsJson
            (validateFrozenFields checks action.knownFields runtime.tenantConfig source).values
            = action.knownFields) ∧
        ∀ (services : Services) (db : Db) (approval : Approval) (job : AgentJob)
          (operator : Operator) (request : DecisionRequest) (newId approvalId : Uuid)
          (now deadline : Timestamp),
          services.checks = checks →
          approval.action = (pendingAction checks runtime proposal capability arguments).name →
          ApprovalDecision.AwaitsDecision services db approvalId operator.tenantId approval
            (Json.stored order
              (pendingAction checks runtime proposal capability arguments).modelDump)
            deadline job (runtime.tenantConfig, some compiled) →
          request.decision = .approve → now < deadline →
          ApprovalDecision.decideBody services newId approvalId operator request now db =
            ApprovalDecision.approveChecked services newId approval job action capability arguments
              operator request now db := by
  obtain ⟨capability, arguments, reason, hpermitted, hcapability, harguments, hstate⟩ :=
    execute_requested hlog hrequested
  refine ⟨capability, arguments, reason, hcapability, harguments, hstate, fun order => ?_⟩
  obtain ⟨action, hreloads⟩ := exists_reloads order checks runtime proposal arguments hcapability
  have hcall : action.name = call.name := hreloads.name_eq.trans (requireAction_name hcapability)
  refine ⟨action, hreloads.decoded, hreloads.version_eq, hreloads.name_eq,
    hreloads.arguments_valid harguments, hcall ▸ hpermitted.available hcompiled,
    hreloads.fields_perm, hreloads.fields_valid, ?_⟩
  intro services db approval job operator request newId approvalId now deadline hchecks haction
    hawaits hrequest htime
  exact ApprovalDecision.decideBody_approve hawaits (hreloads.approvable hpermitted hcapability
    harguments hcompiled hchecks haction) htime hrequest

/-! ### A frozen reply -/

theorem quoted_excerpt_valid : ∀ excerpt ∈ some "When do you open?",
    PyString.len excerpt ≤ 500 ∧ PyString.isBlank excerpt = false := by
  rintro excerpt ⟨⟩
  decide +kernel

/-- The proposal quotes the message it answers. -/
def quotedProposal : AgentProposal :=
  { replyProposal with
    fields := [⟨"message", .scalar (.str "When do you open?"), some .body,
      some "When do you open?", message_nonempty, quoted_excerpt_valid⟩]
    fields_nodup := List.nodup_singleton _ }

/-- The sender is at risk, so the reply needs an approval. -/
def guardedRuntime : TrustedToolRuntimeContext :=
  { replyRuntime with safetyOrLegalRisk := true }

/-- The command of a draft that waits for its approval. -/
def frozenReply : PendingAction :=
  pendingAction noChecks guardedRuntime quotedProposal ⟨.createReplyDraft, false, true, 1⟩
    (.createReplyDraft ⟨none⟩)

/-- A column that gives the members back in reverse. -/
def reversedMembers : MemberOrder where
  arrange := List.reverse
  perm := List.reverse_perm

/-- The job that has asked for it. -/
def parkedJob : AgentJob where
  id := 2
  tenantId := 1
  traceId := 3
  status := .awaitingApproval
  sourceSnapshot := .obj [("channel", .str "email"), ("subject", .str "Hello"),
    ("body", .str "When do you open?")]
  tenantConfigSnapshot := .null
  tenantConfigSha256 := replyFingerprint
  riskSignals := .null
  attemptCount := 1
  availableAt := 0
  leaseExpiresAt := none
  startedAt := some 0
  finishedAt := none
  sideEffectCommittedAt := none
  result := none
  errorCode := none
  createdAt := 0

/-- The pending approval, as its column gives it back. -/
def frozenApproval : Approval :=
  { ApprovalRepository.stagedRow 4 parkedJob 1 frozenReply "safety_or_legal_risk" 100 with
    status := .pending
    pendingAction := some (Json.stored reversedMembers frozenReply.modelDump) }

def frozenDb : Db := ⟨[parkedJob], [], [frozenApproval], [], [], [], [], []⟩

def frozenServices (compiled : CompiledTenantProfile) : Services where
  checks := noChecks
  decodeDocument := fun _ => none
  resolvePersistedProfile := fun _ _ => some (replyProfile, some compiled)

theorem approving_reason_valid : PyString.isBlank "Fine." = false := by
  decide +kernel

/-- The reply is frozen, comes back in another order, and is approved. -/
theorem requested_command_approvable_reply :
    ∃ compiled action, compileTenantProfile replyProfile replyFingerprint = .ok compiled ∧
      PendingAction.modelValidate (Json.stored reversedMembers frozenReply.modelDump) =
        some action ∧
      action.knownFields = [("message", .str "When do you open?")] ∧
      ApprovalDecision.decideBody (frozenServices compiled) 5 4 ⟨1, "ops"⟩
          ⟨.approve, "Fine.", approving_reason_valid⟩ 10 frozenDb =
        ApprovalDecision.approveChecked (frozenServices compiled) 5 frozenApproval parkedJob action
          ⟨.createReplyDraft, false, true, 1⟩ (.createReplyDraft ⟨none⟩) ⟨1, "ops"⟩
          ⟨.approve, "Fine.", approving_reason_valid⟩ 10 frozenDb := by
  have hcompiled : ∃ compiled, compileTenantProfile replyProfile replyFingerprint = .ok compiled :=
    ⟨_, rfl⟩
  obtain ⟨compiled, hcompiled⟩ := hcompiled
  have hlog : (execute noChecks grantingPort guardedRuntime quotedProposal
      ⟨"create_reply_draft", []⟩ ⟨(), []⟩).2.log = [] ++ [.port .requestApproval] := rfl
  obtain ⟨capability, arguments, -, hcapability, harguments, -, hback⟩ :=
    requested_command_approvable hlog (List.mem_singleton_self _) hcompiled
  cases hcapability
  cases harguments
  obtain ⟨action, hdecoded, -, -, -, -, hfields, -, hdecide⟩ := hback reversedMembers
  refine ⟨compiled, action, hcompiled, hdecoded, List.perm_singleton.1 hfields, ?_⟩
  refine hdecide (frozenServices compiled) frozenDb frozenApproval parkedJob ⟨1, "ops"⟩
    ⟨.approve, "Fine.", approving_reason_valid⟩ 5 4 10 100 rfl rfl ?_ rfl (by decide)
  exact ⟨rfl, rfl, rfl, rfl, rfl, rfl, rfl, rfl⟩

end IntegraIntake
