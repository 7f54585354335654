import IntegraIntake.Tools.Soundness

/-!
# Calls with arbitrary arguments

Arguments come from the model, so they can have any JSON shape.  `execute`
catches `ValidationError` alone, and `_parse_uuid` raises `TypeError` on a value
that is neither a UUID nor a string.  This file says exactly which calls that
exception escapes from.
-/

namespace IntegraIntake

open Library

/-- The UUID argument of an action, when given, is a string; the optional ones
may also be null.  `update_case_fields` needs its `case_id`, so null is not
taken as absent there. -/
def IdArgumentTyped (key : ActionKey) (arguments : List (String × Json)) : Prop :=
  match key with
  | .createCase => ∀ value ∈ arguments.lookup "customer_id",
      value = .null ∨ ∃ text, value = .str text
  | .createReplyDraft => ∀ value ∈ arguments.lookup "case_id",
      value = .null ∨ ∃ text, value = .str text
  | .updateCaseFields => ∀ value ∈ arguments.lookup "case_id", ∃ text, value = .str text
  | .findCustomer => True
  | .flagForReview => True

/-! ## When validation raises `TypeError` -/

theorem parseUuidArgument_typeError_iff {value : Json} :
    parseUuidArgument value = .error .typeError ↔ ¬ ∃ text, value = .str text := by
  cases value with
  | str text =>
      simp only [parseUuidArgument]
      split <;> simp
  | _ => simp [parseUuidArgument]

theorem map_typeError_iff {α β : Type} {check : Except ArgumentError α} {f : α → β} :
    check.map f = .error .typeError ↔ check = .error .typeError := by
  cases check <;> simp [Except.map]

theorem optionalUuid_typeError_iff {value : Option Json} :
    optionalUuid value = .error .typeError ↔
      ¬ ∀ given ∈ value, given = .null ∨ ∃ text, given = .str text := by
  cases value with
  | none => simp [optionalUuid]
  | some given =>
      by_cases hnull : given = .null
      · simp [hnull, optionalUuid]
      · have hparse : optionalUuid (some given) = (parseUuidArgument given).map some := by
          cases given <;> first | rfl | exact absurd rfl hnull
        rw [hparse, map_typeError_iff, parseUuidArgument_typeError_iff]
        simp [hnull]

theorem optionalStrictStr_ne_typeError (value : Option Json) :
    optionalStrictStr value ≠ .error .typeError := by
  unfold optionalStrictStr
  split <;> simp

theorem forbidExtra_ne_typeError (allowed : List String) (arguments : List (String × Json)) :
    forbidExtra allowed arguments ≠ .error .typeError := by
  unfold forbidExtra
  split <;> simp

/-- A sequence of checks raises `TypeError` exactly where its first part does,
when the rest cannot. -/
theorem bind_typeError_iff {α β : Type} {check : Except ArgumentError α}
    {next : α → Except ArgumentError β} (hnext : ∀ a, next a ≠ .error .typeError) :
    check >>= next = .error .typeError ↔ check = .error .typeError := by
  cases check with
  | error error => simp [bind, Except.bind]
  | ok a => simpa [bind, Except.bind] using hnext a

theorem forbidExtra_bind_ne_typeError {α : Type} (allowed : List String)
    (arguments : List (String × Json)) (a : α) :
    (do forbidExtra allowed arguments; Except.ok a) ≠ Except.error ArgumentError.typeError := by
  rw [Ne, bind_typeError_iff (by simp)]
  exact forbidExtra_ne_typeError allowed arguments

/-- Validation raises `TypeError` exactly on a UUID argument of the wrong type. -/
theorem modelValidate_typeError_iff {key : ActionKey} {arguments : List (String × Json)} :
    ToolArgs.modelValidate key arguments = .error .typeError ↔ ¬ IdArgumentTyped key arguments := by
  cases key with
  | findCustomer =>
      simp only [ToolArgs.modelValidate, map_typeError_iff, IdArgumentTyped, not_true_eq_false,
        iff_false, FindCustomerArgs.modelValidate]
      rw [bind_typeError_iff]
      · exact optionalStrictStr_ne_typeError _
      · intro email
        rw [Ne, bind_typeError_iff]
        · exact optionalStrictStr_ne_typeError _
        · intro externalId
          rw [Ne, bind_typeError_iff]
          · exact forbidExtra_ne_typeError _ _
          · intro _
            split <;> simp
  | flagForReview =>
      simp only [ToolArgs.modelValidate, map_typeError_iff, IdArgumentTyped, not_true_eq_false,
        iff_false, FlagForReviewArgs.modelValidate]
      rw [bind_typeError_iff]
      · exact optionalStrictStr_ne_typeError _
      · intro note
        split
        · simp [bind, Except.bind]
        · exact forbidExtra_bind_ne_typeError _ _ _
  | createCase =>
      simp only [ToolArgs.modelValidate, map_typeError_iff, IdArgumentTyped,
        CreateCaseArgs.modelValidate]
      rw [bind_typeError_iff fun _ => forbidExtra_bind_ne_typeError _ _ _,
        optionalUuid_typeError_iff]
  | createReplyDraft =>
      simp only [ToolArgs.modelValidate, map_typeError_iff, IdArgumentTyped,
        CreateReplyDraftArgs.modelValidate]
      rw [bind_typeError_iff fun _ => forbidExtra_bind_ne_typeError _ _ _,
        optionalUuid_typeError_iff]
  | updateCaseFields =>
      simp only [ToolArgs.modelValidate, map_typeError_iff, IdArgumentTyped,
        UpdateCaseFieldsArgs.modelValidate]
      cases arguments.lookup "case_id" with
      | none => simp [bind, Except.bind]
      | some value =>
          simp only
          rw [bind_typeError_iff fun _ => forbidExtra_bind_ne_typeError _ _ _,
            parseUuidArgument_typeError_iff]
          simp

/-! ## When `execute` answers -/

variable {σ : Type} {checks : ValueChecks} {port : TenantToolPort σ}
  {runtime : TrustedToolRuntimeContext} {proposal : AgentProposal} {call : ToolCall}

/-- The profile of the context, when it has one, comes from the compiler. -/
def TrustedToolRuntimeContext.ProfileCompiled (runtime : TrustedToolRuntimeContext) : Prop :=
  ∀ compiled ∈ runtime.compiledProfile,
    ∃ config fingerprint, compileTenantProfile config fingerprint = .ok compiled

/-- `request_approval` never raises. -/
def TenantToolPort.GrantsRequests (port : TenantToolPort σ) : Prop :=
  ∀ tenantId action reason state, ∃ requested next,
    port.requestApproval tenantId action reason state = (.ok requested, next)

/-- A permitted call names an action of the registry, so an allowed call always
has its tool. -/
theorem requireAction_of_permitted (hprofile : runtime.ProfileCompiled)
    (h : Permitted checks runtime proposal call) :
    ∃ capability, requireAction call.name = some capability := by
  rw [← Option.isSome_iff_exists, requireAction_isSome_iff]
  have hregistered := h.registered
  unfold TrustedToolRuntimeContext.registeredActions at hregistered
  cases hcompiled : runtime.compiledProfile with
  | none => rwa [hcompiled] at hregistered
  | some compiled =>
      rw [hcompiled] at hregistered
      obtain ⟨config, fingerprint, hok⟩ := hprofile compiled hcompiled
      exact registered_mem_registryKeys hok hregistered

theorem execute_of_not_cancelled (hcancelled : ∀ n, runtime.cancelled n = false) :
    execute checks port runtime proposal call = executeDecided checks port runtime proposal call
      (evaluate (policyInput checks runtime proposal call)) := by
  unfold execute checkCancelled
  rw [if_neg (by simp [hcancelled]), Session.pure_bind]

theorem execute_of_not_permitted (port : TenantToolPort σ)
    (hcancelled : ∀ n, runtime.cancelled n = false)
    (h : ¬ Permitted checks runtime proposal call) (world : World σ) :
    ∃ result, execute checks port runtime proposal call world = (.ok result, world) := by
  rw [execute_of_not_cancelled hcancelled]
  rcases evaluate_decision checks runtime proposal call with
    ⟨hdecision, -⟩ | ⟨-, hpermitted, -⟩ | ⟨-, hpermitted, -⟩
  · unfold executeDecided
    rw [hdecision]
    exact ⟨_, rfl⟩
  · exact absurd hpermitted h
  · exact absurd hpermitted h

theorem execute_of_permitted (port : TenantToolPort σ)
    (hcancelled : ∀ n, runtime.cancelled n = false)
    (h : Permitted checks runtime proposal call) {capability : ActionCapability}
    (hcapability : requireAction call.name = some capability) :
    execute checks port runtime proposal call =
      executeRegistered checks port runtime proposal call
        (evaluate (policyInput checks runtime proposal call)) capability := by
  have hdecision : (evaluate (policyInput checks runtime proposal call)).decision ≠ .deny := by
    rcases evaluate_decision checks runtime proposal call with
      ⟨-, hnot⟩ | ⟨hdecision, -⟩ | ⟨hdecision, -⟩
    · exact absurd h hnot
    · simp [hdecision]
    · simp [hdecision]
  rw [execute_of_not_cancelled hcancelled, executeDecided_of_registered hcapability hdecision]

/-- The `TypeError` of `_parse_uuid` escapes. -/
theorem executeRegistered_of_not_typed {capability : ActionCapability}
    (h : ¬ IdArgumentTyped capability.key call.arguments) (policy : PolicyOutcome)
    (world : World σ) :
    executeRegistered checks port runtime proposal call policy capability world =
      (.error .argumentType, world) := by
  unfold executeRegistered
  rw [modelValidate_typeError_iff.2 h]
  rfl

theorem requestApprovalBranch_ok (hcancelled : ∀ n, runtime.cancelled n = false)
    (hrequest : port.GrantsRequests) (policy : PolicyOutcome) (capability : ActionCapability)
    (arguments : ToolArgs) (world : World σ) :
    ∃ result, (requestApprovalBranch checks port runtime proposal policy capability arguments
      world).1 = .ok result := by
  unfold requestApprovalBranch checkCancelled
  rw [if_neg (by simp [hcancelled]), Session.pure_bind, Session.bind_run]
  obtain ⟨requested, next, hok⟩ := hrequest runtime.tenantId
    (pendingAction checks runtime proposal capability arguments) policy.reason world.state
  simp only [callPort, hok]
  exact ⟨_, rfl⟩

theorem handlerBranch_ok (policy : PolicyOutcome) (capability : ActionCapability)
    (arguments : ToolArgs) (world : World σ) :
    ∃ result, (handlerBranch checks port runtime proposal policy capability arguments
      world).1 = .ok result := by
  unfold handlerBranch
  split
  · exact ⟨_, rfl⟩
  · split <;> exact ⟨_, rfl⟩

/-- What is expected of every call: a result, and for arguments that do not fit
the closed model of a permitted action the outcome `tool_arguments_invalid`
with nothing invoked. -/
def Answers (checks : ValueChecks) (port : TenantToolPort σ) (runtime : TrustedToolRuntimeContext)
    (proposal : AgentProposal) (call : ToolCall) (world : World σ) : Prop :=
  ∃ result, (execute checks port runtime proposal call world).1 = .ok result ∧
    (¬ ArgumentsValid call →
      (execute checks port runtime proposal call world).2.log = world.log ∧
      (Permitted checks runtime proposal call →
        result.data = .obj [("outcome", .str "tool_arguments_invalid")]))

theorem executeRegistered_answers (checks : ValueChecks) (proposal : AgentProposal)
    (hcancelled : ∀ n, runtime.cancelled n = false)
    (hrequest : port.GrantsRequests) {capability : ActionCapability}
    (hcapability : requireAction call.name = some capability)
    (htyped : IdArgumentTyped capability.key call.arguments) (policy : PolicyOutcome)
    (world : World σ) :
    ∃ result, (executeRegistered checks port runtime proposal call policy capability
        world).1 = .ok result ∧
      (¬ ArgumentsValid call → result.data =
        .obj [("outcome", .str "tool_arguments_invalid")]) := by
  unfold executeRegistered
  cases harguments : ToolArgs.modelValidate capability.key call.arguments with
  | error error =>
      cases error with
      | validation => exact ⟨_, rfl, fun _ => rfl⟩
      | typeError => exact absurd htyped (modelValidate_typeError_iff.1 harguments)
  | ok arguments =>
      have hvalid : ArgumentsValid call := ⟨capability, arguments, hcapability, harguments⟩
      simp only
      split
      · obtain ⟨result, hok⟩ := requestApprovalBranch_ok hcancelled hrequest policy capability
          arguments world
        exact ⟨result, hok, fun hnot => absurd hvalid hnot⟩
      · obtain ⟨result, hok⟩ := handlerBranch_ok policy capability arguments world
        exact ⟨result, hok, fun hnot => absurd hvalid hnot⟩

/-- The assertion is unreachable, and a call is answered exactly when it is not
permitted or its UUID argument has the type of one. -/
theorem execute_answers_iff (checks : ValueChecks) (port : TenantToolPort σ)
    (runtime : TrustedToolRuntimeContext) (proposal : AgentProposal) (call : ToolCall)
    (world : World σ) (hprofile : runtime.ProfileCompiled)
    (hcancelled : ∀ n, runtime.cancelled n = false) (hrequest : port.GrantsRequests) :
    (execute checks port runtime proposal call world).1 ≠ .error .assertion ∧
      (Answers checks port runtime proposal call world ↔
        (Permitted checks runtime proposal call →
          ∀ capability, requireAction call.name = some capability →
            IdArgumentTyped capability.key call.arguments)) := by
  by_cases hpermitted : Permitted checks runtime proposal call
  · obtain ⟨capability, hcapability⟩ := requireAction_of_permitted hprofile hpermitted
    have hexecute := execute_of_permitted port hcancelled hpermitted hcapability
    by_cases htyped : IdArgumentTyped capability.key call.arguments
    · obtain ⟨result, hok, hdata⟩ := executeRegistered_answers checks proposal hcancelled
        hrequest hcapability htyped (evaluate (policyInput checks runtime proposal call)) world
      rw [← hexecute] at hok
      have hquiet : ¬ ArgumentsValid call →
          (execute checks port runtime proposal call world).2.log = world.log := by
        intro hvalid
        rw [(execute_quiet port (fun h => hvalid h.2) world).1]
      refine ⟨by simp [hok], fun _ _ other hother => ?_, fun _ => ⟨result, hok, fun hvalid =>
        ⟨hquiet hvalid, fun _ => hdata hvalid⟩⟩⟩
      rw [hcapability] at hother
      cases hother
      exact htyped
    · have herror : (execute checks port runtime proposal call world).1 = .error .argumentType := by
        rw [hexecute, executeRegistered_of_not_typed htyped]
      refine ⟨by simp [herror], ?_, fun h => absurd (h hpermitted capability hcapability) htyped⟩
      rintro ⟨result, hok, -⟩
      rw [herror] at hok
      cases hok
  · obtain ⟨result, hok⟩ := execute_of_not_permitted port hcancelled hpermitted world
    refine ⟨by simp [hok], fun _ hnot => absurd hnot hpermitted, fun _ => ?_⟩
    exact ⟨result, by rw [hok], fun _ => ⟨by rw [hok], fun hnot => absurd hnot hpermitted⟩⟩

/-! ## A call that raises -/

/-- A profile with one intake type and one executable action. -/
theorem question_safe : isSafeIdentifier "question" = true := by decide

theorem message_nonempty : "message" ≠ "" := by decide

/-- A profile that lets a reply be drafted. -/
def replyProfile : TenantConfig where
  slug := "acme"
  scenarioKey := "general"
  displayName := "Acme"
  intakeTypes :=
    [⟨"question", "Questions", [], question_safe, by decide, by decide, List.nodup_nil⟩]
  fields := [("message", ⟨.longText, "Message", none, by decide, by decide⟩)]
  actionPolicy := [("create_reply_draft", ⟨true, false, .executable⟩),
    ("send_reply", ⟨false, true, .policyOnly⟩)]
  documents := []
  routing := ⟨RoutingStatus.all, ["send_reply"], .refl _, by decide, by decide, by decide⟩
  slug_valid := by decide
  scenarioKey_safe := by decide
  displayName_nonempty := by decide
  intakeTypes_nonempty := by simp
  fields_nonempty := by simp
  actionPolicy_nonempty := by simp
  fields_nodup := by decide
  actionPolicy_nodup := by decide
  documents_nodup := List.nodup_nil
  fields_safe := by decide
  actions_safe := by decide
  documents_safe := by decide
  intakeNames_nodup := by decide
  required_known := by simp
  always_known := by decide
  documents_known := by simp
  one_default := by decide

def replyFingerprint : String :=
  "0123456789abcdef0123456789abcdef0123456789abcdef0123456789abcdef"

/-- A run under this profile. -/
def replyRuntime : TrustedToolRuntimeContext where
  tenantId := 1
  tenantConfig := replyProfile
  compiledProfile := (compileTenantProfile replyProfile replyFingerprint).toOption
  source := some ⟨"email", "Hello", "When do you open?", none, none⟩
  safetyOrLegalRisk := false
  jobId := some 2
  cancelled := fun _ => false

/-- The model names the case by a number instead of a string. -/
def replyToolCall : ProposalToolCall where
  name := "create_reply_draft"
  arguments := [⟨"case_id", .scalar (.int 7), none, none, by decide, excerpt_valid_none⟩]
  name_nonempty := by decide
  arguments_nodup := List.nodup_singleton _

def replyProposal : AgentProposal where
  intakeType := some "question"
  fields := []
  missingRequiredFields := []
  priority := .normal
  containsInjectionOrOverrideAttempt := false
  rationaleShort := "Answer the question."
  toolCalls := [replyToolCall]
  confidence := 1
  intakeType_nonempty := by simp
  fields_nodup := fields_nodup_nil
  missing_nonempty := missing_nonempty_nil
  missing_nodup := List.nodup_nil
  rationale_nonempty := by decide
  rationale_bounded := by decide
  toolCalls_bounded := by simp
  confidence_bounded := confidence_bounded_one

/-- A port that finds nothing and grants everything. -/
def grantingPort : TenantToolPort Unit where
  findCustomer _ _ _ := pure none
  createCase _ _ _ _ := pure ⟨uuidString 3, "new", []⟩
  updateCaseFields _ _ _ := pure none
  caseExists _ _ := pure true
  requestApproval _ _ _ := pure ⟨4, 0⟩
  createReplyDraft _ _ _ _ _ := pure ⟨.replyDraft, 5⟩
  flagForReview _ _ _ := pure ⟨.reviewFlag, 6⟩

theorem grantingPort_grants : grantingPort.GrantsRequests :=
  fun _ _ _ state => ⟨⟨4, 0⟩, state, rfl⟩

/-- Checks that take every value. -/
def noChecks : ValueChecks := ⟨fun _ => true, fun _ => true⟩

theorem replyRuntime_profileCompiled : replyRuntime.ProfileCompiled := by
  intro compiled hcompiled
  have hoption : (compileTenantProfile replyProfile replyFingerprint).toOption = some compiled :=
    hcompiled
  cases hcompile : compileTenantProfile replyProfile replyFingerprint with
  | error error =>
      rw [hcompile] at hoption
      cases hoption
  | ok profile =>
      rw [hcompile] at hoption
      cases hoption
      exact ⟨replyProfile, replyFingerprint, hcompile⟩

theorem replyCall_permitted :
    Permitted noChecks replyRuntime replyProposal replyToolCall.asToolCall where
  readable := by simp [replyRuntime]
  intake_known := ⟨_, List.mem_singleton_self _, rfl⟩
  supported := by simp [replyProposal]
  complete := by
    intro capability hcapability hcomplete
    cases hcapability
    cases hcomplete
  rule_executable := ⟨⟨true, false, .executable⟩, rfl, rfl, rfl⟩
  registered := by decide +kernel

/-- The reply call raises `TypeError` instead of answering that its arguments
are invalid. -/
theorem execute_raises_on_number_as_case_id :
    replyProposal.toolCall = some replyToolCall.asToolCall ∧ replyRuntime.ProfileCompiled ∧
      (∀ n, replyRuntime.cancelled n = false) ∧ grantingPort.GrantsRequests ∧
      ¬ ArgumentsValid replyToolCall.asToolCall ∧
      (execute noChecks grantingPort replyRuntime replyProposal replyToolCall.asToolCall
        ⟨(), []⟩).1 = .error .argumentType ∧
      ¬ Answers noChecks grantingPort replyRuntime replyProposal replyToolCall.asToolCall
        ⟨(), []⟩ := by
  have herror : (execute noChecks grantingPort replyRuntime replyProposal replyToolCall.asToolCall
      ⟨(), []⟩).1 = .error .argumentType := by
    rw [execute_of_permitted grantingPort (fun _ => rfl) replyCall_permitted rfl]
    rfl
  refine ⟨rfl, replyRuntime_profileCompiled, fun _ => rfl, grantingPort_grants, ?_, herror, ?_⟩
  · rintro ⟨capability, arguments, hcapability, harguments⟩
    cases hcapability
    cases harguments
  · rintro ⟨result, hok, -⟩
    rw [herror] at hok
    cases hok

theorem execute_answers_iff_reply :
    (execute noChecks grantingPort replyRuntime replyProposal ⟨"create_reply_draft", []⟩
        ⟨(), []⟩).1 ≠ .error .assertion ∧
      Answers noChecks grantingPort replyRuntime replyProposal ⟨"create_reply_draft", []⟩
        ⟨(), []⟩ := by
  obtain ⟨hassertion, hiff⟩ := execute_answers_iff noChecks grantingPort replyRuntime replyProposal
    ⟨"create_reply_draft", []⟩ ⟨(), []⟩ replyRuntime_profileCompiled (fun _ => rfl)
    grantingPort_grants
  refine ⟨hassertion, hiff.2 fun _ capability hcapability => ?_⟩
  cases hcapability
  simp [IdArgumentTyped]

end IntegraIntake
