import IntegraIntake.Documents.Models
import IntegraIntake.Tools.Models

/-!
# Compiling a profile

`app/tenants/compiled.py` and the registry of document normalizers: a profile
is resolved once against the server's capabilities, and the runtime works with
the result.
-/

namespace IntegraIntake

/-- `DocumentNormalizerCapability`. -/
structure DocumentNormalizerCapability where
  key : String
  version : ℕ
  supportedMediaTypes : List DocumentMediaType

/-- `BUILTIN_DOCUMENT_REGISTRY`. -/
def builtinDocumentRegistry : List DocumentNormalizerCapability :=
  [⟨"bounded_text_pdf", 1, [.text, .pdf]⟩]

/-- `DocumentNormalizerRegistry.require`; `none` stands for
`DocumentCapabilityUnavailable`. -/
def requireNormalizer (key : String) (version : ℕ) : Option DocumentNormalizerCapability :=
  builtinDocumentRegistry.find? fun capability =>
    capability.key == key && capability.version == version

/-- `CompiledDocumentBinding`. -/
structure CompiledDocumentBinding where
  documentKind : String
  targetIntakeType : String
  normalizerKey : String
  normalizerVersion : ℕ
  capability : DocumentNormalizerCapability

/-- `CompiledTenantProfile`. -/
structure CompiledTenantProfile where
  config : TenantConfig
  profileFingerprint : String
  declaredActions : List String
  registeredActions : List String
  availableActions : List String
  documents : List (String × CompiledDocumentBinding)
  defaultInboundDocument : Option CompiledDocumentBinding

/-- What `compile_tenant_profile` raises. -/
inductive CompileError where
  | fingerprintInvalid
  | actionCapabilityUnavailable
  | documentCapabilityUnavailable
  deriving DecidableEq, Repr

/-- The loop over `config.action_policy` that fills `available_actions`. -/
def availableActions : List (String × ActionRule) → Except CompileError (List String)
  | [] => .ok []
  | (action, rule) :: rest =>
    match rule.execution with
    | .policyOnly => availableActions rest
    | .executable =>
      match requireAction action with
      | none => .error .actionCapabilityUnavailable
      | some capability => do
        let available ← availableActions rest
        .ok (if rule.allowed then capability.key.name :: available else available)

/-- The loop over `config.documents`. -/
def compileDocuments : List (String × DocumentBindingConfig) →
    Except CompileError (List (String × CompiledDocumentBinding))
  | [] => .ok []
  | (kind, binding) :: rest =>
    match requireNormalizer binding.normalizer binding.normalizerVersion with
    | none => .error .documentCapabilityUnavailable
    | some capability => do
      let compiled ← compileDocuments rest
      .ok ((kind, ⟨kind, binding.intakeType, binding.normalizer, binding.normalizerVersion,
        capability⟩) :: compiled)

/-- `compile_tenant_profile` against the builtin registries. -/
def compileTenantProfile (config : TenantConfig) (profileFingerprint : String) :
    Except CompileError CompiledTenantProfile :=
  if isSha256 profileFingerprint = false then .error .fingerprintInvalid
  else do
    let available ← availableActions config.actionPolicy
    let documents ← compileDocuments config.documents
    .ok {
      config := config
      profileFingerprint := profileFingerprint
      declaredActions := dictKeys config.actionPolicy
      registeredActions := dictKeys (config.actionPolicy.filter fun entry =>
        entry.2.execution == .executable && registryKeys.contains entry.1)
      availableActions := available
      documents := documents
      defaultInboundDocument :=
        ((config.documents.filter fun entry => entry.2.defaultForInbound).head?.bind
          fun entry => documents.lookup entry.1) }

/-! ## What compilation guarantees -/

theorem compileTenantProfile_ok {config : TenantConfig} {fingerprint : String}
    {compiled : CompiledTenantProfile}
    (h : compileTenantProfile config fingerprint = .ok compiled) :
    compiled.config = config ∧
      compiled.registeredActions = dictKeys (config.actionPolicy.filter fun entry =>
        entry.2.execution == .executable && registryKeys.contains entry.1) ∧
      availableActions config.actionPolicy = .ok compiled.availableActions := by
  unfold compileTenantProfile at h
  split at h
  · cases h
  · cases havailable : availableActions config.actionPolicy with
    | error error =>
        rw [havailable] at h
        cases h
    | ok available =>
        cases hdocuments : compileDocuments config.documents with
        | error error =>
            rw [havailable, hdocuments] at h
            cases h
        | ok documents =>
            rw [havailable, hdocuments] at h
            cases h
            exact ⟨rfl, rfl, rfl⟩

/-- A registered action of a compiled profile is one of the builtin registry. -/
theorem registered_mem_registryKeys {config : TenantConfig} {fingerprint : String}
    {compiled : CompiledTenantProfile}
    (h : compileTenantProfile config fingerprint = .ok compiled) {action : String}
    (haction : action ∈ compiled.registeredActions) : action ∈ registryKeys := by
  rw [(compileTenantProfile_ok h).2.1, dictKeys, List.mem_map] at haction
  obtain ⟨entry, hentry, rfl⟩ := haction
  have hkeys := (List.mem_filter.1 hentry).2
  simp only [Bool.and_eq_true, List.contains_eq_mem, decide_eq_true_eq] at hkeys
  exact hkeys.2

/-- `requireAction` succeeds exactly on the registry's keys. -/
theorem requireAction_isSome_iff {name : String} :
    (requireAction name).isSome ↔ name ∈ registryKeys := by
  simp only [requireAction, registryKeys, List.find?_isSome, List.mem_map, beq_iff_eq]

theorem requireAction_name {name : String} {capability : ActionCapability}
    (h : requireAction name = some capability) : capability.key.name = name := by
  simpa using List.find?_some h

end IntegraIntake
