import Mathlib.Data.List.Perm.Basic
import IntegraIntake.Library.Jsonb
import IntegraIntake.Tenants.Compiled
import IntegraIntake.Tenants.Snapshot

/-!
# What a profile compiles to

A profile compiles exactly if its executable actions and its document normalizers
are in the registries of the server, and what it compiles to is then a function
of its entries.  So equal profiles, whose dictionaries may be in different
orders, compile to equal capabilities.
-/

namespace IntegraIntake

open Library

/-! ## Actions and documents -/

/-- An action that the model can be offered. -/
def ActionRule.available (rule : ActionRule) : Bool :=
  rule.execution == .executable && rule.allowed

theorem availableActions_eq_ok {policy : List (String × ActionRule)} {available : List String} :
    availableActions policy = .ok available ↔
      (∀ entry ∈ policy, entry.2.execution = .executable → entry.1 ∈ registryKeys) ∧
        available = dictKeys (policy.filter fun entry => entry.2.available) := by
  induction policy generalizing available with
  | nil => simp [availableActions, dictKeys, eq_comm]
  | cons entry rest ih =>
      obtain ⟨action, rule⟩ := entry
      rw [availableActions, List.forall_mem_cons]
      cases hexecution : rule.execution with
      | policyOnly =>
          have havailable : rule.available = false := by
            simp [ActionRule.available, hexecution]
          simp only [ih, List.filter_cons, havailable, Bool.false_eq_true, if_false, reduceCtorEq,
            false_implies, true_and]
      | executable =>
          have havailable : rule.available = rule.allowed := by
            simp [ActionRule.available, hexecution]
          cases hcapability : requireAction action with
          | none =>
              have hunknown : action ∉ registryKeys := fun hknown => by
                have hsome := requireAction_isSome_iff.2 hknown
                rw [hcapability] at hsome
                cases hsome
              simp [hunknown]
          | some capability =>
              have hknown : action ∈ registryKeys :=
                requireAction_isSome_iff.1 (hcapability ▸ rfl)
              have hname := requireAction_name hcapability
              cases hrest : availableActions rest with
              | error error =>
                  have hnot : ¬ ∀ entry ∈ rest, entry.2.execution = .executable →
                      entry.1 ∈ registryKeys := fun hall => by
                    have hok := ih.2 ⟨hall, rfl⟩
                    rw [hrest] at hok
                    cases hok
                  simp only [bind, Except.bind, reduceCtorEq, false_iff]
                  rintro ⟨⟨-, hall⟩, -⟩
                  exact hnot hall
              | ok others =>
                  obtain ⟨hall, rfl⟩ := ih.1 hrest
                  have hvalue : (if rule.allowed = true then
                      capability.key.name :: dictKeys (rest.filter fun entry => entry.2.available)
                      else dictKeys (rest.filter fun entry => entry.2.available)) =
                      dictKeys
                      (((action, rule) :: rest).filter fun entry => entry.2.available) := by
                    rw [List.filter_cons, hname]
                    simp only [havailable]
                    cases rule.allowed <;> rfl
                  simp only [bind, Except.bind, Except.ok.injEq, hvalue]
                  exact ⟨fun h => ⟨⟨fun _ => hknown, hall⟩, h.symm⟩, fun h => h.2.symm⟩

/-- The entry of `compiled_documents` for one binding. -/
def compiledDocument (entry : String × DocumentBindingConfig) :
    Option (String × CompiledDocumentBinding) :=
  (requireNormalizer entry.2.normalizer entry.2.normalizerVersion).map fun capability =>
    (entry.1, ⟨entry.1, entry.2.intakeType, entry.2.normalizer, entry.2.normalizerVersion,
      capability⟩)

theorem compileDocuments_eq_ok {documents : List (String × DocumentBindingConfig)}
    {compiled : List (String × CompiledDocumentBinding)} :
    compileDocuments documents = .ok compiled ↔
      (∀ entry ∈ documents,
        (requireNormalizer entry.2.normalizer entry.2.normalizerVersion).isSome) ∧
        compiled = documents.filterMap compiledDocument := by
  induction documents generalizing compiled with
  | nil =>
      rw [compileDocuments, List.filterMap_nil, Except.ok.injEq]
      exact ⟨fun h => ⟨nofun, h.symm⟩, fun h => h.2.symm⟩
  | cons entry rest ih =>
      obtain ⟨kind, binding⟩ := entry
      rw [compileDocuments, List.forall_mem_cons]
      cases hcapability : requireNormalizer binding.normalizer binding.normalizerVersion with
      | none => simp
      | some capability =>
          have hentry : compiledDocument (kind, binding) = some (kind, ⟨kind, binding.intakeType,
              binding.normalizer, binding.normalizerVersion, capability⟩) := by
            simp [compiledDocument, hcapability]
          cases hrest : compileDocuments rest with
          | error error =>
              have hnot : ¬ ∀ entry ∈ rest,
                  (requireNormalizer entry.2.normalizer entry.2.normalizerVersion).isSome :=
                fun hall => by
                  have hok := ih.2 ⟨hall, rfl⟩
                  rw [hrest] at hok
                  cases hok
              simp only [bind, Except.bind, reduceCtorEq, hnot, and_false, false_and]
          | ok others =>
              obtain ⟨hall, rfl⟩ := ih.1 hrest
              simp only [bind, Except.bind, Option.isSome_some, true_and, List.filterMap_cons,
                hentry, Except.ok.injEq]
              exact ⟨fun h => ⟨hall, h.symm⟩, fun h => h.2.symm⟩

/-- The keys of compiled documents are those of the bindings. -/
theorem dictKeys_compiledDocument (documents : List (String × DocumentBindingConfig)) :
    (dictKeys (documents.filterMap compiledDocument)).Sublist (dictKeys documents) := by
  induction documents with
  | nil => exact .slnil
  | cons entry rest ih =>
      rw [List.filterMap_cons]
      cases hentry : compiledDocument entry with
      | none => exact ih.cons _
      | some compiled =>
          have hkey : compiled.1 = entry.1 := by
            obtain ⟨capability, -, rfl⟩ := Option.map_eq_some_iff.1 hentry
            rfl
          rw [dictKeys, dictKeys, List.map_cons, List.map_cons, hkey]
          exact ih.cons_cons _

/-! ## Profiles -/

/-- Every capability that a profile declares is there. -/
structure TenantConfig.Compilable (config : TenantConfig) : Prop where
  actions : ∀ entry ∈ config.actionPolicy, entry.2.execution = .executable →
    entry.1 ∈ registryKeys
  documents : ∀ entry ∈ config.documents,
    (requireNormalizer entry.2.normalizer entry.2.normalizerVersion).isSome

/-- What a profile compiles to. -/
def TenantConfig.compiled (config : TenantConfig) (profileFingerprint : String) :
    CompiledTenantProfile where
  config := config
  profileFingerprint := profileFingerprint
  declaredActions := dictKeys config.actionPolicy
  registeredActions := dictKeys (config.actionPolicy.filter fun entry =>
    entry.2.execution == .executable && registryKeys.contains entry.1)
  availableActions := dictKeys (config.actionPolicy.filter fun entry => entry.2.available)
  documents := config.documents.filterMap compiledDocument
  defaultInboundDocument :=
    (config.documents.filter fun entry => entry.2.defaultForInbound).head?.bind fun entry =>
      (config.documents.filterMap compiledDocument).lookup entry.1

theorem compileTenantProfile_eq_ok {config : TenantConfig} {fingerprint : String}
    {compiled : CompiledTenantProfile} :
    compileTenantProfile config fingerprint = .ok compiled ↔
      isSha256 fingerprint = true ∧ config.Compilable ∧ compiled = config.compiled fingerprint := by
  unfold compileTenantProfile
  constructor
  · intro h
    split at h
    · cases h
    rename_i hfingerprint
    cases havailable : availableActions config.actionPolicy with
    | error error =>
        rw [havailable] at h
        cases h
    | ok available =>
        cases hdocuments : compileDocuments config.documents with
        | error error =>
            rw [havailable, hdocuments] at h
            cases h
        | ok documents =>
            rw [havailable, hdocuments] at h
            cases h
            obtain ⟨hactions, rfl⟩ := availableActions_eq_ok.1 havailable
            obtain ⟨hnormalizers, rfl⟩ := compileDocuments_eq_ok.1 hdocuments
            exact ⟨by simpa using hfingerprint, ⟨hactions, hnormalizers⟩, rfl⟩
  · rintro ⟨hfingerprint, hcompilable, rfl⟩
    rw [if_neg (by simp [hfingerprint]), availableActions_eq_ok.2 ⟨hcompilable.actions, rfl⟩,
      compileDocuments_eq_ok.2 ⟨hcompilable.documents, rfl⟩]
    rfl

/-- `==` of what two profiles compile to. -/
structure CompiledTenantProfile.Same (left right : CompiledTenantProfile) : Prop where
  config : left.config.Same right.config
  profileFingerprint : left.profileFingerprint = right.profileFingerprint
  declaredActions : left.declaredActions.Perm right.declaredActions
  registeredActions : left.registeredActions.Perm right.registeredActions
  availableActions : left.availableActions.Perm right.availableActions
  documents : left.documents.Perm right.documents
  defaultInboundDocument : left.defaultInboundDocument = right.defaultInboundDocument

/-- Lists with at most one item that are permutations of each other are equal. -/
theorem eq_of_perm_of_length_le_one {α : Type} {left right : List α} (h : left.Perm right)
    (hlength : right.length ≤ 1) : left = right := by
  match right, hlength with
  | [], _ => exact h.eq_nil
  | [item], _ => exact List.perm_singleton.1 h

variable {left right : TenantConfig}

theorem TenantConfig.Same.compilable (h : left.Same right) (hright : right.Compilable) :
    left.Compilable :=
  ⟨fun entry hentry => hright.actions entry (h.actionPolicy.mem_iff.1 hentry),
    fun entry hentry => hright.documents entry (h.documents.mem_iff.1 hentry)⟩

theorem TenantConfig.Same.compiled (h : left.Same right) (fingerprint : String) :
    (left.compiled fingerprint).Same (right.compiled fingerprint) := by
  have hdocuments : (left.documents.filterMap compiledDocument).Perm
      (right.documents.filterMap compiledDocument) := h.documents.filterMap _
  have hdefaults : left.documents.filter (fun entry => entry.2.defaultForInbound) =
      right.documents.filter fun entry => entry.2.defaultForInbound :=
    eq_of_perm_of_length_le_one (h.documents.filter _) right.one_default
  refine ⟨h, rfl, dictKeys_perm h.actionPolicy, dictKeys_perm (h.actionPolicy.filter _),
    dictKeys_perm (h.actionPolicy.filter _), hdocuments, ?_⟩
  show (left.documents.filter _).head?.bind _ = (right.documents.filter _).head?.bind _
  rw [hdefaults]
  refine congrArg _ (funext fun entry => lookup_of_perm hdocuments ?_)
  exact right.documents_nodup.sublist (dictKeys_compiledDocument right.documents)

/-- Equal profiles compile to equal capabilities. -/
theorem compileTenantProfile_same (h : left.Same right) {fingerprint : String}
    {compiled : CompiledTenantProfile}
    (hright : compileTenantProfile right fingerprint = .ok compiled) :
    ∃ back, compileTenantProfile left fingerprint = .ok back ∧ back.config = left ∧
      back.Same compiled := by
  obtain ⟨hfingerprint, hcompilable, rfl⟩ := compileTenantProfile_eq_ok.1 hright
  exact ⟨left.compiled fingerprint,
    compileTenantProfile_eq_ok.2 ⟨hfingerprint, h.compilable hcompilable, rfl⟩, rfl,
    h.compiled fingerprint⟩

end IntegraIntake
