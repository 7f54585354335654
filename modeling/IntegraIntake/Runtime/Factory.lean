import IntegraIntake.Documents.Snapshot
import IntegraIntake.Runtime.LegacyProfiles
import IntegraIntake.Runtime.Preflight

/-!
# From enqueue to the runtime

`AgentRuntimeFactory.build` of `app/runtime/factory.py` takes a job apart again: the
source, the profile with its hash, and the risk signals.  What `create_job` has
written comes back whole, whatever order its columns give the members, so the
factory never finds a snapshot incompatible or a capability missing; and it turns
the job away exactly if its document could not be read.
-/

namespace IntegraIntake

open Library

/-! ## The factory -/

/-- What `build` returns: the trusted context that the loop, the port and the
provider are made for, or a terminal result. -/
inductive BuiltRuntime where
  | ready (runtime : TrustedToolRuntimeContext)
  | terminal (result : TerminalPreflightResult)

/-- `_capability_terminal`. -/
def capabilityTerminal (source : Option TrustedSource) (reason : PreflightReason) :
    TerminalPreflightResult :=
  let document := source.bind (·.document)
  ⟨.rejected, reason, document.map (·.targetIntakeType), [], document.map (·.documentKind),
    document.bind (·.extractionError)⟩

/-- `_risk_from_snapshot`; `none` stands for its `RuntimeError`. -/
def riskFromSnapshot : Json → Option RiskSignals
  | .obj members =>
    match (members.lookup "safety_or_legal_risk").getD (.bool false) with
    | .bool signal => some ⟨signal⟩
    | _ => none
  | _ => none

/-- The part of `build` after the snapshots of the source and the profile are read. -/
def buildResolved (job : AgentJob) (source : TrustedSource) (resolved : ConfiguredTenantProfile)
    (cancelled : ℕ → Bool) : BuiltRuntime :=
  let config := (resolved.compiled.map (·.config)).getD resolved.config
  match preflightDocument source config resolved.compiled with
  | .terminal result => .terminal result
  | .continue_ =>
    match riskFromSnapshot job.riskSignals with
    | none => .terminal (capabilityTerminal (some source) .snapshotIncompatible)
    | some risk => .ready {
        tenantId := job.tenantId
        tenantConfig := config
        compiledProfile := resolved.compiled
        source := some source
        safetyOrLegalRisk := risk.safetyOrLegalRisk
        jobId := some job.id
        cancelled := cancelled }

/-- `AgentRuntimeFactory.build`. -/
def buildRuntime (sha256 : ByteArray → String) (floatText : PyFloat → List Char) (job : AgentJob)
    (cancelled : ℕ → Bool) : BuiltRuntime :=
  match job.tenantConfigSnapshot with
  | .obj _ =>
    match trustedSourceFromSnapshot decodeDocumentSnapshot job.sourceSnapshot with
    | none => .terminal (capabilityTerminal none .snapshotIncompatible)
    | some source =>
      match resolvePersistedProfile sha256 floatText job.tenantConfigSnapshot
        job.tenantConfigSha256 none with
      -- a capability that the server has lost, and not a snapshot that is wrong
      | .error (.compile .actionCapabilityUnavailable) =>
        .terminal (capabilityTerminal (some source) .capabilityUnavailable)
      | .error (.compile .documentCapabilityUnavailable) =>
        .terminal (capabilityTerminal (some source) .capabilityUnavailable)
      | .error _ => .terminal (capabilityTerminal (some source) .snapshotIncompatible)
      | .ok resolved => buildResolved job source resolved cancelled
  | _ => .terminal (capabilityTerminal none .snapshotIncompatible)

/-! ## Documents for a binding -/

/-- A document that is normalized for a binding, read or not. -/
structure NormalizedDocument.ProducedFor (document : NormalizedDocument)
    (binding : CompiledDocumentBinding) : Prop where
  documentKind : document.documentKind = binding.documentKind
  targetIntakeType : document.targetIntakeType = binding.targetIntakeType
  normalizerKey : document.normalizerKey = binding.normalizerKey
  normalizerVersion : document.normalizerVersion = binding.normalizerVersion
  mediaType : document.mediaType ∈ binding.capability.supportedMediaTypes

/-- The document of a source, if it has one, is produced for the default binding of
the profile. -/
def TrustedSource.ProducedFor (source : TrustedSource) (compiled : CompiledTenantProfile) : Prop :=
  ∀ document ∈ source.document, ∃ binding, compiled.defaultInboundDocument = some binding ∧
    document.ProducedFor binding

/-- The default binding is the entry of its kind, for an intake type of the profile. -/
theorem defaultInboundDocument_entry {config : TenantConfig} {fingerprint : String}
    {binding : CompiledDocumentBinding}
    (h : (config.compiled fingerprint).defaultInboundDocument = some binding) :
    (config.compiled fingerprint).documents.lookup binding.documentKind = some binding ∧
      binding.targetIntakeType ∈ config.intakeTypes.map IntakeTypeConfig.name := by
  obtain ⟨entry, hentry, hlookup⟩ := Option.bind_eq_some_iff.1 h
  have hmem := mem_of_lookup_eq_some hlookup
  obtain ⟨declared, hdeclared, hcompiled⟩ := List.mem_filterMap.1 hmem
  obtain ⟨capability, -, heq⟩ := Option.map_eq_some_iff.1 hcompiled
  obtain ⟨hkey, rfl⟩ := Prod.mk.inj heq
  rw [← hkey] at hlookup
  exact ⟨hlookup, config.documents_known declared hdeclared⟩

/-- A document for the default binding passes the preflight exactly if it was read. -/
theorem preflightDocument_of_produced {source : TrustedSource} {config back : TenantConfig}
    {compiled compiledBack : CompiledTenantProfile} {fingerprint : String}
    (hcompiled : compiled = config.compiled fingerprint) (hback : back.Same config)
    (hsame : compiledBack.Same compiled) (hsource : source.ProducedFor compiled) :
    (preflightDocument source back (some compiledBack) = .continue_ ∧
      ∀ document ∈ source.document, document.extractionError = none) ∨
    ∃ result, preflightDocument source back (some compiledBack) = .terminal result ∧
      result.reason = .documentUnreadable ∧
      ∃ document ∈ source.document, document.extractionError.isSome := by
  unfold preflightDocument
  cases hdocument : source.document with
  | none => exact .inl ⟨rfl, nofun⟩
  | some document =>
      -- the binding is still there, so only the extraction can have failed
      obtain ⟨binding, hbinding, hproduced⟩ := hsource document hdocument
      rw [hcompiled] at hbinding
      obtain ⟨hlookup, htarget⟩ := defaultInboundDocument_entry hbinding
      have hnodup : ((config.compiled fingerprint).documents.map Prod.fst).Nodup :=
        config.documents_nodup.sublist (dictKeys_compiledDocument config.documents)
      have hdocuments : compiledBack.documents.Perm (config.compiled fingerprint).documents :=
        hcompiled ▸ hsame.documents
      have hlookup' : compiledBack.documents.lookup document.documentKind = some binding := by
        rw [lookup_of_perm hdocuments hnodup, hproduced.documentKind, hlookup]
      have hfits : bindingFits (some compiledBack) document = true := by
        simp [bindingFits, hlookup', CompiledDocumentBinding.fits, hproduced.targetIntakeType,
          hproduced.normalizerKey, hproduced.normalizerVersion, hproduced.mediaType]
      have hintake : back.findIntake document.targetIntakeType ≠ none := by
        rw [hproduced.targetIntakeType, TenantConfig.findIntake, hback.intakeTypes, Ne,
          List.find?_eq_none]
        obtain ⟨intake, hintake, hname⟩ := List.mem_map.1 htarget
        exact fun hnone => hnone intake hintake (by simp [hname])
      dsimp only
      rw [if_neg (by simp [hfits]), if_neg hintake]
      cases herror : document.extractionError with
      | none => exact .inl ⟨rfl, fun other hother => by cases hother; exact herror⟩
      | some error => exact .inr ⟨_, rfl, rfl, document, rfl, by rw [herror]; rfl⟩

/-! ## The round trip -/

/-- A job as it comes back from its JSONB columns. -/
def AgentJob.reloaded (order : MemberOrder) (job : AgentJob) : AgentJob :=
  { job with
    sourceSnapshot := Json.stored order job.sourceSnapshot
    tenantConfigSnapshot := Json.stored order job.tenantConfigSnapshot
    riskSignals := Json.stored order job.riskSignals }

section RoundTrip

variable {sha256 : ByteArray → String} {floatText : PyFloat → List Char} {config : TenantConfig}
  {profile : ConfiguredTenantProfile}

/-- The canonical text of what comes back is that of what was written. -/
theorem canonicalJsonBytes_back (floatText : PyFloat → List Char) (order : MemberOrder)
    (config : TenantConfig) :
    canonicalJsonBytes floatText (Json.backMembers order config.modelDump) =
      canonicalJsonBytes floatText config.modelDump := by
  unfold canonicalJsonBytes
  rw [← Json.stored_obj_eq, Json.dumps_stored _ order config.modelDump_keysNodup]

/-- A stored mapping of version 2 is validated as it is. -/
theorem configOfSnapshot_back (order : MemberOrder) (config : TenantConfig) :
    ∃ back, configOfSnapshot (Json.backMembers order config.modelDump) = some back ∧
      back.Same config := by
  obtain ⟨back, hback, hsame⟩ := config.modelValidate_stored order
  refine ⟨back, ?_, hsame⟩
  have hnodup : (config.modelDump.map Prod.fst).Nodup := by simp [TenantConfig.modelDump]
  have hversion : ((Json.backMembers order config.modelDump).lookup "profile_version").any
      (·.pyEq (.int 2)) = true := by
    rw [Json.lookup_backMembers order hnodup]
    rfl
  unfold configOfSnapshot
  rw [if_pos hversion, ← Json.stored_obj_eq, hback]

/-- A profile that was resolved for an enqueue call is resolved again from what is
stored, for its tenant. -/
theorem resolvePersistedProfile_back (order : MemberOrder)
    (h : resolveTenantProfile sha256 floatText config = .ok profile) (tenantSlug : Option String)
    (hslug : ∀ slug ∈ tenantSlug, config.slug = slug) :
    ∃ back compiled compiledBack,
      resolvePersistedProfile sha256 floatText (Json.stored order (.obj profile.snapshot))
        profile.sha256 tenantSlug = .ok back ∧
      profile.compiled = some compiled ∧ back.compiled = some compiledBack ∧
      back.config.Same config ∧ compiledBack.Same compiled ∧ compiledBack.config = back.config := by
  obtain ⟨compiled, hcompiled, rfl⟩ := resolvedProfile_eq_ok.1 h
  obtain ⟨back, hconfig, hsame⟩ := configOfSnapshot_back order config
  obtain ⟨compiledBack, hback, hcompiledConfig, hcompiledSame⟩ :=
    compileTenantProfile_same hsame hcompiled
  obtain ⟨hfingerprint, -, -⟩ := compileTenantProfile_eq_ok.1 hcompiled
  -- the hash is that of the text, and the text is the one that was hashed
  rw [Json.stored_obj_eq]
  refine ⟨_, compiled, compiledBack, resolvePersistedProfile_eq_ok.2 ⟨⟨hfingerprint, ?_⟩, back,
    compiledBack, hconfig, fun slug hmem => ?_, hback, rfl⟩, rfl, rfl, hsame, hcompiledSame,
    hcompiledConfig⟩
  · rw [profileFingerprint, canonicalJsonBytes_back]
    rfl
  · rw [hsame.slug]
    exact hslug slug hmem

/-- What the enqueue service resolves with. -/
def intakeServices (sha256 : ByteArray → String) (floatText : PyFloat → List Char) :
    IntakeServices where
  sha256 := sha256
  resolvePersisted members expected slug :=
    (resolvePersistedProfile sha256 floatText (.obj members) expected (some slug)).toBool

/-- A resolved profile is one that the enqueue service can resolve again. -/
theorem resolvePersisted_of_resolved
    (h : resolveTenantProfile sha256 floatText config = .ok profile) :
    (intakeServices sha256 floatText).resolvePersisted profile.snapshot profile.sha256
      config.slug = true := by
  have hslug : ∀ slug ∈ some config.slug, config.slug = slug := by
    rintro slug ⟨⟩
    rfl
  obtain ⟨back, -, -, hback, -⟩ := resolvePersistedProfile_back .written h _ hslug
  rw [Json.stored_written] at hback
  show (resolvePersistedProfile _ _ _ _ _).toBool = true
  rw [hback]
  rfl

/-- So calls that are made with the profile of their tenant meet what is asked of
the runs of enqueue calls. -/
theorem enqueue_resolvable {slugOf : Uuid → String} {command : EnqueueIntakeCommand}
    (h : resolveTenantProfile sha256 floatText config = .ok profile)
    (hconfig : config.slug = command.tenantSlug)
    (htenant : command.tenantSlug = slugOf command.tenantId) (process : ℕ) (state : EnqueueState) :
    (EnqueueStep.enqueue process command profile.toResolvedTenantProfile).Resolvable
      (intakeServices sha256 floatText) slugOf state :=
  ⟨htenant, hconfig ▸ resolvePersisted_of_resolved h⟩

/-- A mapping with another hash is not resolved. -/
theorem resolvePersistedProfile_of_other {members : List (String × Json)} {expected : String}
    (h : profileFingerprint sha256 floatText members ≠ expected) (tenantSlug : Option String) :
    ∃ error, resolvePersistedProfile sha256 floatText (.obj members) expected tenantSlug =
      .error error := by
  cases hresolved : resolvePersistedProfile sha256 floatText (.obj members) expected tenantSlug with
  | error error => exact ⟨error, rfl⟩
  | ok resolved => exact absurd (resolvePersistedProfile_eq_ok.1 hresolved).1.2 h

theorem riskFromSnapshot_stored (order : MemberOrder) (risk : RiskSignals) :
    riskFromSnapshot (Json.stored order
      (.obj [("safety_or_legal_risk", .bool risk.safetyOrLegalRisk)])) = some risk := by
  have hnodup : ([("safety_or_legal_risk", Json.bool risk.safetyOrLegalRisk)].map
    Prod.fst).Nodup := List.nodup_singleton _
  rw [Json.stored_obj_eq, riskFromSnapshot, Json.lookup_backMembers order hnodup]
  rfl

/-- What a job that comes back from its columns is taken apart to. -/
structure Reconstructed (sha256 : ByteArray → String) (floatText : PyFloat → List Char)
    (config : TenantConfig) (compiled : CompiledTenantProfile) (source : TrustedSource)
    (risk : RiskSignals) (cancelled : ℕ → Bool) (job : AgentJob) : Prop where
  source_read : trustedSourceFromSnapshot decodeDocumentSnapshot job.sourceSnapshot = some source
  risk_read : riskFromSnapshot job.riskSignals = some risk
  profile_read : ∃ back compiledBack,
    resolvePersistedProfile sha256 floatText job.tenantConfigSnapshot job.tenantConfigSha256 none =
      .ok back ∧
    back.compiled = some compiledBack ∧ back.config.Same config ∧ compiledBack.Same compiled
  only_unreadable : ∀ result, buildRuntime sha256 floatText job cancelled = .terminal result →
    result.reason = .documentUnreadable
  unreadable_iff : (∃ result, buildRuntime sha256 floatText job cancelled = .terminal result) ↔
    ∃ document ∈ source.document, document.extractionError.isSome
  others_raise : ∀ stored other, job.tenantConfigSnapshot = .obj stored →
    canonicalJsonBytes floatText other ≠ canonicalJsonBytes floatText stored →
      ∀ tenantSlug, ∃ error, resolvePersistedProfile sha256 floatText (.obj other)
        job.tenantConfigSha256 tenantSlug = .error error

/-- The factory on a job whose snapshots are read. -/
theorem buildRuntime_eq {job : AgentJob} {source : TrustedSource}
    {resolved : ConfiguredTenantProfile} {members : List (String × Json)}
    (hsnapshot : job.tenantConfigSnapshot = .obj members)
    (hsource : trustedSourceFromSnapshot decodeDocumentSnapshot job.sourceSnapshot = some source)
    (hresolved : resolvePersistedProfile sha256 floatText job.tenantConfigSnapshot
      job.tenantConfigSha256 none = .ok resolved) (cancelled : ℕ → Bool) :
    buildRuntime sha256 floatText job cancelled = buildResolved job source resolved cancelled := by
  unfold buildRuntime
  rw [hsnapshot] at hresolved ⊢
  simp only [hsource, hresolved]

theorem buildResolved_continues {job : AgentJob} {source : TrustedSource}
    {resolved : ConfiguredTenantProfile} {compiled : CompiledTenantProfile} {risk : RiskSignals}
    (hcompiled : resolved.compiled = some compiled)
    (hrisk : riskFromSnapshot job.riskSignals = some risk)
    (h : preflightDocument source compiled.config (some compiled) = .continue_)
    (cancelled : ℕ → Bool) :
    ∃ runtime, buildResolved job source resolved cancelled = .ready runtime := by
  unfold buildResolved
  simp only [hcompiled, Option.map_some, Option.getD_some, h, hrisk]
  exact ⟨_, rfl⟩

theorem buildResolved_stops {job : AgentJob} {source : TrustedSource}
    {resolved : ConfiguredTenantProfile} {compiled : CompiledTenantProfile}
    {result : TerminalPreflightResult} (hcompiled : resolved.compiled = some compiled)
    (h : preflightDocument source compiled.config (some compiled) = .terminal result)
    (cancelled : ℕ → Bool) :
    buildResolved job source resolved cancelled = .terminal result := by
  unfold buildResolved
  simp only [hcompiled, Option.map_some, Option.getD_some, h]

/-- A job whose profile and risk signals are read is turned away exactly if its
document could not be read. -/
theorem buildResolved_terminal {job : AgentJob} {source : TrustedSource}
    {resolved : ConfiguredTenantProfile} {compiled : CompiledTenantProfile} {risk : RiskSignals}
    (hcompiled : resolved.compiled = some compiled)
    (hrisk : riskFromSnapshot job.riskSignals = some risk)
    (hpreflight : (preflightDocument source compiled.config (some compiled) = .continue_ ∧
        ∀ document ∈ source.document, document.extractionError = none) ∨
      ∃ result, preflightDocument source compiled.config (some compiled) = .terminal result ∧
        result.reason = .documentUnreadable ∧
        ∃ document ∈ source.document, document.extractionError.isSome)
    (cancelled : ℕ → Bool) :
    (∀ result, buildResolved job source resolved cancelled = .terminal result →
        result.reason = .documentUnreadable) ∧
      ((∃ result, buildResolved job source resolved cancelled = .terminal result) ↔
        ∃ document ∈ source.document, document.extractionError.isSome) := by
  rcases hpreflight with ⟨hcontinues, hclear⟩ | ⟨result, hstops, hreason, hdocument⟩
  · obtain ⟨runtime, hready⟩ := buildResolved_continues hcompiled hrisk hcontinues cancelled
    rw [hready]
    refine ⟨nofun, nofun, ?_⟩
    rintro ⟨document, hmem, herror⟩
    rw [hclear document hmem] at herror
    cases herror
  · rw [buildResolved_stops hcompiled hstops cancelled]
    refine ⟨?_, fun _ => hdocument, fun _ => ⟨result, rfl⟩⟩
    rintro _ ⟨⟩
    exact hreason

/-- What `create_job` writes is read back by the factory. -/
theorem enqueue_runtime_round_trip (services : IntakeServices) (floatText : PyFloat → List Char)
    (config : TenantConfig) (profile : ConfiguredTenantProfile) (compiled : CompiledTenantProfile)
    (hprofile : resolveTenantProfile services.sha256 floatText config = .ok profile)
    (hcompiled : profile.compiled = some compiled) (source : TrustedSource)
    (hsource : source.ProducedFor compiled)
    (hcollision : ∀ bytes, services.sha256 bytes = profile.sha256 →
      bytes = canonicalJsonBytes floatText config.modelDump)
    (call : EnqueueCall) (key : String) (newId : Uuid) (now : Timestamp) (order : MemberOrder)
    (cancelled : ℕ → Bool) :
    Reconstructed services.sha256 floatText config compiled source call.riskSignals cancelled
      (((call.newJob services key source profile.toResolvedTenantProfile newId now).row).reloaded
        order) := by
  have hread : trustedSourceFromSnapshot decodeDocumentSnapshot
      (Json.stored order (sourceSnapshot source)) = some source :=
    trustedSourceFromSnapshot_stored order source
  have hrisk := riskFromSnapshot_stored order call.riskSignals
  obtain ⟨back, compiled', compiledBack, hresolved, hcompiled', hback, hconfig, hsame, hown⟩ :=
    resolvePersistedProfile_back order hprofile none
      fun slug hslug => absurd hslug (Option.not_mem_none slug)
  obtain rfl : compiled' = compiled := Option.some.inj (hcompiled'.symm.trans hcompiled)
  obtain ⟨_, hcompiles, rfl⟩ := resolvedProfile_eq_ok.1 hprofile
  obtain ⟨-, -, rfl⟩ := compileTenantProfile_eq_ok.1 hcompiles
  cases hcompiled
  generalize hjob : ((call.newJob services key source _ newId now).row).reloaded order = job
  have hsnapshot : job.tenantConfigSnapshot =
      .obj (Json.backMembers order config.modelDump) := by
    rw [← hjob, ← Json.stored_obj_eq]
    rfl
  have hbuild : buildRuntime services.sha256 floatText job cancelled =
      buildResolved job source back cancelled := by
    subst hjob
    exact buildRuntime_eq hsnapshot hread hresolved cancelled
  have hpreflight := preflightDocument_of_produced rfl (hown ▸ hconfig) hsame hsource
  have hrisk' : riskFromSnapshot job.riskSignals = some call.riskSignals := by
    rw [← hjob]
    exact hrisk
  have hunreadable := hbuild ▸ buildResolved_terminal hback hrisk' hpreflight cancelled
  refine ⟨by rw [← hjob]; exact hread, hrisk', ⟨back, compiledBack, ?_, hback, hconfig, hsame⟩,
    hunreadable.1, hunreadable.2, fun stored other hstored hother tenantSlug => ?_⟩
  · rw [← hjob]
    exact hresolved
  · -- only the stored text has the stored hash
    rw [hsnapshot] at hstored
    cases hstored
    rw [canonicalJsonBytes_back] at hother
    have hexpected : job.tenantConfigSha256 =
        profileFingerprint services.sha256 floatText config.modelDump := by
      rw [← hjob]
      rfl
    rw [hexpected]
    exact resolvePersistedProfile_of_other (fun hhash => hother (hcollision _ hhash)) tenantSlug

end RoundTrip

/-- The profile of a tenant that reads rate confirmations. -/
def freightProfile : TenantConfig :=
  { replyProfile with
    intakeTypes := [⟨"rate_confirmation", "Rate confirmations", ["message"],
      rateConfirmation_safe, by decide, by decide, List.nodup_singleton _⟩]
    documents := [("rate_confirmation", freightBinding)]
    intakeTypes_nonempty := by simp
    documents_nodup := by decide
    documents_safe := by decide
    intakeNames_nodup := by decide
    required_known := by decide
    documents_known := by decide
    one_default := by decide }

/-- The hash of this profile. -/
def freightSha256 : String :=
  "3c489f6d0f964bb69cabc51ecf105bd9a160cbe653fff2bf0c898e41f3b79196"

/-- SHA-256 on the text of this profile; every other text hashes as the empty one. -/
def freightServices : IntakeServices :=
  intakeServices (fun bytes =>
    if bytes.data = (canonicalJsonBytes (fun _ => []) freightProfile.modelDump).data then
      freightSha256
    else "e3b0c44298fc1c149afbf4c8996fb92427ae41e4649b934ca495991b7852b855") fun _ => []

def freightResolved : ConfiguredTenantProfile :=
  ⟨⟨freightProfile.modelDump, freightSha256, some (freightProfile.compiled freightSha256)⟩,
    freightProfile⟩

theorem freightServices_sha256 {bytes : ByteArray}
    (h : bytes = canonicalJsonBytes (fun _ => []) freightProfile.modelDump) :
    freightServices.sha256 bytes = freightSha256 :=
  if_pos (congrArg ByteArray.data h)

theorem freightProfile_fingerprint :
    profileFingerprint freightServices.sha256 (fun _ => []) freightProfile.modelDump =
      freightSha256 := by
  rw [profileFingerprint]
  exact freightServices_sha256 rfl

theorem freightProfile_resolved :
    resolveTenantProfile freightServices.sha256 (fun _ => []) freightProfile =
      .ok freightResolved := by
  have hcompilable : freightProfile.Compilable := ⟨by decide +kernel, by decide +kernel⟩
  have hhex : isSha256 freightSha256 = true := by decide +kernel
  rw [resolveTenantProfile, freightProfile_fingerprint]
  exact resolvedProfile_eq_ok.2
    ⟨_, compileTenantProfile_eq_ok.2 ⟨hhex, hcompilable, rfl⟩, rfl⟩

/-- A mail whose attachment took too long to read. -/
def freightSource : TrustedSource where
  channel := "email"
  subject := "Load 7"
  body := "See the attachment."
  document := some (.timedOut "rate_confirmation" "rate_confirmation" .pdf
    "e3b0c44298fc1c149afbf4c8996fb92427ae41e4649b934ca495991b7852b855" "bounded_text_pdf" 1
    rateConfirmation_safe rateConfirmation_safe emptySha256_valid boundedTextPdf_safe Nat.one_pos)
  sender := some "broker@example.com"

theorem freightSource_produced :
    freightSource.ProducedFor (freightProfile.compiled freightSha256) := by
  rintro document ⟨⟩
  exact ⟨_, rfl, rfl, rfl, rfl, rfl, by decide⟩

def freightCall : EnqueueCall :=
  .enqueue ⟨1, "acme", freightSource, "load-7", 2, ⟨false⟩⟩

/-- The job of this mail comes back with its members reversed, and is turned away. -/
theorem freight_job_turned_away : ∃ result,
    buildRuntime freightServices.sha256 (fun _ => [])
      (((freightCall.newJob freightServices "load-7" freightSource
        freightResolved.toResolvedTenantProfile 3 0).row).reloaded
          ⟨List.reverse, List.reverse_perm⟩) (fun _ => false) = .terminal result ∧
      result.reason = .documentUnreadable := by
  have hcollision : ∀ bytes, freightServices.sha256 bytes = freightResolved.sha256 →
      bytes = canonicalJsonBytes (fun _ => []) freightProfile.modelDump := by
    intro bytes hhash
    by_contra hother
    have hempty : freightServices.sha256 bytes =
        "e3b0c44298fc1c149afbf4c8996fb92427ae41e4649b934ca495991b7852b855" := 
      if_neg fun hdata => hother (ByteArray.ext hdata)
    rw [hempty] at hhash
    exact absurd hhash (by decide)
  have hback := enqueue_runtime_round_trip freightServices (fun _ => []) freightProfile
    freightResolved _ freightProfile_resolved rfl freightSource freightSource_produced hcollision
    freightCall "load-7" 3 0 ⟨List.reverse, List.reverse_perm⟩ fun _ => false
  obtain ⟨result, hresult⟩ := hback.unreadable_iff.2 ⟨_, rfl, rfl⟩
  exact ⟨result, hresult, hback.only_unreadable result hresult⟩

end IntegraIntake
