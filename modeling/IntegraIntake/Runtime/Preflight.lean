import IntegraIntake.Tools.Soundness

/-!
# Preflight

`app/runtime/preflight.py`: the check of a stored document against the profile
that comes before the provider is called.
-/

namespace IntegraIntake

/-- Why a job is answered without a run. -/
inductive PreflightReason where
  | documentUnreadable | capabilityUnavailable | snapshotIncompatible
  deriving DecidableEq, Repr

/-- The reason as it is written. -/
def PreflightReason.value : PreflightReason → String
  | .documentUnreadable => "document_unreadable"
  | .capabilityUnavailable => "capability_unavailable"
  | .snapshotIncompatible => "snapshot_incompatible"

/-- `TerminalPreflightResult`. -/
structure TerminalPreflightResult where
  routingStatus : RoutingStatus
  reason : PreflightReason
  targetIntakeType : Option String
  missingRequiredFields : List String
  documentKind : Option String
  extractionError : Option DocumentExtractionError

/-- `PreflightResult`. -/
inductive PreflightResult where
  | continue_
  | terminal (result : TerminalPreflightResult)

/-- Whether a binding is the one a document was normalized for. -/
def CompiledDocumentBinding.fits (binding : CompiledDocumentBinding)
    (document : NormalizedDocument) : Bool :=
  binding.targetIntakeType = document.targetIntakeType ∧
    binding.normalizerKey = document.normalizerKey ∧
    binding.normalizerVersion = document.normalizerVersion ∧
    binding.capability.supportedMediaTypes.contains document.mediaType

/-- The profile, if it is compiled, binds the document's kind to this document. -/
def bindingFits (compiled : Option CompiledTenantProfile) (document : NormalizedDocument) : Bool :=
  match compiled with
  | none => true
  | some profile => (profile.documents.lookup document.documentKind).any (·.fits document)

/-- `preflight_document`. -/
def preflightDocument (source : TrustedSource) (config : TenantConfig)
    (compiled : Option CompiledTenantProfile) : PreflightResult :=
  match source.document with
  | none => .continue_
  | some document =>
    let intake := config.findIntake document.targetIntakeType
    let missing := (intake.map fun item => sorted item.requiredFields).getD []
    if bindingFits compiled document = false then
      .terminal ⟨.rejected, .snapshotIncompatible, some document.targetIntakeType, missing,
        some document.documentKind, none⟩
    else if intake = none then
      .terminal ⟨.rejected, .capabilityUnavailable, some document.targetIntakeType, [],
        some document.documentKind, none⟩
    else match document.extractionError with
      | some error =>
        .terminal ⟨.awaitingInput, .documentUnreadable, some document.targetIntakeType, missing,
          some document.documentKind, some error⟩
      | none => .continue_

/-- The missing fields of a preflight result are fields of the profile. -/
theorem preflightDocument_missing_known {source : TrustedSource} {config : TenantConfig}
    {compiled : Option CompiledTenantProfile} {result : TerminalPreflightResult}
    (h : preflightDocument source config compiled = .terminal result) :
    ∀ name ∈ result.missingRequiredFields, name ∈ dictKeys config.fields := by
  unfold preflightDocument at h
  split at h
  · cases h
  rename_i document hdocument
  have hmissing : ∀ name ∈ ((config.findIntake document.targetIntakeType).map fun item =>
      sorted item.requiredFields).getD [], name ∈ dictKeys config.fields := by
    intro name hname
    cases hintake : config.findIntake document.targetIntakeType with
    | none => simp [hintake] at hname
    | some intake =>
        simp only [hintake, Option.map_some, Option.getD_some, mem_sorted] at hname
        exact config.required_known intake (TenantConfig.findIntake_eq_some_iff.1 hintake).1
          name hname
  simp only at h
  split at h
  · cases h
    exact hmissing
  · split at h
    · cases h
      intro name hname
      cases hname
    · split at h
      · cases h
        exact hmissing
      · cases h

end IntegraIntake
