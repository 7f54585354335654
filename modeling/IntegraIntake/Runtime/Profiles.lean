import IntegraIntake.Intake.Enqueue
import IntegraIntake.Tenants.Compilation

/-!
# Persisted profiles

`app/runtime/profiles.py` and `app/runtime/legacy_profiles.py`: a job keeps the
profile it was enqueued under, with the hash of its canonical text, and every
reader resolves the profile again from what is stored.  The hash is checked on the
stored mapping; a mapping of version 1 is upgraded after that.

SHA-256 is a parameter, and so is the text of a float.
-/

namespace IntegraIntake

open Library

/-! ## Canonical text -/

/-- `ensure_ascii=False`. -/
def canonicalFormat (floatText : PyFloat → List Char) : TextFormat :=
  ⟨Plain.escapeChar, floatText⟩

/-- `canonical_json_bytes`.  What it is given is the dump of a configuration or has come
out of `json.loads`, so that no integer in it has more digits than Python writes. -/
def canonicalJsonBytes (floatText : PyFloat → List Char) (value : List (String × Json)) :
    ByteArray :=
  (Json.dumps (canonicalFormat floatText) (.obj value)).toUTF8

/-- `_profile_fingerprint`. -/
def profileFingerprint (sha256 : ByteArray → String) (floatText : PyFloat → List Char)
    (snapshot : List (String × Json)) : String :=
  sha256 (canonicalJsonBytes floatText snapshot)

/-! ## Version 1 -/

/-- The execution mode that an action of version 1 gets. -/
def legacyExecution (action : String) : ActionExecutionMode :=
  if registryKeys.contains action then .executable else .policyOnly

/-- One entry of the upgraded action policy; an entry that is no mapping is dropped. -/
def upgradeRule (entry : String × Json) : Option (String × Json) :=
  entry.2.asMembers?.map fun rule =>
    (entry.1, .obj (Json.setMember rule "execution" (.str (legacyExecution entry.1).value)))

/-- The names of a list of intake types; `none` if one cannot be hashed. -/
def intakeNames : List Json → Option (List Json)
  | [] => some []
  | .obj members :: rest =>
    match (members.lookup "name").getD .null with
    -- no list or dictionary goes into a set
    | .arr _ => none
    | .obj _ => none
    | name => (intakeNames rest).map (name :: ·)
  | _ :: rest => intakeNames rest

/-- The binding of the freight document. -/
def rateConfirmationBinding : Json :=
  .obj [("intake_type", .str "rate_confirmation"), ("normalizer", .str "bounded_text_pdf"),
    ("normalizer_version", .int 1), ("default_for_inbound", .bool true)]

/-- `raw_slug.replace("-", "_")`. -/
def legacyScenarioKey (slug : String) : String :=
  String.ofList (slug.toList.map fun c => if c = '-' then '_' else c)

/-- `documents.setdefault("rate_confirmation", ...)`. -/
def withRateConfirmation (documents : List (String × Json)) : List (String × Json) :=
  if (documents.lookup "rate_confirmation").isSome then documents
  else documents ++ [("rate_confirmation", rateConfirmationBinding)]

/-- `upgrade_legacy_profile_snapshot`; `none` stands for its exceptions. -/
def upgradeLegacyProfileSnapshot (snapshot : List (String × Json)) :
    Option (List (String × Json)) := do
  let slug ← Json.field Json.asStr? "slug" snapshot
  guard (isSlug slug)
  let policy ← Json.field Json.asMembers? "action_policy" snapshot
  let rules := policy.filterMap upgradeRule
  -- an entry that is no mapping was dropped
  guard (rules.length = policy.length)
  let documents ← Json.fieldOr none (Json.optionOf Json.asMembers?) "documents" snapshot
  let intakeTypes ← Json.field Json.asList? "intake_types" snapshot
  let names ← intakeNames intakeTypes
  let bound := if names.any (·.asStr? = some "rate_confirmation")
    then withRateConfirmation (documents.getD []) else documents.getD []
  some (Json.updateMembers snapshot [("action_policy", .obj rules), ("profile_version", .int 2),
    ("scenario_key", .str (legacyScenarioKey slug)), ("documents", .obj bound)])

/-! ## Resolving -/

/-- What resolving a profile raises. -/
inductive ProfileError where
  /-- `TenantProfileUnavailableError`. -/
  | unavailable (message : String)
  /-- What `compile_tenant_profile` raises. -/
  | compile (error : CompileError)
  deriving DecidableEq, Repr

/-- `ResolvedTenantProfile`, with the profile itself. -/
structure ConfiguredTenantProfile extends ResolvedTenantProfile where
  config : TenantConfig

/-- `_resolved_profile`. -/
def resolvedProfile (config : TenantConfig) (snapshot : List (String × Json)) (sha256 : String) :
    Except ProfileError ConfiguredTenantProfile :=
  match compileTenantProfile config sha256 with
  | .error error => .error (.compile error)
  | .ok compiled => .ok ⟨⟨snapshot, sha256, some compiled⟩, config⟩

/-- The profile of a stored mapping, of either version. -/
def configOfSnapshot (snapshot : List (String × Json)) : Option TenantConfig :=
  if (snapshot.lookup "profile_version").any (·.pyEq (.int 2)) then
    TenantConfig.modelValidate (.obj snapshot)
  else (upgradeLegacyProfileSnapshot snapshot).bind fun upgraded =>
    TenantConfig.modelValidate (.obj upgraded)

section Resolve

variable (sha256 : ByteArray → String) (floatText : PyFloat → List Char)

/-- `resolve_persisted_profile` against the builtin registries. -/
def resolvePersistedProfile (snapshot : Json) (expectedSha256 : String)
    (tenantSlug : Option String) : Except ProfileError ConfiguredTenantProfile :=
  match snapshot with
  | .obj members =>
    if isSha256 expectedSha256 = false then
      .error (.unavailable "tenant profile snapshot is unavailable")
    -- the hash is that of the mapping as it is stored, before any upgrade
    else if profileFingerprint sha256 floatText members ≠ expectedSha256 then
      .error (.unavailable "tenant profile snapshot hash mismatch")
    else
      match configOfSnapshot members with
      | none => .error (.unavailable "tenant profile snapshot is unavailable")
      | some config =>
        if tenantSlug.any (config.slug ≠ ·) then
          .error (.unavailable "tenant profile snapshot is unavailable")
        else resolvedProfile config members expectedSha256
  | _ => .error (.unavailable "tenant profile snapshot is unavailable")

/-- `TenantProfileResolver.resolve`, with the profile that is loaded for the slug. -/
def resolveTenantProfile (config : TenantConfig) : Except ProfileError ConfiguredTenantProfile :=
  resolvedProfile config config.modelDump (profileFingerprint sha256 floatText config.modelDump)

variable {sha256 floatText}

theorem resolvedProfile_eq_ok {config : TenantConfig} {snapshot : List (String × Json)}
    {fingerprint : String} {resolved : ConfiguredTenantProfile} :
    resolvedProfile config snapshot fingerprint = .ok resolved ↔
      ∃ compiled, compileTenantProfile config fingerprint = .ok compiled ∧
        resolved = ⟨⟨snapshot, fingerprint, some compiled⟩, config⟩ := by
  unfold resolvedProfile
  cases compileTenantProfile config fingerprint with
  | error error => simp
  | ok compiled => simp [eq_comm]

/-- A mapping is resolved if its hash is the expected one, it is a profile of the
tenant, and the profile compiles. -/
theorem resolvePersistedProfile_eq_ok {members : List (String × Json)} {expected : String}
    {tenantSlug : Option String} {resolved : ConfiguredTenantProfile} :
    resolvePersistedProfile sha256 floatText (.obj members) expected tenantSlug = .ok resolved ↔
      (isSha256 expected = true ∧ profileFingerprint sha256 floatText members = expected) ∧
        ∃ config compiled, configOfSnapshot members = some config ∧
          (∀ slug ∈ tenantSlug, config.slug = slug) ∧
          compileTenantProfile config expected = .ok compiled ∧
          resolved = ⟨⟨members, expected, some compiled⟩, config⟩ := by
  simp only [resolvePersistedProfile]
  cases hhex : isSha256 expected with
  | false => simp
  | true =>
      rw [if_neg (by simp)]
      by_cases hhash : profileFingerprint sha256 floatText members = expected
      · rw [if_neg (not_not_intro hhash)]
        cases hconfig : configOfSnapshot members with
        | none => simp
        | some config =>
            have hslug : tenantSlug.any (config.slug ≠ ·) = true ↔
                ¬ ∀ slug ∈ tenantSlug, config.slug = slug := by
              cases tenantSlug <;> simp
            by_cases hsame : ∀ slug ∈ tenantSlug, config.slug = slug
            · have hkept : ¬ tenantSlug.any (config.slug ≠ ·) = true := fun hany =>
                hslug.1 hany hsame
              dsimp only
              rw [if_neg hkept, resolvedProfile_eq_ok]
              constructor
              · rintro ⟨compiled, hcompiled, rfl⟩
                exact ⟨⟨rfl, hhash⟩, config, compiled, rfl, hsame, hcompiled, rfl⟩
              · rintro ⟨-, _, compiled, ⟨⟩, -, hcompiled, rfl⟩
                exact ⟨compiled, hcompiled, rfl⟩
            · dsimp only
              rw [if_pos (hslug.2 hsame)]
              constructor
              · nofun
              · rintro ⟨-, _, compiled, ⟨⟩, hkept, -⟩
                exact absurd hkept hsame
      · simp [hhash]

end Resolve

end IntegraIntake
