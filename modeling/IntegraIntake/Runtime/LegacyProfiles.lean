import IntegraIntake.Runtime.Profiles
import IntegraIntake.Tools.ModelInput

/-!
# Profiles of version 1

A job of version 1 keeps its profile without `profile_version`, `scenario_key`,
`documents` and the execution modes of its actions.  The upgrade makes them up: the
execution modes from the action registry, the freight document from the intake
types, and the scenario key from the slug.

The slug may begin with a digit and may have any length, the scenario key may
neither.  So the upgrade of a profile is a profile with the same meaning if its
slug begins with a letter and has at most 64 characters, and no profile at all if
not.
-/

namespace IntegraIntake

open Library

/-! ## Slugs -/

/-- `[a-z0-9]`. -/
def isSlugChar (c : Char) : Bool :=
  ('a' ≤ c && c ≤ 'z') || c.isDigit

/-- A slug that can be made into a scenario key. -/
def LegacySlug (slug : String) : Prop :=
  (∃ c ∈ slug.toList.head?, 'a' ≤ c ∧ c ≤ 'z') ∧ PyString.len slug ≤ 64

theorem forall_of_splitOn {p : Char → Bool} {separator : Char} {text : List Char}
    (h : ∀ segment ∈ text.splitOn separator, segment.all p = true) :
    ∀ c ∈ text, c = separator ∨ p c = true := by
  induction text with
  | nil => nofun
  | cons first rest ih =>
      rw [List.splitOn_cons_eq_if_modifyHead] at h
      intro c hc
      by_cases hfirst : first = separator
      · rw [if_pos (beq_iff_eq.2 hfirst)] at h
        rcases List.mem_cons.1 hc with rfl | hrest
        · exact .inl hfirst
        · exact ih (fun segment hsegment => h segment (List.mem_cons_of_mem _ hsegment)) c hrest
      · rw [if_neg (by simpa using hfirst)] at h
        -- the first segment gains the first character
        obtain ⟨segment, segments, hsplit⟩ :=
          List.exists_cons_of_ne_nil (List.splitOn_ne_nil separator rest)
        rw [hsplit, List.modifyHead_cons, List.forall_mem_cons, List.all_cons,
          Bool.and_eq_true] at h
        rcases List.mem_cons.1 hc with rfl | hrest
        · exact .inr h.1.1
        · refine ih (fun other hother => ?_) c hrest
          rw [hsplit] at hother
          rcases List.mem_cons.1 hother with rfl | hlater
          · exact h.1.2
          · exact h.2 other hlater

/-- A slug begins with a letter or a digit and goes on with these and hyphens. -/
theorem isSlug_chars {slug : String} (h : isSlug slug = true) :
    ∃ first rest, slug.toList = first :: rest ∧ isSlugChar first = true ∧
      ∀ c ∈ rest, c = '-' ∨ isSlugChar c = true := by
  have hsegments : ∀ segment ∈ slug.toList.splitOn '-', segment ≠ [] ∧
      segment.all isSlugChar = true := by
    intro segment hsegment
    have hsegment' := List.all_eq_true.1 h segment hsegment
    rw [Bool.and_eq_true] at hsegment'
    exact ⟨by simpa using hsegment'.1, hsegment'.2⟩
  have hchars := forall_of_splitOn fun segment hsegment => (hsegments segment hsegment).2
  cases htext : slug.toList with
  | nil =>
      have hempty := hsegments [] (by simp [htext])
      exact absurd rfl hempty.1
  | cons first rest =>
      rw [htext] at hchars hsegments
      obtain ⟨hfirst, hrest⟩ := List.forall_mem_cons.1 hchars
      refine ⟨first, rest, rfl, hfirst.resolve_left ?_, hrest⟩
      rintro rfl
      refine absurd rfl (hsegments [] ?_).1
      rw [List.splitOn_cons_eq_if_modifyHead, if_pos (beq_self_eq_true _)]
      exact List.mem_cons_self

theorem slugChar_or_underscore {c : Char} (h : c = '-' ∨ isSlugChar c = true) :
    (('a' ≤ (if c = '-' then '_' else c) && (if c = '-' then '_' else c) ≤ 'z') ||
      (if c = '-' then '_' else c).isDigit || (if c = '-' then '_' else c) == '_') = true := by
  rcases h with rfl | h
  -- a hyphen becomes an underscore, which only the key may have
  · decide
  · split
    · decide
    · unfold isSlugChar at h
      rw [h, Bool.true_or]

/-- What a slug makes of itself is a scenario key exactly if it begins with a letter
and is not too long. -/
theorem legacyScenarioKey_safe_iff {slug : String} (h : isSlug slug = true) :
    isSafeIdentifier (legacyScenarioKey slug) = true ↔ LegacySlug slug := by
  obtain ⟨first, rest, htext, hfirst, hrest⟩ := isSlug_chars h
  have hkept : (if first = '-' then '_' else first) = first := by
    rw [if_neg]
    rintro rfl
    cases hfirst
  have hall : (rest.map fun c => if c = '-' then '_' else c).all (fun c =>
      ('a' ≤ c && c ≤ 'z') || c.isDigit || c == '_') = true := by
    rw [List.all_map, List.all_eq_true]
    exact fun c hc => slugChar_or_underscore (hrest c hc)
  unfold isSafeIdentifier PyString.isIdentifier legacyScenarioKey LegacySlug PyString.len
  rw [htext, String.toList_ofList, List.map_cons, hkept]
  simp only [hall, List.length_map, Bool.and_true, Bool.and_eq_true, decide_eq_true_eq,
    List.head?_cons, Option.mem_some_iff, exists_eq_left', List.length_cons]
  constructor
  · rintro ⟨hletter, hlength⟩
    exact ⟨hletter, by omega⟩
  · rintro ⟨hletter, hlength⟩
    exact ⟨hletter, by omega⟩

/-! ## Snapshots of version 1 -/

/-- The members with other names. -/
def withoutMembers (names : List String) (members : List (String × Json)) : List (String × Json) :=
  members.filter fun member => !names.contains member.1

/-- The members of a rule of version 1. -/
def ActionRule.legacyDump (rule : ActionRule) : List (String × Json) :=
  withoutMembers ["execution"] rule.modelDump

/-- The dump of a profile without what version 1 does not have. -/
def TenantConfig.legacyDump (config : TenantConfig) : List (String × Json) :=
  (withoutMembers ["profile_version", "scenario_key", "documents"] config.modelDump).map
    fun member =>
      if member.1 = "action_policy" then
        (member.1, dumpDict ActionRule.legacyDump config.actionPolicy)
      else member

theorem legacyDump_eq (config : TenantConfig) :
    config.legacyDump = [("slug", .str config.slug), ("display_name", .str config.displayName),
      ("intake_types", .arr (config.intakeTypes.map fun intake => .obj intake.modelDump)),
      ("fields", dumpDict FieldDefinition.modelDump config.fields),
      ("action_policy", dumpDict ActionRule.legacyDump config.actionPolicy),
      ("routing", .obj config.routing.modelDump)] := by
  rfl

/-- A snapshot of version 1, as it comes back from its column. -/
def TenantConfig.legacySnapshot (config : TenantConfig) (order : MemberOrder) :
    List (String × Json) :=
  Json.backMembers order config.legacyDump

theorem legacyDump_nodup (config : TenantConfig) : (config.legacyDump.map Prod.fst).Nodup := by
  rw [legacyDump_eq]
  simp

/-! ## The upgrade -/

/-- The rule of version 2. -/
def ActionRule.upgraded (rule : ActionRule) (action : String) : ActionRule :=
  ⟨rule.allowed, rule.requiresApproval, legacyExecution action⟩

/-- The members of a rule that comes back and is given its execution mode. -/
def upgradedMembers (order : MemberOrder) (action : String) (rule : ActionRule) :
    List (String × Json) :=
  Json.setMember (Json.backMembers order rule.legacyDump) "execution"
    (.str (legacyExecution action).value)

/-- The binding of the freight document. -/
def freightBinding : DocumentBindingConfig where
  intakeType := "rate_confirmation"
  normalizer := "bounded_text_pdf"
  normalizerVersion := 1
  defaultForInbound := true
  intakeType_safe := rateConfirmation_safe
  normalizer_safe := boundedTextPdf_safe
  version_pos := Nat.one_pos

/-- The documents that a profile gets. -/
def upgradedDocuments (intakeTypes : List IntakeTypeConfig) :
    List (String × DocumentBindingConfig) :=
  if "rate_confirmation" ∈ intakeTypes.map IntakeTypeConfig.name then
    [("rate_confirmation", freightBinding)]
  else []

section Upgrade

variable (order : MemberOrder) (config : TenantConfig)

/-- A dictionary of models comes back as one. -/
theorem stored_dumpDict {α : Type} (dump : α → List (String × Json)) (dict : List (String × α)) :
    ∃ back : List (String × α), back.Perm dict ∧ Json.stored order (dumpDict dump dict) =
      .obj (back.map fun entry => (entry.1, .obj (Json.backMembers order (dump entry.2)))) := by
  obtain ⟨members, hmembers, hperm⟩ := Json.stored_obj order
    (dict.map fun entry => (entry.1, .obj (dump entry.2)))
  rw [List.map_map] at hperm
  obtain ⟨back, hback, rfl⟩ := exists_perm_of_perm_map hperm
  refine ⟨back, hback, ?_⟩
  rw [dumpDict, hmembers]
  refine congrArg Json.obj (List.map_congr_left fun entry _ => ?_)
  simp only [Function.comp_apply, Json.stored_obj_eq]

theorem lookup_legacySnapshot (name : String) :
    (config.legacySnapshot order).lookup name =
      (config.legacyDump.lookup name).map (Json.stored order) :=
  Json.lookup_backMembers order (legacyDump_nodup config) name

/-- The names of intake types that come back. -/
theorem intakeNames_stored (intakeTypes : List IntakeTypeConfig) :
    intakeNames (intakeTypes.map fun intake => Json.stored order (.obj intake.modelDump)) =
      some (intakeTypes.map fun intake => .str intake.name) := by
  induction intakeTypes with
  | nil => rfl
  | cons intake rest ih =>
      have hnodup : (intake.modelDump.map Prod.fst).Nodup := by simp [IntakeTypeConfig.modelDump]
      have hname : (Json.backMembers order intake.modelDump).lookup "name" =
          some (.str intake.name) := by
        rw [Json.lookup_backMembers order hnodup]
        rfl
      rw [List.map_cons, Json.stored_obj_eq, intakeNames, hname]
      show (intakeNames _).map _ = _
      rw [ih]
      rfl

/-- What the documents of the upgraded mapping hold. -/
def documentMembers (intakeTypes : List IntakeTypeConfig) : List (String × Json) :=
  (upgradedDocuments intakeTypes).map fun entry => (entry.1, .obj entry.2.modelDump)

/-- The upgraded mapping, with the entries of its action policy. -/
def upgradedSnapshot (rules : List (String × Json)) : List (String × Json) :=
  Json.updateMembers (config.legacySnapshot order) [("action_policy", .obj rules),
    ("profile_version", .int 2), ("scenario_key", .str (legacyScenarioKey config.slug)),
    ("documents", .obj (documentMembers config.intakeTypes))]

/-- The rules of a policy that comes back, with their execution modes. -/
def upgradedRules (policy : List (String × ActionRule)) : List (String × Json) :=
  policy.map fun entry => (entry.1, .obj (upgradedMembers order entry.1 entry.2))

/-- The upgrade of a snapshot of version 1. -/
theorem upgradeLegacyProfileSnapshot_eq : ∃ back : List (String × ActionRule),
    back.Perm config.actionPolicy ∧
      upgradeLegacyProfileSnapshot (config.legacySnapshot order) =
        some (upgradedSnapshot order config (upgradedRules order back)) := by
  obtain ⟨back, hperm, hback⟩ :=
    stored_dumpDict order ActionRule.legacyDump config.actionPolicy
  refine ⟨back, hperm, ?_⟩
  have hslug : Json.field Json.asStr? "slug" (config.legacySnapshot order) = some config.slug := by
    rw [Json.field, lookup_legacySnapshot]
    rfl
  have hpolicy : Json.field Json.asMembers? "action_policy" (config.legacySnapshot order) =
      some (back.map fun entry =>
        (entry.1, .obj (Json.backMembers order entry.2.legacyDump))) := by
    rw [Json.field, lookup_legacySnapshot]
    show (Json.stored order (dumpDict ActionRule.legacyDump config.actionPolicy)).asMembers? = _
    rw [hback]
    rfl
  have hdocuments : Json.fieldOr none (Json.optionOf Json.asMembers?) "documents"
      (config.legacySnapshot order) = some none := by
    rw [Json.fieldOr, lookup_legacySnapshot]
    rfl
  have hintakes : Json.field Json.asList? "intake_types" (config.legacySnapshot order) =
      some (config.intakeTypes.map fun intake => Json.stored order (.obj intake.modelDump)) := by
    rw [Json.field, lookup_legacySnapshot]
    show (Json.stored order (.arr _)).asList? = _
    rw [Json.stored_arr, List.map_map]
    rfl
  have hrules : (back.map fun entry =>
      (entry.1, Json.obj (Json.backMembers order entry.2.legacyDump))).filterMap upgradeRule =
      upgradedRules order back := by
    rw [List.filterMap_map]
    show back.filterMap (fun entry =>
      some (entry.1, Json.obj (upgradedMembers order entry.1 entry.2))) = _
    rw [List.filterMap_eq_map']
    rfl
  have hbound : (if (config.intakeTypes.map fun intake => Json.str intake.name).any
      (·.asStr? = some "rate_confirmation") then withRateConfirmation [] else []) =
      documentMembers config.intakeTypes := by
    have hany : (config.intakeTypes.map fun intake => Json.str intake.name).any
        (·.asStr? = some "rate_confirmation") =
        decide ("rate_confirmation" ∈ config.intakeTypes.map IntakeTypeConfig.name) := by
      rw [List.any_map, Bool.eq_iff_iff, List.any_eq_true, decide_eq_true_eq, List.mem_map]
      exact exists_congr fun intake => and_congr_right fun _ => by simp [Json.asStr?]
    unfold documentMembers upgradedDocuments
    rw [hany]
    by_cases hfreight : "rate_confirmation" ∈ config.intakeTypes.map IntakeTypeConfig.name
    · rw [if_pos hfreight, if_pos (decide_eq_true hfreight)]
      rfl
    · rw [if_neg hfreight, if_neg (by simpa using hfreight)]
      rfl
  unfold upgradeLegacyProfileSnapshot
  simp only [hslug, hpolicy, hdocuments, hintakes, intakeNames_stored, hrules, Option.bind_eq_bind,
    Option.bind_some, Option.getD_none, hbound, config.slug_valid, guard, if_true]
  have hlength : (upgradedRules order back).length = (back.map fun entry =>
      (entry.1, Json.obj (Json.backMembers order entry.2.legacyDump))).length := by
    rw [upgradedRules, List.length_map, List.length_map]
  rw [if_pos hlength]
  rfl

/-- The rule that comes back is validated with its execution mode. -/
theorem upgradedMembers_valid (action : String) (rule : ActionRule) :
    ActionRule.modelValidate (.obj (upgradedMembers order action rule)) =
      some (rule.upgraded action) := by
  have hnodup : (rule.legacyDump.map Prod.fst).Nodup := by
    show ["allowed", "requires_approval"].Nodup
    decide
  have hback : ((Json.backMembers order rule.legacyDump).map Prod.fst).Nodup :=
    (Json.backMembers_keys order rule.legacyDump).nodup_iff.2 hnodup
  have hkeys : ∀ name ∈ (upgradedMembers order action rule).map Prod.fst,
      name ∈ ["allowed", "requires_approval", "execution"] := by
    intro name hname
    rcases Json.mem_keys_setMember.1 hname with rfl | hold
    · decide
    · have hdump := (Json.backMembers_keys order rule.legacyDump).mem_iff.1 hold
      have hsub : ["allowed", "requires_approval"] ⊆
        ["allowed", "requires_approval", "execution"] := by decide
      exact hsub hdump
  have hmodel : Json.modelOf ["allowed", "requires_approval", "execution"]
      (.obj (upgradedMembers order action rule)) = some (upgradedMembers order action rule) :=
    if_pos ⟨Json.setMember_nodup hback _ _, hkeys⟩
  have hallowed : Json.field Json.asBool? "allowed" (upgradedMembers order action rule) =
      some rule.allowed := by
    rw [Json.field, upgradedMembers, Json.lookup_setMember, if_neg (by decide),
      Json.lookup_backMembers order hnodup]
    rfl
  have hrequires : Json.field Json.asBool? "requires_approval"
      (upgradedMembers order action rule) = some rule.requiresApproval := by
    rw [Json.field, upgradedMembers, Json.lookup_setMember, if_neg (by decide),
      Json.lookup_backMembers order hnodup]
    rfl
  have hexecution : Json.field (Json.enumOf ActionExecutionMode.all ActionExecutionMode.value)
      "execution" (upgradedMembers order action rule) = some (legacyExecution action) := by
    rw [Json.field, upgradedMembers, Json.lookup_setMember, if_pos rfl]
    exact Json.enumOf_value ActionExecutionMode.value_injective (ActionExecutionMode.mem_all _)
  unfold ActionRule.modelValidate
  simp only [hmodel, hallowed, hrequires, hexecution, Option.bind_eq_bind, Option.bind_some]
  rfl

/-- The policy of an upgraded profile. -/
def upgradedPolicy (policy : List (String × ActionRule)) : List (String × ActionRule) :=
  policy.map fun entry => (entry.1, entry.2.upgraded entry.1)

theorem upgradedPolicy_keys (policy : List (String × ActionRule)) :
    dictKeys (upgradedPolicy policy) = dictKeys policy := by
  rw [dictKeys, upgradedPolicy, List.map_map]
  rfl

theorem documentMembers_valid (intakeTypes : List IntakeTypeConfig) :
    Json.dictOf DocumentBindingConfig.modelValidate (.obj (documentMembers intakeTypes)) =
      some (upgradedDocuments intakeTypes) := by
  unfold documentMembers upgradedDocuments
  split
  · rfl
  · rfl

theorem upgradedRules_valid (policy : List (String × ActionRule)) :
    Json.dictOf ActionRule.modelValidate (.obj (upgradedRules order policy)) =
      some (upgradedPolicy policy) := by
  induction policy with
  | nil => rfl
  | cons entry rest ih =>
      rw [Json.dictOf] at ih ⊢
      rw [upgradedRules, List.map_cons, List.mapM_cons, upgradedMembers_valid]
      rw [upgradedRules] at ih
      rw [ih]
      rfl

theorem lookup_upgradedSnapshot (rules : List (String × Json)) (name : String) :
    (upgradedSnapshot order config rules).lookup name =
      if name = "documents" then some (.obj (documentMembers config.intakeTypes))
      else if name = "scenario_key" then some (.str (legacyScenarioKey config.slug))
      else if name = "profile_version" then some (.int 2)
      else if name = "action_policy" then some (.obj rules)
      else (config.legacyDump.lookup name).map (Json.stored order) := by
  simp only [upgradedSnapshot, Json.updateMembers, List.foldl_cons, List.foldl_nil,
    Json.lookup_setMember, lookup_legacySnapshot]

/-- The upgraded mapping has the members of a profile. -/
theorem modelOf_upgradedSnapshot (rules : List (String × Json)) :
    Json.modelOf TenantConfig.memberNames (.obj (upgradedSnapshot order config rules)) =
      some (upgradedSnapshot order config rules) := by
  have hkeys := Json.backMembers_keys order config.legacyDump
  have hnodup : ((config.legacySnapshot order).map Prod.fst).Nodup :=
    hkeys.nodup_iff.2 (legacyDump_nodup config)
  refine if_pos ⟨?_, fun name hname => ?_⟩
  · simp only [upgradedSnapshot, Json.updateMembers, List.foldl_cons, List.foldl_nil]
    exact Json.setMember_nodup (Json.setMember_nodup (Json.setMember_nodup
      (Json.setMember_nodup hnodup _ _) _ _) _ _) _ _
  · simp only [upgradedSnapshot, Json.updateMembers, List.foldl_cons, List.foldl_nil,
      Json.mem_keys_setMember] at hname
    have hsub : ["slug", "display_name", "intake_types", "fields", "action_policy", "routing"] ⊆
      TenantConfig.memberNames := by decide
    rcases hname with rfl | rfl | rfl | rfl | hold
    · decide
    · decide
    · decide
    · decide
    · have hdump := hkeys.mem_iff.1 hold
      rw [legacyDump_eq] at hdump
      exact hsub hdump

/-- What a snapshot of version 1 is validated to. -/
theorem configOfSnapshot_legacy : ∃ fields back, fields.Perm config.fields ∧
    back.Perm config.actionPolicy ∧ configOfSnapshot (config.legacySnapshot order) =
      TenantConfig.checked config.slug (legacyScenarioKey config.slug) config.displayName
        config.intakeTypes fields (upgradedPolicy back) (upgradedDocuments config.intakeTypes)
        config.routing := by
  obtain ⟨back, hperm, hupgrade⟩ := upgradeLegacyProfileSnapshot_eq order config
  obtain ⟨fields, hfields, hfieldsPerm⟩ :=
    restores_dumpDict order FieldDefinition.restores config.fields
  refine ⟨fields, back, hfieldsPerm, hperm, ?_⟩
  have hversion : (config.legacySnapshot order).lookup "profile_version" = none := by
    rw [lookup_legacySnapshot]
    rfl
  have hlookup := lookup_upgradedSnapshot order config (upgradedRules order back)
  unfold configOfSnapshot
  rw [hversion, hupgrade, if_neg (by simp), Option.bind_some]
  refine TenantConfig.modelValidate_of_reads
    (modelOf_upgradedSnapshot order config (upgradedRules order back)) ?_ ?_ ?_ ?_ ?_ ?_ ?_ ?_ ?_
  · rw [Json.field, hlookup]
    rfl
  · rw [Json.field, hlookup]
    rfl
  · rw [Json.field, hlookup]
    rfl
  · rw [Json.field, hlookup]
    rfl
  · rw [Json.field, hlookup]
    exact Json.restores_list fun intake _ => IntakeTypeConfig.restores intake
  · rw [Json.field, hlookup]
    exact hfields
  · rw [Json.field, hlookup]
    exact upgradedRules_valid order back
  · rw [Json.fieldOr, hlookup]
    exact documentMembers_valid config.intakeTypes
  · rw [Json.field, hlookup]
    exact RoutingConfig.restores config.routing

end Upgrade

/-! ## What the upgrade keeps -/

/-- The upgrade says what the snapshot says. -/
structure UpgradedFrom (config upgraded : TenantConfig) : Prop where
  slug : upgraded.slug = config.slug
  displayName : upgraded.displayName = config.displayName
  intakeTypes : upgraded.intakeTypes = config.intakeTypes
  fields : upgraded.fields.Perm config.fields
  routing : upgraded.routing = config.routing
  rule : ∀ action, upgraded.rule? action = (config.rule? action).map fun rule =>
    ⟨rule.allowed, rule.requiresApproval,
      if action ∈ registryKeys then .executable else .policyOnly⟩
  documents : upgraded.documents =
    if "rate_confirmation" ∈ config.intakeTypes.map IntakeTypeConfig.name then
      [("rate_confirmation", freightBinding)]
    else []

/-- A snapshot of version 1 is resolved with its own hash, to its upgrade. -/
def LegacyUpgradePreserves (sha256 : ByteArray → String) (floatText : PyFloat → List Char)
    (config : TenantConfig) (order : MemberOrder) : Prop :=
  ∀ tenantSlug : Option String, (∀ slug ∈ tenantSlug, config.slug = slug) →
    ∃ resolved, resolvePersistedProfile sha256 floatText (.obj (config.legacySnapshot order))
        (profileFingerprint sha256 floatText (config.legacySnapshot order)) tenantSlug =
          .ok resolved ∧
      UpgradedFrom config resolved.config

theorem legacyExecution_eq (action : String) :
    legacyExecution action = if action ∈ registryKeys then .executable else .policyOnly := by
  simp [legacyExecution]

theorem lookup_upgradedPolicy (policy : List (String × ActionRule)) (action : String) :
    (upgradedPolicy policy).lookup action = (policy.lookup action).map (·.upgraded action) := by
  induction policy with
  | nil => rfl
  | cons entry rest ih =>
      rw [upgradedPolicy, List.map_cons, List.lookup_cons, List.lookup_cons]
      cases hkey : action == entry.1 with
      | true =>
          rw [beq_iff_eq.1 hkey]
          rfl
      | false => exact ih

section Checks

variable {config : TenantConfig} {fields : List (String × FieldDefinition)}
  {back : List (String × ActionRule)}

theorem upgradedDocuments_known (intakeTypes : List IntakeTypeConfig) :
    ∀ binding ∈ upgradedDocuments intakeTypes,
      binding = ("rate_confirmation", freightBinding) ∧
        "rate_confirmation" ∈ intakeTypes.map IntakeTypeConfig.name := by
  intro binding hbinding
  unfold upgradedDocuments at hbinding
  split at hbinding
  · rename_i hfreight
    exact ⟨List.mem_singleton.1 hbinding, hfreight⟩
  · cases hbinding

theorem upgradedDocuments_length (intakeTypes : List IntakeTypeConfig) :
    (upgradedDocuments intakeTypes).length ≤ 1 := by
  unfold upgradedDocuments
  split
  · exact le_rfl
  · exact Nat.zero_le 1

/-- With a scenario key the upgraded members pass the checks of a profile. -/
theorem upgraded_valid (hfields : fields.Perm config.fields)
    (hpolicy : back.Perm config.actionPolicy)
    (hscenario : isSafeIdentifier (legacyScenarioKey config.slug) = true) :
    TenantConfig.MembersValid config.slug (legacyScenarioKey config.slug) config.displayName
        config.intakeTypes fields (upgradedPolicy back) (upgradedDocuments config.intakeTypes) ∧
      TenantConfig.ReferencesValid config.intakeTypes fields (upgradedPolicy back)
        (upgradedDocuments config.intakeTypes) config.routing := by
  have hfields' := dictKeys_perm hfields
  have hpolicy' : (dictKeys (upgradedPolicy back)).Perm (dictKeys config.actionPolicy) := by
    rw [upgradedPolicy_keys]
    exact dictKeys_perm hpolicy
  have hdocuments := upgradedDocuments_known config.intakeTypes
  have hlength := upgradedDocuments_length config.intakeTypes
  refine ⟨⟨config.slug_valid, hscenario, config.displayName_nonempty,
      config.intakeTypes_nonempty, ?_, ?_, hfields'.nodup_iff.2 config.fields_nodup,
      hpolicy'.nodup_iff.2 config.actionPolicy_nodup, ?_,
      fun name hname => config.fields_safe name (hfields'.mem_iff.1 hname),
      fun name hname => config.actions_safe name (hpolicy'.mem_iff.1 hname), ?_⟩,
    ⟨config.intakeNames_nodup, ?_, ?_, ?_, ?_⟩⟩
  · rintro rfl
    exact config.fields_nonempty hfields.nil_eq.symm
  · intro hnil
    have hback : back = [] := List.map_eq_nil_iff.1 hnil
    exact config.actionPolicy_nonempty (hback ▸ hpolicy).nil_eq.symm
  · unfold upgradedDocuments
    split <;> decide
  · intro name hname
    obtain ⟨binding, hbinding, rfl⟩ := List.mem_map.1 hname
    rw [(hdocuments binding hbinding).1]
    decide
  · exact fun intake hintake field hfield =>
      hfields'.mem_iff.2 (config.required_known intake hintake field hfield)
  · exact fun action haction => hpolicy'.mem_iff.2 (config.always_known action haction)
  · intro binding hbinding
    obtain ⟨rfl, hfreight⟩ := hdocuments binding hbinding
    exact hfreight
  -- the freight document is the only one, so it is the only default
  · exact (List.length_filter_le _ _).trans hlength

/-- What is validated is the upgrade of the snapshot, and it compiles. -/
theorem upgradedFrom_of_checked (hfields : fields.Perm config.fields)
    (hpolicy : back.Perm config.actionPolicy) {upgraded : TenantConfig}
    (hchecked : TenantConfig.checked config.slug (legacyScenarioKey config.slug)
      config.displayName config.intakeTypes fields (upgradedPolicy back)
      (upgradedDocuments config.intakeTypes) config.routing = some upgraded) :
    UpgradedFrom config upgraded ∧ upgraded.Compilable ∧
      upgraded.scenarioKey = legacyScenarioKey config.slug := by
  unfold TenantConfig.checked at hchecked
  split at hchecked
  · cases hchecked
    have hnodup : (dictKeys config.actionPolicy).Nodup := config.actionPolicy_nodup
    refine ⟨⟨rfl, rfl, rfl, hfields, rfl, fun action => ?_, rfl⟩, ⟨?_, ?_⟩, rfl⟩
    · show (upgradedPolicy back).lookup action = (config.actionPolicy.lookup action).map _
      rw [lookup_upgradedPolicy, lookup_of_perm hpolicy hnodup]
      simp only [ActionRule.upgraded, legacyExecution_eq]
    · intro entry hentry hexecution
      obtain ⟨old, -, rfl⟩ := List.mem_map.1 hentry
      -- only keys of the registry are made executable
      have hmode : legacyExecution old.1 = .executable := hexecution
      rw [legacyExecution_eq] at hmode
      by_contra hunknown
      rw [if_neg hunknown] at hmode
      cases hmode
    · intro entry hentry
      obtain ⟨rfl, -⟩ := upgradedDocuments_known config.intakeTypes entry hentry
      rfl
  · cases hchecked

end Checks

/-- A snapshot that resolves has a slug that can be a scenario key. -/
theorem legacySlug_of_resolved {sha256 : ByteArray → String} {floatText : PyFloat → List Char}
    {config : TenantConfig} {order : MemberOrder}
    (h : LegacyUpgradePreserves sha256 floatText config order) : LegacySlug config.slug := by
  obtain ⟨resolved, hresolved, -⟩ :=
    h none fun slug hslug => absurd hslug (Option.not_mem_none slug)
  obtain ⟨fields, back, hfields, hpolicy, hconfig⟩ := configOfSnapshot_legacy order config
  rw [← legacyScenarioKey_safe_iff config.slug_valid]
  obtain ⟨-, upgraded, _, hchecked, -⟩ := resolvePersistedProfile_eq_ok.1 hresolved
  rw [hconfig] at hchecked
  obtain ⟨-, -, hkey⟩ := upgradedFrom_of_checked hfields hpolicy hchecked
  rw [← hkey]
  exact upgraded.scenarioKey_safe

/-- The upgrade keeps a profile of version 1 exactly if its slug can be made into a
scenario key. -/
theorem legacy_upgrade_preserves_iff (sha256 : ByteArray → String) (floatText : PyFloat → List Char)
    (hhex : ∀ bytes, isSha256 (sha256 bytes) = true) (config : TenantConfig)
    (order : MemberOrder) :
    LegacyUpgradePreserves sha256 floatText config order ↔ LegacySlug config.slug := by
  refine ⟨legacySlug_of_resolved, fun hslug tenantSlug htenant => ?_⟩
  obtain ⟨fields, back, hfields, hpolicy, hconfig⟩ := configOfSnapshot_legacy order config
  have hscenario := (legacyScenarioKey_safe_iff config.slug_valid).2 hslug
  obtain ⟨upgraded, hchecked⟩ : ∃ upgraded, TenantConfig.checked config.slug
      (legacyScenarioKey config.slug) config.displayName config.intakeTypes fields
      (upgradedPolicy back) (upgradedDocuments config.intakeTypes) config.routing =
        some upgraded :=
    ⟨_, dif_pos (upgraded_valid hfields hpolicy hscenario)⟩
  obtain ⟨hupgraded, hcompilable, -⟩ := upgradedFrom_of_checked hfields hpolicy hchecked
  have hfingerprint := hhex (canonicalJsonBytes floatText (config.legacySnapshot order))
  have hcompiled := compileTenantProfile_eq_ok.2 ⟨hfingerprint, hcompilable, rfl⟩
  refine ⟨_, resolvePersistedProfile_eq_ok.2 ⟨⟨hfingerprint, rfl⟩, upgraded, _,
    hconfig.trans hchecked, fun slug hmem => ?_, hcompiled, rfl⟩, hupgraded⟩
  rw [hupgraded.slug]
  exact htenant slug hmem

/-- The hash of the version 1 snapshot of `replyProfile`. -/
def legacyReplySha256 : String :=
  "77a0811f2ef185da086fbe0fd810b90b16a05e6c850131f4c4534fc514034237"

theorem legacy_upgrade_preserves_reply :
    LegacyUpgradePreserves (fun _ => legacyReplySha256) (fun _ => []) replyProfile
      ⟨List.reverse, List.reverse_perm⟩ := by
  have hhex : isSha256 legacyReplySha256 = true := by decide +kernel
  exact (legacy_upgrade_preserves_iff (fun _ => legacyReplySha256) (fun _ => [])
    (fun _ => hhex) replyProfile ⟨List.reverse, List.reverse_perm⟩).2
    ⟨⟨'a', rfl, by decide⟩, by decide⟩

/-- A profile whose slug begins with a digit. -/
def numberedProfile : TenantConfig :=
  { replyProfile with slug := "3pl-north", slug_valid := by decide }

/-- The version 1 snapshot of this profile cannot be resolved. -/
theorem legacy_upgrade_fails_numbered :
    ¬ LegacyUpgradePreserves (fun _ => legacyReplySha256) (fun _ => []) numberedProfile
      ⟨List.reverse, List.reverse_perm⟩ := by
  intro h
  obtain ⟨⟨c, hc, hletter⟩, -⟩ := legacySlug_of_resolved h
  cases hc
  revert hletter
  decide

end IntegraIntake
