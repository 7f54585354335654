import IntegraIntake.Library.Jsonb
import IntegraIntake.Tenants.FieldValues

/-!
# Values that are accepted twice

A value is checked when it is proposed, against the texts it was extracted from,
and again when the command it was frozen in is decided, without any text.  What
the two checks share is `Accepted`: the profile has the field and normalization
keeps the value.  The first check accepts nothing else, and the second accepts
all of it.
-/

namespace IntegraIntake

open Library

variable {checks : ValueChecks} {config : TenantConfig} {source : Option TrustedSource}

/-! ## Names -/

section Names

variable {names : List String}

theorem nodup_eraseDups (names : List String) : names.eraseDups.Nodup := by
  -- the recursion of `eraseDups` is on the filtered rest, which is not longer
  induction hlength : names.length using Nat.strong_induction_on generalizing names with
  | _ n ih =>
      cases names with
      | nil => exact List.nodup_nil
      | cons name rest =>
          rw [List.eraseDups_cons, List.nodup_cons]
          refine ⟨?_, ih _ ?_ _ rfl⟩
          · rw [List.mem_eraseDups, List.mem_filter]
            rintro ⟨-, hne⟩
            simp at hne
          · rw [← hlength, List.length_cons]
            exact Nat.lt_succ_of_le (List.length_filter_le _ _)

theorem eraseDups_of_nodup (h : names.Nodup) : names.eraseDups = names := by
  induction names with
  | nil => rfl
  | cons name rest ih =>
      rw [List.nodup_cons] at h
      have hkept : (rest.filter fun other => !other == name) = rest := by
        refine List.filter_eq_self.2 fun other hother => ?_
        have hne : other ≠ name := fun heq => h.1 (heq ▸ hother)
        simpa using hne
      rw [List.eraseDups_cons, hkept, ih h.2]

end Names

/-! ## Normalization -/

/-- What keeps a value for its text does not change it. -/
theorem eq_of_text_kept {value result : ProposalValueData} {valid : String → Bool}
    (h : (match value.str? with
      | some text => if valid text then some value else none
      | none => none) = some result) : result = value := by
  split at h
  · split at h
    · cases h
      rfl
    · cases h
  · cases h

/-- Normalization accepts a value or refuses it, and never changes one. -/
theorem normalizedValue_eq {definition : FieldDefinition} {value result : ProposalValueData}
    (h : normalizedValue checks definition value = some result) : result = value := by
  unfold normalizedValue at h
  cases hdefinition : definition.type <;> rw [hdefinition] at h <;> dsimp only at h
  case number =>
    split at h <;> cases h <;> rfl
  case boolean =>
    split at h <;> cases h
    rfl
  case multiSelect =>
    split at h
    · split at h <;> cases h
      rfl
    · cases h
  all_goals exact eq_of_text_kept h

/-- The profile has the field, and the value is a present one that
normalization keeps. -/
structure Accepted (checks : ValueChecks) (config : TenantConfig) (name : String)
    (value : ProposalValueData) : Prop where
  name_nonempty : name ≠ ""
  present : proposalValueIsPresent value = true
  normalized : ∃ definition, config.field? name = some definition ∧
    normalizedValue checks definition value = some value

/-- Fields as a frozen command holds them: every name once, with an accepted value. -/
structure FrozenFields (checks : ValueChecks) (config : TenantConfig)
    (fields : List (String × ProposalValueData)) : Prop where
  nodup : (dictKeys fields).Nodup
  accepted : ∀ field ∈ fields, Accepted checks config field.1 field.2

/-! ## The first check -/

/-- The candidate that an item of the proposal gives, from one of the texts that
support it. -/
structure Candidate (checks : ValueChecks) (config : TenantConfig) (body : String)
    (document : Option String) (item : ProposalValue)
    (candidate : String × FieldSource × ProposalValueData) : Prop where
  name_eq : candidate.1 = item.name
  supported : candidate.2.1 ∈ sourceCandidates item body document
  value_eq : candidate.2.2 = item.value
  accepted : Accepted checks config item.name item.value

/-- One turn of the loop collects the candidates of its item. -/
theorem mem_scanField_candidates {body : String} {document : Option String} {scan : FieldScan}
    {item : ProposalValue} {candidate : String × FieldSource × ProposalValueData} :
    candidate ∈ (scanField checks config body document scan item).candidates ↔
      candidate ∈ scan.candidates ∨ Candidate checks config body document item candidate := by
  -- in every branch but the last the item gives no candidate
  have hkept : ¬ Candidate checks config body document item candidate →
      (candidate ∈ scan.candidates ↔
        candidate ∈ scan.candidates ∨ Candidate checks config body document item candidate) :=
    fun hnot => (or_iff_left hnot).symm
  unfold scanField
  split
  · rename_i hfield
    refine hkept fun h => ?_
    obtain ⟨definition, hdefinition, -⟩ := h.accepted.normalized
    rw [hfield] at hdefinition
    cases hdefinition
  rename_i definition hdefinition
  split
  · rename_i habsent
    refine hkept fun h => ?_
    rw [h.accepted.present] at habsent
    cases habsent
  rename_i hpresent
  split
  · rename_i hsources
    refine hkept fun h => ?_
    have hsupported := h.supported
    rw [hsources] at hsupported
    cases hsupported
  split
  · rename_i hrefused
    refine hkept fun h => ?_
    obtain ⟨other, hother, hnormalized⟩ := h.accepted.normalized
    obtain rfl : definition = other := Option.some.inj (hdefinition.symm.trans hother)
    rw [hrefused] at hnormalized
    cases hnormalized
  rename_i value hvalue
  have hsame := normalizedValue_eq hvalue
  subst hsame
  have haccepted : Accepted checks config item.name item.value :=
    ⟨item.name_nonempty, by simpa using hpresent, definition, hdefinition, hvalue⟩
  rw [List.mem_append, List.mem_map]
  refine or_congr_right ⟨?_, fun h => ?_⟩
  · rintro ⟨source, hsource, rfl⟩
    exact ⟨rfl, hsource, rfl, haccepted⟩
  · exact ⟨candidate.2.1, h.supported, by rw [← h.name_eq, ← h.value_eq]⟩

theorem mem_foldl_scanField_candidates {body : String} {document : Option String}
    {items : List ProposalValue} {scan : FieldScan}
    {candidate : String × FieldSource × ProposalValueData} :
    candidate ∈ (items.foldl (scanField checks config body document) scan).candidates ↔
      candidate ∈ scan.candidates ∨
        ∃ item ∈ items, Candidate checks config body document item candidate := by
  induction items generalizing scan with
  | nil => simp
  | cons item rest ih =>
      rw [List.foldl_cons, ih, mem_scanField_candidates, or_assoc]
      simp

/-- The candidates of all items of a proposal. -/
def proposalCandidates (checks : ValueChecks) (items : List ProposalValue) (config : TenantConfig)
    (source : Option TrustedSource) : List (String × FieldSource × ProposalValueData) :=
  (items.foldl (scanField checks config (sourceBody source) (sourceDocument source))
    ⟨[], []⟩).candidates

theorem mem_proposalCandidates {items : List ProposalValue}
    {candidate : String × FieldSource × ProposalValueData} :
    candidate ∈ proposalCandidates checks items config source ↔ ∃ item ∈ items,
      Candidate checks config (sourceBody source) (sourceDocument source) item candidate := by
  rw [proposalCandidates, mem_foldl_scanField_candidates]
  simp

theorem mem_of_chooseCandidate {choices : List (FieldSource × ProposalValueData)}
    {value : ProposalValueData} (h : chooseCandidate choices = some value) :
    ∃ choice ∈ choices, choice.2 = value := by
  obtain ⟨choice, hchoice, rfl⟩ := Option.map_eq_some_iff.1 h
  refine ⟨choice, ?_, rfl⟩
  rcases List.mem_append.1 (List.mem_of_mem_head? hchoice) with hbody | hother
  · exact (List.mem_filter.1 hbody).1
  · exact (List.mem_filter.1 hother).1

/-- A returned value is that of a candidate. -/
theorem mem_validateFields {items : List ProposalValue} {field : String × ProposalValueData}
    (h : field ∈ (validateFields checks items config source).values) :
    ∃ origin, (field.1, origin, field.2) ∈ proposalCandidates checks items config source := by
  rw [validateFields, List.mem_filterMap] at h
  obtain ⟨name, -, hchosen⟩ := h
  obtain ⟨value, hvalue, rfl⟩ := Option.map_eq_some_iff.1 hchosen
  obtain ⟨choice, hchoice, rfl⟩ := mem_of_chooseCandidate hvalue
  obtain ⟨candidate, hcandidate, rfl⟩ := List.mem_map.1 hchoice
  obtain ⟨hmem, hname⟩ := List.mem_filter.1 hcandidate
  have hname : candidate.1 = name := by simpa using hname
  rw [← hname]
  exact ⟨candidate.2.1, hmem⟩

/-- Validation of proposed fields returns accepted values only. -/
theorem validateFields_accepted {items : List ProposalValue} {field : String × ProposalValueData}
    (h : field ∈ (validateFields checks items config source).values) :
    Accepted checks config field.1 field.2 := by
  obtain ⟨origin, hcandidate⟩ := mem_validateFields h
  obtain ⟨item, -, hitem⟩ := mem_proposalCandidates.1 hcandidate
  have hname : field.1 = item.name := hitem.name_eq
  have hvalue : field.2 = item.value := hitem.value_eq
  rw [hname, hvalue]
  exact hitem.accepted

/-- A name with a candidate gets a value. -/
theorem exists_mem_validateFields {items : List ProposalValue}
    {candidate : String × FieldSource × ProposalValueData}
    (h : candidate ∈ proposalCandidates checks items config source) :
    ∃ value, (candidate.1, value) ∈ (validateFields checks items config source).values := by
  have hchoice : candidate.2 ∈ ((proposalCandidates checks items config source).filter
      (·.1 = candidate.1)).map Prod.snd :=
    List.mem_map.2 ⟨candidate, List.mem_filter.2 ⟨h, by simp⟩, rfl⟩
  have hchosen : (chooseCandidate (((proposalCandidates checks items config source).filter
      (·.1 = candidate.1)).map Prod.snd)).isSome := by
    rw [chooseCandidate, Option.isSome_map, List.isSome_head?]
    refine List.ne_nil_of_mem (a := candidate.2) ?_
    rw [List.mem_append, List.mem_filter, List.mem_filter]
    by_cases hbody : candidate.2.1 = .body
    · exact .inl ⟨hchoice, by simpa using hbody⟩
    · exact .inr ⟨hchoice, by simpa using hbody⟩
  obtain ⟨value, hvalue⟩ := Option.isSome_iff_exists.1 hchosen
  refine ⟨value, ?_⟩
  rw [validateFields, List.mem_filterMap]
  refine ⟨candidate.1, List.mem_eraseDups.2 (List.mem_map.2 ⟨candidate, h, rfl⟩), ?_⟩
  exact Option.map_eq_some_iff.2 ⟨value, hvalue, rfl⟩

/-- Each name is returned once. -/
theorem validateFields_nodup (items : List ProposalValue) :
    (dictKeys (validateFields checks items config source).values).Nodup := by
  rw [validateFields, dictKeys, List.map_filterMap]
  refine List.Nodup.filterMap ?_ (nodup_eraseDups _)
  intro first second name hfirst hsecond
  simp only [Option.map_map, Option.mem_def, Option.map_eq_some_iff] at hfirst hsecond
  obtain ⟨_, -, rfl⟩ := hfirst
  obtain ⟨_, -, hsame⟩ := hsecond
  exact hsame.symm

/-- Validation of a proposal gives fields to freeze. -/
theorem validateFields_frozen (items : List ProposalValue) :
    FrozenFields checks config (validateFields checks items config source).values :=
  ⟨validateFields_nodup items, fun _ => validateFields_accepted⟩

/-! ## The second check -/

theorem ProposalScalar.ofJson?_toJson (value : ProposalScalar) :
    ProposalScalar.ofJson? value.toJson = some value := by
  cases value <;> rfl

theorem ProposalValueData.ofJson?_toJson (value : ProposalValueData) :
    ProposalValueData.ofJson? value.toJson = some value := by
  cases value with
  | scalar value => cases value <;> rfl
  | list items =>
      have hitems : (items.map ProposalScalar.toJson).mapM ProposalScalar.ofJson? = some items := by
        induction items with
        | nil => rfl
        | cons item rest ih =>
            rw [List.map_cons, List.mapM_cons, ProposalScalar.ofJson?_toJson, ih]
            rfl
      rw [ProposalValueData.toJson, ProposalValueData.ofJson?, hitems]
      rfl

/-- A proposed value has no dictionary in it, so storing does not change it. -/
theorem ProposalValueData.stored_toJson (order : MemberOrder) (value : ProposalValueData) :
    Json.stored order value.toJson = value.toJson := by
  have hscalar : ∀ scalar : ProposalScalar, Json.stored order scalar.toJson = scalar.toJson := by
    intro scalar
    cases scalar <;> rfl
  cases value with
  | scalar value => exact hscalar value
  | list items =>
      rw [ProposalValueData.toJson, Json.stored_arr, List.map_map]
      congr 1
      exact List.map_congr_left fun item _ => hscalar item

/-- The item that a frozen field becomes. -/
def frozenItem (name : String) (value : ProposalValueData) (hname : name ≠ "") : ProposalValue where
  name := name
  value := value
  source := some .body
  sourceExcerpt := none
  name_nonempty := hname
  excerpt_valid := excerpt_valid_none

theorem frozenValue_toJson {name : String} {value : ProposalValueData} (hname : name ≠ "") :
    frozenValue (name, value.toJson) = some (frozenItem name value hname) := by
  rw [frozenValue, dif_pos hname, ProposalValueData.ofJson?_toJson]
  rfl

/-- One turn of the loop takes an accepted frozen value over. -/
theorem scanField_frozenItem {body : String} {scan : FieldScan} {name : String}
    {value : ProposalValueData} (h : Accepted checks config name value) :
    scanField checks config body none scan (frozenItem name value h.name_nonempty) =
      { scan with candidates := scan.candidates ++ [(name, .body, value)] } := by
  obtain ⟨hname, hpresent, definition, hdefinition, hnormalized⟩ := h
  have hfield : config.field? (frozenItem name value hname).name = some definition := hdefinition
  have hvalue : normalizedValue checks definition (frozenItem name value hname).value =
      some value :=
    hnormalized
  have hthere : proposalValueIsPresent (frozenItem name value hname).value = true := hpresent
  have hsources : sourceCandidates (frozenItem name value hname) body none = [.body] := rfl
  unfold scanField
  simp only [hfield, hthere, hsources, hvalue]
  rfl

/-- The command's `known_fields`. -/
def knownFieldsJson (fields : List (String × ProposalValueData)) : List (String × Json) :=
  fields.map fun field => (field.1, field.2.toJson)

theorem dictKeys_knownFieldsJson (fields : List (String × ProposalValueData)) :
    dictKeys (knownFieldsJson fields) = dictKeys fields := by
  rw [dictKeys, dictKeys, knownFieldsJson, List.map_map]
  rfl

/-- The fields come back from their column in some order. -/
theorem FrozenFields.reloaded {fields : List (String × ProposalValueData)}
    (h : FrozenFields checks config fields) {back : List (String × Json)}
    (hperm : back.Perm (knownFieldsJson fields)) :
    ∃ reloaded, FrozenFields checks config reloaded ∧ knownFieldsJson reloaded = back := by
  obtain ⟨reloaded, hreloaded, hback⟩ := exists_perm_of_perm_map hperm
  exact ⟨reloaded, ⟨(hreloaded.map Prod.fst).nodup_iff.2 h.nodup,
    fun field hfield => h.accepted field (hreloaded.mem_iff.1 hfield)⟩, hback⟩

theorem foldl_scanField_frozen (body : String) {fields : List (String × ProposalValueData)}
    (h : ∀ field ∈ fields, Accepted checks config field.1 field.2) :
    ∃ items, (knownFieldsJson fields).mapM frozenValue = some items ∧
      ∀ scan, items.foldl (scanField checks config body none) scan =
        { scan with candidates := scan.candidates ++
            fields.map fun field => (field.1, .body, field.2) } := by
  induction fields with
  | nil => exact ⟨[], rfl, fun scan => by simp⟩
  | cons field rest ih =>
      obtain ⟨haccepted, hrest⟩ := List.forall_mem_cons.1 h
      obtain ⟨items, hitems, hscan⟩ := ih hrest
      refine ⟨frozenItem field.1 field.2 haccepted.name_nonempty :: items, ?_, fun scan => ?_⟩
      · have hrest : (rest.map fun field => (field.1, field.2.toJson)).mapM frozenValue =
          some items :=
          hitems
        rw [knownFieldsJson, List.map_cons, List.mapM_cons,
          frozenValue_toJson haccepted.name_nonempty, hrest]
        rfl
      · rw [List.foldl_cons, scanField_frozenItem haccepted, hscan]
        simp

theorem filter_name_eq_singleton {fields : List (String × ProposalValueData)}
    (h : (dictKeys fields).Nodup) {field : String × ProposalValueData} (hfield : field ∈ fields) :
    fields.filter (·.1 = field.1) = [field] := by
  induction fields with
  | nil => cases hfield
  | cons first rest ih =>
      rw [dictKeys, List.map_cons, List.nodup_cons] at h
      -- a second field of the same name would repeat the key
      have hfresh : ∀ other ∈ rest, other.1 ≠ first.1 := fun other hother hsame =>
        h.1 (List.mem_map.2 ⟨other, hother, hsame⟩)
      rcases List.mem_cons.1 hfield with rfl | hrest
      · have hnone : rest.filter (·.1 = field.1) = [] :=
          List.filter_eq_nil_iff.2 fun other hother => by simpa using hfresh other hother
        rw [List.filter_cons_of_pos (by simp), hnone]
      · have hne : first.1 ≠ field.1 := (hfresh field hrest).symm
        rw [List.filter_cons_of_neg (by simpa using hne)]
        exact ih h.2 hrest

/-- With every name once, choosing among the candidates gives the fields back. -/
theorem filterMap_chooseCandidate {fields : List (String × ProposalValueData)}
    (h : (dictKeys fields).Nodup) :
    (dictKeys fields).filterMap (fun name => (chooseCandidate
      (((fields.map fun field => (field.1, FieldSource.body, field.2)).filter
        (·.1 = name)).map Prod.snd)).map (name, ·)) = fields := by
  have hchosen : ∀ field ∈ fields, (chooseCandidate
      (((fields.map fun field => (field.1, FieldSource.body, field.2)).filter
        (·.1 = field.1)).map Prod.snd)).map (field.1, ·) = some field := by
    intro field hfield
    have hsingle : (fields.map fun field => (field.1, FieldSource.body, field.2)).filter
        (·.1 = field.1) = [(field.1, FieldSource.body, field.2)] := by
      rw [List.filter_map]
      exact congrArg (List.map _) (filter_name_eq_singleton h hfield)
    rw [hsingle]
    rfl
  rw [dictKeys, List.filterMap_map]
  calc _ = fields.filterMap some := List.filterMap_congr hchosen
    _ = fields := List.filterMap_some

/-- The check of a frozen command accepts its fields, and returns them as they are. -/
theorem FrozenFields.validateFrozenFields_eq {fields : List (String × ProposalValueData)}
    (h : FrozenFields checks config fields) :
    validateFrozenFields checks (knownFieldsJson fields) config source =
      { values := fields, invalidFields := [] } := by
  have hdocument : sourceDocument (source.map fun trusted => { trusted with document := none }) =
      none := by
    cases source <;> rfl
  obtain ⟨items, hitems, hscan⟩ := foldl_scanField_frozen
    (sourceBody (source.map fun trusted => { trusted with document := none })) h.accepted
  have hvalidated : validateFields checks items config
      (source.map fun trusted => { trusted with document := none }) = ⟨fields, []⟩ := by
    have hnames : (fields.map fun field => (field.1, FieldSource.body, field.2)).map Prod.fst =
        dictKeys fields := by
      rw [List.map_map]
      rfl
    unfold validateFields
    rw [hdocument, hscan]
    simp only [List.nil_append, hnames, eraseDups_of_nodup h.nodup,
      filterMap_chooseCandidate h.nodup]
    rfl
  have hunknown : ((dictKeys fields).filter fun name => !(dictKeys config.fields).contains name) =
      [] := by
    refine List.filter_eq_nil_iff.2 fun name hname => ?_
    obtain ⟨field, hfield, rfl⟩ := List.mem_map.1 hname
    obtain ⟨definition, hdefinition, -⟩ := (h.accepted field hfield).normalized
    have hknown : field.1 ∈ dictKeys config.fields :=
      mem_dictKeys_iff.2 (Option.isSome_iff_exists.2 ⟨definition, hdefinition⟩)
    simpa using hknown
  unfold validateFrozenFields
  rw [dictKeys_knownFieldsJson, hitems, hunknown]
  simp only [hvalidated]
  rfl

end IntegraIntake
