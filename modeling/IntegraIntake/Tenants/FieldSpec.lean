import IntegraIntake.Tenants.FrozenFields
import IntegraIntake.Tools.ModelInput

/-!
# What validation of proposed fields returns

The result of `validate_proposal_fields` without its loop and its sort.  An item
is `Usable` from one of the two texts if the profile defines its name, its value
is present and of the declared type, and that text supports it.  The value of a
name is that of the first item usable from the body, else of the first usable
from the document (`Chosen`); a name is invalid if one of its present items lacks
support or has the wrong type (`RefusedItem`).
-/

namespace IntegraIntake

open Library

variable {checks : ValueChecks} {config : TenantConfig} {source : Option TrustedSource}

/-! ## Types -/

/-- The values that a field of the profile may hold, type by type. -/
inductive HasType (checks : ValueChecks) (definition : FieldDefinition) :
    ProposalValueData → Prop
  | shortText {text : String} (type_eq : definition.type = .shortText)
      (valid : validString 500 text = true) : HasType checks definition (.scalar (.str text))
  | longText {text : String} (type_eq : definition.type = .longText)
      (valid : validString 10000 text = true) : HasType checks definition (.scalar (.str text))
  | email {text : String} (type_eq : definition.type = .email)
      (valid : validEmail checks text = true) : HasType checks definition (.scalar (.str text))
  | phone {text : String} (type_eq : definition.type = .phone)
      (valid : validString 50 text = true) (matching : matchesPhonePattern text = true) :
      HasType checks definition (.scalar (.str text))
  | address {text : String} (type_eq : definition.type = .address)
      (valid : validString 1000 text = true) : HasType checks definition (.scalar (.str text))
  | dateTime {text : String} (type_eq : definition.type = .dateTime)
      (nonblank : PyString.isBlank text = false)
      (aware : checks.isoAware (replaceZulu text) = true) :
      HasType checks definition (.scalar (.str text))
  | int {value : ℤ} (type_eq : definition.type = .number) :
      HasType checks definition (.scalar (.int value))
  | float {value : PyFloat} (type_eq : definition.type = .number) :
      HasType checks definition (.scalar (.float value))
  | boolean {value : Bool} (type_eq : definition.type = .boolean) :
      HasType checks definition (.scalar (.bool value))
  | singleSelect {text : String} (type_eq : definition.type = .singleSelect)
      (option : text ∈ definition.options.getD []) :
      HasType checks definition (.scalar (.str text))
  /-- At least one option, and none twice. -/
  | multiSelect {texts : List String} (type_eq : definition.type = .multiSelect)
      (nonempty : texts ≠ []) (nodup : texts.Nodup)
      (options : ∀ text ∈ texts, text ∈ definition.options.getD []) :
      HasType checks definition (.list (texts.map .str))

/-- The strings among the items of a list are all of it only if the list holds
nothing else. -/
theorem eq_map_str {items : List ProposalScalar}
    (h : (items.filterMap fun item => match item with
      | .str text => some text
      | _ => none).length = items.length) :
    items = (items.filterMap fun item => match item with
      | .str text => some text
      | _ => none).map ProposalScalar.str := by
  induction items with
  | nil => rfl
  | cons item rest ih =>
      have hle : (rest.filterMap fun item => match item with
          | .str text => some text
          | _ => none).length ≤ rest.length := List.length_filterMap_le _ _
      cases item with
      | str text =>
          simp only [List.filterMap_cons, List.length_cons, Nat.add_right_cancel_iff] at h
          rw [List.filterMap_cons, List.map_cons, ← ih h]
      | null | bool _ | int _ | float _ =>
          simp only [List.filterMap_cons, List.length_cons] at h
          omega

theorem str?_eq_some_iff {value : ProposalValueData} {text : String} :
    value.str? = some text ↔ value = .scalar (.str text) := by
  constructor
  · intro h
    unfold ProposalValueData.str? at h
    split at h
    · cases h
      rfl
    · cases h
  · rintro rfl
    rfl

/-- A value kept by a check of strings is a string that passes it. -/
theorem exists_text_of_kept {value : ProposalValueData} {valid : String → Bool}
    (h : (match value.str? with
      | some text => if valid text then some value else none
      | none => none).isSome) :
    ∃ text, value = .scalar (.str text) ∧ valid text = true := by
  cases htext : value.str? with
  | none =>
      rw [htext] at h
      cases h
  | some text =>
      rw [htext] at h
      refine ⟨text, str?_eq_some_iff.1 htext, ?_⟩
      by_contra hinvalid
      simp [hinvalid] at h

theorem hasType_of_normalizedValue {definition : FieldDefinition} {value : ProposalValueData}
    (h : (normalizedValue checks definition value).isSome) :
    HasType checks definition value := by
  unfold normalizedValue at h
  cases htype : definition.type <;> rw [htype] at h <;> dsimp only at h
  case shortText =>
    obtain ⟨text, rfl, hvalid⟩ := exists_text_of_kept h
    exact .shortText htype hvalid
  case longText =>
    obtain ⟨text, rfl, hvalid⟩ := exists_text_of_kept h
    exact .longText htype hvalid
  case email =>
    obtain ⟨text, rfl, hvalid⟩ := exists_text_of_kept h
    exact .email htype hvalid
  case phone =>
    obtain ⟨text, rfl, hvalid⟩ := exists_text_of_kept h
    rw [Bool.and_eq_true] at hvalid
    exact .phone htype hvalid.1 hvalid.2
  case address =>
    obtain ⟨text, rfl, hvalid⟩ := exists_text_of_kept h
    exact .address htype hvalid
  case dateTime =>
    obtain ⟨text, rfl, hvalid⟩ := exists_text_of_kept h
    rw [Bool.and_eq_true, Bool.not_eq_true'] at hvalid
    exact .dateTime htype hvalid.1 hvalid.2
  case number =>
    split at h
    · exact .int htype
    · exact .float htype
    · cases h
  case boolean =>
    split at h
    · exact .boolean htype
    · cases h
  case singleSelect =>
    obtain ⟨text, rfl, hvalid⟩ := exists_text_of_kept h
    exact .singleSelect htype (List.contains_iff_mem.1 hvalid)
  case multiSelect =>
    split at h
    · rename_i items
      split at h
      · rename_i hvalid
        simp only [Bool.and_eq_true, beq_iff_eq, decide_eq_true_eq, Bool.not_eq_true',
          List.isEmpty_eq_false_iff, List.all_eq_true, List.contains_iff_mem] at hvalid
        obtain ⟨⟨⟨hnonempty, hlength⟩, hnodup⟩, hoptions⟩ := hvalid
        have hitems := eq_map_str hlength
        rw [hitems]
        refine .multiSelect htype (fun hnil => hnonempty ?_) hnodup hoptions
        rw [hitems, hnil]
        rfl
      · cases h
    · cases h

theorem isSome_normalizedValue {definition : FieldDefinition} {value : ProposalValueData}
    (h : HasType checks definition value) :
    (normalizedValue checks definition value).isSome := by
  unfold normalizedValue
  cases h with
  | multiSelect htype hnonempty hnodup hoptions =>
      rw [htype]
      dsimp only
      rw [if_pos]
      · rfl
      · simpa [hnonempty, hnodup] using hoptions
  | dateTime htype hnonblank haware =>
      rw [htype]
      simp [ProposalValueData.str?, hnonblank, haware]
  | phone htype hvalid hmatching =>
      rw [htype]
      simp [ProposalValueData.str?, hvalid, hmatching]
  | singleSelect htype hoption =>
      rw [htype]
      simpa [ProposalValueData.str?] using hoption
  | int htype | float htype | boolean htype =>
      rw [htype]
      rfl
  | shortText htype hvalid | longText htype hvalid | email htype hvalid | address htype hvalid =>
      rw [htype]
      simp [ProposalValueData.str?, hvalid]

/-- Normalization keeps exactly the values of the declared type. -/
theorem isSome_normalizedValue_iff {definition : FieldDefinition} {value : ProposalValueData} :
    (normalizedValue checks definition value).isSome ↔ HasType checks definition value :=
  ⟨hasType_of_normalizedValue, isSome_normalizedValue⟩

/-! ## Support -/

/-- A text supports an item.  Without a document an excerpt is optional, and an
item that claims the document has no support; with one, an excerpt is needed, and
an item that claims no text may be supported by both. -/
def Supports (item : ProposalValue) (body : String) (document : Option String) :
    FieldSource → Prop
  | .body =>
    item.source ≠ some .document ∧ (document.isSome → item.sourceExcerpt.isSome) ∧
      ∀ excerpt ∈ item.sourceExcerpt, PyString.contains body excerpt = true
  | .document =>
    item.source ≠ some .body ∧ ∃ text ∈ document, ∃ excerpt ∈ item.sourceExcerpt,
      PyString.contains text excerpt = true

theorem mem_sourceCandidates {item : ProposalValue} {body : String} {document : Option String}
    {side : FieldSource} :
    side ∈ sourceCandidates item body document ↔ Supports item body document side := by
  have hif : ∀ (condition : Bool) (origin : FieldSource),
      side ∈ (if condition then [origin] else []) ↔ condition = true ∧ side = origin := by
    intro condition origin
    cases condition <;> simp
  unfold sourceCandidates
  cases document with
  | none =>
      by_cases hsource : item.source = some .document
      · rw [if_pos hsource]
        cases side <;> simp [Supports, hsource]
      · rw [if_neg hsource]
        cases hexcerpt : item.sourceExcerpt with
        | none => cases side <;> simp [Supports, hsource, hexcerpt]
        | some excerpt =>
            simp only [hif]
            cases side <;> simp [Supports, hsource, hexcerpt]
  | some text =>
      cases hexcerpt : item.sourceExcerpt with
      | none => cases side <;> simp [Supports, hexcerpt]
      | some excerpt =>
          cases hsource : item.source with
          | none =>
              simp only [List.mem_append, hif]
              cases side <;> simp [Supports, hexcerpt, hsource]
          | some claimed =>
              cases claimed <;> simp only [hif] <;> cases side <;>
                simp [Supports, hexcerpt, hsource]

/-! ## The first of its kind -/

section FirstOf

variable {α : Type} {p : α → Prop} {items front back : List α} {item extra : α}

/-- The first item with a property. -/
def FirstOf (p : α → Prop) (items : List α) (item : α) : Prop :=
  ∃ before after, items = before ++ item :: after ∧ p item ∧ ∀ earlier ∈ before, ¬ p earlier

open Classical in
theorem firstOf_iff_find? : FirstOf p items item ↔ items.find? (fun item => p item) =
    some item := by
  rw [List.find?_eq_some_iff_append]
  constructor
  · rintro ⟨before, after, rfl, hitem, hbefore⟩
    exact ⟨by simpa using hitem, before, after, rfl, fun earlier hearlier => by
      simpa using hbefore earlier hearlier⟩
  · rintro ⟨hitem, before, after, rfl, hbefore⟩
    exact ⟨before, after, rfl, by simpa using hitem, fun earlier hearlier => by
      simpa using hbefore earlier hearlier⟩

theorem FirstOf.mem (h : FirstOf p items item) : item ∈ items ∧ p item := by
  obtain ⟨before, after, rfl, hitem, -⟩ := h
  exact ⟨List.mem_append_right _ List.mem_cons_self, hitem⟩

/-- An item without the property does not change which one is first. -/
theorem firstOf_insert (hextra : ¬ p extra) :
    FirstOf p (front ++ extra :: back) item ↔ FirstOf p (front ++ back) item := by
  rw [firstOf_iff_find?, firstOf_iff_find?, List.find?_append, List.find?_append,
    List.find?_cons_of_neg (by simpa using hextra)]

end FirstOf

/-! ## The values -/

/-- An item of the name that one of the two texts can give a value from. -/
structure Usable (checks : ValueChecks) (config : TenantConfig) (source : Option TrustedSource)
    (name : String) (side : FieldSource) (item : ProposalValue) : Prop where
  name_eq : item.name = name
  present : proposalValueIsPresent item.value = true
  typed : ∃ definition, config.field? name = some definition ∧
    HasType checks definition item.value
  supported : Supports item (sourceBody source) (sourceDocument source) side

/-- What is chosen for a name: the body comes before the document, and within one
text the proposal's order decides. -/
def Chosen (checks : ValueChecks) (config : TenantConfig) (source : Option TrustedSource)
    (items : List ProposalValue) (name : String) (value : ProposalValueData) : Prop :=
  (∃ item, FirstOf (Usable checks config source name .body) items item ∧ item.value = value) ∨
    (∀ item ∈ items, ¬ Usable checks config source name .body item) ∧
      ∃ item, FirstOf (Usable checks config source name .document) items item ∧ item.value = value

/-- The candidates that one item adds. -/
def itemCandidates (checks : ValueChecks) (config : TenantConfig) (source : Option TrustedSource)
    (item : ProposalValue) : List (String × FieldSource × ProposalValueData) :=
  (scanField checks config (sourceBody source) (sourceDocument source) ⟨[], []⟩ item).candidates

/-- The turns of the loop do not look at what is collected. -/
theorem scanField_candidates (scan : FieldScan) (item : ProposalValue) :
    (scanField checks config (sourceBody source) (sourceDocument source) scan item).candidates =
      scan.candidates ++ itemCandidates checks config source item := by
  unfold itemCandidates scanField
  split
  · exact (List.append_nil _).symm
  · split
    · exact (List.append_nil _).symm
    · split
      · exact (List.append_nil _).symm
      · split
        · exact (List.append_nil _).symm
        · rw [List.nil_append]

theorem proposalCandidates_eq_flatMap (items : List ProposalValue) :
    proposalCandidates checks items config source =
      items.flatMap (itemCandidates checks config source) := by
  have hfold : ∀ scan : FieldScan,
      (items.foldl (scanField checks config (sourceBody source) (sourceDocument source))
        scan).candidates = scan.candidates ++
        items.flatMap (itemCandidates checks config source) := by
    induction items with
    | nil => exact fun scan => (List.append_nil _).symm
    | cons item rest ih =>
        intro scan
        rw [List.foldl_cons, ih, scanField_candidates, List.flatMap_cons, List.append_assoc]
  rw [proposalCandidates, hfold, List.nil_append]

/-- The candidate of a name from one text, if an item has it. -/
def sideCandidate (checks : ValueChecks) (config : TenantConfig) (source : Option TrustedSource)
    (name : String) (side : FieldSource) (item : ProposalValue) :
    Option (String × FieldSource × ProposalValueData) :=
  (itemCandidates checks config source item).find? fun candidate =>
    candidate.1 = name ∧ candidate.2.1 = side

theorem sideCandidate_eq_some_iff {name : String} {side : FieldSource} {item : ProposalValue}
    {candidate : String × FieldSource × ProposalValueData} :
    sideCandidate checks config source name side item = some candidate ↔
      Usable checks config source name side item ∧ candidate = (name, side, item.value) := by
  have hmem : ∀ other : String × FieldSource × ProposalValueData,
      other ∈ itemCandidates checks config source item ↔
        Candidate checks config (sourceBody source) (sourceDocument source) item other := by
    intro other
    rw [itemCandidates, mem_scanField_candidates]
    simp
  -- what is found is one of the item's candidates, and all of these have its value
  have hfound : ∀ other, sideCandidate checks config source name side item = some other →
      Usable checks config source name side item ∧ other = (name, side, item.value) := by
    intro other h
    obtain ⟨hname, hside⟩ : other.1 = name ∧ other.2.1 = side := by
      simpa using List.find?_some h
    obtain ⟨hitem, hsupported, hvalue, haccepted⟩ := (hmem other).1 (List.mem_of_find?_eq_some h)
    obtain ⟨definition, hdefinition, hnormalized⟩ := haccepted.normalized
    have htyped : HasType checks definition item.value := by
      rw [← isSome_normalizedValue_iff, hnormalized]
      rfl
    refine ⟨⟨hitem.symm.trans hname, haccepted.present, ⟨definition, ?_, htyped⟩, ?_⟩, ?_⟩
    · rwa [← hname, hitem]
    · rwa [← mem_sourceCandidates, ← hside]
    · rw [← hname, ← hside, ← hvalue]
  constructor
  · exact hfound candidate
  · rintro ⟨husable, rfl⟩
    obtain ⟨rfl, hpresent, ⟨definition, hdefinition, htyped⟩, hsupported⟩ := husable
    obtain ⟨kept, hkept⟩ := Option.isSome_iff_exists.1 (isSome_normalizedValue_iff.2 htyped)
    have hsame := normalizedValue_eq hkept
    subst hsame
    have hcandidate : (item.name, side, item.value) ∈ itemCandidates checks config source item :=
      (hmem _).2 ⟨rfl, mem_sourceCandidates.2 hsupported, rfl,
        item.name_nonempty, hpresent, definition, hdefinition, hkept⟩
    have hsome : (sideCandidate checks config source item.name side item).isSome :=
      List.find?_isSome.2 ⟨_, hcandidate, by simp⟩
    obtain ⟨other, hother⟩ := Option.isSome_iff_exists.1 hsome
    rw [hother, (hfound other hother).2]

theorem sideCandidate_eq_none_iff {name : String} {side : FieldSource} {item : ProposalValue} :
    sideCandidate checks config source name side item = none ↔
      ¬ Usable checks config source name side item := by
  rw [Option.eq_none_iff_forall_ne_some]
  constructor
  · exact fun h husable => h _ (sideCandidate_eq_some_iff.2 ⟨husable, rfl⟩)
  · exact fun h candidate hsome => h (sideCandidate_eq_some_iff.1 hsome).1

/-- The first candidate from a text is that of the first usable item. -/
theorem find?_proposalCandidates {items : List ProposalValue} {name : String} {side : FieldSource}
    {value : ProposalValueData} :
    ((proposalCandidates checks items config source).find? fun candidate =>
        candidate.1 = name ∧ candidate.2.1 = side).map (·.2.2) = some value ↔
      ∃ item, FirstOf (Usable checks config source name side) items item ∧ item.value = value := by
  rw [proposalCandidates_eq_flatMap, List.find?_flatMap, Option.map_eq_some_iff]
  change (∃ candidate, items.findSome? (sideCandidate checks config source name side) =
    some candidate ∧ _) ↔ _
  constructor
  · rintro ⟨candidate, hcandidate, rfl⟩
    obtain ⟨before, item, after, rfl, hitem, hbefore⟩ := List.findSome?_eq_some_iff.1 hcandidate
    obtain ⟨husable, rfl⟩ := sideCandidate_eq_some_iff.1 hitem
    exact ⟨item, ⟨before, after, rfl, husable, fun earlier hearlier =>
      sideCandidate_eq_none_iff.1 (hbefore earlier hearlier)⟩, rfl⟩
  · rintro ⟨item, ⟨before, after, rfl, husable, hbefore⟩, rfl⟩
    refine ⟨(name, side, item.value), List.findSome?_eq_some_iff.2 ?_, rfl⟩
    exact ⟨before, item, after, rfl, sideCandidate_eq_some_iff.2 ⟨husable, rfl⟩,
      fun earlier hearlier => sideCandidate_eq_none_iff.2 (hbefore earlier hearlier)⟩

/-- Validation returns exactly what is chosen. -/
theorem mem_values_iff {items : List ProposalValue} {name : String} {value : ProposalValueData} :
    (name, value) ∈ (validateFields checks items config source).values ↔
      Chosen checks config source items name value := by
  -- the stable sort brings the first candidate from the body to the front, if there is one
  have hchoose : chooseCandidate (((proposalCandidates checks items config source).filter
      (·.1 = name)).map Prod.snd) =
      (((proposalCandidates checks items config source).find? fun candidate =>
        candidate.1 = name ∧ candidate.2.1 = .body).map (·.2.2)).or
        (((proposalCandidates checks items config source).find? fun candidate =>
          candidate.1 = name ∧ candidate.2.1 = .document).map (·.2.2)) := by
    have hdocument : ∀ side : FieldSource, decide (side ≠ .body) = decide (side = .document) := by
      intro side
      cases side <;> rfl
    simp only [chooseCandidate, List.head?_append, List.head?_filter, List.find?_map,
      List.find?_filter, Option.map_or, Option.map_map, Function.comp_def, hdocument,
      decide_eq_true_eq]
  have hvalues : (name, value) ∈ (validateFields checks items config source).values ↔
      chooseCandidate (((proposalCandidates checks items config source).filter
        (·.1 = name)).map Prod.snd) = some value := by
    constructor
    · intro h
      rw [validateFields, List.mem_filterMap] at h
      obtain ⟨other, -, hchosen⟩ := h
      obtain ⟨found, hfound, hpair⟩ := Option.map_eq_some_iff.1 hchosen
      cases hpair
      exact hfound
    · intro h
      obtain ⟨choice, hchoice, -⟩ := mem_of_chooseCandidate h
      obtain ⟨candidate, hcandidate, -⟩ := List.mem_map.1 hchoice
      obtain ⟨hmem, hname⟩ := List.mem_filter.1 hcandidate
      have hname : candidate.1 = name := by simpa using hname
      rw [validateFields, List.mem_filterMap]
      refine ⟨name, List.mem_eraseDups.2 (List.mem_map.2 ⟨candidate, hmem, hname⟩), ?_⟩
      exact Option.map_eq_some_iff.2 ⟨value, h, rfl⟩
  have hnone : ((proposalCandidates checks items config source).find? fun candidate =>
      candidate.1 = name ∧ candidate.2.1 = .body).map (·.2.2) = none ↔
      ∀ item ∈ items, ¬ Usable checks config source name .body item := by
    rw [proposalCandidates_eq_flatMap, List.find?_flatMap, Option.map_eq_none_iff,
      List.findSome?_eq_none_iff]
    exact forall₂_congr fun item _ => sideCandidate_eq_none_iff
  rw [hvalues, hchoose, Option.or_eq_some_iff, find?_proposalCandidates, hnone,
    find?_proposalCandidates]
  rfl

/-! ## The invalid names -/

/-- An item of a defined name, present and without support or of the wrong type. -/
structure RefusedItem (checks : ValueChecks) (config : TenantConfig) (source : Option TrustedSource)
    (name : String) (item : ProposalValue) : Prop where
  name_eq : item.name = name
  present : proposalValueIsPresent item.value = true
  refused : ∃ definition, config.field? name = some definition ∧
    ((∀ side, ¬ Supports item (sourceBody source) (sourceDocument source) side) ∨
      ¬ HasType checks definition item.value)

/-- One turn of the loop adds the name of its item exactly when the item is refused. -/
theorem mem_scanField_invalid {scan : FieldScan} {item : ProposalValue} {name : String} :
    name ∈ (scanField checks config (sourceBody source) (sourceDocument source) scan
        item).invalid ↔
      name ∈ scan.invalid ∨ RefusedItem checks config source name item := by
  have hkept : ¬ RefusedItem checks config source name item → (name ∈ scan.invalid ↔
      name ∈ scan.invalid ∨ RefusedItem checks config source name item) :=
    fun hnot => (or_iff_left hnot).symm
  have hadded : RefusedItem checks config source item.name item →
      (name ∈ scan.invalid ++ [item.name] ↔
      name ∈ scan.invalid ∨ RefusedItem checks config source name item) := by
    intro hrefused
    rw [List.mem_append, List.mem_singleton]
    refine or_congr_right ⟨?_, fun h => h.name_eq.symm⟩
    rintro rfl
    exact hrefused
  unfold scanField
  split
  · rename_i hfield
    refine hkept fun h => ?_
    obtain ⟨definition, hdefinition, -⟩ := h.refused
    rw [← h.name_eq, hfield] at hdefinition
    cases hdefinition
  rename_i definition hdefinition
  split
  · rename_i habsent
    refine hkept fun h => ?_
    rw [h.present] at habsent
    cases habsent
  rename_i hpresent
  have hthere : proposalValueIsPresent item.value = true := by simpa using hpresent
  split
  · rename_i hsources
    refine hadded ⟨rfl, hthere, definition, hdefinition, .inl fun side hside => ?_⟩
    rw [← mem_sourceCandidates, hsources] at hside
    cases hside
  rename_i hsources
  split
  · rename_i hvalue
    refine hadded ⟨rfl, hthere, definition, hdefinition, .inr fun htyped => ?_⟩
    rw [← isSome_normalizedValue_iff, hvalue] at htyped
    cases htyped
  rename_i value hvalue
  refine hkept fun h => ?_
  obtain ⟨other, hother, hrefused⟩ := h.refused
  rw [← h.name_eq] at hother
  obtain rfl : definition = other := Option.some.inj (hdefinition.symm.trans hother)
  rcases hrefused with hunsupported | hmistyped
  · obtain ⟨side, hside⟩ := List.exists_mem_of_ne_nil _ hsources
    exact hunsupported side (mem_sourceCandidates.1 hside)
  · refine hmistyped (isSome_normalizedValue_iff.1 ?_)
    rw [hvalue]
    rfl

theorem mem_invalidFields_iff {items : List ProposalValue} {name : String} :
    name ∈ (validateFields checks items config source).invalidFields ↔
      ∃ item ∈ items, RefusedItem checks config source name item := by
  have hfold : ∀ scan : FieldScan,
      name ∈ (items.foldl (scanField checks config (sourceBody source) (sourceDocument source))
        scan).invalid ↔
        name ∈ scan.invalid ∨ ∃ item ∈ items, RefusedItem checks config source name item := by
    induction items with
    | nil => simp
    | cons item rest ih =>
        intro scan
        rw [List.foldl_cons, ih, mem_scanField_invalid, or_assoc]
        simp
  rw [validateFields, mem_sortedSet, hfold]
  simp

theorem sortedSet_strict (names : List String) : (sortedSet names).Pairwise (· < ·) := by
  have hnodup : (sortedSet names).Nodup :=
    (List.perm_insertionSort _ _).nodup_iff.2 (List.nodup_dedup names)
  have hsorted : (sortedSet names).Pairwise (· ≤ ·) := List.pairwise_insertionSort _ _
  exact hsorted.imp₂ (fun _ _ hle hne => Std.lt_of_le_of_ne hle hne) hnodup

/-! ## The whole result -/

/-- A value that the body supports does not depend on items it does not support. -/
theorem chosen_insert {front back : List ProposalValue} {extra : ProposalValue} {name : String}
    {value : ProposalValueData}
    (hextra : ¬ Supports extra (sourceBody source) (sourceDocument source) .body)
    (hbody : ∃ item ∈ front ++ back, Usable checks config source name .body item) :
    Chosen checks config source (front ++ extra :: back) name value ↔
      Chosen checks config source (front ++ back) name value := by
  obtain ⟨item, hitem, husable⟩ := hbody
  have hitem' : item ∈ front ++ extra :: back := by
    rcases List.mem_append.1 hitem with hfront | hback
    · exact List.mem_append_left _ hfront
    · exact List.mem_append_right _ (List.mem_cons_of_mem _ hback)
  have hnot : ¬ Usable checks config source name .body extra := fun h => hextra h.supported
  unfold Chosen
  rw [or_iff_left fun h => h.1 item hitem' husable, or_iff_left fun h => h.1 item hitem husable]
  exact exists_congr fun first => and_congr_left fun _ => firstOf_insert hnot

/-- `validate_proposal_fields`, as a specification.  The values are the chosen
ones, each name once; the invalid names are the refused ones, in order and each
once; both are names of the profile; and no item without support in the body
changes a value that the body supports. -/
theorem validate_proposal_fields_spec (checks : ValueChecks) (proposal : AgentProposal)
    (runtime : TrustedToolRuntimeContext) :
    (∀ name value, (name, value) ∈ (validateProposalFields checks proposal runtime).values ↔
        Chosen checks runtime.tenantConfig runtime.source proposal.fields name value) ∧
      (dictKeys (validateProposalFields checks proposal runtime).values).Nodup ∧
      (∀ name, name ∈ (validateProposalFields checks proposal runtime).invalidFields ↔
        ∃ item ∈ proposal.fields,
          RefusedItem checks runtime.tenantConfig runtime.source name item) ∧
      (validateProposalFields checks proposal runtime).invalidFields.Pairwise (· < ·) ∧
      (∀ name, runtime.tenantConfig.field? name = none →
        name ∉ dictKeys (validateProposalFields checks proposal runtime).values ∧
          name ∉ (validateProposalFields checks proposal runtime).invalidFields) ∧
      ∀ (other : AgentProposal) (front back : List ProposalValue) (extra : ProposalValue),
        proposal.fields = front ++ back → other.fields = front ++ extra :: back →
        ¬ Supports extra (sourceBody runtime.source) (sourceDocument runtime.source) .body →
        ∀ name, (∃ item ∈ proposal.fields,
            Usable checks runtime.tenantConfig runtime.source name .body item) →
          ∀ value, (name, value) ∈ (validateProposalFields checks other runtime).values ↔
            (name, value) ∈ (validateProposalFields checks proposal runtime).values := by
  refine ⟨fun _ _ => mem_values_iff, validateFields_nodup _, fun _ => mem_invalidFields_iff,
    sortedSet_strict _, fun name hundefined => ⟨fun hname => ?_, fun hname => ?_⟩, ?_⟩
  · obtain ⟨⟨_, value⟩, hvalue, rfl⟩ := List.mem_map.1 hname
    obtain ⟨definition, hdefinition, -⟩ := (validateFields_accepted hvalue).normalized
    rw [hundefined] at hdefinition
    cases hdefinition
  · obtain ⟨item, -, hrefused⟩ := mem_invalidFields_iff.1 hname
    obtain ⟨definition, hdefinition, -⟩ := hrefused.refused
    rw [hundefined] at hdefinition
    cases hdefinition
  · intro other front back extra hfields hother hextra name hbody value
    rw [hfields] at hbody
    unfold validateProposalFields
    rw [mem_values_iff, mem_values_iff, hfields, hother]
    exact chosen_insert hextra hbody

/-! ## A message and its attachment -/

theorem excerpt_valid_open :
    ∀ excerpt ∈ some "open", PyString.len excerpt ≤ 500 ∧ PyString.isBlank excerpt = false := by
  rintro excerpt ⟨⟩
  exact ⟨by decide, by decide⟩

def askedItem : ProposalValue :=
  ⟨"message", .scalar (.str "open?"), some .body, some "open", message_nonempty, excerpt_valid_open⟩

def attachedItem : ProposalValue :=
  ⟨"message", .scalar (.str "closed"), some .document, some "open", message_nonempty,
  excerpt_valid_open⟩

theorem text_valid_open :
    ∀ value ∈ some "We open late.", PyString.isBlank value = false ∧
      PyString.len value ≤ maxDocumentTextChars := by
  rintro value ⟨⟩
  exact ⟨by decide, by decide⟩

/-- The reply runtime with a readable document attached to its message. -/
def attachedRuntime : TrustedToolRuntimeContext :=
  { replyRuntime with
    source := some ⟨"email", "Hello", "When do you open?", some
      ⟨"notice", "question", .pdf, replyFingerprint, "plain", 1, some "We open late.", none,
        by decide, question_safe, by decide, by decide, Nat.one_pos, text_valid_open, by decide⟩,
      none⟩ }

def askedProposal : AgentProposal :=
  { replyProposal with fields := [askedItem], fields_nodup := List.nodup_singleton _ }

def attachedProposal : AgentProposal :=
  { replyProposal with
    fields := [attachedItem, askedItem]
    fields_nodup := by decide }

theorem askedItem_usable :
    Usable noChecks attachedRuntime.tenantConfig attachedRuntime.source "message" .body
      askedItem where
  name_eq := rfl
  present := by decide
  typed := ⟨_, rfl, .longText rfl (by decide)⟩
  supported := by
    refine ⟨by decide, fun _ => rfl, ?_⟩
    rintro excerpt ⟨⟩
    decide

/-- The question keeps its value when the attachment gives another. -/
theorem validate_proposal_fields_spec_attached :
    ("message", .scalar (.str "open?")) ∈
      (validateProposalFields noChecks attachedProposal attachedRuntime).values := by
  obtain ⟨hvalues, -, -, -, -, hinsert⟩ :=
    validate_proposal_fields_spec noChecks askedProposal attachedRuntime
  have hextra : ¬ Supports attachedItem (sourceBody attachedRuntime.source)
      (sourceDocument attachedRuntime.source) .body := fun h => h.1 rfl
  refine (hinsert attachedProposal [] [askedItem] attachedItem rfl rfl hextra "message"
    ⟨askedItem, List.mem_singleton_self _, askedItem_usable⟩ _).2 ((hvalues _ _).2 (.inl ?_))
  exact ⟨askedItem, ⟨[], [], rfl, askedItem_usable, by simp⟩, rfl⟩

end IntegraIntake
