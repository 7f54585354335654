import Mathlib.Data.List.Dedup
import Mathlib.Data.List.Sort
import IntegraIntake.Policy.Models

/-!
# Validation of extracted field values

`app/tenants/field_values.py`: which proposed values a profile accepts, and
which names carry a value it refuses.  Two leaf checks come from outside the
repository's own code and enter as predicates: the address check of the Pydantic
`EmailStr` adapter, and whether `datetime.fromisoformat` reads a string as a
time with an offset.
-/

namespace IntegraIntake

open Library

/-- The two leaf checks on strings. -/
structure ValueChecks where
  /-- `_EMAIL_ADAPTER.validate_python` accepts the string. -/
  emailAdapter : String → Bool
  /-- `datetime.fromisoformat` returns a value with an offset. -/
  isoAware : String → Bool

/-- `sorted(names)`, with the names that stand twice. -/
def sorted (names : List String) : List String :=
  names.insertionSort (· ≤ ·)

/-- `sorted(set(names))`. -/
def sortedSet (names : List String) : List String :=
  names.dedup.insertionSort (· ≤ ·)

/-- The string a value is, if it is one. -/
def ProposalValueData.str? : ProposalValueData → Option String
  | .scalar (.str value) => some value
  | _ => none

/-- `_valid_string`. -/
def validString (maximum : ℕ) (value : String) : Bool :=
  !PyString.isBlank value && PyString.len value ≤ maximum

/-- `[A-Za-z0-9]`. -/
def isAlphanumAscii (c : Char) : Bool :=
  ('a' ≤ c && c ≤ 'z') || ('A' ≤ c && c ≤ 'Z') || c.isDigit

/-- `_EMAIL_PATTERN.fullmatch`: one `@`; before it 1 to 64 characters that are
not white space; after it a host of 1 to 254 letters, digits, dots and hyphens
that starts and ends alphanumeric, a dot and 2 to 63 letters. -/
def matchesEmailPattern (value : String) : Bool :=
  match value.toList.splitOn '@' with
  | [localPart, domain] =>
    let tld := (domain.reverse.takeWhile (· != '.')).reverse
    let host := domain.take (domain.length - tld.length - 1)
    1 ≤ localPart.length && localPart.length ≤ 64 &&
      localPart.all (fun c => !PyString.isSpace c) &&
      domain.contains '.' && 2 ≤ tld.length && tld.length ≤ 63 &&
      tld.all (fun c => ('a' ≤ c && c ≤ 'z') || ('A' ≤ c && c ≤ 'Z')) &&
      1 ≤ host.length && host.length ≤ 254 &&
      host.all (fun c => isAlphanumAscii c || c == '.' || c == '-') &&
      (host.head?.elim false isAlphanumAscii) && (host.getLast?.elim false isAlphanumAscii)
  | _ => false

/-- `value.rsplit("@", 1)[-1].lower().endswith(".test")`, on an address that
matches the pattern. -/
def hasTestDomain (value : String) : Bool :=
  ".test".toList.isSuffixOf (value.toList.map Char.toLower)

/-- `_valid_email`: the adapter's verdict, with the reserved `.test` domain let
through. -/
def validEmail (checks : ValueChecks) (value : String) : Bool :=
  validString 320 value &&
    (checks.emailAdapter value || (matchesEmailPattern value && hasTestDomain value))

/-- `_PHONE_PATTERN.fullmatch`. -/
def matchesPhonePattern (value : String) : Bool :=
  3 ≤ PyString.len value && PyString.len value ≤ 50 &&
    value.toList.all fun c =>
    c.isDigit || ['+', '(', ')', '.', '-'].contains c || PyString.isSpace c

/-- `value.replace("Z", "+00:00")`. -/
def replaceZulu (value : String) : String :=
  String.ofList (value.toList.flatMap fun c => if c == 'Z' then "+00:00".toList else [c])

/-- `_normalized_value`; `none` is `_INVALID`. -/
def normalizedValue (checks : ValueChecks) (definition : FieldDefinition)
    (value : ProposalValueData) : Option ProposalValueData :=
  let keepIf (valid : String → Bool) : Option ProposalValueData :=
    match value.str? with
    | some text => if valid text then some value else none
    | none => none
  match definition.type with
  | .shortText => keepIf (validString 500)
  | .longText => keepIf (validString 10000)
  | .email => keepIf (validEmail checks)
  | .phone => keepIf fun text => validString 50 text && matchesPhonePattern text
  | .address => keepIf (validString 1000)
  | .dateTime => keepIf fun text => !PyString.isBlank text && checks.isoAware (replaceZulu text)
  | .number =>
    match value with
    | .scalar (.int _) => some value
    | .scalar (.float _) => some value
    | _ => none
  | .boolean =>
    match value with
    | .scalar (.bool _) => some value
    | _ => none
  | .singleSelect => keepIf fun text => (definition.options.getD []).contains text
  | .multiSelect =>
    match value with
    | .list items =>
      let texts := items.filterMap fun item => match item with
        | .str text => some text
        | _ => none
      if !items.isEmpty && texts.length == items.length && decide texts.Nodup &&
          texts.all (fun text => (definition.options.getD []).contains text)
      then some value else none
    | _ => none

/-- `_source_candidates`: the texts that support an item. -/
def sourceCandidates (item : ProposalValue) (body : String) (document : Option String) :
    List FieldSource :=
  match document with
  | none =>
    if item.source = some .document then []
    else match item.sourceExcerpt with
      | some excerpt => if PyString.contains body excerpt then [.body] else []
      | none => [.body]
  | some text =>
    match item.sourceExcerpt with
    | none => []
    | some excerpt =>
      match item.source with
      | some .body => if PyString.contains body excerpt then [.body] else []
      | some .document => if PyString.contains text excerpt then [.document] else []
      | none =>
        (if PyString.contains body excerpt then [FieldSource.body] else []) ++
          (if PyString.contains text excerpt then [FieldSource.document] else [])

/-- `ValidatedProposalFields`. -/
structure ValidatedProposalFields where
  values : List (String × ProposalValueData)
  invalidFields : List String

/-- The two accumulators of the loop over the proposal's fields: the accepted
candidates in order, and the names with a refused value. -/
structure FieldScan where
  candidates : List (String × FieldSource × ProposalValueData)
  invalid : List String

/-- One turn of the loop in `validate_proposal_fields`. -/
def scanField (checks : ValueChecks) (config : TenantConfig) (body : String)
    (document : Option String) (scan : FieldScan) (item : ProposalValue) : FieldScan :=
  match config.field? item.name with
  | none => scan
  | some definition =>
    if proposalValueIsPresent item.value = false then scan
    else match sourceCandidates item body document with
      | [] => { scan with invalid := scan.invalid ++ [item.name] }
      | sources =>
        match normalizedValue checks definition item.value with
        | none => { scan with invalid := scan.invalid ++ [item.name] }
        | some value =>
          { scan with candidates := scan.candidates ++
              sources.map fun source => (item.name, source, value) }

/-- The choice among the candidates of one name: the sort is stable and puts
the body first. -/
def chooseCandidate (choices : List (FieldSource × ProposalValueData)) : Option ProposalValueData :=
  ((choices.filter (·.1 = .body) ++ choices.filter (·.1 ≠ .body)).head?).map Prod.snd

/-- `body_text`: the text of the inbound message. -/
def sourceBody (source : Option TrustedSource) : String :=
  (source.map TrustedSource.body).getD ""

/-- `document_text`: the text of a readable document. -/
def sourceDocument (source : Option TrustedSource) : Option String :=
  source.bind fun trusted => trusted.document.bind NormalizedDocument.text

/-- The body of `validate_proposal_fields`, which reads only the fields of its
proposal and the profile and source of its runtime. -/
def validateFields (checks : ValueChecks) (fields : List ProposalValue) (config : TenantConfig)
    (source : Option TrustedSource) : ValidatedProposalFields :=
  let scan := fields.foldl (scanField checks config (sourceBody source) (sourceDocument source))
    ⟨[], []⟩
  { values := (scan.candidates.map Prod.fst).eraseDups.filterMap fun name =>
      (chooseCandidate ((scan.candidates.filter (·.1 = name)).map Prod.snd)).map (name, ·)
    invalidFields := sortedSet scan.invalid }

/-- `validate_proposal_fields`. -/
def validateProposalFields (checks : ValueChecks) (proposal : AgentProposal)
    (runtime : TrustedToolRuntimeContext) : ValidatedProposalFields :=
  validateFields checks proposal.fields runtime.tenantConfig runtime.source

theorem sortedSet_eq_nil_iff {names : List String} : sortedSet names = [] ↔ names = [] := by
  rw [← List.length_eq_zero_iff, sortedSet, List.length_insertionSort, List.length_eq_zero_iff,
    List.dedup_eq_nil]

theorem mem_sorted {names : List String} {name : String} :
    name ∈ sorted names ↔ name ∈ names := by
  rw [sorted, List.mem_insertionSort]

theorem mem_sortedSet {names : List String} {name : String} :
    name ∈ sortedSet names ↔ name ∈ names := by
  rw [sortedSet, List.mem_insertionSort, List.mem_dedup]

/-- A sorted set is its own sorted set. -/
theorem sortedSet_idem (names : List String) : sortedSet (sortedSet names) = sortedSet names := by
  have hnodup : (sortedSet names).Nodup :=
    (List.perm_insertionSort _ _).nodup_iff.2 (List.nodup_dedup names)
  have hsorted : (sortedSet names).Pairwise (· ≤ ·) := List.pairwise_insertionSort _ _
  conv_lhs => rw [sortedSet, hnodup.dedup]
  exact hsorted.insertionSort_eq

/-- A value of a profile field, when it is present, has a source that supports
it and the type of the field. -/
def FieldSupported (checks : ValueChecks) (config : TenantConfig) (source : Option TrustedSource)
    (item : ProposalValue) : Prop :=
  ∀ definition, config.field? item.name = some definition →
    proposalValueIsPresent item.value = true →
    sourceCandidates item (sourceBody source) (sourceDocument source) ≠ [] ∧
      (normalizedValue checks definition item.value).isSome

/-- One turn of the loop records its item as invalid exactly when it is not supported. -/
theorem scanField_invalid_eq_nil_iff {checks : ValueChecks} {config : TenantConfig}
    {source : Option TrustedSource} {scan : FieldScan} {item : ProposalValue} :
    (scanField checks config (sourceBody source) (sourceDocument source) scan item).invalid = [] ↔
      scan.invalid = [] ∧ FieldSupported checks config source item := by
  unfold scanField FieldSupported
  cases hfield : config.field? item.name with
  | none => simp
  | some definition =>
      cases hpresent : proposalValueIsPresent item.value with
      | false => simp
      | true =>
          cases hsources : sourceCandidates item (sourceBody source) (sourceDocument source) with
          | nil => simp
          | cons first rest =>
              cases hvalue : normalizedValue checks definition item.value with
              | none => simp [hvalue]
              | some value => simp [hvalue]

theorem foldl_scanField_invalid_eq_nil_iff {checks : ValueChecks} {config : TenantConfig}
    {source : Option TrustedSource} (fields : List ProposalValue) (scan : FieldScan) :
    (fields.foldl (scanField checks config (sourceBody source) (sourceDocument source))
        scan).invalid = [] ↔
      scan.invalid = [] ∧ ∀ item ∈ fields, FieldSupported checks config source item := by
  induction fields generalizing scan with
  | nil => simp
  | cons item rest ih =>
      rw [List.foldl_cons, ih, scanField_invalid_eq_nil_iff, List.forall_mem_cons, and_assoc]

/-- No name is reported invalid exactly when every present value of a profile
field is supported. -/
theorem validateFields_invalidFields_eq_nil_iff {checks : ValueChecks} {fields : List ProposalValue}
    {config : TenantConfig} {source : Option TrustedSource} :
    (validateFields checks fields config source).invalidFields = [] ↔
      ∀ item ∈ fields, FieldSupported checks config source item := by
  rw [validateFields, sortedSet_eq_nil_iff, foldl_scanField_invalid_eq_nil_iff]
  simp

/-! ## Frozen fields -/

/-- The scalar that a JSON value is. -/
def ProposalScalar.ofJson? : Json → Option ProposalScalar
  | .null => some .null
  | .bool value => some (.bool value)
  | .int value => some (.int value)
  | .float value => some (.float value)
  | .str value => some (.str value)
  | _ => none

/-- The value type of `ProposalValue`, validated strictly: nested lists and
dictionaries are refused. -/
def ProposalValueData.ofJson? : Json → Option ProposalValueData
  | .arr items => (items.mapM ProposalScalar.ofJson?).map .list
  | value => (ProposalScalar.ofJson? value).map .scalar

/-- One entry of the proposal that `validate_frozen_fields` builds. -/
def frozenValue (field : String × Json) : Option ProposalValue :=
  if hname : field.1 ≠ "" then
    (ProposalValueData.ofJson? field.2).map fun value =>
      { name := field.1, value := value, source := some .body, sourceExcerpt := none,
        name_nonempty := hname, excerpt_valid := excerpt_valid_none }
  else none

/-- `validate_frozen_fields`: the stored fields are checked as body-origin
values, without the document. -/
def validateFrozenFields (checks : ValueChecks) (fields : List (String × Json))
    (config : TenantConfig) (source : Option TrustedSource) : ValidatedProposalFields :=
  let unknown := (dictKeys fields).filter fun name => !(dictKeys config.fields).contains name
  match fields.mapM frozenValue with
  | none => { values := [], invalidFields := sortedSet (dictKeys fields) }
  | some items =>
    let result := validateFields checks items config
      (source.map fun trusted => { trusted with document := none })
    { values := result.values, invalidFields := sortedSet (result.invalidFields ++ unknown) }

end IntegraIntake
