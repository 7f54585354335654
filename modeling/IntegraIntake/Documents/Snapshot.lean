import IntegraIntake.Cases.Repository
import IntegraIntake.Intake.Enqueue
import IntegraIntake.Library.JsonDecode

/-!
# Sources as JSON

A job keeps its trusted source as JSON, the document included.  This is the decoder
of `app/documents/legacy.py`, for the snapshots of documents of both versions, and
what comes back from a job: the source that was written.
-/

namespace IntegraIntake

open Library

/-! ## Documents -/

/-- Every media type. -/
def DocumentMediaType.all : List DocumentMediaType := [.text, .pdf]

/-- Every extraction error. -/
def DocumentExtractionError.all : List DocumentExtractionError :=
  [.unsupportedMediaType, .documentTooLarge, .documentTextTooLarge, .pdfMalformed, .pdfEncrypted,
    .pdfEmpty, .documentTextEmpty, .documentProcessingTimeout]

theorem DocumentMediaType.mem_all (mediaType : DocumentMediaType) :
    mediaType ∈ DocumentMediaType.all := by
  cases mediaType <;> decide

theorem DocumentExtractionError.mem_all (error : DocumentExtractionError) :
    error ∈ DocumentExtractionError.all := by
  cases error <;> decide

/-- The checks of `NormalizedDocument`. -/
def NormalizedDocument.checked (documentKind targetIntakeType : String)
    (mediaType : DocumentMediaType) (sha256 normalizerKey : String) (normalizerVersion : ℕ)
    (text : Option String) (extractionError : Option DocumentExtractionError) :
    Option NormalizedDocument :=
  if h : (isSafeIdentifier documentKind = true ∧ isSafeIdentifier targetIntakeType = true ∧
      isSha256 sha256 = true ∧ isSafeIdentifier normalizerKey = true ∧ 1 ≤ normalizerVersion) ∧
      (∀ value ∈ text, PyString.isBlank value = false ∧
        PyString.len value ≤ maxDocumentTextChars) ∧ text.isNone ≠ extractionError.isNone then
    some {
      documentKind, targetIntakeType, mediaType, sha256, normalizerKey, normalizerVersion, text,
      extractionError
      kind_safe := h.1.1
      target_safe := h.1.2.1
      sha256_valid := h.1.2.2.1
      normalizerKey_safe := h.1.2.2.2.1
      version_pos := h.1.2.2.2.2
      text_valid := h.2.1
      text_xor_error := h.2.2 }
  else none

/-- `NormalizedDocument.model_validate`. -/
def NormalizedDocument.modelValidate (value : Json) : Option NormalizedDocument := do
  let members ← Json.modelOf ["snapshot_version", "document_kind", "target_intake_type",
    "media_type", "sha256", "normalizer_key", "normalizer_version", "text",
    "extraction_error"] value
  let _ ← Json.fieldOr () (Json.literalInt 2) "snapshot_version" members
  let documentKind ← Json.field Json.asStr? "document_kind" members
  let targetIntakeType ← Json.field Json.asStr? "target_intake_type" members
  let mediaType ← Json.field (Json.enumOf DocumentMediaType.all DocumentMediaType.value)
    "media_type" members
  let sha256 ← Json.field Json.asStr? "sha256" members
  let normalizerKey ← Json.field Json.asStr? "normalizer_key" members
  let normalizerVersion ← Json.field Json.asPositive? "normalizer_version" members
  let text ← Json.fieldOr none (Json.optionOf Json.asStr?) "text" members
  let extractionError ← Json.fieldOr none
    (Json.optionOf (Json.enumOf DocumentExtractionError.all DocumentExtractionError.value))
    "extraction_error" members
  NormalizedDocument.checked documentKind targetIntakeType mediaType sha256 normalizerKey
    normalizerVersion text extractionError

/-- `decode_legacy_normalized_document`: a document of version 1 is a rate
confirmation. -/
def decodeLegacyNormalizedDocument (value : Json) : Option NormalizedDocument := do
  let members ← Json.modelOf ["kind", "media_type", "sha256", "parser_version", "text",
    "extraction_error"] value
  let _ ← Json.fieldOr () (Json.literalStr "rate_confirmation") "kind" members
  let mediaType ← Json.field (Json.enumOf DocumentMediaType.all DocumentMediaType.value)
    "media_type" members
  let sha256 ← Json.field Json.asStr? "sha256" members
  let _ ← Json.fieldOr () (Json.literalStr "rate_confirmation_document.v1") "parser_version" members
  let text ← Json.fieldOr none (Json.optionOf Json.asStr?) "text" members
  let extractionError ← Json.fieldOr none
    (Json.optionOf (Json.enumOf DocumentExtractionError.all DocumentExtractionError.value))
    "extraction_error" members
  NormalizedDocument.checked "rate_confirmation" "rate_confirmation" mediaType sha256
    "bounded_text_pdf" 1 text extractionError

/-- `decode_document_snapshot`. -/
def decodeDocumentSnapshot (value : Json) : Option NormalizedDocument :=
  if (value.get? "snapshot_version").any (·.pyEq (.int 2)) then
    NormalizedDocument.modelValidate value
  else decodeLegacyNormalizedDocument value

/-! ## What comes back -/

/-- A document as the JSON of its dump. -/
def NormalizedDocument.members (document : NormalizedDocument) : List (String × Json) :=
  [("snapshot_version", .int 2), ("document_kind", .str document.documentKind),
    ("target_intake_type", .str document.targetIntakeType),
    ("media_type", .str document.mediaType.value), ("sha256", .str document.sha256),
    ("normalizer_key", .str document.normalizerKey),
    ("normalizer_version", .int document.normalizerVersion),
    ("text", (document.text.map Json.str).getD .null),
    ("extraction_error",
      (document.extractionError.map fun error => Json.str error.value).getD .null)]

theorem modelDump_toJson (document : NormalizedDocument) :
    (Plain.obj document.modelDump).toJson = .obj document.members := by
  have htext : ((document.text.map Plain.str).getD .null).toJson =
      (document.text.map Json.str).getD .null := by
    cases document.text <;> rfl
  have herror : ((document.extractionError.map fun error => Plain.str error.value).getD
      .null).toJson =
      (document.extractionError.map fun error => Json.str error.value).getD .null := by
    cases document.extractionError <;> rfl
  simp only [NormalizedDocument.modelDump, NormalizedDocument.members, Plain.toJson,
    Plain.toJsonMembers, htext, herror]
  rfl

section Restores

variable {order : MemberOrder}

/-- A document is decoded from what is stored of its dump. -/
theorem NormalizedDocument.restores (document : NormalizedDocument) :
    Json.Restores order decodeDocumentSnapshot (.obj document.members) document := by
  have hnodup : (document.members.map Prod.fst).Nodup := by simp [members]
  have hnames : ∀ name ∈ document.members.map Prod.fst, name ∈ ["snapshot_version",
      "document_kind", "target_intake_type", "media_type", "sha256", "normalizer_key",
      "normalizer_version", "text", "extraction_error"] := by simp [members]
  have hversion : Json.fieldOr () (Json.literalInt 2) "snapshot_version"
      (Json.backMembers order document.members) = some () :=
    Json.fieldOr_stored order "snapshot_version" hnodup rfl (Json.restores_literalInt 2)
  have hkind := Json.field_stored order "document_kind" hnodup rfl
    (Json.restores_str document.documentKind)
  have htarget := Json.field_stored order "target_intake_type" hnodup rfl
    (Json.restores_str document.targetIntakeType)
  have hmedia := Json.field_stored order "media_type" hnodup rfl
    (Json.restores_enum DocumentMediaType.value_injective
      (DocumentMediaType.mem_all document.mediaType))
  have hsha := Json.field_stored order "sha256" hnodup rfl (Json.restores_str document.sha256)
  have hkey := Json.field_stored order "normalizer_key" hnodup rfl
    (Json.restores_str document.normalizerKey)
  have hnormalizer := Json.field_stored order "normalizer_version" hnodup rfl
    (Json.restores_positive document.version_pos)
  have htext : Json.fieldOr none (Json.optionOf Json.asStr?) "text"
      (Json.backMembers order document.members) = some document.text :=
    Json.fieldOr_stored order "text" hnodup rfl
      (Json.restores_option (fun text _ => Json.restores_str text) fun _ => nofun)
  have herror : Json.fieldOr none
      (Json.optionOf (Json.enumOf DocumentExtractionError.all DocumentExtractionError.value))
      "extraction_error" (Json.backMembers order document.members) =
        some document.extractionError :=
    Json.fieldOr_stored order "extraction_error" hnodup rfl
      (Json.restores_option (fun error _ => Json.restores_enum
        DocumentExtractionError.value_injective (DocumentExtractionError.mem_all error))
        fun _ => nofun)
  have hcurrent : ((Json.stored order (.obj document.members)).get? "snapshot_version").any
      (·.pyEq (.int 2)) = true := by
    rw [Json.stored_obj_eq, Json.get?, Json.lookup_backMembers order hnodup]
    rfl
  unfold Json.Restores decodeDocumentSnapshot NormalizedDocument.modelValidate
  rw [if_pos hcurrent]
  simp only [Json.modelOf_stored order hnodup hnames, hversion, hkind, htarget, hmedia, hsha, hkey,
    hnormalizer, htext, herror, Option.bind_eq_bind, Option.bind_some]
  exact dif_pos ⟨⟨document.kind_safe, document.target_safe, document.sha256_valid,
    document.normalizerKey_safe, document.version_pos⟩, document.text_valid,
    document.text_xor_error⟩

end Restores

/-- The members of a source snapshot. -/
def TrustedSource.members (source : TrustedSource) : List (String × Json) :=
  [("channel", .str source.channel), ("subject", .str source.subject),
      ("body", .str source.body)] ++
    (source.sender.map fun sender => ("sender", Json.str sender)).toList ++
    (source.document.map fun document => ("document", Json.obj document.members)).toList

theorem sourceSnapshot_eq (source : TrustedSource) :
    sourceSnapshot source = .obj source.members := by
  obtain ⟨channel, subject, body, document, sender⟩ := source
  cases sender <;> cases document <;>
    simp [sourceSnapshot, TrustedSource.members, optionalMember, Plain.toJson, Plain.toJsonMembers,
      ← modelDump_toJson]

theorem sourceMembers_nodup (source : TrustedSource) : (source.members.map Prod.fst).Nodup := by
  obtain ⟨channel, subject, body, document, sender⟩ := source
  cases sender <;> cases document <;> simp [TrustedSource.members]

theorem sourceMembers_known (source : TrustedSource) : ∀ name ∈ source.members.map Prod.fst,
    name ∈ ["channel", "subject", "body", "document", "sender"] := by
  obtain ⟨channel, subject, body, document, sender⟩ := source
  cases sender <;> cases document <;> simp [TrustedSource.members]

/-- The source that a job was created with comes back from its snapshot. -/
theorem trustedSourceFromSnapshot_stored (order : MemberOrder) (source : TrustedSource) :
    trustedSourceFromSnapshot decodeDocumentSnapshot
      (Json.stored order (sourceSnapshot source)) = some source := by
  have hlookup := Json.lookup_backMembers order (sourceMembers_nodup source)
  have hkeys := Json.backMembers_keys order source.members
  have hrequired : (["channel", "subject", "body"].all fun name =>
      (dictKeys (Json.backMembers order source.members)).contains name) = true := by
    rw [List.all_eq_true]
    intro name hname
    rw [List.contains_iff_mem]
    refine hkeys.mem_iff.2 ?_
    have hfirst : source.members.map Prod.fst = ["channel", "subject", "body"] ++ _ := rfl
    rw [hfirst]
    exact List.mem_append_left _ hname
  have hknown : ((dictKeys (Json.backMembers order source.members)).all fun name =>
      ["channel", "subject", "body", "document", "sender"].contains name) = true := by
    rw [List.all_eq_true]
    intro name hname
    rw [List.contains_iff_mem]
    exact sourceMembers_known source name (hkeys.mem_iff.1 hname)
  have hchannel : (Json.backMembers order source.members).lookup "channel" =
      some (.str source.channel) := by
    rw [hlookup]
    rfl
  have hsubject : (Json.backMembers order source.members).lookup "subject" =
      some (.str source.subject) := by
    rw [hlookup]
    rfl
  have hbody : (Json.backMembers order source.members).lookup "body" =
      some (.str source.body) := by
    rw [hlookup]
    rfl
  have hsender : (Json.backMembers order source.members).lookup "sender" =
      source.sender.map .str := by
    rw [hlookup]
    obtain ⟨channel, subject, body, document, sender⟩ := source
    cases sender <;> cases document <;> rfl
  have hdocument : (Json.backMembers order source.members).lookup "document" =
      source.document.map fun document => Json.stored order (.obj document.members) := by
    rw [hlookup]
    obtain ⟨channel, subject, body, document, sender⟩ := source
    cases sender <;> cases document <;> rfl
  have hrestores : ∀ document : NormalizedDocument,
      decodeDocumentSnapshot (Json.stored order (.obj document.members)) = some document :=
    fun document => document.restores
  rw [sourceSnapshot_eq, Json.stored_obj_eq]
  unfold trustedSourceFromSnapshot
  -- the decoder looks members up, so their order does not matter
  simp only [hrequired, hknown, hchannel, hsubject, hbody, hsender, hdocument]
  obtain ⟨channel, subject, body, document, sender⟩ := source
  cases document with
  | none => cases sender <;> rfl
  | some document =>
      simp only [Option.map_some, hrestores]
      cases sender <;> rfl

end IntegraIntake
