import IntegraIntake.Library.Json
import IntegraIntake.Tenants.Config

/-!
# Documents and the trusted source

`app/documents/models.py` and the source part of `app/policy/models.py`: the
bounded attachment a request may carry, the normalized snapshot of it that a
job keeps, and the inbound text around it.
-/

namespace IntegraIntake

open Library

/-- `DocumentMediaType`. -/
inductive DocumentMediaType where
  | text | pdf
  deriving DecidableEq, Repr

/-- The media type as it is written. -/
def DocumentMediaType.value : DocumentMediaType → String
  | .text => "text/plain"
  | .pdf => "application/pdf"

/-- `DocumentExtractionError`. -/
inductive DocumentExtractionError where
  | unsupportedMediaType | documentTooLarge | documentTextTooLarge | pdfMalformed | pdfEncrypted
  | pdfEmpty | documentTextEmpty | documentProcessingTimeout
  deriving DecidableEq, Repr

/-- The error as it is written. -/
def DocumentExtractionError.value : DocumentExtractionError → String
  | .unsupportedMediaType => "unsupported_media_type"
  | .documentTooLarge => "document_too_large"
  | .documentTextTooLarge => "document_text_too_large"
  | .pdfMalformed => "pdf_malformed"
  | .pdfEncrypted => "pdf_encrypted"
  | .pdfEmpty => "pdf_empty"
  | .documentTextEmpty => "document_text_empty"
  | .documentProcessingTimeout => "document_processing_timeout"

theorem DocumentMediaType.value_injective : Function.Injective DocumentMediaType.value := by
  intro left right h
  cases left <;> cases right <;> first | rfl | simp [DocumentMediaType.value] at h

theorem DocumentExtractionError.value_injective :
    Function.Injective DocumentExtractionError.value := by
  intro left right h
  cases left <;> cases right <;> first | rfl | simp [DocumentExtractionError.value] at h

/-! ## Attachments -/

/-- `DocumentInput`: exactly one bounded text or PDF payload. -/
structure DocumentInput where
  channel : String
  subject : String
  body : String
  mediaType : DocumentMediaType
  text : Option String
  content : Option ByteArray
  channel_valid : PyString.isBlank channel = false ∧ PyString.len channel ≤ 100
  subject_valid : PyString.isBlank subject = false ∧ PyString.len subject ≤ 500
  one_payload : text.isSome ≠ content.isSome
  text_payload : mediaType = .text → text.isSome
  pdf_payload : mediaType = .pdf → content.isSome
  content_nonempty : ∀ value ∈ content, value ≠ ByteArray.empty
  text_nonblank : ∀ value ∈ text, PyString.isBlank value = false

/-- The bytes of a payload: the text in UTF-8, or the content. -/
def DocumentInput.raw (document : DocumentInput) : ByteArray :=
  match document.mediaType with
  | .text => (document.text.getD "").toUTF8
  | .pdf => document.content.getD ByteArray.empty

/-- `MAX_DOCUMENT_TEXT_CHARS`. -/
def maxDocumentTextChars : ℕ := 100000

/-- `^[0-9a-f]{64}$`. -/
def isSha256 (value : String) : Bool :=
  value.toList.length == 64 && value.toList.all fun c => c.isDigit || ('a' ≤ c && c ≤ 'f')

/-- `NormalizedDocument`: exactly one of a bounded text and an extraction error. -/
structure NormalizedDocument where
  documentKind : String
  targetIntakeType : String
  mediaType : DocumentMediaType
  sha256 : String
  normalizerKey : String
  normalizerVersion : ℕ
  text : Option String
  extractionError : Option DocumentExtractionError
  kind_safe : isSafeIdentifier documentKind = true
  target_safe : isSafeIdentifier targetIntakeType = true
  sha256_valid : isSha256 sha256 = true
  normalizerKey_safe : isSafeIdentifier normalizerKey = true
  version_pos : 1 ≤ normalizerVersion
  text_valid : ∀ value ∈ text,
    PyString.isBlank value = false ∧ PyString.len value ≤ maxDocumentTextChars
  text_xor_error : text.isNone ≠ extractionError.isNone

/-- What `_normalize_document` returns when the deadline has passed. -/
def NormalizedDocument.timedOut (documentKind targetIntakeType : String)
    (mediaType : DocumentMediaType) (sha256 normalizerKey : String) (normalizerVersion : ℕ)
    (kind_safe : isSafeIdentifier documentKind = true)
    (target_safe : isSafeIdentifier targetIntakeType = true)
    (sha256_valid : isSha256 sha256 = true) (key_safe : isSafeIdentifier normalizerKey = true)
    (version_pos : 1 ≤ normalizerVersion) : NormalizedDocument where
  documentKind := documentKind
  targetIntakeType := targetIntakeType
  mediaType := mediaType
  sha256 := sha256
  normalizerKey := normalizerKey
  normalizerVersion := normalizerVersion
  text := none
  extractionError := some .documentProcessingTimeout
  kind_safe := kind_safe
  target_safe := target_safe
  sha256_valid := sha256_valid
  normalizerKey_safe := key_safe
  version_pos := version_pos
  text_valid := by simp
  text_xor_error := by simp

/-- The hash of no bytes. -/
theorem emptySha256_valid :
    isSha256 "e3b0c44298fc1c149afbf4c8996fb92427ae41e4649b934ca495991b7852b855" = true := by
  decide

theorem rateConfirmation_safe : isSafeIdentifier "rate_confirmation" = true := by decide

theorem boundedTextPdf_safe : isSafeIdentifier "bounded_text_pdf" = true := by decide

instance : Inhabited NormalizedDocument :=
  ⟨.timedOut "rate_confirmation" "request" .pdf
    "e3b0c44298fc1c149afbf4c8996fb92427ae41e4649b934ca495991b7852b855" "bounded_text_pdf" 1
    rateConfirmation_safe (by decide) emptySha256_valid boundedTextPdf_safe Nat.one_pos⟩

/-- `NormalizedDocument.model_dump(mode="json")`. -/
def NormalizedDocument.modelDump (document : NormalizedDocument) : List (String × Plain) :=
  [("snapshot_version", .nat 2), ("document_kind", .str document.documentKind),
   ("target_intake_type", .str document.targetIntakeType),
   ("media_type", .str document.mediaType.value), ("sha256", .str document.sha256),
   ("normalizer_key", .str document.normalizerKey),
   ("normalizer_version", .nat document.normalizerVersion),
   ("text", (document.text.map Plain.str).getD .null),
   ("extraction_error",
    (document.extractionError.map fun error => Plain.str error.value).getD .null)]

/-- `TrustedSource`. -/
structure TrustedSource where
  channel : String
  subject : String
  body : String
  document : Option NormalizedDocument
  sender : Option String

end IntegraIntake
