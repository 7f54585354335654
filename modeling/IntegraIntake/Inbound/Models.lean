import IntegraIntake.Auth.InboundWebhook
import IntegraIntake.Documents.Normalizer
import IntegraIntake.Library.Base64

/-!
# The inbound webhook's envelope

`app/inbound/models.py`: the JSON envelope of an email-like message, and the message that
it stands for.  An attachment travels as base64, a text attachment as the base64 of its
UTF-8.

The JSON parser is the parameter `parseJson`.  Of a name that an object repeats it keeps
the last value, as `modelOf` expects.
-/

namespace IntegraIntake

open Library InboundWebhook

/-- `MAX_INBOUND_WEBHOOK_BODY_BYTES`. -/
def maxInboundWebhookBodyBytes : ℕ := 8 * 1024 * 1024

/-- `MAX_INBOUND_BODY_CHARS`. -/
def maxInboundBodyChars : ℕ := 100000

/-- `MAX_PROVIDER_ID_CHARS`. -/
def maxProviderIdChars : ℕ := 200

/-- `MAX_BASE64_ATTACHMENT_CHARS`. -/
def maxBase64AttachmentChars : ℕ := 4 * ((maxDocumentBytes + 2) / 3)

/-- The one thing that is said about any payload that is not taken. -/
def invalidInboundPayload : AppError := .valueError "invalid inbound payload"

/-! ## The envelope -/

/-- `WebhookAttachmentPayload`; the literal of the media type is read as the enumeration
that it names. -/
structure WebhookAttachmentPayload where
  mediaType : DocumentMediaType
  contentBase64 : String
  length_valid : 1 ≤ PyString.len contentBase64 ∧
    PyString.len contentBase64 ≤ maxBase64AttachmentChars
  compact : PyString.isBlank contentBase64 = false ∧
    contentBase64.toList.any PyString.isSpace = false

/-- `require_non_blank_identity`. -/
def IsIdentity (value : String) : Prop :=
  PyString.isBlank value = false ∧ value = PyString.strip value

instance (value : String) : Decidable (IsIdentity value) := inferInstanceAs (Decidable (_ ∧ _))

/-- `WebhookEmailPayload`. -/
structure WebhookEmailPayload where
  providerId : String
  fromAddr : String
  subject : String
  body : String
  attachments : List WebhookAttachmentPayload
  providerId_valid : IsIdentity providerId ∧ PyString.len providerId ≤ maxProviderIdChars
  fromAddr_valid : IsIdentity fromAddr ∧ PyString.len fromAddr ≤ 320
  subject_valid : PyString.len subject ≤ 500
  body_valid : PyString.len body ≤ maxInboundBodyChars
  attachments_valid : attachments.length ≤ 1
  /-- `require_body_or_attachment`. -/
  body_or_attachment : attachments = [] → PyString.isBlank body = false

/-- The checks of `WebhookAttachmentPayload`. -/
def WebhookAttachmentPayload.checked (mediaType : DocumentMediaType) (contentBase64 : String) :
    Option WebhookAttachmentPayload :=
  if h : (1 ≤ PyString.len contentBase64 ∧
      PyString.len contentBase64 ≤ maxBase64AttachmentChars) ∧
      PyString.isBlank contentBase64 = false ∧
      contentBase64.toList.any PyString.isSpace = false then
    some ⟨mediaType, contentBase64, h.1, h.2⟩
  else none

/-- The checks of `WebhookEmailPayload`. -/
def WebhookEmailPayload.checked (providerId fromAddr subject body : String)
    (attachments : List WebhookAttachmentPayload) : Option WebhookEmailPayload :=
  if h : ((IsIdentity providerId ∧ PyString.len providerId ≤ maxProviderIdChars) ∧
      IsIdentity fromAddr ∧ PyString.len fromAddr ≤ 320) ∧
      (PyString.len subject ≤ 500 ∧ PyString.len body ≤ maxInboundBodyChars) ∧
      attachments.length ≤ 1 ∧ (attachments = [] → PyString.isBlank body = false) then
    some {
      providerId, fromAddr, subject, body, attachments
      providerId_valid := h.1.1
      fromAddr_valid := h.1.2
      subject_valid := h.2.1.1
      body_valid := h.2.1.2
      attachments_valid := h.2.2.1
      body_or_attachment := h.2.2.2 }
  else none

/-- `WebhookAttachmentPayload.model_validate`. -/
def WebhookAttachmentPayload.modelValidate (value : Json) : Option WebhookAttachmentPayload := do
  let members ← Json.modelOf ["media_type", "content_base64"] value
  let mediaType ← Json.field (Json.enumOf DocumentMediaType.all DocumentMediaType.value)
    "media_type" members
  let contentBase64 ← Json.field Json.asStr? "content_base64" members
  WebhookAttachmentPayload.checked mediaType contentBase64

/-- `WebhookEmailPayload.model_validate`. -/
def WebhookEmailPayload.modelValidate (value : Json) : Option WebhookEmailPayload := do
  let members ← Json.modelOf ["provider_id", "from_addr", "subject", "body", "attachments"] value
  let providerId ← Json.field Json.asStr? "provider_id" members
  let fromAddr ← Json.field Json.asStr? "from_addr" members
  let subject ← Json.fieldOr "" Json.asStr? "subject" members
  let body ← Json.fieldOr "" Json.asStr? "body" members
  let attachments ← Json.fieldOr [] (Json.listOf WebhookAttachmentPayload.modelValidate)
    "attachments" members
  WebhookEmailPayload.checked providerId fromAddr subject body attachments

/-- `InboundAttachment`. -/
structure InboundAttachment where
  mediaType : DocumentMediaType
  text : Option String
  content : Option ByteArray

/-- `InboundMessage`. -/
@[ext]
structure InboundMessage where
  tenantId : Uuid
  tenantSlug : String
  channel : String
  fromAddr : String
  subject : String
  body : String
  attachments : List InboundAttachment
  providerId : String

/-- An attachment as `to_message` decodes it; `none` stands for what that raises. -/
def WebhookAttachmentPayload.decode (item : WebhookAttachmentPayload) :
    Option InboundAttachment :=
  match Base64.decode item.contentBase64.toList with
  | none => none
  | some decoded =>
    if decoded = [] ∨ maxDocumentBytes < decoded.length then none
    else
      match item.mediaType with
      | .text => (String.fromUTF8? decoded.toByteArray).map fun text => ⟨.text, some text, none⟩
      | .pdf => some ⟨.pdf, none, some decoded.toByteArray⟩

/-- `subject.strip() or "(no subject)"`. -/
def messageSubject (subject : String) : String :=
  if PyString.isBlank subject then "(no subject)" else PyString.strip subject

/-- `to_message`. -/
def WebhookEmailPayload.toMessage (payload : WebhookEmailPayload) (tenantId : Uuid)
    (tenantSlug : String) : Except AppError InboundMessage :=
  match payload.attachments.mapM WebhookAttachmentPayload.decode with
  | none => .error invalidInboundPayload
  | some attachments =>
    .ok {
      tenantId, tenantSlug, attachments
      channel := "email_webhook"
      fromAddr := payload.fromAddr
      subject := messageSubject payload.subject
      body := payload.body
      providerId := payload.providerId }

theorem isEmpty_eq_false_iff {content : ByteArray} :
    content.isEmpty = false ↔ content ≠ ByteArray.empty := by
  rw [ByteArray.isEmpty, beq_eq_false_iff_ne, Ne, ByteArray.size_eq_zero_iff]

/-- The checks of `DocumentInput`.  What pydantic says where one fails is not part of the
model. -/
def DocumentInput.checked (channel subject body : String) (mediaType : DocumentMediaType)
    (text : Option String) (content : Option ByteArray) : Except AppError DocumentInput :=
  if h : ((PyString.isBlank channel = false ∧ PyString.len channel ≤ 100) ∧
      PyString.isBlank subject = false ∧ PyString.len subject ≤ 500) ∧
      (text.isSome ≠ content.isSome ∧ (mediaType = .text → text.isSome) ∧
        (mediaType = .pdf → content.isSome)) ∧
      (∀ value ∈ content, value.isEmpty = false) ∧
      ∀ value ∈ text, PyString.isBlank value = false then
    .ok {
      channel, subject, body, mediaType, text, content
      channel_valid := h.1.1
      subject_valid := h.1.2
      one_payload := h.2.1.1
      text_payload := h.2.1.2.1
      pdf_payload := h.2.1.2.2
      content_nonempty := fun value hvalue => isEmpty_eq_false_iff.1 (h.2.2.1 value hvalue)
      text_nonblank := h.2.2.2 }
  else .error (.valueError "document input is invalid")

/-- `as_document_input`. -/
def InboundAttachment.asDocumentInput (attachment : InboundAttachment)
    (channel subject body : String) : Except AppError DocumentInput :=
  DocumentInput.checked channel subject body attachment.mediaType attachment.text
    attachment.content

end IntegraIntake
