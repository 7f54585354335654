import Mathlib.Logic.Function.Basic
import IntegraIntake.Documents.Models
import IntegraIntake.Tools.Models

/-!
# Intake requests and their hashes

The commands of `app/domain/intake.py` and the two functions that hash them.  A
text request is hashed by its source; a request with an attachment by the
original bytes of the attachment, before any profile is looked at.  SHA-256 is
the parameter `sha256`, from bytes to the hexadecimal digest.

Both hashes are taken of a canonical text.  Two requests have the same text
exactly when they say the same: `canonicalPayload_eq_iff`.
-/

namespace IntegraIntake

open Library

/-- `RiskSignals`. -/
structure RiskSignals where
  safetyOrLegalRisk : Bool

/-- `EnqueueIntakeCommand`. -/
structure EnqueueIntakeCommand where
  tenantId : Uuid
  tenantSlug : String
  source : TrustedSource
  idempotencyKey : String
  traceId : Uuid
  riskSignals : RiskSignals

/-- `EnqueueDocumentIntakeCommand`. -/
structure EnqueueDocumentIntakeCommand where
  tenantId : Uuid
  tenantSlug : String
  document : DocumentInput
  idempotencyKey : String
  traceId : Uuid
  riskSignals : RiskSignals
  sender : Option String

/-- `payload[key] = value` of a key that is not there, when there is a value. -/
def optionalMember (key : String) : Option Plain → List (String × Plain)
  | some value => [(key, value)]
  | none => []

/-- What `canonical_intake_hash` hashes. -/
def canonicalIntakePayload (source : TrustedSource) : Plain :=
  .obj ([("body", .str source.body), ("channel", .str source.channel),
      ("subject", .str source.subject)] ++
    optionalMember "sender" (source.sender.map .str) ++
    optionalMember "document" (source.document.map fun document => .obj document.modelDump))

/-- What `canonical_document_intake_hash` hashes. -/
def canonicalDocumentIntakePayload (sha256 : ByteArray → String)
    (command : EnqueueDocumentIntakeCommand) : Plain :=
  .obj ([("body", .str command.document.body), ("channel", .str command.document.channel),
      ("subject", .str command.document.subject),
      ("document", .obj [("media_type", .str command.document.mediaType.value),
        ("payload_sha256", .str (sha256 command.document.raw))])] ++
    optionalMember "sender" (command.sender.map .str))

/-- `canonical_intake_hash`. -/
def canonicalIntakeHash (sha256 : ByteArray → String) (source : TrustedSource) : String :=
  sha256 (canonicalIntakePayload source).dumps.toUTF8

/-- `canonical_document_intake_hash`. -/
def canonicalDocumentIntakeHash (sha256 : ByteArray → String)
    (command : EnqueueDocumentIntakeCommand) : String :=
  sha256 (canonicalDocumentIntakePayload sha256 command).dumps.toUTF8

/-- `_validate_idempotency_key`; `none` stands for its `ValueError`. -/
def validateIdempotencyKey (value : String) : Option String :=
  let key := PyString.strip value
  if PyString.len key = 0 ∨ 255 < PyString.len key then none else some key

/-! ## Calls -/

/-- A call of the enqueue service. -/
inductive EnqueueCall where
  | enqueue (command : EnqueueIntakeCommand)
  | enqueueDocument (command : EnqueueDocumentIntakeCommand)

/-- What a request carries besides its text. -/
inductive Attachment where
  | none
  /-- A source that already has its normalized document. -/
  | normalized (document : NormalizedDocument)
  | raw (mediaType : DocumentMediaType) (bytes : ByteArray)

/-- What a request says. -/
structure RequestContent where
  channel : String
  subject : String
  body : String
  sender : Option String
  attachment : Attachment

/-- What a source is attached with. -/
def TrustedSource.attachment (source : TrustedSource) : Attachment :=
  match source.document with
  | some document => .normalized document
  | none => .none

namespace EnqueueCall

/-- The tenant that calls. -/
def tenantId : EnqueueCall → Uuid
  | enqueue command => command.tenantId
  | enqueueDocument command => command.tenantId

/-- The slug of the tenant that calls. -/
def tenantSlug : EnqueueCall → String
  | enqueue command => command.tenantSlug
  | enqueueDocument command => command.tenantSlug

/-- The key as the caller gives it. -/
def idempotencyKey : EnqueueCall → String
  | enqueue command => command.idempotencyKey
  | enqueueDocument command => command.idempotencyKey

/-- The trace of the request. -/
def traceId : EnqueueCall → Uuid
  | enqueue command => command.traceId
  | enqueueDocument command => command.traceId

/-- The risk that the caller has seen. -/
def riskSignals : EnqueueCall → RiskSignals
  | enqueue command => command.riskSignals
  | enqueueDocument command => command.riskSignals

/-- The key under which the call is idempotent, if it is a valid one. -/
def key (call : EnqueueCall) : Option String :=
  validateIdempotencyKey call.idempotencyKey

/-- The text whose hash stands for the request. -/
def canonicalPayload (sha256 : ByteArray → String) : EnqueueCall → String
  | enqueue command => (canonicalIntakePayload command.source).dumps
  | enqueueDocument command => (canonicalDocumentIntakePayload sha256 command).dumps

/-- The hash of the content, as the record keeps it. -/
def requestHash (sha256 : ByteArray → String) : EnqueueCall → String
  | enqueue command => canonicalIntakeHash sha256 command.source
  | enqueueDocument command => canonicalDocumentIntakeHash sha256 command

/-- What the hash is about. -/
def content : EnqueueCall → RequestContent
  | enqueue command =>
    { channel := command.source.channel
      subject := command.source.subject
      body := command.source.body
      sender := command.source.sender
      attachment := command.source.attachment }
  | enqueueDocument command =>
    { channel := command.document.channel
      subject := command.document.subject
      body := command.document.body
      sender := command.sender
      attachment := .raw command.document.mediaType command.document.raw }

end EnqueueCall

/-! ## The canonical text says what the request says -/

/-- The sorted members of a normalized document. -/
def NormalizedDocument.sorted (document : NormalizedDocument) : Plain :=
  .obj [("document_kind", .str document.documentKind),
    ("extraction_error",
      (document.extractionError.map fun error => Plain.str error.value).getD .null),
    ("media_type", .str document.mediaType.value),
    ("normalizer_key", .str document.normalizerKey),
    ("normalizer_version", .nat document.normalizerVersion),
    ("sha256", .str document.sha256), ("snapshot_version", .nat 2),
    ("target_intake_type", .str document.targetIntakeType),
    ("text", (document.text.map Plain.str).getD .null)]

/-- The sorted member `document` of a payload. -/
def Attachment.sorted (sha256 : ByteArray → String) : Attachment → Option Plain
  | .none => Option.none
  | .normalized document => some document.sorted
  | .raw mediaType bytes => some (.obj [("media_type", .str mediaType.value),
      ("payload_sha256", .str (sha256 bytes))])

/-- The sorted payload of a request, whichever function built it. -/
def RequestContent.sorted (sha256 : ByteArray → String) (content : RequestContent) : Plain :=
  .obj ([("body", .str content.body), ("channel", .str content.channel)] ++
    optionalMember "document" (content.attachment.sorted sha256) ++
    optionalMember "sender" (content.sender.map .str) ++ [("subject", .str content.subject)])

theorem NormalizedDocument.sortKeys_modelDump (document : NormalizedDocument) :
    (Plain.obj document.modelDump).sortKeys = document.sorted := by
  have hnull : ∀ value : Option Plain, (∀ plain ∈ value, plain.sortKeys = plain) →
      (value.getD .null).sortKeys = value.getD .null := by
    intro value h
    cases value with
    | none => simp [Plain.sortKeys]
    | some plain => exact h plain rfl
  have htext := hnull (document.text.map Plain.str) (by simp [Plain.sortKeys])
  have herror := hnull (document.extractionError.map fun error => Plain.str error.value)
    (by simp [Plain.sortKeys])
  simp [NormalizedDocument.modelDump, NormalizedDocument.sorted, Plain.sortKeys,
    Plain.sortKeysMembers, List.insertionSort, List.orderedInsert, htext, herror]

/-- The order in which the optional members are added does not matter. -/
theorem sortKeys_payload (body channel subject : String) (sender : Option String)
    (document : Option Plain) (members : List (String × Plain))
    (hmembers : members = optionalMember "sender" (sender.map .str) ++
        optionalMember "document" document ∨
      members = optionalMember "document" document ++
        optionalMember "sender" (sender.map .str)) :
    (Plain.obj ([("body", .str body), ("channel", .str channel), ("subject", .str subject)] ++
        members)).sortKeys =
      .obj ([("body", .str body), ("channel", .str channel)] ++
        optionalMember "document" (document.map Plain.sortKeys) ++
        optionalMember "sender" (sender.map .str) ++ [("subject", .str subject)]) := by
  rcases hmembers with rfl | rfl <;> cases sender <;> cases document <;>
    simp [optionalMember, Plain.sortKeys, Plain.sortKeysMembers, List.insertionSort,
      List.orderedInsert]

theorem sortKeys_canonicalIntakePayload (sha256 : ByteArray → String)
    (command : EnqueueIntakeCommand) :
    (canonicalIntakePayload command.source).sortKeys =
      (EnqueueCall.enqueue command).content.sorted sha256 := by
  have hdocument : (command.source.document.map fun document =>
      Plain.obj document.modelDump).map Plain.sortKeys =
        command.source.attachment.sorted sha256 := by
    unfold TrustedSource.attachment
    cases command.source.document with
    | none => rfl
    | some document => exact congrArg some document.sortKeys_modelDump
  rw [canonicalIntakePayload, List.append_assoc,
    sortKeys_payload _ _ _ command.source.sender _ _ (.inl rfl), hdocument]
  rfl

theorem sortKeys_canonicalDocumentIntakePayload (sha256 : ByteArray → String)
    (command : EnqueueDocumentIntakeCommand) :
    (canonicalDocumentIntakePayload sha256 command).sortKeys =
      (EnqueueCall.enqueueDocument command).content.sorted sha256 := by
  have hsorted := sortKeys_payload command.document.body command.document.channel
    command.document.subject command.sender
    (some (.obj [("media_type", .str command.document.mediaType.value),
      ("payload_sha256", .str (sha256 command.document.raw))])) _ (.inr rfl)
  simpa [canonicalDocumentIntakePayload, EnqueueCall.content, RequestContent.sorted,
    Attachment.sorted, optionalMember, Plain.sortKeys, Plain.sortKeysMembers, List.insertionSort,
    List.orderedInsert] using hsorted

theorem NormalizedDocument.sorted_injective : Function.Injective NormalizedDocument.sorted := by
  intro left right h
  simp only [NormalizedDocument.sorted, Plain.obj.injEq, List.cons.injEq, Prod.mk.injEq,
    Plain.str.injEq, Plain.nat.injEq, true_and, and_true] at h
  obtain ⟨hkind, herror, hmedia, hkey, hversion, hsha256, htarget, htext⟩ := h
  have hmedia := DocumentMediaType.value_injective hmedia
  have htext : left.text = right.text := by
    cases hleft : left.text <;> cases hright : right.text <;> simp_all
  have herror : left.extractionError = right.extractionError := by
    cases hleft : left.extractionError <;> cases hright : right.extractionError <;>
      simp_all [DocumentExtractionError.value_injective.eq_iff]
  cases left
  cases right
  simp_all

theorem Attachment.sorted_injective {sha256 : ByteArray → String}
    (hsha256 : Function.Injective sha256) : Function.Injective (Attachment.sorted sha256) := by
  intro left right h
  cases left <;> cases right <;>
    simp_all [Attachment.sorted, NormalizedDocument.sorted_injective.eq_iff,
      DocumentMediaType.value_injective.eq_iff, hsha256.eq_iff]
  all_goals simp_all [NormalizedDocument.sorted]

/-- The members of a sorted payload are its parts. -/
theorem RequestContent.sorted_injective {sha256 : ByteArray → String}
    (hsha256 : Function.Injective sha256) :
    Function.Injective (RequestContent.sorted sha256) := by
  intro left right h
  have hparts : left.body = right.body ∧ left.channel = right.channel ∧
      left.attachment.sorted sha256 = right.attachment.sorted sha256 ∧
      left.sender = right.sender ∧ left.subject = right.subject := by
    unfold RequestContent.sorted at h
    cases hattachment : left.attachment.sorted sha256 <;>
      cases hattachment' : right.attachment.sorted sha256 <;>
      cases hsender : left.sender <;> cases hsender' : right.sender <;>
      simp_all [optionalMember]
  obtain ⟨hbody, hchannel, hattachment, hsender, hsubject⟩ := hparts
  have hattachment := Attachment.sorted_injective hsha256 hattachment
  cases left
  cases right
  simp_all

/-- Two requests have the same canonical text exactly when they agree on channel,
subject, body, sender and attachment. -/
theorem EnqueueCall.canonicalPayload_eq_iff {sha256 : ByteArray → String}
    (hsha256 : Function.Injective sha256) (left right : EnqueueCall) :
    left.canonicalPayload sha256 = right.canonicalPayload sha256 ↔
      left.content = right.content := by
  have hpayload : ∀ call : EnqueueCall, ∃ payload : Plain,
      call.canonicalPayload sha256 = payload.dumps ∧
        payload.sortKeys = call.content.sorted sha256 := by
    intro call
    cases call with
    | enqueue command => exact ⟨_, rfl, sortKeys_canonicalIntakePayload sha256 command⟩
    | enqueueDocument command =>
        exact ⟨_, rfl, sortKeys_canonicalDocumentIntakePayload sha256 command⟩
  obtain ⟨payload, hleft, hsorted⟩ := hpayload left
  obtain ⟨payload', hright, hsorted'⟩ := hpayload right
  rw [hleft, hright, Plain.dumps_inj, hsorted, hsorted',
    (RequestContent.sorted_injective hsha256).eq_iff]

theorem EnqueueCall.requestHash_eq (sha256 : ByteArray → String) (call : EnqueueCall) :
    call.requestHash sha256 = sha256 (call.canonicalPayload sha256).toUTF8 := by
  cases call with
  | enqueue command => rfl
  | enqueueDocument command => rfl

theorem EnqueueCall.requestHash_eq_iff {sha256 : ByteArray → String}
    (hsha256 : Function.Injective sha256) (left right : EnqueueCall) :
    left.requestHash sha256 = right.requestHash sha256 ↔
      left.canonicalPayload sha256 = right.canonicalPayload sha256 := by
  rw [requestHash_eq, requestHash_eq, hsha256.eq_iff, String.toUTF8_eq_toByteArray,
    String.toUTF8_eq_toByteArray, String.toByteArray_inj]

end IntegraIntake
