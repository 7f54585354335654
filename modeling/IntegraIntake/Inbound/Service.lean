import IntegraIntake.Inbound.Models
import IntegraIntake.Intake.Idempotency
import IntegraIntake.Intake.Service

/-!
# Webhook messages as enqueue calls

`app/inbound/service.py`: a message becomes one call of the enqueue service, under the
key `email_webhook:<provider_id>`.  A provider delivers a message again until it is
answered, and the deliveries of one message may overlap.  The key of a call gives back
the provider's identifier (`webhookKey_injective`), and the request hash gives back the
rest of the message (`message_of_content`), so in every run two deliveries to a tenant
are answered with the same job exactly if they carry the same identifier, and then they
are the same message.

The runs are those in which the hash has no collisions and the profiles that calls are
made with can be resolved again from what is stored; the profiles that the factory
resolves can (`enqueue_resolvable` in `Runtime/Factory`).
-/

namespace IntegraIntake

open Library InboundWebhook

namespace InboundIntakeService

/-- `f"email_webhook:{message.provider_id}"`. -/
def webhookKey (providerId : String) : String := "email_webhook:" ++ providerId

/-- The call of the enqueue service that `enqueue` makes; the trace identifier is that of
the request. -/
def call (message : InboundMessage) (traceId : Uuid) : Except AppError EnqueueCall :=
  match message.attachments with
  | [] =>
    .ok (.enqueue {
      tenantId := message.tenantId
      tenantSlug := message.tenantSlug
      source := {
        channel := message.channel
        subject := message.subject
        body := message.body
        document := none
        sender := some message.fromAddr }
      idempotencyKey := webhookKey message.providerId
      traceId
      riskSignals := ⟨false⟩ })
  | [attachment] =>
    (attachment.asDocumentInput message.channel message.subject message.body).map fun document =>
      .enqueueDocument {
        tenantId := message.tenantId
        tenantSlug := message.tenantSlug
        document
        idempotencyKey := webhookKey message.providerId
        traceId
        riskSignals := ⟨false⟩
        sender := some message.fromAddr }
  | _ => .error invalidInboundPayload

/-- The method of the enqueue service that a call goes to. -/
def run (resources : IntakeResources) (newId : Uuid) (now : Timestamp) :
    EnqueueCall → Query EnqueueResult
  | .enqueue command => IntakeEnqueueService.enqueue resources command newId now
  | .enqueueDocument command => IntakeEnqueueService.enqueueDocument resources command newId now

/-- `enqueue`. -/
def enqueue (resources : IntakeResources) (message : InboundMessage) (traceId newId : Uuid)
    (now : Timestamp) : Query EnqueueResult :=
  match call message traceId with
  | .error error => Session.raise error
  | .ok made => run resources newId now made

end InboundIntakeService

open InboundIntakeService

/-! ## The key -/

theorem head?_dropWhile_of_ne {p : Char → Bool} {chars : List Char} (h : chars.dropWhile p ≠ []) :
    ∃ c, (chars.dropWhile p).head? = some c ∧ p c = false := by
  obtain ⟨c, rest, hcons⟩ := List.exists_cons_of_ne_nil h
  refine ⟨c, by rw [hcons, List.head?_cons], ?_⟩
  have hnot := List.head?_dropWhile_not p chars
  rw [hcons] at hnot
  simpa using hnot

theorem dropWhile_of_head? {p : Char → Bool} {chars : List Char} {c : Char}
    (hhead : chars.head? = some c) (hc : p c = false) : chars.dropWhile p = chars := by
  cases chars with
  | nil => rfl
  | cons first rest =>
      cases hhead
      exact List.dropWhile_cons_of_neg (by rw [hc]; decide)

/-- An identity ends in a character that is no white space. -/
theorem IsIdentity.last {value : String} (h : IsIdentity value) :
    ∃ c, value.toList.reverse.head? = some c ∧ PyString.isSpace c = false := by
  obtain ⟨hblank, hstrip⟩ := h
  have hreverse : value.toList.reverse =
      (value.toList.dropWhile PyString.isSpace).reverse.dropWhile PyString.isSpace := by
    have htoList := congrArg String.toList hstrip
    rw [PyString.strip, String.toList_ofList] at htoList
    rw [htoList, List.reverse_reverse, ← htoList]
  have hne : value.toList.reverse ≠ [] := by
    intro hnil
    rw [List.reverse_eq_nil_iff] at hnil
    rw [PyString.isBlank, hnil] at hblank
    cases hblank
  rw [hreverse] at hne ⊢
  exact head?_dropWhile_of_ne hne

/-- Nothing is stripped off the key. -/
theorem strip_webhookKey {providerId : String} (h : IsIdentity providerId) :
    PyString.strip (webhookKey providerId) = webhookKey providerId := by
  obtain ⟨c, hlast, hc⟩ := h.last
  have hchars : (webhookKey providerId).toList =
      "email_webhook:".toList ++ providerId.toList := String.toList_append
  have hfront : ((webhookKey providerId).toList).dropWhile PyString.isSpace =
      (webhookKey providerId).toList := by
    rw [hchars]
    exact dropWhile_of_head? (c := 'e') rfl (by decide)
  have hback : ((webhookKey providerId).toList.reverse).dropWhile PyString.isSpace =
      (webhookKey providerId).toList.reverse := by
    refine dropWhile_of_head? (c := c) ?_ hc
    rw [hchars, List.reverse_append, List.head?_append, hlast]
    rfl
  rw [PyString.strip, hfront, hback, List.reverse_reverse, String.ofList_toList]

/-- The key is always a valid one. -/
theorem validate_webhookKey {providerId : String} (h : IsIdentity providerId)
    (hlength : PyString.len providerId ≤ maxProviderIdChars) :
    validateIdempotencyKey (webhookKey providerId) = some (webhookKey providerId) := by
  have hlen : PyString.len (webhookKey providerId) = 14 + PyString.len providerId := by
    rw [PyString.len, webhookKey, String.toList_append, List.length_append]
    rfl
  rw [maxProviderIdChars] at hlength
  rw [validateIdempotencyKey, strip_webhookKey h]
  exact if_neg (by omega)

theorem webhookKey_injective : Function.Injective webhookKey := fun left right h => by
  have hchars := congrArg String.toList h
  rw [webhookKey, webhookKey, String.toList_append, String.toList_append,
    List.append_cancel_left_eq] at hchars
  exact String.toList_inj.1 hchars

/-! ## What a call says -/

/-- The attachments that `to_message` makes. -/
inductive InboundAttachment.Decoded : InboundAttachment → Prop
  | text (text : String) : Decoded ⟨.text, some text, none⟩
  | pdf (content : ByteArray) : Decoded ⟨.pdf, none, some content⟩

/-- The bytes that were attached. -/
def InboundAttachment.raw (attachment : InboundAttachment) : ByteArray :=
  match attachment.mediaType with
  | .text => (attachment.text.getD "").toUTF8
  | .pdf => attachment.content.getD ByteArray.empty

theorem WebhookAttachmentPayload.decoded {item : WebhookAttachmentPayload}
    {attachment : InboundAttachment} (h : item.decode = some attachment) :
    attachment.Decoded := by
  unfold decode at h
  split at h
  · cases h
  · split at h
    · cases h
    · split at h
      · obtain ⟨text, -, rfl⟩ := Option.map_eq_some_iff.1 h
        exact .text text
      · cases h
        exact .pdf _

/-- An attachment is its media type and its bytes. -/
theorem InboundAttachment.Decoded.eq {left right : InboundAttachment} (hleft : left.Decoded)
    (hright : right.Decoded) (hmedia : left.mediaType = right.mediaType)
    (hraw : left.raw = right.raw) : left = right := by
  cases hleft with
  | text text =>
      cases hright with
      | text other =>
          have hutf8 : text.toUTF8 = other.toUTF8 := hraw
          rw [String.toUTF8_eq_toByteArray, String.toUTF8_eq_toByteArray,
            String.toByteArray_inj] at hutf8
          rw [hutf8]
      | pdf other => cases hmedia
  | pdf content =>
      cases hright with
      | text other => cases hmedia
      | pdf other =>
          have hcontent : content = other := hraw
          rw [hcontent]

theorem WebhookEmailPayload.toMessage_eq_ok {payload : WebhookEmailPayload} {tenantId : Uuid}
    {tenantSlug : String} {message : InboundMessage}
    (h : payload.toMessage tenantId tenantSlug = .ok message) :
    payload.attachments.mapM WebhookAttachmentPayload.decode = some message.attachments ∧
      message.tenantId = tenantId ∧ message.tenantSlug = tenantSlug ∧
      message.channel = "email_webhook" ∧ message.fromAddr = payload.fromAddr ∧
      message.subject = messageSubject payload.subject ∧ message.body = payload.body ∧
      message.providerId = payload.providerId := by
  unfold toMessage at h
  split at h
  · cases h
  · rename_i attachments hattachments
    cases h
    exact ⟨hattachments, rfl, rfl, rfl, rfl, rfl, rfl, rfl⟩

theorem mapM_decode {items : List WebhookAttachmentPayload} {attachments : List InboundAttachment}
    (h : items.mapM WebhookAttachmentPayload.decode = some attachments) :
    attachments.length = items.length ∧ ∀ attachment ∈ attachments, attachment.Decoded := by
  induction items generalizing attachments with
  | nil =>
      cases h
      exact ⟨rfl, fun _ hmem => absurd hmem List.not_mem_nil⟩
  | cons item rest ih =>
      rw [List.mapM_cons] at h
      obtain ⟨first, hfirst, h⟩ := Option.bind_eq_some_iff.1 h
      obtain ⟨others, hothers, h⟩ := Option.bind_eq_some_iff.1 h
      cases h
      obtain ⟨hlength, hdecoded⟩ := ih hothers
      exact ⟨congrArg (· + 1) hlength,
        List.forall_mem_cons.2 ⟨WebhookAttachmentPayload.decoded hfirst, hdecoded⟩⟩

theorem DocumentInput.checked_eq_ok {channel subject body : String}
    {mediaType : DocumentMediaType} {text : Option String} {content : Option ByteArray}
    {document : DocumentInput}
    (h : checked channel subject body mediaType text content = .ok document) :
    document.channel = channel ∧ document.subject = subject ∧ document.body = body ∧
      document.mediaType = mediaType ∧ document.text = text ∧ document.content = content := by
  unfold checked at h
  split at h
  · cases h
    exact ⟨rfl, rfl, rfl, rfl, rfl, rfl⟩
  · cases h

/-- What is said by a message with this attachment. -/
def messageContent (message : InboundMessage) (attachment : Attachment) : RequestContent where
  channel := message.channel
  subject := message.subject
  body := message.body
  sender := some message.fromAddr
  attachment := attachment

/-- What the call for a message says. -/
theorem call_eq_ok {message : InboundMessage} {traceId : Uuid} {made : EnqueueCall}
    (h : call message traceId = .ok made) :
    made.tenantId = message.tenantId ∧ made.tenantSlug = message.tenantSlug ∧
      made.traceId = traceId ∧ made.idempotencyKey = webhookKey message.providerId ∧
      ((message.attachments = [] ∧ made.content = messageContent message .none) ∨
        ∃ attachment, message.attachments = [attachment] ∧
          made.content = messageContent message (.raw attachment.mediaType attachment.raw)) := by
  unfold call at h
  split at h
  · rename_i hattachments
    cases h
    exact ⟨rfl, rfl, rfl, rfl, .inl ⟨hattachments, rfl⟩⟩
  · rename_i attachment hattachments
    cases hdocument : attachment.asDocumentInput message.channel message.subject message.body with
    | error error =>
        rw [hdocument] at h
        cases h
    | ok document =>
        rw [hdocument] at h
        cases h
        obtain ⟨hchannel, hsubject, hbody, hmedia, htext, hcontent⟩ :=
          DocumentInput.checked_eq_ok hdocument
        refine ⟨rfl, rfl, rfl, rfl, .inr ⟨attachment, hattachments, ?_⟩⟩
        have hraw : document.raw = attachment.raw := by
          cases hvalue : attachment.mediaType <;>
            simp only [DocumentInput.raw, InboundAttachment.raw, hmedia, hvalue, htext, hcontent]
        simp only [EnqueueCall.content, messageContent, hchannel, hsubject, hbody, hmedia, hraw]
  · cases h

/-- The key of a call gives back the provider's identifier, and what it says the rest of
the message. -/
theorem message_of_content {payload other : WebhookEmailPayload} {tenantId : Uuid}
    {tenantSlug : String} {message message' : InboundMessage} {traceId traceId' : Uuid}
    {made made' : EnqueueCall}
    (hmessage : payload.toMessage tenantId tenantSlug = .ok message)
    (hmessage' : other.toMessage tenantId tenantSlug = .ok message')
    (hmade : call message traceId = .ok made) (hmade' : call message' traceId' = .ok made')
    (hprovider : message.providerId = message'.providerId)
    (hcontent : made.content = made'.content) : message = message' := by
  obtain ⟨hattachments, htenant, hslug, hchannel, -⟩ :=
    WebhookEmailPayload.toMessage_eq_ok hmessage
  obtain ⟨hattachments', htenant', hslug', hchannel', -⟩ :=
    WebhookEmailPayload.toMessage_eq_ok hmessage'
  have hdecoded := (mapM_decode hattachments).2
  have hdecoded' := (mapM_decode hattachments').2
  have hsame : ∀ {attachment attachment' : Attachment},
      messageContent message attachment = messageContent message' attachment' →
      message.attachments = message'.attachments → message = message' := by
    intro attachment attachment' h hattached
    simp only [messageContent, RequestContent.mk.injEq, Option.some.injEq] at h
    obtain ⟨-, hsubject, hbody, hsender, -⟩ := h
    exact InboundMessage.ext (htenant.trans htenant'.symm) (hslug.trans hslug'.symm)
      (hchannel.trans hchannel'.symm) hsender hsubject hbody hattached hprovider
  obtain ⟨-, -, -, -, ⟨hnone, hcontent_eq⟩ | ⟨attachment, hone, hcontent_eq⟩⟩ := call_eq_ok hmade
  · obtain ⟨-, -, -, -, ⟨hnone', hcontent_eq'⟩ | ⟨attachment', -, hcontent_eq'⟩⟩ :=
      call_eq_ok hmade'
    · rw [hcontent_eq, hcontent_eq'] at hcontent
      exact hsame hcontent (hnone.trans hnone'.symm)
    · rw [hcontent_eq, hcontent_eq'] at hcontent
      cases congrArg RequestContent.attachment hcontent
  · obtain ⟨-, -, -, -, ⟨-, hcontent_eq'⟩ | ⟨attachment', hone', hcontent_eq'⟩⟩ := call_eq_ok hmade'
    · rw [hcontent_eq, hcontent_eq'] at hcontent
      cases congrArg RequestContent.attachment hcontent
    · rw [hcontent_eq, hcontent_eq'] at hcontent
      obtain ⟨hmedia, hraw⟩ : attachment.mediaType = attachment'.mediaType ∧
          attachment.raw = attachment'.raw := by
        have hattachment := congrArg RequestContent.attachment hcontent
        exact Attachment.raw.inj hattachment
      have heq : attachment = attachment' :=
        (hdecoded attachment (by rw [hone]; exact List.mem_singleton_self _)).eq
          (hdecoded' attachment' (by rw [hone']; exact List.mem_singleton_self _)) hmedia hraw
      exact hsame hcontent (by rw [hone, hone', heq])

/-! ## Deliveries in a run -/

/-- A call that is answered with a job has a record of its key and its content. -/
theorem Settled.record_of_ok {services : IntakeServices} {db : Db} {call : EnqueueCall}
    {result : EnqueueResult} (h : Settled services db call (.ok result)) :
    ∃ record ∈ db.idempotency, ∃ job ∈ db.jobs, Paired job record ∧ job.id = result.jobId ∧
      job.traceId = result.traceId ∧ call.scope = some record.scope ∧
      record.requestHash = call.requestHash services.sha256 := by
  generalize houtcome : Except.ok result = outcome at h
  cases h with
  | invalidKey => cases houtcome
  | @created record job hrecord hjob hpaired hscope hhash htrace =>
      cases houtcome
      exact ⟨record, hrecord, job, hjob, hpaired, rfl, htrace, hscope, hhash⟩
  | @repeated record job hrecord hjob hpaired hscope =>
      unfold repeatAnswer at houtcome
      split at houtcome
      · rename_i hhash
        cases houtcome
        exact ⟨record, hrecord, job, hjob, hpaired, rfl, rfl, hscope, hhash⟩
      · cases houtcome
  | refused hrefused =>
      subst houtcome
      simp [Refused] at hrefused

/-- The call for the message of a payload. -/
structure Delivers (tenantId : Uuid) (tenantSlug : String) (payload : WebhookEmailPayload)
    (message : InboundMessage) (traceId : Uuid) (made : EnqueueCall) : Prop where
  message_eq : payload.toMessage tenantId tenantSlug = .ok message
  call_eq : call message traceId = .ok made

/-- A delivery has a key of its own for each identifier. -/
theorem Delivers.scope_eq {tenantId traceId : Uuid} {tenantSlug : String}
    {payload : WebhookEmailPayload} {message : InboundMessage} {made : EnqueueCall}
    (h : Delivers tenantId tenantSlug payload message traceId made) :
    made.scope = some (tenantId, webhookKey message.providerId) := by
  obtain ⟨-, htenant, -, -, -, -, -, hprovider⟩ :=
    WebhookEmailPayload.toMessage_eq_ok h.message_eq
  obtain ⟨hmade, -, -, hkey, -⟩ := call_eq_ok h.call_eq
  have hvalid := validate_webhookKey payload.providerId_valid.1 payload.providerId_valid.2
  rw [EnqueueCall.scope, EnqueueCall.key, hkey, hprovider, hvalid, hmade, htenant]
  rfl

theorem content_of_message {message : InboundMessage} {traceId traceId' : Uuid}
    {made made' : EnqueueCall} (hmade : call message traceId = .ok made)
    (hmade' : call message traceId' = .ok made') : made.content = made'.content := by
  obtain ⟨-, -, -, -, ⟨hnone, hcontent_eq⟩ | ⟨attachment, hone, hcontent_eq⟩⟩ := call_eq_ok hmade
  · obtain ⟨-, -, -, -, ⟨-, hcontent_eq'⟩ | ⟨attachment', hone', -⟩⟩ := call_eq_ok hmade'
    · rw [hcontent_eq, hcontent_eq']
    · rw [hnone] at hone'
      cases hone'
  · obtain ⟨-, -, -, -, ⟨hnone', -⟩ | ⟨attachment', hone', hcontent_eq'⟩⟩ := call_eq_ok hmade'
    · rw [hone] at hnone'
      cases hnone'
    · cases hone.symm.trans hone'
      rw [hcontent_eq, hcontent_eq']

/-- The requests of two deliveries with one identifier have the same hash exactly if the
messages are the same. -/
theorem Delivers.requestHash_eq_iff {sha256 : ByteArray → String}
    (hsha256 : Function.Injective sha256) {tenantId traceId traceId' : Uuid}
    {tenantSlug : String} {payload payload' : WebhookEmailPayload}
    {message message' : InboundMessage} {made made' : EnqueueCall}
    (h : Delivers tenantId tenantSlug payload message traceId made)
    (h' : Delivers tenantId tenantSlug payload' message' traceId' made')
    (hprovider : message.providerId = message'.providerId) :
    made.requestHash sha256 = made'.requestHash sha256 ↔ message = message' := by
  rw [EnqueueCall.requestHash_eq_iff hsha256, EnqueueCall.canonicalPayload_eq_iff hsha256]
  constructor
  · exact fun hcontent => message_of_content h.message_eq h'.message_eq h.call_eq h'.call_eq
      hprovider hcontent
  · intro heq
    subst heq
    exact content_of_message h.call_eq h'.call_eq

/-- In every run of enqueue calls, webhook messages among them, two deliveries to a tenant
that are both accepted have the same job exactly if the provider gave them the same
identifier, and then the whole messages are the same. -/
theorem deliveries_same_job_iff (services : IntakeServices) (slugOf : Uuid → String)
    (hsha256 : Function.Injective services.sha256) {state : EnqueueState}
    (hreachable : (enqueueMachine services).ReachableWith
      (fun state label => label.Resolvable services slugOf state) state)
    {tenantId traceId traceId' : Uuid} {tenantSlug : String}
    {payload payload' : WebhookEmailPayload} {message message' : InboundMessage}
    {made made' : EnqueueCall} {process process' : ℕ} {result result' : EnqueueResult}
    (hdelivers : Delivers tenantId tenantSlug payload message traceId made)
    (hdelivers' : Delivers tenantId tenantSlug payload' message' traceId' made')
    (hprocess : state.processes process = .returned made (.ok result))
    (hprocess' : state.processes process' = .returned made' (.ok result')) :
    (result.jobId = result'.jobId ↔ message.providerId = message'.providerId) ∧
      (message.providerId = message'.providerId → message = message') := by
  have hinvariant := enqueueInvariant_of_reachable hreachable
  have hsettled := hinvariant.processes process
  have hsettled' := hinvariant.processes process'
  rw [hprocess] at hsettled
  rw [hprocess'] at hsettled'
  obtain ⟨record, hrecord, job, hjob, hpaired, hjobId, -, hscope, hhash⟩ :=
    Settled.record_of_ok hsettled
  obtain ⟨record', hrecord', job', hjob', hpaired', hjobId', -, hscope', hhash'⟩ :=
    Settled.record_of_ok hsettled'
  rw [hdelivers.scope_eq, Option.some.injEq] at hscope
  rw [hdelivers'.scope_eq, Option.some.injEq] at hscope'
  have hrecords : message.providerId = message'.providerId → record = record' := by
    intro hprovider
    refine hinvariant.rows.scopes_unique.eq hrecord hrecord' ?_
    rw [← hscope, ← hscope', hprovider]
  refine ⟨⟨fun hsame => ?_, fun hprovider => ?_⟩, fun hprovider => ?_⟩
  · have hjobs : job = job' :=
      hinvariant.rows.jobs_unique.eq hjob hjob' (hjobId.trans (hsame.trans hjobId'.symm))
    have heq : record = record' :=
      hinvariant.rows.record_jobs_unique.eq hrecord hrecord'
        (by rw [hpaired.2, hpaired'.2, hjobs])
    have hkeys : (tenantId, webhookKey message.providerId) =
        (tenantId, webhookKey message'.providerId) := by
      rw [hscope, hscope', heq]
    exact webhookKey_injective (Prod.mk.inj hkeys).2
  · have heq := hrecords hprovider
    rw [← hjobId, ← hjobId', hinvariant.rows.job_eq hjob hjob' hpaired (heq ▸ hpaired')]
  · have heq := hrecords hprovider
    have hhashes : made.requestHash services.sha256 = made'.requestHash services.sha256 := by
      rw [← hhash, ← hhash', heq]
    exact (hdelivers.requestHash_eq_iff hsha256 hdelivers' hprovider).1 hhashes

/-- Once a delivery has been accepted, a delivery with the same identifier is answered from
its record: the same message with the same job and trace, whatever trace the second request
had, and any other message with a conflict. -/
theorem redelivery_answered (services : IntakeServices) (slugOf : Uuid → String)
    (hsha256 : Function.Injective services.sha256) {state final : EnqueueState}
    (hreachable : (enqueueMachine services).ReachableWith
      (fun state label => label.Resolvable services slugOf state) state)
    (hlater : ((enqueueMachine services).startingAt state).ReachableWith
      (fun state label => label.Resolvable services slugOf state) final)
    {tenantId traceId traceId' : Uuid} {tenantSlug : String}
    {payload payload' : WebhookEmailPayload} {message message' : InboundMessage}
    {made made' : EnqueueCall} {process process' : ℕ} {result : EnqueueResult}
    {outcome : Except AppError EnqueueResult}
    (hdelivers : Delivers tenantId tenantSlug payload message traceId made)
    (hdelivers' : Delivers tenantId tenantSlug payload' message' traceId' made')
    (hprovider : message.providerId = message'.providerId)
    (hprocess : state.processes process = .returned made (.ok result))
    (hidle : state.processes process' = .idle)
    (hprocess' : final.processes process' = .returned made' outcome) :
    (message' = message → outcome = .ok ⟨result.jobId, false, result.traceId⟩) ∧
      (message' ≠ message →
        outcome = .error (.idempotencyConflict "idempotency key conflicts with request")) := by
  have hsettled := (enqueueInvariant_of_reachable hreachable).processes process
  rw [hprocess] at hsettled
  obtain ⟨record, hrecord, job, hjob, hpaired, hjobId, htrace, hscope, hhash⟩ :=
    Settled.record_of_ok hsettled
  obtain ⟨-, hanswered⟩ := answeredFrom_of_later hreachable hrecord hidle hlater
  rw [hprocess'] at hanswered
  have hscope' : made'.scope = some record.scope := by
    rw [← hscope, hdelivers.scope_eq, hdelivers'.scope_eq, hprovider]
  obtain ⟨answered, hmem, hansweredPaired, rfl⟩ := hanswered hscope'
  have hkept : job ∈ final.db.jobs := by
    refine hlater.invariant (P := fun final => job ∈ final.db.jobs) ?_ ?_
    · rintro _ rfl
      exact hjob
    · exact fun _ _ _ _ hmem _ hstep => (enqueueTaken_of_step hstep).extends.jobs _ hmem
  have hrows := (enqueueInvariant_of_reachable (hreachable.later hlater)).rows
  have heq : answered = job := hrows.job_eq hmem hkept hansweredPaired hpaired
  have hhashes := hdelivers.requestHash_eq_iff hsha256 hdelivers' hprovider
  rw [heq, repeatAnswer, hhash, hjobId, htrace]
  constructor
  · rintro rfl
    exact if_pos (hhashes.2 rfl)
  · exact fun hne => if_neg fun hsame => hne (hhashes.1 hsame).symm

/-! ### A message that is delivered twice -/

/-- What is hashed for the message below. -/
def examplePayloadText : String :=
  "\x7b\"body\":\"Two beds\",\"channel\":\"email_webhook\",\"sender\":\"ana@example.com\"," ++
    "\"subject\":\"Booking\"\x7d"

/-- SHA-256 on that text. -/
def webhookSha256 (bytes : ByteArray) : String :=
  if bytes.data.toList = examplePayloadText.toUTF8.data.toList then
    "d1637333bfa6a64b9e623593240ff196d18bc12e47318023c27277f265b823b3"
  else latin1 bytes

theorem webhookSha256_injective : Function.Injective webhookSha256 := by
  intro left right h
  unfold webhookSha256 at h
  split_ifs at h with hleft hright hright
  · exact ofList_data_injective (hleft.trans hright.symm)
  · exact absurd h.symm (latin1_ne (by decide))
  · exact absurd h (latin1_ne (by decide))
  · exact latin1_injective h

def webhookServices : IntakeServices where
  sha256 := webhookSha256
  resolvePersisted _ sha256 slug := sha256 = exampleProfile.sha256 ∧ slug = "north"

def exampleEmailPayload : WebhookEmailPayload where
  providerId := "m-1"
  fromAddr := "ana@example.com"
  subject := " Booking"
  body := "Two beds"
  attachments := []
  providerId_valid := by decide
  fromAddr_valid := by decide
  subject_valid := by decide
  body_valid := by decide
  attachments_valid := by decide
  body_or_attachment := by decide

def exampleMessage : InboundMessage :=
  ⟨1, "north", "email_webhook", "ana@example.com", "Booking", "Two beds", [], "m-1"⟩

/-- The command for the message, in a request with the trace identifier. -/
def exampleDelivery (traceId : Uuid) : EnqueueIntakeCommand :=
  ⟨1, "north", ⟨"email_webhook", "Booking", "Two beds", none, some "ana@example.com"⟩,
    "email_webhook:m-1", traceId, ⟨false⟩⟩

theorem exampleDelivery_delivers (traceId : Uuid) :
    Delivers 1 "north" exampleEmailPayload exampleMessage traceId
      (.enqueue (exampleDelivery traceId)) :=
  ⟨rfl, rfl⟩

/-- The first delivery is committed. -/
def deliverySteps : List EnqueueStep :=
  [.enqueue 0 (exampleDelivery 7) exampleProfile, .lookup 0, .insertJob 0 100 0,
    .insertRecord 0, .commit 0]

/-- The second one finds its record. -/
def redeliverySteps : List EnqueueStep :=
  [.enqueue 1 (exampleDelivery 8) exampleProfile, .lookup 1]

theorem deliverySteps_resolvable : ∀ label ∈ deliverySteps ++ redeliverySteps, ∀ state,
    label.Resolvable webhookServices (fun _ => "north") state := by
  intro label hlabel state
  simp only [deliverySteps, redeliverySteps, List.cons_append, List.nil_append, List.mem_cons,
    List.not_mem_nil, or_false] at hlabel
  rcases hlabel with rfl | rfl | rfl | rfl | rfl | rfl | rfl <;> trivial

def deliveredState : EnqueueState :=
  ((enqueueMachine webhookServices).run idleIntake deliverySteps).getD idleIntake

def redeliveredState : EnqueueState :=
  ((enqueueMachine webhookServices).run deliveredState redeliverySteps).getD deliveredState

theorem deliveredState_reachable :
    (enqueueMachine webhookServices).ReachableWith
      (fun state label => label.Resolvable webhookServices (fun _ => "north") state)
      deliveredState := by
  have hrun : (enqueueMachine webhookServices).run idleIntake deliverySteps =
      some deliveredState := rfl
  refine .run (.initial (idleIntake_initial webhookServices)) deliverySteps ?_ hrun
  exact fun label hlabel => deliverySteps_resolvable label (List.mem_append_left _ hlabel)

theorem redeliveredState_later :
    ((enqueueMachine webhookServices).startingAt deliveredState).ReachableWith
      (fun state label => label.Resolvable webhookServices (fun _ => "north") state)
      redeliveredState := by
  have hrun : (enqueueMachine webhookServices).run deliveredState redeliverySteps =
      some redeliveredState := rfl
  refine .run (.initial rfl) redeliverySteps ?_ hrun
  exact fun label hlabel => deliverySteps_resolvable label (List.mem_append_right _ hlabel)

set_option maxRecDepth 20000 in
theorem redeliveredState_answered :
    redeliveredState.processes 1 =
      .returned (.enqueue (exampleDelivery 8)) (.ok ⟨100, false, 7⟩) := (rfl)

theorem deliveredState_created :
    deliveredState.processes 0 =
      .returned (.enqueue (exampleDelivery 7)) (.ok ⟨100, true, 7⟩) := (rfl)

theorem redeliveredState_created :
    redeliveredState.processes 0 =
      .returned (.enqueue (exampleDelivery 7)) (.ok ⟨100, true, 7⟩) := (rfl)

/-- Both deliveries have one job. -/
theorem deliveries_same_job_iff_repeated : ∃ result result',
    redeliveredState.processes 0 = .returned (.enqueue (exampleDelivery 7)) (.ok result) ∧
      redeliveredState.processes 1 = .returned (.enqueue (exampleDelivery 8)) (.ok result') ∧
      result.jobId = result'.jobId :=
  ⟨_, _, redeliveredState_created, redeliveredState_answered,
    (deliveries_same_job_iff webhookServices (fun _ => "north") webhookSha256_injective
      (deliveredState_reachable.later redeliveredState_later) (exampleDelivery_delivers 7)
      (exampleDelivery_delivers 8) redeliveredState_created redeliveredState_answered).1.2 rfl⟩

/-- The second delivery is answered with the trace of the first. -/
theorem redelivery_answered_repeated : ∃ outcome,
    redeliveredState.processes 1 = .returned (.enqueue (exampleDelivery 8)) outcome ∧
      outcome = .ok ⟨100, false, 7⟩ :=
  ⟨_, redeliveredState_answered,
    (redelivery_answered webhookServices (fun _ => "north") webhookSha256_injective
      deliveredState_reachable redeliveredState_later (exampleDelivery_delivers 7)
      (exampleDelivery_delivers 8) rfl deliveredState_created rfl redeliveredState_answered).1 rfl⟩

end IntegraIntake
