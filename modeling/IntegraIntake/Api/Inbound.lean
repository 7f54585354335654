import IntegraIntake.Api.BodyLimit
import IntegraIntake.Auth.ApiKeys
import IntegraIntake.Inbound.Service

/-!
# The webhook endpoint

`read_bounded_inbound_body` and `get_current_inbound_tenant` of `app/auth/inbound_webhook.py`
and `receive_email_webhook` of `app/api/inbound.py`.  The body is read once, for the
signature, and what was signed is what is parsed.

The reader has a limit of its own, the same as that of the middleware around it.  For every
way in which a client can cut a body into messages, the body is the bytes together or the
response is 413 (`webhook_body`), with the middleware and without it.
-/

namespace IntegraIntake

open Library InboundWebhook

/-! ## Reading the body -/

/-- What reading a body raises besides `HTTPException`. -/
inductive ReadError where
  | clientDisconnect
  deriving DecidableEq, Repr

/-- Where the reader stands; a response that is decided is only sent. -/
inductive BodyReader where
  | reading (total : ℕ) (chunks : List Bytes)
  | raised (error : Raised ReadError)
  | responding (rest : List AsgiSend)

/-- The exception of a body over the limit. -/
def bodyTooLarge : HttpException := ⟨413, "Inbound webhook body too large"⟩

/-- The check of `read_bounded_inbound_body` on the header: a length that is no number
counts as zero. -/
def declaredTooLarge (scope : Scope) : Bool :=
  match (headerValue scope contentLengthName).bind PyInt.int with
  | none => false
  | some declared => (maxInboundWebhookBodyBytes : ℤ) < declared

/-- What is sent for an exception of the handler. -/
def HttpException.response (error : HttpException) : List AsgiSend :=
  jsonResponse error.statusCode error.detail

/-- One turn of the loop over `request.stream()`; the rest of the handler is the function
`respond` of the body.  An empty message adds nothing to the body. -/
def readMessage (respond : Bytes → List AsgiSend) (total : ℕ) (chunks : List Bytes) :
    Except (Raised ReadError) AsgiMessage → BodyReader
  | .error error => .raised error
  | .ok .httpDisconnect => .raised (.other .clientDisconnect)
  | .ok (.httpRequest body moreBody) =>
    if maxInboundWebhookBodyBytes < total + body.length then .responding bodyTooLarge.response
    else if moreBody then .reading (total + body.length) (chunks ++ [body])
    else .responding (respond (chunks ++ [body]).flatten)

/-- `read_bounded_inbound_body`. -/
def readBoundedInboundBody (respond : Bytes → List AsgiSend) :
    Application BodyReader AsgiMessage AsgiSend (Raised ReadError)
  | .reading total chunks => .receive (readMessage respond total chunks)
  | .raised error => .finish (.error error)
  | .responding [] => .finish (.ok ())
  | .responding (out :: rest) => .send out (.responding rest)

/-- Where the reader of a body begins. -/
def readerStart (scope : Scope) : BodyReader :=
  if declaredTooLarge scope then .responding bodyTooLarge.response else .reading 0 []

/-- The messages of a body: all but the last say that there is more. -/
def bodyMessages (chunks : List Bytes) (last : Bytes) : List AsgiMessage :=
  chunks.map (.httpRequest · true) ++ [.httpRequest last false]

section Reader

variable {respond : Bytes → List AsgiSend}

theorem step_reader {total : ℕ} {read : List Bytes} {message : AsgiMessage}
    {rest delivered : List AsgiMessage} {sent : List AsgiSend} :
    (readBoundedInboundBody respond).step
        ⟨.reading total read, message :: rest, delivered, sent⟩ =
      ⟨readMessage respond total read (.ok message), rest, delivered ++ [message], sent⟩ :=
  Application.step_receive rfl rfl

/-- The reader goes over messages that are within the limit. -/
theorem run_reader (chunks read : List Bytes) {total : ℕ} {rest delivered : List AsgiMessage}
    {sent : List AsgiSend}
    (hle : total + chunks.flatten.length ≤ maxInboundWebhookBodyBytes) :
    (readBoundedInboundBody respond).run
        ⟨.reading total read, chunks.map (.httpRequest · true) ++ rest, delivered, sent⟩
        chunks.length =
      ⟨.reading (total + chunks.flatten.length) (read ++ chunks), rest,
        delivered ++ chunks.map (.httpRequest · true), sent⟩ := by
  induction chunks generalizing total read delivered with
  | nil => simp [Application.run]
  | cons chunk chunks ih =>
      rw [List.flatten_cons, List.length_append] at hle ⊢
      have hread : readMessage respond total read (.ok (.httpRequest chunk true)) =
          .reading (total + chunk.length) (read ++ [chunk]) := by
        rw [readMessage, if_neg (by omega), if_pos rfl]
      rw [List.length_cons, Application.run_step, List.map_cons, List.cons_append, step_reader,
        hread, ih _ (by omega)]
      simp [Nat.add_assoc]

theorem run_responding {connection : Connection BodyReader AsgiMessage AsgiSend}
    {rest : List AsgiSend} (hstate : connection.state = .responding rest) (k : ℕ) :
    (readBoundedInboundBody respond).run connection (rest.length + k) =
      { connection with state := .responding [], sent := connection.sent ++ rest } :=
  Application.run_sends (readBoundedInboundBody respond) .responding rfl (fun _ _ => rfl) hstate k

theorem reader_receive {state : BodyReader}
    {resume : Except (Raised ReadError) AsgiMessage → BodyReader}
    (haction : readBoundedInboundBody respond state = .receive resume) :
    ∃ total chunks, resume = readMessage respond total chunks := by
  unfold readBoundedInboundBody at haction
  split at haction <;> cases haction
  exact ⟨_, _, rfl⟩

theorem reader_send {state next : BodyReader} {out : AsgiSend}
    (haction : readBoundedInboundBody respond state = .send out next) :
    ∃ rest, next = .responding rest := by
  unfold readBoundedInboundBody at haction
  split at haction <;> cases haction
  exact ⟨_, rfl⟩

theorem reader_finish {state : BodyReader} {error : Raised ReadError}
    (haction : readBoundedInboundBody respond state = .finish (.error error)) :
    state = .raised error := by
  unfold readBoundedInboundBody at haction
  split at haction <;> cases haction
  rfl

theorem readMessage_ne (total : ℕ) (chunks : List Bytes) (message : AsgiMessage) :
    readMessage respond total chunks (.ok message) ≠ .raised .requestBodyTooLarge := by
  unfold readMessage
  split
  · rename_i heq
    cases heq
  · exact fun h => by cases h
  · split_ifs <;> exact BodyReader.noConfusion

/-- The exception of the middleware does not come from the reader. -/
theorem reader_raisesOwn (respond : Bytes → List AsgiSend) (scope : Scope)
    (messages : List AsgiMessage) :
    RaisesOwn (readBoundedInboundBody respond) (readerStart scope) messages := by
  intro n hraises
  refine absurd (reader_finish hraises) ?_
  induction n with
  | zero =>
      show readerStart scope ≠ _
      unfold readerStart
      split <;> exact BodyReader.noConfusion
  | succ n ih =>
      rw [Application.run] at hraises ⊢
      generalize (readBoundedInboundBody respond).run (.start (readerStart scope) messages) n =
        connection at ih hraises ⊢
      rcases Application.step_cases (readBoundedInboundBody respond) connection with
        ⟨hsame, -⟩ | ⟨resume, message, rest, haction, -, hstep⟩ | ⟨out, next, haction, hstep⟩
      · rw [hsame] at hraises ⊢
        exact ih hraises
      · obtain ⟨total, chunks, rfl⟩ := reader_receive haction
        rw [hstep]
        exact readMessage_ne total chunks message
      · obtain ⟨left, rfl⟩ := reader_send haction
        rw [hstep]
        exact BodyReader.noConfusion

theorem declaredTooLarge_eq_false_iff (scope : Scope) :
    declaredTooLarge scope = false ↔ DeclaredWithin scope maxInboundWebhookBodyBytes := by
  unfold declaredTooLarge DeclaredWithin declaredContentLength
  cases headerValue scope contentLengthName with
  | none => simp
  | some value =>
      cases hvalue : PyInt.int value with
      | none => simp [hvalue]
      | some declared =>
          by_cases hneg : 0 ≤ declared
          · simp [hvalue, hneg]
          · have hle : declared ≤ (maxInboundWebhookBodyBytes : ℤ) := by omega
            simp [hvalue, hneg, hle]

theorem bodySize_bodyMessages (chunks : List Bytes) (last : Bytes) :
    bodySize (bodyMessages chunks last) = (chunks ++ [last]).flatten.length := by
  induction chunks with
  | nil => simp [bodyMessages, bodySize, AsgiMessage.size]
  | cons chunk chunks ih =>
      simp only [bodyMessages, bodySize, List.map_cons, List.cons_append, List.sum_cons,
        List.flatten_cons, List.length_append, AsgiMessage.size] at ih ⊢
      omega

/-- The message with which a body goes over the limit. -/
theorem exists_overflow {chunks : List Bytes} {last : Bytes} {total limit : ℕ}
    (hle : total ≤ limit) (hover : limit < total + (chunks ++ [last]).flatten.length) :
    ∃ (before : List Bytes) (body : Bytes) (moreBody : Bool) (rest : List AsgiMessage),
      bodyMessages chunks last =
        before.map (.httpRequest · true) ++ .httpRequest body moreBody :: rest ∧
      total + before.flatten.length ≤ limit ∧
      limit < total + before.flatten.length + body.length := by
  induction chunks generalizing total with
  | nil =>
      refine ⟨[], last, false, [], rfl, by simpa using hle, ?_⟩
      simpa using hover
  | cons chunk chunks ih =>
      rw [List.cons_append, List.flatten_cons, List.length_append] at hover
      by_cases hchunk : limit < total + chunk.length
      · exact ⟨[], chunk, true, bodyMessages chunks last, rfl, by simpa using hle,
          by simpa using hchunk⟩
      · have hle' : total + chunk.length ≤ limit := not_lt.1 hchunk
        obtain ⟨before, body, moreBody, rest, hmessages, hbefore, hlast⟩ := ih hle' (by omega)
        refine ⟨chunk :: before, body, moreBody, rest, ?_, ?_, ?_⟩
        · rw [List.map_cons, List.cons_append, ← hmessages]
          rfl
        · rw [List.flatten_cons, List.length_append]
          omega
        · rw [List.flatten_cons, List.length_append]
          omega

/-- A POST to the webhook. -/
structure IsWebhookPost (scope : Scope) : Prop where
  type : scope.type = "http"
  method : scope.method = "POST"
  path : scope.path = webhookPath

theorem IsWebhookPost.requestLimit {scope : Scope} (h : IsWebhookPost scope) :
    requestLimit scope = some maxInboundWebhookBodyBytes := by
  simp [IntegraIntake.requestLimit, h.type, h.method, h.path]

/-- The middleware and the reader say the same about a body that is too large. -/
theorem IsWebhookPost.tooLarge {scope : Scope} (h : IsWebhookPost scope) :
    tooLarge scope = bodyTooLarge.response := by
  rw [IntegraIntake.tooLarge, if_pos h.path]
  rfl

/-- What the client is answered. -/
def bodyResponse (scope : Scope) (respond : Bytes → List AsgiSend) (body : Bytes) :
    List AsgiSend :=
  if declaredTooLarge scope = false ∧ body.length ≤ maxInboundWebhookBodyBytes then respond body
  else bodyTooLarge.response

/-- The reader up to the end of a body that is within the limit. -/
theorem run_reader_within (chunks : List Bytes) (last : Bytes)
    (hle : (chunks ++ [last]).flatten.length ≤ maxInboundWebhookBodyBytes) (k : ℕ) :
    ((readBoundedInboundBody respond).run
        (.start (.reading 0 []) (bodyMessages chunks last))
        (chunks.length + ((respond (chunks ++ [last]).flatten).length + k + 1))).sent =
      respond (chunks ++ [last]).flatten := by
  have hsplit : (chunks ++ [last]).flatten.length = chunks.flatten.length + last.length := by
    simp
  have hread : readMessage respond (0 + chunks.flatten.length) ([] ++ chunks)
      (.ok (.httpRequest last false)) = .responding (respond (chunks ++ [last]).flatten) := by
    rw [readMessage, if_neg (by omega)]
    rfl
  rw [Application.run_add, bodyMessages, Connection.start, run_reader chunks [] (by omega),
    Application.run_step, step_reader, hread, run_responding rfl]
  rfl

/-- The reader up to the message that goes over the limit. -/
theorem run_reader_over {before : List Bytes} {body : Bytes} {moreBody : Bool}
    {rest : List AsgiMessage} (hle : 0 + before.flatten.length ≤ maxInboundWebhookBodyBytes)
    (hover : maxInboundWebhookBodyBytes < 0 + before.flatten.length + body.length) (k : ℕ) :
    ((readBoundedInboundBody respond).run
        (.start (.reading 0 [])
          (before.map (.httpRequest · true) ++ .httpRequest body moreBody :: rest))
        (before.length + (bodyTooLarge.response.length + k + 1))).sent =
      bodyTooLarge.response := by
  have hread : readMessage respond (0 + before.flatten.length) ([] ++ before)
      (.ok (.httpRequest body moreBody)) = .responding bodyTooLarge.response := by
    rw [readMessage, if_pos hover]
  rw [Application.run_add, Connection.start, run_reader before [] hle, Application.run_step,
    step_reader, hread, run_responding rfl]
  rfl

theorem bodySize_delivered_le {σ ε : Type}
    (app : Application σ AsgiMessage AsgiSend (Raised ε)) (first : σ)
    (messages : List AsgiMessage) (n : ℕ) :
    bodySize (app.run (.start first messages) n).delivered ≤ bodySize messages := by
  have hall : (app.run (.start first messages) n).delivered ++
      (app.run (.start first messages) n).pending = messages :=
    Application.delivered_append_pending app (.start first messages) n
  conv_rhs => rw [← hall]
  rw [bodySize, bodySize, List.map_append, List.sum_append]
  exact Nat.le_add_right _ _

/-- Once a run has sent everything, it does not matter how long it is. -/
theorem exists_forall_ge {P : ℕ → Prop} (N : ℕ) (h : ∀ k, P (N + k)) : ∃ N, ∀ n ≥ N, P n :=
  ⟨N, fun n hn => Nat.add_sub_cancel' hn ▸ h (n - N)⟩

/-- However a client cuts the body into messages, it is answered for the bytes together,
or with 413 if they or the declared length are over the limit.  The reader alone and the
reader inside the middleware answer alike. -/
theorem webhook_body {scope : Scope} (hpost : IsWebhookPost scope)
    (respond : Bytes → List AsgiSend) (chunks : List Bytes) (last : Bytes) :
    ∃ N, ∀ n ≥ N,
      ((readBoundedInboundBody respond).run
          (.start (readerStart scope) (bodyMessages chunks last)) n).sent =
        bodyResponse scope respond (chunks ++ [last]).flatten ∧
      ((limited scope (readBoundedInboundBody respond)).run
          (.start (callStart scope (readerStart scope)) (bodyMessages chunks last)) n).sent =
        bodyResponse scope respond (chunks ++ [last]).flatten := by
  have hlimit := hpost.requestLimit
  cases hdeclared : declaredTooLarge scope with
  | true =>
      have hnot : ¬ DeclaredWithin scope maxInboundWebhookBodyBytes := by
        rw [← declaredTooLarge_eq_false_iff, hdeclared]
        decide
      have hresponse : bodyResponse scope respond (chunks ++ [last]).flatten =
          bodyTooLarge.response := if_neg (by simp [hdeclared])
      have hstart : readerStart scope = .responding bodyTooLarge.response := if_pos hdeclared
      refine exists_forall_ge bodyTooLarge.response.length fun k => ?_
      have hunder := run_limited_of_declared hlimit hnot (readBoundedInboundBody respond)
        (readerStart scope) (bodyMessages chunks last) k
      rw [hpost.tooLarge] at hunder
      rw [hunder, hresponse, hstart, run_responding rfl]
      exact ⟨rfl, rfl⟩
  | false =>
      have hwithin := (declaredTooLarge_eq_false_iff scope).1 hdeclared
      have hstart : readerStart scope = .reading 0 [] := by
        rw [readerStart, hdeclared]
        rfl
      have hown := reader_raisesOwn respond scope (bodyMessages chunks last)
      by_cases hle : (chunks ++ [last]).flatten.length ≤ maxInboundWebhookBodyBytes
      · have hresponse : bodyResponse scope respond (chunks ++ [last]).flatten =
            respond (chunks ++ [last]).flatten := if_pos ⟨hdeclared, hle⟩
        have hsize : bodySize (bodyMessages chunks last) ≤ maxInboundWebhookBodyBytes := by
          rwa [bodySize_bodyMessages]
        have hunder := fun n => run_limited_of_le hlimit hwithin hown
          ((bodySize_delivered_le _ _ _ n).trans hsize)
        refine exists_forall_ge
          (chunks.length + ((respond (chunks ++ [last]).flatten).length + 1)) fun k => ?_
        have hcount : chunks.length + ((respond (chunks ++ [last]).flatten).length + 1) + k =
            chunks.length + ((respond (chunks ++ [last]).flatten).length + k + 1) := by
          omega
        rw [hunder, hresponse, hstart, hcount]
        exact ⟨run_reader_within chunks last hle k, run_reader_within chunks last hle k⟩
      · have hresponse : bodyResponse scope respond (chunks ++ [last]).flatten =
            bodyTooLarge.response := if_neg fun h => hle h.2
        have hover : maxInboundWebhookBodyBytes < 0 + (chunks ++ [last]).flatten.length := by
          omega
        obtain ⟨before, body, moreBody, rest, hmessages, hbefore, hlast⟩ :=
          exists_overflow (Nat.zero_le _) hover
        have hread : (readBoundedInboundBody respond).run
            (.start (readerStart scope) (bodyMessages chunks last)) before.length =
            ⟨.reading (0 + before.flatten.length) ([] ++ before),
              .httpRequest body moreBody :: rest,
              [] ++ before.map (.httpRequest · true), []⟩ := by
          rw [hstart, hmessages]
          exact run_reader before [] hbefore
        have hsize : bodySize (before.map (AsgiMessage.httpRequest · true)) =
            before.flatten.length := by
          simp [bodySize, AsgiMessage.size, Function.comp_def, List.length_flatten]
        refine exists_forall_ge (before.length + 1 + bodyTooLarge.response.length) fun k => ?_
        have hdelivered : bodySize ((readBoundedInboundBody respond).run
            (.start (readerStart scope) (bodyMessages chunks last)) before.length).delivered =
            before.flatten.length := by
          rw [hread]
          exact hsize
        have haction : readBoundedInboundBody respond ((readBoundedInboundBody respond).run
            (.start (readerStart scope) (bodyMessages chunks last)) before.length).state =
            .receive (readMessage respond (0 + before.flatten.length) ([] ++ before)) := by
          rw [hread]
          rfl
        have hpending : ((readBoundedInboundBody respond).run
            (.start (readerStart scope) (bodyMessages chunks last)) before.length).pending =
            .httpRequest body moreBody :: rest := by
          rw [hread]
        have hunder := run_limited_of_lt hlimit hwithin hown (by omega) haction hpending
          (by rw [hdelivered, AsgiMessage.size]; omega) rfl k
        rw [hpost.tooLarge] at hunder
        have hcount : before.length + 1 + bodyTooLarge.response.length + k =
            before.length + (bodyTooLarge.response.length + k + 1) := by
          omega
        rw [hunder, hread, hresponse, hcount, hstart, hmessages]
        exact ⟨run_reader_over hbefore hlast k, rfl⟩

end Reader

def webhookScope : Scope := ⟨"http", "POST", webhookPath, []⟩

/-- A body in two messages is answered as one. -/
theorem webhook_body_two_messages : ∃ N, ∀ n ≥ N,
    ((readBoundedInboundBody fun _ => jsonResponse 202 "queued").run
        (.start (readerStart webhookScope) (bodyMessages [[0x7B]] [0x7D])) n).sent =
      bodyResponse webhookScope (fun _ => jsonResponse 202 "queued") [0x7B, 0x7D] := by
  have hpost : IsWebhookPost webhookScope := ⟨rfl, rfl, rfl⟩
  obtain ⟨N, hN⟩ := webhook_body hpost (fun _ => jsonResponse 202 "queued") [[0x7B]] [0x7D]
  exact ⟨N, fun n hn => (hN n hn).1⟩

/-! ## The handler -/

/-- What the endpoint takes from outside. -/
structure InboundBoundary where
  hmac : HmacSha256
  /-- `hashlib.sha256(key).hexdigest()`. -/
  hashKey : Bytes → String
  /-- `int(time.time())`. -/
  clock : ℤ
  parseJson : Bytes → Option Json
  resources : IntakeResources

/-- A request whose body has been read. -/
structure InboundRequest where
  contentType : Option PyText
  apiKey : Option PyText
  timestamp : Option PyText
  signature : Option PyText
  body : Bytes

/-- What a handler raises. -/
inductive EndpointError where
  | http (error : HttpException)
  | auth (error : AuthError)
  | unhandled (error : AppError)
  deriving DecidableEq, Repr

/-- The `except` clauses of `receive_email_webhook`, in their order. -/
def webhookError : AppError → EndpointError
  | .idempotencyConflict _ => .http ⟨409, "Idempotency-Key conflicts with request"⟩
  | .tenantProfileUnavailable => .http ⟨503, "Tenant profile unavailable"⟩
  | .valueError _ => .http ⟨422, "Invalid inbound payload"⟩
  | .documentCapabilityUnavailable _ => .http ⟨422, "Invalid inbound payload"⟩
  | error => .unhandled error

/-- `IntakeAcceptedResponse`. -/
structure IntakeAcceptedResponse where
  jobId : Uuid
  status : String
  deriving DecidableEq

end IntegraIntake
