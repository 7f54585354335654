import IntegraIntake.Inbound.Models
import IntegraIntake.Library.Application

/-!
# The limit on request bodies

`RequestBodyLimitMiddleware` of `app/api/body_limit.py`, around any ASGI application.  The
middleware counts the bytes of a POST body as the application takes them, and raises out
of the receive that goes over the limit.

* `limitKept_run`: whatever the application does with the exception, and however often
  it receives again, it never has more than the limit;
* `run_limited_of_le`: up to the limit it runs as it would alone;
* `run_limited_of_lt`: if it lets the exception through, then what it had sent is followed
  by the response 413, and nothing else comes of it.
-/

namespace IntegraIntake

open Library InboundWebhook

/-! ## Requests -/

/-- What an ASGI server lets an application receive. -/
inductive AsgiMessage where
  | httpRequest (body : Bytes) (moreBody : Bool)
  | httpDisconnect
  deriving DecidableEq, Repr

/-- What an application sends: the parts of a response. -/
inductive AsgiSend where
  | responseStart (statusCode : ℕ)
  | responseBody (content : Json)

/-- The entries of an ASGI scope that the middleware looks at. -/
structure Scope where
  type : String
  method : String
  path : String
  headers : List (Bytes × Bytes)

/-- `bytes.lower`. -/
def lowerByte (byte : UInt8) : UInt8 :=
  if 0x41 ≤ byte ∧ byte ≤ 0x5A then byte + 0x20 else byte

/-- `bytes.decode("latin-1")`. -/
def decodeLatin1 (value : Bytes) : PyText := value.map fun byte => Fin.ofNat _ byte.toNat

/-- `MAX_API_REQUEST_BODY_BYTES`. -/
def maxApiRequestBodyBytes : ℕ := 1024 * 1024

/-- The path with the limit of the webhook. -/
def webhookPath : String := "/v1/inbound/email/webhook"

/-- `_header_value`. -/
def headerValue (scope : Scope) (name : Bytes) : Option PyText :=
  (scope.headers.find? fun header => header.1.map lowerByte = name).map fun header =>
    decodeLatin1 header.2

/-- The header that declares the length of a body. -/
def contentLengthName : Bytes := "content-length".toUTF8.toList

/-- `_declared_content_length`. -/
def declaredContentLength (scope : Scope) : Option ℤ :=
  match headerValue scope contentLengthName with
  | none => none
  | some value =>
    match PyInt.int value with
    | none => none
    | some parsed => if 0 ≤ parsed then some parsed else none

/-- `_request_limit`. -/
def requestLimit (scope : Scope) : Option ℕ :=
  if scope.type ≠ "http" ∨ scope.method ≠ "POST" then none
  else if scope.path = webhookPath then some maxInboundWebhookBodyBytes
  else some maxApiRequestBodyBytes

/-! ## The middleware -/

/-- What runs inside the middleware may raise `_RequestBodyTooLarge`, or anything else. -/
inductive Raised (ε : Type) where
  | requestBodyTooLarge
  | other (error : ε)
  deriving DecidableEq, Repr

/-- `JSONResponse({"detail": detail}, status_code=413)`. -/
def jsonResponse (statusCode : ℕ) (detail : String) : List AsgiSend :=
  [.responseStart statusCode, .responseBody (.obj [("detail", .str detail)])]

/-- The response of `_too_large`. -/
def tooLarge (scope : Scope) : List AsgiSend :=
  jsonResponse 413 (if scope.path = webhookPath then "Inbound webhook body too large"
    else "Request body too large")

/-- The bytes of a message that count. -/
def AsgiMessage.size : AsgiMessage → ℕ
  | .httpRequest body _ => body.length
  | .httpDisconnect => 0

/-- Where a call of the middleware stands; `inner` is the state of the application. -/
inductive Limited (σ : Type) where
  /-- There is no limit. -/
  | passing (inner : σ)
  | running (limit total : ℕ) (inner : σ)
  /-- `_too_large`, with what it still sends. -/
  | rejecting (rest : List AsgiSend)

section Middleware

variable {σ ε : Type}

/-- `limited_receive`: the count after a message, and what the application gets. -/
def limitedReceive (limit total : ℕ) (resume : Except (Raised ε) AsgiMessage → σ) :
    Except (Raised ε) AsgiMessage → Limited σ
  | .error error => .running limit total (resume (.error error))
  | .ok .httpDisconnect => .running limit total (resume (.ok .httpDisconnect))
  | .ok (.httpRequest body moreBody) =>
    if limit < total + body.length then
      .running limit (total + body.length) (resume (.error .requestBodyTooLarge))
    else .running limit (total + body.length) (resume (.ok (.httpRequest body moreBody)))

/-- Send what is left of a response, and return. -/
def sendAll : List AsgiSend → Action (Limited σ) AsgiMessage AsgiSend (Raised ε)
  | [] => .finish (.ok ())
  | out :: rest => .send out (.rejecting rest)

/-- `RequestBodyLimitMiddleware.__call__`. -/
def limited (scope : Scope) (app : Application σ AsgiMessage AsgiSend (Raised ε)) :
    Application (Limited σ) AsgiMessage AsgiSend (Raised ε)
  | .passing inner =>
    match app inner with
    | .receive resume => .receive fun result => .passing (resume result)
    | .send out next => .send out (.passing next)
    | .finish result => .finish result
  | .running limit total inner =>
    match app inner with
    | .receive resume => .receive (limitedReceive limit total resume)
    | .send out next => .send out (.running limit total next)
    | .finish (.error .requestBodyTooLarge) => sendAll (tooLarge scope)
    | .finish result => .finish result
  | .rejecting rest => sendAll rest

section Limited

variable {scope : Scope} {app : Application σ AsgiMessage AsgiSend (Raised ε)} {inner : σ}

theorem limited_receive {resume : Except (Raised ε) AsgiMessage → σ}
    (haction : app inner = .receive resume) (limit total : ℕ) :
    limited scope app (.running limit total inner) =
      .receive (limitedReceive limit total resume) := by
  simp only [limited, haction]

theorem limited_send {out : AsgiSend} {next : σ} (haction : app inner = .send out next)
    (limit total : ℕ) :
    limited scope app (.running limit total inner) =
      .send out (.running limit total next) := by
  simp only [limited, haction]

theorem limited_finish {result : Except (Raised ε) Unit} (haction : app inner = .finish result)
    (hne : result ≠ .error .requestBodyTooLarge) (limit total : ℕ) :
    limited scope app (.running limit total inner) = .finish result := by
  cases result with
  | ok value => simp only [limited, haction]
  | error error =>
      cases error with
      | requestBodyTooLarge => exact absurd rfl hne
      | other error => simp only [limited, haction]

theorem limited_tooLarge (haction : app inner = .finish (.error .requestBodyTooLarge))
    (limit total : ℕ) :
    limited scope app (.running limit total inner) = sendAll (tooLarge scope) := by
  simp only [limited, haction]

end Limited

/-- Where a call begins. -/
def callStart (scope : Scope) (inner : σ) : Limited σ :=
  match requestLimit scope with
  | none => .passing inner
  | some limit =>
    match declaredContentLength scope with
    | none => .running limit 0 inner
    | some declared =>
      if (limit : ℤ) < declared then .rejecting (tooLarge scope) else .running limit 0 inner

/-! ## What the application receives -/

/-- The bytes in the messages that an application has received. -/
def received (results : List (Except (Raised ε) AsgiMessage)) : ℕ :=
  (results.map fun result => match result with
    | .ok message => message.size
    | .error _ => 0).sum

theorem received_concat (results : List (Except (Raised ε) AsgiMessage))
    (result : Except (Raised ε) AsgiMessage) :
    received (results ++ [result]) = received results + received [result] := by
  simp [received]

/-- The application has read no more than the limit, and what it sent went out. -/
structure WithinLimit (app : Application σ AsgiMessage AsgiSend (Raised ε)) (first : σ)
    (limit total : ℕ) (sent : List AsgiSend) (inner : σ) : Prop where
  exists_reading : ∃ results, app.Reads first results sent inner ∧ received results ≤ total ∧
    received results ≤ limit

/-- What is known of each state of the middleware. -/
def LimitKept (scope : Scope) (app : Application σ AsgiMessage AsgiSend (Raised ε)) (first : σ)
    (limit : ℕ) (sent : List AsgiSend) : Limited σ → Prop
  | .passing _ => False
  | .running limit' total inner => limit' = limit ∧ WithinLimit app first limit total sent inner
  | .rejecting rest => ∃ before total inner, WithinLimit app first limit total before inner ∧
      sent ++ rest = before ++ tooLarge scope

theorem WithinLimit.receive {app : Application σ AsgiMessage AsgiSend (Raised ε)} {first : σ}
    {limit total : ℕ} {sent : List AsgiSend} {inner : σ}
    (h : WithinLimit app first limit total sent inner)
    {resume : Except (Raised ε) AsgiMessage → σ} (haction : app inner = .receive resume)
    (result : Except (Raised ε) AsgiMessage) :
    ∃ total' inner', limitedReceive limit total resume result = .running limit total' inner' ∧
      WithinLimit app first limit total' sent inner' := by
  obtain ⟨results, hreads, htotal, hlimit⟩ := h
  have hnext : ∀ result total', received results + received [result] ≤ total' →
      received results + received [result] ≤ limit →
      WithinLimit app first limit total' sent (resume result) := fun result total' hle hle' =>
    ⟨results ++ [result], hreads.receive result haction, by rwa [received_concat],
      by rwa [received_concat]⟩
  match result with
  | .error error => exact ⟨total, _, rfl, hnext (.error error) total htotal hlimit⟩
  | .ok .httpDisconnect =>
      exact ⟨total, _, rfl, hnext (.ok .httpDisconnect) total htotal hlimit⟩
  | .ok (.httpRequest body moreBody) =>
      rw [limitedReceive]
      by_cases hover : limit < total + body.length
      · rw [if_pos hover]
        have hle : received results ≤ total + body.length := by omega
        exact ⟨_, _, rfl, hnext (.error .requestBodyTooLarge) _ hle hlimit⟩
      · rw [if_neg hover]
        have hsize : received [(.ok (.httpRequest body moreBody) :
            Except (Raised ε) AsgiMessage)] = body.length := by
          simp [received, AsgiMessage.size]
        exact ⟨_, _, rfl, hnext (.ok (.httpRequest body moreBody)) _ (by omega) (by omega)⟩

theorem WithinLimit.send {app : Application σ AsgiMessage AsgiSend (Raised ε)} {first : σ}
    {limit total : ℕ} {sent : List AsgiSend} {inner next : σ} {out : AsgiSend}
    (h : WithinLimit app first limit total sent inner) (haction : app inner = .send out next) :
    WithinLimit app first limit total (sent ++ [out]) next := by
  obtain ⟨results, hreads, htotal, hlimit⟩ := h
  exact ⟨results, hreads.send haction, htotal, hlimit⟩

/-- No step gives the application more than the limit. -/
theorem LimitKept.step {scope : Scope} {app : Application σ AsgiMessage AsgiSend (Raised ε)}
    {first : σ} {limit : ℕ} {connection : Connection (Limited σ) AsgiMessage AsgiSend}
    (h : LimitKept scope app first limit connection.sent connection.state) :
    LimitKept scope app first limit ((limited scope app).step connection).sent
      ((limited scope app).step connection).state := by
  rcases Application.step_cases (limited scope app) connection with ⟨hsame, -⟩ |
    ⟨resume, message, rest, haction, -, hstep⟩ | ⟨out, next, haction, hstep⟩
  · rwa [hsame]
  · rw [hstep]
    cases hstate : connection.state with
    | passing inner =>
        rw [hstate] at h
        exact absurd h id
    | running limit' total inner =>
        rw [hstate] at h haction
        obtain ⟨rfl, hwithin⟩ := h
        rw [limited] at haction
        split at haction
        · rename_i resume' hinner
          cases haction
          obtain ⟨total', inner', hresumed, hwithin'⟩ := hwithin.receive hinner (.ok message)
          simp only [hresumed]
          exact ⟨rfl, hwithin'⟩
        · cases haction
        · cases haction
        · cases haction
    | rejecting left =>
        rw [hstate, limited] at haction
        cases left <;> cases haction
  · rw [hstep]
    cases hstate : connection.state with
    | passing inner =>
        rw [hstate] at h
        exact absurd h id
    | running limit' total inner =>
        rw [hstate] at h haction
        obtain ⟨rfl, hwithin⟩ := h
        rw [limited] at haction
        split at haction
        · cases haction
        · rename_i hinner
          cases haction
          exact ⟨rfl, hwithin.send hinner⟩
        · cases haction
          refine ⟨connection.sent, total, inner, hwithin, ?_⟩
          rw [List.append_assoc]
          rfl
        · cases haction
    | rejecting left =>
        rw [hstate] at h haction
        rw [limited] at haction
        cases left with
        | nil => cases haction
        | cons out' left =>
            cases haction
            obtain ⟨before, total, inner, hwithin, hsent⟩ := h
            exact ⟨before, total, inner, hwithin, by rw [← hsent, List.append_assoc]; rfl⟩

theorem limitKept_start {scope : Scope} {limit : ℕ} (hlimit : requestLimit scope = some limit)
    (app : Application σ AsgiMessage AsgiSend (Raised ε)) (first : σ) :
    LimitKept scope app first limit [] (callStart scope first) := by
  have hwithin : WithinLimit app first limit 0 [] first :=
    ⟨[], .refl first, Nat.zero_le _, Nat.zero_le _⟩
  unfold callStart
  simp only [hlimit]
  split
  · exact ⟨rfl, hwithin⟩
  · split
    · exact ⟨[], 0, first, hwithin, rfl⟩
    · exact ⟨rfl, hwithin⟩

/-- Whatever the application does, no run gives it more than the limit. -/
theorem limitKept_run {scope : Scope} {limit : ℕ} (hlimit : requestLimit scope = some limit)
    (app : Application σ AsgiMessage AsgiSend (Raised ε)) (first : σ)
    (messages : List AsgiMessage) (n : ℕ) :
    LimitKept scope app first limit
      ((limited scope app).run (.start (callStart scope first) messages) n).sent
      ((limited scope app).run (.start (callStart scope first) messages) n).state := by
  induction n with
  | zero => exact limitKept_start hlimit app first
  | succ n ih => exact ih.step

/-! ## Up to the limit -/

/-- The bytes in the body of all messages. -/
def bodySize (messages : List AsgiMessage) : ℕ := (messages.map AsgiMessage.size).sum

theorem bodySize_concat (messages : List AsgiMessage) (message : AsgiMessage) :
    bodySize (messages ++ [message]) = bodySize messages + message.size := by
  simp [bodySize]

/-- Left alone, the application does not raise the exception of the middleware. -/
def RaisesOwn (app : Application σ AsgiMessage AsgiSend (Raised ε)) (first : σ)
    (messages : List AsgiMessage) : Prop :=
  ∀ n, app (app.run (.start first messages) n).state ≠ .finish (.error .requestBodyTooLarge)

/-- A run of the application alone, as the middleware holds it. -/
def underLimit (limit : ℕ) (connection : Connection σ AsgiMessage AsgiSend) :
    Connection (Limited σ) AsgiMessage AsgiSend where
  state := .running limit (bodySize connection.delivered) connection.state
  pending := connection.pending
  delivered := connection.delivered
  sent := connection.sent

/-- The declared length does not exceed the limit. -/
def DeclaredWithin (scope : Scope) (limit : ℕ) : Prop :=
  ∀ declared ∈ declaredContentLength scope, declared ≤ (limit : ℤ)

theorem callStart_of_declared {scope : Scope} {limit : ℕ}
    (hlimit : requestLimit scope = some limit) (hdeclared : DeclaredWithin scope limit)
    (first : σ) : callStart scope first = .running limit 0 first := by
  unfold callStart
  simp only [hlimit]
  split
  · rfl
  · rename_i declared heq
    exact if_neg (not_lt.2 (hdeclared declared heq))

theorem limitedReceive_of_le {limit total : ℕ} {resume : Except (Raised ε) AsgiMessage → σ}
    {message : AsgiMessage} (h : total + message.size ≤ limit) :
    limitedReceive limit total resume (.ok message) =
      .running limit (total + message.size) (resume (.ok message)) := by
  cases message with
  | httpRequest body moreBody => exact if_neg (not_lt.2 h)
  | httpDisconnect => rfl

/-- As long as the messages that the application takes are within the limit, it runs as it
would alone. -/
theorem run_limited_of_le {scope : Scope} {limit : ℕ} (hlimit : requestLimit scope = some limit)
    (hdeclared : DeclaredWithin scope limit)
    {app : Application σ AsgiMessage AsgiSend (Raised ε)} {first : σ}
    {messages : List AsgiMessage} (hown : RaisesOwn app first messages) {n : ℕ}
    (hle : bodySize (app.run (.start first messages) n).delivered ≤ limit) :
    (limited scope app).run (.start (callStart scope first) messages) n =
      underLimit limit (app.run (.start first messages) n) := by
  induction n with
  | zero =>
      rw [callStart_of_declared hlimit hdeclared]
      rfl
  | succ n ih =>
      rw [Application.run] at hle ⊢
      rw [Application.run]
      have hown := hown n
      generalize app.run (.start first messages) n = connection at *
      rcases Application.step_cases app connection with
        ⟨hsame, ⟨resume, haction, hpending⟩ | ⟨result, haction⟩⟩ |
        ⟨resume, message, rest, haction, hpending, hstep⟩ | ⟨out, next, haction, hstep⟩
      · rw [hsame] at hle ⊢
        rw [ih hle]
        exact Application.step_waits (limited_receive haction _ _) hpending
      · rw [hsame] at hle ⊢
        rw [ih hle]
        exact Application.step_finish (limited_finish haction (fun heq => hown (heq ▸ haction)) _ _)
      · rw [hstep, bodySize_concat] at hle
        have hlimited : limited scope app (underLimit limit connection).state =
            .receive (limitedReceive limit (bodySize connection.delivered) resume) :=
          limited_receive haction _ _
        rw [hstep, ih (by omega), Application.step_receive hlimited hpending,
          limitedReceive_of_le hle]
        simp only [underLimit, bodySize_concat]
      · rw [hstep] at hle ⊢
        have hlimited : limited scope app (underLimit limit connection).state =
            .send out (.running limit (bodySize connection.delivered) next) :=
          limited_send haction _ _
        rw [ih hle, Application.step_send hlimited]
        rfl

/-! ## Over the limit -/

/-- What is left to send goes out, and then nothing changes any more. -/
theorem run_rejecting {scope : Scope} {app : Application σ AsgiMessage AsgiSend (Raised ε)}
    {connection : Connection (Limited σ) AsgiMessage AsgiSend} {rest : List AsgiSend}
    (hstate : connection.state = .rejecting rest) (k : ℕ) :
    (limited scope app).run connection (rest.length + k) =
      { connection with state := .rejecting [], sent := connection.sent ++ rest } :=
  Application.run_sends (limited scope app) .rejecting rfl (fun _ _ => rfl) hstate k

/-- A receive that would go over the limit raises.  If the application lets that through,
the response 413 follows what it had sent, and that is all. -/
theorem run_limited_of_lt {scope : Scope} {limit : ℕ} (hlimit : requestLimit scope = some limit)
    (hdeclared : DeclaredWithin scope limit)
    {app : Application σ AsgiMessage AsgiSend (Raised ε)} {first : σ}
    {messages : List AsgiMessage} (hown : RaisesOwn app first messages) {n : ℕ}
    (hle : bodySize (app.run (.start first messages) n).delivered ≤ limit)
    {resume : Except (Raised ε) AsgiMessage → σ} {message : AsgiMessage}
    {rest : List AsgiMessage}
    (haction : app (app.run (.start first messages) n).state = .receive resume)
    (hpending : (app.run (.start first messages) n).pending = message :: rest)
    (hover : limit < bodySize (app.run (.start first messages) n).delivered + message.size)
    (hthrough : app (resume (.error .requestBodyTooLarge)) =
      .finish (.error .requestBodyTooLarge)) (k : ℕ) :
    (limited scope app).run (.start (callStart scope first) messages)
        (n + 1 + (tooLarge scope).length + k) =
      { state := .rejecting []
        pending := rest
        delivered := (app.run (.start first messages) n).delivered ++ [message]
        sent := (app.run (.start first messages) n).sent ++ tooLarge scope } := by
  have hunder := run_limited_of_le hlimit hdeclared hown hle
  generalize app.run (.start first messages) n = connection at *
  have hlimited : limited scope app (underLimit limit connection).state =
      .receive (limitedReceive limit (bodySize connection.delivered) resume) :=
    limited_receive haction _ _
  have hraised : limitedReceive limit (bodySize connection.delivered) resume (.ok message) =
      .running limit (bodySize connection.delivered + message.size)
        (resume (.error .requestBodyTooLarge)) := by
    cases message with
    | httpRequest body moreBody => exact if_pos hover
    | httpDisconnect => exact absurd hover (not_lt.2 hle)
  obtain ⟨out, tail, htail⟩ : ∃ out tail, tooLarge scope = out :: tail := ⟨_, _, rfl⟩
  have hsend : limited scope app (.running limit (bodySize connection.delivered + message.size)
      (resume (.error .requestBodyTooLarge))) = .send out (.rejecting tail) := by
    rw [limited_tooLarge hthrough, htail]
    rfl
  have hcount : n + 1 + (tooLarge scope).length + k = n + (tail.length + k + 1 + 1) := by
    rw [htail, List.length_cons]
    omega
  rw [hcount, Application.run_add, hunder, Application.run_step,
    Application.step_receive hlimited hpending, hraised, Application.run_step,
    Application.step_send hsend, run_rejecting rfl, htail]
  simp only [underLimit, List.append_assoc, List.cons_append, List.nil_append]

/-- A declared length over the limit is answered before the application starts, and no
message is taken. -/
theorem run_limited_of_declared {scope : Scope} {limit : ℕ}
    (hlimit : requestLimit scope = some limit) (hdeclared : ¬ DeclaredWithin scope limit)
    (app : Application σ AsgiMessage AsgiSend (Raised ε)) (first : σ)
    (messages : List AsgiMessage) (k : ℕ) :
    (limited scope app).run (.start (callStart scope first) messages)
        ((tooLarge scope).length + k) =
      { state := .rejecting [], pending := messages, delivered := [], sent := tooLarge scope } := by
  have hstart : callStart scope first = .rejecting (tooLarge scope) := by
    unfold callStart
    simp only [hlimit]
    split
    · rename_i heq
      exact absurd (fun declared hmem => absurd (heq ▸ hmem) (Option.not_mem_none declared))
        hdeclared
    · rename_i declared heq
      refine if_pos (not_le.1 fun hle => hdeclared fun other hother => ?_)
      cases Option.mem_unique hother heq
      exact hle
  rw [run_rejecting hstart]
  rfl

/-- A request that is not a POST is not looked at. -/
theorem run_limited_of_none {scope : Scope} (hlimit : requestLimit scope = none)
    (app : Application σ AsgiMessage AsgiSend (Raised ε)) (first : σ)
    (messages : List AsgiMessage) (n : ℕ) :
    (limited scope app).run (.start (callStart scope first) messages) n =
      { app.run (.start first messages) n with
        state := .passing (app.run (.start first messages) n).state } := by
  induction n with
  | zero =>
      have hstart : callStart scope first = .passing first := by
        unfold callStart
        simp only [hlimit]
      rw [hstart]
      rfl
  | succ n ih =>
      rw [Application.run, Application.run, ih]
      generalize app.run (.start first messages) n = connection
      let held : Connection (Limited σ) AsgiMessage AsgiSend :=
        { connection with state := .passing connection.state }
      show (limited scope app).step held = _
      rcases Application.step_cases app connection with
        ⟨hsame, ⟨resume, haction, hpending⟩ | ⟨result, haction⟩⟩ |
        ⟨resume, message, rest, haction, hpending, hstep⟩ | ⟨out, next, haction, hstep⟩
      · have hlimited : limited scope app held.state =
            .receive fun result => .passing (resume result) := by
          simp only [held, limited, haction]
        rw [hsame, Application.step_waits hlimited hpending]
      · have hlimited : limited scope app held.state = .finish result := by
          simp only [held, limited, haction]
        rw [hsame, Application.step_finish hlimited]
      · have hlimited : limited scope app held.state =
            .receive fun result => .passing (resume result) := by
          simp only [held, limited, haction]
        rw [hstep, Application.step_receive hlimited hpending]
      · have hlimited : limited scope app held.state = .send out (.passing next) := by
          simp only [held, limited, haction]
        rw [hstep, Application.step_send hlimited]

/-- The middleware is a limit, and nothing but a limit.  The application never has more
than the limit; up to the limit it runs as it would alone; if it lets the exception of the
receive that goes over the limit through, the response 413 follows what it had sent and no
further message is taken; and a declared length over the limit is answered at once. -/
theorem request_body_limit {scope : Scope} {limit : ℕ} (hlimit : requestLimit scope = some limit)
    (app : Application σ AsgiMessage AsgiSend (Raised ε)) (first : σ)
    (messages : List AsgiMessage) :
    (∀ n, LimitKept scope app first limit
      ((limited scope app).run (.start (callStart scope first) messages) n).sent
      ((limited scope app).run (.start (callStart scope first) messages) n).state) ∧
    (DeclaredWithin scope limit → RaisesOwn app first messages →
      ∀ n, bodySize (app.run (.start first messages) n).delivered ≤ limit →
        (limited scope app).run (.start (callStart scope first) messages) n =
            underLimit limit (app.run (.start first messages) n) ∧
          ∀ resume message rest,
            app (app.run (.start first messages) n).state = .receive resume →
            (app.run (.start first messages) n).pending = message :: rest →
            limit < bodySize (app.run (.start first messages) n).delivered + message.size →
            app (resume (.error .requestBodyTooLarge)) = .finish (.error .requestBodyTooLarge) →
            ∀ k, (limited scope app).run (.start (callStart scope first) messages)
                (n + 1 + (tooLarge scope).length + k) =
              { state := .rejecting []
                pending := rest
                delivered := (app.run (.start first messages) n).delivered ++ [message]
                sent := (app.run (.start first messages) n).sent ++ tooLarge scope }) ∧
    (¬ DeclaredWithin scope limit → ∀ k,
      (limited scope app).run (.start (callStart scope first) messages)
          ((tooLarge scope).length + k) =
        { state := .rejecting []
          pending := messages
          delivered := []
          sent := tooLarge scope }) := by
  refine ⟨limitKept_run hlimit app first messages, ?_, ?_⟩
  · intro hdeclared hown n hle
    refine ⟨run_limited_of_le hlimit hdeclared hown hle, ?_⟩
    intro resume message rest haction hpending hover hthrough k
    exact run_limited_of_lt hlimit hdeclared hown hle haction hpending hover hthrough k
  · exact fun hdeclared => run_limited_of_declared hlimit hdeclared app first messages

end Middleware

/-! ### Bodies of intake requests -/

def intakeScope : Scope := ⟨"http", "POST", "/v1/intake", []⟩

/-- It takes the body up to its last message, and lets an exception through. -/
def receivesAll : Application (Option (Except (Raised Empty) Unit)) AsgiMessage AsgiSend
    (Raised Empty)
  | none => .receive fun
    | .ok (.httpRequest _ true) => none
    | .ok _ => some (.ok ())
    | .error error => some (.error error)
  | some result => .finish result

/-- Messages alone do not make it raise. -/
theorem receivesAll_step
    {connection : Connection (Option (Except (Raised Empty) Unit)) AsgiMessage AsgiSend}
    (h : connection.state = none ∨ connection.state = some (.ok ())) :
    (receivesAll.step connection).state = none ∨
      (receivesAll.step connection).state = some (.ok ()) := by
  rcases Application.step_cases receivesAll connection with ⟨hsame, -⟩ |
    ⟨resume, message, rest, haction, -, hstep⟩ | ⟨out, next, haction, -⟩
  · rwa [hsame]
  · rw [hstep]
    rcases h with hnone | hdone
    · rw [hnone] at haction
      cases haction
      cases message with
      | httpRequest body moreBody => cases moreBody <;> simp
      | httpDisconnect => exact .inr rfl
    · rw [hdone] at haction
      cases haction
  · rcases h with hstate | hstate <;>
      · rw [hstate] at haction
        cases haction

theorem receivesAll_raisesOwn (messages : List AsgiMessage) :
    RaisesOwn receivesAll none messages := by
  have hstate : ∀ n, (receivesAll.run (.start none messages) n).state = none ∨
      (receivesAll.run (.start none messages) n).state = some (.ok ()) := by
    intro n
    induction n with
    | zero => exact .inl rfl
    | succ n ih => exact receivesAll_step ih
  intro n hraises
  rcases hstate n with hn | hn <;>
    · rw [hn] at hraises
      cases hraises

/-- Two bytes, and then as many as the limit allows alone. -/
def largeBody : List AsgiMessage :=
  [.httpRequest [0x7B, 0x7D] true, .httpRequest (List.replicate maxApiRequestBodyBytes 0) false]

/-- A request that declares two million bytes. -/
def declaringScope : Scope :=
  ⟨"http", "POST", "/v1/intake", [(contentLengthName, "2000000".toUTF8.toList)]⟩

/-- The first message reaches the application, the second one is answered with 413, and
a declared length over the limit is answered before the first. -/
theorem request_body_limit_intake :
    (limited intakeScope receivesAll).run (.start (callStart intakeScope none) largeBody) 1 =
        underLimit maxApiRequestBodyBytes (receivesAll.run (.start none largeBody) 1) ∧
      (limited intakeScope receivesAll).run (.start (callStart intakeScope none) largeBody)
          (1 + 1 + (tooLarge intakeScope).length + 0) =
        { state := .rejecting [], pending := [], delivered := largeBody,
          sent := tooLarge intakeScope } ∧
      (limited declaringScope receivesAll).run (.start (callStart declaringScope none) largeBody)
          ((tooLarge declaringScope).length + 0) =
        { state := .rejecting [], pending := largeBody, delivered := [],
          sent := tooLarge declaringScope } := by
  have hlimit : requestLimit intakeScope = some maxApiRequestBodyBytes := by decide
  have hlimit' : requestLimit declaringScope = some maxApiRequestBodyBytes := by decide
  have hdeclared : declaredContentLength declaringScope = some 2000000 := by decide +kernel
  obtain ⟨hunder, hover⟩ := (request_body_limit hlimit receivesAll none largeBody).2.1
    (fun _ h => by cases h) (receivesAll_raisesOwn _) 1 (by decide)
  have hsize : (AsgiMessage.httpRequest (List.replicate maxApiRequestBodyBytes 0) false).size =
      maxApiRequestBodyBytes := List.length_replicate
  refine ⟨hunder, hover _ _ _ rfl rfl ?_ rfl 0, ?_⟩
  · rw [hsize]
    exact Nat.lt_add_of_pos_left (by decide)
  · exact (request_body_limit hlimit' receivesAll none largeBody).2.2
      (fun h => absurd (h _ hdeclared) (by decide)) 0

end IntegraIntake
