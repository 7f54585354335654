import IntegraIntake.Agent.Transcript
import IntegraIntake.Observability.Codes

/-!
# The provider adapter

`OpenAICompatibleLLMClient` of `app/providers/openai_compatible.py`: one call of
the HTTP client, the event that is emitted for it, and one more call when the
first brought no valid proposal.  The event is built inside the handlers of
`_attempt`, and building it can raise.

The HTTP client is a function of the messages it is given.  Every call of a run
is given a longer list than the calls before it, so such a function can behave in
any way in each of them.
-/

namespace IntegraIntake

open Library

/-! ## Exceptions -/

/-- The `RequestError`s of `httpx` that are neither a `TimeoutException` nor a
`NetworkError`. -/
inductive RequestErrorKind where
  | requestError | transportError | localProtocolError | remoteProtocolError | proxyError
  | unsupportedProtocol | decodingError | tooManyRedirects
  deriving DecidableEq, Repr

/-- The exceptions of `httpx`. -/
inductive HttpxError where
  | httpStatus (statusCode : ℕ)
  | timeout
  | network
  | request (kind : RequestErrorKind)
  /-- `InvalidURL`, `CookieConflict` and the `StreamError`s: no `RequestError`. -/
  | outside
  deriving DecidableEq, Repr

/-- The exceptions that `complete` takes for a bad proposal.  A detail of a
`ValidationError` is a location and a message. -/
inductive SchemaFault where
  | jsonDecode (position : ℕ)
  | validation (details : List (String × String))
  | value | key | index | type
  deriving DecidableEq, Repr

/-- What a call of the provider may raise. -/
inductive ProviderError where
  | schema (fault : SchemaFault)
  | httpx (error : HttpxError)
  /-- `StructuredProposalValidationError`. -/
  | structuredProposal (message : String)
  | other
  deriving DecidableEq, Repr

/-- What `response.json()` raises. -/
inductive BodyError where
  | schema (fault : SchemaFault)
  | other
  deriving DecidableEq, Repr

/-! ## The client -/

/-- What is read of a response. -/
structure HttpResponse where
  statusCode : ℕ
  /-- `response.json()`. -/
  json : Except BodyError Json

/-- `response.is_success`. -/
def HttpResponse.isSuccess (response : HttpResponse) : Bool :=
  200 ≤ response.statusCode ∧ response.statusCode ≤ 299

/-- What `client.post` does. -/
inductive HttpOutcome where
  | response (value : HttpResponse)
  | raised (error : HttpxError)

/-- The exception of a call, `raise_for_status` included. -/
def HttpOutcome.failure? : HttpOutcome → Option HttpxError
  | .raised error => some error
  | .response value => if value.isSuccess then none else some (.httpStatus value.statusCode)

/-- The parts of the adapter that come from outside: the HTTP client, and
`AgentProposal.model_validate_json`. -/
structure ProviderClient where
  post : List ProviderMessage → HttpOutcome
  modelValidateJson : String → Except SchemaFault AgentProposal
  apiKey : String
  floatText : PyFloat → List Char

/-- The token counts of a response. -/
structure Usage where
  promptTokens : Option ℕ
  completionTokens : Option ℕ
  totalTokens : Option ℕ

/-- A response that says nothing of its tokens. -/
def Usage.empty : Usage := ⟨none, none, none⟩

/-- The check of `ObservationEvent`: three counts have to add up. -/
def Usage.consistent : Usage → Bool
  | ⟨some prompt, some completion, some total⟩ => total = prompt + completion
  | _ => true

/-- A count that is an integer and not negative. -/
def tokenCount (members : List (String × Json)) (name : String) : Option ℕ :=
  match members.lookup name with
  | some (.int (.ofNat count)) => some count
  | _ => none

/-- `_validated_usage`. -/
def validatedUsage : Option Json → Usage
  | some (.obj members) =>
    let usage : Usage :=
      ⟨tokenCount members "prompt_tokens", tokenCount members "completion_tokens",
      tokenCount members "total_tokens"⟩
    if usage.consistent then usage else .empty
  | _ => .empty

theorem validatedUsage_consistent (value : Option Json) :
    (validatedUsage value).consistent = true := by
  unfold validatedUsage
  split
  · dsimp only
    split
    · assumption
    · rfl
  · rfl

/-! ## Reading a body -/

/-- `value[key]`. -/
def getItem (value : Json) (key : String) : Except SchemaFault Json :=
  match value with
  | .obj members =>
    match members.lookup key with
    | some item => .ok item
    | none => .error .key
  | _ => .error .type

/-- `value[0]`. -/
def getFirst : Json → Except SchemaFault Json
  | .arr (item :: _) => .ok item
  | .arr [] => .error .index
  | .str text =>
    match text.toList with
    | first :: _ => .ok (.str first.toString)
    | [] => .error .index
  | .obj _ => .error .key
  | _ => .error .type

/-- `body["choices"][0]["message"]["content"]`, which has to be a string. -/
def responseContent (body : Json) : Except SchemaFault String := do
  let choices ← getItem body "choices"
  let choice ← getFirst choices
  let message ← getItem choice "message"
  match ← getItem message "content" with
  | .str content => pure content
  | _ => .error .value

namespace ProviderClient

variable (client : ProviderClient)

/-- `_complete_once` after `raise_for_status`. -/
def readBody (response : HttpResponse) : Except ProviderError (AgentProposal × Usage) :=
  match response.json with
  | .error (.schema fault) => .error (.schema fault)
  | .error .other => .error .other
  | .ok body =>
    match responseContent body with
    | .error fault => .error (.schema fault)
    | .ok content =>
      match client.modelValidateJson content with
      | .error fault => .error (.schema fault)
      | .ok proposal => .ok (proposal, validatedUsage (body.get? "usage"))

/-- What one call of the HTTP client brings. -/
def answer (outcome : HttpOutcome) : Except ProviderError (AgentProposal × Usage) :=
  match outcome with
  | .raised error => .error (.httpx error)
  | .response value =>
    if value.isSuccess then client.readBody value else .error
      (.httpx (.httpStatus value.statusCode))

end ProviderClient

/-! ## Events -/

/-- `PROVIDER_CALL_COMPLETED`. -/
structure CallCompleted where
  callIndex : ℕ
  validationRetry : Bool
  outcome : OutcomeCode
  statusCode : Option ℕ
  usage : Usage

/-- The `ValidationError` that building the event raises. -/
def CallCompleted.fault? (event : CallCompleted) : Option SchemaFault :=
  if event.statusCode.any (· < 100) then
    some (.validation [("status_code", "Input should be greater than or equal to 100")])
  else if event.statusCode.any (599 < ·) then
    some (.validation [("status_code", "Input should be less than or equal to 599")])
  else if event.usage.consistent then none
  else some (.validation
    [("", "Value error, total_tokens must equal prompt_tokens plus completion_tokens")])

/-- The events that the adapter emits. -/
inductive ProviderEvent where
  | callCompleted (event : CallCompleted)
  | structuredOutputFailed

/-- The calls of the HTTP client, with what they brought, and the events. -/
structure ProviderLog where
  calls : List HttpOutcome
  events : List ProviderEvent

/-- Before the first call. -/
def ProviderLog.empty : ProviderLog := ⟨[], []⟩

/-- A program of the adapter. -/
abbrev Provider (α : Type) := Session ProviderLog ProviderError α

/-- `_emit_call`. -/
def emitCall (event : CallCompleted) : Provider Unit :=
  match event.fault? with
  | some fault => Session.raise (.schema fault)
  | none => Session.write fun log => { log with events := log.events ++ [.callCompleted event] }

/-- `_emit_structured_failure`. -/
def emitStructuredFailure : Provider Unit :=
  Session.write fun log => { log with events := log.events ++ [.structuredOutputFailed] }

/-- The outcome and status code that a handler of `_attempt` reports. -/
def ProviderError.report : ProviderError → OutcomeCode × Option ℕ
  | .schema _ => (.invalidSchema, none)
  | .httpx (.httpStatus statusCode) => (.httpError, some statusCode)
  | .httpx .timeout => (.timeout, none)
  | .httpx .network => (.networkError, none)
  | .httpx (.request _) => (.networkError, none)
  | .httpx .outside => (.failed, none)
  | .structuredProposal _ => (.failed, none)
  | .other => (.failed, none)

/-! ## `complete` -/

/-- The line that a detail of a `ValidationError` gives. -/
def feedbackLine (detail : String × String) : String :=
  (if detail.1 = "" then "<root>" else detail.1) ++ ": " ++ detail.2

/-- `_validation_feedback`. -/
def validationFeedback : SchemaFault → String
  | .validation details =>
    "Structured proposal validation failed: " ++
      (if details = [] then "schema validation failed"
      else "; ".intercalate (details.map feedbackLine))
  | .jsonDecode position =>
    "Structured proposal JSON decoding failed at character " ++ toString position
  | .key => "Provider response envelope is missing a required value"
  | .index => "Provider response envelope has no usable choice"
  | .type => "Provider response envelope has an invalid shape"
  | .value => "Provider response content is invalid"

/-- `_redact_secret`. -/
def redactSecret (value secret : String) : String :=
  if secret = "" then value else value.replace secret "[REDACTED]"

namespace ProviderClient

variable (client : ProviderClient)

/-- `_complete_once`. -/
def completeOnce (messages : List AgentMessage) : Provider (AgentProposal × Usage) :=
  match providerMessages client.floatText messages with
  | .error _ => Session.raise (.schema .value)
  | .ok rendered => do
    Session.write fun log => { log with calls := log.calls ++ [client.post rendered] }
    Session.ofExcept (client.answer (client.post rendered))

/-- `_attempt`. -/
def attempt (messages : List AgentMessage) (callIndex : ℕ) (validationRetry : Bool) :
    Provider (AgentProposal × Usage) := do
  let result ← Session.tryCatch (client.completeOnce messages) fun error => do
    emitCall ⟨callIndex, validationRetry, error.report.1, error.report.2, .empty⟩
    Session.raise error
  emitCall ⟨callIndex, validationRetry, .success, none, result.2⟩
  pure result

/-- The feedback of a fault, as it is sent back. -/
def feedback (fault : SchemaFault) : String :=
  redactSecret (validationFeedback fault) client.apiKey

/-- The messages of the second attempt. -/
def retryMessages (messages : List AgentMessage) (fault : SchemaFault) : List AgentMessage :=
  messages ++ [AgentLoop.feedbackMessage (client.feedback fault)]

/-- The second attempt of `complete`. -/
def completeAgain (messages : List AgentMessage) (fault : SchemaFault) : Provider AgentProposal :=
  Session.tryCatch
    (do
      let result ← client.attempt (client.retryMessages messages fault) 2 true
      pure result.1)
    fun
    | .schema retryFault => do
      emitStructuredFailure
      Session.raise (.structuredProposal
        ("provider returned an invalid structured proposal after one retry: " ++
          client.feedback retryFault))
    | error => Session.raise error

/-- `complete`. -/
def complete (messages : List AgentMessage) : Provider AgentProposal :=
  Session.tryCatch
    (do
      let result ← client.attempt messages 1 false
      pure result.1)
    fun
    | .schema fault => client.completeAgain messages fault
    | error => Session.raise error

/-- The adapter as the loop's model client. -/
def llm : LLMClient ProviderError := fun messages => (client.complete messages .empty).1

/-- What a call of `complete` leaves in the log. -/
def callLog (messages : List AgentMessage) : ProviderLog := (client.complete messages .empty).2

end ProviderClient

/-! ## How an attempt ends -/

/-- The fault that reporting an exception raises in its place. -/
def ProviderError.fault? (error : ProviderError) : Option SchemaFault :=
  (CallCompleted.mk 1 false error.report.1 error.report.2 .empty).fault?

/-- One more call was made. -/
def ProviderLog.called (log : ProviderLog) (outcome : HttpOutcome) : ProviderLog :=
  { log with calls := log.calls ++ [outcome] }

/-- The event of a call was emitted. -/
def ProviderLog.completed (log : ProviderLog) (event : CallCompleted) : ProviderLog :=
  { log with events := log.events ++ [.callCompleted event] }

theorem completed_getLast? (log : ProviderLog) (event : CallCompleted) :
    (log.completed event).events.getLast? = some (.callCompleted event) :=
  List.getLast?_concat

/-- Only a status code outside of 100 to 599 cannot be reported. -/
theorem ProviderError.fault?_eq_none_iff (error : ProviderError) : error.fault? = none ↔
    ∀ statusCode, error = .httpx (.httpStatus statusCode) →
      100 ≤ statusCode ∧ statusCode ≤ 599 := by
  have hempty : Usage.empty.consistent = true := rfl
  constructor
  · rintro h statusCode rfl
    simp only [ProviderError.fault?, CallCompleted.fault?, ProviderError.report, Option.any_some,
      decide_eq_true_eq, hempty, if_true] at h
    split_ifs at h with hlow hhigh
    exact ⟨Nat.not_lt.1 hlow, Nat.not_lt.1 hhigh⟩
  · intro h
    unfold ProviderError.fault? CallCompleted.fault?
    cases hcode : error.report.2 with
    | none => simp [hempty]
    | some statusCode =>
        have herror : error = .httpx (.httpStatus statusCode) := by
          cases error with
          | httpx inner => cases inner <;> simp_all [ProviderError.report]
          | schema | structuredProposal | other => simp [ProviderError.report] at hcode
        obtain ⟨hlow, hhigh⟩ := h statusCode herror
        simp [Nat.not_lt.2 hlow, Nat.not_lt.2 hhigh, hempty]

namespace ProviderClient

variable {client : ProviderClient} {messages : List AgentMessage}

theorem readBody_ok {response : HttpResponse} {result : AgentProposal × Usage}
    (h : client.readBody response = .ok result) : result.2.consistent = true := by
  unfold readBody at h
  split at h
  · cases h
  · cases h
  · split at h
    · cases h
    · split at h
      · cases h
      · cases h
        exact validatedUsage_consistent _

theorem answer_ok {outcome : HttpOutcome} {result : AgentProposal × Usage}
    (h : client.answer outcome = .ok result) :
    outcome.failure? = none ∧ result.2.consistent = true := by
  unfold answer at h
  split at h
  · cases h
  · rename_i value
    split at h
    · rename_i hsuccess
      exact ⟨by simp [HttpOutcome.failure?, hsuccess], readBody_ok h⟩
    · cases h

/-- What a call raises is the exception of the HTTP client, or comes from the body
of a response with a success status. -/
theorem answer_error {outcome : HttpOutcome} {error : ProviderError}
    (h : client.answer outcome = .error error) :
    (∃ raised, error = .httpx raised ∧ outcome.failure? = some raised) ∨
      (outcome.failure? = none ∧ ((∃ fault, error = .schema fault) ∨ error = .other)) := by
  unfold answer at h
  split at h
  · cases h
    exact .inl ⟨_, rfl, rfl⟩
  · rename_i value
    split at h
    · rename_i hsuccess
      refine .inr ⟨by simp [HttpOutcome.failure?, hsuccess], ?_⟩
      unfold readBody at h
      split at h
      · cases h
        exact .inl ⟨_, rfl⟩
      · cases h
        exact .inr rfl
      · split at h
        · cases h
          exact .inl ⟨_, rfl⟩
        · split at h
          · cases h
            exact .inl ⟨_, rfl⟩
          · cases h
    · rename_i hfailed
      cases h
      exact .inl ⟨_, rfl, by simp [HttpOutcome.failure?, hfailed]⟩

/-- The ways an attempt ends. -/
inductive Attempts (client : ProviderClient) (messages : List AgentMessage) (callIndex : ℕ)
    (validationRetry : Bool) (log : ProviderLog) :
    Except ProviderError (AgentProposal × Usage) → ProviderLog → Prop
  /-- The messages cannot be sent. -/
  | unrendered {refused : ProviderMessageError} :
      providerMessages client.floatText messages = .error refused →
      Attempts client messages callIndex validationRetry log (.error (.schema .value))
        (log.completed ⟨callIndex, validationRetry, .invalidSchema, none, .empty⟩)
  | answered {rendered : List ProviderMessage} {result : AgentProposal × Usage} :
      providerMessages client.floatText messages = .ok rendered →
      client.answer (client.post rendered) = .ok result →
      Attempts client messages callIndex validationRetry log (.ok result)
        ((log.called (client.post rendered)).completed
          ⟨callIndex, validationRetry, .success, none, result.2⟩)
  | raised {rendered : List ProviderMessage} {error : ProviderError} :
      providerMessages client.floatText messages = .ok rendered →
      client.answer (client.post rendered) = .error error → error.fault? = none →
      Attempts client messages callIndex validationRetry log (.error error)
        ((log.called (client.post rendered)).completed
          ⟨callIndex, validationRetry, error.report.1, error.report.2, .empty⟩)
  /-- The event cannot be built, and the exception is lost. -/
  | unreported {rendered : List ProviderMessage} {error : ProviderError} {fault : SchemaFault} :
      providerMessages client.floatText messages = .ok rendered →
      client.answer (client.post rendered) = .error error → error.fault? = some fault →
      Attempts client messages callIndex validationRetry log (.error (.schema fault))
        (log.called (client.post rendered))

theorem completeOnce_run {rendered : List ProviderMessage}
    (h : providerMessages client.floatText messages = .ok rendered) (log : ProviderLog) :
    client.completeOnce messages log =
      (client.answer (client.post rendered), log.called (client.post rendered)) := by
  unfold completeOnce
  rw [h]
  show Session.ofExcept (client.answer (client.post rendered))
    (log.called (client.post rendered)) = _
  cases client.answer (client.post rendered) <;> rfl

theorem attempts (client : ProviderClient) (messages : List AgentMessage) (callIndex : ℕ)
    (validationRetry : Bool) (log : ProviderLog) :
    Attempts client messages callIndex validationRetry log
      (client.attempt messages callIndex validationRetry log).1
      (client.attempt messages callIndex validationRetry log).2 := by
  unfold attempt
  rw [Session.bind_run]
  cases hrendered : providerMessages client.floatText messages with
  | error refused =>
      have honce : client.completeOnce messages log = (.error (.schema .value), log) := by
        unfold completeOnce
        rw [hrendered]
        rfl
      simp only [Session.tryCatch, honce]
      exact .unrendered hrendered
  | ok rendered =>
      have honce := completeOnce_run hrendered log
      cases hanswer : client.answer (client.post rendered) with
      | ok result =>
          obtain ⟨-, husage⟩ := answer_ok hanswer
          have hfault : (CallCompleted.mk callIndex validationRetry .success none
              result.2).fault? = none := by
            simp [CallCompleted.fault?, husage]
          rw [hanswer] at honce
          simp only [Session.tryCatch, honce, Session.bind_run, emitCall, hfault]
          exact .answered hrendered hanswer
      | error error =>
          have hsame : (CallCompleted.mk callIndex validationRetry error.report.1 error.report.2
              .empty).fault? = error.fault? := rfl
          rw [hanswer] at honce
          simp only [Session.tryCatch, honce, Session.bind_run, emitCall, hsame]
          cases hfault : error.fault? with
          | none => exact .raised hrendered hanswer hfault
          | some fault => exact .unreported hrendered hanswer hfault

/-! ## How a call ends -/

/-- The second attempt starts where the first has met a fault. -/
theorem complete_run (messages : List AgentMessage) (log : ProviderLog) :
    client.complete messages log =
      match client.attempt messages 1 false log with
      | (.ok result, next) => (.ok result.1, next)
      | (.error (.schema fault), next) => client.completeAgain messages fault next
      | (.error error, next) => (.error error, next) := by
  unfold complete
  simp only [Session.tryCatch, Session.bind_run]
  cases client.attempt messages 1 false log with
  | mk outcome next =>
      cases outcome with
      | ok result => rfl
      | error error => cases error <;> rfl

theorem completeAgain_run (messages : List AgentMessage) (fault : SchemaFault)
    (log : ProviderLog) :
    client.completeAgain messages fault log =
      match client.attempt (client.retryMessages messages fault) 2 true log with
      | (.ok result, next) => (.ok result.1, next)
      | (.error (.schema retryFault), next) =>
        (.error (.structuredProposal
          ("provider returned an invalid structured proposal after one retry: " ++
            client.feedback retryFault)),
          { next with events := next.events ++ [.structuredOutputFailed] })
      | (.error error, next) => (.error error, next) := by
  unfold completeAgain
  simp only [Session.tryCatch, Session.bind_run]
  cases client.attempt (client.retryMessages messages fault) 2 true log with
  | mk outcome next =>
      cases outcome with
      | ok result => rfl
      | error error => cases error <;> rfl

/-- The ways a call ends that has come to its second attempt. -/
inductive CompletesAgain (client : ProviderClient) (messages : List AgentMessage)
    (fault : SchemaFault) (log : ProviderLog) : Except ProviderError AgentProposal →
    ProviderLog → Prop
  | answered {rendered : List ProviderMessage} {result : AgentProposal × Usage}
    {last : ProviderLog} :
      providerMessages client.floatText (client.retryMessages messages fault) = .ok rendered →
      client.answer (client.post rendered) = .ok result →
      last.calls = log.calls ++ [client.post rendered] →
      CompletesAgain client messages fault log (.ok result.1) last
  | raised {rendered : List ProviderMessage} {error : ProviderError} {event : CallCompleted}
      {last : ProviderLog} :
      providerMessages client.floatText (client.retryMessages messages fault) = .ok rendered →
      client.answer (client.post rendered) = .error error → error.fault? = none →
      (∀ other, error ≠ .schema other) → last.calls = log.calls ++ [client.post rendered] →
      last.events.getLast? = some (.callCompleted event) → event.outcome = error.report.1 →
      CompletesAgain client messages fault log (.error error) last
  /-- No proposal: `StructuredProposalValidationError`. -/
  | failed {message : String} {last : ProviderLog} {calls : List HttpOutcome} :
      last.calls = log.calls ++ calls → last.events.getLast? = some .structuredOutputFailed →
      ((calls = [] ∧ ∃ refused,
        providerMessages client.floatText (client.retryMessages messages fault) = .error refused) ∨
      ∃ rendered error,
        providerMessages client.floatText (client.retryMessages messages fault) = .ok rendered ∧
        client.answer (client.post rendered) = .error error ∧ calls = [client.post rendered] ∧
        ((∃ other, error = .schema other) ∨ error.fault? ≠ none)) →
      CompletesAgain client messages fault log (.error (.structuredProposal message)) last

theorem completesAgain (messages : List AgentMessage) (fault : SchemaFault) (log : ProviderLog) :
    CompletesAgain client messages fault log (client.completeAgain messages fault log).1
      (client.completeAgain messages fault log).2 := by
  rw [completeAgain_run]
  have hattempts := attempts client (client.retryMessages messages fault) 2 true log
  generalize client.attempt (client.retryMessages messages fault) 2 true log = ended at hattempts
  obtain ⟨outcome, next⟩ := ended
  cases hattempts with
  | unrendered hrendered =>
      exact .failed (List.append_nil _).symm (by simp) (.inl ⟨rfl, _, hrendered⟩)
  | answered hrendered hanswer => exact .answered hrendered hanswer rfl
  | @raised rendered error hrendered hanswer hfault =>
      cases error with
      | schema other =>
          exact .failed rfl (by simp) (.inr ⟨_, _, hrendered, hanswer, rfl, .inl ⟨_, rfl⟩⟩)
      | httpx | structuredProposal | other =>
          exact .raised hrendered hanswer hfault nofun rfl (completed_getLast? ..) rfl
  | unreported hrendered hanswer hfault =>
      exact .failed rfl (by simp) (.inr ⟨_, _, hrendered, hanswer, rfl, .inr (by simp [hfault])⟩)

/-- The ways a call of `complete` ends. -/
inductive Completes (client : ProviderClient) (messages : List AgentMessage) :
    Except ProviderError AgentProposal → ProviderLog → Prop
  | answered {rendered : List ProviderMessage} {result : AgentProposal × Usage}
    {last : ProviderLog} :
      providerMessages client.floatText messages = .ok rendered →
      client.answer (client.post rendered) = .ok result → last.calls = [client.post rendered] →
      Completes client messages (.ok result.1) last
  | raised {rendered : List ProviderMessage} {error : ProviderError} {event : CallCompleted}
      {last : ProviderLog} :
      providerMessages client.floatText messages = .ok rendered →
      client.answer (client.post rendered) = .error error → error.fault? = none →
      (∀ other, error ≠ .schema other) → last.calls = [client.post rendered] →
      last.events.getLast? = some (.callCompleted event) → event.outcome = error.report.1 →
      Completes client messages (.error error) last
  | unrendered {refused : ProviderMessageError} {middle last : ProviderLog}
      {outcome : Except ProviderError AgentProposal} :
      providerMessages client.floatText messages = .error refused → middle.calls = [] →
      CompletesAgain client messages .value middle outcome last →
      Completes client messages outcome last
  | invalid {rendered : List ProviderMessage} {fault : SchemaFault} {middle last : ProviderLog}
      {outcome : Except ProviderError AgentProposal} :
      providerMessages client.floatText messages = .ok rendered →
      client.answer (client.post rendered) = .error (.schema fault) →
      middle.calls = [client.post rendered] →
      CompletesAgain client messages fault middle outcome last →
      Completes client messages outcome last
  | unreported {rendered : List ProviderMessage} {error : ProviderError} {fault : SchemaFault}
      {middle last : ProviderLog} {outcome : Except ProviderError AgentProposal} :
      providerMessages client.floatText messages = .ok rendered →
      client.answer (client.post rendered) = .error error → error.fault? ≠ none →
      middle.calls = [client.post rendered] →
      CompletesAgain client messages fault middle outcome last →
      Completes client messages outcome last

theorem completes (client : ProviderClient) (messages : List AgentMessage) :
    Completes client messages (client.llm messages) (client.callLog messages) := by
  unfold llm callLog
  rw [complete_run]
  have hattempts := attempts client messages 1 false .empty
  generalize client.attempt messages 1 false .empty = ended at hattempts
  obtain ⟨outcome, next⟩ := ended
  cases hattempts with
  | unrendered hrendered => exact .unrendered hrendered rfl (completesAgain ..)
  | answered hrendered hanswer => exact .answered hrendered hanswer rfl
  | @raised rendered error hrendered hanswer hfault =>
      cases error with
      | schema fault => exact .invalid hrendered hanswer rfl (completesAgain ..)
      | httpx | structuredProposal | other =>
          exact .raised hrendered hanswer hfault nofun rfl (completed_getLast? ..) rfl
  | unreported hrendered hanswer hfault =>
      exact .unreported hrendered hanswer (by simp [hfault]) rfl (completesAgain ..)

/-! ## The calls of the HTTP client -/

/-- A response with a success status whose body is no valid proposal. -/
def InvalidProposal (client : ProviderClient) (outcome : HttpOutcome) : Prop :=
  ∃ response fault, outcome = .response response ∧ response.isSuccess = true ∧
    client.readBody response = .error (.schema fault)

/-- At most two calls, the second only after an invalid proposal, and the exception
of a call reaches the caller. -/
structure CallContract (client : ProviderClient) (ended : Except ProviderError AgentProposal)
    (log : ProviderLog) : Prop where
  at_most_two : log.calls.length ≤ 2
  second_after_invalid : ∀ first second rest, log.calls = first :: second :: rest →
    client.InvalidProposal first
  same_exception : ∀ outcome ∈ log.calls, ∀ error, outcome.failure? = some error →
    ended = .error (.httpx error)

theorem invalidProposal_of_answer {outcome : HttpOutcome} {fault : SchemaFault}
    (h : client.answer outcome = .error (.schema fault)) : client.InvalidProposal outcome := by
  unfold answer at h
  split at h
  · cases h
  · rename_i response
    split at h
    · rename_i hsuccess
      exact ⟨response, fault, rfl, hsuccess, h⟩
    · cases h

end ProviderClient
end IntegraIntake
