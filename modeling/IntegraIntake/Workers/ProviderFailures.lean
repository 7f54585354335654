import IntegraIntake.Providers.OpenAICompatible
import IntegraIntake.Workers.ServeOnce

/-!
# Provider failures, from the HTTP client to the worker

`_run_claimed_job` of `app/workers/agent_worker.py` sorts the exceptions of a run:
what may be tried again, what the provider refused, and the rest.  The adapter
sorts the same exceptions for its events.  The two agree, and the exception of a
call reaches the worker, exactly as long as every call of the HTTP client is
answered with a status code that an event may carry and raises no `RequestError`
outside of `TimeoutException` and `NetworkError`:

* a status code outside of 100 to 599 makes the event of the call fail, and
  `complete` takes the `ValidationError` for a bad proposal and asks again;
* the other `RequestError`s are reported as `NETWORK_ERROR`, but the worker does
  not try again.
-/

namespace IntegraIntake

open Library

/-! ## The worker -/

/-- The exceptions of the tools that the worker tells apart. -/
inductive ToolsErrorKind where
  /-- The `TimeoutError` of the gateway. -/
  | timeout
  | jobLeaseLost
  | other
  deriving DecidableEq, Repr

/-- The status codes after which the worker tries again. -/
def transientStatus (statusCode : ℕ) : Bool :=
  statusCode = 408 ∨ statusCode = 429 ∨ 500 ≤ statusCode

/-- The handlers of `_run_claimed_job`. -/
def claimError {ε : Type} (kind : ε → ToolsErrorKind) : RunError ProviderError ε → ClaimError
  | .provider (.httpx .timeout) => .retryable .providerUnavailable false
  | .provider (.httpx .network) => .retryable .providerUnavailable false
  | .provider (.httpx (.httpStatus statusCode)) =>
    if transientStatus statusCode then .retryable .providerUnavailable false
    else .providerRequestRejected
  | .provider _ => .other
  | .tools error =>
    match kind error with
    | .timeout => .retryable .gatewayTimeout false
    | .jobLeaseLost => .jobLeaseLost
    | .other => .other

/-- `_run_claimed_job`, once the runtime is built. -/
def runClaimedJob {σ ε : Type} (client : ProviderClient) (tools : ToolExecutor σ ε)
    (kind : ε → ToolsErrorKind) (steps : ℕ) (initialMessages : List AgentMessage) :
    Session σ ClaimError AgentRunResult :=
  Session.mapError (claimError kind) (AgentLoop.run client.llm tools steps initialMessages)

/-! ## What the adapter reports -/

/-- The last call is reported as `TIMEOUT` or `NETWORK_ERROR`. -/
def ProviderLog.ReportsUnavailable (log : ProviderLog) : Prop :=
  ∃ event, log.events.getLast? = some (.callCompleted event) ∧
    (event.outcome = .timeout ∨ event.outcome = .networkError)

/-- The status code with which the last call failed. -/
def ProviderLog.failedStatus? (log : ProviderLog) : Option ℕ :=
  log.calls.getLast?.bind fun outcome =>
    match outcome.failure? with
    | some (.httpStatus statusCode) => some statusCode
    | _ => none

/-- The worker sorts a failure as the adapter reports it. -/
structure Classified {α : Type} (ended : Except ClaimError α) (log : ProviderLog) : Prop where
  retryable : (∃ code committed, ended = .error (.retryable code committed)) ↔
    log.ReportsUnavailable ∨ ∃ statusCode, log.failedStatus? = some statusCode ∧
      transientStatus statusCode = true
  rejected : ended = .error .providerRequestRejected ↔
    ∃ statusCode, log.failedStatus? = some statusCode ∧ transientStatus statusCode = false

/-- Every call of the HTTP client in a run keeps the contract of the adapter, and
the failure that ends the run is sorted as it was reported. -/
def FailureContract {σ ε : Type} (client : ProviderClient) (tools : ToolExecutor σ ε)
    (kind : ε → ToolsErrorKind) (steps : ℕ) (initialMessages : List AgentMessage) (world : σ) :
    Prop :=
  ∀ state ∈ AgentLoop.asked client.llm tools (min steps AgentLoop.maxSteps)
      (.initial initialMessages) world,
    client.CallContract (client.llm state.messages) (client.callLog state.messages) ∧
      ∀ error, client.llm state.messages = .error error →
        Classified (runClaimedJob client tools kind steps initialMessages world).1
          (client.callLog state.messages)

/-! ## Where it holds -/

/-- An exception that an event can carry and that the worker sorts as reported. -/
def HttpxError.Reported : HttpxError → Prop
  | .httpStatus statusCode => 100 ≤ statusCode ∧ statusCode ≤ 599
  | .request _ => False
  | _ => True

/-- The call succeeds or fails in a reported way. -/
def HttpOutcome.Reported (outcome : HttpOutcome) : Prop :=
  ∀ error, outcome.failure? = some error → error.Reported

/-- The first call of an attempt ends in a reported way, and so does the second, if
the first brought an invalid proposal. -/
def ProviderClient.Reported (client : ProviderClient) (messages : List AgentMessage) : Prop :=
  ∀ rendered, providerMessages client.floatText messages = .ok rendered →
    (client.post rendered).Reported ∧
      ∀ fault, client.answer (client.post rendered) = .error (.schema fault) →
        ∀ again, providerMessages client.floatText (client.retryMessages messages fault) =
          .ok again → (client.post again).Reported

/-! ## One call -/

/-- A transcript that is refused is refused with more messages after it. -/
theorem providerMessagesFrom_append_error {floatText : PyFloat → List Char}
    {messages : List AgentMessage} {index : ℕ} {pending : Option (String × ToolCall)}
    {refused : ProviderMessageError}
    (h : providerMessagesFrom floatText index pending messages = .error refused)
    (more : List AgentMessage) :
    providerMessagesFrom floatText index pending (messages ++ more) = .error refused := by
  induction messages generalizing index pending with
  | nil => cases h
  | cons message rest ih =>
      rw [List.cons_append, providerMessagesFrom]
      rw [providerMessagesFrom] at h
      cases hmessage : providerMessage floatText index pending message with
      | error error =>
          rw [hmessage] at h
          exact h
      | ok turn =>
          obtain ⟨rendered, next⟩ := turn
          rw [hmessage] at h
          cases hrest : providerMessagesFrom floatText (index + 1) next rest with
          | ok others =>
              simp [hrest, bind, Except.bind, pure, Except.pure] at h
          | error error =>
              have herror : error = refused := by
                simpa [hrest, bind, Except.bind] using h
              simp [ih (herror ▸ hrest), bind, Except.bind]

namespace ProviderClient

variable {client : ProviderClient} {messages : List AgentMessage}

theorem retryMessages_refused {refused : ProviderMessageError}
    (h : providerMessages client.floatText messages = .error refused) (fault : SchemaFault)
    (rendered : List ProviderMessage) :
    providerMessages client.floatText (client.retryMessages messages fault) ≠ .ok rendered := by
  unfold providerMessages at h ⊢
  unfold retryMessages
  rw [providerMessagesFrom_append_error h]
  nofun

/-- The exception of a call that got its event, sorted by the worker. -/
theorem classified_raised {ε α : Type} {kind : ε → ToolsErrorKind} {outcome : HttpOutcome}
    {error : ProviderError} {log : ProviderLog} {event : CallCompleted}
    (hanswer : client.answer outcome = .error error) (hschema : ∀ fault, error ≠ .schema fault)
    (hlast : log.calls.getLast? = some outcome)
    (hevent : log.events.getLast? = some (.callCompleted event))
    (hreport : event.outcome = error.report.1) :
    Classified (.error (claimError kind (.provider error)) : Except ClaimError α) log ↔
      ∀ requestKind, error ≠ .httpx (.request requestKind) := by
  have hunavailable : log.ReportsUnavailable ↔
      error.report.1 = .timeout ∨ error.report.1 = .networkError := by
    unfold ProviderLog.ReportsUnavailable
    simp [hevent, hreport]
  have hstatus : log.failedStatus? = match outcome.failure? with
      | some (.httpStatus statusCode) => some statusCode
      | _ => none := by
    unfold ProviderLog.failedStatus?
    rw [hlast]
    rfl
  rcases answer_error hanswer with ⟨raised, rfl, hfailure⟩ | ⟨hfailure, ⟨fault, rfl⟩ | rfl⟩
  · rw [hfailure] at hstatus
    cases raised with
    | httpStatus statusCode =>
        refine iff_of_true ⟨?_, ?_⟩ (fun _ heq => by cases heq) <;>
          cases htransient : transientStatus statusCode <;>
          simp [claimError, hunavailable, hstatus, ProviderError.report, htransient]
    | timeout =>
        refine iff_of_true ⟨?_, ?_⟩ (fun _ heq => by cases heq) <;>
          simp [claimError, hunavailable, hstatus, ProviderError.report]
    | network =>
        refine iff_of_true ⟨?_, ?_⟩ (fun _ heq => by cases heq) <;>
          simp [claimError, hunavailable, hstatus, ProviderError.report]
    | request requestKind =>
        -- reported as `NETWORK_ERROR`, and not tried again
        refine ⟨fun h => ?_, fun h => absurd rfl (h requestKind)⟩
        obtain ⟨code, committed, hretry⟩ := h.retryable.2 (.inl (hunavailable.2 (.inr rfl)))
        cases hretry
    | outside =>
        refine iff_of_true ⟨?_, ?_⟩ (fun _ heq => by cases heq) <;>
          simp [claimError, hunavailable, hstatus, ProviderError.report]
  · exact absurd rfl (hschema fault)
  · rw [hfailure] at hstatus
    refine iff_of_true ⟨?_, ?_⟩ (fun _ heq => by cases heq) <;>
      simp [claimError, hunavailable, hstatus, ProviderError.report]

/-- A call that ends with `StructuredProposalValidationError` is neither tried again
nor refused, if its last call had a success status. -/
theorem classified_failed {ε α : Type} {kind : ε → ToolsErrorKind} {message : String}
    {log : ProviderLog} (hevent : log.events.getLast? = some .structuredOutputFailed)
    (hcalls : ∀ outcome, log.calls.getLast? = some outcome → outcome.failure? = none) :
    Classified (.error (claimError kind (.provider (.structuredProposal message))) :
      Except ClaimError α) log := by
  have hunavailable : ¬ log.ReportsUnavailable := by
    rintro ⟨event, hlast, -⟩
    rw [hevent] at hlast
    cases hlast
  have hstatus : log.failedStatus? = none := by
    unfold ProviderLog.failedStatus?
    cases hlast : log.calls.getLast? with
    | none => rfl
    | some outcome =>
        rw [Option.bind_some, hcalls outcome hlast]
  constructor <;> simp [claimError, hunavailable, hstatus]

/-- What a call of `complete` owes to the loop and to the worker. -/
def Faithful {ε : Type} (client : ProviderClient) (kind : ε → ToolsErrorKind)
    (ended : Except ProviderError AgentProposal) (log : ProviderLog) : Prop :=
  client.CallContract ended log ∧ ∀ error, ended = .error error →
    Classified (.error (claimError kind (.provider error)) : Except ClaimError AgentRunResult) log

theorem failure?_of_schema {outcome : HttpOutcome} {fault : SchemaFault}
    (h : client.answer outcome = .error (.schema fault)) : outcome.failure? = none := by
  rcases answer_error h with ⟨raised, heq, -⟩ | ⟨hfailure, -⟩
  · cases heq
  · exact hfailure

/-- A call whose event failed had a status code that no event can carry. -/
theorem failure?_of_unreported {outcome : HttpOutcome} {error : ProviderError}
    (h : client.answer outcome = .error error) (hfault : error.fault? ≠ none) :
    ∃ statusCode, outcome.failure? = some (.httpStatus statusCode) ∧
      ¬ (HttpxError.httpStatus statusCode).Reported := by
  rw [Ne, ProviderError.fault?_eq_none_iff] at hfault
  push Not at hfault
  obtain ⟨statusCode, rfl, hrange⟩ := hfault
  rcases answer_error h with ⟨raised, heq, hfailure⟩ | ⟨-, ⟨fault, heq⟩ | heq⟩
  · cases heq
    exact ⟨statusCode, hfailure,
      fun hreported => absurd hreported.2 (Nat.not_le.2 (hrange hreported.1))⟩
  · cases heq
  · cases heq

/-- An exception that got its event is reported as the worker sorts it, unless it is
another `RequestError`. -/
theorem reported_iff_of_raised {outcome : HttpOutcome} {error : ProviderError}
    (h : client.answer outcome = .error error) (hfault : error.fault? = none) :
    outcome.Reported ↔ ∀ requestKind, error ≠ .httpx (.request requestKind) := by
  rcases answer_error h with ⟨raised, rfl, hfailure⟩ | ⟨hfailure, hbody⟩
  · have hreported : outcome.Reported ↔ raised.Reported := by
      unfold HttpOutcome.Reported
      simp [hfailure]
    rw [hreported]
    cases raised with
    | httpStatus statusCode =>
        have hrange := (ProviderError.fault?_eq_none_iff _).1 hfault statusCode rfl
        exact ⟨fun _ _ => nofun, fun _ => hrange⟩
    | timeout | network | outside => exact ⟨fun _ _ => nofun, fun _ => trivial⟩
    | request requestKind => exact ⟨False.elim, fun hnot => hnot requestKind rfl⟩
  · constructor
    · rintro - requestKind rfl
      rcases hbody with ⟨fault, heq⟩ | heq <;> cases heq
    · intro _ raised hraised
      rw [hfailure] at hraised
      cases hraised

/-- So the worker sorts such an exception as it is reported. -/
theorem classified_iff_reported {ε α : Type} {kind : ε → ToolsErrorKind} {outcome : HttpOutcome}
    {error : ProviderError} {log : ProviderLog} {event : CallCompleted} (earlier : List HttpOutcome)
    (hanswer : client.answer outcome = .error error) (hfault : error.fault? = none)
    (hschema : ∀ fault, error ≠ .schema fault) (hcalls : log.calls = earlier ++ [outcome])
    (hevent : log.events.getLast? = some (.callCompleted event))
    (hreport : event.outcome = error.report.1) :
    Classified (.error (claimError kind (.provider error)) : Except ClaimError α) log ↔
      outcome.Reported := by
  have hlast : log.calls.getLast? = some outcome := by
    rw [hcalls]
    exact List.getLast?_concat
  rw [classified_raised hanswer hschema hlast hevent hreport, reported_iff_of_raised hanswer hfault]

/-- Whatever is asked of the failure of an outcome without one. -/
theorem forall_failure_of_none {outcome : HttpOutcome} {P : HttpxError → Prop}
    (h : outcome.failure? = none) : ∀ error, outcome.failure? = some error → P error := by
  intro error herror
  rw [h] at herror
  cases herror

/-- What is asked of the messages that are sent. -/
theorem forall_rendered_iff {sent : Except ProviderMessageError (List ProviderMessage)}
    {rendered : List ProviderMessage} {P : List ProviderMessage → Prop} (h : sent = .ok rendered) :
    (∀ other, sent = .ok other → P other) ↔ P rendered := by
  subst h
  refine ⟨fun hall => hall rendered rfl, fun hrendered other heq => ?_⟩
  cases heq
  exact hrendered

theorem CallContract.zero {ended : Except ProviderError AgentProposal} {log : ProviderLog}
    (hcalls : log.calls = []) : client.CallContract ended log := by
  refine ⟨by simp [hcalls], fun first second rest heq => ?_, fun outcome houtcome => ?_⟩
  · rw [hcalls] at heq
    cases heq
  · rw [hcalls] at houtcome
    cases houtcome

theorem CallContract.one {ended : Except ProviderError AgentProposal} {log : ProviderLog}
    {only : HttpOutcome} (hcalls : log.calls = [only])
    (honly : ∀ error, only.failure? = some error → ended = .error (.httpx error)) :
    client.CallContract ended log := by
  refine ⟨by simp [hcalls], fun first second rest heq => ?_, fun outcome houtcome => ?_⟩
  · rw [hcalls] at heq
    cases heq
  · rw [hcalls] at houtcome
    rw [List.mem_singleton.1 houtcome]
    exact honly

theorem CallContract.two {ended : Except ProviderError AgentProposal} {log : ProviderLog}
    {first second : HttpOutcome} (hcalls : log.calls = [first, second])
    (hinvalid : client.InvalidProposal first) (hfirst : first.failure? = none)
    (hsecond : ∀ error, second.failure? = some error → ended = .error (.httpx error)) :
    client.CallContract ended log := by
  refine ⟨by simp [hcalls], fun earlier later rest heq => ?_, fun outcome houtcome error => ?_⟩
  · rw [hcalls] at heq
    cases heq
    exact hinvalid
  · rw [hcalls] at houtcome
    simp only [List.mem_cons, List.not_mem_nil, or_false] at houtcome
    rcases houtcome with rfl | rfl
    · rw [hfirst]
      nofun
    · exact hsecond error

/-- A raised exception is the one of its call. -/
theorem same_of_raised {outcome : HttpOutcome} {error : ProviderError}
    (h : client.answer outcome = .error error) (raised : HttpxError)
    (hraised : outcome.failure? = some raised) :
    (.error error : Except ProviderError AgentProposal) = .error (.httpx raised) := by
  rcases answer_error h with ⟨other, rfl, hfailure⟩ | ⟨hfailure, -⟩
  · rw [hfailure] at hraised
    cases hraised
    rfl
  · rw [hfailure] at hraised
    cases hraised

/-- The second attempt of a call whose first brought an invalid proposal. -/
theorem faithful_again_iff {ε : Type} {kind : ε → ToolsErrorKind} {first : HttpOutcome}
    {fault : SchemaFault} {middle last : ProviderLog} {ended : Except ProviderError AgentProposal}
    (hfirst : client.answer first = .error (.schema fault)) (hmiddle : middle.calls = [first])
    (h : CompletesAgain client messages fault middle ended last) :
    Faithful client kind ended last ↔
      ∀ again, providerMessages client.floatText (client.retryMessages messages fault) = .ok again →
        (client.post again).Reported := by
  have hnone := failure?_of_schema hfirst
  have hinvalid := invalidProposal_of_answer hfirst
  cases h with
  | @answered rendered result _ hrendered hanswer hcalls =>
      obtain ⟨hsecond, -⟩ := answer_ok hanswer
      rw [forall_rendered_iff hrendered]
      rw [hmiddle] at hcalls
      refine iff_of_true ⟨.two hcalls hinvalid hnone (forall_failure_of_none hsecond), ?_⟩
        (forall_failure_of_none hsecond)
      rintro _ ⟨⟩
  | @raised rendered error event _ hrendered hanswer hfault hschema hcalls hevent hreport =>
      rw [hmiddle] at hcalls
      have hclassified : Classified (.error (claimError kind (.provider error)) :
          Except ClaimError AgentRunResult) last ↔ (client.post rendered).Reported :=
        classified_iff_reported [first] hanswer hfault hschema hcalls hevent hreport
      rw [forall_rendered_iff hrendered, ← hclassified]
      refine ⟨fun hfaithful => hfaithful.2 error rfl, fun hsorted => ?_⟩
      refine ⟨.two hcalls hinvalid hnone (same_of_raised hanswer), ?_⟩
      rintro _ ⟨⟩
      exact hsorted
  | @failed message _ calls hcalls hevent hcases =>
      rw [hmiddle] at hcalls
      rcases hcases with
        ⟨rfl, refused, hrefused⟩ | ⟨rendered, error, hrendered, hanswer, rfl, hkind⟩
      · refine iff_of_true ⟨.one hcalls (forall_failure_of_none hnone), ?_⟩ fun _ hagain => ?_
        · rintro _ ⟨⟩
          exact classified_failed hevent (by simp [hcalls, hnone])
        · rw [hrefused] at hagain
          cases hagain
      · rw [forall_rendered_iff hrendered]
        rcases hkind with ⟨other, rfl⟩ | hfault
        · have hsecond := failure?_of_schema hanswer
          refine iff_of_true ⟨.two hcalls hinvalid hnone (forall_failure_of_none hsecond), ?_⟩
            (forall_failure_of_none hsecond)
          rintro _ ⟨⟩
          exact classified_failed hevent (by simp [hcalls, hsecond])
        · -- the status code is lost in the fault of the event
          obtain ⟨statusCode, hfailure, hrange⟩ := failure?_of_unreported hanswer hfault
          refine iff_of_false (fun hfaithful => ?_) fun hreported =>
            absurd (hreported _ hfailure) hrange
          have hsame := hfaithful.1.same_exception (client.post rendered) (by simp [hcalls]) _
            hfailure
          cases hsame

/-- The second attempt of a call that could not report its first failure is never
faithful. -/
theorem not_faithful_unreported {ε : Type} {kind : ε → ToolsErrorKind} {first : HttpOutcome}
    {error : ProviderError} {fault : SchemaFault} {middle last : ProviderLog}
    {ended : Except ProviderError AgentProposal} (hfirst : client.answer first = .error error)
    (hfault : error.fault? ≠ none) (hmiddle : middle.calls = [first])
    (h : CompletesAgain client messages fault middle ended last) :
    ¬ Faithful client kind ended last := by
  obtain ⟨statusCode, hfailure, hrange⟩ := failure?_of_unreported hfirst hfault
  intro hfaithful
  have hmem : first ∈ last.calls := by
    cases h with
    | answered _ _ hcalls => simp [hcalls, hmiddle]
    | raised _ _ _ _ hcalls _ _ => simp [hcalls, hmiddle]
    | failed hcalls _ _ => simp [hcalls, hmiddle]
  have hsame := hfaithful.1.same_exception first hmem _ hfailure
  cases h with
  | answered => cases hsame
  | raised _ _ hreported =>
      cases hsame
      exact hrange ((ProviderError.fault?_eq_none_iff _).1 hreported statusCode rfl)
  | failed => cases hsame

/-- A call is faithful exactly if its calls of the HTTP client end in a reported way. -/
theorem faithful_iff {ε : Type} (client : ProviderClient) (kind : ε → ToolsErrorKind)
    (messages : List AgentMessage) :
    Faithful client kind (client.llm messages) (client.callLog messages) ↔
      client.Reported messages := by
  have hcompletes := completes client messages
  generalize client.llm messages = ended at hcompletes ⊢
  generalize client.callLog messages = last at hcompletes ⊢
  unfold ProviderClient.Reported
  cases hcompletes with
  | @answered rendered result _ hrendered hanswer hcalls =>
      obtain ⟨hfirst, -⟩ := answer_ok hanswer
      rw [forall_rendered_iff hrendered, hanswer]
      refine iff_of_true ⟨.one hcalls (forall_failure_of_none hfirst), ?_⟩
        ⟨forall_failure_of_none hfirst, ?_⟩
      · rintro _ ⟨⟩
      · rintro _ ⟨⟩
  | @raised rendered error event _ hrendered hanswer hfault hschema hcalls hevent hreport =>
      have hclassified : Classified (.error (claimError kind (.provider error)) :
          Except ClaimError AgentRunResult) last ↔ (client.post rendered).Reported :=
        classified_iff_reported [] hanswer hfault hschema hcalls hevent hreport
      rw [forall_rendered_iff hrendered, ← hclassified]
      constructor
      · intro hfaithful
        refine ⟨hfaithful.2 error rfl, fun fault hinvalid => ?_⟩
        rw [hanswer] at hinvalid
        cases hinvalid
        exact absurd rfl (hschema fault)
      · intro hreported
        refine ⟨.one hcalls (same_of_raised hanswer), ?_⟩
        rintro _ ⟨⟩
        exact hreported.1
  | @unrendered refused middle _ _ hrefused hmiddle hagain =>
      -- nothing is sent, in the second attempt neither
      have hkept := retryMessages_refused hrefused .value
      refine ⟨fun _ other hother => ?_, fun _ => ?_⟩
      · rw [hrefused] at hother
        cases hother
      · cases hagain with
        | answered hrendered => exact absurd hrendered (hkept _)
        | raised hrendered => exact absurd hrendered (hkept _)
        | @failed message _ calls hcalls hevent hcases =>
            rcases hcases with ⟨rfl, -⟩ | ⟨rendered, error, hrendered, -⟩
            · rw [hmiddle, List.append_nil] at hcalls
              refine ⟨.zero hcalls, ?_⟩
              rintro _ ⟨⟩
              exact classified_failed hevent (by simp [hcalls])
            · exact absurd hrendered (hkept _)
  | @invalid rendered fault middle _ _ hrendered hanswer hmiddle hagain =>
      have hfirst := failure?_of_schema hanswer
      rw [faithful_again_iff hanswer hmiddle hagain, forall_rendered_iff hrendered]
      refine ⟨fun hsecond => ⟨forall_failure_of_none hfirst, fun found hfound => ?_⟩,
        fun hreported => hreported.2 fault hanswer⟩
      rw [hanswer] at hfound
      cases hfound
      exact hsecond
  | @unreported rendered error fault middle _ _ hrendered hanswer hfault hmiddle hagain =>
      obtain ⟨statusCode, hfailure, hrange⟩ := failure?_of_unreported hanswer hfault
      rw [forall_rendered_iff hrendered]
      exact iff_of_false (not_faithful_unreported hanswer hfault hmiddle hagain) fun hreported =>
        absurd (hreported.1 _ hfailure) hrange

end ProviderClient

/-! ## The run -/

namespace AgentLoop

variable {σ π ε : Type} {llm : LLMClient π} {tools : ToolExecutor σ ε}

/-- The exception of a model call ends the run. -/
theorem loop_raises {turns : ℕ} {state asking : State} {world : σ} {error : π}
    (hasked : asking ∈ asked llm tools turns state world)
    (herror : llm asking.messages = .error error) :
    (loop llm tools turns state world).1 = .error (.provider error) := by
  induction turns generalizing state world with
  | zero => cases hasked
  | succ turns ih =>
      rw [asked] at hasked
      rw [loop, Session.bind_run]
      rcases List.mem_cons.1 hasked with rfl | hlater
      · have hturn : turn llm tools asking world = (.error (.provider error), world) := by
          unfold turn
          rw [herror]
          rfl
        rw [hturn]
      · -- the call is made in a later turn
        cases hturn : turn llm tools state world with
        | mk outcome after =>
            rw [hturn] at hlater
            cases outcome with
            | error raised => cases hlater
            | ok ended =>
                cases ended with
                | ends result => cases hlater
                | goesOn next => exact ih hlater

end AgentLoop

theorem runClaimedJob_raises {σ ε : Type} {client : ProviderClient} {tools : ToolExecutor σ ε}
    {kind : ε → ToolsErrorKind} {steps : ℕ} {messages : List AgentMessage} {world : σ}
    {asking : AgentLoop.State} {error : ProviderError}
    (hasked : asking ∈ AgentLoop.asked client.llm tools (min steps AgentLoop.maxSteps)
      (.initial messages) world)
    (herror : client.llm asking.messages = .error error) :
    (runClaimedJob client tools kind steps messages world).1 =
      .error (claimError kind (.provider error)) := by
  have hraises := AgentLoop.loop_raises hasked herror
  unfold runClaimedJob AgentLoop.run Session.mapError
  cases hloop : AgentLoop.loop client.llm tools (min steps AgentLoop.maxSteps) (.initial messages)
      world with
  | mk outcome after =>
      rw [hloop] at hraises
      cases hraises
      rfl

/-- A run keeps the contract exactly if each of its calls ends in a reported way. -/
theorem provider_failures_classified {σ ε : Type} (client : ProviderClient)
    (tools : ToolExecutor σ ε) (kind : ε → ToolsErrorKind) (steps : ℕ)
    (initialMessages : List AgentMessage) (world : σ) :
    FailureContract client tools kind steps initialMessages world ↔
      ∀ state ∈ AgentLoop.asked client.llm tools (min steps AgentLoop.maxSteps)
        (.initial initialMessages) world, client.Reported state.messages := by
  refine forall₂_congr fun state hstate => ?_
  rw [← ProviderClient.faithful_iff client kind]
  refine and_congr_right fun _ => forall₂_congr fun error herror => ?_
  rw [runClaimedJob_raises hstate herror]

/-- An endpoint behind a broken gateway: every request gets the status code 600. -/
def brokenEndpoint : ProviderClient where
  post _ := .response ⟨600, .error .other⟩
  modelValidateJson _ := .error .value
  apiKey := ""
  floatText _ := []

/-- An endpoint that closes every connection without an answer. -/
def closingEndpoint : ProviderClient where
  post _ := .raised (.request .remoteProtocolError)
  modelValidateJson _ := .error .value
  apiKey := ""
  floatText _ := []

/-- The first status code 600 gets a second call and ends as an invalid proposal; a
`RemoteProtocolError` is reported as `NETWORK_ERROR` and not tried again. -/
theorem provider_failures_misclassified :
    (brokenEndpoint.callLog [AgentLoop.questionMessage]).calls.length = 2 ∧
      ¬ FailureContract brokenEndpoint AgentLoop.silentTools (fun _ => .other) 1
        [AgentLoop.questionMessage] () ∧
      ¬ FailureContract closingEndpoint AgentLoop.silentTools (fun _ => .other) 1
        [AgentLoop.questionMessage] () := by
  refine ⟨rfl, fun h => ?_, fun h => ?_⟩
  · obtain ⟨hcalls, -⟩ := h (.initial [AgentLoop.questionMessage]) (List.mem_singleton_self _)
    have hsame := hcalls.same_exception (.response ⟨600, .error .other⟩) (List.mem_cons_self ..)
      (.httpStatus 600) rfl
    obtain ⟨message, hended⟩ : ∃ message, brokenEndpoint.llm [AgentLoop.questionMessage] =
      .error (.structuredProposal message) := ⟨_, rfl⟩
    cases hended.symm.trans hsame
  · obtain ⟨-, hsorted⟩ := h (.initial [AgentLoop.questionMessage]) (List.mem_singleton_self _)
    obtain ⟨code, committed, hretry⟩ := (hsorted _ rfl).retryable.2 (.inl ⟨_, rfl, .inr rfl⟩)
    cases hretry

end IntegraIntake
