import IntegraIntake.Agent.Trace
import IntegraIntake.Library.JsonText

/-!
# Transcripts as the provider wants them

`_provider_messages` of `app/providers/openai_compatible.py`: a scan over the
transcript that gives every assistant call an id from its position, keeps that
call pending, and accepts next only the tool message that answers it.

A transcript is made of plain messages and of exchanges, a call with its answer
right after it (`Exchanges`).  The scan accepts every such transcript whose JSON can be
written, renders its messages one by one (`Rendered`) and uses no id twice.
-/

namespace IntegraIntake

open Library

/-! ## Canonical text -/

/-- Four hexadecimal digits. -/
def hex4 (n : ℕ) : List Char :=
  [Nat.digitChar (n / 4096 % 16), Nat.digitChar (n / 256 % 16), Nat.digitChar (n / 16 % 16),
    Nat.digitChar (n % 16)]

/-- A character of a string literal with `ensure_ascii`: beyond the first plane
it is a surrogate pair. -/
def asciiEscapeChar (c : Char) : List Char :=
  if c = '\x22' then ['\x5c', '\x22']
  else if c = '\x5c' then ['\x5c', '\x5c']
  else if c = '\n' then ['\x5c', 'n']
  else if c = '\r' then ['\x5c', 'r']
  else if c = '\t' then ['\x5c', 't']
  else if c = '\x0c' then ['\x5c', 'f']
  else if c = '\x08' then ['\x5c', 'b']
  else if 32 ≤ c.toNat ∧ c.toNat ≤ 126 then [c]
  else if c.toNat < 65536 then '\x5c' :: 'u' :: hex4 c.toNat
  else '\x5c' :: 'u' :: (hex4 (55296 + (c.toNat - 65536) / 1024) ++
    '\x5c' :: 'u' :: hex4 (56320 + (c.toNat - 65536) % 1024))

/-! ## The scan -/

/-- An entry of `tool_calls`. -/
structure ProviderToolCall where
  id : String
  name : String
  arguments : String

/-- A message of the provider's request. -/
inductive ProviderMessage where
  | system (content : String)
  | user (content : String)
  | assistant (content : String) (toolCall : Option ProviderToolCall)
  | tool (toolCallId content : String)

/-- The `ValueError`s of the scan, that of `json.dumps` included. -/
inductive ProviderMessageError where
  | unanswered | unpaired | tooManyDigits
  deriving DecidableEq, Repr

/-- The text of the exception. -/
def ProviderMessageError.message : ProviderMessageError → String
  | .unanswered => "assistant tool call must be followed by its tool message"
  | .unpaired => "tool message has no preceding assistant call"
  | .tooManyDigits => "Exceeds the limit (4300 digits) for integer string conversion; " ++
      "use sys.set_int_max_str_digits() to increase the limit"

variable (floatText : PyFloat → List Char)

/-- `_canonical_json`; `floatText` is `float.__repr__`. -/
def canonicalJson (value : Json) : Except ProviderMessageError String :=
  match value.dumps? ⟨asciiEscapeChar, floatText⟩ with
  | some text => .ok text
  | none => .error .tooManyDigits

/-- `f"call_{index}"`. -/
def toolCallId (index : ℕ) : String := "call_" ++ toString index

/-- The content of a user message: the text, else the tool result it carries. -/
def userContent (message : AgentMessage) : Except ProviderMessageError String :=
  match message.content, message.toolResult with
  | some content, _ => .ok content
  | none, .null => .ok ""
  | none, result => canonicalJson floatText result

/-- The content of an assistant message: the text, else the rationale. -/
def assistantContent (message : AgentMessage) : String :=
  (message.content <|> message.proposal.map AgentProposal.rationaleShort).getD ""

/-- The entry of an assistant's call. -/
def providerToolCall (id : String) (call : ToolCall) :
    Except ProviderMessageError ProviderToolCall :=
  (canonicalJson floatText (.obj call.arguments)).map fun arguments => ⟨id, call.name, arguments⟩

/-- One turn of the scan: what is rendered, and the call that is pending after it. -/
def providerMessage (index : ℕ) (pending : Option (String × ToolCall)) (message : AgentMessage) :
    Except ProviderMessageError (ProviderMessage × Option (String × ToolCall)) :=
  if pending.isSome ∧ message.role ≠ .tool then .error .unanswered
  else match message.role with
    | .system => .ok (.system (message.content.getD ""), pending)
    | .user => (userContent floatText message).map fun content => (.user content, pending)
    | .assistant =>
      match message.toolCall with
      | none => .ok (.assistant (assistantContent message) none, pending)
      | some call => (providerToolCall floatText (toolCallId index) call).map fun entry =>
        (.assistant (assistantContent message) (some entry), some (toolCallId index, call))
    | .tool =>
      match message.toolCall, pending with
      | some call, some (id, asked) =>
        if call.pyEq asked then
          (canonicalJson floatText message.toolResult).map fun content => (.tool id content, none)
        else .error .unpaired
      | _, _ => .error .unpaired

/-- The scan from one position on. -/
def providerMessagesFrom : ℕ → Option (String × ToolCall) → List AgentMessage →
    Except ProviderMessageError (List ProviderMessage)
  | _, _, [] => .ok []
  | index, pending, message :: rest => do
    let (rendered, next) ← providerMessage floatText index pending message
    let others ← providerMessagesFrom (index + 1) next rest
    pure (rendered :: others)

/-- `_provider_messages`. -/
def providerMessages (messages : List AgentMessage) :
    Except ProviderMessageError (List ProviderMessage) :=
  providerMessagesFrom floatText 0 none messages

/-! ## What is accepted -/

/-- A message that neither calls a tool nor answers a call. -/
def AgentMessage.Plain (message : AgentMessage) : Prop :=
  message.role ≠ .tool ∧ message.toolCall = none

/-- Plain messages and answered calls. -/
inductive Exchanges : List AgentMessage → Prop
  | nil : Exchanges []
  | plain {message : AgentMessage} {rest : List AgentMessage} (plain : message.Plain)
      (others : Exchanges rest) : Exchanges (message :: rest)
  | exchange {asks answers : AgentMessage} {call : ToolCall} {rest : List AgentMessage}
      (asks_role : asks.role = .assistant) (asks_call : asks.toolCall = some call)
      (answers_role : answers.role = .tool) (answers_call : answers.toolCall = some call)
      (equal : call.pyEq call = true) (others : Exchanges rest) :
      Exchanges (asks :: answers :: rest)

theorem Exchanges.append {front back : List AgentMessage} (hfront : Exchanges front)
    (hback : Exchanges back) : Exchanges (front ++ back) := by
  induction hfront with
  | nil => exact hback
  | plain hplain _ ih => exact .plain hplain ih
  | exchange hasks hcall hanswers hanswer hequal _ ih =>
      exact .exchange hasks hcall hanswers hanswer hequal ih

/-- The JSON that is written for a message. -/
def AgentMessage.written (message : AgentMessage) : List Json :=
  match message.role with
  | .system => []
  | .user => if message.content.isSome then [] else [message.toolResult]
  | .assistant => message.toolCall.toList.map fun call => .obj call.arguments
  | .tool => [message.toolResult]

/-- `json.dumps` refuses nothing that is written for the message. -/
def AgentMessage.Writable (message : AgentMessage) : Prop :=
  ∀ value ∈ message.written, value.writable = true

theorem canonicalJson_ok {value : Json} (h : value.writable = true) :
    canonicalJson floatText value = .ok (value.dumps ⟨asciiEscapeChar, floatText⟩) := by
  rw [canonicalJson, Json.dumps?, if_pos h]

theorem canonicalJson_error {value : Json} (h : value.writable ≠ true) :
    canonicalJson floatText value = .error .tooManyDigits := by
  rw [canonicalJson, Json.dumps?, if_neg h]

theorem providerToolCall_ok (id : String) {call : ToolCall}
    (h : (Json.obj call.arguments).writable = true) :
    ∃ entry, providerToolCall floatText id call = .ok entry ∧ entry.id = id := by
  rw [providerToolCall, canonicalJson_ok floatText h]
  exact ⟨_, rfl, rfl⟩

/-- The rendering of a plain message. -/
def plainMessage (message : AgentMessage) : Except ProviderMessageError ProviderMessage :=
  match message.role with
  | .system => .ok (.system (message.content.getD ""))
  | .user => (userContent floatText message).map .user
  | _ => .ok (.assistant (assistantContent message) none)

/-- A transcript rendered message by message: a plain message by itself, a call
and its answer by two messages in a row with one id. -/
inductive Rendered : List AgentMessage → List ProviderMessage → Prop
  | nil : Rendered [] []
  | plain {message : AgentMessage} {rest : List AgentMessage} {others : List ProviderMessage}
      {first : ProviderMessage} (plain : message.Plain)
      (first_eq : plainMessage floatText message = .ok first) (rendered : Rendered rest others) :
      Rendered (message :: rest) (first :: others)
  | exchange {asks answers : AgentMessage} {call : ToolCall} {id : String}
      {rest : List AgentMessage} {others : List ProviderMessage}
      {entry : ProviderToolCall} {content : String}
      (asks_role : asks.role = .assistant) (asks_call : asks.toolCall = some call)
      (answers_role : answers.role = .tool) (answers_call : answers.toolCall = some call)
      (entry_eq : providerToolCall floatText id call = .ok entry)
      (content_eq : canonicalJson floatText answers.toolResult = .ok content)
      (rendered : Rendered rest others) :
      Rendered (asks :: answers :: rest)
        (.assistant (assistantContent asks) (some entry) :: .tool id content :: others)

/-- The ids of the calls in a request. -/
def toolCallIds (messages : List ProviderMessage) : List String :=
  messages.filterMap fun message => match message with
    | .assistant _ (some call) => some call.id
    | _ => none

theorem toolCallId_injective : Function.Injective toolCallId := by
  intro left right h
  have hchars := congrArg String.toList h
  simp only [toolCallId, String.toList_append] at hchars
  have hdigits := congrArg (Nat.ofDigitChars 10 · 0) (List.append_cancel_left hchars)
  simpa [Nat.toString_eq_ofList_toDigits] using hdigits

/-- The ids of a rendering that starts at a position come from it or a later one. -/
def FreshIds (index : ℕ) (messages : List ProviderMessage) : Prop :=
  (toolCallIds messages).Nodup ∧ ∀ id ∈ toolCallIds messages, ∃ n ≥ index, id = toolCallId n

theorem FreshIds.later {index : ℕ} {messages : List ProviderMessage}
    (h : FreshIds (index + 1) messages) : FreshIds index messages := by
  refine ⟨h.1, fun id hid => ?_⟩
  obtain ⟨n, hn, hsame⟩ := h.2 id hid
  exact ⟨n, Nat.le_of_succ_le hn, hsame⟩

/-- The tool result of a user's message is written where there is no text. -/
theorem userContent_cases {message : AgentMessage} (hrole : message.role = .user) :
    (message.Writable → ∃ content, userContent floatText message = .ok content) ∧
      (¬ message.Writable → userContent floatText message = .error .tooManyDigits) := by
  unfold userContent AgentMessage.Writable AgentMessage.written
  rw [hrole]
  cases message.content with
  | some content => simp
  | none =>
      have hwritable : (∀ value ∈ [message.toolResult], value.writable = true) ↔
          message.toolResult.writable = true := List.forall_mem_singleton
      simp only [Option.isSome_none, Bool.false_eq_true, if_false, hwritable]
      constructor
      · intro h
        have hok := canonicalJson_ok floatText h
        split
        · exact ⟨_, rfl⟩
        · exact ⟨_, rfl⟩
        · exact ⟨_, hok⟩
      · intro h
        have herror := canonicalJson_error floatText h
        split
        · contradiction
        · exact absurd (by simp only [*]; rfl) h
        · exact herror

/-- A plain message whose JSON can be written is rendered. -/
theorem plainMessage_ok {message : AgentMessage} (h : message.Writable) :
    ∃ first, plainMessage floatText message = .ok first := by
  unfold plainMessage
  cases hrole : message.role with
  | system | assistant | tool => exact ⟨_, rfl⟩
  | user =>
      obtain ⟨content, hcontent⟩ := (userContent_cases floatText hrole).1 h
      exact ⟨.user content, by rw [hcontent]; rfl⟩

/-- Only a user's message is refused among the plain ones. -/
theorem plainMessage_error {message : AgentMessage} (hplain : message.Plain)
    (h : ¬ message.Writable) : plainMessage floatText message = .error .tooManyDigits := by
  obtain ⟨hnot, hcall⟩ := hplain
  unfold plainMessage
  cases hrole : message.role with
  | system | assistant =>
      exact absurd (by simp [AgentMessage.Writable, AgentMessage.written, hrole, hcall]) h
  | tool => exact absurd hrole hnot
  | user =>
      rw [(userContent_cases floatText hrole).2 h]
      rfl

/-- After a plain message no call is pending. -/
theorem providerMessage_plain {message : AgentMessage} (h : message.Plain) (index : ℕ) :
    providerMessage floatText index none message =
      (plainMessage floatText message).map fun first => (first, none) := by
  obtain ⟨hrole, hcall⟩ := h
  unfold providerMessage plainMessage
  rw [if_neg (by simp)]
  cases hmessage : message.role with
  | tool => exact absurd hmessage hrole
  | system => rfl
  | user =>
      show (userContent floatText message).map _ = _
      cases userContent floatText message <;> rfl
  | assistant =>
      rw [hcall]
      rfl

theorem toolCallIds_plain {message : AgentMessage} {first : ProviderMessage}
    (h : plainMessage floatText message = .ok first) (others : List ProviderMessage) :
    toolCallIds (first :: others) = toolCallIds others := by
  unfold plainMessage at h
  cases hrole : message.role with
  | user =>
      rw [hrole] at h
      cases hcontent : userContent floatText message with
      | error error =>
          rw [hcontent] at h
          cases h
      | ok content =>
          rw [hcontent] at h
          cases h
          rfl
  | system | assistant | tool =>
      rw [hrole] at h
      cases h
      rfl

/-- The first message that is not writable is not one that is. -/
theorem exists_later {message : AgentMessage} {rest : List AgentMessage} (h : message.Writable) :
    (∃ other ∈ message :: rest, ¬ other.Writable) ↔ ∃ other ∈ rest, ¬ other.Writable := by
  simp [h]

/-! ### A call and its answer -/

section Exchange

variable {asks answers : AgentMessage} {call : ToolCall}

theorem writable_asks (hrole : asks.role = .assistant) (hcall : asks.toolCall = some call) :
    asks.Writable ↔ (Json.obj call.arguments).writable = true := by
  simp [AgentMessage.Writable, AgentMessage.written, hrole, hcall]

theorem writable_answers (hrole : answers.role = .tool) :
    answers.Writable ↔ answers.toolResult.writable = true := by
  simp [AgentMessage.Writable, AgentMessage.written, hrole]

theorem providerMessage_asks (hrole : asks.role = .assistant) (hcall : asks.toolCall = some call)
    (index : ℕ) :
    providerMessage floatText index none asks =
      (providerToolCall floatText (toolCallId index) call).map fun entry =>
        (.assistant (assistantContent asks) (some entry), some (toolCallId index, call)) := by
  unfold providerMessage
  rw [if_neg (by simp), hrole, hcall]

theorem providerMessage_answers (hrole : answers.role = .tool)
    (hcall : answers.toolCall = some call) (hequal : call.pyEq call = true) (index : ℕ)
    (id : String) :
    providerMessage floatText index (some (id, call)) answers =
      (canonicalJson floatText answers.toolResult).map fun content =>
        (.tool id content, none) := by
  unfold providerMessage
  rw [if_neg (by simp [hrole]), hrole, hcall]
  exact if_pos hequal

end Exchange

theorem providerMessagesFrom_cons (index : ℕ) (pending : Option (String × ToolCall))
    (message : AgentMessage) (rest : List AgentMessage) :
    providerMessagesFrom floatText index pending (message :: rest) =
      (providerMessage floatText index pending message).bind fun turn =>
        (providerMessagesFrom floatText (index + 1) turn.2 rest).map (turn.1 :: ·) := by
  rw [providerMessagesFrom]
  cases providerMessage floatText index pending message with
  | error error => rfl
  | ok turn => cases providerMessagesFrom floatText (index + 1) turn.2 rest <;> rfl

/-! ### The scan -/

/-- The scan accepts plain messages and answered calls whose JSON can be written,
renders each of them, and uses no id twice. -/
theorem providerMessagesFrom_ok {messages : List AgentMessage} (h : Exchanges messages)
    (hwritable : ∀ message ∈ messages, message.Writable) (index : ℕ) :
    ∃ rendered, providerMessagesFrom floatText index none messages = .ok rendered ∧
      Rendered floatText messages rendered ∧ FreshIds index rendered := by
  induction h generalizing index with
  | nil => exact ⟨[], rfl, .nil, List.nodup_nil, by simp [toolCallIds]⟩
  | @plain message rest hplain _ ih =>
      obtain ⟨hmessage, hrest⟩ := List.forall_mem_cons.1 hwritable
      obtain ⟨others, hothers, hrendered, hfresh⟩ := ih hrest (index + 1)
      obtain ⟨first, hfirst⟩ := plainMessage_ok floatText hmessage
      refine ⟨first :: others, ?_, .plain hplain hfirst hrendered, ?_⟩
      · rw [providerMessagesFrom_cons, providerMessage_plain floatText hplain, hfirst]
        simp only [Except.map, Except.bind, hothers]
      · have hlater := hfresh.later
        unfold FreshIds at hlater ⊢
        rwa [toolCallIds_plain floatText hfirst]
  | @exchange asks answers call rest hasks hcall hanswers hanswer hequal _ ih =>
      obtain ⟨hask, hrest⟩ := List.forall_mem_cons.1 hwritable
      obtain ⟨htold, hrest⟩ := List.forall_mem_cons.1 hrest
      obtain ⟨others, hothers, hrendered, hnodup, hids⟩ := ih hrest (index + 2)
      obtain ⟨entry, hentry, hentryId⟩ := providerToolCall_ok floatText (toolCallId index)
        ((writable_asks hasks hcall).1 hask)
      have hcontent := canonicalJson_ok floatText ((writable_answers hanswers).1 htold)
      refine ⟨_, ?_, .exchange hasks hcall hanswers hanswer hentry hcontent hrendered, ?_, ?_⟩
      · rw [providerMessagesFrom_cons, providerMessage_asks floatText hasks hcall, hentry]
        simp only [Except.map, Except.bind, providerMessagesFrom_cons,
          providerMessage_answers floatText hanswers hanswer hequal, hcontent, hothers]
      · -- later ids come from later positions
        refine List.nodup_cons.2 ⟨fun hid => ?_, hnodup⟩
        obtain ⟨n, hn, hsame⟩ := hids _ hid
        have hposition : index = n := toolCallId_injective (hentryId.symm.trans hsame)
        omega
      · intro id hid
        rcases List.mem_cons.1 hid with rfl | hlater
        · exact ⟨index, le_rfl, hentryId⟩
        · obtain ⟨n, hn, hsame⟩ := hids id hlater
          exact ⟨n, Nat.le_of_succ_le (Nat.le_of_succ_le hn), hsame⟩

/-- It refuses them at the first integer with too many digits. -/
theorem providerMessagesFrom_error {messages : List AgentMessage} (h : Exchanges messages)
    (hlong : ∃ message ∈ messages, ¬ message.Writable) (index : ℕ) :
    providerMessagesFrom floatText index none messages = .error .tooManyDigits := by
  induction h generalizing index with
  | nil =>
      obtain ⟨message, hmem, -⟩ := hlong
      cases hmem
  | @plain message rest hplain _ ih =>
      rw [providerMessagesFrom_cons, providerMessage_plain floatText hplain]
      by_cases hmessage : message.Writable
      · obtain ⟨first, hfirst⟩ := plainMessage_ok floatText hmessage
        rw [hfirst]
        simp only [Except.map, Except.bind, ih ((exists_later hmessage).1 hlong)]
      · rw [plainMessage_error floatText hplain hmessage]
        rfl
  | @exchange asks answers call rest hasks hcall hanswers hanswer hequal _ ih =>
      rw [providerMessagesFrom_cons, providerMessage_asks floatText hasks hcall, providerToolCall]
      by_cases hask : asks.Writable
      · rw [canonicalJson_ok floatText ((writable_asks hasks hcall).1 hask)]
        simp only [Except.map, Except.bind, providerMessagesFrom_cons,
          providerMessage_answers floatText hanswers hanswer hequal]
        by_cases htold : answers.Writable
        · rw [canonicalJson_ok floatText ((writable_answers hanswers).1 htold)]
          simp only [ih ((exists_later htold).1 ((exists_later hask).1 hlong))]
        · rw [canonicalJson_error floatText fun hwritten =>
            htold ((writable_answers hanswers).2 hwritten)]
      · rw [canonicalJson_error floatText fun hwritten =>
          hask ((writable_asks hasks hcall).2 hwritten)]
        rfl

/-- A transcript of plain messages and answered calls is rendered if all of its JSON can
be written, and refused for an integer with too many digits otherwise. -/
theorem providerMessages_exchanges {messages : List AgentMessage} (h : Exchanges messages) :
    ((∀ message ∈ messages, message.Writable) →
      ∃ rendered, providerMessages floatText messages = .ok rendered ∧
        Rendered floatText messages rendered ∧ (toolCallIds rendered).Nodup) ∧
    ((∃ message ∈ messages, ¬ message.Writable) →
      providerMessages floatText messages = .error .tooManyDigits) := by
  refine ⟨fun hwritable => ?_, fun hlong => providerMessagesFrom_error floatText h hlong 0⟩
  obtain ⟨rendered, hok, hrendered, hfresh⟩ := providerMessagesFrom_ok floatText h hwritable 0
  exact ⟨rendered, hok, hrendered, hfresh.1⟩

end IntegraIntake
