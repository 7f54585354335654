import IntegraIntake.Agent.Guard
import IntegraIntake.Providers.Messages

/-!
# Bounds and transcripts of a run

What a run of the loop keeps to, whatever the model answers and the executor
does.  The transcript grows by a call and its answer a turn, so it is at every
time one that the provider's encoder accepts; and the steps in the execution path
go up and end at the steps of the run.
-/

namespace IntegraIntake

open Library

namespace AgentLoop

variable {σ π ε : Type} {llm : LLMClient π} {tools : ToolExecutor σ ε}

/-! ## The transcript -/

theorem counted_messages (state : State) (call : ToolCall) :
    (state.counted call).messages = state.messages := by
  unfold State.counted
  split <;> rfl

theorem executed_messages (state : State) (proposal : AgentProposal) (call : ToolCall)
    (execution : ToolExecution) :
    (state.executed proposal call execution).messages = state.messages ++
      [⟨.assistant, some proposal.rationaleShort, some proposal, proposal.toolCall, .null⟩,
        ⟨.tool, none, none, some call, execution.data⟩] := by
  show ((state.answered proposal).counted call).messages ++ _ = _
  rw [counted_messages, State.answered, List.append_assoc]
  rfl

theorem exchanges_of_plain {messages : List AgentMessage}
    (h : ∀ message ∈ messages, message.Plain) :
    Exchanges messages := by
  induction messages with
  | nil => exact .nil
  | cons message rest ih =>
      obtain ⟨hmessage, hrest⟩ := List.forall_mem_cons.1 h
      exact .plain hmessage (ih hrest)

/-- A turn adds a call with its answer. -/
theorem exchanges_executed {state : State} (h : Exchanges state.messages)
    {proposal : AgentProposal} {call : ToolCall} (hcall : proposal.toolCall = some call)
    (execution : ToolExecution) : Exchanges (state.executed proposal call execution).messages := by
  rw [executed_messages]
  refine h.append (.exchange rfl hcall rfl rfl ?_ .nil)
  exact ToolCall.pyEq_refl (AgentProposal.toolCall_proposed hcall)

/-! ## The execution path -/

/-- The steps of the path go up to the steps made. -/
structure PathInOrder (path : List ExecutionPathEntry) (steps : ℕ) : Prop where
  increasing : (path.map (·.step)).Pairwise (· < ·)
  bounded : ∀ entry ∈ path, entry.step ≤ steps

theorem PathInOrder.mono {path : List ExecutionPathEntry} {steps more : ℕ}
    (h : PathInOrder path steps) (hle : steps ≤ more) : PathInOrder path more :=
  ⟨h.increasing, fun entry hentry => (h.bounded entry hentry).trans hle⟩

/-- The evidence of the next step goes to the end. -/
theorem PathInOrder.recorded {state : State} {steps : ℕ} (h : PathInOrder state.executionPath steps)
    (hsteps : state.steps = steps + 1) (evidence : Option ToolExecutionEvidence) :
    PathInOrder (state.recorded evidence).executionPath (steps + 1) := by
  cases evidence with
  | none =>
      have hsame : (state.recorded none).executionPath = state.executionPath := List.append_nil _
      rw [hsame]
      exact h.mono (Nat.le_succ steps)
  | some evidence =>
      show PathInOrder (state.executionPath ++ [.fromTool state.steps evidence]) (steps + 1)
      refine ⟨?_, fun entry hentry => ?_⟩
      · rw [List.map_append, List.pairwise_append]
        refine ⟨h.increasing, List.pairwise_singleton _ _, ?_⟩
        intro earlier hearlier latest hlatest
        obtain ⟨entry, hentry, rfl⟩ := List.mem_map.1 hearlier
        rw [List.map_singleton, List.mem_singleton] at hlatest
        have hbound := h.bounded entry hentry
        have hstep : latest = state.steps := hlatest
        omega
      · rcases List.mem_append.1 hentry with hold | hnew
        · exact (h.bounded entry hold).trans (Nat.le_succ steps)
        · rw [List.mem_singleton.1 hnew]
          exact hsteps.le

theorem pathInOrder_counted {state : State} (h : PathInOrder state.executionPath state.steps)
    (proposal : AgentProposal) (call : ToolCall) (evidence : Option ToolExecutionEvidence) :
    PathInOrder (((state.answered proposal).counted call).recorded evidence).executionPath
      (state.steps + 1) := by
  refine PathInOrder.recorded ?_ ?_ evidence
  · rw [counted_executionPath]
    exact h
  · rw [counted_steps]
    rfl

theorem pathInOrder_executed {state : State} (h : PathInOrder state.executionPath state.steps)
    (proposal : AgentProposal) (call : ToolCall) (execution : ToolExecution) :
    PathInOrder (state.executed proposal call execution).executionPath
      (state.executed proposal call execution).steps := by
  have hsteps : (state.executed proposal call execution).steps = state.steps + 1 := by
    show ((state.answered proposal).counted call).steps = state.steps + 1
    rw [counted_steps]
    rfl
  rw [hsteps]
  exact pathInOrder_counted h proposal call execution.evidence

/-- The last turn makes one more step and records at most that one. -/
theorem ends_pathInOrder {state : State} (h : PathInOrder state.executionPath state.steps)
    {proposal : AgentProposal} {world final : σ} {result : AgentRunResult}
    (hends : answeredTurn tools (state.answered proposal) proposal world =
      (.ok (.ends result), final)) :
    result.steps = state.steps + 1 ∧ PathInOrder result.executionPath result.steps := by
  have hcounted : ∀ call : ToolCall,
      ((state.answered proposal).counted call).steps = state.steps + 1 := fun call => by
    rw [counted_steps]
    rfl
  rcases answeredTurn_ok hends with ⟨execution, -, -, houtcome⟩ | ⟨call, -, -, -, houtcome⟩ |
    ⟨call, execution, -, -, -, houtcome⟩
  · have hanswered : PathInOrder (state.answered proposal).executionPath state.steps := h
    have hrecorded : PathInOrder ((state.answered proposal).recorded
        execution.evidence).executionPath (state.steps + 1) := hanswered.recorded rfl _
    split at houtcome
    · cases houtcome
      exact ⟨rfl, hrecorded⟩
    · cases houtcome
      exact ⟨rfl, hrecorded⟩
  · cases houtcome
    refine ⟨hcounted call, ?_⟩
    show PathInOrder ((state.answered proposal).counted call).executionPath
      ((state.answered proposal).counted call).steps
    rw [hcounted, counted_executionPath]
    exact h.mono (Nat.le_succ _)
  · have hrecorded : PathInOrder (((state.answered proposal).counted call).recorded
        execution.evidence).executionPath ((state.answered proposal).counted call).steps := by
      rw [hcounted]
      exact pathInOrder_counted h proposal call execution.evidence
    unfold executedTurn at houtcome
    split at houtcome
    · cases houtcome
      exact ⟨hcounted call, hrecorded⟩
    · cases houtcome
      exact ⟨hcounted call, hrecorded⟩
    · cases houtcome

/-- The steps of a result are the proposals received, and its path is in order. -/
theorem run_pathInOrder {steps : ℕ} {messages : List AgentMessage} {world final : σ}
    {result : AgentRunResult} (h : run llm tools steps messages world = (.ok result, final)) :
    result.steps = (answers llm tools (min steps maxSteps) (.initial messages) world).length ∧
      PathInOrder result.executionPath result.steps := by
  obtain ⟨proposals, last, after, hwent, hcases⟩ := loop_cases h
  have hsteps : last.steps = proposals.length := by
    rw [hwent.steps_eq]
    exact Nat.zero_add _
  have hpath : PathInOrder last.executionPath last.steps := by
    refine hwent.keeps (fun state => PathInOrder state.executionPath state.steps)
      (fun state proposal call execution hstate _ => ?_) ⟨.nil, by simp [State.initial]⟩
    exact pathInOrder_executed hstate proposal call execution
  have hlength : ∀ received : List AgentProposal,
      (answers llm tools (min steps maxSteps) (.initial messages) world).map Prod.snd = received →
      (answers llm tools (min steps maxSteps) (.initial messages) world).length =
        received.length := by
    rintro received rfl
    exact (List.length_map _).symm
  rcases hcases with ⟨-, rfl, hreceived⟩ | ⟨proposal, -, hends, hreceived⟩
  · exact ⟨hsteps.trans (hlength _ hreceived).symm, hpath⟩
  · obtain ⟨hlast, hresult⟩ := ends_pathInOrder hpath hends
    refine ⟨?_, hresult⟩
    rw [hlast, hlength _ hreceived, hsteps, List.length_append]
    rfl

/-! ## Bounds and transcripts -/

/-- The user message that `complete` adds before it asks once more. -/
def feedbackMessage (feedback : String) : AgentMessage :=
  ⟨.user, some feedback, none, none, .null⟩

/-- What every run keeps to, if the messages it starts from neither call a tool nor
answer a call.  The encoder refuses a transcript only for an integer that is too long to
be written. -/
theorem agent_loop_bounds (llm : LLMClient π) (tools : ToolExecutor σ ε) (steps : ℕ)
    (messages : List AgentMessage) (world : σ) (floatText : PyFloat → List Char)
    (hmessages : ∀ message ∈ messages, message.toolCall = none ∧ message.role ≠ .tool) :
    (asked llm tools (min steps maxSteps) (.initial messages) world).length ≤ min steps 8 ∧
      (∀ result final, run llm tools steps messages world = (.ok result, final) →
        result.steps = (answers llm tools (min steps maxSteps) (.initial messages) world).length ∧
          (result.executionPath.map (·.step)).Pairwise (· < ·) ∧
          ∀ entry ∈ result.executionPath, entry.step ≤ result.steps) ∧
      (∀ front first second third back,
        (run llm tools.noting steps messages (world, [])).2.2 =
          front ++ first :: second :: third :: back →
        ¬ (third.pyEq second = true ∧ second.pyEq first = true)) ∧
      ∀ state ∈ asked llm tools (min steps maxSteps) (.initial messages) world,
        ∀ added, (added = [] ∨ ∃ feedback, added = [feedbackMessage feedback]) →
          ((∀ message ∈ state.messages ++ added, message.Writable) →
            ∃ rendered, providerMessages floatText (state.messages ++ added) = .ok rendered ∧
              Rendered floatText (state.messages ++ added) rendered ∧
              (toolCallIds rendered).Nodup) ∧
          ((∃ message ∈ state.messages ++ added, ¬ message.Writable) →
            providerMessages floatText (state.messages ++ added) = .error .tooManyDigits) := by
  refine ⟨length_asked_le _ _ _, fun result final hrun => ?_, ?_, ?_⟩
  · obtain ⟨hsteps, hpath⟩ := run_pathInOrder hrun
    exact ⟨hsteps, hpath.increasing, hpath.bounded⟩
  · intro front first second third back hlog
    exact run_noting_calm steps messages world hlog
  · have hinitial : Exchanges (State.initial messages).messages :=
      exchanges_of_plain fun message hmessage => (hmessages message hmessage).symm
    intro state hstate added hadded
    have hexchanges : Exchanges state.messages :=
      forall_asked (fun state => Exchanges state.messages)
      (fun before proposal call execution hbefore hcall =>
        exchanges_executed hbefore hcall execution) hinitial state hstate
    refine providerMessages_exchanges floatText (hexchanges.append ?_)
    rcases hadded with rfl | ⟨feedback, rfl⟩
    · exact .nil
    · exact .plain ⟨by rintro ⟨⟩, rfl⟩ .nil

/-- A question, as a user's message. -/
def questionMessage : AgentMessage := ⟨.user, some "When do you open?", none, none, .null⟩

/-- The customer client is asked at most eight times about the question, and the
transcript it is asked with first is rendered. -/
theorem agent_loop_bounds_customer :
    (asked customerClient silentTools 8 (.initial [questionMessage]) ()).length ≤ 8 ∧
      ∃ rendered, providerMessages (fun _ => []) [questionMessage] = .ok rendered ∧
        Rendered (fun _ => []) [questionMessage] rendered ∧ (toolCallIds rendered).Nodup := by
  have hmessages : ∀ message ∈ [questionMessage],
      message.toolCall = none ∧ message.role ≠ .tool := by
    intro message hmessage
    rw [List.mem_singleton.1 hmessage]
    exact ⟨rfl, by decide⟩
  obtain ⟨hasked, -, -, haccepted⟩ :=
    agent_loop_bounds customerClient silentTools 8 [questionMessage] () (fun _ => []) hmessages
  refine ⟨hasked, (haccepted (.initial [questionMessage]) List.mem_cons_self [] (.inl rfl)).1 ?_⟩
  intro message hmessage
  rw [show message = questionMessage from List.mem_singleton.1 hmessage]
  exact fun value hvalue => absurd hvalue List.not_mem_nil

/-- A tool that answers with the least number that has too many digits. -/
def countingTools : ToolExecutor Unit Unit where
  execute _ _ _ := pure ⟨.int (10 ^ PyInt.maxStrDigits : ℕ), .continue_, none, none⟩
  evaluateTerminal _ _ := pure ⟨.null, .completed, none, none⟩

/-- The answer of the tool as a message. -/
def countedMessage : AgentMessage :=
  ⟨.tool, none, none, some (customerCall (.int 1)).asToolCall, .int (10 ^ PyInt.maxStrDigits : ℕ)⟩

theorem countedMessage_long : ¬ countedMessage.Writable := by
  intro h
  have hwritten := (@writable_answers countedMessage rfl).1 h
  have hnone : PyInt.str (10 ^ PyInt.maxStrDigits : ℕ) = none :=
    PyInt.str_eq_none_iff.2 (Int.natAbs_natCast _).ge
  rw [countedMessage, Json.writable, hnone] at hwritten
  cases hwritten

/-- The encoder does not accept every transcript: when the model is asked for the second
time, the transcript holds that number. -/
theorem transcript_with_long_integer_refused :
    ¬ ∀ state ∈ asked customerClient countingTools 8 (.initial []) (),
      ∃ rendered, providerMessages (fun _ => []) state.messages = .ok rendered := by
  intro h
  have hsecond : (State.initial []).executed (customerProposal (.int 1))
      (customerCall (.int 1)).asToolCall
      ⟨.int (10 ^ PyInt.maxStrDigits : ℕ), .continue_, none, none⟩ ∈
        asked customerClient countingTools 8 (.initial []) () :=
    List.mem_cons_of_mem _ List.mem_cons_self
  have hexchanges : Exchanges ((State.initial []).executed (customerProposal (.int 1))
      (customerCall (.int 1)).asToolCall
      ⟨.int (10 ^ PyInt.maxStrDigits : ℕ), .continue_, none, none⟩).messages :=
    exchanges_executed .nil rfl _
  obtain ⟨rendered, hrendered⟩ := h _ hsecond
  rw [(providerMessages_exchanges _ hexchanges).2
    ⟨countedMessage, List.mem_cons_of_mem _ List.mem_cons_self, countedMessage_long⟩] at hrendered
  cases hrendered

end AgentLoop
end IntegraIntake
