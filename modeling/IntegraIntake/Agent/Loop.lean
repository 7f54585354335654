import IntegraIntake.Tools.Executor

/-!
# The agent loop

`AgentLoop` of `app/agent/loop.py`.  The loop asks the model for a proposal,
hands its tool call to the executor and goes on until the executor stops it, a
proposal asks for no tool, a call is repeated once too often or the steps run
out.

A model client is a function of the transcript.  Every call sees at least one
message more than the call before, so such a function can give any sequence of
proposals.  The executor is any implementation of the protocol; it is told the
step it is called in, because another thread may set the cancellation event
between two steps.
-/

namespace IntegraIntake

open Library

/-- `MessageRole`. -/
inductive MessageRole where
  | user | assistant | tool | system
  deriving DecidableEq, Repr

/-- `AgentMessage`. -/
structure AgentMessage where
  role : MessageRole
  content : Option String
  proposal : Option AgentProposal
  toolCall : Option ToolCall
  toolResult : Json

/-- `RunStatus`. -/
inductive RunStatus where
  | completed | failed
  deriving DecidableEq, Repr

/-- The status as it is written. -/
def RunStatus.value : RunStatus → String
  | .completed => "completed"
  | .failed => "failed"

/-- `StopReason`. -/
inductive StopReason where
  | final | invalidProposal | repeatedTool | maxSteps | executorStopped | toolExecutionFailed
  deriving DecidableEq, Repr

/-- The reason as it is written. -/
def StopReason.value : StopReason → String
  | .final => "final"
  | .invalidProposal => "invalid_proposal"
  | .repeatedTool => "repeated_tool"
  | .maxSteps => "max_steps"
  | .executorStopped => "executor_stopped"
  | .toolExecutionFailed => "tool_execution_failed"

/-- Every `StopReason`. -/
def StopReason.all : List StopReason :=
  [.final, .invalidProposal, .repeatedTool, .maxSteps, .executorStopped, .toolExecutionFailed]

/-- `ExecutionPathEntry`: the evidence of one step. -/
structure ExecutionPathEntry extends ToolExecutionEvidence where
  step : ℕ

/-- `ExecutionPathEntry.from_tool`, with the sort of `__post_init__`. -/
def ExecutionPathEntry.fromTool (step : ℕ) (evidence : ToolExecutionEvidence) :
    ExecutionPathEntry :=
  { evidence with
    step := step
    missingRequiredFields := sortedSet evidence.missingRequiredFields }

/-- `AgentRunResult`. -/
structure AgentRunResult where
  status : RunStatus
  reason : StopReason
  messages : List AgentMessage
  steps : ℕ
  finalResponse : Option String
  proposal : Option AgentProposal
  executionPath : List ExecutionPathEntry

/-- `AgentProposal.is_terminal`. -/
def AgentProposal.isTerminal (proposal : AgentProposal) : Bool :=
  proposal.toolCalls.isEmpty

/-- `==` of two tool calls: the names, and the arguments as dictionaries. -/
def ToolCall.pyEq (left right : ToolCall) : Bool :=
  left.name == right.name && (Json.obj left.arguments).pyEq (.obj right.arguments)

/-- `LLMClient`; `π` are the exceptions of the provider. -/
abbrev LLMClient (π : Type) := List AgentMessage → Except π AgentProposal

/-- What the loop reads of a `ToolExecutionResult`.  An executor may leave the
evidence out. -/
structure ToolExecution where
  data : Json
  disposition : ToolExecutionDisposition
  finalResponse : Option String
  evidence : Option ToolExecutionEvidence

/-- What the loop reads of the result. -/
def ToolExecutionResult.toExecution (result : ToolExecutionResult) : ToolExecution :=
  ⟨result.data, result.disposition, result.finalResponse, some result.evidence⟩

/-- `ToolExecutor`, over a state `σ` and with exceptions `ε`. -/
structure ToolExecutor (σ ε : Type) where
  execute (step : ℕ) (proposal : AgentProposal) (call : ToolCall) : Session σ ε ToolExecution
  evaluateTerminal (step : ℕ) (proposal : AgentProposal) : Session σ ε ToolExecution

/-- What a run can raise. -/
inductive RunError (π ε : Type) where
  | provider (error : π)
  | tools (error : ε)

namespace AgentLoop

/-- `MAX_STEPS`. -/
def maxSteps : ℕ := 8

/-- `MAX_CONSECUTIVE_TOOL_CALLS`. -/
def maxConsecutiveToolCalls : ℕ := 3

/-- The local variables of `run`. -/
structure State where
  messages : List AgentMessage
  steps : ℕ
  executionPath : List ExecutionPathEntry
  previousToolCall : Option ToolCall
  consecutiveToolCalls : ℕ

namespace State

/-- Before the first turn. -/
def initial (messages : List AgentMessage) : State :=
  ⟨messages, 0, [], none, 0⟩

/-- After the model has answered. -/
def answered (state : State) (proposal : AgentProposal) : State :=
  { state with
    steps := state.steps + 1
    messages := state.messages ++
      [⟨.assistant, some proposal.rationaleShort, some proposal, proposal.toolCall, .null⟩] }

/-- After the call is compared with the one before. -/
def counted (state : State) (call : ToolCall) : State :=
  if state.previousToolCall.any (call.pyEq ·) then
    { state with consecutiveToolCalls := state.consecutiveToolCalls + 1 }
  else { state with previousToolCall := some call, consecutiveToolCalls := 1 }

/-- After the evidence of an execution is recorded, if there is any. -/
def recorded (state : State) (evidence : Option ToolExecutionEvidence) : State :=
  { state with
    executionPath := state.executionPath ++ (evidence.map (.fromTool state.steps)).toList }

/-- After the result of a tool is appended to the transcript. -/
def heard (state : State) (call : ToolCall) (data : Json) : State :=
  { state with messages := state.messages ++ [⟨.tool, none, none, some call, data⟩] }

/-- The result of a run that ends here. -/
def result (state : State) (status : RunStatus) (reason : StopReason)
    (finalResponse : Option String) (proposal : Option AgentProposal) : AgentRunResult :=
  ⟨status, reason, state.messages, state.steps, finalResponse, proposal, state.executionPath⟩

/-- The result of a run that fails without a proposal. -/
def stopped (state : State) (reason : StopReason) : AgentRunResult :=
  state.result .failed reason none none

end State

/-- What one turn of the loop comes to. -/
inductive Turn where
  | goesOn (state : State)
  | ends (result : AgentRunResult)

variable {σ π ε : Type}

/-- The answer to a proposal that asks for no tool.  After an earlier tool
result the model's own closing sentence stands for `no_action_requested`. -/
def terminalResponse (state : State) (proposal : AgentProposal) (response : Option String) :
    Option String :=
  if response = some "no_action_requested" ∧ 1 < state.executionPath.length
  then some proposal.rationaleShort else response

/-- The branch of a terminal proposal. -/
def terminalTurn (tools : ToolExecutor σ ε) (state : State) (proposal : AgentProposal) :
    Session σ ε Turn := do
  let execution ← tools.evaluateTerminal state.steps proposal
  let recorded := state.recorded execution.evidence
  let response := terminalResponse recorded proposal execution.finalResponse
  pure (.ends (if execution.disposition = .failed
    then recorded.result .failed .toolExecutionFailed response (some proposal)
    else recorded.result .completed .executorStopped response (some proposal)))

/-- What an executed call comes to. -/
def executedTurn (state : State) (proposal : AgentProposal) (call : ToolCall)
    (execution : ToolExecution) : Turn :=
  let next := (state.recorded execution.evidence).heard call execution.data
  match execution.disposition with
  | .failed =>
    .ends (next.result .failed .toolExecutionFailed execution.finalResponse (some proposal))
  | .completed =>
    .ends (next.result .completed .executorStopped execution.finalResponse (some proposal))
  | .continue_ => .goesOn next

/-- The branch of a proposal with a tool call. -/
def toolTurn (tools : ToolExecutor σ ε) (state : State) (proposal : AgentProposal)
    (call : ToolCall) : Session σ ε Turn :=
  if (state.counted call).consecutiveToolCalls = maxConsecutiveToolCalls then
    pure (.ends ((state.counted call).stopped .repeatedTool))
  else do
    let execution ← tools.execute state.steps proposal call
    pure (executedTurn (state.counted call) proposal call execution)

/-- The part of a turn after the model has answered. -/
def answeredTurn (tools : ToolExecutor σ ε) (state : State) (proposal : AgentProposal) :
    Session σ ε Turn :=
  if proposal.isTerminal then terminalTurn tools state proposal
  else match proposal.toolCall with
    | none => pure (.ends (state.stopped .invalidProposal))
    | some call => toolTurn tools state proposal call

/-- One turn of the loop. -/
def turn (llm : LLMClient π) (tools : ToolExecutor σ ε) (state : State) :
    Session σ (RunError π ε) Turn :=
  match llm state.messages with
  | .error error => Session.raise (.provider error)
  | .ok proposal =>
    Session.mapError .tools (answeredTurn tools (state.answered proposal) proposal)

/-- The loop, with the number of turns that are left. -/
def loop (llm : LLMClient π) (tools : ToolExecutor σ ε) :
    ℕ → State → Session σ (RunError π ε) AgentRunResult
  | 0, state => pure (state.stopped .maxSteps)
  | turns + 1, state => do
    match ← turn llm tools state with
    | .goesOn next => loop llm tools turns next
    | .ends result => pure result

/-- `AgentLoop.run`. -/
def run (llm : LLMClient π) (tools : ToolExecutor σ ε) (steps : ℕ)
    (initialMessages : List AgentMessage) : Session σ (RunError π ε) AgentRunResult :=
  loop llm tools (min steps maxSteps) (.initial initialMessages)

end AgentLoop

/-! ## Rules for the loop -/

namespace AgentLoop

variable {σ π ε : Type} {llm : LLMClient π} {tools : ToolExecutor σ ε}

/-- The loop rule: what one turn keeps, with one turn fewer to go, the loop
keeps until it ends. -/
theorem loop_establishes {I : ℕ → State → σ → Prop} {Q : AgentRunResult → σ → Prop}
    (hturn : ∀ turns state proposal, llm state.messages = .ok proposal →
      Session.Establishes (I (turns + 1) state)
      (answeredTurn tools (state.answered proposal) proposal)
        fun outcome world => match outcome with
          | .goesOn next => I turns next world
          | .ends result => Q result world)
    (hlast : ∀ state world, I 0 state world → Q (state.stopped .maxSteps) world)
    (turns : ℕ) (state : State) :
    Session.Establishes (I turns state) (loop llm tools turns state) Q := by
  induction turns generalizing state with
  | zero =>
      intro world result final hI h
      cases h
      exact hlast state world hI
  | succ turns ih =>
      intro world result final hI h
      obtain ⟨outcome, middle, hfirst, hrest⟩ := Session.bind_eq_ok h
      unfold turn at hfirst
      cases hproposal : llm state.messages with
      | error error =>
          rw [hproposal] at hfirst
          cases hfirst
      | ok proposal =>
          rw [hproposal] at hfirst
          have houtcome := hturn turns state proposal hproposal world outcome middle hI
            (Session.mapError_ok.1 hfirst)
          cases outcome with
          | goesOn next => exact ih next middle result final houtcome hrest
          | ends ended =>
              cases hrest
              exact houtcome

theorem toolCall_eq_none_of_terminal {proposal : AgentProposal} (h : proposal.isTerminal = true) :
    proposal.toolCall = none := by
  unfold AgentProposal.isTerminal at h
  rw [AgentProposal.toolCall, List.isEmpty_iff.1 h]
  rfl

theorem toolCall_isSome_of_not_terminal {proposal : AgentProposal}
    (h : proposal.isTerminal = false) : ∃ call, proposal.toolCall = some call := by
  unfold AgentProposal.isTerminal at h
  unfold AgentProposal.toolCall
  cases hcalls : proposal.toolCalls with
  | nil => simp [hcalls] at h
  | cons call rest => exact ⟨call.asToolCall, rfl⟩

theorem counted_executionPath (state : State) (call : ToolCall) :
    (state.counted call).executionPath = state.executionPath := by
  unfold State.counted
  split <;> rfl

theorem counted_steps (state : State) (call : ToolCall) :
    (state.counted call).steps = state.steps := by
  unfold State.counted
  split <;> rfl

/-- A turn after the model has answered: the proposal is terminal and evaluated,
or its call is repeated once too often, or the call is executed. -/
theorem answeredTurn_ok {state : State} {proposal : AgentProposal} {world final : σ}
    {outcome : Turn} (h : answeredTurn tools state proposal world = (.ok outcome, final)) :
    (∃ execution, proposal.toolCall = none ∧
        tools.evaluateTerminal state.steps proposal world = (.ok execution, final) ∧
        outcome = .ends (if execution.disposition = .failed
          then (state.recorded execution.evidence).result .failed .toolExecutionFailed
            (terminalResponse (state.recorded execution.evidence) proposal
              execution.finalResponse) (some proposal)
          else (state.recorded execution.evidence).result .completed .executorStopped
            (terminalResponse (state.recorded execution.evidence) proposal
              execution.finalResponse) (some proposal))) ∨
      (∃ call, proposal.toolCall = some call ∧ final = world ∧
        (state.counted call).consecutiveToolCalls = maxConsecutiveToolCalls ∧
        outcome = .ends ((state.counted call).stopped .repeatedTool)) ∨
      ∃ call execution, proposal.toolCall = some call ∧
        (state.counted call).consecutiveToolCalls ≠ maxConsecutiveToolCalls ∧
        tools.execute state.steps proposal call world = (.ok execution, final) ∧
        outcome = executedTurn (state.counted call) proposal call execution := by
  unfold answeredTurn at h
  by_cases hterminal : proposal.isTerminal = true
  · rw [if_pos hterminal] at h
    obtain ⟨execution, middle, hexecution, hrest⟩ := Session.bind_eq_ok h
    cases hrest
    exact .inl ⟨execution, toolCall_eq_none_of_terminal hterminal, hexecution, rfl⟩
  · rw [if_neg hterminal] at h
    obtain ⟨call, hcall⟩ := toolCall_isSome_of_not_terminal (by simpa using hterminal)
    simp only [hcall, toolTurn] at h
    split at h
    · rename_i hlimit
      cases h
      exact .inr (.inl ⟨call, hcall, rfl, hlimit, rfl⟩)
    · rename_i hbelow
      obtain ⟨execution, middle, hexecution, hrest⟩ := Session.bind_eq_ok h
      cases hrest
      exact .inr (.inr ⟨call, execution, hcall, hbelow, hexecution, rfl⟩)

end AgentLoop
end IntegraIntake
