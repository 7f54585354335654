import IntegraIntake.Agent.Runs
import IntegraIntake.Runtime.Preflight
import IntegraIntake.Workers.AgentWorker

/-!
# What the worker keeps of a run

`_result_summary`, `_approval_was_requested` and the two `_persist` methods of
`app/workers/agent_worker.py`: the JSON value written to `agent_jobs.result`,
and the choice between parking the job and finishing it.
-/

namespace IntegraIntake

open Library

/-- `_approval_was_requested`. -/
def approvalWasRequested (result : AgentRunResult) : Bool :=
  result.finalResponse == some "approval_requested" &&
    result.executionPath.any fun item => item.actionKnown && item.policyDecision == .needsApproval

/-- One item of the summary's execution path. -/
def ExecutionPathEntry.summary (item : ExecutionPathEntry) : Json :=
  .obj [("step", .int item.step),
    ("action_key", optionJson .str item.actionKey),
    ("action_known", .bool item.actionKnown),
    ("policy_decision", .str item.policyDecision.value),
    ("routing_status", .str item.routingStatus.value),
    ("policy_reason", .str item.policyReason.value),
    ("missing_required_fields", .arr (item.missingRequiredFields.map .str)),
    ("tool_outcome", optionJson (fun outcome => .str outcome.value) item.toolOutcome),
    ("side_effect_committed", .bool item.sideEffectCommitted)]

/-- The entry whose outcome counts: the last one with an action, or the last. -/
def businessEntry (path : List ExecutionPathEntry) : Option ExecutionPathEntry :=
  match path.reverse.find? fun item => item.actionKey.isSome with
  | some item => some item
  | none => path.getLast?

/-- `business_outcome`. -/
def businessOutcome (result : AgentRunResult) (entry : ExecutionPathEntry) : String :=
  if entry.toolOutcome.isSome then "tool_result"
  else if approvalWasRequested result then "approval_requested" else "routing_only"

/-- The part of the summary that is there for a non-empty path. -/
def outcomeMembers (result : AgentRunResult) : List (String × Json) :=
  match businessEntry result.executionPath with
  | none => []
  | some entry =>
    [("routing_status", .str entry.routingStatus.value),
     ("routing_reason", .str entry.policyReason.value),
     ("missing_required_fields", .arr (entry.missingRequiredFields.map .str)),
     ("business_outcome", .str (businessOutcome result entry))]

/-- `_result_summary`. -/
def resultSummary (result : AgentRunResult) : Json :=
  .obj ([("status", .str result.status.value), ("reason", .str result.reason.value),
    ("steps", .int result.steps),
    ("execution_path", .arr (result.executionPath.map ExecutionPathEntry.summary))] ++
    outcomeMembers result)

/-- How `_persist_result` takes a result. -/
def RunEnd.ofResult (result : AgentRunResult) : RunEnd :=
  match result.status with
  | .failed => .failed (result.reason = .toolExecutionFailed)
  | .completed =>
    if result.executionPath = [] then .completedEmpty
    else if approvalWasRequested result then .approvalRequested (resultSummary result)
    else .completed (resultSummary result)

/-- What `_persist_preflight_result` writes for an unreadable document. -/
def preflightSummary (result : TerminalPreflightResult) : Json :=
  .obj [("status", .str "completed"), ("reason", .str "executor_stopped"), ("steps", .int 0),
    ("execution_path", .arr []), ("business_outcome", .str "routing_only"),
    ("routing_status", .str result.routingStatus.value),
    ("routing_reason", .str result.reason.value),
    ("missing_required_fields", .arr (result.missingRequiredFields.map .str))]

/-- How `_persist_preflight_result` takes a result. -/
def RunEnd.ofPreflight (result : TerminalPreflightResult) : RunEnd :=
  if result.reason = .documentUnreadable then .preflightCompleted (preflightSummary result)
  else .preflightFailed result.reason.value

end IntegraIntake
