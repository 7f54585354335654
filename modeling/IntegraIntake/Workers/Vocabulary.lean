import IntegraIntake.Approvals.Repository
import IntegraIntake.Workers.Summary

/-!
# The words of a stored result

Which strings can stand in `agent_jobs.result`: the keys the program writes, the
values of its enumerations, the keys of the action registry, the field names of
the profile, and the string forms of ids that the server made.
-/

namespace IntegraIntake

open Library ApprovalRepository

/-- The keys of a stored result, of the items of its path and of its reference. -/
def resultKeys : List String :=
  ["status", "reason", "steps", "execution_path", "routing_status", "routing_reason",
    "missing_required_fields", "business_outcome", "approval_id", "approval_status",
    "result_reference", "case_id", "step", "action_key", "action_known", "policy_decision",
    "policy_reason", "tool_outcome", "side_effect_committed"]

/-- The values of `business_outcome`. -/
def businessOutcomes : List String :=
  ["tool_result", "approval_requested", "routing_only", "approval_rejected", "approval_expired"]

/-- The strings that the program itself puts into a result. -/
inductive ProgramString : String → Prop
  | key {key : String} : key ∈ resultKeys → ProgramString key
  | businessOutcome {outcome : String} : outcome ∈ businessOutcomes → ProgramString outcome
  | runStatus (status : RunStatus) : ProgramString status.value
  | stopReason (reason : StopReason) : ProgramString reason.value
  | decision (decision : RoutingDecision) : ProgramString decision.value
  | routingStatus (status : RoutingStatus) : ProgramString status.value
  | policyReason (reason : PolicyReason) : ProgramString reason.value
  | preflightReason (reason : PreflightReason) : ProgramString reason.value
  | toolOutcome (outcome : OutcomeCode) : ProgramString outcome.value
  | approvalStatus (status : ApprovalStatus) : ProgramString status.value

/-- The words of a result under a profile with the given field names, when
`serverId` are the ids that the server has made. -/
inductive Word (fieldNames : List String) (serverId : Uuid → Prop) : String → Prop
  | program {text : String} : ProgramString text → Word fieldNames serverId text
  | action {text : String} : text ∈ registryKeys → Word fieldNames serverId text
  | field {text : String} : text ∈ fieldNames → Word fieldNames serverId text
  | id {id : Uuid} : serverId id → Word fieldNames serverId (uuidString id)

/-- The value is made of words. -/
def Worded (fieldNames : List String) (serverId : Uuid → Prop) (value : Json) : Prop :=
  ∀ text ∈ value.strings, Word fieldNames serverId text

section Worded

variable {fieldNames : List String} {serverId : Uuid → Prop}

theorem Worded.mono {wider : Uuid → Prop} (hwider : ∀ id, serverId id → wider id) {value : Json}
    (h : Worded fieldNames serverId value) : Worded fieldNames wider value := by
  intro text htext
  cases h text htext with
  | program hprogram => exact .program hprogram
  | action haction => exact .action haction
  | field hfield => exact .field hfield
  | id hid => exact .id (hwider _ hid)

theorem Worded.str {text : String} (h : Word fieldNames serverId text) :
    Worded fieldNames serverId (.str text) := by
  intro other hother
  rw [List.mem_singleton.1 hother]
  exact h

theorem Worded.int (value : ℤ) : Worded fieldNames serverId (.int value) := by
  intro text htext
  cases htext

theorem Worded.bool (value : Bool) : Worded fieldNames serverId (.bool value) := by
  intro text htext
  cases htext

theorem Worded.arr {items : List Json} (h : ∀ item ∈ items, Worded fieldNames serverId item) :
    Worded fieldNames serverId (.arr items) := by
  intro text htext
  obtain ⟨item, hitem, hmem⟩ := Json.mem_strings_arr.1 htext
  exact h item hitem text hmem

/-- A dictionary under keys of the program. -/
theorem Worded.obj {members : List (String × Json)}
    (h : ∀ member ∈ members, member.1 ∈ resultKeys ∧ Worded fieldNames serverId member.2) :
    Worded fieldNames serverId (.obj members) := by
  intro text htext
  obtain ⟨member, hmember, rfl | hmem⟩ := Json.mem_strings_obj.1 htext
  · exact .program (.key (h member hmember).1)
  · exact (h member hmember).2 text hmem

theorem Worded.names {names : List String} (h : ∀ name ∈ names, name ∈ fieldNames) :
    Worded fieldNames serverId (.arr (names.map .str)) := by
  refine .arr fun item hitem => ?_
  obtain ⟨name, hname, rfl⟩ := List.mem_map.1 hitem
  exact .str (.field (h name hname))

theorem Worded.option {α : Type} {encode : α → Json} {value : Option α}
    (h : ∀ item, value = some item → Worded fieldNames serverId (encode item)) :
    Worded fieldNames serverId (optionJson encode value) := by
  cases value with
  | none =>
      intro text htext
      cases htext
  | some item => exact h item rfl

theorem Worded.get? {value item : Json} {key : String} (h : Worded fieldNames serverId value)
    (hitem : value.get? key = some item) : Worded fieldNames serverId item :=
  fun text htext => h text (Json.strings_get? hitem htext)

/-! ## Summaries -/

theorem ExecutionPathEntry.summary_worded {entry : ExecutionPathEntry}
    (haction : ∀ key, entry.actionKey = some key → key ∈ registryKeys)
    (hmissing : ∀ name ∈ entry.missingRequiredFields, name ∈ fieldNames) :
    Worded fieldNames serverId entry.summary := by
  refine .obj fun member hmember => ?_
  simp only [List.mem_cons, List.not_mem_nil, or_false] at hmember
  rcases hmember with rfl | rfl | rfl | rfl | rfl | rfl | rfl | rfl | rfl
  · exact ⟨by simp [resultKeys], .int _⟩
  · exact ⟨by simp [resultKeys], .option fun key hkey => .str (.action (haction key hkey))⟩
  · exact ⟨by simp [resultKeys], .bool _⟩
  · exact ⟨by simp [resultKeys], .str (.program (.decision _))⟩
  · exact ⟨by simp [resultKeys], .str (.program (.routingStatus _))⟩
  · exact ⟨by simp [resultKeys], .str (.program (.policyReason _))⟩
  · exact ⟨by simp [resultKeys], .names hmissing⟩
  · exact ⟨by simp [resultKeys], .option fun outcome _ => .str (.program (.toolOutcome outcome))⟩
  · exact ⟨by simp [resultKeys], .bool _⟩

theorem businessEntry_mem {path : List ExecutionPathEntry} {entry : ExecutionPathEntry}
    (h : businessEntry path = some entry) : entry ∈ path := by
  unfold businessEntry at h
  split at h
  · rename_i item hitem
    cases h
    exact List.mem_reverse.1 (List.mem_of_find?_eq_some hitem)
  · exact List.mem_of_getLast? h

theorem businessOutcome_mem (result : AgentRunResult) (entry : ExecutionPathEntry) :
    businessOutcome result entry ∈ businessOutcomes := by
  unfold businessOutcome
  split
  · decide
  · split <;> decide

theorem resultSummary_worded {result : AgentRunResult}
    (hpath : ∀ entry ∈ result.executionPath,
      (∀ key, entry.actionKey = some key → key ∈ registryKeys) ∧
        ∀ name ∈ entry.missingRequiredFields, name ∈ fieldNames) :
    Worded fieldNames serverId (resultSummary result) := by
  have hentries : Worded fieldNames serverId
      (.arr (result.executionPath.map ExecutionPathEntry.summary)) := by
    refine .arr fun item hitem => ?_
    obtain ⟨entry, hentry, rfl⟩ := List.mem_map.1 hitem
    exact entry.summary_worded (hpath entry hentry).1 (hpath entry hentry).2
  refine .obj fun member hmember => ?_
  rcases List.mem_append.1 hmember with hfixed | houtcome
  · simp only [List.mem_cons, List.not_mem_nil, or_false] at hfixed
    rcases hfixed with rfl | rfl | rfl | rfl
    · exact ⟨by simp [resultKeys], .str (.program (.runStatus _))⟩
    · exact ⟨by simp [resultKeys], .str (.program (.stopReason _))⟩
    · exact ⟨by simp [resultKeys], .int _⟩
    · exact ⟨by simp [resultKeys], hentries⟩
  · unfold outcomeMembers at houtcome
    split at houtcome
    · cases houtcome
    · rename_i entry hentry
      have hmissing := (hpath entry (businessEntry_mem hentry)).2
      simp only [List.mem_cons, List.not_mem_nil, or_false] at houtcome
      rcases houtcome with rfl | rfl | rfl | rfl
      · exact ⟨by simp [resultKeys], .str (.program (.routingStatus _))⟩
      · exact ⟨by simp [resultKeys], .str (.program (.policyReason _))⟩
      · exact ⟨by simp [resultKeys], .names hmissing⟩
      · have hword := businessOutcome_mem result entry
        exact ⟨by simp [resultKeys], .str (.program (.businessOutcome hword))⟩

theorem preflightSummary_worded {result : TerminalPreflightResult}
    (hmissing : ∀ name ∈ result.missingRequiredFields, name ∈ fieldNames) :
    Worded fieldNames serverId (preflightSummary result) := by
  have hcompleted : Word fieldNames serverId "completed" := .program (.runStatus .completed)
  have hstopped : Word fieldNames serverId "executor_stopped" :=
    .program (.stopReason .executorStopped)
  refine .obj fun member hmember => ?_
  simp only [List.mem_cons, List.not_mem_nil, or_false] at hmember
  rcases hmember with rfl | rfl | rfl | rfl | rfl | rfl | rfl | rfl
  · exact ⟨by simp [resultKeys], .str hcompleted⟩
  · exact ⟨by simp [resultKeys], .str hstopped⟩
  · exact ⟨by simp [resultKeys], .int _⟩
  · exact ⟨by simp [resultKeys], .arr (by simp)⟩
  · exact ⟨by simp [resultKeys], .str (.program (.businessOutcome (by decide)))⟩
  · exact ⟨by simp [resultKeys], .str (.program (.routingStatus _))⟩
  · exact ⟨by simp [resultKeys], .str (.program (.preflightReason _))⟩
  · exact ⟨by simp [resultKeys], .names hmissing⟩

/-! ## Decisions -/

theorem preservedKeys_subset : ∀ key ∈ preservedKeys, key ∈ resultKeys := by
  decide

/-- The result that a decision writes, from the result before it. -/
theorem decisionResult_worded {approval : Approval} {job : AgentJob} {outcome : String}
    (hresult : ∀ result, job.result = some result → Worded fieldNames serverId result)
    (houtcome : outcome ∈ businessOutcomes) (happroval : serverId approval.id)
    (hcase : ∀ caseId, decidedCase approval = some caseId → serverId caseId) :
    Worded fieldNames serverId (decisionResult approval job outcome) := by
  refine .obj fun member hmember => ?_
  rcases List.mem_append.1 hmember with hpreserved | hadded
  · obtain ⟨key, hkey, hvalue⟩ := List.mem_filterMap.1 hpreserved
    simp only [Option.map_eq_some_iff, Option.bind_eq_some_iff] at hvalue
    obtain ⟨item, ⟨result, hjob, hget⟩, rfl⟩ := hvalue
    exact ⟨preservedKeys_subset key hkey, (hresult result hjob).get? hget⟩
  · simp only [List.mem_cons, List.not_mem_nil, or_false] at hadded
    rcases hadded with rfl | rfl | rfl | rfl
    · exact ⟨by simp [resultKeys], .str (.program (.businessOutcome houtcome))⟩
    · exact ⟨by simp [resultKeys], .str (.id happroval)⟩
    · exact ⟨by simp [resultKeys], .str (.program (.approvalStatus _))⟩
    · refine ⟨by simp [resultKeys], .obj fun reference hreference => ?_⟩
      simp only [Option.mem_toList, Option.map_eq_some_iff] at hreference
      obtain ⟨caseId, hsome, rfl⟩ := hreference
      exact ⟨by simp [resultKeys], .str (.id (hcase caseId hsome))⟩

end Worded
end IntegraIntake
