import IntegraIntake.System.CaseActions

/-!
# The evidence of side effects

A result of `execute` says whether the call committed a side effect, and says it
from the registry: a handler that returns, of an action that commits.  The marker of
the job is written elsewhere, by each mutation of the port.  Between the two stands
the facade of the agent thread, `SyncTenantToolPort`, which can raise after the
transaction has committed.

```text
the call                        business tables        evidence
returns, of a committing tool   written with the       true
                                marker, or linked
                                to a case before
returns, of `find_customer`     unchanged              false
ends with another outcome       unchanged              false
raises anything else            any                    false, and FAILED
```

The replay of `create_case` returns without a look at the marker.  What stands for
it there is that a record names a case only with the job marked (`LinkedMarked`),
which is so in every state the system reaches.
-/

namespace IntegraIntake

open Library

/-! ## The facade -/

/-- What cuts a call of `SyncTenantToolPort` short. -/
inductive Interruption where
  | none
  /-- A check for cancellation raises before the commit, which undoes the call. -/
  | before
  /-- The check after the call raises. -/
  | after
  /-- The gateway gives up on the call, and neither its result nor its exception is
  seen. -/
  | lost
  deriving DecidableEq, Repr

/-- A call of the port with what cuts it short. -/
def Interruption.around {α : Type} (interruption : Interruption)
    (call : Session Db PortError α) : Session Db PortError α := fun db =>
  match interruption, call db with
  | .none, outcome => outcome
  | .before, _ => (.error .other, db)
  | .after, (.ok _, next) => (.error .other, next)
  | .after, (.error error, next) => (.error error, next)
  | .lost, (_, next) => (.error .other, next)

/-- `SyncTenantToolPort`. -/
def syncTenantToolPort (interruptions : PortOperation → Interruption)
    (port : TenantToolPort Db) : TenantToolPort Db where
  findCustomer tenantId email externalId :=
    (interruptions .findCustomer).around (port.findCustomer tenantId email externalId)
  createCase tenantId source customerId fields :=
    (interruptions .createCase).around (port.createCase tenantId source customerId fields)
  updateCaseFields tenantId caseId fields :=
    (interruptions .updateCaseFields).around (port.updateCaseFields tenantId caseId fields)
  caseExists tenantId caseId :=
    (interruptions .caseExists).around (port.caseExists tenantId caseId)
  requestApproval tenantId action policyReason :=
    (interruptions .requestApproval).around (port.requestApproval tenantId action policyReason)
  createReplyDraft tenantId jobId recipient subject body :=
    (interruptions .createReplyDraft).around
      (port.createReplyDraft tenantId jobId recipient subject body)
  flagForReview tenantId jobId reason :=
    (interruptions .flagForReview).around (port.flagForReview tenantId jobId reason)

namespace Interruption

variable {α : Type} {interruption : Interruption} {call : Session Db PortError α} {db next : Db}

/-- What the facade returns, the port has returned. -/
theorem around_ok {a : α} (h : interruption.around call db = (.ok a, next)) :
    call db = (.ok a, next) := by
  unfold around at h
  split at h
  · exact h
  all_goals cases h

/-- The facade makes up no missing customer. -/
theorem around_customerNotFound
    (h : interruption.around call db = (.error .customerNotFound, next)) :
    call db = (.error .customerNotFound, next) := by
  unfold around at h
  split at h
  · exact h
  · cases h
  · cases h
  · rename_i heq
    rw [heq, h]
  · cases h

/-- A call is undone or has its effect. -/
theorem around_state (interruption : Interruption) (call : Session Db PortError α) (db : Db) :
    (interruption.around call db).2 = db ∨ (interruption.around call db).2 = (call db).2 := by
  unfold around
  split
  · exact .inr rfl
  · exact .inl rfl
  all_goals
    rename_i heq
    exact .inr (by rw [heq])

end Interruption

/-! ## What a call of the port leaves behind -/

/-- The job is marked if its record names a case. -/
def LinkedMarked (db : Db) (tenantId jobId : Uuid) : Prop :=
  ∀ record, db.idempotencyOf? jobId tenantId = some record → record.caseId.isSome →
    Marked db tenantId jobId

/-- A call that says by its result whether it has written: then the job is marked,
and otherwise the business tables are as before. -/
structure Truthful {α : Type} (tenantId jobId : Uuid) (wrote : α → Bool)
    (call : Session Db PortError α) : Prop where
  marked : ∀ {db a next}, LinkedMarked db tenantId jobId → call db = (.ok a, next) →
    wrote a = true → Marked next tenantId jobId
  unwritten : ∀ {db a next}, call db = (.ok a, next) → wrote a = false →
    businessTables next = businessTables db
  customerNotFound : ∀ {db next}, call db = (.error .customerNotFound, next) →
    businessTables next = businessTables db

theorem Truthful.around {α : Type} {tenantId jobId : Uuid} {wrote : α → Bool}
    {call : Session Db PortError α} (h : Truthful tenantId jobId wrote call)
    (interruption : Interruption) : Truthful tenantId jobId wrote (interruption.around call) where
  marked hlinked hcall := h.marked hlinked (Interruption.around_ok hcall)
  unwritten hcall := h.unwritten (Interruption.around_ok hcall)
  customerNotFound hcall := h.customerNotFound (Interruption.around_customerNotFound hcall)

/-- A call that changes nothing, and never says it does. -/
theorem Truthful.of_reads {α : Type} (tenantId jobId : Uuid) {wrote : α → Bool}
    {call : Session Db PortError α} (hreads : ∀ db, (call db).2 = db)
    (hwrote : ∀ {db a next}, call db = (.ok a, next) → wrote a = false) :
    Truthful tenantId jobId wrote call := by
  have hsame : ∀ {db outcome next}, call db = (outcome, next) →
      businessTables next = businessTables db := by
    intro db outcome next hcall
    rw [← hreads db, hcall]
  refine ⟨fun _ hcall hwritten => ?_, fun hcall _ => hsame hcall, fun hcall => hsame hcall⟩
  rw [hwrote hcall] at hwritten
  cases hwritten

/-- Whether a mutation has written, as its result tells. -/
def PortResult.wrote : PortResult → Bool
  | .absent => false
  | _ => true

theorem PortResult.wrote_of_createdCase {result : PortResult} {created : CreatedCase}
    (h : result.createdCase? = some created) : result.wrote = true := by
  cases result with
  | absent => cases h
  | createdCase | reference | updatedCase => rfl

theorem PortResult.wrote_of_reference {result : PortResult} {reference : ResultReference}
    (h : result.reference? = some reference) : result.wrote = true := by
  cases result with
  | absent => cases h
  | createdCase | reference | updatedCase => rfl

theorem PortWrites.result_wrote (writes : PortWrites) : writes.result.wrote = true := by
  cases writes <;> rfl

theorem fencedJob_mem {attempt : Attempt} {db : Db} {job : AgentJob}
    (h : fencedJob attempt db = some job) :
    job ∈ db.jobs ∧ job.id = attempt.jobId ∧ job.tenantId = attempt.tenantId := by
  have hfound := List.find?_some h
  simp only [decide_eq_true_eq] at hfound
  exact ⟨List.mem_of_find?_eq_some h, hfound.1, hfound.2.1⟩

section Mutation

variable {attempt : Attempt} {now : Timestamp} {db next : Db} {result : PortResult}

/-- A commit marks the job. -/
theorem PortWrites.commit_ok {writes : PortWrites}
    (h : writes.commit attempt now db = (.ok result, next)) :
    result = writes.result ∧ Marked next attempt.tenantId attempt.jobId := by
  rw [PortWrites.commit, Session.read_bind_run] at h
  cases hfenced : fencedJob attempt db with
  | none =>
      rw [hfenced] at h
      cases h
  | some job =>
      rw [hfenced] at h
      cases h
      obtain ⟨hmem, hid, htenant⟩ := fencedJob_mem hfenced
      refine ⟨rfl, markedRow now job, ?_, hid, htenant, rfl⟩
      refine Table.mem_replace_self ⟨job, ?_, rfl⟩
      rw [writes.apply_jobs]
      exact hmem

theorem PortOpening.settle_ok {opening : PortOpening}
    (h : opening.settle attempt now db = (.ok result, next)) :
    (opening = .ends (.ok result) ∧ next = db) ∨
      result.wrote = true ∧ Marked next attempt.tenantId attempt.jobId := by
  cases opening with
  | ends outcome =>
      cases outcome <;> cases h
      exact .inl ⟨rfl, rfl⟩
  | writes writes =>
      obtain ⟨rfl, hmarked⟩ := PortWrites.commit_ok h
      exact .inr ⟨writes.result_wrote, hmarked⟩
  | inserts newId kind payload => cases h

/-- A mutation that ends with its first reads found no case, or a record that names
one. -/
theorem PortMutation.opening_ends {mutation : PortMutation}
    (h : mutation.opening attempt db = .ends (.ok result)) :
    result = .absent ∨ ∃ record, db.idempotencyOf? attempt.jobId attempt.tenantId = some record ∧
      record.caseId.isSome := by
  cases mutation with
  | createCase newId source customerId fields =>
      simp only [PortMutation.opening] at h
      cases hrecord : db.idempotencyOf? attempt.jobId attempt.tenantId with
      | none =>
          rw [hrecord] at h
          cases h
      | some record =>
          rw [hrecord] at h
          refine .inr ⟨record, rfl, ?_⟩
          cases hlinked : record.caseId with
          | some caseId => rfl
          | none =>
              simp only [openCreateCase, hlinked] at h
              split at h
              · cases h
              · split at h <;> cases h
  | createArtifact newId kind payload =>
      simp only [PortMutation.opening] at h
      split at h <;> cases h
  | updateCaseFields caseId fields =>
      simp only [PortMutation.opening] at h
      split at h <;> cases h
      exact .inl rfl

theorem insertArtifact_ends {newId : Uuid} {kind : ArtifactKind} {payload : Json} :
    insertArtifact attempt newId kind payload db ≠ .ends (.ok result) := by
  unfold insertArtifact
  split
  · simp
  · split <;> simp

/-- A mutation that returns has marked the job, or found no case, or found a record
that names one. -/
theorem PortMutation.perform_ok {mutation : PortMutation}
    (h : mutation.perform attempt now db = (.ok result, next)) :
    (next = db ∧ (result = .absent ∨ ∃ record,
        db.idempotencyOf? attempt.jobId attempt.tenantId = some record ∧ record.caseId.isSome)) ∨
      result.wrote = true ∧ Marked next attempt.tenantId attempt.jobId := by
  have hbody := Session.transaction_ok h
  rw [Session.read_bind_run] at hbody
  cases hopening : mutation.opening attempt db with
  | inserts newId kind payload =>
      rw [hopening, PortOpening.proceed, Session.read_bind_run] at hbody
      rcases PortOpening.settle_ok hbody with ⟨hends, -⟩ | hmarked
      · exact absurd hends insertArtifact_ends
      · exact .inr hmarked
  | ends outcome =>
      rw [hopening] at hbody
      rcases PortOpening.settle_ok hbody with ⟨hends, hnext⟩ | hmarked
      · exact .inl ⟨hnext, PortMutation.opening_ends (hopening.trans hends)⟩
      · exact .inr hmarked
  | writes writes =>
      rw [hopening] at hbody
      obtain ⟨rfl, hmarked⟩ := PortWrites.commit_ok hbody
      exact .inr ⟨writes.result_wrote, hmarked⟩

/-- `update_case_fields` returns nothing else. -/
theorem updateCaseFields_result {caseId : Uuid} {fields : List (String × Json)}
    (h : (PortMutation.updateCaseFields caseId fields).perform attempt now db =
      (.ok result, next)) :
    result = .absent ∨ ∃ id updatedFields, result = .updatedCase id updatedFields := by
  have hbody := Session.transaction_ok h
  rw [Session.read_bind_run, PortMutation.opening] at hbody
  cases hcase : db.case? caseId attempt.tenantId with
  | none =>
      rw [hcase] at hbody
      cases hbody
      exact .inl rfl
  | some case =>
      rw [hcase] at hbody
      obtain ⟨rfl, -⟩ := PortWrites.commit_ok hbody
      exact .inr ⟨_, _, rfl⟩

end Mutation

theorem portError_eq_customerNotFound {error : AppError}
    (h : portError error = .customerNotFound) : error = .customerNotFound := by
  cases error <;> first | rfl | cases h

/-- A mutation that raises has done nothing. -/
theorem PortMutation.perform_error {attempt : Attempt} {now : Timestamp} {mutation : PortMutation}
    {db next : Db} {error : AppError}
    (h : mutation.perform attempt now db = (.error error, next)) : next = db :=
  Session.transaction_error h

/-- A call of the port that is one mutation and reads its result. -/
theorem Truthful.of_mutation {α : Type} (attempt : Attempt) {now : Timestamp}
    {mutation : PortMutation} {answer : PortResult → Session Db AppError α} {wrote : α → Bool}
    (hok : ∀ {db result next working a final},
      mutation.perform attempt now db = (.ok result, next) →
      answer result working = (.ok a, final) → final = working ∧ wrote a = result.wrote)
    (herror : ∀ {result working final}, answer result working ≠ (.error .customerNotFound, final)) :
    Truthful attempt.tenantId attempt.jobId wrote
      (Session.mapError portError (mutation.perform attempt now >>= answer)) where
  marked {db a next} hlinked hcall hwrote := by
    obtain ⟨result, working, hperform, hanswer⟩ :=
      Session.bind_eq_ok (Session.mapError_ok.1 hcall)
    obtain ⟨rfl, hsame⟩ := hok hperform hanswer
    rcases PortMutation.perform_ok hperform with ⟨rfl, rfl | ⟨record, hrecord, hcase⟩⟩ |
      ⟨-, hmarked⟩
    · rw [hsame] at hwrote
      cases hwrote
    · exact hlinked record hrecord hcase
    · exact hmarked
  unwritten {db a next} hcall hwrote := by
    obtain ⟨result, working, hperform, hanswer⟩ :=
      Session.bind_eq_ok (Session.mapError_ok.1 hcall)
    obtain ⟨rfl, hsame⟩ := hok hperform hanswer
    rcases PortMutation.perform_ok hperform with ⟨rfl, -⟩ | ⟨hwritten, -⟩
    · rfl
    · rw [hsame, hwritten] at hwrote
      cases hwrote
  customerNotFound {db next} hcall := by
    obtain ⟨error, hraised, hrenamed⟩ := Session.mapError_error hcall
    cases portError_eq_customerNotFound hrenamed
    rw [Session.bind_run] at hraised
    split at hraised
    · exact absurd hraised herror
    · rename_i hperform
      cases hraised
      rw [PortMutation.perform_error hperform]

/-! ## The port and its facade -/

section Port

variable (context : PortContext) (interruptions : PortOperation → Interruption) (tenantId : Uuid)

theorem findCustomer_truthful (email externalId : Option String) :
    Truthful tenantId context.jobId (fun _ => false)
      ((syncTenantToolPort interruptions (postgresTenantToolPort context)).findCustomer tenantId
        email externalId) :=
  (Truthful.of_reads tenantId context.jobId (fun _ => rfl) fun _ => rfl).around _

theorem createCase_truthful (source : TrustedSource) (customerId : Option Uuid)
    (fields : FieldValues) :
    Truthful tenantId context.jobId (fun _ => true)
      ((syncTenantToolPort interruptions (postgresTenantToolPort context)).createCase tenantId
        source customerId fields) := by
  refine Truthful.around (.of_mutation (context.attempt tenantId) ?_ ?_) _
  · intro db result next working a final hperform hanswer
    obtain ⟨hcase, rfl⟩ := Session.orRaise_eq_ok hanswer
    exact ⟨rfl, (PortResult.wrote_of_createdCase hcase).symm⟩
  · intro result working final hanswer
    cases Session.orRaise_eq_error hanswer

theorem updateCaseFields_truthful (caseId : Uuid) (fields : FieldValues) :
    Truthful tenantId context.jobId Option.isSome
      ((syncTenantToolPort interruptions (postgresTenantToolPort context)).updateCaseFields tenantId
        caseId fields) := by
  refine Truthful.around (.of_mutation (context.attempt tenantId) ?_ ?_) _
  · intro db result next working a final hperform hanswer
    cases hanswer
    rcases updateCaseFields_result hperform with rfl | ⟨id, updatedFields, rfl⟩
    · exact ⟨rfl, rfl⟩
    · exact ⟨rfl, rfl⟩
  · intro result working final hanswer
    cases hanswer

theorem artifactCall_truthful (jobId : Option Uuid) (mutation : PortMutation) :
    Truthful tenantId context.jobId (fun _ => true)
      (artifactCall context tenantId jobId mutation) := by
  unfold artifactCall
  split
  · exact .of_reads tenantId context.jobId (fun _ => rfl) fun hcall => nomatch hcall
  · refine Truthful.of_mutation (context.attempt tenantId) ?_ ?_
    · intro db result next working a final hperform hanswer
      obtain ⟨hreference, rfl⟩ := Session.orRaise_eq_ok hanswer
      exact ⟨rfl, (PortResult.wrote_of_reference hreference).symm⟩
    · intro result working final hanswer
      cases Session.orRaise_eq_error hanswer

end Port

/-! ## The handlers -/

/-- A handler that marks the job when it returns, if it `commits`, and otherwise
leaves the business tables alone; so does every exception but an unknown one. -/
structure Reports (tenantId jobId : Uuid) (commits : Bool)
    (handler : Session (World Db) HandlerError Json) : Prop where
  marked : ∀ {world data next}, commits = true → LinkedMarked world.state tenantId jobId →
    handler world = (.ok data, next) → Marked next.state tenantId jobId
  unwritten : ∀ {world data next}, commits = false → handler world = (.ok data, next) →
    businessTables next.state = businessTables world.state
  refused : ∀ {world error next}, handler world = (.error error, next) → error ≠ .port .other →
    businessTables next.state = businessTables world.state

theorem callPort_error {σ α ε : Type} {operation : PortOperation} {raising : PortError → ε}
    {call : Session σ PortError α} {world next : World σ} {error : ε}
    (h : callPort operation raising call world = (.error error, next)) :
    ∃ raised, call world.state = (.error raised, next.state) ∧ raising raised = error := by
  unfold callPort at h
  split at h
  · cases h
  · rename_i heq
    cases h
    exact ⟨_, heq, rfl⟩

namespace Reports

variable {tenantId jobId : Uuid} {commits : Bool}

theorem raise (tenantId jobId : Uuid) (commits : Bool) (error : HandlerError) :
    Reports tenantId jobId commits (Session.raise error) where
  marked _ _ h := nomatch h
  unwritten _ h := nomatch h
  refused h _ := by
    cases h
    rfl

/-- A handler after something that leaves the database alone. -/
theorem after {α : Type} {first : Session (World Db) HandlerError α}
    {rest : α → Session (World Db) HandlerError Json}
    (hfirst : ∀ world, (first world).2.state = world.state)
    (hrest : ∀ a, Reports tenantId jobId commits (rest a)) :
    Reports tenantId jobId commits (first >>= rest) where
  marked {world data next} hcommits hlinked h := by
    obtain ⟨a, working, hran, hrun⟩ := Session.bind_eq_ok h
    have hsame := hfirst world
    rw [hran] at hsame
    exact (hrest a).marked hcommits (hsame ▸ hlinked) hrun
  unwritten {world data next} hcommits h := by
    obtain ⟨a, working, hran, hrun⟩ := Session.bind_eq_ok h
    have hsame := hfirst world
    rw [hran] at hsame
    rw [(hrest a).unwritten hcommits hrun, hsame]
  refused {world error next} h hknown := by
    have hsame := hfirst world
    rw [Session.bind_run] at h
    split at h
    · rename_i a working hran
      rw [hran] at hsame
      rw [(hrest a).refused h hknown, hsame]
    · rename_i hran
      cases h
      rw [hran] at hsame
      rw [hsame]

/-- A handler that calls the port once and reads the answer. -/
theorem of_call {α : Type} {operation : PortOperation} {call : Session Db PortError α}
    {wrote : α → Bool} {answer : α → Session (World Db) HandlerError Json}
    (hcall : Truthful tenantId jobId wrote call)
    (hok : ∀ {a working data final}, answer a working = (.ok data, final) →
      final = working ∧ wrote a = commits)
    (herror : ∀ {a working error final}, answer a working = (.error error, final) →
      final = working ∧ wrote a = false) :
    Reports tenantId jobId commits (callPort operation .port call >>= answer) where
  marked {world data next} hcommits hlinked h := by
    obtain ⟨a, working, hcalled, hanswer⟩ := Session.bind_eq_ok h
    obtain ⟨rfl, hwrote⟩ := hok hanswer
    exact hcall.marked hlinked (callPort_ok hcalled) (hwrote.trans hcommits)
  unwritten {world data next} hcommits h := by
    obtain ⟨a, working, hcalled, hanswer⟩ := Session.bind_eq_ok h
    obtain ⟨rfl, hwrote⟩ := hok hanswer
    exact hcall.unwritten (callPort_ok hcalled) (hwrote.trans hcommits)
  refused {world error next} h hknown := by
    rw [Session.bind_run] at h
    split at h
    · rename_i a working hcalled
      obtain ⟨rfl, hwrote⟩ := herror h
      exact hcall.unwritten (callPort_ok hcalled) hwrote
    · rename_i raised working hcalled
      cases h
      obtain ⟨raised, hraised, rfl⟩ := callPort_error hcalled
      cases raised with
      | customerNotFound => exact hcall.customerNotFound hraised
      | other => exact absurd rfl hknown

end Reports

/-- Whether an action writes. -/
def ActionKey.commits (key : ActionKey) : Bool := key ≠ .findCustomer

theorem commitsSideEffect_eq {name : String} {capability : ActionCapability}
    (h : requireAction name = some capability) :
    capability.commitsSideEffect = capability.key.commits := by
  have hmem := List.mem_of_find?_eq_some h
  simp only [builtinActionRegistry, List.mem_cons, List.not_mem_nil, or_false] at hmem
  rcases hmem with rfl | rfl | rfl | rfl | rfl <;> rfl

/-- Looking for the case of a reply changes nothing. -/
theorem replyCaseExists_sync (context : PortContext)
    (interruptions : PortOperation → Interruption) (runtime : TrustedToolRuntimeContext)
    (values : CreateReplyDraftArgs) (world : World Db) :
    (replyCaseExists (syncTenantToolPort interruptions (postgresTenantToolPort context)) runtime
      values world).2.state = world.state := by
  unfold replyCaseExists
  cases values.caseId with
  | none => rfl
  | some caseId =>
      rw [callPort_state]
      rcases Interruption.around_state (interruptions .caseExists)
        ((postgresTenantToolPort context).caseExists runtime.tenantId caseId) world.state
        with hundone | hdone
      · exact hundone
      · exact hdone

theorem invokeHandler_reports (checks : ValueChecks) (context : PortContext)
    (interruptions : PortOperation → Interruption) (proposal : AgentProposal)
    (runtime : TrustedToolRuntimeContext) (key : ActionKey) (arguments : ToolArgs) :
    Reports runtime.tenantId context.jobId arguments.key.commits
      (invokeHandler checks (syncTenantToolPort interruptions (postgresTenantToolPort context))
        proposal runtime key arguments) := by
  refine .after (fun _ => rfl) fun _ => ?_
  cases arguments with
  | findCustomer values =>
      refine .of_call (findCustomer_truthful context interruptions _ _ _) ?_ ?_
      · rintro a working data final ⟨⟩
        exact ⟨rfl, rfl⟩
      · rintro a working error final ⟨⟩
  | createCase values =>
      unfold createCaseHandler
      cases runtime.source with
      | none => exact .raise _ _ _ _
      | some source =>
          refine .of_call (createCase_truthful context interruptions _ _ _ _) ?_ ?_
          · rintro a working data final ⟨⟩
            exact ⟨rfl, rfl⟩
          · rintro a working error final ⟨⟩
  | updateCaseFields values =>
      refine .of_call (updateCaseFields_truthful context interruptions _ _ _) ?_ ?_
      · rintro (_ | updated) working data final ⟨⟩
        exact ⟨rfl, rfl⟩
      · rintro (_ | updated) working error final ⟨⟩
        exact ⟨rfl, rfl⟩
  | createReplyDraft values =>
      refine .after (replyCaseExists_sync context interruptions runtime values) fun found => ?_
      split
      · exact .raise _ _ _ _
      · refine .of_call ((artifactCall_truthful context _ _ _).around _) ?_ ?_
        · rintro a working data final ⟨⟩
          exact ⟨rfl, rfl⟩
        · rintro a working error final ⟨⟩
  | flagForReview values =>
      refine .of_call ((artifactCall_truthful context _ _ _).around _) ?_ ?_
      · rintro a working data final ⟨⟩
        exact ⟨rfl, rfl⟩
      · rintro a working error final ⟨⟩

/-! ## The whole call -/

/-- What ran of a call: nothing of the port, a request for an approval, or a handler. -/
inductive CallRan (checks : ValueChecks) (port : TenantToolPort Db)
    (runtime : TrustedToolRuntimeContext) (proposal : AgentProposal) (world : World Db) :
    Except ExecuteError ToolExecutionResult × World Db → Prop
  | nothing {outcome : Except ExecuteError ToolExecutionResult} :
      (∀ result, outcome = .ok result → result.evidence.sideEffectCommitted = false) →
      CallRan checks port runtime proposal world (outcome, world)
  | request {outcome : Except ExecuteError ToolExecutionResult} {next : World Db}
      (action : PendingAction) (reason : PolicyReason) :
      next.state = (port.requestApproval runtime.tenantId action reason world.state).2 →
      (∀ result, outcome = .ok result → result.evidence.sideEffectCommitted = false) →
      CallRan checks port runtime proposal world (outcome, next)
  | handler {policy : PolicyOutcome} {capability : ActionCapability} {arguments : ToolArgs}
      {answer : Except ExecuteError ToolExecutionResult × World Db} :
      capability.commitsSideEffect = arguments.key.commits →
      handlerBranch checks port runtime proposal policy capability arguments world = answer →
      CallRan checks port runtime proposal world answer

section Ran

variable {checks : ValueChecks} {port : TenantToolPort Db} {runtime : TrustedToolRuntimeContext}
  {proposal : AgentProposal}

theorem CallRan.pure {result : ToolExecutionResult} {world : World Db}
    (h : result.evidence.sideEffectCommitted = false) :
    CallRan checks port runtime proposal world ((Pure.pure result : Session _ _ _) world) :=
  .nothing fun _ hresult => by cases hresult; exact h

theorem CallRan.raise (checks : ValueChecks) (port : TenantToolPort Db)
    (runtime : TrustedToolRuntimeContext) (proposal : AgentProposal) (error : ExecuteError)
    (world : World Db) :
    CallRan checks port runtime proposal world ((Session.raise error : Session _ _ _) world) :=
  .nothing fun _ hresult => nomatch hresult

theorem requestApprovalBranch_ran (policy : PolicyOutcome) (capability : ActionCapability)
    (arguments : ToolArgs) (world : World Db) :
    CallRan checks port runtime proposal world
      (requestApprovalBranch checks port runtime proposal policy capability arguments world) := by
  unfold requestApprovalBranch checkCancelled
  split
  · exact .raise ..
  · rw [Session.pure_bind, Session.bind_run]
    split
    · rename_i requested working hcalled
      refine .request (pendingAction checks runtime proposal capability arguments) policy.reason
        ?_ ?_
      · rw [← callPort_state .requestApproval ExecuteError.port, hcalled]
      · rintro _ ⟨⟩
        rfl
    · rename_i error working hcalled
      refine .request (pendingAction checks runtime proposal capability arguments) policy.reason
        ?_ ?_
      · rw [← callPort_state .requestApproval ExecuteError.port, hcalled]
      · rintro _ ⟨⟩

theorem executeRegistered_ran {call : ToolCall} (policy : PolicyOutcome)
    {capability : ActionCapability} (hcapability : requireAction call.name = some capability)
    (world : World Db) :
    CallRan checks port runtime proposal world
      (executeRegistered checks port runtime proposal call policy capability world) := by
  unfold executeRegistered
  cases harguments : ToolArgs.modelValidate capability.key call.arguments with
  | error error =>
      cases error with
      | validation => exact .pure rfl
      | typeError => exact .raise ..
  | ok arguments =>
      dsimp only
      split
      · exact requestApprovalBranch_ran policy capability arguments world
      · refine .handler ?_ rfl
        rw [ToolArgs.modelValidate_key harguments]
        exact commitsSideEffect_eq hcapability

theorem executeDecided_ran (call : ToolCall) (policy : PolicyOutcome) (world : World Db) :
    CallRan checks port runtime proposal world
      (executeDecided checks port runtime proposal call policy world) := by
  cases hcapability : requireAction call.name with
  | none =>
      unfold executeDecided
      rw [hcapability]
      cases policy.decision with
      | deny | needsApproval => exact .pure rfl
      | allow => exact .raise ..
  | some capability =>
      by_cases hdeny : policy.decision = .deny
      · unfold executeDecided
        rw [hdeny]
        exact .pure rfl
      · rw [executeDecided_of_registered hcapability hdeny]
        exact executeRegistered_ran policy hcapability world

theorem execute_ran (checks : ValueChecks) (port : TenantToolPort Db)
    (runtime : TrustedToolRuntimeContext) (proposal : AgentProposal) (call : ToolCall)
    (world : World Db) :
    CallRan checks port runtime proposal world
      (execute checks port runtime proposal call world) := by
  unfold execute checkCancelled
  split
  · exact .raise ..
  · exact executeDecided_ran call _ world

end Ran

/-- What a call may leave behind, by what it answers. -/
structure Evident (tenantId jobId : Uuid) (world : World Db)
    (outcome : Except ExecuteError ToolExecutionResult) (next : World Db) : Prop where
  marked : ∀ {result}, LinkedMarked world.state tenantId jobId → outcome = .ok result →
    result.evidence.sideEffectCommitted = true → Marked next.state tenantId jobId
  changed : businessTables next.state ≠ businessTables world.state →
    ∃ result, outcome = .ok result ∧
      (result.evidence.sideEffectCommitted = true ∧ result.disposition = .continue_ ∨
        result.disposition = .failed ∧ result.finalResponse = some "tool_execution_failed")

/-- A call that leaves the business tables alone and says so. -/
theorem Evident.of_quiet {tenantId jobId : Uuid} {world next : World Db}
    {outcome : Except ExecuteError ToolExecutionResult}
    (hquiet : ∀ result, outcome = .ok result → result.evidence.sideEffectCommitted = false)
    (hsame : businessTables next.state = businessTables world.state) :
    Evident tenantId jobId world outcome next where
  marked _ hresult hcommitted := by
    rw [hquiet _ hresult] at hcommitted
    cases hcommitted
  changed hchanged := absurd hsame hchanged

section Call

variable {checks : ValueChecks} {context : PortContext}
  {interruptions : PortOperation → Interruption} {runtime : TrustedToolRuntimeContext}
  {proposal : AgentProposal}

theorem postgresPort_requestApproval_state (context : PortContext) (tenantId : Uuid)
    (action : PendingAction) (reason : PolicyReason) (db : Db) :
    ((postgresTenantToolPort context).requestApproval tenantId action reason db).2 =
      (ApprovalRepository.createForRunningJob context.newId tenantId context.jobId
        context.attemptCount action reason.value context.expiresIn context.now db).2 := by
  simp only [postgresTenantToolPort, Session.mapError, Session.bind_run]
  cases ApprovalRepository.createForRunningJob context.newId tenantId context.jobId
    context.attemptCount action reason.value context.expiresIn context.now db with
  | mk outcome next => cases outcome <;> rfl

/-- A request for an approval writes no business rows. -/
theorem requestApproval_business (context : PortContext)
    (interruptions : PortOperation → Interruption) (tenantId : Uuid) (action : PendingAction)
    (reason : PolicyReason) (db : Db) :
    businessTables
      ((syncTenantToolPort interruptions (postgresTenantToolPort context)).requestApproval tenantId
        action reason db).2 = businessTables db := by
  rcases Interruption.around_state (interruptions .requestApproval)
    ((postgresTenantToolPort context).requestApproval tenantId action reason) db with
    hundone | hdone
  · exact congrArg businessTables hundone
  · have hrequest := postgresPort_requestApproval_state context tenantId action reason db
    exact (congrArg businessTables (hdone.trans hrequest)).trans (createForRunningJob_business ..)

theorem handlerBranch_evident {policy : PolicyOutcome} {capability : ActionCapability}
    {arguments : ToolArgs} (hcommits : capability.commitsSideEffect = arguments.key.commits)
    {world next : World Db} {outcome : Except ExecuteError ToolExecutionResult}
    (h : handlerBranch checks (syncTenantToolPort interruptions (postgresTenantToolPort context))
      runtime proposal policy capability arguments world = (outcome, next)) :
    Evident runtime.tenantId context.jobId world outcome next := by
  have hreports := invokeHandler_reports checks context interruptions proposal runtime
    capability.key arguments
  unfold handlerBranch at h
  split at h
  · cases h
    refine .of_quiet ?_ rfl
    rintro _ ⟨⟩
    rfl
  · split at h
    · rename_i data working hran
      cases h
      constructor
      · rintro _ hlinked ⟨⟩ hcommitted
        exact hreports.marked (hcommits.symm.trans hcommitted) hlinked hran
      · intro hchanged
        refine ⟨_, rfl, .inl ⟨?_, rfl⟩⟩
        by_contra hnot
        exact hchanged (hreports.unwritten (hcommits.symm.trans (Bool.eq_false_of_not_eq_true hnot))
          hran)
    · rename_i reason working hran
      cases h
      refine .of_quiet ?_ (hreports.refused hran (by simp))
      rintro _ ⟨⟩
      rfl
    · rename_i working hran
      cases h
      refine .of_quiet ?_ (hreports.refused hran (by simp))
      rintro _ ⟨⟩
      rfl
    · rename_i working hran
      cases h
      constructor
      · rintro _ _ ⟨⟩ ⟨⟩
      · exact fun _ => ⟨_, rfl, .inr ⟨rfl, rfl⟩⟩

theorem execute_evident {call : ToolCall} {world next : World Db}
    {outcome : Except ExecuteError ToolExecutionResult}
    (h : execute checks (syncTenantToolPort interruptions (postgresTenantToolPort context)) runtime
      proposal call world = (outcome, next)) :
    Evident runtime.tenantId context.jobId world outcome next := by
  have hran := execute_ran checks
    (syncTenantToolPort interruptions (postgresTenantToolPort context)) runtime proposal call world
  rw [h] at hran
  cases hran with
  | nothing hquiet => exact .of_quiet hquiet rfl
  | request action reason hstate hquiet =>
      refine .of_quiet hquiet ?_
      rw [hstate]
      exact requestApproval_business context interruptions _ action reason world.state
  | handler hcommits hbranch => exact handlerBranch_evident hcommits hbranch

end Call

/-! ## In the system -/

/-- A record that names a case has its job marked, in every reachable state. -/
theorem linkedMarked_of_reachable {services : Services} {state : SystemState}
    (h : (systemMachine services).Reachable state) (tenantId jobId : Uuid) :
    LinkedMarked state.db tenantId jobId := by
  intro record hrecord hcase
  obtain ⟨hmem, htenant, hjob⟩ := idempotencyOf?_eq_some hrecord
  obtain ⟨caseId, hcaseId⟩ := Option.isSome_iff_exists.1 hcase
  obtain ⟨-, -, linkedJob, hlinkedJob, hmarked⟩ :=
    (businessInvariant_of_reachable h).linked record hmem caseId hcaseId
  rw [hjob] at hlinkedJob
  cases hlinkedJob
  exact htenant ▸ hmarked

/-- Evidence that a side effect was committed holds of the job's row, in every
database state in which a record names a case only with the job marked; the states
that the system reaches are such.  In whatever state, a call that has changed the
business tables says so, or has failed. -/
theorem side_effect_evidence_truthful :
    (∀ checks interruptions context runtime proposal call result (world next : World Db),
      LinkedMarked world.state runtime.tenantId context.jobId →
      execute checks (syncTenantToolPort interruptions (postgresTenantToolPort context)) runtime
        proposal call world = (.ok result, next) →
      result.evidence.sideEffectCommitted = true →
      Marked next.state runtime.tenantId context.jobId) ∧
    (∀ checks interruptions context runtime proposal call outcome (world next : World Db),
      execute checks (syncTenantToolPort interruptions (postgresTenantToolPort context)) runtime
        proposal call world = (outcome, next) →
      businessTables next.state ≠ businessTables world.state →
      ∃ result, outcome = .ok result ∧
        (result.evidence.sideEffectCommitted = true ∧ result.disposition = .continue_ ∨
          result.disposition = .failed ∧ result.finalResponse = some "tool_execution_failed")) ∧
    ∀ services state, (systemMachine services).Reachable state →
      ∀ tenantId jobId, LinkedMarked state.db tenantId jobId := by
  refine ⟨?_, ?_, fun services state h => linkedMarked_of_reachable h⟩
  · intro checks interruptions context runtime proposal call result world next hlinked h hcommitted
    exact (execute_evident h).marked hlinked rfl hcommitted
  · intro checks interruptions context runtime proposal call outcome world next h hchanged
    exact (execute_evident h).changed hchanged

/-! ### A new case and a replay -/

/-- The port of the running job of `claimedCase`. -/
def caseContext : PortContext := ⟨1, 1, 9, 5, 100⟩

/-- The call that creates the case. -/
def createdAnswer : Except ExecuteError ToolExecutionResult × World Db :=
  execute noChecks (syncTenantToolPort (fun _ => .none) (postgresTenantToolPort caseContext))
    caseRuntime replyProposal ⟨"create_case", []⟩ ⟨claimedCase.db, []⟩

/-- A case is created from a state that the system reaches: the evidence says so and
the job is marked. -/
theorem side_effect_evidence_truthful_created : ∃ result,
    createdAnswer.1 = .ok result ∧ result.evidence.sideEffectCommitted = true ∧
      Marked createdAnswer.2.state 7 1 ∧
      businessTables createdAnswer.2.state ≠ businessTables claimedCase.db ∧
      ∃ answer, createdAnswer.1 = .ok answer ∧
        (answer.evidence.sideEffectCommitted = true ∧ answer.disposition = .continue_ ∨
          answer.disposition = .failed ∧ answer.finalResponse = some "tool_execution_failed") := by
  obtain ⟨hmarked, hchanged, hlinked⟩ := side_effect_evidence_truthful
  have hreachable : (systemMachine caseServices).Reachable claimedCase :=
    Machine.Reachable.run (.initial (idleSystem_initial caseServices)) claimingSteps rfl
  have hnew : businessTables createdAnswer.2.state ≠ businessTables claimedCase.db := by
    intro hsame
    have hcases : createdAnswer.2.state.cases.length = claimedCase.db.cases.length :=
      congrArg (fun tables => tables.1.length) hsame
    exact absurd hcases (by decide)
  refine ⟨_, rfl, rfl, ?_, hnew, ?_⟩
  · exact hmarked noChecks (fun _ => .none) caseContext caseRuntime replyProposal
      ⟨"create_case", []⟩ _ ⟨claimedCase.db, []⟩ _ (hlinked _ _ hreachable 7 1) rfl rfl
  · exact hchanged noChecks (fun _ => .none) caseContext caseRuntime replyProposal
      ⟨"create_case", []⟩ _ ⟨claimedCase.db, []⟩ _ rfl hnew

/-- A case that the record of job `1` names. -/
def earlierCase : IntakeCase :=
  caseFromSource 5 7 ⟨"email", "s", "b", none, none⟩ none []

/-- The job of `claimedCase`, whose record names a case although its marker is not
set. -/
def unmarkedDb : Db :=
  { claimedCase.db with
    idempotency := claimedCase.db.idempotency.map (·.linked earlierCase.id)
    cases := [earlierCase] }

/-- In a state that the system does not reach, the replay of `create_case` is
evidence of a side effect that the job's row does not show. -/
theorem create_case_replay_unmarked : ∃ result next job,
    execute noChecks (syncTenantToolPort (fun _ => .none) (postgresTenantToolPort caseContext))
      caseRuntime replyProposal ⟨"create_case", []⟩ ⟨unmarkedDb, []⟩ = (.ok result, next) ∧
    result.evidence.sideEffectCommitted = true ∧ next.state.jobs = [job] ∧ job.id = 1 ∧
      job.tenantId = 7 ∧ job.sideEffectCommittedAt = none :=
  ⟨_, _, _, rfl, rfl, rfl, rfl, rfl, rfl⟩

end IntegraIntake
