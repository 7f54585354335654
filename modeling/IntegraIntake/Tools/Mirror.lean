import IntegraIntake.Library.Simulation
import IntegraIntake.Tools.InMemory

/-!
# The double against the database

`Mirrors` relates the customers, cases and artifacts of `InMemoryTenantToolPort` to the
tables that `PostgresTenantToolPort` reads and writes for one attempt of a job.  Each
operation of the double answers as the operation of the database does and keeps the
relation, with two exceptions.  The database creates one case a job and then replays it, and it
holds one approval a job; the double makes a new one each time.  So the relation
carries whether a case was created and an approval asked for, and the operations that
make them are compared only the first time.
-/

namespace IntegraIntake

open Library

/-- A row of `customers` as the double keeps it. -/
def Customer.entry (customer : Customer) : Uuid × CustomerRecord :=
  (customer.id, ⟨customer.tenantId, customer.summary⟩)

/-- A row of `intake_cases` as the double keeps it. -/
def IntakeCase.record (case : IntakeCase) : CaseRecord :=
  ⟨case.tenantId, case.id, case.status, case.channel, case.subject, case.body,
    case.extractedFields⟩

/-- The job of the attempt runs. -/
def AgentJob.Runs (attempt : Attempt) (job : AgentJob) : Prop :=
  job.id = attempt.jobId ∧ job.tenantId = attempt.tenantId ∧ job.status = .running ∧
    job.attemptCount = attempt.count

instance (attempt : Attempt) (job : AgentJob) : Decidable (job.Runs attempt) :=
  inferInstanceAs (Decidable (_ ∧ _))

/-- The double and the database hold the same customers, cases and artifacts; `asked` and
`created` say whether an approval was asked for and a case created before.  The double's
list of requested approvals is not compared with the table, which holds one staged
approval a job. -/
structure Mirrors (attempt : Attempt) (asked created : Prop) (memory : InMemory) (db : Db) :
    Prop where
  customers : memory.customers = db.customers.map Customer.entry
  customers_unique : Table.Unique Customer.id db.customers
  cases : ∀ id, memory.cases.lookup id =
    (Table.lookup IntakeCase.id id db.cases).map IntakeCase.record
  cases_unique : Table.Unique IntakeCase.id db.cases
  artifacts : ∀ key, memory.artifacts.lookup key =
    (Table.lookup JobArtifact.key key db.artifacts).map fun artifact =>
      (artifact.id, artifact.payload)
  jobs_unique : Table.Unique AgentJob.id db.jobs
  job : ∃ job ∈ db.jobs, job.Runs attempt
  record : created ∨ ∃ record, db.idempotencyOf? attempt.jobId attempt.tenantId = some record ∧
    record.caseId = none
  approval : asked ∨ ∀ approval ∈ db.approvals, approval.jobId ≠ some attempt.jobId

/-- No row of the tables that a port writes has this identifier. -/
structure Fresh (id : Uuid) (db : Db) : Prop where
  cases : ∀ case ∈ db.cases, case.id ≠ id
  artifacts : ∀ artifact ∈ db.artifacts, artifact.id ≠ id
  approvals : ∀ approval ∈ db.approvals, approval.id ≠ id

/-- From mirrored states the two programs answer alike and end in mirrored states,
and the second takes no identifier but `newId`. -/
def PortAnswers {α β : Type} (attempt : Attempt) (newId : Uuid)
    (asked created asked' created' : Prop) (Q : α → β → Prop)
    (double : Session InMemory PortError α) (port : Session Db PortError β) : Prop :=
  ∀ memory db, Mirrors attempt asked created memory db → Fresh newId db →
    Session.Alike Q (double memory).1 (port db).1 ∧
      Mirrors attempt asked' created' (double memory).2 (port db).2 ∧
      ∀ id, id ≠ newId → Fresh id db → Fresh id (port db).2

namespace Mirrors

variable {attempt : Attempt} {asked created : Prop} {memory : InMemory} {db : Db}

/-! ## Reads -/

theorem findCustomer (h : Mirrors attempt asked created memory db) (tenantId : Uuid)
    (email externalId : Option String) :
    memory.findCustomer tenantId email externalId =
      (findCustomerForTenant tenantId email externalId db).map Customer.summary := by
  have hrecords : memory.customers.map Prod.snd =
      db.customers.map fun customer => ⟨customer.tenantId, customer.summary⟩ := by
    rw [h.customers, List.map_map]
    rfl
  rw [InMemory.findCustomer, findCustomerForTenant, hrecords, List.find?_map]
  split
  · -- nothing is looked for, and nothing is found
    rename_i hnone
    obtain ⟨hemail, hexternal⟩ := hnone
    rw [Option.isNone_iff_eq_none.1 hemail, Option.isNone_iff_eq_none.1 hexternal]
    simp [List.find?_eq_none]
  · rw [Option.map_map]
    rfl

theorem customer (h : Mirrors attempt asked created memory db) (id tenantId : Uuid) :
    ((memory.customers.lookup id).filter (·.tenantId = tenantId)).isNone =
      (db.customer? id tenantId).isNone := by
  have hfound : memory.customers.lookup id =
      (Table.lookup Customer.id id db.customers).map fun customer =>
        ⟨customer.tenantId, customer.summary⟩ := by
    rw [h.customers]
    exact Dict.lookup_map_rows Customer.id _ db.customers id
  rw [hfound, Db.customer?, h.customers_unique.find?_and id fun customer =>
    customer.tenantId = tenantId]
  cases Table.lookup Customer.id id db.customers with
  | none => rfl
  | some customer =>
      rw [Option.map_some, Option.filter_some, Option.filter_some]
      split <;> rfl

theorem case? (h : Mirrors attempt asked created memory db) (id tenantId : Uuid) :
    memory.case? tenantId id = (db.case? id tenantId).map IntakeCase.record := by
  rw [InMemory.case?, h.cases, Db.case?, h.cases_unique.find?_and id fun case =>
    case.tenantId = tenantId]
  cases Table.lookup IntakeCase.id id db.cases with
  | none => rfl
  | some case =>
      have htenant : case.record.tenantId = case.tenantId := rfl
      rw [Option.map_some, Option.filter_some, Option.filter_some, htenant]
      split <;> rfl

/-! ## Writes -/

theorem fenced (h : Mirrors attempt asked created memory db) :
    ∃ job, fencedJob attempt db = some job ∧ job ∈ db.jobs ∧ job.Runs attempt := by
  obtain ⟨job, hjob, hruns⟩ := h.job
  have hfound : (fencedJob attempt db).isSome :=
    List.find?_isSome.2 ⟨job, hjob, decide_eq_true hruns⟩
  obtain ⟨found, heq⟩ := Option.isSome_iff_exists.1 hfound
  unfold fencedJob at heq
  have hfields := List.find?_some heq
  exact ⟨found, heq, List.mem_of_find?_eq_some heq, of_decide_eq_true hfields⟩

/-- The marker of the side effect is no part of what the double keeps. -/
theorem marked (h : Mirrors attempt asked created memory db) {job : AgentJob}
    (hjob : job ∈ db.jobs) (hruns : job.Runs attempt) (now : Timestamp) :
    Mirrors attempt asked created memory (db.setJob (markedRow now job)) where
  customers := h.customers
  customers_unique := h.customers_unique
  cases := h.cases
  cases_unique := h.cases_unique
  artifacts := h.artifacts
  jobs_unique := h.jobs_unique.replace
  job := ⟨markedRow now job, Table.mem_replace_self ⟨job, hjob, rfl⟩, hruns⟩
  record := h.record
  approval := h.approval

theorem newCase (h : Mirrors attempt asked created memory db) {case : IntakeCase}
    (hfresh : Fresh case.id db) (event : CaseEvent) (record : IdempotencyRecord) :
    Mirrors attempt asked True (memory.setCase case.id case.record)
      (((db.addCase case).addCaseEvent event).setIdempotency record) where
  customers := h.customers
  customers_unique := h.customers_unique
  cases id := by
    have hlookup : (memory.setCase case.id case.record).cases.lookup id =
        if id = case.id then some case.record else memory.cases.lookup id :=
      Dict.lookup_set memory.cases case.id id case.record
    rw [hlookup, h.cases]
    show _ = (Table.lookup IntakeCase.id id (db.cases ++ [case])).map IntakeCase.record
    rw [Table.lookup_append_fresh hfresh.cases]
    split <;> rfl
  cases_unique := h.cases_unique.append hfresh.cases
  artifacts := h.artifacts
  jobs_unique := h.jobs_unique
  job := h.job
  record := .inl trivial
  approval := h.approval

theorem mergedFields (h : Mirrors attempt asked created memory db) {case : IntakeCase}
    (hcase : case ∈ db.cases) (fields : List (String × Json)) (event : CaseEvent) :
    Mirrors attempt asked created (memory.setCase case.id (mergedCase fields case).record)
      ((db.setCase (mergedCase fields case)).addCaseEvent event) where
  customers := h.customers
  customers_unique := h.customers_unique
  cases id := by
    have hlookup : (memory.setCase case.id (mergedCase fields case).record).cases.lookup id =
        if id = case.id then some (mergedCase fields case).record else memory.cases.lookup id :=
      Dict.lookup_set memory.cases case.id id _
    rw [hlookup, h.cases]
    show _ = (Table.lookup IntakeCase.id id
      (Table.replace IntakeCase.id (mergedCase fields case) db.cases)).map IntakeCase.record
    have hthere : ∃ old ∈ db.cases, old.id = (mergedCase fields case).id := ⟨case, hcase, rfl⟩
    rw [Table.lookup_replace h.cases_unique hthere]
    show _ = Option.map IntakeCase.record (if id = case.id then _ else _)
    split <;> rfl
  cases_unique := h.cases_unique.replace
  artifacts := h.artifacts
  jobs_unique := h.jobs_unique
  job := h.job
  record := h.record
  approval := h.approval

theorem newArtifact (h : Mirrors attempt asked created memory db) {artifact : JobArtifact}
    (hnone : Table.lookup JobArtifact.key artifact.key db.artifacts = none) :
    Mirrors attempt asked created
      { memory with
        artifacts := Dict.set memory.artifacts artifact.key (artifact.id, artifact.payload) }
      (db.addArtifact artifact) where
  customers := h.customers
  customers_unique := h.customers_unique
  cases := h.cases
  cases_unique := h.cases_unique
  artifacts key := by
    have hfresh : ∀ old ∈ db.artifacts, old.key ≠ artifact.key :=
      Table.lookup_eq_none_iff.1 hnone
    show (Dict.set memory.artifacts artifact.key (artifact.id, artifact.payload)).lookup key =
      (Table.lookup JobArtifact.key key (db.artifacts ++ [artifact])).map _
    rw [Dict.lookup_set, Table.lookup_append_fresh hfresh, h.artifacts]
    split <;> rfl
  jobs_unique := h.jobs_unique
  job := h.job
  record := h.record
  approval := h.approval

theorem requested (h : Mirrors attempt asked created memory db) (approval : Approval)
    (event : ApprovalEvent) (request : Uuid × PendingAction × PolicyReason) :
    Mirrors attempt True created
      { memory with approvalRequests := memory.approvalRequests ++ [request] }
      ((db.addApproval approval).addApprovalEvent event) where
  customers := h.customers
  customers_unique := h.customers_unique
  cases := h.cases
  cases_unique := h.cases_unique
  artifacts := h.artifacts
  jobs_unique := h.jobs_unique
  job := h.job
  record := h.record
  approval := .inl trivial

end Mirrors

/-! ## Fresh identifiers -/

namespace Fresh

variable {id : Uuid} {db : Db}

theorem addCase (h : Fresh id db) {case : IntakeCase} (hne : case.id ≠ id) :
    Fresh id (db.addCase case) where
  cases := List.forall_mem_append.2 ⟨h.cases, List.forall_mem_singleton.2 hne⟩
  artifacts := h.artifacts
  approvals := h.approvals

theorem setCase (h : Fresh id db) {case : IntakeCase} (hne : case.id ≠ id) :
    Fresh id (db.setCase case) where
  cases other hother := by
    rcases Table.mem_of_mem_replace hother with rfl | ⟨hold, -⟩
    · exact hne
    · exact h.cases other hold
  artifacts := h.artifacts
  approvals := h.approvals

theorem addArtifact (h : Fresh id db) {artifact : JobArtifact} (hne : artifact.id ≠ id) :
    Fresh id (db.addArtifact artifact) where
  cases := h.cases
  artifacts := List.forall_mem_append.2 ⟨h.artifacts, List.forall_mem_singleton.2 hne⟩
  approvals := h.approvals

theorem addApproval (h : Fresh id db) {approval : Approval} (hne : approval.id ≠ id) :
    Fresh id (db.addApproval approval) where
  cases := h.cases
  artifacts := h.artifacts
  approvals := List.forall_mem_append.2 ⟨h.approvals, List.forall_mem_singleton.2 hne⟩

/-- What no identifier is read of may be written. -/
theorem keep (h : Fresh id db) {next : Db} (hcases : next.cases = db.cases)
    (hartifacts : next.artifacts = db.artifacts) (happrovals : next.approvals = db.approvals) :
    Fresh id next where
  cases := hcases ▸ h.cases
  artifacts := hartifacts ▸ h.artifacts
  approvals := happrovals ▸ h.approvals

end Fresh

/-! ## The operations -/

section Operations

variable {attempt : Attempt} {asked created : Prop} {context : PortContext}

theorem Mirrors.weaken {asked' created' : Prop} {memory : InMemory} {db : Db}
    (h : Mirrors attempt asked created memory db) (hasked : asked → asked')
    (hcreated : created → created') : Mirrors attempt asked' created' memory db where
  customers := h.customers
  customers_unique := h.customers_unique
  cases := h.cases
  cases_unique := h.cases_unique
  artifacts := h.artifacts
  jobs_unique := h.jobs_unique
  job := h.job
  record := h.record.imp_left hcreated
  approval := h.approval.imp_left hasked

/-- What a port makes of a mutation that returned. -/
theorem mapError_perform_ok {β : Type} {mutation : PortMutation} {now : Timestamp} {db next : Db}
    {result : PortResult} {finish : PortResult → Query β}
    (h : mutation.perform attempt now db = (.ok result, next)) :
    Session.mapError portError (mutation.perform attempt now >>= finish) db =
      Session.mapError portError (finish result) next := by
  rw [Session.mapError, Session.bind_run, h]
  rfl

/-- An insert that finds no row in its way. -/
theorem perform_inserts {mutation : PortMutation} {now : Timestamp} {db : Db} {newId : Uuid}
    {kind : ArtifactKind} {payload : Json} {writes : PortWrites} {job : AgentJob}
    (h : mutation.opening attempt db = .inserts newId kind payload)
    (hinsert : insertArtifact attempt newId kind payload db = .writes writes)
    (hfenced : fencedJob attempt db = some job) :
    mutation.perform attempt now db =
      (.ok writes.result, (writes.apply db).setJob (markedRow now job)) := by
  rw [PortMutation.perform, Session.transaction, Session.read_bind_run, h]
  simp only [PortOpening.proceed, Session.read_bind_run, hinsert, PortOpening.settle,
    PortWrites.commit, hfenced]
  rfl

/-- What a port makes of a mutation that raised. -/
theorem mapError_perform_error {β : Type} {mutation : PortMutation} {now : Timestamp} {db : Db}
    {error : AppError} {finish : PortResult → Query β}
    (h : mutation.opening attempt db = .ends (.error error)) :
    Session.mapError portError (mutation.perform attempt now >>= finish) db =
      (.error (portError error), db) := by
  rw [Session.mapError, Session.bind_run, PortMutation.perform_raises h]

theorem findCustomer_answers (tenantId : Uuid) (email externalId : Option String) :
    PortAnswers attempt context.newId asked created asked created Eq
      ((InMemory.port context.newId context.now).findCustomer tenantId email externalId)
      ((postgresTenantToolPort context).findCustomer tenantId email externalId) :=
  fun _ _ h _ => ⟨h.findCustomer tenantId email externalId, h, fun _ _ hother => hother⟩

theorem caseExists_answers (tenantId caseId : Uuid) :
    PortAnswers attempt context.newId asked created asked created Eq
      ((InMemory.port context.newId context.now).caseExists tenantId caseId)
      ((postgresTenantToolPort context).caseExists tenantId caseId) := by
  intro memory db h _
  refine ⟨?_, h, fun _ _ hother => hother⟩
  show (memory.case? tenantId caseId).isSome = (db.case? caseId tenantId).isSome
  rw [h.case?, Option.isSome_map]

/-- The customer a new case names, if it names one, is the tenant's. -/
theorem Mirrors.customers_any {memory : InMemory} {db : Db}
    (h : Mirrors attempt asked created memory db) (tenantId : Uuid) (customerId : Option Uuid) :
    (customerId.any fun id =>
      ((memory.customers.lookup id).filter (·.tenantId = tenantId)).isNone) =
        customerId.any fun id => (db.customer? id tenantId).isNone := by
  cases customerId with
  | none => rfl
  | some id => exact h.customer id tenantId

theorem createCase_answers (hcontext : context.attempt attempt.tenantId = attempt)
    (source : TrustedSource) (customerId : Option Uuid) (fields : FieldValues) :
    PortAnswers attempt context.newId asked False asked True Eq
      ((InMemory.port context.newId context.now).createCase attempt.tenantId source customerId
        fields)
      ((postgresTenantToolPort context).createCase attempt.tenantId source customerId fields) := by
  intro memory db h hfresh
  obtain ⟨record, hrecord, hunlinked⟩ := h.record.resolve_left id
  obtain ⟨job, hfenced, hjob, hruns⟩ := h.fenced
  have hfound := h.customers_any attempt.tenantId customerId
  have hopening : (PortMutation.createCase context.newId source customerId
      (knownFieldsJson fields)).opening attempt db = openCreateCase attempt context.newId source
        customerId (knownFieldsJson fields) record db := by
    rw [PortMutation.opening, hrecord]
  rw [openCreateCase, hunlinked] at hopening
  simp only [InMemory.port, InMemory.createCase, postgresTenantToolPort, hcontext,
    Session.read_bind_run]
  by_cases hmissing : customerId.any fun id => (db.customer? id attempt.tenantId).isNone
  · rw [if_pos (hfound.trans hmissing)]
    rw [if_pos hmissing] at hopening
    rw [mapError_perform_error hopening]
    exact ⟨rfl, h.weaken id False.elim, fun _ _ hother => hother⟩
  · have hnew : ¬ db.cases.any fun case => case.id = context.newId := by
      rw [List.any_eq_true]
      rintro ⟨case, hcase, hid⟩
      exact hfresh.cases case hcase (of_decide_eq_true hid)
    rw [if_neg (hfound ▸ hmissing)]
    simp only [if_neg hmissing, if_neg hnew] at hopening
    rw [mapError_perform_ok (PortMutation.perform_commits hopening hfenced)]
    have hcase : (caseFromSource context.newId attempt.tenantId source customerId
        (knownFieldsJson fields)).id = context.newId := rfl
    refine ⟨?_, ?_, ?_⟩
    · show Eq _ _
      rw [← dictKeys_knownFieldsJson fields]
      rfl
    · exact (h.newCase (hcase ▸ hfresh) _ _).marked hjob hruns context.now
    · intro id hne hother
      exact (hother.addCase (hcase ▸ hne.symm)).keep rfl rfl rfl

theorem updateCaseFields_answers (hcontext : context.attempt attempt.tenantId = attempt)
    (caseId : Uuid) (fields : FieldValues) :
    PortAnswers attempt context.newId asked created asked created Eq
      ((InMemory.port context.newId context.now).updateCaseFields attempt.tenantId caseId fields)
      ((postgresTenantToolPort context).updateCaseFields attempt.tenantId caseId fields) := by
  intro memory db h hfresh
  obtain ⟨job, hfenced, hjob, hruns⟩ := h.fenced
  simp only [InMemory.port, InMemory.updateCaseFields, postgresTenantToolPort, hcontext,
    Session.read_bind_run, h.case?]
  cases hcase : db.case? caseId attempt.tenantId with
  | none =>
      have hopening : (PortMutation.updateCaseFields caseId (knownFieldsJson fields)).opening
          attempt db = .ends (.ok .absent) := by
        rw [PortMutation.opening, hcase]
      rw [mapError_perform_ok (PortMutation.perform_returns hopening)]
      exact ⟨rfl, h, fun _ _ hother => hother⟩
  | some case =>
      have hmem : case ∈ db.cases := List.mem_of_find?_eq_some hcase
      have hid : case.id = caseId := by
        have hfields := List.find?_some hcase
        exact (of_decide_eq_true hfields).1
      subst hid
      have hopening : (PortMutation.updateCaseFields case.id (knownFieldsJson fields)).opening
          attempt db = .writes (.caseFields case (knownFieldsJson fields)) := by
        rw [PortMutation.opening, hcase]
      rw [mapError_perform_ok (PortMutation.perform_commits hopening hfenced)]
      refine ⟨?_, (h.mergedFields hmem _ _).marked hjob hruns context.now, ?_⟩
      · show Eq _ _
        rw [← dictKeys_knownFieldsJson fields]
        rfl
      · intro id _ hother
        have hset : Fresh id (db.setCase (mergedCase (knownFieldsJson fields) case)) :=
          hother.setCase (hother.cases case hmem)
        exact hset.keep rfl rfl rfl

/-- The first request of a job stages a new approval. -/
theorem createForRunningJob_new {memory : InMemory} {db : Db}
    (h : Mirrors attempt False created memory db) (hfresh : Fresh context.newId db)
    (action : PendingAction) (policyReason : String) :
    ∃ job, ApprovalRepository.createForRunningJob context.newId attempt.tenantId attempt.jobId
      attempt.count action policyReason context.expiresIn context.now db =
        (.ok (context.newId, context.now + context.expiresIn),
          (db.addApproval (ApprovalRepository.stagedRow context.newId job attempt.tenantId action
            policyReason (context.now + context.expiresIn))).addApprovalEvent
              (ApprovalRepository.requestEvent attempt.tenantId context.newId .requested action.name
                policyReason)) := by
  obtain ⟨job, hjob, hid, htenant, hrunning, hcount⟩ := h.job
  have hnone := h.approval.resolve_left id
  have hfound : db.job? attempt.jobId attempt.tenantId = some job :=
    h.jobs_unique.find?_eq hjob (decide_eq_true ⟨hid, htenant⟩) fun other hother =>
      (of_decide_eq_true hother).1.trans hid.symm
  have hunasked : db.approvalOf? attempt.jobId attempt.tenantId = none := by
    refine List.find?_eq_none.2 fun approval happroval hboth => ?_
    exact hnone approval happroval (of_decide_eq_true hboth).1
  have hunique : ¬ db.approvals.any fun approval =>
      approval.id = context.newId ∨ approval.jobId = some job.id := by
    rw [List.any_eq_true]
    rintro ⟨approval, happroval, htaken⟩
    rcases of_decide_eq_true htaken with hsame | hsame
    · exact hfresh.approvals approval happroval hsame
    · exact hnone approval happroval (hid ▸ hsame)
  refine ⟨job, ?_⟩
  rw [ApprovalRepository.createForRunningJob, Session.transaction, Session.read_bind_run]
  simp only [hfound, hunasked, hrunning, hcount, and_self, not_true_eq_false, if_false,
    ApprovalRepository.stageNew, Session.read_bind_run, if_neg hunique]
  rfl

theorem requestApproval_answers (hcontext : context.attempt attempt.tenantId = attempt)
    (action : PendingAction) (policyReason : PolicyReason) :
    PortAnswers attempt context.newId False created True created
      (fun left right => left.id = right.id)
      ((InMemory.port context.newId context.now).requestApproval attempt.tenantId action
        policyReason)
      ((postgresTenantToolPort context).requestApproval attempt.tenantId action policyReason) := by
  intro memory db h hfresh
  have hjobId : context.jobId = attempt.jobId := congrArg Attempt.jobId hcontext
  have hcount : context.attemptCount = attempt.count := congrArg Attempt.count hcontext
  obtain ⟨job, hcreated⟩ := createForRunningJob_new h hfresh action policyReason.value
  have hport : (postgresTenantToolPort context).requestApproval attempt.tenantId action policyReason
      db = (.ok ⟨context.newId, context.now + context.expiresIn⟩,
        (db.addApproval (ApprovalRepository.stagedRow context.newId job attempt.tenantId action
          policyReason.value (context.now + context.expiresIn))).addApprovalEvent
            (ApprovalRepository.requestEvent attempt.tenantId context.newId .requested action.name
              policyReason.value)) := by
    simp only [postgresTenantToolPort, hjobId, hcount]
    rw [Session.mapError, Session.bind_run, hcreated]
    rfl
  rw [hport]
  refine ⟨rfl, h.requested _ _ (attempt.tenantId, action, policyReason), fun id hne hother => ?_⟩
  have hadded : Fresh id (db.addApproval (ApprovalRepository.stagedRow context.newId job
      attempt.tenantId action policyReason.value (context.now + context.expiresIn))) :=
    hother.addApproval hne.symm
  exact hadded.keep rfl rfl rfl

theorem createArtifact_answers (hcontext : context.attempt attempt.tenantId = attempt)
    (kind : ArtifactKind) (payload : Json) :
    PortAnswers attempt context.newId asked created asked created Eq
      (InMemory.createArtifact context.newId attempt.tenantId (some attempt.jobId) kind payload)
      (artifactCall context attempt.tenantId (some attempt.jobId)
        (.createArtifact context.newId kind payload)) := by
  intro memory db h hfresh
  have hjobId : context.jobId = attempt.jobId := congrArg Attempt.jobId hcontext
  have hown : ¬ (some attempt.jobId).any (· ≠ context.jobId) := by
    simp [hjobId]
  obtain ⟨job, hfenced, hjob, hruns⟩ := h.fenced
  have hsame := h.artifacts (attempt.tenantId, attempt.jobId, kind)
  simp only [InMemory.createArtifact, artifactCall, if_neg hown, hcontext, Session.read_bind_run,
    Option.getD_some]
  cases hfound : db.artifact? attempt.tenantId attempt.jobId kind with
  | some existing =>
      have hopening : (PortMutation.createArtifact context.newId kind payload).opening attempt db =
          .writes (.existingArtifact ⟨kind.resultKind, existing.id⟩) := by
        rw [PortMutation.opening, hfound]
      rw [Db.artifact?] at hfound
      rw [hfound] at hsame
      rw [mapError_perform_ok (PortMutation.perform_commits hopening hfenced)]
      simp only [hsame, Option.map_some]
      exact ⟨rfl, h.marked hjob hruns context.now, fun _ _ hother => hother.keep rfl rfl rfl⟩
  | none =>
      have hnew : ¬ db.artifacts.any fun artifact => artifact.id = context.newId := by
        rw [List.any_eq_true]
        rintro ⟨artifact, hartifact, hid⟩
        exact hfresh.artifacts artifact hartifact (of_decide_eq_true hid)
      have hopening : (PortMutation.createArtifact context.newId kind payload).opening attempt db =
          .inserts context.newId kind payload := by
        rw [PortMutation.opening, hfound]
      have hinsert : insertArtifact attempt context.newId kind payload db = .writes (.newArtifact
          ⟨context.newId, attempt.tenantId, attempt.jobId, kind, payload⟩) := by
        simp only [insertArtifact, hfound, if_neg hnew]
      rw [Db.artifact?] at hfound
      rw [hfound] at hsame
      rw [mapError_perform_ok (perform_inserts hopening hinsert hfenced)]
      simp only [hsame, Option.map_none]
      have hkey : JobArtifact.key ⟨context.newId, attempt.tenantId, attempt.jobId, kind, payload⟩ =
          (attempt.tenantId, attempt.jobId, kind) := rfl
      refine ⟨rfl, ?_, fun id hne hother => ?_⟩
      · exact (h.newArtifact (hkey ▸ hfound)).marked hjob hruns context.now
      · have hadded : Fresh id (db.addArtifact
            ⟨context.newId, attempt.tenantId, attempt.jobId, kind, payload⟩) :=
          hother.addArtifact hne.symm
        exact hadded.keep rfl rfl rfl

theorem createReplyDraft_answers (hcontext : context.attempt attempt.tenantId = attempt)
    (recipient : Option String) (subject body : String) :
    PortAnswers attempt context.newId asked created asked created Eq
      ((InMemory.port context.newId context.now).createReplyDraft attempt.tenantId
        (some attempt.jobId) recipient subject body)
      ((postgresTenantToolPort context).createReplyDraft attempt.tenantId (some attempt.jobId)
        recipient subject body) :=
  createArtifact_answers hcontext .replyDraft _

theorem flagForReview_answers (hcontext : context.attempt attempt.tenantId = attempt)
    (reason : String) :
    PortAnswers attempt context.newId asked created asked created Eq
      ((InMemory.port context.newId context.now).flagForReview attempt.tenantId
        (some attempt.jobId) reason)
      ((postgresTenantToolPort context).flagForReview attempt.tenantId (some attempt.jobId)
        reason) :=
  createArtifact_answers hcontext .reviewFlag _

/-- A second case of a job: the database answers with the first one and changes
nothing, and the double makes another. -/
theorem createCase_again (hcontext : context.attempt attempt.tenantId = attempt) {memory : InMemory}
    {db : Db} (h : Mirrors attempt asked created memory db) (source : TrustedSource)
    (fields : FieldValues) {record : IdempotencyRecord} {case : IntakeCase}
    (hrecord : db.idempotencyOf? attempt.jobId attempt.tenantId = some record)
    (hlinked : record.caseId = some case.id) (hcase : case ∈ db.cases)
    (htenant : case.tenantId = attempt.tenantId) :
    (postgresTenantToolPort context).createCase attempt.tenantId source none fields db =
        (.ok ⟨uuidString case.id, case.status, sortedSet (dictKeys case.extractedFields)⟩, db) ∧
      ((InMemory.port context.newId context.now).createCase attempt.tenantId source none fields
        memory).1 = .ok ⟨uuidString context.newId, "received", sortedSet (dictKeys fields)⟩ := by
  have hfound : db.case? case.id attempt.tenantId = some case :=
    h.cases_unique.find?_eq hcase (decide_eq_true ⟨rfl, htenant⟩) fun other hother =>
      (of_decide_eq_true hother).1
  have hopening : (PortMutation.createCase context.newId source none
      (knownFieldsJson fields)).opening attempt db = .ends (.ok (.createdCase case.id case.status
        (sortedSet (dictKeys case.extractedFields)))) := by
    rw [PortMutation.opening, hrecord]
    simp only [openCreateCase, hlinked, hfound]
  refine ⟨?_, rfl⟩
  simp only [postgresTenantToolPort, hcontext]
  rw [mapError_perform_ok (PortMutation.perform_returns hopening)]
  rfl

end Operations

end IntegraIntake
