import Mathlib.Data.Set.Finite.Basic
import IntegraIntake.Intake.Invariant

/-!
# Enqueue calls are idempotent

For each tenant and key one call creates the job and its record.  Every other
call with the key is answered from the record, by the job when it says the same
and by a conflict when it does not, unless it is turned away before: because
its tenant's profile does not take its attachment, or because its trace
identifier belongs to a job of another key.  A call that begins when the record
is there is never turned away.
-/

namespace IntegraIntake

open Library JobRepository

section Later

variable {services : IntakeServices} {slugOf : Uuid → String} {state next : EnqueueState}
  {label : EnqueueStep} {record : IdempotencyRecord} {process : ℕ}

/-! ## Calls that begin when the record is there -/

/-- Where such a call can stand. -/
def AnsweredFrom (services : IntakeServices) (record : IdempotencyRecord) (db : Db) :
    EnqueueProcess → Prop
  | .idle => True
  | .aborted => True
  | .active call _ stage => call.scope = some record.scope →
      stage = .probing ∨ ∃ source profile, stage = .looking source profile
  | .returned call outcome => call.scope = some record.scope →
      ∃ job ∈ db.jobs, Paired job record ∧ outcome = repeatAnswer services.sha256 call record job

/-- The locked lookup finds the record. -/
theorem EnqueueInvariant.lookup_answered (h : EnqueueInvariant services slugOf state)
    (hrecord : record ∈ state.db.idempotency) {call : EnqueueCall} {key : String}
    (hkey : call.key = some key) (hslug : call.tenantSlug = slugOf call.tenantId)
    {missing : EnqueueProcess}
    (hmissing : call.scope ≠ some record.scope →
      AnsweredFrom services record state.db missing) :
    AnsweredFrom services record state.db (afterLookup services state.db call key missing) := by
  rcases h.rows.afterLookup_cases hkey hslug missing with
    ⟨found, hfound, job, hjob, hpaired, hscope, heq⟩ | ⟨hnone, heq⟩
  · rw [heq]
    intro hsame
    have hrecords : found = record :=
      h.rows.scopes_unique.eq hfound hrecord (Option.some.inj (hscope.symm.trans hsame))
    exact ⟨job, hjob, hrecords ▸ hpaired, by rw [hrecords]⟩
  · rw [heq]
    refine hmissing fun hscope => ?_
    rw [EnqueueCall.scope, hkey, Option.map_some, Option.some.injEq] at hscope
    exact hnone record hrecord hscope.symm

theorem AnsweredFrom.of_scope_ne {db : Db} {value : EnqueueProcess} (call : EnqueueCall)
    (hcall : (∃ key stage, value = .active call key stage) ∨ ∃ outcome, value =
      .returned call outcome)
    (hne : call.scope ≠ some record.scope) : AnsweredFrom services record db value := by
  rcases hcall with ⟨key, stage, rfl⟩ | ⟨outcome, rfl⟩ <;> exact fun hscope => absurd hscope hne

/-- A call past its lookups has another key. -/
theorem AnsweredFrom.scope_ne {db : Db} {call : EnqueueCall} {key : String} {stage : EnqueueStage}
    (h : AnsweredFrom services record db (.active call key stage)) (hprobing : stage ≠ .probing)
    (hlooking : ∀ source profile, stage ≠ .looking source profile) :
    call.scope ≠ some record.scope := by
  intro hscope
  rcases h hscope with hstage | ⟨source, profile, hstage⟩
  · exact hprobing hstage
  · exact hlooking source profile hstage

theorem EnqueueTaken.extends (htaken : EnqueueTaken services state label next) :
    Extends state.db next.db := by
  rcases htaken.db_cases with ⟨hdb, -⟩ | ⟨call, key, new, -, hdb, -⟩
  · rw [hdb]
    exact ⟨fun _ hjob => hjob, fun _ hrecord => hrecord⟩
  · rw [hdb]
    exact ⟨fun _ hjob => List.mem_append_left _ hjob,
      fun _ hrecord => List.mem_append_left _ hrecord⟩

/-- The call that a step moves stays answered from the record. -/
theorem EnqueueInvariant.moved_answered (h : EnqueueInvariant services slugOf state)
    (htaken : EnqueueTaken services state label next) (hrecord : record ∈ state.db.idempotency)
    (hanswered : AnsweredFrom services record state.db (state.processes label.process)) :
    AnsweredFrom services record next.db (next.processes label.process) := by
  have hknown := h.processes label.process
  cases htaken with
  | @enqueue process command profile hprocess =>
      rw [EnqueueStep.process, EnqueueState.setProcess_self, beginEnqueue]
      split
      · rename_i hkey
        intro hscope
        rw [EnqueueCall.scope, hkey] at hscope
        cases hscope
      · exact fun _ => .inr ⟨_, _, rfl⟩
  | @enqueueDocument process command hprocess =>
      rw [EnqueueStep.process, EnqueueState.setProcess_self, beginEnqueueDocument]
      split
      · rename_i hkey
        intro hscope
        rw [EnqueueCall.scope, hkey] at hscope
        cases hscope
      · exact fun _ => .inl rfl
  | probe hprocess | lookup hprocess =>
      rw [EnqueueStep.process, hprocess] at hknown
      rw [EnqueueStep.process, EnqueueState.setProcess_self]
      exact h.lookup_answered hrecord hknown.1 hknown.2.1 fun hne =>
        .of_scope_ne _ (.inl ⟨_, _, rfl⟩) hne
  | recover hprocess =>
      rw [EnqueueStep.process, hprocess] at hknown
      rw [EnqueueStep.process, EnqueueState.setProcess_self]
      exact h.lookup_answered hrecord hknown.1 hknown.2.1 fun hne =>
        .of_scope_ne _ (.inr ⟨_, rfl⟩) hne
  | @resolve process command key profile hprocess =>
      rw [EnqueueStep.process, hprocess] at hanswered
      rw [EnqueueStep.process, EnqueueState.setProcess_self]
      refine .of_scope_ne (.enqueueDocument command) ?_ (hanswered.scope_ne (by simp) (by simp))
      unfold afterResolve
      split
      · exact .inr ⟨_, rfl⟩
      · split
        · exact .inl ⟨_, _, rfl⟩
        · exact .inr ⟨_, rfl⟩
  | normalize hprocess | traceTaken hprocess | insertJob hprocess | keyTaken hprocess
  | insertRecord hprocess =>
      rw [EnqueueStep.process, hprocess] at hanswered
      refine .of_scope_ne _ (.inl ⟨_, _, EnqueueState.setProcess_self _ _ _⟩)
        (hanswered.scope_ne (by simp) (by simp))
  | commit hprocess =>
      rw [EnqueueStep.process, hprocess] at hanswered
      exact .of_scope_ne _ (.inr ⟨_, EnqueueState.setProcess_self _ _ _⟩)
        (hanswered.scope_ne (by simp) (by simp))
  | abort =>
      rw [EnqueueStep.process, EnqueueState.release_processes, EnqueueState.setProcess_self]
      trivial

/-- A call that was idle when the record was committed is answered from it. -/
theorem answeredFrom_of_later {final : EnqueueState}
    (hreach : (enqueueMachine services).ReachableWith
      (fun state label => label.Resolvable services slugOf state) state)
    (hrecord : record ∈ state.db.idempotency) (hidle : state.processes process = .idle)
    (hlater : ((enqueueMachine services).startingAt state).ReachableWith
      (fun state label => label.Resolvable services slugOf state) final) :
    record ∈ final.db.idempotency ∧
      AnsweredFrom services record final.db (final.processes process) := by
  refine hlater.invariant (P := fun final => record ∈ final.db.idempotency ∧
    AnsweredFrom services record final.db (final.processes process)) ?_ ?_
  · rintro _ rfl
    rw [hidle]
    exact ⟨hrecord, trivial⟩
  · intro current label next hcurrent hP hresolvable hstep
    have hinvariant : EnqueueInvariant services slugOf current :=
      enqueueInvariant_of_reachable (hreach.later hcurrent)
    have htaken := enqueueTaken_of_step hstep
    refine ⟨htaken.extends.records _ hP.1, ?_⟩
    by_cases hmoved : process = label.process
    · rw [hmoved] at hP ⊢
      exact hinvariant.moved_answered htaken hP.1 hP.2
    · rw [htaken.frame hmoved]
      have hold := hP.2
      revert hold
      cases current.processes process with
      | idle | aborted | active => exact fun hold => hold
      | returned call outcome =>
          intro hold hscope
          obtain ⟨job, hjob, hanswer⟩ := hold hscope
          exact ⟨job, htaken.extends.jobs _ hjob, hanswer⟩

end Later

/-! ## Calls wait only for calls that can go on -/

/-- A bound on the steps that a call still makes. -/
def EnqueueProcess.remaining : EnqueueProcess → ℕ
  | .active _ _ .probing => 7
  | .active _ _ .resolving => 6
  | .active _ _ (.normalizing _) => 5
  | .active _ _ (.looking _ _) => 4
  | .active _ _ (.inserting _ _) => 3
  | .active _ _ (.jobInserted _) => 2
  | .active _ _ (.recordInserted _) => 1
  | .active _ _ .recovering => 1
  | _ => 0

/-- Some call goes on by a statement of its own. -/
def Advances (services : IntakeServices) (state : EnqueueState) : Prop :=
  ∃ label next, (enqueueMachine services).step state label = some next ∧
    (∀ process, label ≠ .abort process) ∧
    (next.processes label.process).remaining < (state.processes label.process).remaining

section Progress

variable {services : IntakeServices} {slugOf : Uuid → String} {state next : EnqueueState}
  {label : EnqueueStep} {process : ℕ} {call : EnqueueCall} {key : String}

theorem afterLookup_remaining {db : Db} {missing : EnqueueProcess} :
    (afterLookup services db call key missing).remaining ≤ missing.remaining := by
  unfold afterLookup
  split
  · exact Nat.zero_le _
  · exact le_rfl

theorem advances_of_recordInserted {new : NewJob}
    (hprocess : state.processes process = .active call key (.recordInserted new)) :
    Advances services state := by
  refine ⟨.commit process, ((state.commit new).setProcess process
    (.returned call (.ok ⟨new.id, true, call.traceId⟩))).release process, ?_, fun _ => by simp, ?_⟩
  · simp only [enqueueMachine, enqueueStep, hprocess]
  · simp [EnqueueStep.process, hprocess, EnqueueProcess.remaining]

/-- Whoever has a key pending is past the insert of its job. -/
theorem Held.holder (h : Held state) {unique : UniqueKey}
    (hpending : state.pending unique = some process) :
    ∃ call key new, (state.processes process = .active call key (.jobInserted new) ∧
        unique ∈ [UniqueKey.jobId new.id, .traceId new.traceId]) ∨
      state.processes process = .active call key (.recordInserted new) := by
  have hheld := (h unique process).1 hpending
  revert hheld
  cases state.processes process with
  | idle | aborted | returned => exact fun hheld => absurd hheld List.not_mem_nil
  | active call key stage =>
      cases stage with
      | jobInserted new => exact fun hheld => ⟨call, key, new, .inl ⟨rfl, hheld⟩⟩
      | recordInserted new => exact fun _ => ⟨call, key, new, .inr rfl⟩
      | _ => exact fun hheld => absurd hheld List.not_mem_nil

theorem Held.advances_of_jobInserted (h : Held state) {new : NewJob}
    (hprocess : state.processes process = .active call key (.jobInserted new)) :
    Advances services state := by
  cases hpending : state.pending (.recordScope new.record.scope) with
  | some holder =>
      obtain ⟨_, _, _, ⟨-, hmem⟩ | hholder⟩ := h.holder hpending
      · simp at hmem
      · exact advances_of_recordInserted hholder
  | none =>
      have hstep : ∃ next, insertRecordStep state process call key new = some next ∧
          (next.processes process).remaining < 2 := by
        unfold insertRecordStep
        rw [if_pos (by simp [EnqueueState.free, hpending])]
        split <;> exact ⟨_, rfl, by simp [EnqueueProcess.remaining]⟩
      obtain ⟨next, hnext, hremaining⟩ := hstep
      refine ⟨.insertRecord process, next, ?_, fun _ => by simp, ?_⟩
      · simpa only [enqueueMachine, enqueueStep, hprocess] using hnext
      · simpa only [EnqueueStep.process, hprocess, EnqueueProcess.remaining] using hremaining

/-- An insert waits for a call that has inserted a job with its trace identifier. -/
theorem Held.advances_of_inserting (h : Held state) {source : TrustedSource}
    {profile : ResolvedTenantProfile}
    (hprocess : state.processes process = .active call key (.inserting source profile))
    {newId : Uuid} (hfree : state.pending (.jobId newId) = none)
    (hfresh : ∀ job ∈ state.db.jobs, job.id ≠ newId) : Advances services state := by
  cases hpending : state.pending (.traceId call.traceId) with
  | some holder =>
      obtain ⟨_, _, _, ⟨hholder, -⟩ | hholder⟩ := h.holder hpending
      · exact h.advances_of_jobInserted hholder
      · exact advances_of_recordInserted hholder
  | none =>
      have hnew : ¬ (state.db.jobs.any fun job =>
          job.id = (call.newJob services key source profile newId 0).id) = true := by
        intro hany
        obtain ⟨job, hjob, hsame⟩ := List.any_eq_true.1 hany
        exact hfresh job hjob (of_decide_eq_true hsame)
      have hstep : ∃ next, insertJobStep state process call key
          (call.newJob services key source profile newId 0) = some next ∧
          (next.processes process).remaining < 3 := by
        unfold insertJobStep
        rw [if_pos (by simp [EnqueueState.free, EnqueueCall.newJob, hfree, hpending]),
          if_neg hnew]
        split <;> exact ⟨_, rfl, by simp [EnqueueProcess.remaining]⟩
      obtain ⟨next, hnext, hremaining⟩ := hstep
      refine ⟨.insertJob process newId 0, next, ?_, fun _ => by simp, ?_⟩
      · simpa only [enqueueMachine, enqueueStep, hprocess] using hnext
      · simpa only [EnqueueStep.process, hprocess, EnqueueProcess.remaining] using hremaining

/-- A step that only moves a call. -/
theorem advances_of_setProcess (label : EnqueueStep) (value : EnqueueProcess)
    (hstep : enqueueStep services state label = some (state.setProcess label.process value))
    (hlabel : ∀ process, label ≠ .abort process)
    (hremaining : value.remaining < (state.processes label.process).remaining) :
    Advances services state :=
  ⟨label, _, hstep, hlabel, by rwa [EnqueueState.setProcess_self]⟩

/-- The keys that are pending after a step. -/
theorem EnqueueTaken.pending_cases (htaken : EnqueueTaken services state label next) :
    ∃ keys : List UniqueKey, ∀ unique, next.pending unique ≠ none →
      unique ∈ keys ∨ state.pending unique ≠ none := by
  have hrelease : ∀ (state : EnqueueState) (process : ℕ) (unique : UniqueKey),
      (state.release process).pending unique ≠ none → state.pending unique ≠ none := by
    intro state process unique hpending hnone
    simp [EnqueueState.release, hnone] at hpending
  have hhold : ∀ (state : EnqueueState) (process : ℕ) (keys : List UniqueKey) (unique : UniqueKey),
      (state.hold process keys).pending unique ≠ none →
        unique ∈ keys ∨ state.pending unique ≠ none := by
    intro state process keys unique hpending
    by_cases hkey : unique ∈ keys
    · exact .inl hkey
    · simp only [EnqueueState.hold, if_neg hkey] at hpending
      exact .inr hpending
  cases htaken with
  | insertJob | insertRecord => exact ⟨_, hhold _ _ _⟩
  | keyTaken | commit | abort => exact ⟨[], fun unique hpending => .inr (hrelease _ _ _ hpending)⟩
  | _ => exact ⟨[], fun _ hpending => .inr hpending⟩

theorem pending_finite (hreach : (enqueueMachine services).Reachable state) :
    {unique | state.pending unique ≠ none}.Finite := by
  refine hreach.invariant (P := fun state => {unique | state.pending unique ≠ none}.Finite) ?_ ?_
  · rintro start ⟨-, -, -, hpending⟩
    simp [hpending]
  · intro current label next _ hfinite hstep
    obtain ⟨keys, hkeys⟩ := (enqueueTaken_of_step hstep).pending_cases
    exact (keys.finite_toSet.union hfinite).subset hkeys

/-- There is always an identifier that no row has. -/
theorem exists_fresh_id (hreach : (enqueueMachine services).Reachable state) :
    ∃ newId, state.pending (.jobId newId) = none ∧ ∀ job ∈ state.db.jobs, job.id ≠ newId := by
  have hpending : {newId | state.pending (.jobId newId) ≠ none}.Finite :=
    (pending_finite hreach).preimage fun _ _ _ _ h => UniqueKey.jobId.inj h
  obtain ⟨newId, hnew⟩ :=
    (hpending.union (state.db.jobs.map AgentJob.id).finite_toSet).exists_notMem
  simp only [Set.mem_union, Set.mem_ofPred_eq, not_or, not_not, List.mem_map, not_exists,
    not_and] at hnew
  exact ⟨newId, hnew.1, fun job hjob => hnew.2 job hjob⟩

/-- As long as a call has not returned, some call can go on. -/
theorem EnqueueInvariant.advances (h : EnqueueInvariant services slugOf state)
    (hreach : (enqueueMachine services).Reachable state) {stage : EnqueueStage}
    (hprocess : state.processes process = .active call key stage) : Advances services state := by
  have hknown := h.processes process
  rw [hprocess] at hknown
  obtain ⟨-, -, hstage⟩ := hknown
  cases stage with
  | probing =>
      refine advances_of_setProcess (.probe process)
        (afterLookup services state.db call key (.active call key .resolving)) ?_ (by simp) ?_
      · simp only [enqueueStep, hprocess, EnqueueStep.process]
      · simp only [EnqueueStep.process, hprocess]
        exact lt_of_le_of_lt afterLookup_remaining (by simp [EnqueueProcess.remaining])
  | resolving =>
      obtain ⟨command, rfl⟩ := hstage
      refine advances_of_setProcess (.resolve process ⟨[], "", none⟩)
        (afterResolve command key ⟨[], "", none⟩) ?_ (by simp) ?_
      · simp only [enqueueStep, hprocess, EnqueueStep.process]
      · simp [EnqueueStep.process, hprocess, afterResolve, EnqueueProcess.remaining]
  | normalizing profile =>
      obtain ⟨⟨command, rfl⟩, -⟩ := hstage
      refine advances_of_setProcess (.normalize process default)
        (.active (.enqueueDocument command) key (.looking (command.source default) profile))
        ?_ (by simp) ?_
      · simp only [enqueueStep, hprocess, EnqueueStep.process]
      · simp [EnqueueStep.process, hprocess, EnqueueProcess.remaining]
  | looking source profile =>
      refine advances_of_setProcess (.lookup process)
        (afterLookup services state.db call key (.active call key (.inserting source profile)))
        ?_ (by simp) ?_
      · simp only [enqueueStep, hprocess, EnqueueStep.process]
      · simp only [EnqueueStep.process, hprocess]
        exact lt_of_le_of_lt afterLookup_remaining (by simp [EnqueueProcess.remaining])
  | inserting source profile =>
      obtain ⟨newId, hfree, hfresh⟩ := exists_fresh_id hreach
      exact h.held.advances_of_inserting hprocess hfree hfresh
  | jobInserted new => exact h.held.advances_of_jobInserted hprocess
  | recordInserted new => exact advances_of_recordInserted hprocess
  | recovering =>
      refine advances_of_setProcess (.recover process)
        (afterLookup services state.db call key (.returned call (.error .integrityError)))
        ?_ (by simp) ?_
      · simp only [enqueueStep, hprocess, EnqueueStep.process]
      · simp only [EnqueueStep.process, hprocess]
        exact lt_of_le_of_lt afterLookup_remaining (by simp [EnqueueProcess.remaining])

end Progress

/-! ## The contract -/

/-- What holds in every state of every run. -/
structure EnqueueContract (services : IntakeServices) (slugOf : Uuid → String)
    (state : EnqueueState) : Prop where
  one_record : Table.Unique IdempotencyRecord.scope state.db.idempotency
  job_of_record : ∀ record ∈ state.db.idempotency,
    ∃! job, job ∈ state.db.jobs ∧ Paired job record
  record_of_job : ∀ job ∈ state.db.jobs,
    ∃! record, record ∈ state.db.idempotency ∧ Paired job record
  /-- One call has created the job.  Every other call with the key is answered
  from the record or turned away. -/
  answers : ∀ record ∈ state.db.idempotency, ∃ job ∈ state.db.jobs, Paired job record ∧
    ∃ creator first, state.processes creator =
        .returned first (.ok ⟨job.id, true, first.traceId⟩) ∧
      first.scope = some record.scope ∧ job.traceId = first.traceId ∧
      ∀ process call outcome, process ≠ creator →
        state.processes process = .returned call outcome → call.scope = some record.scope →
        (outcome =
          if call.canonicalPayload services.sha256 = first.canonicalPayload services.sha256 then
            .ok ⟨job.id, false, first.traceId⟩
          else .error (.idempotencyConflict "idempotency key conflicts with request")) ∨
        Refused state.db call outcome
  /-- Without a record, a call has been turned away. -/
  unrecorded : ∀ process call outcome, state.processes process = .returned call outcome →
    (∀ record ∈ state.db.idempotency, call.scope ≠ some record.scope) →
    (call.scope = none ∧ outcome = .error (.valueError "invalid idempotency key")) ∨
      Refused state.db call outcome
  /-- A call that begins when the record is there is not turned away. -/
  later : ∀ record ∈ state.db.idempotency, ∀ process, state.processes process = .idle →
    ∀ final, ((enqueueMachine services).startingAt state).ReachableWith
      (fun state label => label.Resolvable services slugOf state) final →
    ∀ call outcome, final.processes process = .returned call outcome →
      call.scope = some record.scope → ¬ Refused final.db call outcome
  /-- Only a creating call changes a row, by its two inserts. -/
  changes : ∀ label next, (enqueueMachine services).step state label = some next →
    next.db = state.db ∨
      ∃ call new, next.processes label.process =
          .returned call (.ok ⟨new.id, true, call.traceId⟩) ∧
        insertJob new state.db = (.ok (), next.db)
  /-- As long as a call has not returned, some call can go on. -/
  progress : ∀ process call key stage, state.processes process = .active call key stage →
    Advances services state

section Contract

variable {services : IntakeServices} {slugOf : Uuid → String} {state next : EnqueueState}
  {label : EnqueueStep}

/-- An answer from the record is none of the refusals. -/
theorem not_refused_repeatAnswer {db : Db} {call : EnqueueCall} {record : IdempotencyRecord}
    {job : AgentJob} : ¬ Refused db call (repeatAnswer services.sha256 call record job) := by
  unfold repeatAnswer Refused
  split <;> simp

/-- The two inserts of a committing call violate no constraint. -/
theorem EnqueueInvariant.commit_eq_insertJob (h : EnqueueInvariant services slugOf state)
    {process : ℕ} {call : EnqueueCall} {key : String} {new : NewJob}
    (hprocess : state.processes process = .active call key (.recordInserted new)) :
    insertJob new state.db = (.ok (), (state.commit new).db) := by
  have hknown := h.processes process
  rw [hprocess] at hknown
  obtain ⟨-, -, -, hjobs, hrecords⟩ := hknown
  have hviolates : new.violates state.db = false := by
    rw [NewJob.violates, Bool.or_eq_false_iff, List.any_eq_false, List.any_eq_false]
    constructor
    · intro job hjob
      simpa using hjobs job hjob
    · intro record hrecord
      simp only [decide_eq_true_eq, not_and, not_or]
      intro htenant
      constructor
      · exact fun hkey => hrecords record hrecord (Prod.ext htenant hkey)
      · intro hjobId
        obtain ⟨job, hjob, hpaired⟩ := h.rows.job_of_record record hrecord
        exact (hjobs job hjob).1 (Option.some.inj (hpaired.2.symm.trans hjobId))
  rcases insertJob_cases new state.db with hraise | ⟨-, heq⟩
  · rw [insertJob, Session.read_bind_run, hviolates] at hraise
    cases hraise
  · exact heq

/-- The call that was answered with `created` for a record's job. -/
theorem EnqueueInvariant.creator (h : EnqueueInvariant services slugOf state)
    {record : IdempotencyRecord} {job : AgentJob} (hrecord : record ∈ state.db.idempotency)
    (hjob : job ∈ state.db.jobs) (hpaired : Paired job record) :
    ∃ creator first, state.processes creator =
        .returned first (.ok ⟨job.id, true, first.traceId⟩) ∧
      first.scope = some record.scope ∧ job.traceId = first.traceId ∧
      record.requestHash = first.requestHash services.sha256 := by
  obtain ⟨creator, first, traceId, hcreator⟩ := h.creators job hjob
  have hsettled := h.processes creator
  rw [hcreator] at hsettled
  generalize houtcome : Except.ok (EnqueueResult.mk job.id true traceId) = outcome at hsettled
  cases hsettled with
  | invalidKey => cases houtcome
  | @created found own hfound hown hpaired' hscope hhash htrace =>
      simp only [Except.ok.injEq, EnqueueResult.mk.injEq, true_and] at houtcome
      have hsame : own = job := h.rows.jobs_unique.eq hown hjob houtcome.1.symm
      subst hsame
      have hrecords : found = record :=
        h.rows.record_jobs_unique.eq hfound hrecord (hpaired'.2.trans hpaired.2.symm)
      subst hrecords
      exact ⟨creator, first, by rw [hcreator, houtcome.2], hscope, htrace, hhash⟩
  | repeated =>
      unfold repeatAnswer at houtcome
      split at houtcome <;> simp at houtcome
  | refused hrefused =>
      subst houtcome
      simp [Refused] at hrefused

/-- A call with the key of a record that is not its creator. -/
theorem EnqueueInvariant.answer (h : EnqueueInvariant services slugOf state)
    {record : IdempotencyRecord} {job : AgentJob} (hrecord : record ∈ state.db.idempotency)
    (hjob : job ∈ state.db.jobs) (hpaired : Paired job record) {process creator : ℕ}
    {call first : EnqueueCall} {outcome : Except AppError EnqueueResult} {traceId : Uuid}
    (hne : process ≠ creator)
    (hcreator : state.processes creator = .returned first (.ok ⟨job.id, true, traceId⟩))
    (hprocess : state.processes process = .returned call outcome)
    (hscope : call.scope = some record.scope) :
    outcome = repeatAnswer services.sha256 call record job ∨ Refused state.db call outcome := by
  have hsettled := h.processes process
  rw [hprocess] at hsettled
  cases hsettled with
  | invalidKey hkey =>
      rw [EnqueueCall.scope, hkey] at hscope
      cases hscope
  | @created found own hfound hown hpaired' hscope' =>
      have hrecords : found = record :=
        h.rows.scopes_unique.eq hfound hrecord (Option.some.inj (hscope'.symm.trans hscope))
      subst hrecords
      have hjobs : own = job := h.rows.job_eq hown hjob hpaired' hpaired
      subst hjobs
      exact absurd (h.created_once _ _ _ _ _ _ _ hprocess hcreator) hne
  | @repeated found own hfound hown hpaired' hscope' =>
      have hrecords : found = record :=
        h.rows.scopes_unique.eq hfound hrecord (Option.some.inj (hscope'.symm.trans hscope))
      subst hrecords
      rw [h.rows.job_eq hown hjob hpaired' hpaired]
      exact .inl rfl
  | refused hrefused => exact .inr hrefused

end Contract

theorem enqueue_contract (services : IntakeServices) (slugOf : Uuid → String)
    (hsha256 : Function.Injective services.sha256) :
    (∀ state, (enqueueMachine services).ReachableWith
        (fun state label => label.Resolvable services slugOf state) state →
      EnqueueContract services slugOf state) ∧
    (∀ left right : EnqueueCall,
      left.canonicalPayload services.sha256 = right.canonicalPayload services.sha256 ↔
        left.content = right.content) ∧
    ∀ left right : EnqueueCall, left.content.attachment = .none →
      right.content.attachment ≠ .none →
      left.canonicalPayload services.sha256 ≠ right.canonicalPayload services.sha256 := by
  refine ⟨fun state hreach => ?_, EnqueueCall.canonicalPayload_eq_iff hsha256, ?_⟩
  · have h := enqueueInvariant_of_reachable hreach
    constructor
    · exact h.rows.scopes_unique
    · intro record hrecord
      obtain ⟨job, hjob, hpaired⟩ := h.rows.job_of_record record hrecord
      exact ⟨job, ⟨hjob, hpaired⟩, fun other hother =>
        h.rows.job_eq hother.1 hjob hother.2 hpaired⟩
    · intro job hjob
      obtain ⟨record, hrecord, hpaired⟩ := h.rows.record_of_job job hjob
      exact ⟨record, ⟨hrecord, hpaired⟩, fun other hother =>
        h.rows.record_jobs_unique.eq hother.1 hrecord (hother.2.2.trans hpaired.2.symm)⟩
    · intro record hrecord
      obtain ⟨job, hjob, hpaired⟩ := h.rows.job_of_record record hrecord
      obtain ⟨creator, first, hcreator, hscope, htrace, hhash⟩ := h.creator hrecord hjob hpaired
      refine ⟨job, hjob, hpaired, creator, first, hcreator, hscope, htrace, ?_⟩
      intro process call outcome hne hprocess hsame
      rcases h.answer hrecord hjob hpaired hne hcreator hprocess hsame with hanswer | hrefused
      · refine .inl ?_
        rw [hanswer, repeatAnswer, hhash, htrace]
        simp only [EnqueueCall.requestHash_eq_iff hsha256, eq_comm]
      · exact .inr hrefused
    · intro process call outcome hprocess hnone
      have hsettled := h.processes process
      rw [hprocess] at hsettled
      cases hsettled with
      | invalidKey hkey => exact .inl ⟨by rw [EnqueueCall.scope, hkey]; rfl, rfl⟩
      | created hrecord _ _ hscope => exact absurd hscope (hnone _ hrecord)
      | repeated hrecord _ _ hscope => exact absurd hscope (hnone _ hrecord)
      | refused hrefused => exact .inr hrefused
    · intro record hrecord process hidle final hlater call outcome hprocess hscope
      have hanswered := (answeredFrom_of_later hreach hrecord hidle hlater).2
      rw [hprocess] at hanswered
      obtain ⟨job, -, -, rfl⟩ := hanswered hscope
      exact not_refused_repeatAnswer
    · intro label next hstep
      have htaken := enqueueTaken_of_step hstep
      rcases htaken.db_cases with ⟨hdb, -⟩ | ⟨call, key, new, hprocess, hdb, hreturned⟩
      · exact .inl hdb
      · refine .inr ⟨call, new, hreturned, ?_⟩
        rw [h.commit_eq_insertJob hprocess, hdb]
    · exact fun process call key stage hprocess => h.advances hreach.reachable hprocess
  · intro left right hleft hright hsame
    rw [EnqueueCall.canonicalPayload_eq_iff hsha256] at hsame
    exact hright (hsame ▸ hleft)

/-! ### A run with a repeated and a conflicting call -/

/-- A text that no digest is. -/
def latin1 (bytes : ByteArray) : String :=
  String.ofList ('x' :: bytes.data.toList.map fun byte => Char.ofNat byte.toNat)

/-- SHA-256 on the bytes that are hashed in the runs below. -/
def exampleSha256 (bytes : ByteArray) : String :=
  if bytes.data.toList =
      "\x7b\"body\":\"Two beds\",\"channel\":\"email\",\"subject\":\"Booking\"\x7d".toUTF8.data.toList then
    "987755fb1f23af3fce7ce044f86e3ceb5295b08c1d4725e4bae97dca278545ab"
  else if bytes.data.toList =
      "\x7b\"body\":\"One bed\",\"channel\":\"email\",\"subject\":\"Booking\"\x7d".toUTF8.data.toList then
    "1825a38b9e0cbb9253115c8e920ee54b6b568553b8495dd503c1e0f54df75f48"
  else latin1 bytes

theorem ofList_data_injective {left right : ByteArray} (h : left.data.toList = right.data.toList) :
    left = right :=
  ByteArray.ext (Array.toList_inj.1 h)

theorem latin1_injective : Function.Injective latin1 := by
  have htoNat : ∀ byte : UInt8, (Char.ofNat byte.toNat).toNat = byte.toNat := by
    intro byte
    have hvalid : byte.toNat.isValidChar := .inl (by have := byte.toNat_lt; omega)
    have hchar : Char.ofNat byte.toNat = Char.ofNatAux byte.toNat hvalid := dif_pos hvalid
    rw [hchar]
    rfl
  have hchar : Function.Injective fun byte : UInt8 => Char.ofNat byte.toNat := by
    intro left right h
    have hnat := congrArg Char.toNat h
    rw [htoNat, htoNat] at hnat
    exact UInt8.toNat_inj.1 hnat
  intro left right h
  have hlist := congrArg String.toList h
  simp only [latin1, String.toList_ofList, List.cons.injEq, true_and] at hlist
  exact ofList_data_injective (hchar.list_map hlist)

theorem latin1_ne {bytes : ByteArray} {digest : String} (h : digest.toList.head? ≠ some 'x') :
    latin1 bytes ≠ digest := by
  rintro rfl
  simp [latin1] at h

theorem exampleSha256_injective : Function.Injective exampleSha256 := by
  intro left right h
  unfold exampleSha256 at h
  split_ifs at h with hleft hright hright' hleft' hright hright' hright hright'
  · exact ofList_data_injective (hleft.trans hright.symm)
  · exact absurd h (by decide)
  · exact absurd h.symm (latin1_ne (by decide))
  · exact absurd h (by decide)
  · exact ofList_data_injective (hleft'.trans hright'.symm)
  · exact absurd h.symm (latin1_ne (by decide))
  · exact absurd h (latin1_ne (by decide))
  · exact absurd h (latin1_ne (by decide))
  · exact latin1_injective h

/-- The snapshot of a small profile and its hash. -/
def exampleProfile : ResolvedTenantProfile where
  snapshot := [("profile_version", .int 2), ("slug", .str "north"), ("scenario_key", .str "intake"),
    ("display_name", .str "North"),
    ("intake_types", .arr [.obj [("name", .str "request"), ("description", .str "A request"),
      ("required_fields", .arr [])]]),
    ("fields", .obj [("note", .obj [("type", .str "short_text"), ("label", .str "Note"),
      ("options", .null)])]),
    ("action_policy", .obj [("send_reply", .obj [("allowed", .bool true),
      ("requires_approval", .bool true), ("execution", .str "policy_only")])]),
    ("documents", .obj []),
    ("routing", .obj [("outcome_names", .arr [.str "urgent", .str "awaiting_input",
      .str "pending_approval", .str "ready", .str "rejected"]),
      ("always_approval_actions", .arr [.str "send_reply"])])]
  sha256 := "a295921969420f5079b19494c8b673abdc47cdbbc448e76f45b63ff434d422f8"
  compiled := none

def exampleIntakeServices : IntakeServices where
  sha256 := exampleSha256
  resolvePersisted _ sha256 slug := sha256 = exampleProfile.sha256 ∧ slug = "north"

/-- A text request of tenant 1. -/
def exampleCommand (key body : String) (traceId : Uuid) : EnqueueIntakeCommand :=
  ⟨1, "north", ⟨"email", "Booking", body, none, none⟩, key, traceId, ⟨false⟩⟩

def idleIntake : EnqueueState :=
  ⟨⟨[], [], [], [], [], [], [], []⟩, fun _ => .idle, fun _ => none⟩

theorem idleIntake_initial (services : IntakeServices) :
    (enqueueMachine services).initial idleIntake :=
  ⟨rfl, rfl, fun _ => rfl, fun _ => rfl⟩

/-- One call creates the job 100, one repeats it, one says something else. -/
def repeatedSteps : List EnqueueStep :=
  [.enqueue 0 (exampleCommand " order-1 " "Two beds" 7) exampleProfile, .lookup 0,
  .insertJob 0 100 0,
    .insertRecord 0, .commit 0,
    .enqueue 1 (exampleCommand "order-1" "Two beds" 8) exampleProfile, .lookup 1,
    .enqueue 2 (exampleCommand "order-1" "One bed" 9) exampleProfile, .lookup 2]

theorem repeatedSteps_resolvable : ∀ label ∈ repeatedSteps, ∀ state,
    label.Resolvable exampleIntakeServices (fun _ => "north") state := by
  intro label hlabel state
  simp only [repeatedSteps, List.mem_cons, List.not_mem_nil, or_false] at hlabel
  rcases hlabel with rfl | rfl | rfl | rfl | rfl | rfl | rfl | rfl | rfl <;> trivial

def repeatedState : EnqueueState :=
  ((enqueueMachine exampleIntakeServices).run idleIntake repeatedSteps).getD idleIntake

set_option maxRecDepth 10000 in
theorem repeatedState_conflict :
    repeatedState.processes 2 = .returned (.enqueue (exampleCommand "order-1" "One bed" 9))
      (.error (.idempotencyConflict "idempotency key conflicts with request")) := (rfl)

set_option maxRecDepth 10000 in
theorem repeatedState_reused :
    repeatedState.processes 1 = .returned (.enqueue (exampleCommand "order-1" "Two beds" 8))
      (.ok ⟨100, false, 7⟩) := (rfl)

theorem enqueue_contract_repeated :
    Function.Injective exampleIntakeServices.sha256 ∧
      (enqueueMachine exampleIntakeServices).run idleIntake repeatedSteps = some repeatedState ∧
      EnqueueContract exampleIntakeServices (fun _ => "north") repeatedState ∧
      repeatedState.processes 1 = .returned (.enqueue (exampleCommand "order-1" "Two beds" 8))
        (.ok ⟨100, false, 7⟩) ∧
      repeatedState.processes 2 =
        .returned (.enqueue (exampleCommand "order-1" "One bed" 9))
          (.error (.idempotencyConflict "idempotency key conflicts with request")) := by
  have hrun : (enqueueMachine exampleIntakeServices).run idleIntake repeatedSteps =
      some repeatedState := rfl
  have hstart : (enqueueMachine exampleIntakeServices).ReachableWith
      (fun state label => label.Resolvable exampleIntakeServices (fun _ => "north") state)
      idleIntake := .initial (idleIntake_initial exampleIntakeServices)
  exact ⟨exampleSha256_injective, hrun,
    (enqueue_contract exampleIntakeServices (fun _ => "north") exampleSha256_injective).1 _
      (hstart.run repeatedSteps repeatedSteps_resolvable hrun),
    repeatedState_reused, repeatedState_conflict⟩

/-! ### A trace identifier used under two keys -/

/-- The second call reuses the trace identifier of the first under a fresh key
and fails; the third sends the same request under that key and creates its job. -/
def reusedTraceSteps : List EnqueueStep :=
  [.enqueue 0 (exampleCommand "order-1" "Two beds" 7) exampleProfile, .lookup 0, .insertJob 0 100 0,
    .insertRecord 0, .commit 0,
    .enqueue 1 (exampleCommand "order-2" "Two beds" 7) exampleProfile, .lookup 1,
    .insertJob 1 101 0,
    .recover 1,
    .enqueue 2 (exampleCommand "order-2" "Two beds" 8) exampleProfile, .lookup 2,
    .insertJob 2 102 0,
    .insertRecord 2, .commit 2]

def reusedTraceState : EnqueueState :=
  ((enqueueMachine exampleIntakeServices).run idleIntake reusedTraceSteps).getD idleIntake

theorem reusedTraceSteps_resolvable : ∀ label ∈ reusedTraceSteps, ∀ state,
    label.Resolvable exampleIntakeServices (fun _ => "north") state := by
  intro label hlabel state
  simp only [reusedTraceSteps, List.mem_cons, List.not_mem_nil, or_false] at hlabel
  rcases hlabel with rfl | rfl | rfl | rfl | rfl | rfl | rfl | rfl | rfl | rfl | rfl | rfl | rfl |
    rfl <;> trivial

theorem reused_trace_fails :
    Function.Injective exampleIntakeServices.sha256 ∧
      (enqueueMachine exampleIntakeServices).ReachableWith
        (fun state label => label.Resolvable exampleIntakeServices (fun _ => "north") state)
        reusedTraceState ∧
      (EnqueueCall.enqueue (exampleCommand "order-2" "Two beds" 7)).scope = some (1, "order-2") ∧
      (EnqueueCall.enqueue (exampleCommand "order-2" "Two beds" 8)).scope = some (1, "order-2") ∧
      (EnqueueCall.enqueue (exampleCommand "order-2" "Two beds" 7)).canonicalPayload exampleSha256 =
        (EnqueueCall.enqueue (exampleCommand "order-2" "Two beds" 8)).canonicalPayload
        exampleSha256 ∧
      reusedTraceState.processes 2 =
        .returned (.enqueue (exampleCommand "order-2" "Two beds" 8)) (.ok ⟨102, true, 8⟩) ∧
      reusedTraceState.processes 1 =
        .returned (.enqueue (exampleCommand "order-2" "Two beds" 7)) (.error .integrityError) := by
  have hrun : (enqueueMachine exampleIntakeServices).run idleIntake reusedTraceSteps =
      some reusedTraceState := rfl
  have hstart : (enqueueMachine exampleIntakeServices).ReachableWith
      (fun state label => label.Resolvable exampleIntakeServices (fun _ => "north") state)
      idleIntake := .initial (idleIntake_initial exampleIntakeServices)
  exact ⟨exampleSha256_injective, hstart.run reusedTraceSteps reusedTraceSteps_resolvable hrun,
    rfl, rfl, rfl, rfl, rfl⟩

end IntegraIntake
