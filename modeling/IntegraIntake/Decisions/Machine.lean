import Mathlib.Logic.Function.Basic
import IntegraIntake.Lifecycle.Machine

/-!
# Concurrent decisions

Any number of `decide` calls and `expire_due` sweeps next to the operations of
the workers, under READ COMMITTED with row locks held to commit.  A call is
split where another transaction can come in between:

* its lock statement scans the database as it is when the statement starts, and
  raises `ApprovalNotFound` without waiting when no row qualifies;
* it then waits for the row.  When it gets the lock, the statement's condition
  is evaluated again, on the new version of the approval joined with the job of
  the statement's own snapshot, since the job is not locked;
* the rest of the transaction runs under the lock and commits.

A sweep takes the unlocked due rows with `SKIP LOCKED` and expires them in the
transaction that holds them.
-/

namespace IntegraIntake

open Library ApprovalRepository

/-- A call of `decide`: its arguments, its clock value and the identifier it
gives a new row. -/
structure DecideCall where
  newId : Uuid
  approvalId : Uuid
  operator : Operator
  request : DecisionRequest
  now : Timestamp

/-- Where a call or a sweep stands. -/
inductive DecisionProcess where
  | idle
  /-- The lock statement has found its row in `snapshot` and waits for it. -/
  | waiting (call : DecideCall) (snapshot : Db)
  /-- The row is locked; `approval` is the version the statement returned. -/
  | holding (call : DecideCall) (approval : Approval)
  | returned (call : DecideCall) (outcome : Except AppError DecisionResponse)
  /-- A sweep that holds the rows it selected. -/
  | sweeping (now : Timestamp) (selected : List Approval)

/-- The committed database, with the calls and sweeps and the locks they hold. -/
structure DecisionState where
  db : Db
  /-- Who holds the lock of an approval row. -/
  locks : Uuid → Option ℕ
  processes : ℕ → DecisionProcess

/-- An operation of a worker, or the next statement of a call or a sweep. -/
inductive DecisionStep where
  | worker (operation : Operation)
  | begin (process : ℕ) (call : DecideCall)
  | acquire (process : ℕ)
  | finish (process : ℕ)
  | sweepBegin (process : ℕ) (now : Timestamp) (limit : ℕ)
  | sweepFinish (process : ℕ)

/-- The operations that are not decisions or sweeps. -/
def Operation.isWorker : Operation → Bool
  | .decide .. => false
  | .expireDue .. => false
  | _ => true

namespace DecisionState

/-- A call or a sweep moves on. -/
def setProcess (state : DecisionState) (process : ℕ) (value : DecisionProcess) : DecisionState :=
  { state with processes := Function.update state.processes process value }

/-- Give the locks of the approvals `ids` to `holder`. -/
def setLocks (state : DecisionState) (ids : List Uuid) (holder : Option ℕ) : DecisionState :=
  { state with locks := fun id => if id ∈ ids then holder else state.locks id }

/-- A transaction commits. -/
def setDb (state : DecisionState) (db : Db) : DecisionState :=
  { state with db := db }

@[simp] theorem setProcess_db (state : DecisionState) (process : ℕ) (value : DecisionProcess) :
    (state.setProcess process value).db = state.db := rfl

@[simp] theorem setProcess_locks (state : DecisionState) (process : ℕ) (value : DecisionProcess) :
    (state.setProcess process value).locks = state.locks := rfl

@[simp] theorem setProcess_self (state : DecisionState) (process : ℕ) (value : DecisionProcess) :
    (state.setProcess process value).processes process = value :=
  Function.update_self ..

theorem setProcess_of_ne (state : DecisionState) {process other : ℕ} (value : DecisionProcess)
    (hne : other ≠ process) :
    (state.setProcess process value).processes other = state.processes other :=
  Function.update_of_ne hne ..

/-- Where a process stands after one process has moved. -/
theorem setProcess_eq {state : DecisionState} {process other : ℕ} {value found : DecisionProcess}
    (h : (state.setProcess process value).processes other = found) :
    (other = process ∧ value = found) ∨ state.processes other = found := by
  by_cases hsame : other = process
  · subst hsame
    rw [setProcess_self] at h
    exact .inl ⟨rfl, h⟩
  · rw [setProcess_of_ne _ _ hsame] at h
    exact .inr h

@[simp] theorem setLocks_db (state : DecisionState) (ids : List Uuid) (holder : Option ℕ) :
    (state.setLocks ids holder).db = state.db := rfl

@[simp] theorem setLocks_processes (state : DecisionState) (ids : List Uuid)
    (holder : Option ℕ) : (state.setLocks ids holder).processes = state.processes := rfl

@[simp] theorem setDb_db (state : DecisionState) (db : Db) : (state.setDb db).db = db := rfl

@[simp] theorem setDb_locks (state : DecisionState) (db : Db) :
    (state.setDb db).locks = state.locks := rfl

@[simp] theorem setDb_processes (state : DecisionState) (db : Db) :
    (state.setDb db).processes = state.processes := rfl

end DecisionState

/-- The row that the lock statement returns after its wait: the condition is
evaluated on the current approval and the job of the snapshot. -/
def recheck (call : DecideCall) (snapshot db : Db) : Option Approval :=
  db.approvals.find? fun approval => approval.id = call.approvalId ∧
    approval.tenantId = call.operator.tenantId ∧
    publishedLifecycle approval (joinedJob snapshot approval)

/-- The rest of a call under its lock. -/
def DecideCall.conclude (services : Services) (call : DecideCall) (approval : Approval) :
    Query DecisionResponse :=
  ApprovalDecision.decideHolding services call.newId approval call.operator call.request call.now

/-- The rest of a sweep under its locks. -/
def concludeSweep (now : Timestamp) (selected : List Approval) : Query Unit :=
  Session.transaction (selected.forM (expireOne now))

/-- The result of one step; `none` when it is not enabled. -/
def decisionStep (services : Services) (state : DecisionState) :
    DecisionStep → Option DecisionState
  | .worker operation =>
    if operation.isWorker then some (state.setDb (operation.apply services state.db)) else none
  | .begin process call =>
    match state.processes process with
    | .idle =>
      match getForTenant call.approvalId call.operator.tenantId state.db with
      | none => some (state.setProcess process (.returned call (.error .approvalNotFound)))
      | some _ => some (state.setProcess process (.waiting call state.db))
    | _ => none
  | .acquire process =>
    match state.processes process with
    | .waiting call snapshot =>
      -- the row lock is free
      if (state.locks call.approvalId).isNone then
        match recheck call snapshot state.db with
        | none => some (state.setProcess process (.returned call (.error .approvalNotFound)))
        | some approval =>
          some ((state.setProcess process (.holding call approval)).setLocks [approval.id]
            (some process))
      else none
    | _ => none
  | .finish process =>
    match state.processes process with
    | .holding call approval =>
      let run := call.conclude services approval state.db
      some (((state.setDb run.2).setProcess process (.returned call run.1)).setLocks [approval.id]
        none)
    | _ => none
  | .sweepBegin process now limit =>
    match state.processes process with
    | .idle =>
      let selected := selectDue now limit (fun id => (state.locks id).isSome) state.db
      some ((state.setProcess process (.sweeping now selected)).setLocks
        (selected.map Approval.id) (some process))
    | _ => none
  | .sweepFinish process =>
    match state.processes process with
    | .sweeping now selected =>
      some (((state.setDb (concludeSweep now selected state.db).2).setProcess process
        .idle).setLocks (selected.map Approval.id) none)
    | _ => none

/-- Concurrent runs, from a database without jobs and approvals. -/
def decisionMachine (services : Services) : Machine DecisionState DecisionStep where
  initial state := state.db.jobs = [] ∧ state.db.approvals = [] ∧
    (∀ id, state.locks id = none) ∧ ∀ process, state.processes process = .idle
  step := decisionStep services

/-- Every step that is taken, with what made it possible. -/
inductive DecisionTaken (services : Services) (state : DecisionState) :
    DecisionStep → DecisionState → Prop
  | worker {operation : Operation} : operation.isWorker = true →
      DecisionTaken services state (.worker operation)
        (state.setDb (operation.apply services state.db))
  | absent {process : ℕ} {call : DecideCall} : state.processes process = .idle →
      getForTenant call.approvalId call.operator.tenantId state.db = none →
      DecisionTaken services state (.begin process call)
        (state.setProcess process (.returned call (.error .approvalNotFound)))
  | waits {process : ℕ} {call : DecideCall} {approval : Approval} :
      state.processes process = .idle →
      getForTenant call.approvalId call.operator.tenantId state.db = some approval →
      DecisionTaken services state (.begin process call)
        (state.setProcess process (.waiting call state.db))
  | lost {process : ℕ} {call : DecideCall} {snapshot : Db} :
      state.processes process = .waiting call snapshot → state.locks call.approvalId = none →
      recheck call snapshot state.db = none →
      DecisionTaken services state (.acquire process)
        (state.setProcess process (.returned call (.error .approvalNotFound)))
  | holds {process : ℕ} {call : DecideCall} {snapshot : Db} {approval : Approval} :
      state.processes process = .waiting call snapshot → state.locks call.approvalId = none →
      recheck call snapshot state.db = some approval →
      DecisionTaken services state (.acquire process)
        ((state.setProcess process (.holding call approval)).setLocks [approval.id] (some process))
  | concluded {process : ℕ} {call : DecideCall} {approval : Approval}
      {outcome : Except AppError DecisionResponse} {next : Db} :
      state.processes process = .holding call approval →
      call.conclude services approval state.db = (outcome, next) →
      DecisionTaken services state (.finish process)
        (((state.setDb next).setProcess process (.returned call outcome)).setLocks [approval.id]
          none)
  | selects {process : ℕ} {now : Timestamp} {limit : ℕ} {selected : List Approval} :
      state.processes process = .idle →
      selectDue now limit (fun id => (state.locks id).isSome) state.db = selected →
      DecisionTaken services state (.sweepBegin process now limit)
        ((state.setProcess process (.sweeping now selected)).setLocks (selected.map Approval.id)
          (some process))
  | swept {process : ℕ} {now : Timestamp} {selected : List Approval} {next : Db} :
      state.processes process = .sweeping now selected →
      (concludeSweep now selected state.db).2 = next →
      DecisionTaken services state (.sweepFinish process)
        (((state.setDb next).setProcess process .idle).setLocks (selected.map Approval.id) none)

theorem decisionTaken_of_step {services : Services} {state next : DecisionState}
    {label : DecisionStep} (h : (decisionMachine services).step state label = some next) :
    DecisionTaken services state label next := by
  change decisionStep services state label = some next at h
  cases label with
  | worker operation =>
      simp only [decisionStep, Option.ite_none_right_eq_some, Option.some.injEq] at h
      obtain ⟨hworker, rfl⟩ := h
      exact .worker hworker
  | begin process call =>
      cases hprocess : state.processes process <;> simp only [decisionStep, hprocess] at h <;>
        try cases h
      cases hfound : getForTenant call.approvalId call.operator.tenantId state.db with
      | none =>
          simp only [hfound, Option.some.injEq] at h
          exact h ▸ .absent hprocess hfound
      | some approval =>
          simp only [hfound, Option.some.injEq] at h
          exact h ▸ .waits hprocess hfound
  | acquire process =>
      cases hprocess : state.processes process <;> simp only [decisionStep, hprocess] at h <;>
        try cases h
      rename_i call snapshot
      simp only [Option.ite_none_right_eq_some, Option.isNone_iff_eq_none] at h
      obtain ⟨hfree, h⟩ := h
      cases hfound : recheck call snapshot state.db with
      | none =>
          simp only [hfound, Option.some.injEq] at h
          exact h ▸ .lost hprocess hfree hfound
      | some approval =>
          simp only [hfound, Option.some.injEq] at h
          exact h ▸ .holds hprocess hfree hfound
  | finish process =>
      cases hprocess : state.processes process <;> simp only [decisionStep, hprocess] at h <;>
        cases h
      exact .concluded hprocess rfl
  | sweepBegin process now limit =>
      cases hprocess : state.processes process <;> simp only [decisionStep, hprocess] at h <;>
        cases h
      exact .selects hprocess rfl
  | sweepFinish process =>
      cases hprocess : state.processes process <;> simp only [decisionStep, hprocess] at h <;>
        cases h
      exact .swept hprocess rfl

/-! ## How a process comes to stand where it stands -/

section Taken

variable {services : Services} {state next : DecisionState} {label : DecisionStep} {process : ℕ}
  {call : DecideCall}

/-- The three places at which a call returns. -/
theorem DecisionTaken.returned {outcome : Except AppError DecisionResponse}
    (h : DecisionTaken services state label next)
    (hbefore : state.processes process ≠ .returned call outcome)
    (hreturned : next.processes process = .returned call outcome) :
    (outcome = .error .approvalNotFound ∧ next.db = state.db ∧ state.processes process = .idle ∧
        getForTenant call.approvalId call.operator.tenantId state.db = none) ∨
      (outcome = .error .approvalNotFound ∧ next.db = state.db ∧ label = .acquire process ∧
        ∃ snapshot, state.processes process = .waiting call snapshot ∧
          recheck call snapshot state.db = none) ∨
      ∃ approval, state.processes process = .holding call approval ∧
        call.conclude services approval state.db = (outcome, next.db) := by
  cases h with
  | worker => exact absurd hreturned hbefore
  | absent hidle hfound =>
      rcases DecisionState.setProcess_eq hreturned with ⟨rfl, heq⟩ | hsame
      · cases heq
        exact .inl ⟨rfl, rfl, hidle, hfound⟩
      · exact absurd hsame hbefore
  | lost hprocess _ hfound =>
      rcases DecisionState.setProcess_eq hreturned with ⟨rfl, heq⟩ | hsame
      · cases heq
        exact .inr (.inl ⟨rfl, rfl, rfl, _, hprocess, hfound⟩)
      · exact absurd hsame hbefore
  | concluded hprocess hrun =>
      rcases DecisionState.setProcess_eq hreturned with ⟨rfl, heq⟩ | hsame
      · cases heq
        exact .inr (.inr ⟨_, hprocess, hrun⟩)
      · exact absurd hsame hbefore
  | waits | holds | selects | swept =>
      rcases DecisionState.setProcess_eq hreturned with ⟨-, heq⟩ | hsame
      · cases heq
      · exact absurd hsame hbefore

/-- A waiting call waited before, or has just found its row. -/
theorem DecisionTaken.waiting {snapshot : Db} (h : DecisionTaken services state label next)
    (hwaiting : next.processes process = .waiting call snapshot) :
    state.processes process = .waiting call snapshot ∨
      (snapshot = state.db ∧ next.db = state.db ∧
        ∃ approval, getForTenant call.approvalId call.operator.tenantId state.db =
          some approval) := by
  cases h with
  | worker => exact .inl hwaiting
  | waits _ hfound =>
      rcases DecisionState.setProcess_eq hwaiting with ⟨rfl, heq⟩ | hsame
      · cases heq
        exact .inr ⟨rfl, rfl, _, hfound⟩
      · exact .inl hsame
  | absent | lost | holds | concluded | selects | swept =>
      rcases DecisionState.setProcess_eq hwaiting with ⟨-, heq⟩ | hsame
      · cases heq
      · exact .inl hsame

end Taken

end IntegraIntake
