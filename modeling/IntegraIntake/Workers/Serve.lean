import Mathlib.Data.Finset.Insert
import Mathlib.Data.Finset.Erase
import IntegraIntake.Database.Schema
import IntegraIntake.Library.Machine

/-!
# The serve loop

`AgentWorker.serve` with its `serve_once` tasks, interleaved as asyncio
interleaves them: a task moves only while the loop awaits.  The loop fills its
slots one task at a time and goes on to the next only when the task has claimed a
job or is done; then it waits for tasks to end and collects them.  A task reserves
its tenant in a callback, and the loop releases it when it collects the task or
cancels them all.

Between the end of a task and its collection the tenant stays reserved, so what
the reserved tenants are is said of the tasks that are not collected yet
(`ServeInvariant`).
-/

namespace IntegraIntake

open Library

/-! ## Tasks -/

/-- What ends a `serve_once` task with an exception, as `serve` tells them apart. -/
inductive ServeError where
  | cancelled
  /-- `TransientPersistenceError`. -/
  | transient
  /-- `DBAPIError`, `ConnectionError` or `TimeoutError`. -/
  | database
  | fatal
  deriving DecidableEq, Repr

/-- How a task ends: `returned false` is a claim that found no work. -/
inductive TaskEnd where
  | returned (processed : Bool)
  | raised (error : ServeError)
  deriving DecidableEq, Repr

/-- A task of the loop: the tenants it was told to leave out, the tenant it has
reserved and how it ended. -/
structure ServeTask where
  id : ℕ
  excluded : Finset Uuid
  holder : Option Uuid
  ended : Option TaskEnd
  deriving DecidableEq

/-- What `serve` does after its tasks are cancelled. -/
inductive AfterCancel where
  | raise | backOff
  deriving DecidableEq, Repr

/-- What the handler of `serve` does about the error. -/
def ServeError.after : ServeError → AfterCancel
  | .cancelled | .fatal => .raise
  | .transient | .database => .backOff

/-- Where the loop is. -/
inductive ServePoint where
  /-- At the head of the loop that fills the slots. -/
  | fill
  /-- Awaiting the claim of a new task. -/
  | claiming (task : ℕ)
  /-- Sleeping, with no task left. -/
  | polling
  /-- In `asyncio.wait`. -/
  | waiting
  /-- In `cancel_tasks`, awaiting the end of all tasks. -/
  | cancelling (next : AfterCancel)
  /-- Sleeping after an outage. -/
  | backingOff
  | stopped
  deriving DecidableEq, Repr

/-- The loop waits here. -/
def ServePoint.awaits : ServePoint → Bool
  | .fill => false
  | _ => true

/-- The local variables of `serve`: `tasks` with `task_holders`, and
`active_tenants`. -/
structure ServeState where
  point : ServePoint
  tasks : List ServeTask
  active : Finset Uuid
  nextTask : ℕ

namespace ServeState

/-- Before the first turn of the loop. -/
def initial : ServeState := ⟨.fill, [], ∅, 0⟩

/-- The loop goes on at a point. -/
def goto (state : ServeState) (point : ServePoint) : ServeState :=
  { state with point := point }

/-- After the slots are filled: sleep if nothing runs, else wait. -/
def rest (state : ServeState) : ServeState :=
  state.goto (if state.tasks.isEmpty then .polling else .waiting)

/-- `asyncio.create_task`, with the tenants that are active now. -/
def created (state : ServeState) : ServeState where
  point := .claiming state.nextTask
  tasks := state.tasks ++ [⟨state.nextTask, state.active, none, none⟩]
  active := state.active
  nextTask := state.nextTask + 1

/-- `active_tenants.discard` for the tenants of a holder. -/
def discard (active : Finset Uuid) : Option Uuid → Finset Uuid
  | some tenant => active.erase tenant
  | none => active

/-- A task is taken out, and its tenant is released. -/
def collected (state : ServeState) (task : ServeTask) : ServeState :=
  { state with
    tasks := state.tasks.filter (·.id ≠ task.id)
    active := discard state.active task.holder }

/-- `cancel_tasks`, once all tasks have ended. -/
def cleared (state : ServeState) : ServeState :=
  { state with
    tasks := []
    active := state.tasks.foldl (fun active task => discard active task.holder) state.active }

/-- The task with this identifier changes. -/
def updateTask (tasks : List ServeTask) (id : ℕ) (update : ServeTask → ServeTask) :
    List ServeTask :=
  tasks.map fun task => if task.id = id then update task else task

/-- `reserve`: the callback of a claim. -/
def reserved (state : ServeState) (id : ℕ) (tenant : Uuid) : ServeState :=
  { state with
    tasks := updateTask state.tasks id fun task => { task with holder := some tenant }
    active := insert tenant state.active }

/-- A task ends. -/
def finished (state : ServeState) (id : ℕ) (outcome : TaskEnd) : ServeState :=
  { state with
    tasks := updateTask state.tasks id fun task => { task with ended := some outcome } }

/-- A task by its identifier. -/
def task? (state : ServeState) (id : ℕ) : Option ServeTask :=
  state.tasks.find? (·.id = id)

end ServeState

/-! ## Steps -/

/-- What can happen next. -/
inductive ServeStep where
  /-- The loop goes on from where it is. -/
  | loop
  /-- `asyncio.wait` returns; the set of the tasks that are done is gone through
  in this order. -/
  | collect (done : List ServeTask)
  /-- `serve` itself is cancelled while it awaits. -/
  | cancel
  /-- A task's claim is committed, and its callback runs. -/
  | claim (task : ℕ) (tenant : Uuid)
  | finish (task : ℕ) (outcome : TaskEnd)

/-- The new task is done before anything else happened in the loop. -/
def settleNew (state : ServeState) (task : ServeTask) : TaskEnd → ServeState
  | .returned true => (state.collected task).goto .fill
  | .returned false => (state.collected task).rest
  | .raised error => (state.collected task).goto (.cancelling error.after)

/-- The loop over the tasks that are done.  The first one that raises ends it. -/
def collectAll (state : ServeState) : List ServeTask → ServeState
  | [] => state.goto .fill
  | task :: rest =>
    match task.ended with
    | some (.raised error) => (state.collected task).goto (.cancelling error.after)
    | _ => collectAll (state.collected task) rest

/-- How a task may end: `serve_once` returns `True` only for a claimed job, and
`False` only without one. -/
def TaskEnd.fits (task : ServeTask) : TaskEnd → Bool
  | .returned processed => processed == task.holder.isSome
  | .raised _ => true

/-- The result of one step; `none` when it is not enabled. -/
def serveStep (concurrency : ℕ) (state : ServeState) : ServeStep → Option ServeState
  | .loop =>
    match state.point with
    | .fill => some (if state.tasks.length < concurrency then state.created else state.rest)
    | .claiming id =>
      match state.task? id with
      | some task =>
        match task.ended, task.holder with
        | some outcome, _ => some (settleNew state task outcome)
        | none, some _ => some (state.goto .fill)
        | none, none => none
      | none => none
    | .polling => some (state.goto .fill)
    | .cancelling next =>
      if state.tasks.all (·.ended.isSome) then
        some (state.cleared.goto (match next with
          | .raise => .stopped
          | .backOff => .backingOff))
      else none
    | .backingOff => some (state.goto .fill)
    | .waiting | .stopped => none
  | .collect done =>
    if state.point = .waiting ∧ done ≠ [] ∧
        done.Perm (state.tasks.filter (·.ended.isSome)) then some (collectAll state done)
    else none
  | .cancel =>
    match state.point with
    | .claiming _ | .polling | .waiting => some (state.goto (.cancelling .raise))
    | .cancelling _ | .backingOff => some (state.goto .stopped)
    | .fill | .stopped => none
  | .claim id tenant =>
    match state.task? id with
    | some task =>
      if state.point.awaits ∧ task.holder = none ∧ task.ended = none ∧ tenant ∉ task.excluded
      then some (state.reserved id tenant) else none
    | none => none
  | .finish id outcome =>
    match state.task? id with
    | some task =>
      if state.point.awaits ∧ task.ended = none ∧ outcome.fits task
      then some (state.finished id outcome) else none
    | none => none

/-- Runs of `serve`. -/
def serveMachine (concurrency : ℕ) : Machine ServeState ServeStep where
  initial state := state = .initial
  step := serveStep concurrency

/-! ## What holds at every point of the loop -/

/-- A task that is found is one of the tasks, with that id. -/
theorem task_mem {state : ServeState} {id : ℕ} {task : ServeTask} (h : state.task? id = some task) :
    task ∈ state.tasks ∧ task.id = id := by
  refine ⟨List.mem_of_find?_eq_some h, ?_⟩
  simpa using List.find?_some h

/-- A task that has neither claimed a job nor ended. -/
def ServeTask.Pending (task : ServeTask) : Prop :=
  task.holder = none ∧ task.ended = none

/-- Whether a task may lack a tenant at this point. -/
def ServePoint.MayLack (point : ServePoint) (id : ℕ) : Prop :=
  match point with
  | .claiming new => id = new
  | .cancelling _ | .stopped => True
  | _ => False

/-- What holds in every state that `serve` reaches. -/
structure ServeInvariant (concurrency : ℕ) (state : ServeState) : Prop where
  bounded : state.tasks.length ≤ concurrency
  ids_nodup : (state.tasks.map ServeTask.id).Nodup
  ids_lt : ∀ task ∈ state.tasks, task.id < state.nextTask
  /-- The active tenants are those of the tasks that are not collected. -/
  active_iff : ∀ tenant, tenant ∈ state.active ↔ ∃ task ∈ state.tasks, task.holder = some tenant
  /-- No tenant is held twice. -/
  exclusive : ∀ task ∈ state.tasks, ∀ other ∈ state.tasks, ∀ tenant,
    task.holder = some tenant → other.holder = some tenant → task.id = other.id
  /-- A task that has not claimed yet leaves out what the others hold, and is the
  only one of its kind. -/
  pending : ∀ task ∈ state.tasks, task.Pending → ∀ other ∈ state.tasks, other.id ≠ task.id →
    ¬ other.Pending ∧ ∀ tenant, other.holder = some tenant → tenant ∈ task.excluded
  /-- Outside of a claim and of a shutdown every task has a tenant. -/
  lacking : ∀ task ∈ state.tasks, task.holder = none → state.point.MayLack task.id

namespace ServeInvariant

variable {concurrency : ℕ} {state : ServeState}

theorem initial (concurrency : ℕ) : ServeInvariant concurrency .initial where
  bounded := Nat.zero_le _
  ids_nodup := List.nodup_nil
  ids_lt := by simp [ServeState.initial]
  active_iff := by simp [ServeState.initial]
  exclusive := by simp [ServeState.initial]
  pending := by simp [ServeState.initial]
  lacking := by simp [ServeState.initial]

theorem eq_of_id (h : ServeInvariant concurrency state) {task other : ServeTask}
    (htask : task ∈ state.tasks) (hother : other ∈ state.tasks) (hid : task.id = other.id) :
    task = other :=
  List.inj_on_of_nodup_map h.ids_nodup htask hother hid

/-- Going to a point where no more tasks may lack a tenant than do. -/
theorem goto (h : ServeInvariant concurrency state) {point : ServePoint}
    (hlacking : ∀ task ∈ state.tasks, task.holder = none → point.MayLack task.id) :
    ServeInvariant concurrency (state.goto point) where
  bounded := h.bounded
  ids_nodup := h.ids_nodup
  ids_lt := h.ids_lt
  active_iff := h.active_iff
  exclusive := h.exclusive
  pending := h.pending
  lacking := hlacking

theorem rest (h : ServeInvariant concurrency state)
    (hholders : ∀ task ∈ state.tasks, task.holder ≠ none) :
    ServeInvariant concurrency state.rest :=
  h.goto fun task htask hnone => absurd hnone (hholders task htask)

/-- A new task leaves out what is active. -/
theorem created (h : ServeInvariant concurrency state) (hpoint : state.point = .fill)
    (hroom : state.tasks.length < concurrency) : ServeInvariant concurrency state.created := by
  have hholders : ∀ task ∈ state.tasks, task.holder ≠ none := by
    intro task htask hnone
    have hlack := h.lacking task htask hnone
    rw [hpoint] at hlack
    exact hlack
  have hfresh : ∀ task ∈ state.tasks, task.id ≠ state.nextTask := fun task htask =>
    Nat.ne_of_lt (h.ids_lt task htask)
  have hmem : ∀ task, task ∈ state.created.tasks ↔
      task ∈ state.tasks ∨ task = ⟨state.nextTask, state.active, none, none⟩ := fun task => by
    rw [ServeState.created, List.mem_append, List.mem_singleton]
  refine ⟨?_, ?_, ?_, ?_, ?_, ?_, ?_⟩
  · rw [ServeState.created, List.length_append]
    exact hroom
  · rw [ServeState.created, List.map_append, List.nodup_append]
    refine ⟨h.ids_nodup, List.nodup_singleton _, ?_⟩
    intro id hid other hother
    obtain ⟨task, htask, rfl⟩ := List.mem_map.1 hid
    rw [List.map_singleton, List.mem_singleton] at hother
    rw [hother]
    exact hfresh task htask
  · intro task htask
    rcases (hmem task).1 htask with hold | rfl
    · exact Nat.lt_succ_of_lt (h.ids_lt task hold)
    · exact Nat.lt_succ_self _
  · intro tenant
    rw [show state.created.active = state.active from rfl, h.active_iff]
    constructor
    · rintro ⟨task, htask, hheld⟩
      exact ⟨task, (hmem task).2 (.inl htask), hheld⟩
    · rintro ⟨task, htask, hheld⟩
      rcases (hmem task).1 htask with hold | rfl
      · exact ⟨task, hold, hheld⟩
      · cases hheld
  · intro task htask other hother tenant hheld hheld'
    rcases (hmem task).1 htask with hold | rfl
    · rcases (hmem other).1 hother with hold' | rfl
      · exact h.exclusive task hold other hold' tenant hheld hheld'
      · cases hheld'
    · cases hheld
  · intro task htask hpending other hother hne
    rcases (hmem task).1 htask with hold | rfl
    · exact absurd hpending.1 (hholders task hold)
    · rcases (hmem other).1 hother with hold' | rfl
      · refine ⟨fun hother' => hholders other hold' hother'.1, fun tenant hheld => ?_⟩
        exact (h.active_iff tenant).2 ⟨other, hold', hheld⟩
      · exact absurd rfl hne
  · intro task htask hnone
    rcases (hmem task).1 htask with hold | rfl
    · exact absurd hnone (hholders task hold)
    · rfl

/-- Collecting a task releases its tenant and no other. -/
theorem collected (h : ServeInvariant concurrency state) {task : ServeTask}
    (htask : task ∈ state.tasks) : ServeInvariant concurrency (state.collected task) := by
  have hmem : ∀ {other : ServeTask}, other ∈ (state.collected task).tasks ↔
      other ∈ state.tasks ∧ other.id ≠ task.id := by
    intro other
    rw [ServeState.collected, List.mem_filter, decide_eq_true_iff]
  have hsublist : (state.collected task).tasks.Sublist state.tasks := List.filter_sublist
  refine ⟨hsublist.length_le.trans h.bounded, h.ids_nodup.sublist (hsublist.map _), ?_, ?_, ?_, ?_,
    ?_⟩
  · exact fun other hother => h.ids_lt other (hmem.1 hother).1
  · intro tenant
    have hkept : tenant ∈ (state.collected task).active ↔
        tenant ∈ state.active ∧ task.holder ≠ some tenant := by
      unfold ServeState.collected ServeState.discard
      cases hholder : task.holder with
      | none => simp
      | some held =>
          simp only [Finset.mem_erase, ne_eq, Option.some.injEq]
          rw [and_comm, eq_comm]
    rw [hkept, h.active_iff]
    constructor
    · rintro ⟨⟨other, hother, hheld⟩, hnot⟩
      refine ⟨other, hmem.2 ⟨hother, fun hid => hnot ?_⟩, hheld⟩
      rw [← h.eq_of_id hother htask hid]
      exact hheld
    · rintro ⟨other, hother, hheld⟩
      obtain ⟨hthere, hne⟩ := hmem.1 hother
      exact ⟨⟨other, hthere, hheld⟩, fun hsame =>
        hne (h.exclusive other hthere task htask tenant hheld hsame)⟩
  · intro first hfirst second hsecond
    exact h.exclusive first (hmem.1 hfirst).1 second (hmem.1 hsecond).1
  · intro first hfirst hpending second hsecond
    exact h.pending first (hmem.1 hfirst).1 hpending second (hmem.1 hsecond).1
  · exact fun other hother => h.lacking other (hmem.1 hother).1

theorem mem_updateTask (h : ServeInvariant concurrency state) {task other : ServeTask}
    (htask : task ∈ state.tasks) (update : ServeTask → ServeTask) :
    other ∈ ServeState.updateTask state.tasks task.id update ↔
      other = update task ∨ other ∈ state.tasks ∧ other.id ≠ task.id := by
  rw [ServeState.updateTask, List.mem_map]
  constructor
  · rintro ⟨found, hfound, rfl⟩
    by_cases hid : found.id = task.id
    · rw [if_pos hid, h.eq_of_id hfound htask hid]
      exact .inl rfl
    · rw [if_neg hid]
      exact .inr ⟨hfound, hid⟩
  · rintro (rfl | ⟨hother, hid⟩)
    · exact ⟨task, htask, if_pos rfl⟩
    · exact ⟨other, hother, if_neg hid⟩

/-- Updating a task changes neither the number of tasks nor their ids. -/
theorem updateTask (h : ServeInvariant concurrency state) (id : ℕ) (update : ServeTask → ServeTask)
    (hupdate : ∀ task, (update task).id = task.id) :
    (ServeState.updateTask state.tasks id update).length ≤ concurrency ∧
      ((ServeState.updateTask state.tasks id update).map ServeTask.id).Nodup := by
  have hids : (ServeState.updateTask state.tasks id update).map ServeTask.id =
      state.tasks.map ServeTask.id := by
    rw [ServeState.updateTask, List.map_map]
    refine List.map_congr_left fun task _ => ?_
    rw [Function.comp_apply]
    split
    · exact hupdate task
    · rfl
  constructor
  · rw [ServeState.updateTask, List.length_map]
    exact h.bounded
  · rw [hids]
    exact h.ids_nodup

/-- A claim takes a tenant that nobody holds. -/
theorem reserved (h : ServeInvariant concurrency state) {task : ServeTask}
    (htask : task ∈ state.tasks) (hpending : task.Pending) {tenant : Uuid}
    (htenant : tenant ∉ task.excluded) :
    ServeInvariant concurrency (state.reserved task.id tenant) := by
  have hmem : ∀ {other : ServeTask}, other ∈ (state.reserved task.id tenant).tasks ↔
      other = { task with holder := some tenant } ∨ other ∈ state.tasks ∧ other.id ≠ task.id :=
    h.mem_updateTask htask _
  -- what the others hold was left out of the claim
  have hothers : ∀ other ∈ state.tasks, other.id ≠ task.id →
      ¬ other.Pending ∧ other.holder ≠ some tenant := by
    intro other hother hne
    obtain ⟨hsettled, hexcluded⟩ := h.pending task htask hpending other hother hne
    exact ⟨hsettled, fun hheld => htenant (hexcluded tenant hheld)⟩
  obtain ⟨hbounded, hids⟩ :=
    h.updateTask task.id (fun other => { other with holder := some tenant }) fun _ => rfl
  refine ⟨hbounded, hids, ?_, ?_, ?_, ?_, ?_⟩
  · intro other hother
    rcases hmem.1 hother with rfl | ⟨hthere, -⟩
    · exact h.ids_lt task htask
    · exact h.ids_lt other hthere
  · intro held
    show held ∈ insert tenant state.active ↔ _
    rw [Finset.mem_insert, h.active_iff]
    constructor
    · rintro (rfl | ⟨other, hother, hheld⟩)
      · exact ⟨_, hmem.2 (.inl rfl), rfl⟩
      · refine ⟨other, hmem.2 (.inr ⟨hother, fun hid => ?_⟩), hheld⟩
        rw [h.eq_of_id hother htask hid, hpending.1] at hheld
        cases hheld
    · rintro ⟨other, hother, hheld⟩
      rcases hmem.1 hother with rfl | ⟨hthere, -⟩
      · exact .inl (Option.some.inj hheld).symm
      · exact .inr ⟨other, hthere, hheld⟩
  · intro first hfirst second hsecond held hheld hheld'
    rcases hmem.1 hfirst with rfl | ⟨hthere, hne⟩
    · rcases hmem.1 hsecond with rfl | ⟨hthere', hne'⟩
      · rfl
      · cases hheld
        exact absurd hheld' (hothers second hthere' hne').2
    · rcases hmem.1 hsecond with rfl | ⟨hthere', -⟩
      · cases hheld'
        exact absurd hheld (hothers first hthere hne).2
      · exact h.exclusive first hthere second hthere' held hheld hheld'
  · intro other hother hother'
    rcases hmem.1 hother with rfl | ⟨hthere, hne⟩
    · cases hother'.1
    · exact absurd hother' (hothers other hthere hne).1
  · intro other hother hnone
    rcases hmem.1 hother with rfl | ⟨hthere, -⟩
    · cases hnone
    · exact h.lacking other hthere hnone

/-- The end of a task releases nothing yet. -/
theorem finished (h : ServeInvariant concurrency state) {task : ServeTask}
    (htask : task ∈ state.tasks) (outcome : TaskEnd) :
    ServeInvariant concurrency (state.finished task.id outcome) := by
  have hmem : ∀ {other : ServeTask}, other ∈ (state.finished task.id outcome).tasks ↔
      other = { task with ended := some outcome } ∨ other ∈ state.tasks ∧ other.id ≠ task.id :=
    h.mem_updateTask htask _
  -- every task was there before, with the same tenant
  have hbefore : ∀ {other : ServeTask}, other ∈ (state.finished task.id outcome).tasks →
      ∃ old ∈ state.tasks, old.id = other.id ∧ old.holder = other.holder ∧
        old.excluded = other.excluded ∧ (other.Pending → old.Pending) := by
    intro other hother
    rcases hmem.1 hother with rfl | ⟨hthere, -⟩
    · exact ⟨task, htask, rfl, rfl, rfl, fun hpending => nomatch hpending.2⟩
    · exact ⟨other, hthere, rfl, rfl, rfl, id⟩
  obtain ⟨hbounded, hids⟩ :=
    h.updateTask task.id (fun other => { other with ended := some outcome }) fun _ => rfl
  refine ⟨hbounded, hids, ?_, ?_, ?_, ?_, ?_⟩
  · intro other hother
    obtain ⟨old, hold, hid, -⟩ := hbefore hother
    rw [← hid]
    exact h.ids_lt old hold
  · intro tenant
    show tenant ∈ state.active ↔ _
    rw [h.active_iff]
    constructor
    · rintro ⟨old, hold, hheld⟩
      by_cases hid : old.id = task.id
      · refine ⟨_, hmem.2 (.inl rfl), ?_⟩
        rw [h.eq_of_id hold htask hid] at hheld
        exact hheld
      · exact ⟨old, hmem.2 (.inr ⟨hold, hid⟩), hheld⟩
    · rintro ⟨other, hother, hheld⟩
      obtain ⟨old, hold, -, hholder, -⟩ := hbefore hother
      exact ⟨old, hold, hholder.trans hheld⟩
  · intro first hfirst second hsecond tenant hheld hheld'
    obtain ⟨old, hold, hid, hholder, -⟩ := hbefore hfirst
    obtain ⟨old', hold', hid', hholder', -⟩ := hbefore hsecond
    rw [← hid, ← hid']
    exact h.exclusive old hold old' hold' tenant (hholder.trans hheld) (hholder'.trans hheld')
  · intro first hfirst hpending second hsecond hne
    obtain ⟨old, hold, hid, -, hexcluded, hwas⟩ := hbefore hfirst
    obtain ⟨old', hold', hid', hholder', -, hwas'⟩ := hbefore hsecond
    have hne' : old'.id ≠ old.id := by rwa [hid, hid']
    obtain ⟨hsettled, hleft⟩ := h.pending old hold (hwas hpending) old' hold' hne'
    refine ⟨fun hother => hsettled (hwas' hother), fun tenant hheld => ?_⟩
    rw [← hexcluded]
    exact hleft tenant (hholder'.trans hheld)
  · intro other hother hnone
    obtain ⟨old, hold, hid, hholder, -⟩ := hbefore hother
    rw [← hid]
    exact h.lacking old hold (hholder.trans hnone)

/-- Nothing is active after `cancel_tasks`. -/
theorem cleared_active (h : ServeInvariant concurrency state) : state.cleared.active = ∅ := by
  have hfold : ∀ (tasks : List ServeTask) (active : Finset Uuid) (tenant : Uuid),
      tenant ∈ tasks.foldl (fun active task => ServeState.discard active task.holder) active →
      tenant ∈ active ∧ ∀ task ∈ tasks, task.holder ≠ some tenant := by
    intro tasks
    induction tasks with
    | nil => exact fun active tenant htenant => ⟨htenant, by simp⟩
    | cons task others ih =>
        intro active tenant htenant
        obtain ⟨hthere, hothers⟩ := ih _ tenant htenant
        have hkept : tenant ∈ ServeState.discard active task.holder := hthere
        cases hholder : task.holder with
        | none =>
            rw [hholder] at hkept
            refine ⟨hkept, List.forall_mem_cons.2 ⟨?_, hothers⟩⟩
            rw [hholder]
            rintro ⟨⟩
        | some held =>
            rw [hholder] at hkept
            obtain ⟨hne, hactive⟩ := Finset.mem_erase.1 hkept
            refine ⟨hactive, List.forall_mem_cons.2 ⟨?_, hothers⟩⟩
            rw [hholder]
            exact fun hsame => hne (Option.some.inj hsame).symm
  refine Finset.eq_empty_of_forall_notMem fun tenant htenant => ?_
  obtain ⟨hactive, hnone⟩ := hfold state.tasks state.active tenant htenant
  obtain ⟨task, htask, hheld⟩ := (h.active_iff tenant).1 hactive
  exact hnone task htask hheld

theorem cleared (h : ServeInvariant concurrency state) (point : ServePoint) :
    ServeInvariant concurrency (state.cleared.goto point) where
  bounded := Nat.zero_le _
  ids_nodup := List.nodup_nil
  ids_lt := by simp [ServeState.cleared, ServeState.goto]
  active_iff tenant := by
    rw [ServeState.goto, h.cleared_active]
    simp [ServeState.cleared]
  exclusive := by simp [ServeState.cleared, ServeState.goto]
  pending := by simp [ServeState.cleared, ServeState.goto]
  lacking := by simp [ServeState.cleared, ServeState.goto]

/-- The loop over the tasks that are done. -/
theorem collectAll {done : List ServeTask} (h : ServeInvariant concurrency state)
    (hholders : ∀ task ∈ state.tasks, task.holder ≠ none)
    (hdone : ∀ task ∈ done, task ∈ state.tasks) (hnodup : (done.map ServeTask.id).Nodup) :
    ServeInvariant concurrency (collectAll state done) := by
  induction done generalizing state with
  | nil => exact h.goto fun task htask hnone => absurd hnone (hholders task htask)
  | cons task others ih =>
      obtain ⟨htask, hothers⟩ := List.forall_mem_cons.1 hdone
      rw [List.map_cons, List.nodup_cons] at hnodup
      have hcollected := h.collected htask
      have hmem : ∀ {other : ServeTask}, other ∈ (state.collected task).tasks ↔
          other ∈ state.tasks ∧ other.id ≠ task.id := by
        intro other
        rw [ServeState.collected, List.mem_filter, decide_eq_true_iff]
      unfold IntegraIntake.collectAll
      split
      · exact hcollected.goto fun _ _ _ => trivial
      · refine ih hcollected ?_ ?_ hnodup.2
        · exact fun other hother => hholders other (hmem.1 hother).1
        · intro other hother
          refine hmem.2 ⟨hothers other hother, fun hid => hnodup.1 ?_⟩
          rw [← hid]
          exact List.mem_map.2 ⟨other, hother, rfl⟩

/-- Every step of the loop and of its tasks keeps the invariant. -/
theorem step (h : ServeInvariant concurrency state) {label : ServeStep} {next : ServeState}
    (hstep : serveStep concurrency state label = some next) :
    ServeInvariant concurrency next := by
  -- at these points every task has a tenant
  have hholders : (∀ id, ¬ state.point.MayLack id) → ∀ task ∈ state.tasks, task.holder ≠ none :=
    fun hpoint task htask hnone => hpoint task.id (h.lacking task htask hnone)
  have hfill : (∀ id, ¬ state.point.MayLack id) → ServeInvariant concurrency (state.goto .fill) :=
    fun hpoint => h.goto fun task htask hnone => absurd hnone (hholders hpoint task htask)
  cases label with
  | loop =>
      simp only [serveStep] at hstep
      split at hstep
      case h_1 hpoint =>
        cases hstep
        split
        · rename_i hroom
          exact h.created hpoint hroom
        · exact h.rest (hholders fun id hlack => by rwa [hpoint] at hlack)
      case h_2 id hpoint =>
        split at hstep
        · rename_i task htask
          obtain ⟨hmem, rfl⟩ := task_mem htask
          have hcollected := h.collected hmem
          -- with the new task gone every task has a tenant
          have hrest : ∀ other ∈ (state.collected task).tasks, other.holder ≠ none := by
            intro other hother hnone
            rw [ServeState.collected, List.mem_filter, decide_eq_true_iff] at hother
            have hlack := h.lacking other hother.1 hnone
            rw [hpoint] at hlack
            exact hother.2 hlack
          split at hstep
          · rename_i outcome _ hended
            cases hstep
            unfold settleNew
            split
            · exact hcollected.goto fun other hother hnone => absurd hnone (hrest other hother)
            · exact hcollected.rest hrest
            · exact hcollected.goto fun _ _ _ => trivial
          · rename_i tenant _ hheld
            cases hstep
            refine h.goto fun other hother hnone => ?_
            have hlack := h.lacking other hother hnone
            rw [hpoint] at hlack
            rw [h.eq_of_id hother hmem hlack, hheld] at hnone
            cases hnone
          · cases hstep
        · cases hstep
      case h_3 hpoint =>
        cases hstep
        exact hfill fun id hlack => by rwa [hpoint] at hlack
      case h_4 after hpoint =>
        split at hstep <;> cases hstep
        exact h.cleared _
      case h_5 hpoint =>
        cases hstep
        exact hfill fun id hlack => by rwa [hpoint] at hlack
      case h_6 => cases hstep
      case h_7 => cases hstep
  | collect done =>
      simp only [serveStep] at hstep
      split at hstep
      · rename_i hwait
        obtain ⟨hpoint, -, hperm⟩ := hwait
        cases hstep
        refine h.collectAll (hholders fun id hlack => by rwa [hpoint] at hlack) ?_ ?_
        · exact fun task htask => (List.mem_filter.1 (hperm.mem_iff.1 htask)).1
        · have hids : ((state.tasks.filter (·.ended.isSome)).map ServeTask.id).Nodup :=
            h.ids_nodup.sublist (List.filter_sublist.map _)
          exact (hperm.map ServeTask.id).nodup_iff.2 hids
      · cases hstep
  | cancel =>
      simp only [serveStep] at hstep
      split at hstep <;> cases hstep <;> exact h.goto fun _ _ _ => trivial
  | claim id tenant =>
      simp only [serveStep] at hstep
      split at hstep
      · rename_i task htask
        obtain ⟨hmem, rfl⟩ := task_mem htask
        split at hstep
        · rename_i hclaim
          obtain ⟨-, hnone, hrunning, htenant⟩ := hclaim
          cases hstep
          exact h.reserved hmem ⟨hnone, hrunning⟩ htenant
        · cases hstep
      · cases hstep
  | finish id outcome =>
      simp only [serveStep] at hstep
      split at hstep
      · rename_i task htask
        obtain ⟨hmem, rfl⟩ := task_mem htask
        split at hstep <;> cases hstep
        exact h.finished hmem outcome
      · cases hstep

end ServeInvariant

theorem serveInvariant {concurrency : ℕ} {state : ServeState}
    (h : (serveMachine concurrency).Reachable state) : ServeInvariant concurrency state := by
  refine Machine.Reachable.invariant ?_ (fun _ _ _ _ hstate hstep => hstate.step hstep) h
  rintro state rfl
  exact .initial concurrency

/-! ## Serving -/

/-- When the collection after `asyncio.wait` has gone through, no task that had
ended is left. -/
theorem mem_collectAll {state : ServeState} {done : List ServeTask}
    (hfill : (collectAll state done).point = .fill) {task : ServeTask}
    (h : task ∈ (collectAll state done).tasks) :
    task ∈ state.tasks ∧ ∀ other ∈ done, task.id ≠ other.id := by
  induction done generalizing state with
  | nil => exact ⟨h, by simp⟩
  | cons first others ih =>
      unfold collectAll at hfill h
      split at hfill
      · cases hfill
      · rename_i hreturned
        obtain ⟨hkept, hothers⟩ := ih hfill (by
          split at h
          · rename_i error hraised
            exact absurd hraised (hreturned error)
          · exact h)
        rw [ServeState.collected, List.mem_filter, decide_eq_true_iff] at hkept
        exact ⟨hkept.1, List.forall_mem_cons.2 ⟨hkept.2, hothers⟩⟩

/-- Bounded, tenant-exclusive serving.  Wherever the loop stands, it has at most
as many tasks as it may have, no two of them hold one tenant, and the active
tenants are exactly those of the tasks it has not collected.  `cancel_tasks`
leaves no tenant active, and neither does a collection leave the tenant of a task
that has ended. -/
theorem serve_bounded_exclusive (concurrency : ℕ) (state : ServeState)
    (hstate : (serveMachine concurrency).Reachable state) :
    state.tasks.length ≤ concurrency ∧
      (∀ task ∈ state.tasks, ∀ other ∈ state.tasks, ∀ tenant,
        task.holder = some tenant → other.holder = some tenant → task = other) ∧
      (∀ tenant, tenant ∈ state.active ↔ ∃ task ∈ state.tasks, task.holder = some tenant) ∧
      (∀ after next, state.point = .cancelling after →
        serveStep concurrency state .loop = some next → next.tasks = [] ∧ next.active = ∅) ∧
      ∀ done next, serveStep concurrency state (.collect done) = some next → next.point = .fill →
        ∀ tenant, tenant ∈ next.active ↔
          ∃ task ∈ next.tasks, task.ended = none ∧ task.holder = some tenant := by
  have hinvariant := serveInvariant hstate
  refine ⟨hinvariant.bounded, fun task htask other hother tenant hheld hheld' => ?_,
    hinvariant.active_iff, fun after next hpoint hstep => ?_, fun done next hstep hfill => ?_⟩
  · exact hinvariant.eq_of_id htask hother
      (hinvariant.exclusive task htask other hother tenant hheld hheld')
  · simp only [serveStep, hpoint] at hstep
    split at hstep <;> cases hstep
    exact ⟨rfl, hinvariant.cleared_active⟩
  · have hnext := hinvariant.step hstep
    simp only [serveStep] at hstep
    split at hstep
    · rename_i hwait
      cases hstep
      -- whatever has ended was done, and is not left
      have hrunning : ∀ task ∈ (collectAll state done).tasks, task.ended = none := by
        intro task htask
        obtain ⟨hthere, hnot⟩ := mem_collectAll hfill htask
        refine Option.not_isSome_iff_eq_none.1 fun hended => ?_
        have hdone : task ∈ done :=
          hwait.2.2.mem_iff.2 (List.mem_filter.2 ⟨hthere, hended⟩)
        exact hnot task hdone rfl
      intro tenant
      rw [hnext.active_iff]
      exact exists_congr fun task => and_congr_right fun htask =>
        (and_iff_right (hrunning task htask)).symm
    · cases hstep

/-- Two tasks serve the tenants `1` and `2`, and the first has ended while the
second claimed its job. -/
def endedTaskState : ServeState where
  point := .fill
  tasks := [⟨0, ∅, some 1, some (.returned true)⟩, ⟨1, {1}, some 2, none⟩]
  active := {2, 1}
  nextTask := 2

theorem endedTaskState_reachable : (serveMachine 3).Reachable endedTaskState := by
  have hstart : (serveMachine 3).Reachable .initial := .initial rfl
  exact hstart.run [.loop, .claim 0 1, .loop, .loop, .finish 0 (.returned true), .claim 1 2, .loop]
    rfl

/-- The next task is created without the tenant of the task that has ended. -/
theorem ended_task_stays_excluded :
    (serveMachine 3).Reachable endedTaskState ∧ endedTaskState.point = .fill ∧
      endedTaskState.tasks.length < 3 ∧
      ¬ ∀ tenant, tenant ∈ endedTaskState.active ↔
        ∃ task ∈ endedTaskState.tasks, task.ended = none ∧ task.holder = some tenant := by
  refine ⟨endedTaskState_reachable, rfl, by decide, fun h => ?_⟩
  obtain ⟨task, htask, hended, hheld⟩ := (h 1).1 (by decide)
  simp only [endedTaskState, List.mem_cons, List.not_mem_nil, or_false] at htask
  rcases htask with rfl | rfl
  · cases hended
  · cases hheld

theorem serve_bounded_exclusive_ended : endedTaskState.tasks.length ≤ 3 ∧
    (1 ∈ endedTaskState.active ↔ ∃ task ∈ endedTaskState.tasks, task.holder = some 1) := by
  obtain ⟨hbounded, -, hactive, -⟩ :=
    serve_bounded_exclusive 3 endedTaskState endedTaskState_reachable
  exact ⟨hbounded, hactive 1⟩

end IntegraIntake
