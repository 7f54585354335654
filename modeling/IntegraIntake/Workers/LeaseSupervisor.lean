import IntegraIntake.Library.Machine

/-!
# The supervisor of a claimed job

`AgentWorker._run_claimed_with_lease` with its heartbeat `_maintain_lease`, its
deadline and `_await_run_shutdown`, interleaved as asyncio interleaves them.  The
run itself is a thread: it ends by itself, whatever becomes of its supervisor, and
is asked to end by `cancellation_event`.

  | local of the source  | here                              |
  | -------------------- | --------------------------------- |
  | `run_task`           | `run`, once the thread has ended  |
  | `heartbeat`          | `heartbeat`, while `observed`     |
  | `deadline`           | `deadline`                        |
  | `stopped`            | `stopped`                         |
  | `cancellation_event` | `cancellation`                    |

How long a wait takes is not modelled: a timer passes at any time, and so does the
grace of a shutdown.  `_heartbeat_wait` may answer anything.  To cancel a task is to
ask for its end: a heartbeat that was told to cancel goes on until it has ended
(`Heartbeat.cancelling`).
-/

namespace IntegraIntake

open Library

/-! ## Tasks -/

/-- How the thread of a run ends; `α` is what it returns and `ε` what it raises. -/
inductive ThreadEnd (α ε : Type) where
  | returned (value : α)
  /-- It returned `None`. -/
  | nothing
  | raised (error : ε)
  /-- It raised `CancelledError`. -/
  | cancelled

/-- How the task of the heartbeat ends. -/
inductive HeartbeatEnd where
  /-- `True`: it was told to stop. -/
  | stopped
  /-- `False`: a renewal failed. -/
  | lost
  | raised
  | cancelled
  deriving DecidableEq, Repr

/-- `_maintain_lease`: in `_heartbeat_wait`, in `renew_lease`, told to cancel and not
done yet, or done. -/
inductive Heartbeat where
  | waiting
  | renewing
  | cancelling
  | ended (value : HeartbeatEnd)
  deriving DecidableEq, Repr

/-- `heartbeat.cancel()`, a request, which a task that is done ignores. -/
def Heartbeat.cancel : Heartbeat → Heartbeat
  | .ended value => .ended value
  | _ => .cancelling

/-- The heartbeat after a cancelled `await` of it, which goes on only when the task that
it has cancelled is done. -/
def Heartbeat.cancelAwaited : Heartbeat → Heartbeat
  | .ended value => .ended value
  | _ => .ended .cancelled

/-- It was told to cancel, or has ended so. -/
def Heartbeat.isCancelled : Heartbeat → Bool
  | .cancelling | .ended .cancelled => true
  | _ => false

/-- The task that sleeps until the deadline: asleep, done, or told to cancel. -/
inductive Deadline where
  | pending | passed | cancelled
  deriving DecidableEq, Repr

/-- `deadline.cancel()`. -/
def Deadline.cancel : Deadline → Deadline
  | .passed => .passed
  | _ => .cancelled

/-- How `_run_claimed_with_lease` ends. -/
inductive SupervisorEnd (α ε : Type) where
  | returned (value : α)
  /-- The `RuntimeError` for a run without a result. -/
  | noResult
  /-- What the run raised. -/
  | raised (error : ε)
  /-- `JobLeaseLostError`. -/
  | leaseLost
  /-- `RetryableJobError` with the code `worker_timeout`. -/
  | timedOut
  | cancelled
  /-- What the heartbeat raised. -/
  | heartbeatRaised

/-- Where the supervisor awaits. -/
inductive SupervisorPoint (α ε : Type) where
  /-- In `asyncio.wait`. -/
  | watching
  /-- In `await heartbeat`, after the run has ended. -/
  | awaitingHeartbeat (ending : ThreadEnd α ε)
  /-- In `_await_run_shutdown`, before it ends with `next`. -/
  | shuttingDown (next : SupervisorEnd α ε)
  | exited (value : SupervisorEnd α ε)

/-- The state of a call of `_run_claimed_with_lease`: where it awaits, its tasks and
events, and the thread of the run. -/
structure Supervisor (α ε : Type) where
  point : SupervisorPoint α ε
  run : Option (ThreadEnd α ε)
  heartbeat : Heartbeat
  /-- Whether the local variable still holds the heartbeat. -/
  observed : Bool
  deadline : Deadline
  stopped : Bool
  cancellation : Bool

/-- What can happen next. -/
inductive SupervisorStep (α ε : Type) where
  /-- The thread of the run ends. -/
  | threadEnds (ending : ThreadEnd α ε)
  /-- `_heartbeat_wait` returns, or raises. -/
  | waited (answer : Option Bool)
  /-- `renew_lease` commits and returns, or raises. -/
  | renewed (answer : Option Bool)
  /-- The heartbeat ends after it was told to cancel. -/
  | heartbeatEnds (value : HeartbeatEnd)
  | deadlinePasses
  /-- What the supervisor awaits is there, and it goes on. -/
  | resume
  /-- The supervisor is cancelled while it awaits. -/
  | cancel

variable {α ε : Type}

/-- The supervisor itself goes on. -/
def SupervisorStep.isOwn : SupervisorStep α ε → Bool
  | .resume | .cancel => true
  | _ => false

/-- The thread ends. -/
def SupervisorStep.isThreadEnd : SupervisorStep α ε → Bool
  | .threadEnds _ => true
  | _ => false

namespace Supervisor

/-- The thread and the heartbeat have been started. -/
def initial : Supervisor α ε :=
  ⟨.watching, none, .waiting, true, .pending, false, false⟩

/-- The end of the function, through its `finally` block. -/
def leave (state : Supervisor α ε) (value : SupervisorEnd α ε) : Supervisor α ε :=
  { state with
    point := .exited value
    stopped := true
    cancellation := true
    deadline := state.deadline.cancel
    heartbeat := if state.observed then state.heartbeat.cancel else state.heartbeat }

/-- Both events are set, then the run is awaited. -/
def shutDown (state : Supervisor α ε) (next : SupervisorEnd α ε) : Supervisor α ε :=
  { state with point := .shuttingDown next, stopped := true, cancellation := true }

/-- `run_task.result()` and what follows it. -/
def settle (state : Supervisor α ε) : ThreadEnd α ε → Supervisor α ε
  | .returned value => state.leave (.returned value)
  | .nothing => state.leave .noResult
  | .raised error => state.leave (.raised error)
  | .cancelled => state.shutDown .cancelled

/-- `await heartbeat` once it is done, for a run that has ended. -/
def heard (state : Supervisor α ε) (ending : ThreadEnd α ε) : HeartbeatEnd → Supervisor α ε
  | .stopped => state.settle ending
  | .lost => state.leave .leaseLost
  | .raised => state.leave .heartbeatRaised
  | .cancelled => state.shutDown .cancelled

/-- The run is done, and the heartbeat and the deadline are told to stop. -/
def told (state : Supervisor α ε) : Supervisor α ε :=
  { state with stopped := true, deadline := state.deadline.cancel }

/-- The branch of a run that is done. -/
def runDone (state : Supervisor α ε) (ending : ThreadEnd α ε) : Supervisor α ε :=
  if state.observed then
    match state.heartbeat with
    | .ended value => state.told.heard ending value
    | _ => { state.told with point := .awaitingHeartbeat ending }
  else state.told.settle ending

/-- The branch of the deadline, the last one of the loop. -/
def checkDeadline (state : Supervisor α ε) : Supervisor α ε :=
  if state.deadline = .passed then state.shutDown .timedOut else state

/-- The branches of a run that is not done. -/
def checkHeartbeat (state : Supervisor α ε) : Supervisor α ε :=
  if state.observed then
    match state.heartbeat with
    -- the task has only seen the stop event: go on without it
    | .ended .stopped => { state with observed := false }.checkDeadline
    | .ended .lost => { state with deadline := state.deadline.cancel }.shutDown .leaseLost
    | .ended .raised => state.leave .heartbeatRaised
    | .ended .cancelled => state.shutDown .cancelled
    | .waiting | .renewing | .cancelling => state.checkDeadline
  else state.checkDeadline

/-- One of the awaited tasks is done. -/
def ready (state : Supervisor α ε) : Bool :=
  state.run.isSome || state.deadline = .passed ||
    (state.observed && match state.heartbeat with
      | .ended _ => true
      | _ => false)

/-- The supervisor goes on from where it awaits. -/
def resumed (state : Supervisor α ε) : Option (Supervisor α ε) :=
  match state.point with
  | .watching =>
    if state.ready then
      some (match state.run with
        | some ending => state.runDone ending
        | none => state.checkHeartbeat)
    else none
  | .awaitingHeartbeat ending =>
    match state.heartbeat with
    | .ended value => some (state.heard ending value)
    | _ => none
  -- the run is done, or the grace has passed
  | .shuttingDown next => some (state.leave next)
  | .exited _ => none

/-- The supervisor is cancelled.  A cancelled `await` cancels the task that it
awaits; a cancelled shutdown is over. -/
def cancelled (state : Supervisor α ε) : Option (Supervisor α ε) :=
  match state.point with
  | .watching => some (state.shutDown .cancelled)
  | .awaitingHeartbeat _ =>
    some ({ state with heartbeat := state.heartbeat.cancelAwaited }.shutDown .cancelled)
  | .shuttingDown next => some (state.leave next)
  | .exited _ => none

end Supervisor

/-- One step of the supervisor, of its tasks or of the thread; `none` where it cannot be
taken. -/
def supervisorStep (state : Supervisor α ε) : SupervisorStep α ε → Option (Supervisor α ε)
  | .threadEnds ending =>
    if state.run.isNone then some { state with run := some ending } else none
  | .waited answer =>
    if state.heartbeat = .waiting then
      some { state with heartbeat := match answer with
        | some true => .ended .stopped
        | some false => .renewing
        | none => .ended .raised }
    else none
  | .renewed answer =>
    if state.heartbeat = .renewing then
      some { state with heartbeat := match answer with
        | some true => .waiting
        -- an exception is caught, and counts as a lost lease
        | some false | none => .ended .lost }
    else none
  | .heartbeatEnds value =>
    if state.heartbeat = .cancelling then some { state with heartbeat := .ended value } else none
  | .deadlinePasses =>
    if state.deadline = .pending then some { state with deadline := .passed } else none
  | .resume => state.resumed
  | .cancel => state.cancelled

/-- `_run_claimed_with_lease`. -/
def supervisorMachine (α ε : Type) : Machine (Supervisor α ε) (SupervisorStep α ε) where
  initial state := state = .initial
  step := supervisorStep

/-! ## How it ends -/

/-- What an end says about the heartbeat, the run and the deadline. -/
def SupervisorEnd.Explained (state : Supervisor α ε) : SupervisorEnd α ε → Prop
  | .returned value => state.run = some (.returned value) ∧ state.heartbeat = .ended .stopped
  | .noResult => state.run = some .nothing ∧ state.heartbeat = .ended .stopped
  | .raised error => state.run = some (.raised error) ∧ state.heartbeat = .ended .stopped
  | .leaseLost => state.heartbeat = .ended .lost
  | .timedOut => state.deadline = .passed
  | .heartbeatRaised => state.heartbeat = .ended .raised
  | .cancelled => True

/-- What has ended stays as it ended. -/
structure Supervisor.Persists (state next : Supervisor α ε) : Prop where
  run : ∀ ending, state.run = some ending → next.run = some ending
  heartbeat : ∀ value, state.heartbeat = .ended value → next.heartbeat = .ended value
  deadline : state.deadline = .passed → next.deadline = .passed

theorem Heartbeat.cancel_ended {heartbeat : Heartbeat} {value : HeartbeatEnd}
    (h : heartbeat = .ended value) : heartbeat.cancel = .ended value := by
  rw [h, Heartbeat.cancel]

theorem Heartbeat.cancelAwaited_ended {heartbeat : Heartbeat} {value : HeartbeatEnd}
    (h : heartbeat = .ended value) : heartbeat.cancelAwaited = .ended value := by
  rw [h, Heartbeat.cancelAwaited]

/-- After `heartbeat.cancel()` the heartbeat has ended or has been told to. -/
theorem Heartbeat.ended_or_cancelling (heartbeat : Heartbeat) :
    (∃ value, heartbeat.cancel = .ended value) ∨ heartbeat.cancel = .cancelling := by
  cases heartbeat with
  | ended value => exact .inl ⟨value, rfl⟩
  | waiting | renewing | cancelling => exact .inr rfl

theorem Deadline.cancel_passed {deadline : Deadline} (h : deadline = .passed) :
    deadline.cancel = .passed := by
  rw [h, Deadline.cancel]

theorem Deadline.cancel_ne_pending (deadline : Deadline) : deadline.cancel ≠ .pending := by
  cases deadline <;> decide

theorem Supervisor.leave_persists (state : Supervisor α ε) (value : SupervisorEnd α ε) :
    state.Persists (state.leave value) where
  run _ h := h
  heartbeat ended h := by
    show (if state.observed then state.heartbeat.cancel else state.heartbeat) = .ended ended
    split
    · exact Heartbeat.cancel_ended h
    · exact h
  deadline h := Deadline.cancel_passed h

namespace Supervisor.Persists

variable {state next : Supervisor α ε}

theorem settle (state : Supervisor α ε) (ending : ThreadEnd α ε) :
    state.Persists (state.settle ending) := by
  cases ending with
  | returned | nothing | raised => exact state.leave_persists _
  | cancelled => exact ⟨fun _ h => h, fun _ h => h, fun h => h⟩

theorem heard (state : Supervisor α ε) (ending : ThreadEnd α ε) (value : HeartbeatEnd) :
    state.Persists (state.heard ending value) := by
  cases value with
  | stopped => exact settle state ending
  | lost | raised => exact state.leave_persists _
  | cancelled => exact ⟨fun _ h => h, fun _ h => h, fun h => h⟩

/-- What is told of a state with its deadline cancelled holds of the state. -/
theorem told (h : state.told.Persists next) : state.Persists next where
  run := h.run
  heartbeat := h.heartbeat
  deadline hpassed := h.deadline (Deadline.cancel_passed hpassed)

theorem runDone (state : Supervisor α ε) (ending : ThreadEnd α ε) :
    state.Persists (state.runDone ending) := by
  unfold Supervisor.runDone
  split
  · split
    · exact (heard state.told ending _).told
    · exact ⟨fun _ h => h, fun _ h => h, Deadline.cancel_passed⟩
  · exact (settle state.told ending).told

theorem checkDeadline (state : Supervisor α ε) : state.Persists state.checkDeadline := by
  unfold Supervisor.checkDeadline
  split <;> exact ⟨fun _ h => h, fun _ h => h, fun h => h⟩

theorem checkHeartbeat (state : Supervisor α ε) : state.Persists state.checkHeartbeat := by
  unfold Supervisor.checkHeartbeat
  split
  · split
    · have hrest := Persists.checkDeadline { state with observed := false }
      exact ⟨hrest.run, hrest.heartbeat, hrest.deadline⟩
    · exact ⟨fun _ h => h, fun _ h => h, Deadline.cancel_passed⟩
    · exact state.leave_persists _
    · exact ⟨fun _ h => h, fun _ h => h, fun h => h⟩
    · exact checkDeadline state
    · exact checkDeadline state
    · exact checkDeadline state
  · exact checkDeadline state

end Supervisor.Persists

/-- No step changes how a task has ended. -/
theorem supervisorStep_persists {state next : Supervisor α ε} {label : SupervisorStep α ε}
    (h : supervisorStep state label = some next) : state.Persists next := by
  cases label with
  | threadEnds ending =>
      simp only [supervisorStep] at h
      split at h
      · rename_i hrunning
        cases h
        refine ⟨fun _ hended => ?_, fun _ hsame => hsame, fun hsame => hsame⟩
        rw [hended] at hrunning
        cases hrunning
      · cases h
  | waited answer =>
      simp only [supervisorStep] at h
      split at h
      · rename_i hwaiting
        cases h
        refine ⟨fun _ hsame => hsame, fun _ hended => ?_, fun hsame => hsame⟩
        rw [hwaiting] at hended
        cases hended
      · cases h
  | renewed answer =>
      simp only [supervisorStep] at h
      split at h
      · rename_i hrenewing
        cases h
        refine ⟨fun _ hsame => hsame, fun _ hended => ?_, fun hsame => hsame⟩
        rw [hrenewing] at hended
        cases hended
      · cases h
  | heartbeatEnds value =>
      simp only [supervisorStep] at h
      split at h
      · rename_i hcancelling
        cases h
        refine ⟨fun _ hsame => hsame, fun _ hended => ?_, fun hsame => hsame⟩
        rw [hcancelling] at hended
        cases hended
      · cases h
  | deadlinePasses =>
      simp only [supervisorStep] at h
      split at h
      · cases h
        exact ⟨fun _ hsame => hsame, fun _ hsame => hsame, fun _ => rfl⟩
      · cases h
  | resume =>
      simp only [supervisorStep, Supervisor.resumed] at h
      split at h
      · split at h <;> cases h
        split
        · exact .runDone state _
        · exact .checkHeartbeat state
      · split at h <;> cases h
        exact .heard state _ _
      · cases h
        exact state.leave_persists _
      · cases h
  | cancel =>
      simp only [supervisorStep, Supervisor.cancelled] at h
      split at h <;> cases h
      · exact ⟨fun _ hsame => hsame, fun _ hsame => hsame, fun hsame => hsame⟩
      · exact ⟨fun _ hsame => hsame, fun _ => Heartbeat.cancelAwaited_ended, fun hsame => hsame⟩
      · exact state.leave_persists _

theorem SupervisorEnd.Explained.mono {state next : Supervisor α ε} (hlater : state.Persists next)
    {value : SupervisorEnd α ε} (h : value.Explained state) : value.Explained next := by
  cases value with
  | returned | noResult | raised => exact ⟨hlater.run _ h.1, hlater.heartbeat _ h.2⟩
  | leaseLost | heartbeatRaised => exact hlater.heartbeat _ h
  | timedOut => exact hlater.deadline h
  | cancelled => exact trivial

/-! ## What holds wherever it awaits -/

/-- What holds of the state at each place where the supervisor awaits, and when it has
ended. -/
structure SupervisorInvariant (state : Supervisor α ε) : Prop where
  /-- The variable is cleared only for a heartbeat that was told to stop. -/
  unobserved : state.observed = false → state.heartbeat = .ended .stopped
  /-- While the supervisor watches, nothing is cancelled and nobody is told anything. -/
  watching : state.point = .watching → state.deadline ≠ .cancelled ∧
    state.heartbeat.isCancelled = false ∧ state.stopped = false ∧ state.cancellation = false
  awaiting : ∀ ending, state.point = .awaitingHeartbeat ending → state.run = some ending ∧
    state.heartbeat.isCancelled = false ∧ state.observed = true ∧ state.stopped = true
  shuttingDown : ∀ next, state.point = .shuttingDown next →
    state.stopped = true ∧ state.cancellation = true ∧ next.Explained state
  exited : ∀ value, state.point = .exited value →
    state.stopped = true ∧ state.cancellation = true ∧ state.deadline ≠ .pending ∧
      ((∃ ending, state.heartbeat = .ended ending) ∨ state.heartbeat = .cancelling) ∧
      value.Explained state

namespace SupervisorInvariant

variable {state next : Supervisor α ε}

theorem initial : SupervisorInvariant (.initial : Supervisor α ε) where
  unobserved h := by cases h
  watching _ := ⟨Deadline.noConfusion, rfl, rfl, rfl⟩
  awaiting _ h := by cases h
  shuttingDown _ h := by cases h
  exited _ h := by cases h

/-- The `finally` block, for an end that the state explains. -/
theorem leave (hunobserved : state.observed = false → state.heartbeat = .ended .stopped)
    {value : SupervisorEnd α ε} (hvalue : value.Explained state) :
    SupervisorInvariant (state.leave value) where
  unobserved h := (state.leave_persists value).heartbeat _ (hunobserved h)
  watching h := by cases h
  awaiting _ h := by cases h
  shuttingDown _ h := by cases h
  exited _ h := by
    cases h
    refine ⟨rfl, rfl, state.deadline.cancel_ne_pending, ?_, hvalue.mono (state.leave_persists _)⟩
    show (∃ ending, (if state.observed then state.heartbeat.cancel else state.heartbeat) =
      .ended ending) ∨ (if state.observed then state.heartbeat.cancel else state.heartbeat) =
      .cancelling
    split
    · exact state.heartbeat.ended_or_cancelling
    · rename_i hcleared
      exact .inl ⟨_, hunobserved (by simpa using hcleared)⟩

theorem shutDown (hunobserved : state.observed = false → state.heartbeat = .ended .stopped)
    {value : SupervisorEnd α ε} (hvalue : value.Explained state) :
    SupervisorInvariant (state.shutDown value) where
  unobserved := hunobserved
  watching h := by cases h
  awaiting _ h := by cases h
  shuttingDown _ h := by
    cases h
    exact ⟨rfl, rfl, hvalue.mono ⟨fun _ h => h, fun _ h => h, fun h => h⟩⟩
  exited _ h := by cases h

/-- The result of the run is passed on only under a heartbeat that was told to stop. -/
theorem settle (hheartbeat : state.heartbeat = .ended .stopped) {ending : ThreadEnd α ε}
    (hrun : state.run = some ending) : SupervisorInvariant (state.settle ending) := by
  cases ending with
  | returned value => exact leave (fun _ => hheartbeat) ⟨hrun, hheartbeat⟩
  | nothing => exact leave (fun _ => hheartbeat) ⟨hrun, hheartbeat⟩
  | raised error => exact leave (fun _ => hheartbeat) ⟨hrun, hheartbeat⟩
  | cancelled => exact shutDown (fun _ => hheartbeat) trivial

theorem heard (hunobserved : state.observed = false → state.heartbeat = .ended .stopped)
    {ending : ThreadEnd α ε} (hrun : state.run = some ending) {value : HeartbeatEnd}
    (hheartbeat : state.heartbeat = .ended value) :
    SupervisorInvariant (state.heard ending value) := by
  cases value with
  | stopped => exact settle hheartbeat hrun
  | lost => exact leave hunobserved hheartbeat
  | raised => exact leave hunobserved hheartbeat
  | cancelled => exact shutDown hunobserved trivial

/-- The heartbeat is not done yet, and is awaited. -/
theorem awaitHeartbeat (h : SupervisorInvariant state) {ending : ThreadEnd α ε}
    (hrun : state.run = some ending) (hobserved : state.observed = true)
    (halive : state.heartbeat.isCancelled = false) :
    SupervisorInvariant { state.told with point := .awaitingHeartbeat ending } where
  unobserved := h.unobserved
  watching hpoint := by cases hpoint
  awaiting _ hpoint := by
    cases hpoint
    exact ⟨hrun, halive, hobserved, rfl⟩
  shuttingDown _ hpoint := by cases hpoint
  exited _ hpoint := by cases hpoint

theorem runDone (h : SupervisorInvariant state) (hpoint : state.point = .watching)
    {ending : ThreadEnd α ε} (hrun : state.run = some ending) :
    SupervisorInvariant (state.runDone ending) := by
  have hunobserved : state.told.observed = false → state.told.heartbeat = .ended .stopped :=
    h.unobserved
  unfold Supervisor.runDone
  split
  · rename_i hobserved
    split
    · rename_i value hheartbeat
      exact heard hunobserved hrun hheartbeat
    · obtain ⟨-, halive, -⟩ := h.watching hpoint
      exact h.awaitHeartbeat hrun hobserved halive
  · rename_i hcleared
    exact settle (hunobserved (eq_false_of_ne_true hcleared)) hrun

theorem checkDeadline (h : SupervisorInvariant state) :
    SupervisorInvariant state.checkDeadline := by
  unfold Supervisor.checkDeadline
  split
  · exact shutDown h.unobserved ‹_›
  · exact h

theorem checkHeartbeat (h : SupervisorInvariant state) (hpoint : state.point = .watching) :
    SupervisorInvariant state.checkHeartbeat := by
  unfold Supervisor.checkHeartbeat
  split
  · split
    · rename_i hheartbeat
      have hcleared : SupervisorInvariant { state with observed := false } := by
        refine ⟨fun _ => hheartbeat, h.watching, fun ending hother => ?_, h.shuttingDown,
          h.exited⟩
        rw [show state.point = .awaitingHeartbeat ending from hother] at hpoint
        cases hpoint
      exact hcleared.checkDeadline
    · rename_i hheartbeat
      refine shutDown ?_ hheartbeat
      exact h.unobserved
    · exact leave h.unobserved ‹_›
    · exact shutDown h.unobserved trivial
    · exact h.checkDeadline
    · exact h.checkDeadline
    · exact h.checkDeadline
  · exact h.checkDeadline

theorem resumed (h : SupervisorInvariant state) (hstep : state.resumed = some next) :
    SupervisorInvariant next := by
  unfold Supervisor.resumed at hstep
  split at hstep
  · rename_i hpoint
    split at hstep
    · cases hstep
      split
      · exact h.runDone hpoint ‹_›
      · exact h.checkHeartbeat hpoint
    · cases hstep
  · rename_i ending hpoint
    split at hstep
    · cases hstep
      exact heard h.unobserved (h.awaiting ending hpoint).1 ‹_›
    · cases hstep
  · rename_i value hpoint
    cases hstep
    exact leave h.unobserved (h.shuttingDown value hpoint).2.2
  · cases hstep

theorem cancelled (h : SupervisorInvariant state) (hstep : state.cancelled = some next) :
    SupervisorInvariant next := by
  unfold Supervisor.cancelled at hstep
  split at hstep
  · cases hstep
    exact shutDown h.unobserved trivial
  · cases hstep
    have hunobserved : state.observed = false → state.heartbeat.cancelAwaited = .ended .stopped :=
      fun hcleared => Heartbeat.cancelAwaited_ended (h.unobserved hcleared)
    refine shutDown ?_ trivial
    exact hunobserved
  · rename_i value hpoint
    cases hstep
    exact leave h.unobserved (h.shuttingDown value hpoint).2.2
  · cases hstep

/-- A step of the run, of the heartbeat or of the clock. -/
theorem outside (h : SupervisorInvariant state) (hlater : state.Persists next)
    (hpoint : next.point = state.point) (hobserved : next.observed = state.observed)
    (hstopped : next.stopped = state.stopped)
    (hcancellation : next.cancellation = state.cancellation)
    (halive : state.heartbeat.isCancelled = false → next.heartbeat.isCancelled = false)
    (htold : state.heartbeat = .cancelling →
      (∃ ending, next.heartbeat = .ended ending) ∨ next.heartbeat = .cancelling)
    (hcancelled : next.deadline = .cancelled → state.deadline = .cancelled)
    (hpending : next.deadline = .pending → state.deadline = .pending) :
    SupervisorInvariant next where
  unobserved hcleared := hlater.heartbeat _ (h.unobserved (hobserved ▸ hcleared))
  watching hwatching := by
    rw [hstopped, hcancellation]
    obtain ⟨hdeadline, hheartbeat, hrest⟩ := h.watching (hpoint ▸ hwatching)
    exact ⟨fun hother => hdeadline (hcancelled hother), halive hheartbeat, hrest⟩
  awaiting ending hother := by
    rw [hobserved, hstopped]
    obtain ⟨hrun, hheartbeat, hrest⟩ := h.awaiting ending (hpoint ▸ hother)
    exact ⟨hlater.run _ hrun, halive hheartbeat, hrest⟩
  shuttingDown value hother := by
    rw [hstopped, hcancellation]
    obtain ⟨hstop, hcancel, hexplained⟩ := h.shuttingDown value (hpoint ▸ hother)
    exact ⟨hstop, hcancel, hexplained.mono hlater⟩
  exited value hother := by
    rw [hstopped, hcancellation]
    obtain ⟨hstop, hcancel, hdeadline, hover, hexplained⟩ := h.exited value (hpoint ▸ hother)
    refine ⟨hstop, hcancel, fun hagain => hdeadline (hpending hagain), ?_,
      hexplained.mono hlater⟩
    rcases hover with ⟨ending, hended⟩ | hcancelling
    · exact .inl ⟨ending, hlater.heartbeat _ hended⟩
    · exact htold hcancelling

/-- Every step of the supervisor and of its tasks keeps the invariant. -/
theorem step (h : SupervisorInvariant state) {label : SupervisorStep α ε}
    (hstep : supervisorStep state label = some next) : SupervisorInvariant next := by
  have hpersists := supervisorStep_persists hstep
  cases label with
  | threadEnds ending =>
      simp only [supervisorStep] at hstep
      split at hstep <;> cases hstep
      exact h.outside hpersists rfl rfl rfl rfl (fun hsame => hsame) .inr (fun hsame => hsame)
        fun hsame => hsame
  | waited answer =>
      simp only [supervisorStep] at hstep
      split at hstep <;> cases hstep
      rename_i hwaiting
      refine h.outside hpersists rfl rfl rfl rfl (fun _ => ?_) (fun htold => ?_)
        (fun hsame => hsame) fun hsame => hsame
      · rcases answer with - | - | - <;> rfl
      · rw [hwaiting] at htold
        cases htold
  | renewed answer =>
      simp only [supervisorStep] at hstep
      split at hstep <;> cases hstep
      rename_i hrenewing
      refine h.outside hpersists rfl rfl rfl rfl (fun _ => ?_) (fun htold => ?_)
        (fun hsame => hsame) fun hsame => hsame
      · rcases answer with - | - | - <;> rfl
      · rw [hrenewing] at htold
        cases htold
  | heartbeatEnds value =>
      simp only [supervisorStep] at hstep
      split at hstep <;> cases hstep
      rename_i hcancelling
      refine h.outside hpersists rfl rfl rfl rfl (fun halive => ?_) (fun _ => .inl ⟨value, rfl⟩)
        (fun hsame => hsame) fun hsame => hsame
      rw [hcancelling] at halive
      cases halive
  | deadlinePasses =>
      simp only [supervisorStep] at hstep
      split at hstep <;> cases hstep
      exact h.outside hpersists rfl rfl rfl rfl (fun hsame => hsame) .inr Deadline.noConfusion
        Deadline.noConfusion
  | resume => exact h.resumed hstep
  | cancel => exact h.cancelled hstep

end SupervisorInvariant

theorem supervisorInvariant {state : Supervisor α ε}
    (h : (supervisorMachine α ε).Reachable state) : SupervisorInvariant state := by
  refine Machine.Reachable.invariant ?_ (fun _ _ _ _ hstate hstep => hstate.step hstep) h
  rintro state rfl
  exact .initial

end IntegraIntake
