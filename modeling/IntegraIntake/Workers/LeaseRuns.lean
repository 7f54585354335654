import IntegraIntake.Workers.FinalWrites
import IntegraIntake.Workers.LeaseSupervisor

/-!
# Runs of the supervisor

What a whole run of `_run_claimed_with_lease` comes to, from the invariant of
`Workers/LeaseSupervisor`: how it ends, what becomes of a cancellation, that it does
end, and what `serve_once` then writes.
-/

namespace IntegraIntake

open Library

variable {α ε : Type}

/-! ## Runs of the supervisor -/

/-- A renewal that returned `False` or raised. -/
def FailedRenewal (t : Supervisor α ε × SupervisorStep α ε × Supervisor α ε) : Prop :=
  ∃ answer, t.2.1 = .renewed answer ∧ answer ≠ some true

/-- A cancellation that is not swallowed by a shutdown. -/
def HeardCancel (t : Supervisor α ε × SupervisorStep α ε × Supervisor α ε) : Prop :=
  t.2.1 = .cancel ∧ ∀ next, t.1.point ≠ .shuttingDown next

/-- The supervisor is on its way to `CancelledError`, or has raised it. -/
def Supervisor.Cancelling (state : Supervisor α ε) : Prop :=
  state.point = .shuttingDown .cancelled ∨ state.point = .exited .cancelled

section Runs

variable {state final : Supervisor α ε}
  {transitions : List (Supervisor α ε × SupervisorStep α ε × Supervisor α ε)}

theorem initial_reachable : (supervisorMachine α ε).Reachable .initial := .initial rfl

theorem Supervisor.persists_of_path (h : (supervisorMachine α ε).Path state transitions final) :
    state.Persists final := by
  induction h with
  | nil => exact ⟨fun _ h => h, fun _ h => h, fun h => h⟩
  | cons hstep _ ih =>
      have hfirst := supervisorStep_persists hstep
      exact ⟨fun _ h => ih.run _ (hfirst.run _ h), fun _ h => ih.heartbeat _ (hfirst.heartbeat _ h),
        fun h => ih.deadline (hfirst.deadline h)⟩

/-- A failed renewal ends the heartbeat with a lost lease. -/
theorem FailedRenewal.lost {next : Supervisor α ε} {label : SupervisorStep α ε}
    (hstep : supervisorStep state label = some next) (h : FailedRenewal (state, label, next)) :
    next.heartbeat = .ended .lost := by
  obtain ⟨answer, hlabel, hanswer⟩ := h
  rw [show label = .renewed answer from hlabel] at hstep
  simp only [supervisorStep] at hstep
  split at hstep <;> cases hstep
  cases answer with
  | none => rfl
  | some kept =>
      cases kept with
      | true => exact absurd rfl hanswer
      | false => rfl

theorem lost_of_failedRenewal (h : (supervisorMachine α ε).Path state transitions final)
    {t : Supervisor α ε × SupervisorStep α ε × Supervisor α ε} (ht : t ∈ transitions)
    (hfailed : FailedRenewal t) : final.heartbeat = .ended .lost := by
  induction h with
  | nil => cases ht
  | cons hstep hrest ih =>
      rcases List.mem_cons.1 ht with rfl | hlater
      · exact (Supervisor.persists_of_path hrest).heartbeat _ (hfailed.lost hstep)
      · exact ih hlater

/-- After a failed renewal the end is a lost lease, a timeout or a cancellation. -/
theorem lostLease_ends (h : (supervisorMachine α ε).Path .initial transitions final)
    {value : SupervisorEnd α ε} (hend : final.point = .exited value)
    {t : Supervisor α ε × SupervisorStep α ε × Supervisor α ε} (ht : t ∈ transitions)
    (hfailed : FailedRenewal t) : value = .leaseLost ∨ value = .timedOut ∨ value = .cancelled := by
  have hlost := lost_of_failedRenewal h ht hfailed
  obtain ⟨-, -, -, -, hexplained⟩ :=
    (supervisorInvariant (h.reachable initial_reachable)).exited value hend
  -- every other end has another heartbeat
  have hother : ∀ ending, final.heartbeat = .ended ending → ending = .lost := by
    intro ending hended
    rw [hlost] at hended
    cases hended
    rfl
  cases value with
  | returned | noResult | raised => cases hother _ hexplained.2
  | heartbeatRaised => cases hother _ hexplained
  | leaseLost => exact .inl rfl
  | timedOut => exact .inr (.inl rfl)
  | cancelled => exact .inr (.inr rfl)

/-- How a supervised run ends, however the thread, the renewals, the deadline and
cancellations interleave.  Nothing is left running untold: both events are set, the
deadline has passed or was told to cancel, and the heartbeat has ended or was told to
cancel; the events are set before the thread is awaited.  A
result or an exception of the run is passed on only if the thread ended with it and
every renewal succeeded; after a failed renewal the end is a lost lease, a timeout
or a cancellation. -/
theorem supervised_run_ends (h : (supervisorMachine α ε).Path .initial transitions final)
    {value : SupervisorEnd α ε} (hend : final.point = .exited value) :
    (final.stopped = true ∧ final.cancellation = true ∧ final.deadline ≠ .pending ∧
        ((∃ ending, final.heartbeat = .ended ending) ∨ final.heartbeat = .cancelling)) ∧
      value.Explained final ∧
      (∀ t ∈ transitions, ∀ next, t.2.2.point = .shuttingDown next →
        t.2.2.stopped = true ∧ t.2.2.cancellation = true) ∧
      ((∃ t ∈ transitions, FailedRenewal t) →
        value = .leaseLost ∨ value = .timedOut ∨ value = .cancelled) := by
  have hreached := supervisorInvariant (h.reachable initial_reachable)
  obtain ⟨hstopped, hcancellation, hdeadline, hheartbeat, hexplained⟩ := hreached.exited value hend
  refine ⟨⟨hstopped, hcancellation, hdeadline, hheartbeat⟩, hexplained, ?_, ?_⟩
  · intro t ht next hshutting
    obtain ⟨hfrom, hstep⟩ := h.transition initial_reachable t ht
    obtain ⟨hstop, hcancel, -⟩ :=
      (supervisorInvariant (hfrom.step hstep)).shuttingDown next hshutting
    exact ⟨hstop, hcancel⟩
  · rintro ⟨t, ht, hfailed⟩
    exact lostLease_ends h hend ht hfailed

/-! ### Cancellations -/

/-- The other tasks do not move the supervisor. -/
theorem outside_point {next : Supervisor α ε} {label : SupervisorStep α ε}
    (h : supervisorStep state label = some next) (hown : label.isOwn = false) :
    next.point = state.point ∧ next.observed = state.observed := by
  cases label with
  | threadEnds _ | waited _ | renewed _ | heartbeatEnds _ | deadlinePasses =>
      simp only [supervisorStep] at h
      split at h <;> cases h
      exact ⟨rfl, rfl⟩
  | resume | cancel => cases hown

theorem leave_cancelling {value : SupervisorEnd α ε} (h : (state.leave value).Cancelling) :
    value = .cancelled := by
  rcases h with h | h <;> cases h
  rfl

theorem shutDown_cancelling {next : SupervisorEnd α ε} (h : (state.shutDown next).Cancelling) :
    next = .cancelled := by
  rcases h with h | h <;> cases h
  rfl

theorem settle_cancelling {ending : ThreadEnd α ε} (h : (state.settle ending).Cancelling) :
    ending = .cancelled := by
  cases ending with
  | returned | nothing | raised => cases leave_cancelling h
  | cancelled => rfl

theorem heard_cancelling {ending : ThreadEnd α ε} {value : HeartbeatEnd}
    (h : (state.heard ending value).Cancelling) : ending = .cancelled ∨ value = .cancelled := by
  cases value with
  | stopped => exact .inl (settle_cancelling h)
  | lost | raised => cases leave_cancelling h
  | cancelled => exact .inr rfl

theorem runDone_cancelling {ending : ThreadEnd α ε} (h : (state.runDone ending).Cancelling) :
    ending = .cancelled ∨ state.heartbeat = .ended .cancelled := by
  unfold Supervisor.runDone at h
  split at h
  · split at h
    · rename_i value hheartbeat
      refine (heard_cancelling h).imp_right ?_
      rintro rfl
      exact hheartbeat
    · rcases h with h | h <;> cases h
  · exact .inl (settle_cancelling h)

theorem checkDeadline_cancelling (hpoint : state.point = .watching) :
    ¬ state.checkDeadline.Cancelling := by
  unfold Supervisor.checkDeadline
  split
  · intro h
    cases shutDown_cancelling h
  · rintro (h | h) <;> rw [hpoint] at h <;> cases h

theorem checkHeartbeat_cancelling (hpoint : state.point = .watching)
    (h : state.checkHeartbeat.Cancelling) : state.heartbeat = .ended .cancelled := by
  unfold Supervisor.checkHeartbeat at h
  split at h
  · split at h
    · exact absurd h (checkDeadline_cancelling hpoint)
    · cases shutDown_cancelling h
    · cases leave_cancelling h
    · assumption
    · exact absurd h (checkDeadline_cancelling hpoint)
    · exact absurd h (checkDeadline_cancelling hpoint)
    · exact absurd h (checkDeadline_cancelling hpoint)
  · exact absurd h (checkDeadline_cancelling hpoint)

/-- Where a cancellation can come from. -/
theorem cancelling_of_step {next : Supervisor α ε} {label : SupervisorStep α ε}
    (hstate : SupervisorInvariant state) (hstep : supervisorStep state label = some next)
    (h : next.Cancelling) :
    state.Cancelling ∨ HeardCancel (state, label, next) ∨ state.run = some .cancelled := by
  cases label with
  | threadEnds _ | waited _ | renewed _ | heartbeatEnds _ | deadlinePasses =>
      obtain ⟨hpoint, -⟩ := outside_point hstep rfl
      rw [Supervisor.Cancelling, hpoint] at h
      exact .inl h
  | resume =>
      simp only [supervisorStep, Supervisor.resumed] at hstep
      split at hstep
      · rename_i hpoint
        obtain ⟨-, halive, -⟩ := hstate.watching hpoint
        split at hstep <;> cases hstep
        split at h
        · rename_i ending hrun
          rcases runDone_cancelling h with rfl | hended
          · exact .inr (.inr hrun)
          · rw [hended] at halive
            cases halive
        · rw [checkHeartbeat_cancelling hpoint h] at halive
          cases halive
      · rename_i ending hpoint
        obtain ⟨hrun, halive, -⟩ := hstate.awaiting ending hpoint
        split at hstep <;> cases hstep
        rename_i value hheartbeat
        rcases heard_cancelling h with rfl | rfl
        · exact .inr (.inr hrun)
        · rw [hheartbeat] at halive
          cases halive
      · rename_i value hpoint
        cases hstep
        rw [leave_cancelling h] at hpoint
        exact .inl (.inl hpoint)
      · cases hstep
  | cancel =>
      by_cases hshutting : ∃ value, state.point = .shuttingDown value
      · obtain ⟨value, hpoint⟩ := hshutting
        simp only [supervisorStep, Supervisor.cancelled, hpoint] at hstep
        cases hstep
        rw [leave_cancelling h] at hpoint
        exact .inl (.inl hpoint)
      · exact .inr (.inl ⟨rfl, fun value hpoint => hshutting ⟨value, hpoint⟩⟩)

/-- A cancellation that is heard is not forgotten. -/
theorem step_cancelling {next : Supervisor α ε} {label : SupervisorStep α ε}
    (hstep : supervisorStep state label = some next)
    (h : state.Cancelling ∨ HeardCancel (state, label, next)) : next.Cancelling := by
  rcases h with h | ⟨hlabel, hnot⟩
  · cases label with
    | threadEnds _ | waited _ | renewed _ | heartbeatEnds _ | deadlinePasses =>
        obtain ⟨hpoint, -⟩ := outside_point hstep rfl
        rwa [Supervisor.Cancelling, hpoint]
    | resume =>
        rcases h with h | h <;> simp only [supervisorStep, Supervisor.resumed, h] at hstep
        · cases hstep
          exact .inr rfl
        · cases hstep
    | cancel =>
        rcases h with h | h <;> simp only [supervisorStep, Supervisor.cancelled, h] at hstep
        · cases hstep
          exact .inr rfl
        · cases hstep
  · rw [show label = .cancel from hlabel] at hstep
    simp only [supervisorStep, Supervisor.cancelled] at hstep
    split at hstep
    · cases hstep
      exact .inl rfl
    · cases hstep
      exact .inl rfl
    · rename_i value hpoint
      exact absurd hpoint (hnot value)
    · cases hstep

theorem cancelling_iff_heard (h : (supervisorMachine α ε).Path .initial transitions final) :
    ((∃ t ∈ transitions, HeardCancel t) → final.Cancelling) ∧
      (final.Cancelling → (∃ t ∈ transitions, HeardCancel t) ∨ final.run = some .cancelled) := by
  refine h.history (P := fun past state => ((∃ t ∈ past, HeardCancel t) → state.Cancelling) ∧
    (state.Cancelling → (∃ t ∈ past, HeardCancel t) ∨ state.run = some .cancelled)) ?_ ?_
  · refine ⟨fun ⟨t, ht, _⟩ => absurd ht List.not_mem_nil, ?_⟩
    rintro (h | h) <;> cases h
  · intro past middle label next hpast hmiddle hstep
    constructor
    · rintro ⟨t, ht, hheard⟩
      rcases List.mem_append.1 ht with hearlier | hlast
      · exact step_cancelling hstep (.inl (hmiddle.1 ⟨t, hearlier, hheard⟩))
      · rw [List.mem_singleton.1 hlast] at hheard
        exact step_cancelling hstep (.inr hheard)
    · intro hcancelling
      have hinvariant := supervisorInvariant (hpast.reachable initial_reachable)
      have hkeep := (supervisorStep_persists hstep).run
      rcases cancelling_of_step hinvariant hstep hcancelling with hbefore | hheard | hrun
      · rcases hmiddle.2 hbefore with ⟨t, ht, hheard⟩ | hrun
        · exact .inl ⟨t, List.mem_append_left _ ht, hheard⟩
        · exact .inr (hkeep _ hrun)
      · exact .inl ⟨_, List.mem_append_right _ (List.mem_singleton_self _), hheard⟩
      · exact .inr (hkeep _ hrun)

/-- A cancellation that arrives before any shutdown has begun always comes through;
one during the grace of a shutdown never does.  So the call ends with
`CancelledError` only after such a cancellation, or if the thread itself ended with
that error. -/
theorem supervised_run_cancelled
    (h : (supervisorMachine α ε).Path .initial transitions final) {value : SupervisorEnd α ε}
    (hend : final.point = .exited value) :
    ((∃ t ∈ transitions, HeardCancel t) → value = .cancelled) ∧
      (value = .cancelled → (∃ t ∈ transitions, HeardCancel t) ∨ final.run = some .cancelled) := by
  obtain ⟨hheard, honly⟩ := cancelling_iff_heard h
  constructor
  · intro hcancel
    rcases hheard hcancel with hpoint | hpoint <;> rw [hend] at hpoint <;> cases hpoint
    rfl
  · rintro rfl
    exact honly (.inr hend)

/-! ### Termination -/

/-- How far the supervisor has come. -/
def Supervisor.rank (state : Supervisor α ε) : ℕ :=
  match state.point with
  | .watching => if state.observed then 0 else 1
  | .awaitingHeartbeat _ => 1
  | .shuttingDown _ => 2
  | .exited _ => 3

theorem rank_shutDown (next : SupervisorEnd α ε) : (state.shutDown next).rank = 2 := rfl

theorem rank_leave (value : SupervisorEnd α ε) : (state.leave value).rank = 3 := rfl

theorem two_le_rank_settle (ending : ThreadEnd α ε) : 2 ≤ (state.settle ending).rank := by
  cases ending with
  | returned | nothing | raised => exact Nat.le_succ 2
  | cancelled => exact le_rfl

theorem two_le_rank_heard (ending : ThreadEnd α ε) (value : HeartbeatEnd) :
    2 ≤ (state.heard ending value).rank := by
  cases value with
  | stopped => exact two_le_rank_settle ending
  | lost | raised => exact Nat.le_succ 2
  | cancelled => exact le_rfl

theorem rank_watching (hpoint : state.point = .watching) :
    state.rank = if state.observed then 0 else 1 := by
  rw [Supervisor.rank, hpoint]

theorem rank_lt_runDone (hpoint : state.point = .watching) (ending : ThreadEnd α ε) :
    state.rank < (state.runDone ending).rank := by
  rw [rank_watching hpoint]
  unfold Supervisor.runDone
  split
  · split
    · exact Nat.lt_of_lt_of_le Nat.zero_lt_two (two_le_rank_heard ending _)
    · exact Nat.zero_lt_one
  · exact two_le_rank_settle ending

/-- A deadline that has passed is not overlooked. -/
theorem rank_lt_checkDeadline (hpoint : state.point = .watching)
    (hpassed : state.deadline = .passed) : state.rank < state.checkDeadline.rank := by
  rw [rank_watching hpoint, Supervisor.checkDeadline, if_pos hpassed, rank_shutDown]
  split <;> decide

theorem rank_lt_checkHeartbeat (hpoint : state.point = .watching) (hrun : state.run = none)
    (hready : state.ready = true) : state.rank < state.checkHeartbeat.rank := by
  unfold Supervisor.ready at hready
  unfold Supervisor.checkHeartbeat
  split
  · rename_i hobserved
    split
    · have hcleared : Supervisor.rank { state with observed := false } = 1 := rank_watching hpoint
      rw [rank_watching hpoint, if_pos hobserved, Supervisor.checkDeadline]
      split
      · exact Nat.zero_lt_two
      · rw [hcleared]
        exact Nat.zero_lt_one
    · rw [rank_watching hpoint, if_pos hobserved]
      exact Nat.zero_lt_two
    · rw [rank_watching hpoint, if_pos hobserved]
      exact Nat.zero_lt_succ 2
    · rw [rank_watching hpoint, if_pos hobserved]
      exact Nat.zero_lt_two
    · rename_i hheartbeat
      exact rank_lt_checkDeadline hpoint (by simpa [hrun, hheartbeat] using hready)
    · rename_i hheartbeat
      exact rank_lt_checkDeadline hpoint (by simpa [hrun, hheartbeat] using hready)
    · rename_i hheartbeat
      exact rank_lt_checkDeadline hpoint (by simpa [hrun, hheartbeat] using hready)
  · rename_i hcleared
    exact rank_lt_checkDeadline hpoint (by simpa [hrun, hcleared] using hready)

/-- The supervisor never goes around in place: whenever it goes on, it has come
further, and nothing else moves it. -/
theorem rank_step {next : Supervisor α ε} {label : SupervisorStep α ε}
    (hstep : supervisorStep state label = some next) :
    state.rank ≤ next.rank ∧ (label.isOwn = true → state.rank < next.rank) := by
  have hown : label.isOwn = true → state.rank < next.rank := by
    intro hown
    cases label with
    | threadEnds _ | waited _ | renewed _ | heartbeatEnds _ | deadlinePasses => cases hown
    | resume =>
        simp only [supervisorStep, Supervisor.resumed] at hstep
        split at hstep
        · rename_i hpoint
          split at hstep <;> cases hstep
          split
          · exact rank_lt_runDone hpoint _
          · exact rank_lt_checkHeartbeat hpoint ‹_› ‹_›
        · rename_i ending hpoint
          split at hstep <;> cases hstep
          rw [Supervisor.rank, hpoint]
          exact two_le_rank_heard ending _
        · rename_i value hpoint
          cases hstep
          rw [rank_leave, Supervisor.rank, hpoint]
          exact Nat.lt_succ_self 2
        · cases hstep
    | cancel =>
        simp only [supervisorStep, Supervisor.cancelled] at hstep
        split at hstep
        · rename_i hpoint
          cases hstep
          rw [rank_shutDown, rank_watching hpoint]
          split <;> decide
        · rename_i ending hpoint
          cases hstep
          rw [rank_shutDown, Supervisor.rank, hpoint]
          exact Nat.one_lt_two
        · rename_i value hpoint
          cases hstep
          rw [rank_leave, Supervisor.rank, hpoint]
          exact Nat.lt_succ_self 2
        · cases hstep
  refine ⟨?_, hown⟩
  cases hlabel : label.isOwn with
  | true => exact (hown hlabel).le
  | false =>
      obtain ⟨hpoint, hobserved⟩ := outside_point hstep hlabel
      rw [Supervisor.rank, Supervisor.rank, hpoint, hobserved]

theorem resume_of_ready (hpoint : state.point = .watching) (hready : state.ready = true) :
    ∃ next, supervisorStep state .resume = some next := by
  simp only [supervisorStep, Supervisor.resumed, hpoint, hready, if_true]
  exact ⟨_, rfl⟩

theorem resume_of_heartbeat (ending : ThreadEnd α ε) {value : HeartbeatEnd}
    (hpoint : state.point = .awaitingHeartbeat ending)
    (hheartbeat : state.heartbeat = .ended value) :
    ∃ next, supervisorStep state .resume = some next := by
  simp only [supervisorStep, Supervisor.resumed, hpoint, hheartbeat]
  exact ⟨_, rfl⟩

/-- A timer or the heartbeat is all that the supervisor has to wait for. -/
theorem resume_or_wait (hstate : SupervisorInvariant state)
    (hnot : ∀ value, state.point ≠ .exited value) :
    (∃ next, supervisorStep state .resume = some next) ∨
      ∃ label middle, label.isThreadEnd = false ∧ supervisorStep state label = some middle ∧
        ∃ next, supervisorStep middle .resume = some next := by
  cases hpoint : state.point with
  | watching =>
      obtain ⟨hdeadline, -⟩ := hstate.watching hpoint
      cases htimer : state.deadline with
      | cancelled => exact absurd htimer hdeadline
      | passed => exact .inl (resume_of_ready hpoint (by simp [Supervisor.ready, htimer]))
      | pending =>
          refine .inr ⟨.deadlinePasses, _, rfl, if_pos htimer, resume_of_ready ?_ ?_⟩
          · exact hpoint
          · simp [Supervisor.ready]
  | awaitingHeartbeat ending =>
      cases hheartbeat : state.heartbeat with
      | ended value => exact .inl (resume_of_heartbeat ending hpoint hheartbeat)
      | waiting =>
          exact .inr ⟨.waited (some true), _, rfl, if_pos hheartbeat,
            resume_of_heartbeat ending hpoint rfl⟩
      | renewing =>
          exact .inr ⟨.renewed none, _, rfl, if_pos hheartbeat,
            resume_of_heartbeat ending hpoint rfl⟩
      | cancelling =>
          obtain ⟨-, halive, -⟩ := hstate.awaiting ending hpoint
          rw [hheartbeat] at halive
          cases halive
  | shuttingDown next =>
      refine .inl ⟨state.leave next, ?_⟩
      simp only [supervisorStep, Supervisor.resumed, hpoint]
  | exited value => exact absurd hpoint (hnot value)

theorem exits_without_thread (n : ℕ) (hstate : SupervisorInvariant state)
    (hrank : 3 ≤ state.rank + n) :
    ∃ labels last value, (∀ label ∈ labels, label.isThreadEnd = false) ∧
      (supervisorMachine α ε).run state labels = some last ∧ last.point = .exited value := by
  induction n generalizing state with
  | zero =>
      refine ⟨[], state, ?_⟩
      unfold Supervisor.rank at hrank
      split at hrank
      · split at hrank <;> omega
      · omega
      · omega
      · exact ⟨_, fun _ hlabel => absurd hlabel List.not_mem_nil, rfl, ‹_›⟩
  | succ n ih =>
      by_cases hexited : ∃ value, state.point = .exited value
      · obtain ⟨value, hpoint⟩ := hexited
        exact ⟨[], state, value, fun _ hlabel => absurd hlabel List.not_mem_nil, rfl, hpoint⟩
      · rcases resume_or_wait hstate fun value hpoint => hexited ⟨value, hpoint⟩ with
          ⟨next, hnext⟩ | ⟨label, middle, hlabel, hmiddle, next, hnext⟩
        · have hfurther := (rank_step hnext).2 rfl
          obtain ⟨labels, last, value, hlabels, hrun, hlast⟩ := ih (hstate.step hnext) (by omega)
          refine ⟨.resume :: labels, last, value, List.forall_mem_cons.2 ⟨rfl, hlabels⟩, ?_, hlast⟩
          rw [Machine.run, show (supervisorMachine α ε).step state .resume = some next from hnext]
          exact hrun
        · have hwaited := (rank_step hmiddle).1
          have hfurther := (rank_step hnext).2 rfl
          obtain ⟨labels, last, value, hlabels, hrun, hlast⟩ :=
            ih ((hstate.step hmiddle).step hnext) (by omega)
          refine ⟨label :: .resume :: labels, last, value,
            List.forall_mem_cons.2 ⟨hlabel, List.forall_mem_cons.2 ⟨rfl, hlabels⟩⟩, ?_, hlast⟩
          rw [Machine.run, show (supervisorMachine α ε).step state label = some middle from hmiddle,
            Option.bind_some, Machine.run,
            show (supervisorMachine α ε).step middle .resume = some next from hnext]
          exact hrun

/-- The supervisor goes on at most three times in a run, so it never spins, also not
on a heartbeat that has ended; and wherever it awaits it can still end without the
thread. -/
theorem supervised_run_bounded
    (h : (supervisorMachine α ε).Path .initial transitions final) :
    transitions.countP (fun t => t.2.1.isOwn) ≤ 3 ∧
      ∃ labels last value, (∀ label ∈ labels, label.isThreadEnd = false) ∧
        (supervisorMachine α ε).run final labels = some last ∧ last.point = .exited value := by
  constructor
  · have hcount : transitions.countP (fun t => t.2.1.isOwn) +
        Supervisor.rank (.initial : Supervisor α ε) ≤ final.rank :=
      Machine.Path.countP_add_rank_le (fun _ _ _ _ hstep => rank_step hstep) h initial_reachable
    have hlimit : final.rank ≤ 3 := by
      unfold Supervisor.rank
      split
      · split <;> omega
      · omega
      · omega
      · omega
    exact (Nat.le_of_add_right_le hcount).trans hlimit
  · exact exits_without_thread 3 (supervisorInvariant (h.reachable initial_reachable)) (by omega)

end Runs

/-! ## In `serve_once` -/

/-- What the handlers of `serve_once` are given; a cancellation passes them by. -/
def SupervisorEnd.ending? : SupervisorEnd RunValue ClaimError → Option (Except ClaimError RunValue)
  | .returned value => some (.ok value)
  | .raised error => some (.error error)
  | .noResult | .heartbeatRaised => some (.error .other)
  | .leaseLost => some (.error .jobLeaseLost)
  | .timedOut => some (.error (.retryable .workerTimeout false))
  | .cancelled => none

/-- What `serve_once` has committed for a claim when the supervised run committed
`commits` and ended with `value`: a cancelled one leaves it at that. -/
def AgentWorker.supervisedCommits (outside : Outside) (claim : AgentJob) (commits : List (Db × Db))
    (own : ∀ commit ∈ commits, RunTransaction claim commit.1 commit.2)
    (value : SupervisorEnd RunValue ClaimError) : List (Db × Db) :=
  match value.ending? with
  | some ending => (serveOnce outside ⟨commits, ending, own⟩).2.commits
  | none => commits

/-- The writes that may follow the job deadline. -/
def AfterTimeout (write : FinalWrite) : Prop :=
  write = .uncertain WorkerErrorCode.sideEffectCommitted.value ∨
    write = .fail WorkerErrorCode.retryExhausted.value ∨
    write = .retry WorkerErrorCode.workerTimeout.value

theorem afterTimeout_of_writes {maxRetries attemptCount : ℕ} {write : FinalWrite}
    (h : (RunEnd.retryable RetryCode.workerTimeout.code.value).Writes maxRetries attemptCount
      write) : AfterTimeout write := by
  rcases h with rfl | rfl
  · exact .inl rfl
  · rw [RunEnd.cleanWrite]
    split
    · exact .inr (.inl rfl)
    · exact .inr (.inr rfl)

/-- In a run whose lease a renewal has failed to keep, `serve_once` never persists
what the run came to: it commits nothing of its own after a lost lease and after a
cancellation, and after the deadline only a retry, an exhausted retry or an uncertain
side effect. -/
theorem serveOnce_after_failedRenewal (outside : Outside) {claim : AgentJob}
    {commits : List (Db × Db)} (own : ∀ commit ∈ commits, RunTransaction claim commit.1 commit.2)
    {final : Supervisor RunValue ClaimError}
    {transitions : List (Supervisor RunValue ClaimError × SupervisorStep RunValue ClaimError ×
      Supervisor RunValue ClaimError)}
    (h : (supervisorMachine RunValue ClaimError).Path .initial transitions final)
    {value : SupervisorEnd RunValue ClaimError} (hend : final.point = .exited value)
    (hfailed : ∃ t ∈ transitions, FailedRenewal t) :
    ∀ commit ∈ AgentWorker.supervisedCommits outside claim commits own value, commit ∈ commits ∨
      value = .timedOut ∧ ∃ write now availableAt, AfterTimeout write ∧
        write.run claim now availableAt commit.1 = (.ok (), commit.2) := by
  obtain ⟨t, ht, hlost⟩ := hfailed
  intro commit hcommit
  rcases lostLease_ends h hend ht hlost with rfl | rfl | rfl
  · refine (AgentWorker.serveOnce_commits outside _ commit hcommit).imp_right ?_
    -- nothing is written for a lost lease
    rintro ⟨ending, hof, -⟩
    cases hof
  · refine (AgentWorker.serveOnce_commits outside _ commit hcommit).imp_right ?_
    rintro ⟨ending, hof, write, now, availableAt, hwrites, hrun⟩
    cases hof
    exact ⟨rfl, write, now, availableAt, afterTimeout_of_writes hwrites, hrun⟩
  · exact .inl hcommit

/-! ## A late renewal -/

/-- The deadline passes, and a renewal fails during the grace of the shutdown. -/
def lateRenewal {α ε : Type} : List (SupervisorStep α ε) :=
  [.deadlinePasses, .resume, .waited (some false), .renewed (some false), .resume]

/-- Where that run ends. -/
def lateSupervisor {α ε : Type} : Supervisor α ε :=
  ⟨.exited .timedOut, none, .ended .lost, true, .passed, true, true⟩

theorem lateRenewal_path (α ε : Type) : ∃ transitions,
    (supervisorMachine α ε).Path .initial transitions lateSupervisor ∧
      transitions.map (fun t => t.2.1) = lateRenewal :=
  Machine.Path.of_run rfl

theorem lateRenewal_failed {α ε : Type}
    {transitions : List (Supervisor α ε × SupervisorStep α ε × Supervisor α ε)}
    (h : transitions.map (fun t => t.2.1) = lateRenewal) : ∃ t ∈ transitions, FailedRenewal t := by
  have hmem : SupervisorStep.renewed (some false) ∈ transitions.map fun t => t.2.1 := by
    rw [h]
    simp [lateRenewal]
  obtain ⟨t, ht, hlabel⟩ := List.mem_map.1 hmem
  exact ⟨t, ht, some false, hlabel, by decide⟩

theorem supervised_run_ends_late :
    (lateSupervisor : Supervisor ℕ ℕ).cancellation = true ∧
      ((SupervisorEnd.timedOut : SupervisorEnd ℕ ℕ) = .leaseLost ∨
        (SupervisorEnd.timedOut : SupervisorEnd ℕ ℕ) = .timedOut ∨
        (SupervisorEnd.timedOut : SupervisorEnd ℕ ℕ) = .cancelled) := by
  obtain ⟨transitions, hpath, hlabels⟩ := lateRenewal_path ℕ ℕ
  obtain ⟨⟨-, hcancellation, -⟩, -, -, hlost⟩ := supervised_run_ends hpath rfl
  exact ⟨hcancellation, hlost (lateRenewal_failed hlabels)⟩

/-- A cancellation during the grace of a shutdown is swallowed. -/
theorem supervised_run_cancelled_late : ∃ transitions,
    (supervisorMachine ℕ ℕ).Path .initial transitions
      ⟨.exited .timedOut, none, .cancelling, true, .passed, true, true⟩ ∧
    transitions.map (fun t => t.2.1) = [.deadlinePasses, .resume, .cancel] ∧
    ¬ ∃ t ∈ transitions, HeardCancel t := by
  have hrun : (supervisorMachine ℕ ℕ).run .initial [.deadlinePasses, .resume, .cancel] =
      some ⟨.exited .timedOut, none, .cancelling, true, .passed, true, true⟩ := rfl
  obtain ⟨transitions, hpath, hlabels⟩ := Machine.Path.of_run hrun
  refine ⟨transitions, hpath, hlabels, fun hheard => ?_⟩
  cases (supervised_run_cancelled hpath rfl).1 hheard

theorem supervised_run_bounded_late : ∃ transitions,
    (supervisorMachine ℕ ℕ).Path .initial transitions lateSupervisor ∧
      transitions.countP (fun t => t.2.1.isOwn) ≤ 3 := by
  obtain ⟨transitions, hpath, -⟩ := lateRenewal_path ℕ ℕ
  exact ⟨transitions, hpath, (supervised_run_bounded hpath).1⟩

def leasedJob : AgentJob where
  id := 2
  tenantId := 1
  traceId := 3
  status := .running
  sourceSnapshot := .null
  tenantConfigSnapshot := .null
  tenantConfigSha256 := ""
  riskSignals := .null
  attemptCount := 1
  availableAt := 0
  leaseExpiresAt := some 60
  startedAt := some 0
  finishedAt := none
  sideEffectCommittedAt := none
  result := none
  errorCode := none
  createdAt := 0

def leasedOutside : Outside where
  db _ := ⟨[leasedJob], [], [], [], [], [], [], []⟩
  fault _ := none
  now _ := 30
  retryDelay _ := 1
  maxRetries := 3

/-- A run that commits nothing and times out. -/
theorem serveOnce_after_failedRenewal_late : ∃ commit,
    AgentWorker.supervisedCommits leasedOutside leasedJob []
      (fun _ h => absurd h List.not_mem_nil) .timedOut = [commit] ∧
      ∃ write now availableAt, AfterTimeout write ∧
        write.run leasedJob now availableAt commit.1 = (.ok (), commit.2) := by
  obtain ⟨transitions, hpath, hlabels⟩ := lateRenewal_path RunValue ClaimError
  refine ⟨_, rfl, ?_⟩
  have hnone : ∀ commit ∈ ([] : List (Db × Db)),
      RunTransaction leasedJob commit.1 commit.2 :=
    fun _ h => absurd h List.not_mem_nil
  rcases serveOnce_after_failedRenewal leasedOutside hnone hpath rfl (lateRenewal_failed hlabels) _
    (List.mem_singleton_self _) with hown | ⟨-, hwrite⟩
  · exact absurd hown List.not_mem_nil
  · exact hwrite

end IntegraIntake
