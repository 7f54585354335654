import IntegraIntake.Workers.ServeOnce

/-!
# The writes of `serve_once`

In the runs of the system a worker ends an attempt with a write that `RunEnd` names,
at once or after its marker read.  `AgentWorker.serveOnce` is the program itself,
with its handlers and its events.  Every commit that it adds to those of its run is
one of these writes, so what is shown of the system holds for the program.
-/

namespace IntegraIntake

open Library

/-- How `serve_once` takes the end of a run; nothing is written for a lost lease. -/
def RunEnd.ofRun? : Except ClaimError RunValue → Option RunEnd
  | .error (.retryable code _) => some (.retryable code.code.value)
  | .error .providerRequestRejected => some .providerRejected
  | .error .jobLeaseLost => none
  | .error .other => some .unexpected
  | .ok (.result result _) => some (.ofResult result)
  | .ok (.preflight result) => some (.ofPreflight result)

/-- The writes that may follow the end of a run. -/
def RunEnd.Writes (maxRetries attemptCount : ℕ) (ending : RunEnd) (write : FinalWrite) : Prop :=
  match ending.next with
  | .write value => write = value
  | .inspect => write = ending.uncertainWrite ∨ write = ending.cleanWrite maxRetries attemptCount

namespace AgentWorker

variable {outside : Outside} {claim : AgentJob} {base : List (Db × Db)}
  {W : FinalWrite → Prop}

/-- Every commit is one of the run, or a write of `W`. -/
def OnlyWrites (claim : AgentJob) (base : List (Db × Db)) (W : FinalWrite → Prop)
    (world : ServeWorld) : Prop :=
  ∀ commit ∈ world.commits, commit ∈ base ∨ ∃ write now availableAt, W write ∧
    write.run claim now availableAt commit.1 = (.ok (), commit.2)

/-- A program that commits nothing but writes of `W`, whether it returns or raises. -/
def Adds {α : Type} (claim : AgentJob) (base : List (Db × Db)) (W : FinalWrite → Prop)
    (program : Serve α) : Prop :=
  Session.Ends (OnlyWrites claim base W) program (fun _ => OnlyWrites claim base W)
    fun _ => OnlyWrites claim base W

theorem Adds.bind {α β : Type} {program : Serve α} {next : α → Serve β}
    (hprogram : Adds claim base W program) (hnext : ∀ a, Adds claim base W (next a)) :
    Adds claim base W (program >>= next) :=
  Session.Ends.bind hprogram hnext

theorem Adds.pure {α : Type} (a : α) : Adds claim base W (pure a : Serve α) := fun _ h => h

theorem Adds.raise {α : Type} (error : StepError) :
    Adds claim base W (Session.raise error : Serve α) := fun _ h => h

theorem clock_adds : Adds claim base W (clock outside) := fun _ h => h

theorem emit_adds (event : WorkerEvent) : Adds claim base W (emit event) := fun _ h => h

theorem setFinished_adds : Adds claim base W setFinished := fun _ h => h

theorem emitJobFinished_adds (event : JobFinished) :
    Adds claim base W (emitJobFinished event) := by
  unfold emitJobFinished
  split
  · exact emit_adds _
  · exact .raise _

theorem persistenceStep_adds {α : Type} (query : Query α) :
    Adds claim base W (persistenceStep outside query) := by
  intro world h
  unfold persistenceStep
  cases outside.fault world.steps with
  | some error => exact h
  | none =>
      cases query (outside.db world.steps) with
      | mk outcome after => cases outcome <;> exact h

theorem hasSideEffect_adds : Adds claim base W (hasSideEffect outside claim) := by
  unfold hasSideEffect
  split
  · exact .pure _
  · exact (persistenceStep_adds _).bind fun _ => .pure _

/-- A transaction that commits is the write it was begun for. -/
theorem commit_adds (now : Timestamp) {write : FinalWrite} (hwrite : W write) :
    Adds claim base W (commit outside claim now write) := by
  unfold commit
  refine Session.Ends.tryCatch (E := fun _ => OnlyWrites claim base W) ?_ ?_
  · intro world h
    rw [Session.bind_run]
    unfold persistenceStep
    cases outside.fault world.steps with
    | some error => exact h
    | none =>
        cases hrun : write.run claim now (now + outside.retryDelay claim.attemptCount)
            (outside.db world.steps) with
        | mk outcome after =>
            cases outcome with
            | error error => exact h
            | ok _ =>
                intro commit hcommit
                rcases List.mem_append.1 hcommit with hearlier | hlast
                · exact h commit hearlier
                · rw [List.mem_singleton.1 hlast]
                  exact .inr ⟨write, now, _, hwrite, hrun⟩
  · intro error
    cases error with
    | jobLeaseLost => exact Adds.raise _
    | other => exact (emit_adds _).bind fun _ => .raise _

theorem markFailed_adds {errorCode : String} (h : W (.fail errorCode)) :
    Adds claim base W (markFailed outside claim errorCode) :=
  clock_adds.bind fun now => commit_adds now h

theorem markFailedUncertain_adds {errorCode : String} (h : W (.uncertain errorCode)) :
    Adds claim base W (markFailedUncertain outside claim errorCode) :=
  clock_adds.bind fun now => commit_adds now h

theorem scheduleRetry_adds {errorCode : String} (h : W (.retry errorCode)) :
    Adds claim base W (scheduleRetry outside claim errorCode) :=
  clock_adds.bind fun now => commit_adds now h

/-! ## The handlers -/

theorem handleRetryable_adds {code : RetryCode} (sideEffectCommitted : Bool)
    (h : ∀ write, (RunEnd.retryable code.code.value).Writes outside.maxRetries claim.attemptCount
      write → W write) :
    Adds claim base W (handleRetryable outside claim code sideEffectCommitted) := by
  have huncertain : W (.uncertain WorkerErrorCode.sideEffectCommitted.value) := h _ (.inl rfl)
  have hclean := h _ (.inr rfl)
  have hends : ∀ marked, Adds claim base W (endRetryable outside claim code marked) := by
    intro marked
    unfold endRetryable
    split
    · exact (markFailedUncertain_adds huncertain).bind fun _ =>
        (emitJobFinished_adds _).bind fun _ => setFinished_adds
    · -- the budget of the attempt decides between a failure and a retry
      rw [RunEnd.cleanWrite] at hclean
      split
      · rename_i hspent
        rw [if_pos hspent] at hclean
        exact (markFailed_adds hclean).bind fun _ =>
          (emitJobFinished_adds _).bind fun _ => setFinished_adds
      · rename_i hleft
        rw [if_neg hleft] at hclean
        exact (scheduleRetry_adds hclean).bind fun _ => (emit_adds _).bind fun _ =>
          (emitJobFinished_adds _).bind fun _ => setFinished_adds
  unfold handleRetryable
  cases sideEffectCommitted with
  | true => exact hends true
  | false => exact hasSideEffect_adds.bind hends

theorem handleUnexpected_adds {errorCode : WorkerErrorCode}
    (huncertain : W (.uncertain WorkerErrorCode.unexpectedAfterSideEffect.value))
    (hclean : W (.fail errorCode.value)) :
    Adds claim base W (handleUnexpected outside claim errorCode) := by
  refine hasSideEffect_adds.bind fun marked => ?_
  unfold endUnexpected
  split
  · exact (markFailedUncertain_adds huncertain).bind fun _ =>
      (emitJobFinished_adds _).bind fun _ => setFinished_adds
  · exact (markFailed_adds hclean).bind fun _ =>
      (emitJobFinished_adds _).bind fun _ => setFinished_adds

theorem handleLeaseLost_adds : Adds claim base W (handleLeaseLost claim) :=
  (emitJobFinished_adds _).bind fun _ => setFinished_adds

theorem persistFailure_adds (now : Timestamp) {result : AgentRunResult}
    (h : ∀ write, (RunEnd.failed (result.reason = .toolExecutionFailed)).Writes outside.maxRetries
      claim.attemptCount write → W write) :
    Adds claim base W (persistFailure outside claim now result) := by
  refine hasSideEffect_adds.bind fun uncertain => ?_
  split
  · exact (commit_adds now (h _ (.inl rfl))).bind fun _ => .pure _
  · refine (commit_adds now ?_).bind fun _ => .pure _
    have hclean := h _ (.inr rfl)
    split
    · rename_i htool
      rw [htool] at hclean
      exact hclean
    · rename_i hother
      rw [decide_eq_false hother] at hclean
      exact hclean

theorem persistResult_adds {result : AgentRunResult}
    (h : ∀ write, (RunEnd.ofResult result).Writes outside.maxRetries claim.attemptCount write →
      W write) :
    Adds claim base W (persistResult outside claim result) := by
  refine clock_adds.bind fun now => ?_
  unfold RunEnd.ofResult at h
  cases hstatus : result.status with
  | failed =>
      rw [hstatus] at h
      rw [if_pos (by simp)]
      exact persistFailure_adds now h
  | completed =>
      rw [hstatus] at h
      rw [if_neg (by simp)]
      dsimp only at h
      split
      · rename_i hempty
        rw [if_pos hempty] at h
        exact (commit_adds now (h _ rfl)).bind fun _ => .pure _
      · rename_i hpath
        rw [if_neg hpath] at h
        split
        · rename_i hasked
          rw [if_pos hasked] at h
          exact (commit_adds now (h _ rfl)).bind fun _ => .pure _
        · rename_i hasked
          rw [if_neg hasked] at h
          exact (commit_adds now (h _ rfl)).bind fun _ => .pure _

theorem persistPreflightResult_adds {result : TerminalPreflightResult}
    (h : ∀ write, (RunEnd.ofPreflight result).Writes outside.maxRetries claim.attemptCount write →
      W write) :
    Adds claim base W (persistPreflightResult outside claim result) := by
  refine clock_adds.bind fun now => ?_
  unfold RunEnd.ofPreflight at h
  split
  · rename_i hunreadable
    rw [if_pos hunreadable] at h
    exact (commit_adds now (h _ rfl)).bind fun _ => .pure _
  · rename_i hother
    rw [if_neg hother] at h
    exact (commit_adds now (h _ rfl)).bind fun _ => .pure _

theorem settle_adds {ending : Except ClaimError RunValue}
    (h : ∀ runEnd ∈ RunEnd.ofRun? ending, ∀ write,
      runEnd.Writes outside.maxRetries claim.attemptCount write → W write) :
    Adds claim base W (settle outside claim ending) := by
  cases ending with
  | error error =>
      cases error with
      | retryable code sideEffectCommitted => exact handleRetryable_adds _ (h _ rfl)
      | providerRequestRejected =>
          exact handleUnexpected_adds (h _ rfl _ (.inl rfl)) (h _ rfl _ (.inr rfl))
      | jobLeaseLost => exact handleLeaseLost_adds
      | other => exact handleUnexpected_adds (h _ rfl _ (.inl rfl)) (h _ rfl _ (.inr rfl))
  | ok value =>
      cases value with
      | result result steps_le =>
          exact (persistResult_adds (h _ rfl)).bind fun _ =>
            (emitJobFinished_adds _).bind fun _ => setFinished_adds
      | preflight result =>
          exact (persistPreflightResult_adds (h _ rfl)).bind fun _ =>
            (emitJobFinished_adds _).bind fun _ => setFinished_adds

theorem handlePersistenceError_adds : Adds claim base W (handlePersistenceError claim) := by
  intro world h
  unfold handlePersistenceError
  rw [Session.read_bind_run]
  have hraise : Adds claim base W (Session.raise .other : Serve Unit) := .raise _
  have hevent : Adds claim base W
      (emitJobFinished (finishedWith claim .failed (some .persistenceError))) :=
    emitJobFinished_adds _
  cases hfinished : world.finished with
  | true => exact hraise world h
  | false => exact hevent.bind (fun _ => hraise) world h

theorem serveClaimed_adds {ending : Except ClaimError RunValue}
    (h : ∀ runEnd ∈ RunEnd.ofRun? ending, ∀ write,
      runEnd.Writes outside.maxRetries claim.attemptCount write → W write) :
    Adds claim base W (serveClaimed outside claim ending) := by
  refine Session.Ends.bind (Session.Ends.tryCatch (settle_adds h) fun error => ?_)
    fun _ => Adds.pure _
  cases error with
  | jobLeaseLost => exact handleLeaseLost_adds
  | other => exact handlePersistenceError_adds

/-- Every commit of the program is one of its run, or a write that the system allows
after such an end. -/
theorem serveOnce_commits (outside : Outside) {claim : AgentJob} (run : ClaimedRun claim) :
    ∀ commit ∈ (serveOnce outside run).2.commits, commit ∈ run.commits ∨
      ∃ ending ∈ RunEnd.ofRun? run.ending, ∃ write now availableAt,
        ending.Writes outside.maxRetries claim.attemptCount write ∧
        write.run claim now availableAt commit.1 = (.ok (), commit.2) := by
  have hends : Adds claim run.commits (fun write => ∃ ending ∈ RunEnd.ofRun? run.ending,
      ending.Writes outside.maxRetries claim.attemptCount write)
      (serveClaimed outside claim run.ending) :=
    serveClaimed_adds fun ending hending write hwrite => ⟨ending, hending, hwrite⟩
  have hfinal := hends ⟨0, false, [], run.commits⟩ fun _ hcommit => .inl hcommit
  have honly : OnlyWrites claim run.commits (fun write => ∃ ending ∈ RunEnd.ofRun? run.ending,
      ending.Writes outside.maxRetries claim.attemptCount write) (serveOnce outside run).2 := by
    unfold serveOnce
    split at hfinal
    · rename_i heq
      rw [heq]
      exact hfinal
    · rename_i heq
      rw [heq]
      exact hfinal
  intro commit hcommit
  refine (honly commit hcommit).imp_right ?_
  rintro ⟨write, now, availableAt, ⟨ending, hending, hwrite⟩, hrun⟩
  exact ⟨ending, hending, write, now, availableAt, hwrite, hrun⟩

end AgentWorker
end IntegraIntake
