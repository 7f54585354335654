import IntegraIntake.Agent.SideBySide
import IntegraIntake.Tools.Mirror
import IntegraIntake.Tools.ModelInput

/-!
# Runs over the double

A run over `InMemoryTenantToolPort` is a run over `PostgresTenantToolPort`: begun in
mirrored states, with the same answers of the model and the same new identifiers, the
two end with the same result or the same exception, call the same operations and
leave mirrored states.  The one thing that tells them apart is a second `create_case`:
the database replays the case of the job and the double makes another one.

Asking for an approval twice would tell them apart as well, but a run ends with the
first request (`AgentLoop.run_asksOnce`).
-/

namespace IntegraIntake

open Library Session AgentLoop

variable {σ π ε α β : Type}

/-! ## A run asks for one approval at most -/

/-- Whatever the program does, it asks for one approval at most, and if it returns
with a result after which the run goes on, for none. -/
def AsksOnce (goesOn : α → Prop) (program : Session (World σ) ε α) : Prop :=
  ∀ world, ∃ invoked, (program world).2.log = world.log ++ invoked ∧
    invoked.count (.port .requestApproval) ≤ 1 ∧
    ∀ a, (program world).1 = .ok a → goesOn a → .port .requestApproval ∉ invoked

theorem AsksOnce.count_le {goesOn : α → Prop} {program : Session (World σ) ε α}
    (h : AsksOnce goesOn program) (world : World σ) :
    ∃ invoked, (program world).2.log = world.log ++ invoked ∧
      invoked.count (.port .requestApproval) ≤ 1 := by
  obtain ⟨invoked, hlog, hcount, -⟩ := h world
  exact ⟨invoked, hlog, hcount⟩

theorem NoRequest.asksOnce {program : Session (World σ) ε α} (h : NoRequest program)
    (goesOn : α → Prop) : AsksOnce goesOn program := by
  intro world
  obtain ⟨invoked, hlog, hnone⟩ := h world
  refine ⟨invoked, hlog, ?_, fun _ _ _ => hnone⟩
  rw [List.count_eq_zero_of_not_mem hnone]
  exact Nat.zero_le 1

theorem AsksOnce.map {goesOn : α → Prop} {goesOn' : β → Prop} {program : Session (World σ) ε α}
    (h : AsksOnce goesOn program) {f : α → β} (hf : ∀ a, goesOn' (f a) → goesOn a) :
    AsksOnce goesOn' (program >>= fun a => pure (f a)) := by
  intro world
  obtain ⟨invoked, hlog, hcount, hnone⟩ := h world
  rw [Session.bind_run]
  split
  · rename_i a working heq
    rw [heq] at hlog hnone
    refine ⟨invoked, hlog, hcount, fun b hb hgoes => ?_⟩
    cases hb
    exact hnone a rfl (hf a hgoes)
  · rename_i error working heq
    rw [heq] at hlog
    refine ⟨invoked, hlog, hcount, fun b hb _ => ?_⟩
    cases hb

/-- A program that may ask goes on only if it has not. -/
theorem AsksOnce.bind {goesOn : α → Prop} {goesOn' : β → Prop} {program : Session (World σ) ε α}
    {next : α → Session (World σ) ε β} (h : AsksOnce goesOn program)
    (hnext : ∀ a, goesOn a → AsksOnce goesOn' (next a))
    (hlast : ∀ a, ¬ goesOn a → ∃ b, next a = pure b ∧ ¬ goesOn' b) :
    AsksOnce goesOn' (program >>= next) := by
  intro world
  obtain ⟨invoked, hlog, hcount, hnone⟩ := h world
  rw [Session.bind_run]
  split
  · rename_i a working heq
    rw [heq] at hlog hnone
    by_cases hgoes : goesOn a
    · obtain ⟨more, hmore, hcount', hnone'⟩ := hnext a hgoes working
      have hquiet := hnone a rfl hgoes
      refine ⟨invoked ++ more, ?_, ?_, fun b hb hgoes' => ?_⟩
      · rw [hmore, hlog, List.append_assoc]
      · rw [List.count_append, List.count_eq_zero_of_not_mem hquiet, Nat.zero_add]
        exact hcount'
      · rw [List.mem_append]
        exact not_or.2 ⟨hquiet, hnone' b hb hgoes'⟩
    · obtain ⟨b, hb, hstops⟩ := hlast a hgoes
      rw [hb]
      refine ⟨invoked, hlog, hcount, fun b' hb' hgoes' => ?_⟩
      cases hb'
      exact absurd hgoes' hstops
  · rename_i error working heq
    rw [heq] at hlog
    refine ⟨invoked, hlog, hcount, fun b hb _ => ?_⟩
    cases hb

theorem AsksOnce.mapError {ε' : Type} {goesOn : α → Prop} {program : Session (World σ) ε α}
    (h : AsksOnce goesOn program) (rename : ε → ε') :
    AsksOnce goesOn (mapError rename program) := by
  intro world
  obtain ⟨invoked, hlog, hcount, hnone⟩ := h world
  unfold Session.mapError
  split
  · rename_i a working heq
    rw [heq] at hlog hnone
    refine ⟨invoked, hlog, hcount, fun b hb hgoes => ?_⟩
    cases hb
    exact hnone a rfl hgoes
  · rename_i error working heq
    rw [heq] at hlog
    refine ⟨invoked, hlog, hcount, fun b hb _ => ?_⟩
    cases hb

section AsksOnce

variable {checks : ValueChecks} {port : TenantToolPort σ} {runtime : TrustedToolRuntimeContext}
  {proposal : AgentProposal} {call : ToolCall} {llm : LLMClient π} {cancelled : ℕ → ℕ → Bool}

/-- The results after which a run goes on. -/
def Continues (result : ToolExecutionResult) : Prop := result.disposition = .continue_

theorem requestApprovalBranch_asksOnce (policy : PolicyOutcome) (capability : ActionCapability)
    (arguments : ToolArgs) :
    AsksOnce Continues
      (requestApprovalBranch checks port runtime proposal policy capability arguments) := by
  intro world
  unfold requestApprovalBranch checkCancelled
  split
  · exact (NoRequest.raise (σ := σ) _).asksOnce Continues world
  · rw [Session.pure_bind, Session.bind_run]
    have hlog := callPort_log PortOperation.requestApproval ExecuteError.port
      (port.requestApproval runtime.tenantId
        (pendingAction checks runtime proposal capability arguments) policy.reason) world
    refine ⟨[.port .requestApproval], ?_, by simp, fun result hresult hgoes => ?_⟩
    · split <;> rename_i heq <;> rw [heq] at hlog <;> exact hlog
    · -- the result ends the run
      split at hresult <;> cases hresult
      cases hgoes

theorem executeDecided_asksOnce (policy : PolicyOutcome) :
    AsksOnce Continues (executeDecided checks port runtime proposal call policy) := by
  unfold executeDecided
  split
  · exact (NoRequest.pure _).asksOnce _
  · exact (NoRequest.pure _).asksOnce _
  · exact (NoRequest.raise _).asksOnce _
  · unfold executeRegistered
    split
    · exact (NoRequest.pure _).asksOnce _
    · exact (NoRequest.raise _).asksOnce _
    · split
      · exact requestApprovalBranch_asksOnce policy _ _
      · exact (handlerBranch_noRequest policy _ _).asksOnce _

theorem checkCancelled_noRequest (n : ℕ) :
    NoRequest (checkCancelled runtime n : Session (World σ) ExecuteError Unit) := by
  unfold checkCancelled
  split
  · exact .raise _
  · exact .pure _

theorem execute_asksOnce : AsksOnce Continues (execute checks port runtime proposal call) :=
  ((checkCancelled_noRequest 0).asksOnce fun _ => True).bind
    (fun _ _ => executeDecided_asksOnce _) fun _ hnot => absurd trivial hnot

theorem executeTerminal_noRequest :
    NoRequest (executeTerminal checks runtime proposal :
      Session (World σ) ExecuteError ToolExecutionResult) :=
  (checkCancelled_noRequest 0).bind fun _ => .pure _

/-- The turns after which the loop goes on. -/
def AgentLoop.Turn.GoesOn : AgentLoop.Turn → Prop
  | .goesOn _ => True
  | .ends _ => False

theorem answeredTurn_asksOnce (state : State) (proposal : AgentProposal) :
    AsksOnce Turn.GoesOn
      (answeredTurn (policyGatedToolExecutor checks port runtime cancelled) state proposal) := by
  unfold answeredTurn
  split
  · exact ((executeTerminal_noRequest.bind fun _ => .pure _).bind fun _ => .pure _).asksOnce _
  · split
    · exact (NoRequest.pure _).asksOnce _
    · unfold toolTurn
      split
      · exact (NoRequest.pure _).asksOnce _
      · have hexecution : ∀ call, AsksOnce (fun execution => execution.disposition = .continue_)
            ((policyGatedToolExecutor checks port runtime cancelled).execute state.steps proposal
              call) :=
          fun call => execute_asksOnce.map fun _ h => h
        refine (hexecution _).map fun execution hgoes => ?_
        unfold executedTurn at hgoes
        split at hgoes
        · exact absurd hgoes id
        · exact absurd hgoes id
        · assumption

theorem loop_asksOnce (turns : ℕ) (state : State) :
    AsksOnce (fun _ => False)
      (loop llm (policyGatedToolExecutor checks port runtime cancelled) turns state) := by
  induction turns generalizing state with
  | zero => exact (NoRequest.pure _).asksOnce _
  | succ turns ih =>
      have hturn : AsksOnce Turn.GoesOn
          (turn llm (policyGatedToolExecutor checks port runtime cancelled) state) := by
        unfold turn
        split
        · exact (NoRequest.raise _).asksOnce _
        · exact (answeredTurn_asksOnce _ _).mapError _
      refine hturn.bind (fun outcome hgoes => ?_) fun outcome hends => ?_
      · cases outcome with
        | goesOn next => exact ih next
        | ends result => exact absurd hgoes id
      · cases outcome with
        | goesOn next => exact absurd trivial hends
        | ends result => exact ⟨result, rfl, id⟩

theorem AgentLoop.run_asksOnce (steps : ℕ) (messages : List AgentMessage) :
    AsksOnce (fun _ => False)
      (run llm (policyGatedToolExecutor checks port runtime cancelled) steps messages) :=
  loop_asksOnce _ _

/-- However a run ends, it has asked for one approval at most. -/
theorem run_requestsApproval_once (steps : ℕ) (messages : List AgentMessage) (world : World σ) :
    ∃ invoked, (run llm (policyGatedToolExecutor checks port runtime cancelled) steps messages
        world).2.log = world.log ++ invoked ∧ invoked.count (.port .requestApproval) ≤ 1 :=
  (AgentLoop.run_asksOnce steps messages).count_le world

end AsksOnce

/-! ## The ports, call by call -/

/-- An operation that counts its calls: each is made by the program of its number. -/
def counting (call : ℕ → Session σ PortError α) : Session (σ × ℕ) PortError α := fun state =>
  ((call state.2 state.1).1, (call state.2 state.1).2, state.2 + 1)

/-- A port that makes its n-th call as `ports n` does: with a new identifier and the
time of that call. -/
def TenantToolPort.counted (ports : ℕ → TenantToolPort σ) : TenantToolPort (σ × ℕ) where
  findCustomer tenantId email externalId :=
    counting fun n => (ports n).findCustomer tenantId email externalId
  createCase tenantId source customerId fields :=
    counting fun n => (ports n).createCase tenantId source customerId fields
  updateCaseFields tenantId caseId fields :=
    counting fun n => (ports n).updateCaseFields tenantId caseId fields
  caseExists tenantId caseId := counting fun n => (ports n).caseExists tenantId caseId
  requestApproval tenantId action policyReason :=
    counting fun n => (ports n).requestApproval tenantId action policyReason
  createReplyDraft tenantId jobId recipient subject body :=
    counting fun n => (ports n).createReplyDraft tenantId jobId recipient subject body
  flagForReview tenantId jobId reason :=
    counting fun n => (ports n).flagForReview tenantId jobId reason

/-- The double, for the calls of these contexts. -/
def doublePort (contexts : ℕ → PortContext) : TenantToolPort (InMemory × ℕ) :=
  .counted fun n => InMemory.port (contexts n).newId (contexts n).now

/-- The port of the database, for the calls of these contexts. -/
def databasePort (contexts : ℕ → PortContext) : TenantToolPort (Db × ℕ) :=
  .counted fun n => postgresTenantToolPort (contexts n)

/-- An operation was called. -/
def Called (operation : PortOperation) (log : List Invocation) : Prop :=
  Invocation.port operation ∈ log

/-- An operation that the double does not replay was called again. -/
def Repeated (log : List Invocation) : Prop :=
  2 ≤ log.count (.port .createCase) ∨ 2 ≤ log.count (.port .requestApproval)

/-- The run has called again what the double does not replay. -/
def Diverged (world : World σ) : Prop := Repeated world.log

/-- Both worlds have made the same calls, and hold the same. -/
structure WorldsMirror (contexts : ℕ → PortContext) (attempt : Attempt)
    (double : World (InMemory × ℕ)) (real : World (Db × ℕ)) : Prop where
  log : double.log = real.log
  calls : double.state.2 = real.state.2
  mirrors : Mirrors attempt (Called .requestApproval double.log) (Called .createCase double.log)
    double.state.1 real.state.1
  fresh : ∀ n, real.state.2 ≤ n → Fresh (contexts n).newId real.state.1

section Follow

variable {contexts : ℕ → PortContext} {attempt : Attempt}

theorem count_le_of_append {invocation : Invocation} {log more : List Invocation} {n : ℕ}
    (h : n ≤ log.count invocation) : n ≤ (log ++ more).count invocation := by
  rw [List.count_append]
  exact Nat.le_add_right_of_le h

theorem callPort_stays (operation : PortOperation) (raising : PortError → ε)
    (program : Session σ PortError α) :
    Stays Diverged (callPort operation raising program) := by
  intro world hdiverged
  rw [Diverged, Repeated, callPort_log]
  exact hdiverged.imp count_le_of_append count_le_of_append

theorem callPort_alike {operation : PortOperation} {raising : PortError → ε} {Q : α → β → Prop}
    {τ : Type} {program : Session σ PortError α} {program' : Session τ PortError β}
    {world : World σ} {other : World τ}
    (h : Alike Q (program world.state).1 (program' other.state).1) :
    Alike Q (callPort operation raising program world).1
      (callPort operation raising program' other).1 := by
  unfold callPort
  cases hleft : program world.state with
  | mk outcome working =>
      cases hright : program' other.state with
      | mk outcome' working' =>
          rw [hleft, hright] at h
          cases outcome <;> cases outcome'
          · exact congrArg raising h
          · exact absurd h id
          · exact absurd h id
          · exact h

/-- Calls that answer alike, with the relation they need and keep, follow each other;
`hfirst` says when the call is compared. -/
theorem callPort_follows (hnew : Function.Injective fun n => (contexts n).newId)
    (operation : PortOperation) (raising : PortError → ε) {Q : α → β → Prop}
    {double : ℕ → Session InMemory PortError α} {real : ℕ → Session Db PortError β}
    (hanswers : ∀ n log, ¬ Repeated (log ++ [.port operation]) →
      PortAnswers attempt (contexts n).newId (Called .requestApproval log) (Called .createCase log)
        (Called .requestApproval (log ++ [.port operation]))
        (Called .createCase (log ++ [.port operation])) Q (double n) (real n)) :
    Follows (WorldsMirror contexts attempt) Diverged Q
      (callPort operation raising (counting double))
      (callPort operation raising (counting real)) where
  stays := callPort_stays operation raising _
  ends world other h := by
    by_cases hdiverged : Diverged (callPort operation raising (counting double) world).2
    · exact .inl hdiverged
    · refine .inr ?_
      have hcompared := hdiverged
      rw [Diverged, callPort_log] at hcompared
      obtain ⟨halike, hmirrors, hkept⟩ := hanswers other.state.2 world.log hcompared
        world.state.1 other.state.1 h.mirrors (h.fresh _ le_rfl)
      have hdouble : (counting double world.state).2.1 =
          (double other.state.2 world.state.1).2 := by
        rw [counting, h.calls]
      have hsame : Alike Q (counting double world.state).1 (counting real other.state).1 := by
        rw [counting, counting, h.calls]
        exact halike
      refine ⟨callPort_alike hsame, ?_, ?_, ?_, ?_⟩
      · rw [callPort_log, callPort_log, h.log]
      · rw [callPort_state, callPort_state, counting, counting, h.calls]
      · rw [callPort_log, callPort_state, callPort_state, hdouble]
        exact hmirrors
      · intro n hn
        rw [callPort_state] at hn ⊢
        -- the number of this call is not used again
        have hlater : n ≠ other.state.2 := Nat.ne_of_gt hn
        exact hkept _ (fun hid => hlater (hnew hid)) (h.fresh n (Nat.le_of_succ_le hn))

theorem PortAnswers.weaken {asked created asked' created' asked'' created'' : Prop} {newId : Uuid}
    {Q : α → β → Prop} {double : Session InMemory PortError α} {real : Session Db PortError β}
    (h : PortAnswers attempt newId asked created asked' created' Q double real)
    (hasked : asked' → asked'') (hcreated : created' → created'') :
    PortAnswers attempt newId asked created asked'' created'' Q double real := by
  intro memory db hmirrors hfresh
  obtain ⟨halike, hafter, hkept⟩ := h memory db hmirrors hfresh
  exact ⟨halike, hafter.weaken hasked hcreated, hkept⟩

theorem called_append (operation : PortOperation) (log : List Invocation) :
    Called operation (log ++ [Invocation.port operation]) :=
  List.mem_append_right _ (List.mem_singleton_self _)

theorem Called.append {operation other : PortOperation} {log : List Invocation}
    (h : Called operation log) : Called operation (log ++ [Invocation.port other]) :=
  List.mem_append_left _ h

/-- A call that is not repeated is the first of its kind. -/
theorem not_called_of_not_repeated {operation : PortOperation} {log : List Invocation}
    (hkind : operation = .createCase ∨ operation = .requestApproval)
    (h : ¬ Repeated (log ++ [Invocation.port operation])) : ¬ Called operation log := by
  intro hcalled
  have htwice : 2 ≤ (log ++ [Invocation.port operation]).count (.port operation) := by
    rw [List.count_append, List.count_singleton_self]
    exact Nat.succ_le_succ (List.count_pos_iff.2 hcalled)
  rcases hkind with rfl | rfl
  · exact h (.inl htwice)
  · exact h (.inr htwice)

/-- An operation that neither makes a case nor asks for an approval. -/
theorem callPort_follows_plain (hnew : Function.Injective fun n => (contexts n).newId)
    (operation : PortOperation) (raising : PortError → ε)
    {double : ℕ → Session InMemory PortError α} {real : ℕ → Session Db PortError α}
    (hanswers : ∀ n asked created, PortAnswers attempt (contexts n).newId asked created asked
      created Eq (double n) (real n)) :
    Follows (WorldsMirror contexts attempt) Diverged Eq
      (callPort operation raising (counting double))
      (callPort operation raising (counting real)) :=
  callPort_follows hnew operation raising fun n _ _ =>
    (hanswers n _ _).weaken Called.append Called.append

/-- The first case of a job. -/
theorem callPort_follows_createCase (hnew : Function.Injective fun n => (contexts n).newId)
    (raising : PortError → ε) {double : ℕ → Session InMemory PortError α}
    {real : ℕ → Session Db PortError α}
    (hanswers : ∀ n asked, PortAnswers attempt (contexts n).newId asked False asked True Eq
      (double n) (real n)) :
    Follows (WorldsMirror contexts attempt) Diverged Eq
      (callPort .createCase raising (counting double))
      (callPort .createCase raising (counting real)) := by
  refine callPort_follows hnew .createCase raising fun n log hnot => ?_
  have hfirst : Called .createCase log = False :=
    eq_false (not_called_of_not_repeated (.inl rfl) hnot)
  rw [hfirst]
  exact (hanswers n _).weaken Called.append fun _ => called_append _ _

/-- The first request of a job. -/
theorem callPort_follows_requestApproval (hnew : Function.Injective fun n => (contexts n).newId)
    (raising : PortError → ε) {Q : α → β → Prop} {double : ℕ → Session InMemory PortError α}
    {real : ℕ → Session Db PortError β}
    (hanswers : ∀ n created, PortAnswers attempt (contexts n).newId False created True created Q
      (double n) (real n)) :
    Follows (WorldsMirror contexts attempt) Diverged Q
      (callPort .requestApproval raising (counting double))
      (callPort .requestApproval raising (counting real)) := by
  refine callPort_follows hnew .requestApproval raising fun n log hnot => ?_
  have hfirst : Called .requestApproval log = False :=
    eq_false (not_called_of_not_repeated (.inr rfl) hnot)
  rw [hfirst]
  exact (hanswers n _).weaken (fun _ => called_append _ _) Called.append

/-- The port of the database and its double, for one attempt of a job. -/
theorem doublePort_follows (hattempt : ∀ n, (contexts n).attempt attempt.tenantId = attempt)
    (hnew : Function.Injective fun n => (contexts n).newId) {runtime : TrustedToolRuntimeContext}
    (htenant : runtime.tenantId = attempt.tenantId) (hjob : runtime.jobId = some attempt.jobId) :
    PortsFollow runtime (WorldsMirror contexts attempt) Diverged (doublePort contexts)
      (databasePort contexts) where
  handler key := by
    refine .write rfl (fun world h => h.imp count_le_of_append count_le_of_append) ?_
    intro world other h
    have hcalled : ∀ operation, Called operation world.log →
        Called operation (world.log ++ [.handler key]) := fun _ hold => List.mem_append_left _ hold
    refine .inr ⟨?_, h.calls, h.mirrors.weaken (hcalled _) (hcalled _), h.fresh⟩
    exact congrArg (· ++ [Invocation.handler key]) h.log
  findCustomer _ _ := callPort_follows_plain hnew _ _ fun _ _ _ => findCustomer_answers _ _ _
  createCase source customerId fields := by
    rw [htenant]
    exact callPort_follows_createCase hnew _ fun n _ =>
      createCase_answers (hattempt n) source customerId fields
  updateCaseFields caseId fields := by
    rw [htenant]
    exact callPort_follows_plain hnew _ _ fun n _ _ =>
      updateCaseFields_answers (hattempt n) caseId fields
  caseExists caseId := callPort_follows_plain hnew _ _ fun _ _ _ => caseExists_answers _ _
  requestApproval action policyReason := by
    rw [htenant]
    exact callPort_follows_requestApproval hnew _ fun n _ =>
      requestApproval_answers (hattempt n) action policyReason
  createReplyDraft recipient subject body := by
    rw [htenant, hjob]
    exact callPort_follows_plain hnew _ _ fun n _ _ =>
      createReplyDraft_answers (hattempt n) recipient subject body
  flagForReview reason := by
    rw [htenant, hjob]
    exact callPort_follows_plain hnew _ _ fun n _ _ => flagForReview_answers (hattempt n) reason

end Follow

/-- A run over the double is the run over the database: the same result or the same
exception, the same calls, and mirrored states at its end, unless it has created a
case twice. -/
theorem double_run_follows (contexts : ℕ → PortContext) {attempt : Attempt}
    (hattempt : ∀ n, (contexts n).attempt attempt.tenantId = attempt)
    (hnew : Function.Injective fun n => (contexts n).newId) {runtime : TrustedToolRuntimeContext}
    (htenant : runtime.tenantId = attempt.tenantId) (hjob : runtime.jobId = some attempt.jobId)
    (llm : LLMClient π) (checks : ValueChecks) (cancelled : ℕ → ℕ → Bool) (steps : ℕ)
    (messages : List AgentMessage) {memory : InMemory} {db : Db}
    (hmirrors : Mirrors attempt False False memory db)
    (hfresh : ∀ n, Fresh (contexts n).newId db) {outcome outcome' : Except (RunError π ExecuteError)
      AgentRunResult} {double : World (InMemory × ℕ)} {real : World (Db × ℕ)}
    (hdouble : run llm (policyGatedToolExecutor checks (doublePort contexts) runtime cancelled)
      steps messages ⟨(memory, 0), []⟩ = (outcome, double))
    (hreal : run llm (policyGatedToolExecutor checks (databasePort contexts) runtime cancelled)
      steps messages ⟨(db, 0), []⟩ = (outcome', real)) :
    2 ≤ double.log.count (.port .createCase) ∨
      outcome = outcome' ∧ double.log = real.log ∧
        Mirrors attempt (Called .requestApproval double.log) (Called .createCase double.log)
          double.state.1 real.state.1 := by
  have hnone : ∀ operation, False ↔ Called operation [] := fun _ => by simp [Called]
  have hstart : WorldsMirror contexts attempt ⟨(memory, 0), []⟩ ⟨(db, 0), []⟩ :=
    ⟨rfl, rfl, hmirrors.weaken (hnone _).1 (hnone _).1, fun n _ => hfresh n⟩
  have hfollows : Follows (WorldsMirror contexts attempt) Diverged Eq
      (run llm (policyGatedToolExecutor checks (doublePort contexts) runtime cancelled) steps
        messages)
      (run llm (policyGatedToolExecutor checks (databasePort contexts) runtime cancelled) steps
        messages) :=
    run_follows ((doublePort_follows hattempt hnew htenant hjob).executors checks cancelled) _ _
  have hends := hfollows.ends _ _ hstart
  rw [hdouble, hreal] at hends
  rcases hends with (hcase | happroval) | ⟨halike, hworlds⟩
  · exact .inl hcase
  · -- a run ends with its first request
    obtain ⟨invoked, hlog, hcount⟩ : ∃ invoked,
        (run llm (policyGatedToolExecutor checks (doublePort contexts) runtime cancelled) steps
          messages ⟨(memory, 0), []⟩).2.log = [] ++ invoked ∧
        invoked.count (.port .requestApproval) ≤ 1 :=
      (AgentLoop.run_asksOnce steps messages).count_le _
    rw [hdouble] at hlog
    rw [hlog, List.nil_append] at happroval
    exact absurd (happroval.trans hcount) (by decide)
  · exact .inr ⟨eq_of_alike halike, hworlds.log, hworlds.mirrors⟩

/-! ## A run that drafts a reply -/

/-- The calls of the second attempt of job `2` of tenant `1`. -/
def draftContexts (n : ℕ) : PortContext := ⟨2, 1, 100 + n, 0, 3600⟩

/-- The attempt that the run belongs to. -/
def draftAttempt : Attempt := ⟨2, 1, 1⟩

def draftCustomer : Customer := ⟨7, 1, none, some "Ada", some "ada@example.com", none⟩

/-- The job runs and its tenant has one customer. -/
def draftDb : Db where
  jobs := [{
    id := 2
    tenantId := 1
    traceId := 3
    status := .running
    sourceSnapshot := .null
    tenantConfigSnapshot := .null
    tenantConfigSha256 := replyFingerprint
    riskSignals := .null
    attemptCount := 1
    availableAt := 0
    leaseExpiresAt := some 60
    startedAt := some 0
    finishedAt := none
    sideEffectCommittedAt := none
    result := none
    errorCode := none
    createdAt := 0 }]
  idempotency := [⟨1, "key", "hash", some 2, none, .null⟩]
  approvals := []
  approvalEvents := []
  customers := [draftCustomer]
  cases := []
  caseEvents := []
  artifacts := []

/-- The double with the same customer. -/
def draftMemory : InMemory :=
  InMemory.addCustomer ⟨[], [], [], [], 9⟩ 1 draftCustomer.summary 7

theorem draft_mirrors : Mirrors draftAttempt False False draftMemory draftDb where
  customers := rfl
  customers_unique := List.nodup_singleton _
  cases _ := rfl
  cases_unique := List.nodup_nil
  artifacts _ := rfl
  jobs_unique := List.nodup_singleton _
  job := ⟨_, List.mem_singleton_self _, rfl, rfl, rfl, rfl⟩
  record := .inr ⟨_, rfl, rfl⟩
  approval := .inr fun _ h => absurd h List.not_mem_nil

def draftToolCall : ProposalToolCall where
  name := "create_reply_draft"
  arguments := []
  name_nonempty := replyToolCall.name_nonempty
  arguments_nodup := List.nodup_nil

/-- A model that always proposes the draft. -/
def draftClient : LLMClient Unit := fun _ =>
  .ok { replyProposal with toolCalls := [draftToolCall], toolCalls_bounded := le_rfl }

theorem draftContexts_newId_injective : Function.Injective fun n => (draftContexts n).newId :=
  fun _ _ h => Nat.add_left_cancel h

theorem double_run_follows_draft :
    (run draftClient (policyGatedToolExecutor noChecks (doublePort draftContexts) replyRuntime
        fun _ _ => false) 8 [] ⟨(draftMemory, 0), []⟩).1 =
      (run draftClient (policyGatedToolExecutor noChecks (databasePort draftContexts) replyRuntime
        fun _ _ => false) 8 [] ⟨(draftDb, 0), []⟩).1 := by
  have hfresh : ∀ n, Fresh (draftContexts n).newId draftDb := fun _ =>
    ⟨fun _ h => absurd h List.not_mem_nil, fun _ h => absurd h List.not_mem_nil,
      fun _ h => absurd h List.not_mem_nil⟩
  have htenant : replyRuntime.tenantId = draftAttempt.tenantId := rfl
  rcases double_run_follows draftContexts (fun _ => rfl) draftContexts_newId_injective htenant rfl
    draftClient noChecks (fun _ _ => false) 8 [] draft_mirrors hfresh rfl rfl with htwice | ⟨h, -⟩
  · exact absurd htwice (by decide +kernel)
  · exact h

end IntegraIntake
