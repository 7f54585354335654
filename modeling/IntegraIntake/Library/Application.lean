import Mathlib.Data.List.Basic

/-!
# Applications that receive and send

An application is a state machine that says in each state what it does next: take a
message from its connection, send one, or end.  A receive may also raise instead of
returning a message, if the application runs inside another one that makes it so.
The connection holds the messages that are still to come and keeps those that went
either way.

`Reads` is the same application seen from the inside: the states it goes through,
whatever its receives return.
-/

namespace IntegraIntake.Library

/-- What an application does next. -/
inductive Action (σ Message Out ε : Type) where
  | receive (resume : Except ε Message → σ)
  | send (out : Out) (next : σ)
  | finish (result : Except ε Unit)

/-- What an application does next in each of its states. -/
abbrev Application (σ Message Out ε : Type) := σ → Action σ Message Out ε

/-- An application and its connection. -/
structure Connection (σ Message Out : Type) where
  state : σ
  pending : List Message
  delivered : List Message
  sent : List Out

namespace Connection

variable {σ Message Out : Type}

/-- The connection before the first step. -/
def start (state : σ) (messages : List Message) : Connection σ Message Out :=
  ⟨state, messages, [], []⟩

end Connection

namespace Application

variable {σ Message Out ε : Type} (app : Application σ Message Out ε)

/-- One step.  A receive without a message to come waits, and an ended application stays
as it is. -/
def step (connection : Connection σ Message Out) : Connection σ Message Out :=
  match app connection.state with
  | .receive resume =>
    match connection.pending with
    | [] => connection
    | message :: rest =>
      { connection with
        state := resume (.ok message)
        pending := rest
        delivered := connection.delivered ++ [message] }
  | .send out next => { connection with state := next, sent := connection.sent ++ [out] }
  | .finish _ => connection

/-- The connection after so many steps. -/
def run (connection : Connection σ Message Out) : ℕ → Connection σ Message Out
  | 0 => connection
  | n + 1 => step app (run connection n)

/-- The states that the application goes through while its receives return `results`,
and what it sends. -/
inductive Reads : σ → List (Except ε Message) → List Out → σ → Prop
  | refl (state : σ) : Reads state [] [] state
  | receive {first state : σ} {results : List (Except ε Message)} {sent : List Out}
      {resume : Except ε Message → σ} (result : Except ε Message) :
      Reads first results sent state → app state = .receive resume →
      Reads first (results ++ [result]) sent (resume result)
  | send {first state next : σ} {results : List (Except ε Message)} {sent : List Out} {out : Out} :
      Reads first results sent state → app state = .send out next →
      Reads first results (sent ++ [out]) next

variable {app} {connection : Connection σ Message Out}

theorem step_receive {resume : Except ε Message → σ} {message : Message} {rest : List Message}
    (haction : app connection.state = .receive resume)
    (hpending : connection.pending = message :: rest) :
    step app connection = { connection with
      state := resume (.ok message)
      pending := rest
      delivered := connection.delivered ++ [message] } := by
  rw [step, haction]
  simp only [hpending]

theorem step_waits {resume : Except ε Message → σ}
    (haction : app connection.state = .receive resume) (hpending : connection.pending = []) :
    step app connection = connection := by
  rw [step, haction]
  simp only [hpending]

theorem step_send {out : Out} {next : σ} (haction : app connection.state = .send out next) :
    step app connection =
      { connection with state := next, sent := connection.sent ++ [out] } := by
  rw [step, haction]

theorem step_finish {result : Except ε Unit} (haction : app connection.state = .finish result) :
    step app connection = connection := by
  rw [step, haction]

/-- What a step can be. -/
theorem step_cases (app : Application σ Message Out ε) (connection : Connection σ Message Out) :
    (step app connection = connection ∧
      ((∃ resume, app connection.state = .receive resume ∧ connection.pending = []) ∨
        ∃ result, app connection.state = .finish result)) ∨
    (∃ resume message rest, app connection.state = .receive resume ∧
      connection.pending = message :: rest ∧
      step app connection = { connection with
        state := resume (.ok message)
        pending := rest
        delivered := connection.delivered ++ [message] }) ∨
    ∃ out next, app connection.state = .send out next ∧
      step app connection =
        { connection with state := next, sent := connection.sent ++ [out] } := by
  cases haction : app connection.state with
  | receive resume =>
      cases hpending : connection.pending with
      | nil => exact .inl ⟨step_waits haction hpending, .inl ⟨resume, rfl, rfl⟩⟩
      | cons message rest =>
          exact .inr (.inl ⟨resume, message, rest, rfl, rfl, step_receive haction hpending⟩)
  | send out next => exact .inr (.inr ⟨out, next, rfl, step_send haction⟩)
  | finish result => exact .inl ⟨step_finish haction, .inr ⟨result, rfl⟩⟩

theorem run_add (app : Application σ Message Out ε) (connection : Connection σ Message Out)
    (m n : ℕ) : run app connection (m + n) = run app (run app connection m) n := by
  induction n with
  | zero => rfl
  | succ n ih => rw [Nat.add_succ, run, ih, run]

theorem run_finish {result : Except ε Unit} (haction : app connection.state = .finish result)
    (n : ℕ) : run app connection n = connection := by
  induction n with
  | zero => rfl
  | succ n ih => rw [run, ih, step_finish haction]

/-- A run from its first step on. -/
theorem run_step (app : Application σ Message Out ε) (connection : Connection σ Message Out)
    (n : ℕ) : run app connection (n + 1) = run app (step app connection) n := by
  rw [Nat.add_comm, run_add]
  rfl

/-- An application that only sends what it has decided to send. -/
theorem run_sends (app : Application σ Message Out ε) (left : List Out → σ)
    {connection : Connection σ Message Out} {result : Except ε Unit}
    (hnil : app (left []) = .finish result)
    (hcons : ∀ out rest, app (left (out :: rest)) = .send out (left rest)) {rest : List Out}
    (hstate : connection.state = left rest) (k : ℕ) :
    run app connection (rest.length + k) =
      { connection with state := left [], sent := connection.sent ++ rest } := by
  induction rest generalizing connection with
  | nil =>
      have haction : app connection.state = .finish result := by rw [hstate, hnil]
      rw [List.length_nil, run_finish haction, ← hstate, List.append_nil]
  | cons out rest ih =>
      have haction : app connection.state = .send out (left rest) := by rw [hstate, hcons]
      rw [List.length_cons, Nat.succ_add, run_step, step_send haction, ih rfl]
      simp

/-- No message is lost or made up. -/
theorem delivered_append_pending (app : Application σ Message Out ε)
    (connection : Connection σ Message Out) (n : ℕ) :
    (run app connection n).delivered ++ (run app connection n).pending =
      connection.delivered ++ connection.pending := by
  induction n with
  | zero => rfl
  | succ n ih =>
      rw [run]
      rcases step_cases app (run app connection n) with ⟨hsame, -⟩ |
        ⟨resume, message, rest, -, hpending, hstep⟩ | ⟨out, next, -, hstep⟩
      · rw [hsame, ih]
      · rw [hstep, ← ih, hpending]
        simp
      · rw [hstep]
        exact ih

end Application

end IntegraIntake.Library
