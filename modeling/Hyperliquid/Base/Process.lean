import Mathlib.Data.List.Basic
import Mathlib.Tactic.Common

/-!
# Processes that end

A process handles events until its handler fails, and then no more. Where the event alone tells
whether its handler fails, a run goes as far as the first event that fails, and what it leaves in
a log is what the events before it say, whatever else the state holds.
-/

namespace Hyperliquid.Base

/-- A state, and whether the process has ended. -/
structure Process (σ : Type*) where
  state : σ
  ended : Bool

namespace Process

variable {σ ε φ ω : Type*}

/-- A process that has handled nothing. -/
def start (state : σ) : Process σ := ⟨state, false⟩

/-- One event: a failure of its handler ends the process, and the state stays. -/
def step (handle : ε → σ → Except φ σ) (process : Process σ) (event : ε) : Process σ :=
  if process.ended then process
  else
    match handle event process.state with
    | .ok state => { process with state }
    | .error _ => { process with ended := true }

def run (handle : ε → σ → Except φ σ) (process : Process σ) (events : List ε) : Process σ :=
  events.foldl (step handle) process

/-- A handler that returns for the events that it accepts, and adds to a log what they say. -/
structure Handles (handle : ε → σ → Except φ σ) (accepts : ε → Bool) (log : σ → List ω)
    (said : ε → List ω) : Prop where
  ok : ∀ {event}, accepts event = true → ∀ state,
    ∃ state', handle event state = .ok state' ∧ log state' = log state ++ said event
  error : ∀ {event}, accepts event = false → ∀ state,
    ∃ failure, handle event state = .error failure

private theorem step_of_ok {handle : ε → σ → Except φ σ} {event : ε} {state state' : σ}
    (h : handle event state = .ok state') :
    step handle (start state) event = start state' := by
  rw [step, start, if_neg Bool.false_ne_true, h]
  rfl

private theorem step_of_error {handle : ε → σ → Except φ σ} {event : ε} {state : σ} {failure : φ}
    (h : handle event state = .error failure) :
    step handle (start state) event = ⟨state, true⟩ := by
  rw [step, start, if_neg Bool.false_ne_true, h]

/-- Nothing happens in a process that has ended. -/
theorem run_of_ended (handle : ε → σ → Except φ σ) (state : σ) (events : List ε) :
    run handle ⟨state, true⟩ events = ⟨state, true⟩ := by
  induction events with
  | nil => rfl
  | cons event events ih => exact ih

namespace Handles

variable {handle : ε → σ → Except φ σ} {accepts : ε → Bool} {log : σ → List ω}
  {said : ε → List ω}

/-- The log of a run: what the events say that come before the first that is not accepted. -/
theorem log_run (h : Handles handle accepts log said) (state : σ) (events : List ε) :
    log (run handle (start state) events).state =
      log state ++ (events.takeWhile accepts).flatMap said := by
  induction events generalizing state with
  | nil => exact (List.append_nil _).symm
  | cons event events ih =>
    rw [run, List.foldl_cons]
    cases haccepts : accepts event with
    | true =>
      obtain ⟨state', hstate', hlog⟩ := h.ok haccepts state
      rw [step_of_ok hstate', List.takeWhile_cons_of_pos haccepts, List.flatMap_cons,
        ← List.append_assoc, ← hlog]
      exact ih state'
    | false =>
      obtain ⟨failure, hfailure⟩ := h.error haccepts state
      rw [step_of_error hfailure, List.takeWhile_cons_of_neg (Bool.not_eq_true _ ▸ haccepts)]
      exact (congrArg (log ·.state) (run_of_ended handle state events)).trans
        (List.append_nil _).symm

end Handles
end Process
end Hyperliquid.Base
