import Hyperliquid.Base.Run
import Mathlib.Algebra.Order.Group.Defs
import Mathlib.Data.List.Chain
import Mathlib.Tactic.Common

/-!
# Timers that wait for a period

A timer is asked at instants that a clock reads, in any order. It fires when its next instant has
passed, and then waits for a period. A machine may keep a timer that it asks in some of its steps.
-/

namespace Hyperliquid.Base

/-- The next instant of a timer, and when it has fired. -/
structure PeriodicTimer (α : Type*) where
  next : α
  fired : List α

namespace PeriodicTimer

variable {α : Type*} [AddCommGroup α] [LinearOrder α]

/-- A timer that has not fired. -/
def start (first : α) : PeriodicTimer α := ⟨first, []⟩

def ask (period : α) (timer : PeriodicTimer α) (now : α) : PeriodicTimer α :=
  if timer.next < now then ⟨now + period, timer.fired ++ [now]⟩ else timer

/-- A timer has fired at instants that are more than a period apart, and waits for a period since
the last of them. -/
structure Spaced (first period : α) (timer : PeriodicTimer α) : Prop where
  isChain : timer.fired.IsChain fun earlier later ↦ earlier + period < later
  next_eq : timer.next = (timer.fired.getLast?.map (· + period)).getD first

variable {first period : α} {timer : PeriodicTimer α}

private theorem spaced_start (first period : α) : Spaced first period (start first) := ⟨.nil, rfl⟩

/-- A timer that is asked stays spaced. -/
theorem Spaced.ask (h : Spaced first period timer) (now : α) :
    Spaced first period (timer.ask period now) := by
  unfold PeriodicTimer.ask
  split
  · next hpassed =>
    refine ⟨?_, ?_⟩
    · refine List.isChain_append.mpr ⟨h.isChain, .singleton _, ?_⟩
      intro last hlast later hlater
      rw [List.head?_singleton, Option.mem_some_iff] at hlater
      have hnext : timer.next = last + period := by
        rw [h.next_eq, Option.mem_def.mp hlast]
        rfl
      rw [← hlater, ← hnext]
      exact hpassed
    · rw [List.getLast?_append, List.getLast?_singleton]
      rfl
  · exact h

/-- Once it has been asked, a timer waits for the instant at which it was asked or a later one. -/
theorem le_next_ask [IsOrderedAddMonoid α] (hperiod : 0 ≤ period) (timer : PeriodicTimer α)
    (now : α) : now ≤ (timer.ask period now).next := by
  unfold PeriodicTimer.ask
  split
  · exact le_add_of_nonneg_right hperiod
  · next hpassed => exact not_lt.mp hpassed

/-- A timer that waits for a time after its first has fired, a period before that. -/
theorem Spaced.exists_last (h : Spaced first period timer) {now : α} (hfirst : first < now)
    (hnext : now ≤ timer.next) :
    ∃ last, timer.fired.getLast? = some last ∧ now ≤ last + period := by
  rw [h.next_eq] at hnext
  cases hlast : timer.fired.getLast? with
  | none =>
    rw [hlast] at hnext
    exact absurd hnext (not_le.mpr hfirst)
  | some last =>
    rw [hlast] at hnext
    exact ⟨last, rfl, hnext⟩

private theorem fired_ask (timer : PeriodicTimer α) (now : α) :
    (timer.ask period now).fired = timer.fired ∨
      (timer.ask period now).fired = timer.fired ++ [now] := by
  unfold PeriodicTimer.ask
  split
  · exact .inr rfl
  · exact .inl rfl

end PeriodicTimer

section

variable {σ ε α : Type*} [AddCommGroup α] [LinearOrder α] (step : σ → ε → σ)
  (asks : σ → ε → Option α) (period : α)

/-- A machine keeps a timer: some of its steps ask the timer, and the others leave it. -/
def KeepsTimer (timer : σ → PeriodicTimer α) : Prop :=
  ∀ state event, timer (step state event) =
    (asks state event).elim (timer state) ((timer state).ask period)

/-- What a timer does in a run: it fires at instants that are more than a period apart, at those
at which it is asked only, and where it is asked after its first instant it has fired, now or at
most a period ago. -/
structure Paced (fired : σ → List α) (first : α) (start : σ) (events : List ε) : Prop where
  isChain : (fired (events.foldl step start)).IsChain fun earlier later ↦ earlier + period < later
  asked : Run.Along step (fun state event ↦ fired (step state event) = fired state ∨
    ∃ now ∈ asks state event, fired (step state event) = fired state ++ [now]) start events
  recent : Run.Along step (fun state event ↦ ∀ now ∈ asks state event, first < now →
    ∃ last ∈ (fired (step state event)).getLast?, now ≤ last + period) start events

variable {step asks period} {timer : σ → PeriodicTimer α} {first : α}

namespace KeepsTimer

variable (h : KeepsTimer step asks period timer)
include h

private theorem step_eq_of_asks {state : σ} {event : ε} {now : α}
    (hasks : asks state event = some now) :
    timer (step state event) = (timer state).ask period now := by
  rw [h, hasks, Option.elim_some]

private theorem spaced_step {state : σ} (hspaced : (timer state).Spaced first period) (event : ε) :
    (timer (step state event)).Spaced first period := by
  rw [h]
  cases asks state event with
  | none => exact hspaced
  | some now => exact hspaced.ask now

private theorem fired_step (state : σ) (event : ε) :
    (timer (step state event)).fired = (timer state).fired ∨
      ∃ now ∈ asks state event,
        (timer (step state event)).fired = (timer state).fired ++ [now] := by
  cases hasks : asks state event with
  | none =>
    left
    rw [h, hasks, Option.elim_none]
  | some now =>
    rw [h.step_eq_of_asks hasks]
    exact (PeriodicTimer.fired_ask (timer state) now).imp_right fun hfired ↦ ⟨now, rfl, hfired⟩

private theorem recent_step [IsOrderedAddMonoid α] (hperiod : 0 ≤ period) {state : σ} {event : ε}
    (hspaced : (timer state).Spaced first period) {now : α} (hasks : now ∈ asks state event)
    (hfirst : first < now) :
    ∃ last ∈ (timer (step state event)).fired.getLast?, now ≤ last + period := by
  apply (h.spaced_step hspaced event).exists_last hfirst
  rw [h.step_eq_of_asks hasks]
  exact PeriodicTimer.le_next_ask hperiod (timer state) now

/-- A timer that a machine keeps is paced in every run. -/
theorem paced [IsOrderedAddMonoid α] (hperiod : 0 ≤ period) {start : σ}
    (hstart : timer start = .start first) (events : List ε) :
    Paced step asks period (fun state ↦ (timer state).fired) first start events := by
  have hspaced : (timer start).Spaced first period :=
    hstart ▸ PeriodicTimer.spaced_start first period
  have hallowed : Run.Along step (fun _ _ ↦ True) start events := Run.along_true start events
  let Inv := fun state ↦ (timer state).Spaced first period
  have hstep : ∀ state event, Inv state → True → Inv (step state event) :=
    fun _ event hstate _ ↦ h.spaced_step hstate event
  refine ⟨(Run.invariant_foldl Inv hstep hspaced hallowed).isChain, ?_, ?_⟩
  · exact Run.along_of_invariant Inv hstep (fun state event _ _ ↦ h.fired_step state event)
      hspaced hallowed
  · exact Run.along_of_invariant Inv hstep
      (fun _ _ hstate _ _ hasks hfirst ↦ h.recent_step hperiod hstate hasks hfirst)
      hspaced hallowed

end KeepsTimer
end
end Hyperliquid.Base
