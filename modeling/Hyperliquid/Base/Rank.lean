import Hyperliquid.Base.Run
import Mathlib.Data.Bool.Basic

/-!
# Ranks

A rank bounds how many steps of a run are due: a step that is due lowers it, and only a setback
raises it, by a bounded amount. A machine in which some step is due as long as its rank is
positive gets to rank zero, after as many due steps as the setbacks allow.
-/

namespace Hyperliquid.Base.Run

variable {σ ε : Type*} (step : σ → ε → σ) (due setback : σ → ε → Bool)

/-- The number of steps of a run that are of a kind. -/
def count (kind : σ → ε → Bool) : σ → List ε → Nat
  | _, [] => 0
  | s, e :: es => (kind s e).toNat + count kind (step s e) es

/-- A rank, for the steps that are allowed from states with an invariant: a setback raises it by
at most `loss`. -/
structure Recovers (Inv : σ → Prop) (A : σ → ε → Prop) (rank : σ → Nat) (loss : Nat) : Prop where
  inv : ∀ s e, Inv s → A s e → Inv (step s e)
  le : ∀ s e, Inv s → A s e →
    rank (step s e) + (due s e).toNat ≤ rank s + loss * (setback s e).toNat

/-- A rank that no step raises. -/
structure Ranked (Inv : σ → Prop) (A : σ → ε → Prop) (rank : σ → Nat) : Prop where
  inv : ∀ s e, Inv s → A s e → Inv (step s e)
  le : ∀ s e, Inv s → A s e → rank (step s e) + (due s e).toNat ≤ rank s

variable {step due setback} {Inv : σ → Prop} {A : σ → ε → Prop} {rank : σ → Nat} {loss : Nat}
  {s : σ} {es : List ε}

/-- The steps of a run that are due are paid from the rank and by the setbacks. -/
theorem Recovers.run (h : Recovers step due setback Inv A rank loss) (hs : Inv s)
    (hrun : Along step A s es) :
    rank (es.foldl step s) + count step due s es ≤ rank s + loss * count step setback s es := by
  induction es generalizing s with
  | nil => exact Nat.le_refl _
  | cons e es ih =>
    have hfirst := h.le s e hs hrun.1
    have hrest := ih (h.inv s e hs hrun.1) hrun.2
    rw [List.foldl_cons, count, count, Nat.mul_add]
    omega

/-- Without setbacks nothing is paid but the rank. -/
theorem Ranked.recovers (h : Ranked step due Inv A rank) :
    Recovers step due (fun _ _ ↦ false) Inv A rank 0 where
  inv := h.inv
  le s e hs hallowed := by
    rw [Nat.zero_mul]
    exact h.le s e hs hallowed

/-- After as many due steps as the rank, none is left. -/
theorem Ranked.rank_eq_zero (h : Ranked step due Inv A rank) (hs : Inv s)
    (hrun : Along step A s es) (hdue : rank s ≤ count step due s es) :
    rank (es.foldl step s) = 0 := by
  have := h.recovers.run hs hrun
  omega

end Hyperliquid.Base.Run
