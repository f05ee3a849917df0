import Mathlib.Order.Basic

/-!
# Runs of a machine that takes events

A machine is a function from a state and an event to the next state; a run is a list of
events. `Along` says that a condition holds at each step of a run, and the rules below
turn a statement about one step into a statement about every run.
-/

namespace Hyperliquid.Base.Run

variable {σ ε : Type*} (step : σ → ε → σ)

/-- `P` holds at every step of a run, of the state before the step and of its event. -/
def Along (P : σ → ε → Prop) : σ → List ε → Prop
  | _, [] => True
  | s, e :: es => P s e ∧ Along P (step s e) es

instance decidableAlong (P : σ → ε → Prop) [∀ s e, Decidable (P s e)] :
    ∀ s es, Decidable (Along step P s es)
  | _, [] => isTrue trivial
  | s, e :: es =>
    have := decidableAlong P (step s e) es
    inferInstanceAs (Decidable (P s e ∧ Along step P (step s e) es))

variable {step}

/-- A condition along a run holds of its first step and along the rest. -/
@[simp] theorem along_cons (P : σ → ε → Prop) (s : σ) (e : ε) (es : List ε) :
    Along step P s (e :: es) ↔ P s e ∧ Along step P (step s e) es := Iff.rfl

/-- A condition that each step preserves holds after every run. -/
theorem invariant_foldl (Inv : σ → Prop) {P : σ → ε → Prop}
    (hstep : ∀ s e, Inv s → P s e → Inv (step s e)) {s : σ} {es : List ε}
    (hs : Inv s) (hrun : Along step P s es) : Inv (es.foldl step s) := by
  induction es generalizing s with
  | nil => exact hs
  | cons e es ih => exact ih (hstep s e hs hrun.1) hrun.2

/-- What an invariant gives at each allowed step holds along a run of allowed steps. -/
theorem along_of_invariant (Inv : σ → Prop) {A P : σ → ε → Prop}
    (hstep : ∀ s e, Inv s → A s e → Inv (step s e)) (h : ∀ s e, Inv s → A s e → P s e)
    {s : σ} {es : List ε} (hs : Inv s) (hrun : Along step A s es) : Along step P s es := by
  induction es generalizing s with
  | nil => trivial
  | cons e es ih => exact ⟨h s e hs hrun.1, ih (hstep s e hs hrun.1) hrun.2⟩

/-- Under an invariant, conditions that agree at each allowed step agree along a run. -/
theorem along_congr (Inv : σ → Prop) (A : σ → ε → Prop) {P Q : σ → ε → Prop}
    (hstep : ∀ s e, Inv s → A s e → Inv (step s e))
    (hiff : ∀ s e, Inv s → A s e → (P s e ↔ Q s e)) {s : σ} {es : List ε}
    (hs : Inv s) (hrun : Along step A s es) : Along step P s es ↔ Along step Q s es := by
  induction es generalizing s with
  | nil => exact Iff.rfl
  | cons e es ih =>
    rw [along_cons, along_cons, hiff s e hs hrun.1, ih (hstep s e hs hrun.1) hrun.2]

/-- A condition on the events alone holds along a run that has only such events. -/
theorem along_of_forall {P : ε → Prop} (s : σ) {es : List ε} (h : ∀ e ∈ es, P e) :
    Along step (fun _ e ↦ P e) s es := by
  induction es generalizing s with
  | nil => trivial
  | cons e es ih =>
    refine ⟨h e (List.mem_cons_self ..), ih _ ?_⟩
    intro e' he'
    exact h e' (List.mem_cons_of_mem _ he')

/-- Every run is allowed where nothing is asked of a step. -/
theorem along_true (s : σ) (es : List ε) : Along step (fun _ _ ↦ True) s es :=
  along_of_forall s fun _ _ ↦ trivial

/-! ## What the steps of a run put out -/

section

variable {ω τ : Type*} (step) (out : σ → ε → List ω)

/-- What the steps of a run put out, in order. -/
def outputs : σ → List ε → List ω
  | _, [] => []
  | s, e :: es => out s e ++ outputs (step s e) es

variable {step out}

/-- A machine whose steps are runs of another does in each of its runs what that machine does on
all that the steps put out. -/
theorem view_foldl {astep : τ → ω → τ} {view : σ → τ}
    (hstep : ∀ s e, view (step s e) = (out s e).foldl astep (view s)) (s : σ) (es : List ε) :
    view (es.foldl step s) = (outputs step out s es).foldl astep (view s) := by
  induction es generalizing s with
  | nil => rfl
  | cons e es ih => rw [List.foldl_cons, ih, hstep, outputs, List.foldl_append]

private theorem along_append {astep : τ → ω → τ} (P : τ → ω → Prop) (t : τ) (ws ws' : List ω) :
    Along astep P t (ws ++ ws') ↔ Along astep P t ws ∧ Along astep P (ws.foldl astep t) ws' := by
  induction ws generalizing t with
  | nil => exact (iff_of_eq (true_and _)).symm
  | cons w ws ih => rw [List.cons_append, along_cons, along_cons, ih, and_assoc, List.foldl_cons]

/-- What holds along the part of each step holds along the whole. -/
theorem along_outputs {astep : τ → ω → τ} {view : σ → τ} {P : τ → ω → Prop}
    (hstep : ∀ s e, view (step s e) = (out s e).foldl astep (view s)) {s : σ} {es : List ε}
    (h : Along step (fun s e ↦ Along astep P (view s) (out s e)) s es) :
    Along astep P (view s) (outputs step out s es) := by
  induction es generalizing s with
  | nil => trivial
  | cons e es ih =>
    rw [outputs, along_append, ← hstep]
    exact ⟨h.1, ih h.2⟩

end

end Hyperliquid.Base.Run
