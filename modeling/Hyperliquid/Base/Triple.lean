import Hyperliquid.Base.Procedure

/-!
# Triples for procedures

What a procedure does to a state that takes its events: from a state with the precondition
it returns in one with the postcondition of its value, or fails in one with the
postcondition of the failure.
-/

namespace Hyperliquid.Base.Proc

variable {σ ω ε α β : Type}

/-- A triple, with the effect of an event on the state. -/
structure Triple (apply : σ → ω → σ) (P : σ → Prop) (x : Proc ω ε α) (Q : α → σ → Prop)
    (E : Failure ε → σ → Prop) : Prop where
  ok : ∀ s a, P s → x.result = .ok a → Q a (x.events.foldl apply s)
  error : ∀ s failure, P s → x.result = .error failure → E failure (x.events.foldl apply s)

namespace Triple

variable {apply : σ → ω → σ} {P : σ → Prop} {Q : α → σ → Prop} {E E' : Failure ε → σ → Prop}

/-- A value leaves the state. -/
theorem pure {a : α} (h : ∀ s, P s → Q a s) :
    Triple apply P (Pure.pure a : Proc ω ε α) Q E where
  ok := by
    intro s a' hs hresult
    cases hresult
    exact h s hs
  error := nofun

/-- An exception leaves the state. -/
theorem throw {e : ε} (h : ∀ s, P s → E (.thrown e) s) :
    Triple apply P (Proc.throw e : Proc ω ε α) Q E where
  ok := nofun
  error := by
    intro s failure hs hresult
    cases hresult
    exact h s hs

/-- The end of the process leaves the state. -/
theorem fatal {text : String} (h : ∀ s, P s → E (.fatal text) s) :
    Triple apply P (Proc.fatal text : Proc ω ε α) Q E where
  ok := nofun
  error := by
    intro s failure hs hresult
    cases hresult
    exact h s hs

/-- An effect is applied to the state. -/
theorem emit {event : ω} {Q : Unit → σ → Prop} (h : ∀ s, P s → Q () (apply s event)) :
    Triple apply P (Proc.emit event : Proc ω ε Unit) Q E where
  ok s _ hs _ := h s hs
  error := nofun

/-- A result is handed on, or its error is thrown. -/
theorem ofExcept {wrap : String → ε} {x : Except String α} (hok : ∀ a s, x = .ok a → P s → Q a s)
    (herror : ∀ what s, P s → E (.thrown (wrap what)) s) :
    Triple apply P (Proc.ofExcept wrap x : Proc ω ε α) Q E := by
  cases x with
  | ok a => exact pure fun s hs ↦ hok a s rfl hs
  | error what => exact throw (herror what)

/-- A result is handed on, or its exception is thrown. -/
theorem ofThrows {x : Except ε α} (hok : ∀ a s, P s → Q a s)
    (herror : ∀ e s, P s → E (.thrown e) s) :
    Triple apply P (Proc.ofThrows x : Proc ω ε α) Q E := by
  cases x with
  | ok a => exact pure (hok a)
  | error e => exact throw (herror e)

/-- A sequence: the second part starts where the first has returned. -/
theorem bind {x : Proc ω ε α} {f : α → Proc ω ε β} {R : α → σ → Prop} {Q : β → σ → Prop}
    (hx : Triple apply P x R E) (hf : ∀ a, x.result = .ok a → Triple apply (R a) (f a) Q E) :
    Triple apply P (x >>= f) Q E := by
  obtain ⟨events, result⟩ := x
  cases result with
  | error failure =>
    refine ⟨nofun, ?_⟩
    intro s failure' hs hresult
    cases hresult
    exact hx.error s failure hs rfl
  | ok a =>
    constructor
    · intro s b hs hresult
      show Q b (List.foldl apply s (events ++ (f a).events))
      rw [List.foldl_append]
      exact (hf a rfl).ok _ b (hx.ok s a hs rfl) hresult
    · intro s failure hs hresult
      show E failure (List.foldl apply s (events ++ (f a).events))
      rw [List.foldl_append]
      exact (hf a rfl).error _ failure (hx.ok s a hs rfl) hresult

/-- A call that throws nothing changes nothing. -/
theorem ofThrows_bind {x : Except ε α} {f : α → Proc ω ε β} {Q : β → σ → Prop}
    (hthrow : ∀ e s, P s → E (.thrown e) s) (hf : ∀ a, x = .ok a → Triple apply P (f a) Q E) :
    Triple apply P (Proc.ofThrows x >>= f) Q E := by
  cases x with
  | ok a => exact hf a rfl
  | error e => exact throw (hthrow e)

/-- What follows a result is proved for every result. -/
theorem ofExcept_bind {wrap : String → ε} {x : Except String α} {f : α → Proc ω ε β}
    {Q : β → σ → Prop} (hthrow : ∀ e s, P s → E (.thrown e) s)
    (hf : ∀ a, x = .ok a → Triple apply P (f a) Q E) :
    Triple apply P (Proc.ofExcept wrap x >>= f) Q E := by
  cases x with
  | ok a => exact hf a rfl
  | error what => exact throw (hthrow (wrap what))

/-- A weaker postcondition. -/
theorem mono {x : Proc ω ε α} {Q' : α → σ → Prop} (h : Triple apply P x Q E)
    (hok : ∀ a s, Q a s → Q' a s) (herror : ∀ failure s, E failure s → E' failure s) :
    Triple apply P x Q' E' where
  ok s a hs hresult := hok a _ (h.ok s a hs hresult)
  error s failure hs hresult := herror failure _ (h.error s failure hs hresult)

/-- A stronger precondition. -/
theorem pre {x : Proc ω ε α} {P' : σ → Prop} (h : Triple apply P x Q E)
    (hpre : ∀ s, P' s → P s) : Triple apply P' x Q E where
  ok s a hs hresult := h.ok s a (hpre s hs) hresult
  error s failure hs hresult := h.error s failure (hpre s hs) hresult

/-- A condition that each event keeps is kept. -/
theorem of_emits {x : Proc ω ε α} {A : ω → Prop} (hx : x.Emits A)
    (hkeep : ∀ s event, P s → A event → P (apply s event)) :
    Triple apply P x (fun _ ↦ P) fun _ ↦ P := by
  have hfold : ∀ s, P s → P (x.events.foldl apply s) := by
    intro s hs
    refine List.foldlRecOn x.events apply hs ?_
    intro s' hs' event hevent
    exact hkeep s' event hs' (hx.forall_mem event hevent)
  exact ⟨fun s _ hs _ ↦ hfold s hs, fun s _ hs _ ↦ hfold s hs⟩

/-- A handler starts where the exception was thrown. -/
theorem catchThrown {x : Proc ω ε α} {handler : ε → Proc ω ε α} (hx : Triple apply P x Q E)
    (hhandler : ∀ e, Triple apply (E (.thrown e)) (handler e) Q E) :
    Triple apply P (Proc.catchThrown x handler) Q E := by
  obtain ⟨events, result⟩ := x
  cases result with
  | ok a => exact hx
  | error failure =>
    cases failure with
    | fatal text => exact hx
    | thrown e =>
      constructor
      · intro s a hs hresult
        show Q a (List.foldl apply s (events ++ (handler e).events))
        rw [List.foldl_append]
        exact (hhandler e).ok _ a (hx.error s _ hs rfl) hresult
      · intro s failure hs hresult
        show E failure (List.foldl apply s (events ++ (handler e).events))
        rw [List.foldl_append]
        exact (hhandler e).error _ failure (hx.error s _ hs rfl) hresult

end Triple
end Hyperliquid.Base.Proc
