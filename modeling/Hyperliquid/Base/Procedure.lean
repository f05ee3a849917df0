/-!
# Procedures that return, throw or end the process

C++ functions of the modelled kind leave in one of three ways. An exception keeps
every effect made before it and can be caught; `log::fatal` and `std::terminate` end
the process and cannot. `Failure` names the two abnormal ways for pure functions; `Proc`
adds the events a function emits, which stay when it does not return.
-/

namespace Hyperliquid.Base

/-- Why a function does not return. -/
inductive Failure (ε : Type) where
  | thrown (e : ε)
  | fatal (text : String)
  deriving DecidableEq, Repr

/-- A sequence that returns has returned from each of its two parts. -/
theorem bind_eq_ok {ε α β : Type} {x : Except ε α} {f : α → Except ε β} {b : β} :
    (x >>= f) = .ok b ↔ ∃ a, x = .ok a ∧ f a = .ok b := by
  cases x with
  | error e => simp [bind, Except.bind]
  | ok a => simp [bind, Except.bind]

/-- A sequence that does not return has stopped in one of its two parts. -/
theorem bind_eq_error {ε α β : Type} {x : Except ε α} {f : α → Except ε β} {e : ε} :
    (x >>= f) = .error e ↔ x = .error e ∨ ∃ a, x = .ok a ∧ f a = .error e := by
  cases x with
  | error e' => simp [bind, Except.bind]
  | ok a => simp [bind, Except.bind]

/-- A loop that does not return has stopped in one of its rounds. -/
theorem exists_of_foldlM_eq_error {ε α β : Type} {f : β → α → Except ε β} {items : List α}
    {b : β} {e : ε} (h : items.foldlM f b = .error e) : ∃ b item, f b item = .error e := by
  induction items generalizing b with
  | nil => cases h
  | cons item items ih =>
    rw [List.foldlM_cons] at h
    rcases bind_eq_error.mp h with hitem | ⟨next, _, hitems⟩
    · exact ⟨b, item, hitem⟩
    · exact ih hitems

/-- A list whose items are all computed starts with its first item. -/
theorem mapM_cons_eq_ok {ε α β : Type} {f : α → Except ε β} {item : α} {items : List α}
    {values : List β} (h : (item :: items).mapM f = .ok values) :
    ∃ value rest, f item = .ok value ∧ values = value :: rest := by
  rw [List.mapM_cons] at h
  obtain ⟨value, hitem, h⟩ := bind_eq_ok.mp h
  obtain ⟨rest, _, h⟩ := bind_eq_ok.mp h
  exact ⟨value, rest, hitem, (Except.ok.inj h).symm⟩

/-- What is computed has a value. -/
theorem exists_of_isOk {ε α : Type} {x : Except ε α} (h : x.isOk = true) : ∃ a, x = .ok a := by
  cases x with
  | error e => cases h
  | ok a => exact ⟨a, rfl⟩

/-- A procedure without a value returns one thing. -/
theorem eq_ok_of_isOk {ε : Type} {x : Except ε Unit} (h : x.isOk = true) : x = .ok () := by
  obtain ⟨_, hok⟩ := exists_of_isOk h
  exact hok

/-- What is computed has a value that passes a test. -/
theorem exists_of_any_toOption {ε α : Type} {x : Except ε α} {p : α → Bool}
    (h : x.toOption.any p = true) : ∃ a, x = .ok a ∧ p a = true := by
  cases x with
  | error e => cases h
  | ok a => exact ⟨a, rfl, h⟩

/-- A list is computed exactly when each of its items is. -/
theorem isOk_mapM_iff {ε α β : Type} (f : α → Except ε β) (items : List α) :
    (items.mapM f).isOk ↔ ∀ item ∈ items, (f item).isOk := by
  induction items with
  | nil => exact iff_of_true rfl nofun
  | cons item items ih =>
    rw [List.mapM_cons, List.forall_mem_cons, ← ih]
    cases f item with
    | error e => exact iff_of_false nofun fun h ↦ nomatch h.1
    | ok value =>
      cases items.mapM f with
      | error e => exact iff_of_false nofun fun h ↦ nomatch h.2
      | ok values => exact iff_of_true rfl ⟨rfl, rfl⟩

/-- A procedure: the events it emits, and how it ends. -/
@[ext]
structure Proc (ω ε α : Type) where
  events : List ω
  result : Except (Failure ε) α

namespace Proc

variable {ω ε α β : Type}

instance : Monad (Proc ω ε) where
  pure a := ⟨[], .ok a⟩
  bind x f :=
    match x.result with
    | .ok a => ⟨x.events ++ (f a).events, (f a).result⟩
    | .error failure => ⟨x.events, .error failure⟩

/-- Emits one event. -/
def emit (event : ω) : Proc ω ε Unit := ⟨[event], .ok ()⟩

/-- Throws an exception. -/
def throw (e : ε) : Proc ω ε α := ⟨[], .error (.thrown e)⟩

/-- Ends the process. -/
def fatal (text : String) : Proc ω ε α := ⟨[], .error (.fatal text)⟩

/-- A constructor or a function of a library, which emits nothing. -/
def ofExcept (wrap : String → ε) : Except String α → Proc ω ε α
  | .ok a => pure a
  | .error what => throw (wrap what)

/-- A call that returns or throws, and emits nothing. -/
def ofThrows : Except ε α → Proc ω ε α
  | .ok a => pure a
  | .error e => throw e

/-- `try` and `catch`: the handler runs after an exception, and what was emitted stays. -/
def catchThrown (x : Proc ω ε α) (handler : ε → Proc ω ε α) : Proc ω ε α :=
  match x.result with
  | .error (.thrown e) => ⟨x.events ++ (handler e).events, (handler e).result⟩
  | _ => x

/-- A value is handed on. -/
@[simp] theorem pure_bind (a : α) (f : α → Proc ω ε β) : (pure a >>= f) = f a := rfl

/-- Nothing follows a value. -/
@[simp] theorem bind_pure (x : Proc ω ε α) : (x >>= pure) = x := by
  obtain ⟨events, result⟩ := x
  cases result with
  | ok a => exact Proc.ext (List.append_nil events) rfl
  | error failure => rfl

/-- Nothing follows the end. -/
@[simp] theorem bind_pure_unit (x : Proc ω ε Unit) : (x >>= fun _ ↦ pure ()) = x := bind_pure x

/-- An effect comes before what follows it. -/
@[simp] theorem emit_bind (event : ω) (f : Unit → Proc ω ε β) :
    (emit event >>= f) = ⟨event :: (f ()).events, (f ()).result⟩ := rfl

/-- What follows may be grouped either way. -/
theorem bind_assoc {γ : Type} (x : Proc ω ε α) (f : α → Proc ω ε β) (g : β → Proc ω ε γ) :
    ((x >>= f) >>= g) = (x >>= fun a ↦ f a >>= g) := by
  obtain ⟨events, result⟩ := x
  cases result with
  | error failure => rfl
  | ok a =>
    apply Proc.ext
    · cases hf : (f a).result <;> simp [bind, hf]
    · cases hf : (f a).result <;> simp [bind, hf]

/-- A result is handed on. -/
@[simp] theorem ofExcept_ok (wrap : String → ε) (a : α) :
    (ofExcept wrap (.ok a) : Proc ω ε α) = pure a := rfl

/-- A procedure that throws nothing is not handled. -/
theorem catchThrown_of_not_thrown {x : Proc ω ε α} (h : ∀ e, x.result ≠ .error (.thrown e))
    (handler : ε → Proc ω ε α) : catchThrown x handler = x := by
  unfold catchThrown
  split
  · next e he => exact absurd he (h e)
  · rfl

/-- A handler that ends the process leaves no exception. -/
theorem catchThrown_fatal_not_thrown (x : Proc ω ε α) (text : String) (e : ε) :
    (catchThrown x fun _ ↦ fatal text).result ≠ .error (.thrown e) := by
  unfold catchThrown
  split
  · simp [fatal]
  · next hne => exact hne e

/-- A procedure whose exceptions are handled returns, if it does not end the process. -/
theorem catchThrown_result {x : Proc ω ε Unit} {handler : ε → Proc ω ε Unit}
    (hhandler : ∀ e, (handler e).result = .ok ()) (hx : ∀ text, x.result ≠ .error (.fatal text)) :
    (catchThrown x handler).result = .ok () := by
  unfold catchThrown
  split
  · next e _ => exact hhandler e
  · next hthrown =>
    cases hresult : x.result with
    | ok _ => rfl
    | error failure =>
      cases failure with
      | thrown e => exact absurd hresult (hthrown e)
      | fatal text => exact absurd hresult (hx text)

/-- Every event that a procedure emits has a property. -/
structure Emits (P : ω → Prop) (x : Proc ω ε α) : Prop where
  forall_mem : ∀ event ∈ x.events, P event

section Emits

variable {P : ω → Prop}

/-- A value has no effects. -/
@[simp] theorem emits_pure (a : α) : Emits P (pure a : Proc ω ε α) := ⟨nofun⟩

/-- An exception has no effects. -/
@[simp] theorem emits_throw (e : ε) : Emits P (throw e : Proc ω ε α) := ⟨nofun⟩

/-- The end of the process has no effects. -/
@[simp] theorem emits_fatal (text : String) : Emits P (fatal text : Proc ω ε α) := ⟨nofun⟩

/-- One effect is emitted alone. -/
@[simp] theorem emits_emit (event : ω) : Emits P (emit event : Proc ω ε Unit) ↔ P event := by
  constructor
  · intro h
    exact h.forall_mem event (List.mem_cons_self ..)
  · intro h
    exact ⟨List.forall_mem_singleton.mpr h⟩

/-- A result has no effects. -/
@[simp] theorem emits_ofExcept (wrap : String → ε) (x : Except String α) :
    Emits P (ofExcept wrap x : Proc ω ε α) := by
  cases x with
  | ok a => exact emits_pure a
  | error what => exact emits_throw (wrap what)

/-- A result or exception has no effects. -/
@[simp] theorem emits_ofThrows (x : Except ε α) : Emits P (ofThrows x : Proc ω ε α) := by
  cases x with
  | ok a => exact emits_pure a
  | error e => exact emits_throw e

/-- A sequence emits what its parts emit; the second part runs only if the first returns. -/
theorem Emits.bind {x : Proc ω ε α} {f : α → Proc ω ε β} (hx : Emits P x)
    (hf : ∀ a, x.result = .ok a → Emits P (f a)) : Emits P (x >>= f) := by
  obtain ⟨events, result⟩ := x
  cases result with
  | error failure => exact ⟨hx.forall_mem⟩
  | ok a => exact ⟨List.forall_mem_append.mpr ⟨hx.forall_mem, (hf a rfl).forall_mem⟩⟩

/-- What both parts emit, the guarded one emits. -/
theorem Emits.catchThrown {x : Proc ω ε α} {handler : ε → Proc ω ε α} (hx : Emits P x)
    (hhandler : ∀ e, Emits P (handler e)) : Emits P (catchThrown x handler) := by
  unfold Proc.catchThrown
  split
  · next e _ =>
    exact ⟨List.forall_mem_append.mpr ⟨hx.forall_mem, (hhandler e).forall_mem⟩⟩
  · exact hx

/-- A weaker condition holds of the effects too. -/
theorem Emits.mono {Q : ω → Prop} {x : Proc ω ε α} (hx : Emits P x)
    (h : ∀ event, P event → Q event) : Emits Q x :=
  ⟨fun event hevent ↦ h event (hx.forall_mem event hevent)⟩

end Emits

end Proc

end Hyperliquid.Base
