/-!
# Downloads

An object that walks through states in a given order and calls back whenever it enters one.
It leaves a state for the next one only when that state is checked, or when the callback has
returned zero for it. It need not leave then: how often it does is a parameter.
-/

namespace Hyperliquid.Base.Download

variable {σ ω : Type} (next : σ → Option σ) (callback : σ → ω → ω × Int32)

/-- Enters a state, and goes on from states for which the callback returns zero, at most
`leaves` times. -/
def enter : (leaves : Nat) → σ → ω → σ × ω
  | 0, state, world => (state, (callback state world).1)
  | leaves + 1, state, world =>
    if (callback state world).2 = 0 then
      match next state with
      | some following => enter leaves following (callback state world).1
      | none => (state, (callback state world).1)
    else (state, (callback state world).1)

/-- Checks a state: the object may leave it if it is the current one. -/
def check [DecidableEq σ] (leaves : Nat) (checked state : σ) (world : ω) : σ × ω :=
  match leaves, next state with
  | leaves + 1, some following =>
    if state = checked then enter next callback leaves following world else (state, world)
  | _, _ => (state, world)

variable {next callback} {Before After : σ → ω → Prop}

/-- A state whose callback does not return zero is the last of a walk. -/
theorem enter_of_ne_zero (leaves : Nat) {state : σ} {world : ω}
    (h : (callback state world).2 ≠ 0) :
    enter next callback leaves state world = (state, (callback state world).1) := by
  cases leaves with
  | zero => rfl
  | succ leaves => rw [enter, if_neg h]

/-- A walk goes on from a state whose callback returns zero. -/
theorem enter_of_eq_zero (leaves : Nat) {state following : σ} {world : ω}
    (h : (callback state world).2 = 0) (hnext : next state = some following) :
    enter next callback (leaves + 1) state world =
      enter next callback leaves following (callback state world).1 := by
  rw [enter, if_pos h, hnext]

/-- A check of another state changes nothing. -/
theorem check_of_ne [DecidableEq σ] (leaves : Nat) {checked state : σ} (h : state ≠ checked)
    (world : ω) : check next callback leaves checked state world = (state, world) := by
  unfold check
  split
  · rw [if_neg h]
  · rfl

/-- A check of the current state enters the next one. -/
theorem check_self [DecidableEq σ] (leaves : Nat) {state following : σ}
    (hnext : next state = some following) (world : ω) :
    check next callback (leaves + 1) state state world =
      enter next callback leaves following world := by
  unfold check
  rw [hnext]
  exact if_pos rfl

/-- What each callback turns from a condition for entering into one for having entered holds
after a walk, if the first condition passes on to the next state. -/
theorem enter_induct (hcall : ∀ state world, Before state world →
      After state (callback state world).1)
    (hnext : ∀ state world following, Before state world → (callback state world).2 = 0 →
      next state = some following → Before following (callback state world).1)
    (leaves : Nat) {state : σ} {world : ω} (h : Before state world) :
    After (enter next callback leaves state world).1
      (enter next callback leaves state world).2 := by
  induction leaves generalizing state world with
  | zero => exact hcall state world h
  | succ leaves ih =>
    rw [enter]
    split
    · next hzero =>
      split
      · next following hfollowing => exact ih (hnext state world following h hzero hfollowing)
      · exact hcall state world h
    · exact hcall state world h

/-- A check of the current state that may be left walks on from it. -/
theorem check_induct [DecidableEq σ] (hcall : ∀ state world, Before state world →
      After state (callback state world).1)
    (hnext : ∀ state world following, Before state world → (callback state world).2 = 0 →
      next state = some following → Before following (callback state world).1)
    (leaves : Nat) {checked state : σ} {world : ω} (hstay : After state world)
    (hleave : state = checked → ∀ following, next state = some following →
      Before following world) :
    After (check next callback leaves checked state world).1
      (check next callback leaves checked state world).2 := by
  unfold check
  split
  · next leaves following hfollowing =>
    split
    · next hchecked => exact enter_induct hcall hnext leaves (hleave hchecked following hfollowing)
    · exact hstay
  · exact hstay

/-- What each callback keeps is kept by a walk. -/
theorem enter_keeps {P : ω → Prop} (hcall : ∀ state world, P world → P (callback state world).1)
    (leaves : Nat) {state : σ} {world : ω} (h : P world) :
    P (enter next callback leaves state world).2 :=
  @enter_induct σ ω next callback (fun _ ↦ P) (fun _ ↦ P) hcall
    (fun state world _ hworld _ _ ↦ hcall state world hworld) leaves state world h

/-- What the callback keeps, a check keeps. -/
theorem check_keeps [DecidableEq σ] {P : ω → Prop}
    (hcall : ∀ state world, P world → P (callback state world).1) (leaves : Nat)
    {checked state : σ} {world : ω} (h : P world) :
    P (check next callback leaves checked state world).2 :=
  @check_induct σ ω next callback (fun _ ↦ P) (fun _ ↦ P) _ hcall
    (fun state world _ hworld _ _ ↦ hcall state world hworld) leaves checked state world h
    fun _ _ _ ↦ h

end Hyperliquid.Base.Download
