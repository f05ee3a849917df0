import Mathlib.Data.List.Basic
import Mathlib.Logic.Function.Basic

/-!
# Parts that take turns

A system has one part for each key. Every event is for one part, which moves on and emits
something. What a part emits in a run of the system is what it emits alone.
-/

namespace Hyperliquid.Base.Parts

variable {κ σ ε ω α β : Type*} [DecidableEq κ]

/-- The items of one key, in order. -/
def ofKey (key : κ) (items : List (κ × α)) : List α :=
  items.filterMap fun item ↦ if item.1 = key then some item.2 else none

/-- An item of the key is one of its part. -/
@[simp] theorem ofKey_cons_self (key : κ) (item : α) (items : List (κ × α)) :
    ofKey key ((key, item) :: items) = item :: ofKey key items := by
  simp [ofKey]

private theorem ofKey_cons_of_ne {key other : κ} (h : other ≠ key) (item : α)
    (items : List (κ × α)) :
    ofKey key ((other, item) :: items) = ofKey key items := by
  simp [ofKey, h]

/-- The part of a key has the items of the key. -/
theorem mem_ofKey {key : κ} {item : α} {items : List (κ × α)} :
    item ∈ ofKey key items ↔ (key, item) ∈ items := by
  rw [ofKey, List.mem_filterMap]
  constructor
  · rintro ⟨⟨other, item'⟩, hmem, hsome⟩
    split at hsome
    · next hkey =>
      cases hsome
      cases hkey
      exact hmem
    · cases hsome
  · intro hmem
    exact ⟨_, hmem, if_pos rfl⟩

private theorem ofKey_append (key : κ) (items items' : List (κ × α)) :
    ofKey key (items ++ items') = ofKey key items ++ ofKey key items' :=
  List.filterMap_append

/-- A part is no longer than the whole. -/
theorem length_ofKey_le (key : κ) (items : List (κ × α)) :
    (ofKey key items).length ≤ items.length := List.length_filterMap_le _ _

/-- Items of one key. -/
theorem ofKey_map (key other : κ) (items : List α) :
    ofKey key (items.map (Prod.mk other)) = if other = key then items else [] := by
  rw [ofKey, List.filterMap_map]
  split_ifs with h
  · simp [h]
  · simp [h]

variable (step : σ → ε → σ × List ω)

/-- What a part emits alone. -/
def emits : σ → List ε → List ω
  | _, [] => []
  | s, e :: es => (step s e).2 ++ emits (step s e).1 es

/-- What all parts emit, in order. -/
def emitsAll : (κ → σ) → List (κ × ε) → List (κ × ω)
  | _, [] => []
  | s, (key, e) :: es =>
    (step (s key) e).2.map (Prod.mk key) ++
      emitsAll (Function.update s key (step (s key) e).1) es

/-- No part can tell what happens to the others. -/
theorem ofKey_emitsAll (s : κ → σ) (es : List (κ × ε)) (key : κ) :
    ofKey key (emitsAll step s es) = emits step (s key) (ofKey key es) := by
  induction es generalizing s with
  | nil => rfl
  | cons event es ih =>
    obtain ⟨other, e⟩ := event
    rw [emitsAll, ofKey_append, ofKey_map, ih]
    by_cases h : other = key
    · subst h
      rw [if_pos rfl, Function.update_self, ofKey_cons_self, emits]
    · rw [if_neg h, Function.update_of_ne (Ne.symm h), ofKey_cons_of_ne h, List.nil_append]

end Hyperliquid.Base.Parts
