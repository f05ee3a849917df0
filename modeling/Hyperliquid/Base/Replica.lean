import Mathlib.Data.List.Induction
import Mathlib.Logic.Function.Basic

/-!
# Replicas

A replica keeps a value for each key, and every value that it receives replaces the one before.
What it holds for a key is the last value received with that key.
-/

namespace Hyperliquid.Base.Replica

variable {κ ν ε : Type*} [DecidableEq κ]

/-- What a replica holds after some entries. -/
def replay (entries : List (κ × ν)) : κ → Option ν :=
  entries.foldl (fun store entry ↦ Function.update store entry.1 (some entry.2)) fun _ ↦ none

private theorem replay_concat (entries : List (κ × ν)) (entry : κ × ν) :
    replay (entries ++ [entry]) = Function.update (replay entries) entry.1 (some entry.2) := by
  rw [replay, List.foldl_append]
  rfl

/-- The last of some entries with a key. -/
theorem replay_eq_getLast? (entries : List (κ × ν)) (key : κ) :
    replay entries key = (entries.filter (·.1 = key)).getLast?.map Prod.snd := by
  induction entries using List.reverseRecOn with
  | nil => rfl
  | append_singleton entries entry ih =>
    rw [replay_concat, List.filter_append]
    by_cases hkey : entry.1 = key
    · subst hkey
      simp
    · rw [Function.update_of_ne (Ne.symm hkey), ih]
      simp [hkey]

/-- A replica of what is sent for some of the events holds what was sent for the last of them. -/
theorem replay_map_filter (sends : ε → Bool) (entry : ε → κ × ν) (events : List ε) (key : κ) :
    replay ((events.filter sends).map entry) key =
      (events.filter fun event ↦ sends event && (entry event).1 = key).getLast?.map
        fun event ↦ (entry event).2 := by
  rw [replay_eq_getLast?, List.filter_map, List.getLast?_map, Option.map_map, List.filter_filter]
  simp only [Function.comp_def, Bool.and_comm]

end Hyperliquid.Base.Replica
