import Hyperliquid.Base.Grid
import Hyperliquid.Tools.Conversions
import Hyperliquid.Tools.TickSizeSteps
import Mathlib.Tactic.NormNum
import Mathlib.Tactic.Tauto

/-!
# Price grids

The prices that `Conversions::roundPrice`, `src/roq/hyperliquid/tools/conversions.cpp:17–44`,
keeps and those that are ticks of the tables of `tick_size_steps.cpp`, both as grids of ten,
in exact arithmetic.
-/

namespace Hyperliquid.Tools

open Hyperliquid.Base

/-! ## The prices that are kept -/

namespace Conversions

/-- `max_decimals`. -/
def maxDecimals (isSpot : Bool) : ℤ := if isSpot then 8 else 6

/-- No market has more than eight decimals. -/
theorem maxDecimals_le (isSpot : Bool) : maxDecimals isSpot ≤ 8 := by cases isSpot <;> decide

/-- No market has fewer than six decimals. -/
theorem le_maxDecimals (isSpot : Bool) : 6 ≤ maxDecimals isSpot := by cases isSpot <;> decide

/-- The exponent of the last of five significant digits. -/
def lastDigit (price : ℚ) : ℤ := (if price = 0 then 0 else Int.log 10 |price|) - (5 - 1)

/-- The last digit of a positive price is four places below its first. -/
theorem lastDigit_of_pos {price : ℚ} (h : 0 < price) : lastDigit price = Int.log 10 price - 4 := by
  rw [lastDigit, if_neg h.ne', abs_of_pos h]
  rfl

/-- An integer price above 100k is passed on. -/
def Passed (price : ℚ) : Prop := 100000 < price ∧ price = ⌊price⌋

section

variable {price : ℚ} {szDecimals : ℤ} {isSpot : Bool}

/-- A price that is passed on is kept. -/
theorem roundPrice_of_passed (h : Passed price) : roundPrice price szDecimals isSpot = price :=
  if_pos (Bool.and_eq_true_iff.mpr ⟨decide_eq_true h.1, decide_eq_true h.2⟩)

/-- Any other price is rounded to its last significant digit, then to the last decimal. -/
theorem roundPrice_of_not_passed (h : ¬ Passed price) :
    roundPrice price szDecimals isSpot =
      roundTo Double.roundAway ((10 : ℕ) ^ (szDecimals - maxDecimals isSpot))
        (roundTo Double.roundAway ((10 : ℕ) ^ lastDigit price) price) := by
  have hguard : ¬ ((Double.gt price (Double.lit 100000) &&
      Double.eq price (Double.floor price)) = true) := by
    intro hguard
    obtain ⟨hgt, heq⟩ := Bool.and_eq_true_iff.mp hguard
    exact h ⟨of_decide_eq_true hgt, of_decide_eq_true heq⟩
  have hscale : ((10 : ℕ) : ℚ) ^ (szDecimals - maxDecimals isSpot) =
      ((10 : ℚ) ^ (maxDecimals isSpot - szDecimals))⁻¹ := by
    rw [← zpow_neg, Int.neg_sub]
    rfl
  rw [roundPrice, if_neg hguard, hscale, roundTo, div_inv_eq_mul, ← div_eq_mul_inv]
  simp only [Double.eq, Double.lit, decide_eq_true_eq]
  rfl

/-- The prices that rounding keeps. -/
theorem roundPrice_eq_self_iff :
    roundPrice price szDecimals isSpot = price ↔
      Passed price ∨ price ∈ Grid 10 (lastDigit price) ∧
        price ∈ Grid 10 (szDecimals - maxDecimals isSpot) := by
  by_cases h : Passed price
  · exact iff_of_true (roundPrice_of_passed h) (Or.inl h)
  · rw [roundPrice_of_not_passed h, or_iff_right h]
    exact Grid.roundTo_roundTo_eq_self_iff (by omega) Double.roundAway_intCast

/-- Every rounded price has few enough decimals. -/
theorem roundPrice_mem (hsz : szDecimals ≤ maxDecimals isSpot) :
    roundPrice price szDecimals isSpot ∈ Grid 10 (szDecimals - maxDecimals isSpot) := by
  by_cases h : Passed price
  · rw [roundPrice_of_passed h, h.2]
    exact Grid.anti (by omega) (by omega) (Grid.mem_zero_iff.mpr ⟨_, rfl⟩)
  · rw [roundPrice_of_not_passed h]
    exact Grid.roundTo_mem

/-- The power of ten with the last decimal is kept. -/
theorem roundPrice_last_decimal :
    roundPrice (((10 : ℕ) : ℚ) ^ (szDecimals - maxDecimals isSpot)) szDecimals isSpot =
      ((10 : ℕ) : ℚ) ^ (szDecimals - maxDecimals isSpot) := by
  rw [roundPrice_eq_self_iff, lastDigit_of_pos (Grid.pow_pos (b := 10) (by omega) _),
    Int.log_zpow (by omega)]
  exact Or.inr ⟨Grid.pow_mem (by omega) (by omega), Grid.pow_mem (by omega) le_rfl⟩

/-- All rounded prices are on a grid exactly when it has as many decimals as they may have. -/
theorem forall_roundPrice_mem_iff (hsz : szDecimals ≤ maxDecimals isSpot) {e : ℤ} :
    (∀ price : ℚ, 0 ≤ price → roundPrice price szDecimals isSpot ∈ Grid 10 e) ↔
      e ≤ szDecimals - maxDecimals isSpot := by
  constructor
  · intro h
    have hlast := h _ (Grid.pow_pos (b := 10) (by omega) (szDecimals - maxDecimals isSpot)).le
    rw [roundPrice_last_decimal] at hlast
    exact (Grid.pow_mem_iff (by omega)).mp hlast
  · intro he price _
    exact Grid.anti (by omega) he (roundPrice_mem hsz)

end
end Conversions

/-! ## The prices that are ticks -/

namespace TickSizeSteps

/-- The last step of a table whose lowest price is not above a price. -/
def lastStep? (steps : List (TickSizeStep ℚ)) (price : ℚ) : Option (TickSizeStep ℚ) :=
  (steps.filter fun step ↦ decide (step.minPrice ≤ (price : WithBot ℚ))).getLast?

/-- A price that is an integer multiple of the tick size that a table has for it. -/
def OnTick (steps : List (TickSizeStep ℚ)) (price : ℚ) : Prop :=
  ∃ step, lastStep? steps price = some step ∧ price ∈ AddSubgroup.zmultiples step.tickSize

private theorem lastStep?_append (steps : List (TickSizeStep ℚ)) (step : TickSizeStep ℚ)
    (price : ℚ) :
    lastStep? (steps ++ [step]) price =
      if step.minPrice ≤ (price : WithBot ℚ) then some step else lastStep? steps price := by
  rw [lastStep?, List.filter_append]
  split
  · next hle => rw [List.filter_cons_of_pos (by simpa using hle), List.filter_nil,
      List.getLast?_append, List.getLast?_singleton, Option.some_or]
  · next hle => rw [List.filter_cons_of_neg (by simpa using hle), List.filter_nil,
      List.append_nil, lastStep?]

/-- From `10 ^ (e + 5)` on, a tick for five digits for each of `n` powers. -/
def decimalSteps (e : ℤ) (n : ℕ) : List (ℚ × ℚ) :=
  (List.range n).map fun i : ℕ ↦ ((10 : ℚ) ^ (e + i + 5), (10 : ℚ) ^ (e + i + 1))

/-- The table with the lowest tick `10 ^ e` and the highest one `10`. -/
def decimalTable (e : ℤ) : List (TickSizeStep ℚ) := table (10 ^ e) (decimalSteps e (1 - e).toNat)

private theorem table_decimalSteps_succ (e : ℤ) (n : ℕ) :
    table (F := ℚ) (10 ^ e) (decimalSteps e (n + 1)) =
      table (10 ^ e) (decimalSteps e n) ++
        [⟨((10 ^ (e + n + 5) : ℚ) : WithBot ℚ), 10 ^ (e + n + 1)⟩] := by
  rw [decimalSteps, List.range_succ, List.map_append, table, List.map_append]
  rfl

/-- The tick of a price has five digits, within the ticks of the table. -/
theorem lastStep?_decimalSteps {price : ℚ} (hprice : 0 < price) (e : ℤ) (n : ℕ) :
    ∃ step, lastStep? (table (10 ^ e) (decimalSteps e n)) price = some step ∧
      step.tickSize = 10 ^ max e (min (Int.log 10 price - 4) (e + n)) := by
  induction n with
  | zero =>
    have hmax : max e (min (Int.log 10 price - 4) (e + (0 : ℕ))) = e := by omega
    rw [hmax]
    exact ⟨_, rfl, rfl⟩
  | succ n ih =>
    have hlog := Int.zpow_le_iff_le_log (b := 10) (x := e + n + 5) (by omega) hprice
    rw [table_decimalSteps_succ, lastStep?_append]
    split
    · next hle =>
      have hle := hlog.mp (WithBot.coe_le_coe.mp hle)
      have hmax : max e (min (Int.log 10 price - 4) (e + (n + 1 : ℕ))) = e + n + 1 := by
        omega
      rw [hmax]
      exact ⟨_, rfl, rfl⟩
    · next hle =>
      have hlt : ¬ e + n + 5 ≤ Int.log 10 price := by
        intro hle'
        exact hle (WithBot.coe_le_coe.mpr (hlog.mpr hle'))
      have hmax : max e (min (Int.log 10 price - 4) (e + (n + 1 : ℕ))) =
          max e (min (Int.log 10 price - 4) (e + n)) := by
        omega
      rw [hmax]
      exact ih

/-- The prices on the ticks of a decimal table. -/
theorem onTick_decimalTable_iff {price : ℚ} (hprice : 0 < price) {e : ℤ} (he : e ≤ 1) :
    OnTick (decimalTable e) price ↔
      price ∈ Grid 10 (max e (min (Int.log 10 price - 4) 1)) := by
  obtain ⟨step, hstep, htick⟩ := lastStep?_decimalSteps hprice e (1 - e).toNat
  have hone : e + ((1 - e).toNat : ℤ) = 1 := by omega
  rw [hone] at htick
  unfold OnTick decimalTable
  rw [hstep]
  constructor
  · rintro ⟨found, hfound, hmem⟩
    rw [← Option.some.inj hfound, htick] at hmem
    exact hmem
  · intro hmem
    refine ⟨step, rfl, ?_⟩
    rw [htick]
    exact hmem

/-- The exponent of the lowest tick of a table. -/
def tickExponent (szDecimals : ℤ) (isSpot : Bool) : ℤ := if isSpot then -4 else szDecimals - 6

private theorem tickExponent_le {szDecimals : ℤ} {isSpot : Bool}
    (h : szDecimals < Conversions.maxDecimals isSpot) : tickExponent szDecimals isSpot ≤ 0 := by
  cases isSpot with
  | false =>
    change szDecimals < 6 at h
    change szDecimals - 6 ≤ 0
    omega
  | true =>
    change -4 ≤ 0
    omega

/-- A written table is the decimal table of its lowest tick. -/
theorem table_eq_decimalTable {tickSize : ℚ} {steps : List (ℚ × ℚ)} {e : ℤ}
    (htickSize : tickSize = 10 ^ e) (hsteps : steps = decimalSteps e (1 - e).toNat) :
    table tickSize steps = decimalTable e := by
  rw [decimalTable, ← htickSize, ← hsteps]

/-- The tables that are returned, and for which size decimals. -/
theorem get_eq_ok {szDecimals : ℤ} {isSpot : Bool} {steps : List (TickSizeStep ℚ)}
    (h : get szDecimals isSpot = .ok steps) :
    steps = decimalTable (tickExponent szDecimals isSpot) ∧
      0 ≤ szDecimals ∧ szDecimals < Conversions.maxDecimals isSpot := by
  unfold get at h
  split at h
  · next hspot =>
    subst hspot
    split at h
    case h_9 => cases h
    all_goals
      exact ⟨(Except.ok.inj h).symm.trans
        (table_eq_decimalTable (by decide +kernel) (by decide +kernel)), by decide, by decide⟩
  · next hspot =>
    rw [Bool.not_eq_true] at hspot
    subst hspot
    split at h
    case h_7 => cases h
    all_goals
      exact ⟨(Except.ok.inj h).symm.trans
        (table_eq_decimalTable (by decide +kernel) (by decide +kernel)), by decide, by decide⟩

end TickSizeSteps

/-! ## Where they agree -/

section

variable {price : ℚ} {szDecimals : ℤ} {isSpot : Bool}

/-- A price has six digits before the point from 100000 on. -/
theorem five_le_log_iff (h : 0 < price) : 5 ≤ Int.log 10 price ↔ 100000 ≤ price := by
  rw [← Int.zpow_le_iff_le_log (by omega) h]
  norm_num

/-- An integer is its own floor. -/
theorem mem_grid_zero_iff : price ∈ Grid 10 0 ↔ price = ⌊price⌋ := by
  rw [Grid.mem_zero_iff]
  constructor
  · rintro ⟨k, rfl⟩
    rw [Int.floor_intCast]
  · intro h
    exact ⟨⌊price⌋, h.symm⟩

/-- From 100k on the prices that are kept are the integers. -/
theorem roundPrice_eq_self_iff_of_ge (hsz : szDecimals < Conversions.maxDecimals isSpot)
    (h : 100000 ≤ price) :
    Conversions.roundPrice price szDecimals isSpot = price ↔ price = ⌊price⌋ := by
  have hpos : 0 < price := by linarith
  have hfive := (five_le_log_iff hpos).mpr h
  rw [Conversions.roundPrice_eq_self_iff, Conversions.lastDigit_of_pos hpos]
  constructor
  · rintro (hpassed | ⟨hdigits, -⟩)
    · exact hpassed.2
    · exact mem_grid_zero_iff.mp (Grid.anti (by omega) (by omega) hdigits)
  · intro hint
    rcases h.eq_or_lt with heq | hlt
    · have hpow : price = ((10 : ℕ) : ℚ) ^ (5 : ℤ) := by
        rw [← heq]
        norm_num
      refine Or.inr ⟨?_, Grid.anti (by omega) (by omega) (mem_grid_zero_iff.mpr hint)⟩
      rw [hpow, Int.log_zpow (by omega)]
      exact Grid.pow_mem (by omega) (by omega)
    · exact Or.inl ⟨hlt, hint⟩

/-- Below 100k they are the ones with five digits and few enough decimals. -/
theorem roundPrice_eq_self_iff_of_lt (hpos : 0 < price) (h : price < 100000) :
    Conversions.roundPrice price szDecimals isSpot = price ↔
      price ∈ Grid 10 (Int.log 10 price - 4) ∧
        price ∈ Grid 10 (szDecimals - Conversions.maxDecimals isSpot) := by
  have hpassed : ¬ Conversions.Passed price := by
    rintro ⟨hgt, -⟩
    linarith
  rw [Conversions.roundPrice_eq_self_iff, or_iff_right hpassed,
    Conversions.lastDigit_of_pos hpos]

section

variable {steps : List (TickSizeSteps.TickSizeStep ℚ)}
  (hsteps : TickSizeSteps.get szDecimals isSpot = .ok steps)
include hsteps

/-- From 100k on the ticks are the tens. -/
theorem onTick_iff_of_ge (h : 100000 ≤ price) :
    TickSizeSteps.OnTick steps price ↔ price ∈ Grid 10 1 := by
  obtain ⟨rfl, _, hsz⟩ := TickSizeSteps.get_eq_ok hsteps
  have hpos : 0 < price := by linarith
  have he := TickSizeSteps.tickExponent_le hsz
  have hfive := (five_le_log_iff hpos).mpr h
  have hmax : max (TickSizeSteps.tickExponent szDecimals isSpot)
      (min (Int.log 10 price - 4) 1) = 1 := by
    omega
  rw [TickSizeSteps.onTick_decimalTable_iff hpos (by omega), hmax]

/-- Below 100k they have five digits, within the lowest tick of the table. -/
theorem onTick_iff_of_lt (hpos : 0 < price) (h : price < 100000) :
    TickSizeSteps.OnTick steps price ↔
      price ∈ Grid 10 (Int.log 10 price - 4) ∧
        price ∈ Grid 10 (TickSizeSteps.tickExponent szDecimals isSpot) := by
  obtain ⟨rfl, _, hsz⟩ := TickSizeSteps.get_eq_ok hsteps
  have he := TickSizeSteps.tickExponent_le hsz
  have hfive := mt (five_le_log_iff hpos).mp (not_le.mpr h)
  have hmin : min (Int.log 10 price - 4) 1 = Int.log 10 price - 4 := by
    omega
  rw [TickSizeSteps.onTick_decimalTable_iff hpos (by omega), hmin, Grid.mem_max_iff (by omega)]
  exact and_comm

end

/-- Where ticks and kept prices are the same. From 100k on every integer is kept but only the
tens are ticks; below, the spot tables have four decimals where the rounding has
`8 - sz_decimals`. -/
def GridsAgree (szDecimals : ℤ) (isSpot : Bool) (price : ℚ) : Prop :=
  if 100000 ≤ price then price = ⌊price⌋ → price ∈ Grid 10 1
  else
    isSpot = true → price ∈ Grid 10 (max (-4) (szDecimals - 8)) ∨
      price ∉ Grid 10 (max (Int.log 10 price - 4) (min (-4) (szDecimals - 8)))

/-- The table and the encoder agree on a price exactly there. -/
theorem onTick_iff_roundPrice_iff {steps : List (TickSizeSteps.TickSizeStep ℚ)}
    (hsteps : TickSizeSteps.get szDecimals isSpot = .ok steps) (hpos : 0 < price) :
    (TickSizeSteps.OnTick steps price ↔
        Conversions.roundPrice price szDecimals isSpot = price) ↔
      GridsAgree szDecimals isSpot price := by
  unfold GridsAgree
  split
  · next hge =>
    obtain ⟨_, _, hsz⟩ := TickSizeSteps.get_eq_ok hsteps
    rw [onTick_iff_of_ge hsteps hge, roundPrice_eq_self_iff_of_ge hsz hge, ← mem_grid_zero_iff]
    have hzero : price ∈ Grid 10 1 → price ∈ Grid 10 0 :=
      fun h ↦ Grid.anti (by omega) (by omega) h
    tauto
  · next hlt =>
    rw [onTick_iff_of_lt hsteps hpos (not_le.mp hlt),
      roundPrice_eq_self_iff_of_lt hpos (not_le.mp hlt)]
    cases isSpot with
    | false =>
      -- the lowest tick of a perpetual is its last decimal
      exact iff_of_true Iff.rfl (fun h ↦ by cases h)
    | true =>
      have hb : 1 < 10 := by omega
      rw [Grid.mem_max_iff hb, Grid.mem_max_iff hb, Grid.mem_min_iff hb]
      change (_ ∧ price ∈ Grid 10 (-4) ↔ _ ∧ price ∈ Grid 10 (szDecimals - 8)) ↔ _
      tauto

instance : Decidable (GridsAgree szDecimals isSpot price) :=
  inferInstanceAs (Decidable (ite _ _ _))

/-- A price below 100k with a fraction. -/
theorem onTick_iff_roundPrice_iff_below :
    TickSizeSteps.OnTick TickSizeSteps.perps5 (87654 / 10) ↔
      Conversions.roundPrice (87654 / 10 : ℚ) 5 false = 87654 / 10 :=
  (onTick_iff_roundPrice_iff (show TickSizeSteps.get 5 false = .ok TickSizeSteps.perps5 from rfl)
    (by norm_num)).mpr (by decide +kernel)

/-- The encoder keeps 100001, which is no tick of any perpetual. -/
theorem not_onTick_iff_roundPrice_above :
    ¬ (TickSizeSteps.OnTick TickSizeSteps.perps5 100001 ↔
      Conversions.roundPrice (100001 : ℚ) 5 false = 100001) := by
  have htable : TickSizeSteps.perps5 = TickSizeSteps.decimalTable (-1) :=
    TickSizeSteps.table_eq_decimalTable (by decide +kernel) (by decide +kernel)
  rw [htable, TickSizeSteps.onTick_decimalTable_iff (by norm_num) (by omega)]
  decide +kernel

end
end Hyperliquid.Tools
