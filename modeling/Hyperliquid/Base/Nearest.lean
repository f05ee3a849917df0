import Hyperliquid.Base.Grid
import Mathlib.Data.Rat.Floor
import Mathlib.Tactic.NormNum
import Mathlib.Tactic.Ring

/-!
# Rounding to 53 bits

The rounding of IEEE 754 binary64, to the nearest and in a tie to the even neighbour, on the
non-negative rationals. A number is rounded to the multiples of a power of two, which has 53
significant bits below the number but is never finer than the least double.
-/

namespace Hyperliquid.Base

/-! ## Ties to even -/

/-- The nearest integer, and of two the even one. -/
def tiesToEven (q : ℚ) : ℤ :=
  let rest := q - ⌊q⌋
  if rest < 1 / 2 then ⌊q⌋
  else if 1 / 2 < rest then ⌊q⌋ + 1
  else if ⌊q⌋ % 2 = 0 then ⌊q⌋ else ⌊q⌋ + 1

/-- Integers stay. -/
theorem tiesToEven_intCast (k : ℤ) : tiesToEven k = k := by
  unfold tiesToEven
  rw [Int.floor_intCast, sub_self]
  norm_num

/-- The nearest integer is at most a half away. -/
theorem abs_sub_tiesToEven_le (q : ℚ) : |q - tiesToEven q| ≤ 1 / 2 := by
  have hfloor := Int.floor_le q
  have hlt := Int.lt_floor_add_one q
  unfold tiesToEven
  dsimp only
  split_ifs <;> push_cast <;> rw [abs_le] <;> constructor <;> linarith

/-- An integer less than a half away is the nearest one. -/
theorem tiesToEven_eq {q : ℚ} {k : ℤ} (h : |q - k| < 1 / 2) : tiesToEven q = k := by
  have hnearest := abs_sub_tiesToEven_le q
  have htriangle := abs_sub_le (tiesToEven q : ℚ) q k
  rw [abs_sub_comm (tiesToEven q : ℚ) q] at htriangle
  have hlt : |tiesToEven q - k| < 1 := by
    have hcast : |(tiesToEven q : ℚ) - k| < 1 := by linarith
    exact_mod_cast hcast
  exact sub_eq_zero.mp (Int.abs_lt_one_iff.mp hlt)

/-- Rounding keeps the order. -/
theorem tiesToEven_mono ⦃p q : ℚ⦄ (h : p ≤ q) : tiesToEven p ≤ tiesToEven q := by
  have hfloor : ⌊p⌋ ≤ ⌊q⌋ := Int.floor_le_floor h
  rcases hfloor.lt_or_eq with hlt | heq
  · -- the integer between them separates their nearest ones
    have hp : tiesToEven p ≤ ⌊p⌋ + 1 := by
      unfold tiesToEven
      dsimp only
      split_ifs <;> omega
    have hq : ⌊q⌋ ≤ tiesToEven q := by
      unfold tiesToEven
      dsimp only
      split_ifs <;> omega
    omega
  · unfold tiesToEven
    rw [heq]
    dsimp only
    split_ifs <;> first | omega | (exfalso; linarith)

namespace Binary64

/-! ## The nearest double -/

/-- The exponent of the step between the doubles around a number. -/
def exponent (q : ℚ) : ℤ := max (Int.log 2 q - 52) (-1074)

/-- The nearest double of a non-negative number, if no double were too large. -/
def nearest (q : ℚ) : ℚ := roundTo tiesToEven (((2 : ℕ) : ℚ) ^ exponent q) q

section

variable {p q : ℚ}

/-- Larger numbers have larger steps. -/
theorem exponent_mono (hp : 0 < p) (h : p ≤ q) : exponent p ≤ exponent q :=
  max_le_max_right _ (Int.sub_le_sub_right (Int.log_mono_right hp h) 52)

/-- A number is below the power of two with one bit more than a double has. -/
theorem lt_pow_exponent (q : ℚ) : q < ((2 : ℕ) : ℚ) ^ (exponent q + 53) := by
  have hle : Int.log 2 q + 1 ≤ exponent q + 53 := by
    have := le_max_left (Int.log 2 q - 52) (-1074)
    unfold exponent
    omega
  exact (Int.lt_zpow_succ_log_self (by decide) q).trans_le
    (zpow_le_zpow_right₀ (by norm_num) hle)

/-- The step is at most a part in `2 ^ 52` of a number, unless it is the least one. -/
theorem pow_exponent_le (hq : 0 < q) (h : -1074 < exponent q) :
    ((2 : ℕ) : ℚ) ^ (exponent q + 52) ≤ q := by
  have hexponent : exponent q + 52 = Int.log 2 q := by
    unfold exponent at h ⊢
    omega
  rw [hexponent]
  exact Int.zpow_log_le_self (by decide) hq

/-- The nearest double is a multiple of the step. -/
theorem nearest_mem : nearest q ∈ Grid 2 (exponent q) := Grid.roundTo_mem

/-- The multiples of the step are kept, and no other number is. -/
theorem nearest_eq_self_iff : nearest q = q ↔ q ∈ Grid 2 (exponent q) :=
  Grid.roundTo_eq_self_iff (by decide) tiesToEven_intCast

/-- A multiple of the step bounds the nearest double of a number above it. -/
private theorem le_nearest (hp : p ∈ Grid 2 (exponent q)) (h : p ≤ q) : p ≤ nearest q :=
  Grid.le_roundTo (by decide) tiesToEven_intCast tiesToEven_mono hp h

/-- A multiple of the step bounds the nearest double of a number below it. -/
private theorem nearest_le (hp : p ∈ Grid 2 (exponent q)) (h : q ≤ p) : nearest q ≤ p :=
  Grid.roundTo_le (by decide) tiesToEven_intCast tiesToEven_mono hp h

/-- Zero is a double. -/
@[simp] theorem nearest_zero : nearest 0 = 0 := nearest_eq_self_iff.mpr (zero_mem _)

/-- The nearest double of a non-negative number is not negative. -/
theorem nearest_nonneg (h : 0 ≤ q) : 0 ≤ nearest q := le_nearest (zero_mem _) h

/-- The nearest double is at most half a step away. -/
theorem abs_sub_nearest_le (q : ℚ) : |q - nearest q| ≤ ((2 : ℕ) : ℚ) ^ exponent q / 2 := by
  have hpos : (0 : ℚ) < ((2 : ℕ) : ℚ) ^ exponent q := Grid.pow_pos (by decide) _
  have hscale : q - nearest q = (q / ((2 : ℕ) : ℚ) ^ exponent q -
      tiesToEven (q / ((2 : ℕ) : ℚ) ^ exponent q)) * ((2 : ℕ) : ℚ) ^ exponent q := by
    rw [sub_mul, div_mul_cancel₀ q hpos.ne', nearest, roundTo]
  rw [hscale, abs_mul, abs_of_pos hpos]
  have := mul_le_mul_of_nonneg_right
    (abs_sub_tiesToEven_le (q / ((2 : ℕ) : ℚ) ^ exponent q)) hpos.le
  linarith

/-- A multiple of the step less than half a step away is the nearest double. -/
theorem nearest_eq {k : ℤ} (h : |q - k * ((2 : ℕ) : ℚ) ^ exponent q| <
    ((2 : ℕ) : ℚ) ^ exponent q / 2) : nearest q = k * ((2 : ℕ) : ℚ) ^ exponent q := by
  have hpos : (0 : ℚ) < ((2 : ℕ) : ℚ) ^ exponent q := Grid.pow_pos (by decide) _
  rw [nearest, roundTo, tiesToEven_eq]
  rw [← mul_lt_mul_iff_of_pos_right hpos, ← abs_of_pos hpos, ← abs_mul, abs_of_pos hpos, sub_mul,
    div_mul_cancel₀ q hpos.ne']
  linarith

/-- Powers of two are doubles. -/
theorem nearest_pow {k : ℤ} (h : -1074 ≤ k) : nearest (((2 : ℕ) : ℚ) ^ k) = ((2 : ℕ) : ℚ) ^ k := by
  apply nearest_eq_self_iff.mpr
  apply Grid.pow_mem (by decide)
  rw [exponent, Int.log_zpow (by decide)]
  omega

/-- Rounding keeps the order. -/
theorem nearest_mono (hp : 0 ≤ p) (h : p ≤ q) : nearest p ≤ nearest q := by
  rcases hp.eq_or_lt with rfl | hp
  · rw [nearest_zero]
    exact nearest_nonneg h
  have hq := hp.trans_le h
  rcases (exponent_mono hp h).eq_or_lt with heq | hlt
  · unfold nearest
    rw [heq]
    exact Grid.roundTo_mono (by decide) tiesToEven_mono h
  · -- the power of two below the larger number is a multiple of both steps
    have hlog : exponent q + 52 = Int.log 2 q := by
      unfold exponent at hlt ⊢
      omega
    have hpow : p ≤ ((2 : ℕ) : ℚ) ^ (exponent q + 52) := by
      refine (lt_pow_exponent p).le.trans (zpow_le_zpow_right₀ (by norm_num) ?_)
      omega
    calc nearest p ≤ ((2 : ℕ) : ℚ) ^ (exponent q + 52) :=
          nearest_le (Grid.pow_mem (by decide) (by omega)) hpow
      _ ≤ nearest q := le_nearest (Grid.pow_mem (by decide) (by omega))
          (by rw [hlog]; exact Int.zpow_log_le_self (by decide) hq)

/-- Doubles are kept. -/
theorem nearest_nearest (h : 0 ≤ q) : nearest (nearest q) = nearest q := by
  apply nearest_eq_self_iff.mpr
  rcases (nearest_nonneg h).eq_or_lt with heq | hpos
  · rw [← heq]
    exact zero_mem _
  rcases le_or_gt (exponent (nearest q)) (exponent q) with hle | hgt
  · exact Grid.anti (by decide) hle nearest_mem
  · -- the number has been rounded up to the next power of two
    have hupper : nearest q ≤ ((2 : ℕ) : ℚ) ^ (exponent q + 53) :=
      nearest_le (Grid.pow_mem (by decide) (by omega)) (lt_pow_exponent q).le
    have hexponent : -1074 ≤ exponent q := le_max_right _ _
    have hlower : ((2 : ℕ) : ℚ) ^ (exponent q + 53) ≤ nearest q :=
      (zpow_le_zpow_right₀ (by norm_num) (by omega)).trans
        (pow_exponent_le hpos (by omega))
    have hpow := le_antisymm hupper hlower
    have hkept := nearest_eq_self_iff.mp (nearest_pow (k := exponent q + 53) (by omega))
    rwa [← hpow] at hkept

/-! ## Integers -/

/-- An integer is rounded to an integer. -/
theorem nearest_mem_zero (h : q ∈ Grid 2 0) : nearest q ∈ Grid 2 0 := by
  rcases le_total (exponent q) 0 with hle | hle
  · rw [nearest_eq_self_iff.mpr (Grid.anti (by decide) hle h)]
    exact h
  · exact Grid.anti (by decide) hle nearest_mem

/-- Integers of 53 bits are doubles. -/
theorem nearest_natCast {n : ℕ} (h : n < 2 ^ 53) : nearest n = n := by
  rcases Nat.eq_zero_or_pos n with rfl | hpos
  · rw [Nat.cast_zero, nearest_zero]
  have hlog : Int.log 2 (n : ℚ) < 53 := by
    refine (Int.lt_zpow_iff_log_lt (by decide) (by exact_mod_cast hpos)).mp ?_
    exact_mod_cast h
  apply nearest_eq_self_iff.mpr
  refine Grid.anti (by decide) (?_ : exponent (n : ℚ) ≤ 0) (Grid.mem_zero_iff.mpr ⟨n, rfl⟩)
  unfold exponent
  omega

/-! ## How near -/

/-- Half of the least double. -/
private theorem pow_half : ((2 : ℕ) : ℚ) ^ (-1074 : ℤ) / 2 = ((2 : ℕ) : ℚ) ^ (-1075 : ℤ) := by
  rw [show (-1074 : ℤ) = -1075 + 1 by norm_num, zpow_add_one₀ (by norm_num)]
  norm_num

/-- The smaller powers of two are at most a quarter. -/
theorem pow_le_quarter {k : ℤ} (h : k ≤ -2) : ((2 : ℕ) : ℚ) ^ k ≤ 1 / 4 :=
  calc ((2 : ℕ) : ℚ) ^ k ≤ ((2 : ℕ) : ℚ) ^ (-2 : ℤ) := zpow_le_zpow_right₀ (by norm_num) h
    _ = 1 / 4 := by norm_num

/-- A number that is not too small is rounded by at most a part in `2 ^ 53`. -/
theorem abs_sub_nearest_le_mul (h : ((2 : ℕ) : ℚ) ^ (-1022 : ℤ) ≤ q) :
    |q - nearest q| ≤ q / 2 ^ 53 := by
  have hq : 0 < q := (Grid.pow_pos (by decide) _).trans_le h
  have hlog : -1022 ≤ Int.log 2 q := (Int.zpow_le_iff_le_log (by decide) hq).mp h
  have hexponent : exponent q + 52 = Int.log 2 q := by
    unfold exponent
    omega
  have hstep : ((2 : ℕ) : ℚ) ^ exponent q * 2 ^ 52 ≤ q := by
    have hle := Int.zpow_log_le_self (R := ℚ) (b := 2) (by decide) hq
    rw [← hexponent, zpow_add₀ (by norm_num)] at hle
    exact_mod_cast hle
  have herror := abs_sub_nearest_le q
  generalize ((2 : ℕ) : ℚ) ^ exponent q = step at hstep herror
  rw [le_div_iff₀ (by norm_num)]
  linarith

/-- The step is at most a part in `2 ^ 52` of a number, and the least double. -/
theorem pow_exponent_le_add (hq : 0 < q) :
    ((2 : ℕ) : ℚ) ^ exponent q ≤ q / 2 ^ 52 + ((2 : ℕ) : ℚ) ^ (-1074 : ℤ) := by
  have hpart : 0 ≤ q / 2 ^ 52 := by positivity
  have hle : -1074 ≤ exponent q := le_max_right _ _
  rcases hle.eq_or_lt with heq | hlt
  · rw [← heq]
    exact le_add_of_nonneg_left hpart
  · refine le_add_of_le_of_nonneg ?_ (Grid.pow_pos (by decide) _).le
    have hstep := pow_exponent_le hq hlt
    rw [zpow_add₀ (by norm_num)] at hstep
    rw [le_div_iff₀ (by norm_num)]
    exact_mod_cast hstep

/-- A number from the least double on is rounded by at most its half. -/
theorem abs_sub_nearest_le_half (h : ((2 : ℕ) : ℚ) ^ (-1074 : ℤ) ≤ q) :
    |q - nearest q| ≤ q / 2 := by
  have hq : 0 < q := (Grid.pow_pos (by decide) _).trans_le h
  have hstep : ((2 : ℕ) : ℚ) ^ exponent q ≤ q := by
    have hle : -1074 ≤ exponent q := le_max_right _ _
    rcases hle.eq_or_lt with heq | hlt
    · rw [← heq]
      exact h
    · exact (zpow_le_zpow_right₀ (by norm_num) (by omega)).trans (pow_exponent_le hq hlt)
  have herror := abs_sub_nearest_le q
  generalize ((2 : ℕ) : ℚ) ^ exponent q = step at hstep herror
  linarith

/-- Any number is rounded by at most a part in `2 ^ 53` and half the least double. -/
theorem abs_sub_nearest_le_add (h : 0 ≤ q) :
    |q - nearest q| ≤ q / 2 ^ 53 + ((2 : ℕ) : ℚ) ^ (-1075 : ℤ) := by
  have hpart : 0 ≤ q / 2 ^ 53 := by positivity
  have hhalf : (0 : ℚ) < ((2 : ℕ) : ℚ) ^ (-1075 : ℤ) := Grid.pow_pos (by decide) _
  rcases le_or_gt (((2 : ℕ) : ℚ) ^ (-1022 : ℤ)) q with hle | hlt
  · exact (abs_sub_nearest_le_mul hle).trans (le_add_of_nonneg_right hhalf.le)
  rcases h.eq_or_lt with rfl | hpos
  · rw [nearest_zero, sub_zero, abs_zero]
    exact add_nonneg hpart hhalf.le
  · have hlog : Int.log 2 q < -1022 := (Int.lt_zpow_iff_log_lt (by decide) hpos).mp hlt
    have hexponent : exponent q = -1074 := by
      unfold exponent
      omega
    have herror := abs_sub_nearest_le q
    rw [hexponent, pow_half] at herror
    exact herror.trans (le_add_of_nonneg_left hpart)

/-! ## Overflow -/

/-- The least number that is too large for a double: half a step above the largest double. -/
def overflow : ℚ := (2 ^ 54 - 1) * ((2 : ℕ) : ℚ) ^ (970 : ℤ)

/-- It is positive. -/
theorem overflow_pos : 0 < overflow := mul_pos (by norm_num) (Grid.pow_pos (by decide) _)

/-- It is less than the next power of two. -/
private theorem overflow_lt : overflow < ((2 : ℕ) : ℚ) ^ (1024 : ℤ) := by
  have hsplit : ((2 : ℕ) : ℚ) ^ (1024 : ℤ) = 2 ^ 54 * ((2 : ℕ) : ℚ) ^ (970 : ℤ) := by
    rw [show (1024 : ℤ) = 54 + 970 by norm_num, zpow_add₀ (by norm_num)]
    norm_num
  rw [hsplit, overflow]
  exact mul_lt_mul_of_pos_right (by norm_num) (Grid.pow_pos (by decide) _)

/-- It is not less than the largest power of two that is a double. -/
private theorem pow_le_overflow : ((2 : ℕ) : ℚ) ^ (1023 : ℤ) ≤ overflow := by
  rw [overflow, show (1023 : ℤ) = 53 + 970 by norm_num, zpow_add₀ (by norm_num)]
  exact mul_le_mul_of_nonneg_right (by norm_num) (Grid.pow_pos (by decide) _).le

/-- Integers of 53 bits do not overflow. -/
theorem natCast_lt_overflow {n : ℕ} (h : n < 2 ^ 53) : (n : ℚ) < overflow := by
  have hpow : (n : ℚ) < ((2 : ℕ) : ℚ) ^ (53 : ℤ) := by exact_mod_cast h
  have hle : ((2 : ℕ) : ℚ) ^ (53 : ℤ) ≤ ((2 : ℕ) : ℚ) ^ (1023 : ℤ) :=
    zpow_le_zpow_right₀ (by norm_num) (by norm_num)
  exact hpow.trans_le (hle.trans pow_le_overflow)

/-- The first digits of the overflow. -/
theorem overflow_bounds :
    17976.9 * (10 : ℚ) ^ (304 : ℤ) < overflow ∧ overflow < 17976.95 * (10 : ℚ) ^ (304 : ℤ) := by
  decide +kernel

/-- The tie above the largest double is rounded up. -/
theorem nearest_overflow : nearest overflow = ((2 : ℕ) : ℚ) ^ (1024 : ℤ) := by
  have hpos : (0 : ℚ) < ((2 : ℕ) : ℚ) ^ (970 : ℤ) := Grid.pow_pos (by decide) _
  have hscaled : overflow = (2 ^ 53 - 1 / 2) * ((2 : ℕ) : ℚ) ^ (971 : ℤ) := by
    rw [overflow, show (971 : ℤ) = 970 + 1 by norm_num, zpow_add_one₀ (by norm_num)]
    generalize ((2 : ℕ) : ℚ) ^ (970 : ℤ) = half
    push_cast
    ring
  have hlog : Int.log 2 overflow = 1023 := by
    have hle := (Int.zpow_le_iff_le_log (by decide) overflow_pos).mp pow_le_overflow
    have hlt := (Int.lt_zpow_iff_log_lt (by decide) overflow_pos).mp overflow_lt
    omega
  have hexponent : exponent overflow = 971 := by
    rw [exponent, hlog]
    rfl
  have hties : tiesToEven (2 ^ 53 - 1 / 2) = 2 ^ 53 := by decide +kernel
  rw [nearest, roundTo, hexponent, hscaled,
    mul_div_cancel_right₀ _ (Grid.pow_pos (by decide) _).ne', hties,
    show (1024 : ℤ) = 53 + 971 by norm_num, zpow_add₀ (by norm_num)]
  norm_num

/-- A number is too large exactly from half a step above the largest double on. -/
theorem nearest_lt_iff (hq : 0 ≤ q) :
    nearest q < ((2 : ℕ) : ℚ) ^ (1024 : ℤ) ↔ q < overflow := by
  constructor
  · intro hlt
    by_contra hle
    have hmono := nearest_mono overflow_pos.le (not_lt.mp hle)
    rw [nearest_overflow] at hmono
    exact hmono.not_gt hlt
  · intro hlt
    rcases hq.eq_or_lt with rfl | hpos
    · rw [nearest_zero]
      exact Grid.pow_pos (by decide) _
    have hlog : Int.log 2 q < 1024 :=
      (Int.lt_zpow_iff_log_lt (by decide) hpos).mp (hlt.trans overflow_lt)
    have hexponent : exponent q ≤ 971 := by
      unfold exponent
      omega
    have herror := (abs_sub_le_iff.mp (abs_sub_nearest_le q)).2
    have hstep : ((2 : ℕ) : ℚ) ^ exponent q ≤ ((2 : ℕ) : ℚ) ^ (971 : ℤ) :=
      zpow_le_zpow_right₀ (by norm_num) hexponent
    have hhalf : ((2 : ℕ) : ℚ) ^ (971 : ℤ) = 2 * ((2 : ℕ) : ℚ) ^ (970 : ℤ) := by
      rw [show (971 : ℤ) = 970 + 1 by norm_num, zpow_add_one₀ (by norm_num), mul_comm]
      norm_num
    have hsplit : ((2 : ℕ) : ℚ) ^ (1024 : ℤ) = overflow + ((2 : ℕ) : ℚ) ^ (970 : ℤ) := by
      rw [overflow, show (1024 : ℤ) = 54 + 970 by norm_num, zpow_add₀ (by norm_num)]
      generalize ((2 : ℕ) : ℚ) ^ (970 : ℤ) = half
      norm_num
      ring
    rw [hhalf] at hstep
    generalize ((2 : ℕ) : ℚ) ^ exponent q = step at hstep herror
    rw [hsplit]
    generalize ((2 : ℕ) : ℚ) ^ (970 : ℤ) = half at hstep ⊢
    linarith

end

end Binary64

end Hyperliquid.Base
