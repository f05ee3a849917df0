import Hyperliquid.Tools.PriceGrid
import Hyperliquid.Tools.WireText

/-!
# Rounded numbers that are finite

`Conversions::roundPrice` and `Conversions::roundSize`, `conversions.cpp:17–50`, over IEEE 754
doubles: the prices and sizes that are rounded to finite doubles, and that these are read back
from their texts.
-/

namespace Hyperliquid.Tools.Conversions

open Hyperliquid.Base Binary64

section

variable {math : MathLibrary} {x : Binary64 math} {n : ℤ} {q : ℚ}

/-! ## Powers of ten -/

/-- The powers of ten up to the decimals of a price are exact. -/
theorem pow10_eq (math : MathLibrary) (hnonneg : 0 ≤ n) (hle : n ≤ 8) : math.pow10 n = 10 ^ n := by
  obtain ⟨k, rfl⟩ := Int.eq_ofNat_of_zero_le hnonneg
  rw [math.pow10_natCast k (by omega), zpow_natCast]

private theorem one_le_pow10 (math : MathLibrary) (hnonneg : 0 ≤ n) (hle : n ≤ 308) :
    1 ≤ math.pow10 n := by
  rcases hnonneg.eq_or_lt with rfl | hpos
  · rw [pow10_eq math le_rfl (by norm_num), zpow_zero]
  · have hten : (10 : ℚ) ^ (1 : ℤ) ≤ 10 ^ n := zpow_le_zpow_right₀ (by norm_num) hpos
    rw [zpow_one] at hten
    linarith [(pow10_mem math (by omega) hle).1]

private theorem pow10_le_one (math : MathLibrary) (hlow : -323 ≤ n) (hle : n ≤ 0) :
    math.pow10 n ≤ 1 := by
  rcases hle.eq_or_lt with rfl | hneg
  · rw [pow10_eq math le_rfl (by norm_num), zpow_zero]
  · have hten : (10 : ℚ) ^ n ≤ 10 ^ (-1 : ℤ) := zpow_le_zpow_right₀ (by norm_num) (by omega)
    have htenth : (10 : ℚ) ^ (-1 : ℤ) = 1 / 10 := by norm_num
    rw [htenth] at hten
    linarith [(pow10_mem math hlow (by omega)).2]

/-! ## Sizes -/

/-- What is left of a number that is rounded to decimals. -/
theorem magnitude?_roundSize (hlow : -323 ≤ n) (hhigh : n ≤ 308) (x : Binary64 math) :
    (roundSize x n).magnitude? = x.magnitude?.bind fun a ↦
      (rounded? (a * math.pow10 n)).bind fun units ↦
        rounded? (Double.roundAway units / math.pow10 n) := by
  have hmultiplier := magnitude?_pow10 math hlow hhigh
  unfold roundSize
  rw [magnitude?_div hmultiplier, magnitude?_round, magnitude?_mul, hmultiplier]
  cases x.magnitude? with
  | none => rfl
  | some a =>
    simp only [Option.bind_some, if_neg (pow10_pos math hlow hhigh).ne']
    cases rounded? (a * math.pow10 n) <;> rfl

private theorem isSome_rounded? : (rounded? q).isSome = true ↔ q < overflow := by
  unfold rounded?
  split <;> simp_all

/-- What is not finite stays so. -/
private theorem isFinite_roundSize_of_none (hlow : -323 ≤ n) (hhigh : n ≤ 308)
    (h : x.magnitude? = none) : (roundSize x n).isFinite = false := by
  rw [isFinite_eq_false_iff, magnitude?_roundSize hlow hhigh, h, Option.bind_none]

private theorem isFinite_roundSize (hlow : -323 ≤ n) (hhigh : n ≤ 308) {a : ℚ}
    (h : x.magnitude? = some a) :
    (roundSize x n).isFinite = true ↔ a * math.pow10 n < overflow ∧
      Double.roundAway (nearest (a * math.pow10 n)) / math.pow10 n < overflow := by
  unfold isFinite
  rw [magnitude?_roundSize hlow hhigh, h, Option.bind_some]
  by_cases hunits : a * math.pow10 n < overflow
  · rw [rounded?, if_pos hunits, Option.bind_some, isSome_rounded?]
    exact (and_iff_right hunits).symm
  · rw [rounded?, if_neg hunits]
    exact iff_of_false (by simp) fun hboth ↦ hunits hboth.1

/-- A multiplier from one on only makes a number larger in between. -/
private theorem isFinite_roundSize_of_nonneg (hnonneg : 0 ≤ n) (hle : n ≤ 308) {a : ℚ}
    (h : x.magnitude? = some a) :
    (roundSize x n).isFinite = true ↔ a * math.pow10 n < overflow := by
  rw [isFinite_roundSize (by omega) hle h, and_iff_left_iff_imp]
  intro hlt
  have hproduct : (Double.mul x (Double.pow10 n)).magnitude? =
      some (nearest (a * math.pow10 n)) := by
    rw [magnitude?_mul, h, magnitude?_pow10 math (by omega) hle, Option.bind_some, Option.bind_some,
      rounded?, if_pos hlt]
  obtain ⟨hround, hsmall⟩ := roundAway_mem hproduct
  have hround : (0 : ℚ) ≤ Double.roundAway (nearest (a * math.pow10 n)) := by
    exact_mod_cast hround
  exact (div_le_self hround (one_le_pow10 math hnonneg hle)).trans_lt hsmall

/-- The numbers of the sizes that are rounded to finite ones: their units of the last decimal do
not overflow. -/
def SizeInRange (math : MathLibrary) (szDecimals : ℤ) (q : ℚ) : Prop :=
  |q| * math.pow10 szDecimals < overflow

instance (szDecimals : ℤ) (q : ℚ) : Decidable (SizeInRange math szDecimals q) :=
  inferInstanceAs (Decidable (_ < _))

/-- The finite sizes that are rounded to finite ones. -/
theorem isFinite_roundSize_iff (hnonneg : 0 ≤ n) (hle : n ≤ 308) :
    (roundSize x n).isFinite = true ↔ ∃ q, x.value? = some q ∧ SizeInRange math n q := by
  have hmagnitude := magnitude?_eq_map x
  cases hvalue : x.value? with
  | none =>
    rw [hvalue] at hmagnitude
    rw [isFinite_roundSize_of_none (by omega) hle hmagnitude]
    simp
  | some q =>
    rw [hvalue] at hmagnitude
    rw [isFinite_roundSize_of_nonneg hnonneg hle hmagnitude]
    simp [SizeInRange]

/-! ## Five significant figures -/

/-- How far the rounding of doubles is off. -/
private theorem nearest_bounds (h : 0 ≤ q) :
    q - q / 2 ^ 53 - 1 / 4 ≤ nearest q ∧ nearest q ≤ q + q / 2 ^ 53 + 1 / 4 := by
  have hsmall := pow_le_quarter (show -1075 ≤ -2 by norm_num)
  obtain ⟨hlower, hupper⟩ := abs_le.mp (abs_sub_nearest_le_add h)
  generalize ((2 : ℕ) : ℚ) ^ (-1075 : ℤ) = least at hsmall hlower hupper
  constructor <;> linarith

/-- A number is rounded to a multiple of a scale by at most the scale, but for the error of the
quotient. -/
private theorem multiple_bounds {scale a : ℚ} (hscale : 0 < scale) (ha : 0 ≤ a) :
    a - a / 2 ^ 53 - scale ≤ Double.roundAway (nearest (a / scale)) * scale ∧
      Double.roundAway (nearest (a / scale)) * scale ≤ a + a / 2 ^ 53 + scale := by
  obtain ⟨hlower, hupper⟩ := nearest_bounds (div_nonneg ha hscale.le)
  obtain ⟨hdown, hup⟩ := abs_le.mp (Double.abs_sub_roundAway_le (nearest (a / scale)))
  have hquotient : a / scale * scale = a := div_mul_cancel₀ a hscale.ne'
  generalize (Double.roundAway (nearest (a / scale)) : ℚ) = multiple at hdown hup ⊢
  constructor
  · have hle : a / scale - a / scale / 2 ^ 53 - 1 ≤ multiple := by linarith
    have := mul_le_mul_of_nonneg_right hle hscale.le
    linarith
  · have hle : multiple ≤ a / scale + a / scale / 2 ^ 53 + 1 := by linarith
    have := mul_le_mul_of_nonneg_right hle hscale.le
    linarith

/-- Seventeen thousand and so many units: the double below the tie is too far from it. -/
private theorem le_nearest_tie_iff (h : 0 < q) :
    35953 / 2 ≤ nearest q ↔ 35953 / 2 - 1 / 2 ^ 39 ≤ q := by
  constructor
  · intro hle
    by_contra hlt
    have hlt := not_le.mp hlt
    have hlog : Int.log 2 q < 15 := by
      refine (Int.lt_zpow_iff_log_lt (by decide) h).mp (lt_trans hlt ?_)
      norm_num
    have hstep : ((2 : ℕ) : ℚ) ^ exponent q ≤ ((2 : ℕ) : ℚ) ^ (-38 : ℤ) := by
      refine zpow_le_zpow_right₀ (by norm_num) ?_
      unfold exponent
      omega
    have herror := (abs_le.mp (abs_sub_nearest_le q)).1
    have hpow : ((2 : ℕ) : ℚ) ^ (-38 : ℤ) = 2 * (1 / 2 ^ 39) := by norm_num
    rw [hpow] at hstep
    generalize ((2 : ℕ) : ℚ) ^ exponent q = step at hstep herror
    linarith
  · intro hle
    have htie : nearest (35953 / 2 - 1 / 2 ^ 39) = 35953 / 2 := by decide +kernel
    have hmono := nearest_mono (by norm_num) hle
    rwa [htie] at hmono

/-- The least magnitude that overflows when it is rounded to five significant figures and then
scaled by the decimals: `17976` units of the fifth figure are below the overflow, and `17977` are
above it. -/
def priceLimit (math : MathLibrary) (decimals : ℤ) : ℚ :=
  (35953 / 2 - 1 / 2 ^ 39) * math.pow10 (304 - decimals)

section

/-- A large power of ten is off by little. -/
private theorem pow10_bounds (math : MathLibrary) (hlow : -323 ≤ n) (hhigh : n ≤ 308) :
    10 ^ n - 10 ^ n / 2 ^ 52 - 1 / 4 ≤ math.pow10 n ∧
      math.pow10 n ≤ 10 ^ n + 10 ^ n / 2 ^ 52 + 1 / 4 := by
  have hsmall := pow_le_quarter (show -1074 ≤ -2 by norm_num)
  obtain ⟨hlower, hupper⟩ := abs_le.mp (abs_sub_pow10_le math hlow hhigh)
  generalize ((2 : ℕ) : ℚ) ^ (-1074 : ℤ) = least at hsmall hlower hupper
  constructor <;> linarith

variable {a : ℚ} {e decimals : ℤ}

/-- The number of the last significant figures, by the scale of the last one. -/
private def multiple (math : MathLibrary) (a : ℚ) (e : ℤ) : ℚ :=
  Double.roundAway (nearest (a / math.pow10 e)) * math.pow10 e

private theorem le_pow10 (hdecimals : decimals ≤ 8) : (10 : ℚ) ^ 9 ≤ 10 ^ (304 - decimals) :=
  calc (10 : ℚ) ^ 9 = 10 ^ (9 : ℤ) := by norm_num
    _ ≤ 10 ^ (304 - decimals) := zpow_le_zpow_right₀ (by norm_num) (by omega)

private theorem multiple_le_of_lt (hnonneg : 0 ≤ decimals) (hdecimals : decimals ≤ 8)
    (he : -323 ≤ e) (ha : 0 ≤ a)
    (hupper : a < (1 + 1 / 2 ^ 40) * 10 ^ (e + 5)) (hlt : e < 304 - decimals) :
    a < priceLimit math decimals ∧ multiple math a e ≤ 17976.1 * 10 ^ (304 - decimals) := by
  have hunit := le_pow10 hdecimals
  obtain ⟨hlimit, _⟩ := pow10_bounds math (show -323 ≤ 304 - decimals by omega) (by omega)
  obtain ⟨_, hscale⟩ := pow10_mem math he (by omega)
  obtain ⟨_, hmultiple⟩ := multiple_bounds (pow10_pos math he (by omega)) ha
  have hpow : (10 : ℚ) ^ (e + 5) ≤ 10 ^ 4 * 10 ^ (304 - decimals) := by
    rw [← zpow_natCast, ← zpow_add₀ (by norm_num)]
    exact zpow_le_zpow_right₀ (by norm_num) (by push_cast; omega)
  have hsmall : (10 : ℚ) ^ e ≤ 10 ^ (304 - decimals) :=
    zpow_le_zpow_right₀ (by norm_num) hlt.le
  unfold priceLimit multiple
  generalize (10 : ℚ) ^ (304 - decimals) = unit at *
  generalize (10 : ℚ) ^ (e + 5) = power at *
  constructor <;> linarith

private theorem le_multiple_of_gt (hnonneg : 0 ≤ decimals) (hdecimals : decimals ≤ 8)
    (he : e ≤ 304) (ha : 0 ≤ a) (hlower : (1 - 1 / 2 ^ 40) * 10 ^ (e + 4) ≤ a)
    (hgt : 304 - decimals < e) :
    priceLimit math decimals ≤ a ∧ 17976.99 * 10 ^ (304 - decimals) ≤ multiple math a e := by
  have hunit := le_pow10 hdecimals
  obtain ⟨_, hlimit⟩ := pow10_bounds math (show -323 ≤ 304 - decimals by omega) (by omega)
  obtain ⟨_, hscale⟩ := pow10_mem math (show -323 ≤ e by omega) (by omega)
  obtain ⟨hmultiple, _⟩ := multiple_bounds
    (pow10_pos math (show -323 ≤ e by omega) (by omega)) ha
  have hpow : (10 : ℚ) * 10 ^ (304 - decimals) ≤ 10 ^ e := by
    rw [← zpow_one_add₀ (by norm_num)]
    exact zpow_le_zpow_right₀ (by norm_num) (by omega)
  have hfigures : (10 : ℚ) ^ (e + 4) = 10 ^ 4 * 10 ^ e := by
    rw [zpow_add₀ (by norm_num), mul_comm]
    norm_num
  rw [hfigures] at hlower
  unfold priceLimit multiple
  generalize (10 : ℚ) ^ (304 - decimals) = unit at *
  generalize (10 : ℚ) ^ e = power at *
  constructor <;> linarith

private theorem multiple_at (hnonneg : 0 ≤ decimals) (hdecimals : decimals ≤ 8) (ha : 0 < a) :
    (a < priceLimit math decimals ∧
        multiple math a (304 - decimals) ≤ 17976.1 * 10 ^ (304 - decimals)) ∨
      (priceLimit math decimals ≤ a ∧
        17976.99 * 10 ^ (304 - decimals) ≤ multiple math a (304 - decimals)) := by
  have hunit := le_pow10 hdecimals
  have hpos := pow10_pos math (show -323 ≤ 304 - decimals by omega) (by omega)
  obtain ⟨hlower, hupper⟩ := pow10_bounds math (show -323 ≤ 304 - decimals by omega) (by omega)
  -- the seventeen thousand and 977th unit is reached from half a unit below it
  have hround := Double.le_roundAway_iff (nearest_nonneg (div_nonneg ha.le hpos.le)) 17977
  have htie := le_nearest_tie_iff (div_pos ha hpos)
  have hvalue : ((17977 : ℤ) : ℚ) - 1 / 2 = 35953 / 2 := by norm_num
  rw [hvalue, htie, le_div_iff₀ hpos] at hround
  unfold priceLimit multiple
  generalize math.pow10 (304 - decimals) = scale at *
  rcases lt_or_ge a ((35953 / 2 - 1 / 2 ^ 39) * scale) with hlt | hge
  · refine Or.inl ⟨hlt, ?_⟩
    have hle : Double.roundAway (nearest (a / scale)) ≤ 17976 := by
      have := mt hround.mp (not_le.mpr hlt)
      omega
    have hle : (Double.roundAway (nearest (a / scale)) : ℚ) ≤ 17976 := by exact_mod_cast hle
    have := mul_le_mul_of_nonneg_right hle hpos.le
    linarith
  · refine Or.inr ⟨hge, ?_⟩
    have hle : (17977 : ℚ) ≤ Double.roundAway (nearest (a / scale)) := by
      exact_mod_cast hround.mpr hge
    have := mul_le_mul_of_nonneg_right hle hpos.le
    linarith

/-- A price is below the limit exactly when its multiple is so many units, and above it it is one
unit more. -/
private theorem multiple_cases (math : MathLibrary) (hnonneg : 0 ≤ decimals)
    (hdecimals : decimals ≤ 8) (hlow : -323 ≤ e) (hhigh : e ≤ 304) (ha : 0 < a)
    (hlower : (1 - 1 / 2 ^ 40) * 10 ^ (e + 4) ≤ a)
    (hupper : a < (1 + 1 / 2 ^ 40) * 10 ^ (e + 5)) :
    (a < priceLimit math decimals ∧ multiple math a e ≤ 17976.1 * 10 ^ (304 - decimals)) ∨
      (priceLimit math decimals ≤ a ∧ 17976.99 * 10 ^ (304 - decimals) ≤ multiple math a e) := by
  rcases lt_trichotomy e (304 - decimals) with hlt | rfl | hgt
  · exact Or.inl (multiple_le_of_lt hnonneg hdecimals hlow ha.le hupper hlt)
  · exact multiple_at hnonneg hdecimals ha
  · exact Or.inr (le_multiple_of_gt hnonneg hdecimals hhigh ha.le hlower hgt)

/-- The unit of the fifth figure of the largest doubles. -/
private def largestUnit : ℚ := 10 ^ (304 : ℤ)

private theorem largestUnit_lt : 17976.9 * largestUnit < overflow := overflow_bounds.1

private theorem overflow_lt_largestUnit : overflow < 17976.95 * largestUnit := overflow_bounds.2

private theorem largestUnit_pos : 0 < largestUnit := zpow_pos (by norm_num) _

private theorem mul_pow10 (c : ℚ) (decimals : ℤ) :
    c * (10 : ℚ) ^ (304 - decimals) * 10 ^ decimals = c * largestUnit := by
  rw [mul_assoc, ← zpow_add₀ (by norm_num), sub_add_cancel, largestUnit]

private theorem pow10_le_largestUnit (h : 0 ≤ decimals) :
    (10 : ℚ) ^ (304 - decimals) ≤ largestUnit :=
  zpow_le_zpow_right₀ (by norm_num) (by omega)

/-- The division by a multiplier below one undoes the multiplication, up to its unit. -/
private theorem isFinite_roundSize_of_neg (hlow : -249 ≤ decimals) (hneg : decimals < 0)
    (hx : x.magnitude? = some a) (h : a ≤ 17976.2 * largestUnit) :
    (roundSize x decimals).isFinite = true := by
  have ha : 0 ≤ a := by
    rw [magnitude?_eq_map] at hx
    obtain ⟨q, _, rfl⟩ := Option.map_eq_some_iff.mp hx
    exact abs_nonneg q
  have hone := pow10_le_one math (show -323 ≤ decimals by omega) hneg.le
  have hpos := pow10_pos math (show -323 ≤ decimals by omega) (by omega)
  have hleast : (1 : ℚ) ≤ 10 ^ (250 : ℤ) * math.pow10 decimals := by
    have hhalf : (10 : ℚ) ^ (-249 : ℤ) / 2 ≤ 10 ^ decimals / 2 :=
      div_le_div_of_nonneg_right (zpow_le_zpow_right₀ (by norm_num) hlow) (by norm_num)
    have hten : (1 : ℚ) ≤ 10 ^ (250 : ℤ) * (10 ^ (-249 : ℤ) / 2) := by
      rw [← mul_div_assoc, ← zpow_add₀ (by norm_num)]
      norm_num
    exact hten.trans (mul_le_mul_of_nonneg_left
      (hhalf.trans (pow10_mem math (by omega) (by omega)).1) (by positivity))
  have hsmall : (10 : ℚ) ^ (250 : ℤ) ≤ largestUnit * (1 / 10) := by
    have htenth : (1 / 10 : ℚ) = 10 ^ (-1 : ℤ) := by norm_num
    rw [largestUnit, htenth, ← zpow_add₀ (by norm_num)]
    exact zpow_le_zpow_right₀ (by norm_num) (by norm_num)
  rw [isFinite_roundSize (by omega) (by omega) hx]
  generalize (10 : ℚ) ^ (250 : ℤ) = inverse at hleast hsmall
  generalize math.pow10 decimals = multiplier at hone hpos hleast ⊢
  have hoverflow := largestUnit_lt
  have hunit := largestUnit_pos
  have hproduct : a * multiplier ≤ a := mul_le_of_le_one_right ha hone
  refine ⟨by linarith, ?_⟩
  obtain ⟨_, hunits⟩ := nearest_bounds (mul_nonneg ha hpos.le)
  obtain ⟨hround, _⟩ := abs_le.mp (Double.abs_sub_roundAway_le (nearest (a * multiplier)))
  have hbound : a + a / 2 ^ 53 + inverse < overflow := by linarith
  have hscaled := mul_lt_mul_of_pos_right hbound hpos
  rw [div_lt_iff₀ hpos]
  linarith

/-- A multiple below the overflow is rounded to decimals. -/
private theorem isFinite_of_multiple_le (hlow : -249 ≤ decimals) (hdecimals : decimals ≤ 8)
    (ha : 0 ≤ a) (hx : x.magnitude? = rounded? a)
    (h : a ≤ 17976.1 * 10 ^ (304 - max decimals 0)) : (roundSize x decimals).isFinite = true := by
  have hunit := le_pow10 (show max decimals 0 ≤ 8 by omega)
  have hmost := pow10_le_largestUnit (show 0 ≤ max decimals 0 by omega)
  have hoverflow := largestUnit_lt
  obtain ⟨_, hnearest⟩ := nearest_bounds ha
  have hlt : a < overflow := by linarith
  have hvalue : nearest a ≤ 17976.2 * 10 ^ (304 - max decimals 0) := by linarith
  rw [rounded?, if_pos hlt] at hx
  rcases le_or_gt 0 decimals with hnonneg | hneg
  · rw [isFinite_roundSize_of_nonneg hnonneg (by omega) hx, pow10_eq math hnonneg hdecimals]
    rw [max_eq_left hnonneg] at hvalue
    have hproduct := mul_le_mul_of_nonneg_right hvalue
      (zpow_nonneg (by norm_num : (0 : ℚ) ≤ 10) decimals)
    rw [mul_pow10] at hproduct
    linarith [largestUnit_pos]
  · refine isFinite_roundSize_of_neg hlow hneg hx (hvalue.trans ?_)
    exact mul_le_mul_of_nonneg_left hmost (by norm_num)

/-- A larger one is not. -/
private theorem not_isFinite_of_le_multiple (hlow : -249 ≤ decimals) (hdecimals : decimals ≤ 8)
    (ha : 0 ≤ a) (hx : x.magnitude? = rounded? a)
    (h : 17976.99 * 10 ^ (304 - max decimals 0) ≤ a) :
    ¬ (roundSize x decimals).isFinite = true := by
  have hoverflow := overflow_lt_largestUnit
  have hlargest := largestUnit_pos
  by_cases hlt : a < overflow
  · rw [rounded?, if_pos hlt] at hx
    rcases le_or_gt 0 decimals with hnonneg | hneg
    · have hunit := le_pow10 hdecimals
      rw [max_eq_left hnonneg] at h
      obtain ⟨hnearest, _⟩ := nearest_bounds ha
      have hvalue : 17976.98 * 10 ^ (304 - decimals) ≤ nearest a := by linarith
      rw [isFinite_roundSize_of_nonneg hnonneg (by omega) hx, pow10_eq math hnonneg hdecimals]
      have hproduct := mul_le_mul_of_nonneg_right hvalue
        (zpow_nonneg (by norm_num : (0 : ℚ) ≤ 10) decimals)
      rw [mul_pow10] at hproduct
      linarith
    · rw [max_eq_right hneg.le, sub_zero, ← largestUnit] at h
      linarith
  · rw [rounded?, if_neg hlt] at hx
    rw [isFinite_roundSize_of_none (by omega) (by omega) hx]
    exact Bool.false_ne_true

end

/-! ## Prices -/

section

variable {F : Type} [Double F]

open Double in
/-- The price of five significant figures in `roundPrice`. -/
def sigFigsPrice (price : F) : F :=
  let magnitude : ℤ := if eq price (lit 0) then 0 else floorLog10 (abs price)
  let scale : F := pow10 (magnitude - (5 - 1))
  mul (round (div price scale)) scale

open Double in
/-- The second rounding of `roundPrice` is that of `roundSize`. -/
theorem roundPrice_eq_roundSize {price : F} {szDecimals : ℤ} {isSpot : Bool}
    (h : (gt price (lit 100000) && eq price (floor price)) = false) :
    roundPrice price szDecimals isSpot =
      roundSize (sigFigsPrice price) (maxDecimals isSpot - szDecimals) :=
  if_neg (Bool.eq_false_iff.mp h)

end

/-- The scale of the last significant figure of a positive double, by its exponent. -/
private def scaleExponent (math : MathLibrary) (a : ℚ) : ℤ := math.floorLog10 a - (5 - 1)

/-- The doubles on both sides of `1e-319`, further away than the logarithm is off. -/
private theorem pow_319_bounds :
    (20240 : ℤ) * ((2 : ℕ) : ℚ) ^ (-1074 : ℤ) < (1 - 1 / 2 ^ 40) * 10 ^ (-319 : ℤ) ∧
      (1 + 1 / 2 ^ 40) * 10 ^ (-319 : ℤ) < (20241 : ℤ) * ((2 : ℕ) : ℚ) ^ (-1074 : ℤ) := by
  decide +kernel

section

variable {a : Magnitude} (hpos : 0 < a.value)
include hpos

private theorem scaleExponent_bounds (math : MathLibrary) :
    (1 - 1 / 2 ^ 40) * 10 ^ (scaleExponent math a.value + 4) ≤ a.value ∧
      a.value < (1 + 1 / 2 ^ 40) * 10 ^ (scaleExponent math a.value + 5) := by
  have hlower := math.floorLog10_le a.value hpos
  have hupper := math.lt_floorLog10 a.value hpos
  have hfour : scaleExponent math a.value + 4 = math.floorLog10 a.value := by
    unfold scaleExponent
    omega
  have hfive : scaleExponent math a.value + 5 = math.floorLog10 a.value + 1 := by omega
  rw [hfour, hfive]
  exact ⟨hlower, hupper⟩

private theorem scaleExponent_le (math : MathLibrary) : scaleExponent math a.value ≤ 304 := by
  obtain ⟨hlower, _⟩ := scaleExponent_bounds hpos math
  by_contra hgt
  have hpow : (10 : ℚ) ^ (309 : ℤ) ≤ 10 ^ (scaleExponent math a.value + 4) :=
    zpow_le_zpow_right₀ (by norm_num) (by omega)
  have hsplit : (10 : ℚ) ^ (309 : ℤ) = 10 ^ 5 * largestUnit := by
    rw [largestUnit, show (309 : ℤ) = 5 + 304 by norm_num, zpow_add₀ (by norm_num)]
    norm_num
  have hle := mul_le_mul_of_nonneg_left hpow (by norm_num : (0 : ℚ) ≤ 1 - 1 / 2 ^ 40)
  rw [hsplit] at hle
  linarith only [hle.trans hlower, a.lt_overflow, overflow_lt_largestUnit, largestUnit_pos]

/-- A price is not so many units of its last significant figure that they overflow. -/
private theorem quotient_lt_overflow (math : MathLibrary)
    (hle : -323 ≤ scaleExponent math a.value) :
    a.value / math.pow10 (scaleExponent math a.value) < overflow := by
  obtain ⟨_, hupper⟩ := scaleExponent_bounds hpos math
  have hmost := scaleExponent_le hpos math
  obtain ⟨hhalf, _⟩ := pow10_mem math hle (by omega)
  have hscale := pow10_pos math hle (by omega)
  have hsplit : (10 : ℚ) ^ (scaleExponent math a.value + 5) =
      10 ^ 5 * 10 ^ scaleExponent math a.value := by
    rw [zpow_add₀ (by norm_num), mul_comm]
    norm_num
  have hlarge : (10 : ℚ) ^ 6 < overflow := by
    exact_mod_cast natCast_lt_overflow (show 10 ^ 6 < 2 ^ 53 by norm_num)
  rw [hsplit] at hupper
  rw [div_lt_iff₀ hscale]
  have hscaled := mul_lt_mul_of_pos_right hlarge hscale
  linarith

/-- The scale of a price is not zero from `1e-319` on: no double is so near below it that the
logarithm could take it for one. -/
private theorem le_scaleExponent_iff (math : MathLibrary) :
    -323 ≤ scaleExponent math a.value ↔ 10 ^ (-319 : ℤ) ≤ a.value := by
  obtain ⟨hlower, hupper⟩ := scaleExponent_bounds hpos math
  have hstep : (0 : ℚ) < ((2 : ℕ) : ℚ) ^ (-1074 : ℤ) := Grid.pow_pos (by decide) _
  obtain ⟨k, hk⟩ := Grid.mem_iff.mp (Grid.anti (by decide) (le_max_right _ _)
    (nearest_eq_self_iff.mp a.nearest_value))
  obtain ⟨hbelow, habove⟩ := pow_319_bounds
  have hpos : (0 : ℚ) < 10 ^ (-319 : ℤ) := zpow_pos (by norm_num) _
  generalize scaleExponent math a.value = e at hlower hupper ⊢
  rw [← hk] at hlower hupper ⊢
  constructor
  · intro hle
    have hpow : (10 : ℚ) ^ (-319 : ℤ) ≤ 10 ^ (e + 4) :=
      zpow_le_zpow_right₀ (by norm_num) (by omega)
    have hlt := hbelow.trans_le ((mul_le_mul_of_nonneg_left hpow (by norm_num)).trans hlower)
    have hk : 20240 < k := by exact_mod_cast lt_of_mul_lt_mul_right hlt hstep.le
    refine (le_mul_of_one_le_left hpos.le (by norm_num)).trans (habove.le.trans ?_)
    refine mul_le_mul_of_nonneg_right ?_ hstep.le
    exact_mod_cast hk
  · intro hle
    by_contra hlt
    have hpow : (10 : ℚ) ^ (e + 5) ≤ 10 ^ (-319 : ℤ) :=
      zpow_le_zpow_right₀ (by norm_num) (by omega)
    have hlt := hupper.trans_le ((mul_le_mul_of_nonneg_left hpow (by norm_num)).trans habove.le)
    have hk : k < 20241 := by exact_mod_cast lt_of_mul_lt_mul_right hlt hstep.le
    refine absurd hle (not_le.mpr (lt_of_lt_of_le (lt_of_le_of_lt ?_ hbelow)
      (mul_le_of_le_one_left hpos.le (by norm_num))))
    refine mul_le_mul_of_nonneg_right ?_ hstep.le
    exact_mod_cast Int.lt_add_one_iff.mp hk

end

variable {price : Binary64 math}

/-- The guard of the integer prices. -/
private theorem passed_iff (hvalue : price.value? = some q) :
    (Double.gt price (Double.lit 100000) && Double.eq price (Double.floor price)) = true ↔
      Passed q := by
  have hlit : (Double.lit 100000 : Binary64 math).value? = some 100000 := by
    have hcast := nearest_natCast (show 100000 < 2 ^ 53 by norm_num)
    rw [value?_lit math (by norm_num)
      (by exact_mod_cast natCast_lt_overflow (show 100000 < 2 ^ 53 by norm_num))]
    exact congrArg some (by exact_mod_cast hcast)
  rw [Bool.and_eq_true_iff, gt_eq_decide hvalue hlit, decide_eq_true_eq]
  constructor
  · rintro ⟨hgt, hinteger⟩
    exact ⟨hgt, (eq_floor_iff hvalue (by linarith)).mp hinteger⟩
  · rintro ⟨hgt, hinteger⟩
    exact ⟨hgt, (eq_floor_iff hvalue (by linarith)).mpr hinteger⟩

/-- The price of five significant figures, unless its scale is zero. -/
private theorem magnitude?_sigFigsPrice (math : MathLibrary) {a : Magnitude} (s : Bool)
    (hpos : 0 < a.value) :
    (sigFigsPrice (finite s a : Binary64 math)).magnitude? =
      if -323 ≤ scaleExponent math a.value then
        rounded? (multiple math a.value (scaleExponent math a.value))
      else none := by
  have hvalue : (finite s a : Binary64 math).value? = some (withSign s a.value) := rfl
  have hzero : Double.eq (finite s a : Binary64 math) (Double.lit 0) = false := by
    rw [eq_eq_decide hvalue (value?_lit math le_rfl overflow_pos), nearest_zero, decide_eq_false]
    cases s with
    | false => exact hpos.ne'
    | true => exact neg_ne_zero.mpr hpos.ne'
  have hlog : Double.floorLog10 (Double.abs (finite s a : Binary64 math)) =
      math.floorLog10 a.value := if_neg hpos.ne'
  have hprice : sigFigsPrice (finite s a : Binary64 math) = Double.mul
      (Double.round (Double.div (finite s a) (Double.pow10 (scaleExponent math a.value))))
      (Double.pow10 (scaleExponent math a.value)) := by
    unfold sigFigsPrice
    rw [hzero, hlog]
    rfl
  have hmagnitude : (finite s a : Binary64 math).magnitude? = some a.value := rfl
  by_cases hle : -323 ≤ scaleExponent math a.value
  · have hmost := scaleExponent_le hpos math
    have hscale := magnitude?_pow10 math hle (by omega)
    have hscalePos := pow10_pos math hle (by omega)
    rw [hprice, magnitude?_mul, magnitude?_round, magnitude?_div hscale, hscale, hmagnitude,
      if_pos hle, Option.bind_some, if_neg hscalePos.ne', rounded?,
      if_pos (quotient_lt_overflow hpos math hle)]
    rfl
  · have hscale := magnitude?_pow10_of_lt math (not_le.mp hle)
    rw [hprice, magnitude?_mul, magnitude?_round, magnitude?_div hscale, hmagnitude, if_neg hle,
      Option.bind_some, if_pos rfl]
    rfl

private theorem magnitude?_sigFigsPrice_zero (math : MathLibrary) {a : Magnitude} (s : Bool)
    (h : a.value = 0) :
    (sigFigsPrice (finite s a : Binary64 math)).magnitude? = rounded? 0 := by
  have hvalue : (finite s a : Binary64 math).value? = some (withSign s a.value) := rfl
  have hzero : Double.eq (finite s a : Binary64 math) (Double.lit 0) = true := by
    rw [eq_eq_decide hvalue (value?_lit math le_rfl overflow_pos), nearest_zero,
      decide_eq_true_eq, h]
    cases s with
    | false => rfl
    | true => exact neg_zero
  have hprice : sigFigsPrice (finite s a : Binary64 math) = Double.mul
      (Double.round (Double.div (finite s a) (Double.pow10 (-4)))) (Double.pow10 (-4)) := by
    unfold sigFigsPrice
    rw [hzero]
    rfl
  have hmagnitude : (finite s a : Binary64 math).magnitude? = some 0 := congrArg some h
  have hscale := magnitude?_pow10 math (n := -4) (by norm_num) (by norm_num)
  have hscalePos := pow10_pos math (n := -4) (by norm_num) (by norm_num)
  have hround : Double.roundAway 0 = 0 := by
    have hcast := Double.roundAway_intCast 0
    rwa [Int.cast_zero] at hcast
  rw [hprice, magnitude?_mul, magnitude?_round, magnitude?_div hscale, hscale, hmagnitude,
    Option.bind_some, if_neg hscalePos.ne', zero_div, rounded?, if_pos overflow_pos, nearest_zero,
    Option.map_some, Option.bind_some, Option.bind_some, hround, Int.cast_zero, zero_mul,
    rounded?, if_pos overflow_pos, nearest_zero]

/-- A price that is not finite has no five significant figures. -/
private theorem magnitude?_sigFigsPrice_of_not_finite (h : price.magnitude? = none) :
    (sigFigsPrice price).magnitude? = none := by
  unfold sigFigsPrice
  rw [magnitude?_mul, magnitude?_round, magnitude?_div_of_not_finite h]
  rfl

/-- The numbers of the prices that are rounded to finite ones: the integers that are passed on,
zero, and those whose scale is not zero and whose last decimals do not overflow. -/
def PriceInRange (math : MathLibrary) (szDecimals : ℤ) (isSpot : Bool) (q : ℚ) : Prop :=
  Passed q ∨ q = 0 ∨
    10 ^ (-319 : ℤ) ≤ |q| ∧ |q| < priceLimit math (max (maxDecimals isSpot - szDecimals) 0)

instance (szDecimals : ℤ) (isSpot : Bool) (q : ℚ) :
    Decidable (PriceInRange math szDecimals isSpot q) :=
  inferInstanceAs (Decidable ((_ ∧ _) ∨ _ ∨ (_ ∧ _)))

private theorem multiple_nonneg (math : MathLibrary) {a : ℚ} {e : ℤ} (ha : 0 ≤ a) (he : -323 ≤ e)
    (hle : e ≤ 308) : 0 ≤ multiple math a e := by
  have hpos := pow10_pos math he hle
  have hnearest := nearest_nonneg (div_nonneg ha hpos.le)
  have hround : 0 ≤ Double.roundAway (nearest (a / math.pow10 e)) := by
    refine (Double.le_roundAway_iff hnearest 0).mpr ?_
    push_cast
    linarith
  exact mul_nonneg (by exact_mod_cast hround) hpos.le

/-- The finite prices that are rounded to finite ones if they are not passed on. -/
private theorem isFinite_roundSize_sigFigsPrice {decimals : ℤ} (hlow : -249 ≤ decimals)
    (hhigh : decimals ≤ 8) (hvalue : price.value? = some q) :
    (roundSize (sigFigsPrice price) decimals).isFinite = true ↔
      q = 0 ∨ 10 ^ (-319 : ℤ) ≤ |q| ∧ |q| < priceLimit math (max decimals 0) := by
  cases price with
  | finite s a =>
    obtain rfl : withSign s a.value = q := Option.some.inj hvalue
    have habs : a.value = |withSign s a.value| :=
      Option.some.inj (magnitude?_eq_map (finite s a : Binary64 math))
    rcases a.nonneg.eq_or_lt with hzero | hpos
    · have hfinite := isFinite_of_multiple_le hlow hhigh le_rfl
        (magnitude?_sigFigsPrice_zero math s hzero.symm)
        (mul_nonneg (by norm_num) (zpow_nonneg (by norm_num) _))
      exact iff_of_true hfinite (Or.inl (abs_eq_zero.mp (habs.symm.trans hzero.symm)))
    · have hne : withSign s a.value ≠ 0 := by
        intro heq
        rw [heq, abs_zero] at habs
        exact hpos.ne' habs
      have hprice := magnitude?_sigFigsPrice math s hpos
      rw [or_iff_right hne, ← habs, ← le_scaleExponent_iff hpos math]
      by_cases hle : -323 ≤ scaleExponent math a.value
      · rw [if_pos hle] at hprice
        obtain ⟨hlower, hupper⟩ := scaleExponent_bounds hpos math
        have hmost := scaleExponent_le hpos math
        have hnonneg := multiple_nonneg math a.nonneg hle (by omega)
        rcases multiple_cases math (show 0 ≤ max decimals 0 by omega)
          (by omega) hle hmost hpos hlower hupper with
          ⟨hlt, hmultiple⟩ | ⟨hge, hmultiple⟩
        · exact iff_of_true (isFinite_of_multiple_le hlow hhigh hnonneg hprice hmultiple)
            ⟨hle, hlt⟩
        · exact iff_of_false (not_isFinite_of_le_multiple hlow hhigh hnonneg hprice hmultiple)
            fun hrange ↦ absurd hrange.2 (not_lt.mpr hge)
      · rw [if_neg hle] at hprice
        refine iff_of_false ?_ fun hrange ↦ hle hrange.1
        rw [isFinite_roundSize_of_none (by omega) (by omega) hprice]
        exact Bool.false_ne_true
  | infinite s => cases hvalue
  | nan s => cases hvalue

/-- The finite prices that are rounded to finite ones. -/
theorem isFinite_roundPrice_iff {szDecimals : ℤ} {isSpot : Bool} (hnonneg : 0 ≤ szDecimals)
    (hle : szDecimals ≤ 255) :
    (roundPrice price szDecimals isSpot).isFinite = true ↔
      ∃ q, price.value? = some q ∧ PriceInRange math szDecimals isSpot q := by
  have hleast := le_maxDecimals isSpot
  have hmost := maxDecimals_le isSpot
  cases hvalue : price.value? with
  | none =>
    have hmagnitude : price.magnitude? = none := by rw [magnitude?_eq_map, hvalue, Option.map_none]
    apply iff_of_false
    · cases hguard : Double.gt price (Double.lit 100000) &&
        Double.eq price (Double.floor price) with
      | true =>
        rw [roundPrice, if_pos hguard, isFinite_eq_false_iff.mpr hmagnitude]
        exact Bool.false_ne_true
      | false =>
        rw [roundPrice_eq_roundSize hguard, isFinite_roundSize_of_none (by omega) (by omega)
          (magnitude?_sigFigsPrice_of_not_finite hmagnitude)]
        exact Bool.false_ne_true
    · rintro ⟨q, hq, _⟩
      cases hq
  | some q =>
    have hguard := passed_iff hvalue
    by_cases hpassed : Passed q
    · rw [roundPrice, if_pos (hguard.mpr hpassed)]
      refine iff_of_true ?_ ⟨q, rfl, Or.inl hpassed⟩
      unfold isFinite
      rw [magnitude?_eq_map, hvalue]
      rfl
    · rw [roundPrice_eq_roundSize (Bool.eq_false_iff.mpr (mt hguard.mp hpassed)),
        isFinite_roundSize_sigFigsPrice (by omega) (by omega) hvalue]
      simp [PriceInRange, hpassed]

/-! ## Texts -/

/-- A rounded size is read back from its text: its decimals are printed. -/
theorem stod_fixed8_roundSize (hnonneg : 0 ≤ n) (hle : n ≤ 8) (x : Binary64 math) :
    Double.stod (Double.fixed8 (roundSize x n)) = roundSize x n := by
  cases hfinite : (roundSize x n).magnitude? with
  | none =>
    exact stod_fixed8_of_not_finite (isFinite_eq_false_iff.mpr hfinite)
  | some m =>
    have hvalue := hfinite
    rw [magnitude?_roundSize (by omega) (by omega)] at hvalue
    obtain ⟨a, ha, hvalue⟩ := Option.bind_eq_some_iff.mp hvalue
    obtain ⟨units, hunits, hvalue⟩ := Option.bind_eq_some_iff.mp hvalue
    have hproduct : (Double.mul x (Double.pow10 n)).magnitude? = some units := by
      rw [magnitude?_mul, ha, magnitude?_pow10 math (by omega) (by omega)]
      exact hunits
    obtain ⟨k, hk⟩ := Int.eq_ofNat_of_zero_le (roundAway_mem hproduct).1
    obtain ⟨decimals, rfl⟩ := Int.eq_ofNat_of_zero_le hnonneg
    -- the units of the last decimal are hundred-millionths
    have hscale : (k : ℚ) / 10 ^ decimals = (k * 10 ^ (8 - decimals) : ℕ) / 10 ^ 8 := by
      have hsplit : (10 : ℚ) ^ 8 = 10 ^ (8 - decimals) * 10 ^ decimals := by
        rw [← pow_add]
        congr 1
        omega
      push_cast
      rw [hsplit, ← div_div, mul_div_cancel_right₀ _ (by positivity)]
    rw [pow10_eq math hnonneg hle, hk, zpow_natCast, Int.cast_natCast, hscale] at hvalue
    apply stod_fixed8 (k * 10 ^ (8 - decimals))
    rw [hfinite, ← hvalue]
    unfold rounded? at hvalue ⊢
    split at hvalue
    · next hlt => rw [if_pos hlt]
    · cases hvalue

/-- A rounded price is read back from its text. -/
theorem stod_fixed8_roundPrice {szDecimals : ℤ} {isSpot : Bool} (hnonneg : 0 ≤ szDecimals)
    (hle : szDecimals ≤ maxDecimals isSpot) (price : Binary64 math) :
    Double.stod (Double.fixed8 (roundPrice price szDecimals isSpot)) =
      roundPrice price szDecimals isSpot := by
  cases hguard : Double.gt price (Double.lit 100000) &&
    Double.eq price (Double.floor price) with
  | true =>
    rw [roundPrice, if_pos hguard]
    cases hvalue : price.value? with
    | none =>
      apply stod_fixed8_of_not_finite
      rw [isFinite_eq_false_iff, magnitude?_eq_map, hvalue, Option.map_none]
    | some q =>
      obtain ⟨hlarge, hinteger⟩ := (passed_iff hvalue).mp hguard
      have hmagnitude : price.magnitude? = some q := by
        rw [magnitude?_eq_map, hvalue, Option.map_some, abs_of_pos (by linarith)]
      obtain ⟨k, hk⟩ := Int.eq_ofNat_of_zero_le (Int.floor_nonneg.mpr (by linarith : 0 ≤ q))
      have hunits : q = (k * 10 ^ 8 : ℕ) / 10 ^ 8 := by
        rw [hk, Int.cast_natCast] at hinteger
        rw [Nat.cast_mul, Nat.cast_pow, Nat.cast_ofNat, mul_div_cancel_right₀ _ (by norm_num)]
        exact hinteger
      apply stod_fixed8 (k * 10 ^ 8)
      rw [hmagnitude, ← hunits, nearest_magnitude? hmagnitude]
  | false =>
    have hmax := maxDecimals_le isSpot
    rw [roundPrice_eq_roundSize hguard]
    exact stod_fixed8_roundSize (by omega) (by omega) _

end

end Hyperliquid.Tools.Conversions
