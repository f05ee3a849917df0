import Hyperliquid.Tools.PriceGrid

/-!
# Rounded prices

What `Conversions::roundPrice`, `src/roq/hyperliquid/tools/conversions.cpp:17–44`, returns in
exact arithmetic: always a price that the exchange takes, but not always one that is in order
with the others.
-/

namespace Hyperliquid.Tools.Conversions

open Hyperliquid.Base

/-- At most five significant figures. -/
def FiveFigures (price : ℚ) : Prop := ∃ n e : ℤ, |n| < 100000 ∧ n * (10 : ℚ) ^ e = price

/-- A price that the exchange takes: an integer, or one with at most five significant figures
and at most `max_decimals - sz_decimals` decimals. -/
def Valid (szDecimals : ℤ) (isSpot : Bool) (price : ℚ) : Prop :=
  (∃ n : ℤ, (n : ℚ) = price) ∨
    FiveFigures price ∧ ∃ n : ℤ, n / (10 : ℚ) ^ (maxDecimals isSpot - szDecimals) = price

variable {price : ℚ} {szDecimals : ℤ} {isSpot : Bool}

/-- The decimals as a grid. -/
theorem exists_div_pow_iff :
    (∃ n : ℤ, n / (10 : ℚ) ^ (maxDecimals isSpot - szDecimals) = price) ↔
      price ∈ Grid 10 (szDecimals - maxDecimals isSpot) := by
  have hpow : ((10 : ℕ) : ℚ) ^ (szDecimals - maxDecimals isSpot) =
      ((10 : ℚ) ^ (maxDecimals isSpot - szDecimals))⁻¹ := by
    rw [← zpow_neg, Int.neg_sub]
    rfl
  rw [Grid.mem_iff, hpow]
  simp only [div_eq_mul_inv]

/-- A price is at most the power of ten above its digits. -/
theorem le_pow_lastDigit (h : 0 ≤ price) : price ≤ ((10 : ℕ) : ℚ) ^ (lastDigit price + 5) := by
  rcases h.eq_or_lt with rfl | hpos
  · exact (Grid.pow_pos (by omega) _).le
  · rw [lastDigit_of_pos hpos]
    have hlt := Int.lt_zpow_succ_log_self (b := 10) (by omega) price
    have hexp : Int.log 10 price - 4 + 5 = Int.log 10 price + 1 := by omega
    rw [hexp]
    exact hlt.le

/-- The points of a grid below its next five powers have five figures. -/
theorem fiveFigures_of_mem {e : ℤ} (hmem : price ∈ Grid 10 e) (hpos : 0 ≤ price)
    (hle : price ≤ ((10 : ℕ) : ℚ) ^ (e + 5)) : FiveFigures price := by
  obtain ⟨k, hk⟩ := Grid.mem_iff.mp hmem
  have hscale : (0 : ℚ) < ((10 : ℕ) : ℚ) ^ e := Grid.pow_pos (by omega) e
  have hfive : ((10 : ℕ) : ℚ) ^ (e + 5) = 100000 * ((10 : ℕ) : ℚ) ^ e := by
    rw [zpow_add₀ (by norm_num), mul_comm]
    norm_num
  have hk0 : (0 : ℚ) ≤ k := by
    by_contra hneg
    have hlt := mul_neg_of_neg_of_pos (not_le.mp hneg) hscale
    linarith
  have hk5 : (k : ℚ) ≤ 100000 := by
    rw [hfive, ← hk] at hle
    exact le_of_mul_le_mul_right hle hscale
  have hk0 : 0 ≤ k := by exact_mod_cast hk0
  have hk5 : k ≤ 100000 := by exact_mod_cast hk5
  rcases hk5.eq_or_lt with heq | hlt
  · -- a carry leaves one figure
    refine ⟨1, e + 5, by norm_num, ?_⟩
    rw [← hk, heq, Int.cast_one, one_mul]
    exact_mod_cast hfive
  · exact ⟨k, e, by rw [abs_of_nonneg hk0]; exact hlt, by rw [← hk]; rfl⟩

/-- Five figures are the digits from the last one on. -/
theorem fiveFigures_iff (h : 0 ≤ price) :
    FiveFigures price ↔ price ∈ Grid 10 (lastDigit price) := by
  constructor
  · rintro ⟨n, e, hn, rfl⟩
    rcases h.eq_or_lt with hzero | hpos
    · rw [← hzero]
      exact AddSubgroup.zero_mem _
    · rw [lastDigit_of_pos hpos]
      have hlt : n * (10 : ℚ) ^ e < ((10 : ℕ) : ℚ) ^ (e + 5) := by
        have hn' : (n : ℚ) < 100000 := by exact_mod_cast (abs_lt.mp hn).2
        rw [zpow_add₀ (by norm_num), mul_comm]
        have hscale : (0 : ℚ) < 10 ^ e := zpow_pos (by norm_num) e
        norm_num
        linarith [mul_lt_mul_of_pos_left hn' hscale]
      have hlog := (Int.lt_zpow_iff_log_lt (b := 10) (by omega) hpos).mp hlt
      exact Grid.anti (by omega) (by omega) (Grid.mem_iff.mpr ⟨n, rfl⟩)
  · intro hmem
    exact fiveFigures_of_mem hmem h (le_pow_lastDigit h)

/-- The valid prices are those that rounding keeps. -/
theorem valid_iff (h : 0 ≤ price) (hsz : szDecimals ≤ maxDecimals isSpot) :
    Valid szDecimals isSpot price ↔ roundPrice price szDecimals isSpot = price := by
  rw [roundPrice_eq_self_iff, Valid, exists_div_pow_iff, fiveFigures_iff h]
  constructor
  · rintro (hint | hvalid)
    · have hzero : price ∈ Grid 10 0 := Grid.mem_zero_iff.mpr hint
      by_cases hlarge : 100000 < price
      · exact Or.inl ⟨hlarge, mem_grid_zero_iff.mp hzero⟩
      · -- an integer up to 100k has five figures
        right
        refine ⟨(fiveFigures_iff h).mp (fiveFigures_of_mem hzero h ?_),
          Grid.anti (by omega) (by omega) hzero⟩
        norm_num
        linarith
    · exact Or.inr hvalid
  · rintro (hpassed | hvalid)
    · exact Or.inl ⟨⌊price⌋, hpassed.2.symm⟩
    · exact Or.inr hvalid

/-- The exponent of the last figure that rounding leaves. -/
def lastFigure (szDecimals : ℤ) (isSpot : Bool) (price : ℚ) : ℤ :=
  max (lastDigit price) (szDecimals - maxDecimals isSpot)

private theorem roundPrice_mem_lastFigure (h : ¬ Passed price) :
    roundPrice price szDecimals isSpot ∈ Grid 10 (lastFigure szDecimals isSpot price) := by
  rw [roundPrice_of_not_passed h]
  exact Grid.roundTo_roundTo_mem (by omega) Double.roundAway_intCast

/-- A point of both grids bounds the rounded prices. -/
theorem roundPrice_le {bound : ℚ} (h : ¬ Passed price)
    (hbound : bound ∈ Grid 10 (lastFigure szDecimals isSpot price)) (hle : price ≤ bound) :
    roundPrice price szDecimals isSpot ≤ bound := by
  obtain ⟨hdigit, hdecimal⟩ := (Grid.mem_max_iff (by omega)).mp hbound
  rw [roundPrice_of_not_passed h]
  exact Grid.roundTo_le (by omega) Double.roundAway_intCast Double.roundAway_mono hdecimal
    (Grid.roundTo_le (by omega) Double.roundAway_intCast Double.roundAway_mono hdigit hle)

private theorem le_roundPrice {bound : ℚ} (h : ¬ Passed price)
    (hbound : bound ∈ Grid 10 (lastFigure szDecimals isSpot price)) (hle : bound ≤ price) :
    bound ≤ roundPrice price szDecimals isSpot := by
  obtain ⟨hdigit, hdecimal⟩ := (Grid.mem_max_iff (by omega)).mp hbound
  rw [roundPrice_of_not_passed h]
  exact Grid.le_roundTo (by omega) Double.roundAway_intCast Double.roundAway_mono hdecimal
    (Grid.le_roundTo (by omega) Double.roundAway_intCast Double.roundAway_mono hdigit hle)

private theorem roundPrice_nonneg (h : 0 ≤ price) : 0 ≤ roundPrice price szDecimals isSpot := by
  by_cases hpassed : Passed price
  · rwa [roundPrice_of_passed hpassed]
  · exact le_roundPrice hpassed (AddSubgroup.zero_mem _) h

/-- Every rounded price is valid. -/
theorem valid_roundPrice (h : 0 ≤ price) :
    Valid szDecimals isSpot (roundPrice price szDecimals isSpot) := by
  by_cases hpassed : Passed price
  · rw [roundPrice_of_passed hpassed]
    exact Or.inl ⟨⌊price⌋, hpassed.2.symm⟩
  · have hmem := @roundPrice_mem_lastFigure price szDecimals isSpot hpassed
    right
    refine ⟨fiveFigures_of_mem hmem (roundPrice_nonneg h) ?_,
      exists_div_pow_iff.mpr (Grid.anti (by omega) (le_max_right _ _) hmem)⟩
    apply roundPrice_le hpassed (Grid.pow_mem (by omega) (by omega))
    have hexp : lastDigit price + 5 ≤ lastFigure szDecimals isSpot price + 5 :=
      Int.add_le_add_right (le_max_left _ _) 5
    exact (le_pow_lastDigit h).trans (zpow_le_zpow_right₀ (by norm_num) hexp)

/-- Rounding returns valid prices, keeps exactly those, and rounding again changes nothing. -/
theorem roundPrice_valid_iff (hprice : 0 ≤ price) (hle : szDecimals ≤ maxDecimals isSpot) :
    Valid szDecimals isSpot (roundPrice price szDecimals isSpot) ∧
      (roundPrice price szDecimals isSpot = price ↔ Valid szDecimals isSpot price) ∧
      roundPrice (roundPrice price szDecimals isSpot) szDecimals isSpot =
        roundPrice price szDecimals isSpot :=
  ⟨valid_roundPrice hprice, (valid_iff hprice hle).symm,
    (valid_iff (roundPrice_nonneg hprice) hle).mp (valid_roundPrice hprice)⟩

/-- A perpetual below one, whose fifth figure carries. -/
theorem roundPrice_valid_iff_carry :
    Valid 1 false (roundPrice (99999996 / 100000000) 1 false) ∧
      (roundPrice (99999996 / 100000000 : ℚ) 1 false = 99999996 / 100000000 ↔
        Valid 1 false (99999996 / 100000000)) ∧
      roundPrice (roundPrice (99999996 / 100000000 : ℚ) 1 false) 1 false =
        roundPrice (99999996 / 100000000) 1 false :=
  roundPrice_valid_iff (by norm_num) (by decide)

/-! ## The order of rounded prices -/

/-- The points that rounding to a grid reaches from half a step below them. -/
theorem le_roundTo_iff {s : ℤ} {q point : ℚ} (h : 0 ≤ q) (hpoint : point ∈ Grid 10 s) :
    point ≤ roundTo Double.roundAway (((10 : ℕ) : ℚ) ^ s) q ↔
      point - ((10 : ℕ) : ℚ) ^ s / 2 ≤ q := by
  have hscale : (0 : ℚ) < ((10 : ℕ) : ℚ) ^ s := Grid.pow_pos (by omega) s
  obtain ⟨k, rfl⟩ := Grid.mem_iff.mp hpoint
  rw [roundTo, mul_le_mul_iff_left₀ hscale, Int.cast_le,
    Double.le_roundAway_iff (div_nonneg h hscale.le), le_div_iff₀ hscale, sub_mul, one_div,
    inv_mul_eq_div]

/-- Which pairs are rounded in order: if one price is passed on as an integer and the other is
rounded, no multiple of the last figure's power of ten takes the rounded one past it. -/
def InOrder (price higher : ℚ) : Prop :=
  (Passed price → ¬ Passed higher → ∀ point ∈ Grid 10 (lastDigit higher), point < price →
      point + ((10 : ℕ) : ℚ) ^ lastDigit higher / 2 ≤ higher) ∧
    (¬ Passed price → Passed higher → ∀ point ∈ Grid 10 (lastDigit price), higher < point →
      price < point - ((10 : ℕ) : ℚ) ^ lastDigit price / 2)

/-- From 100k on the last of five digits is no decimal. -/
theorem one_le_lastDigit (h : 100000 ≤ price) : 1 ≤ lastDigit price := by
  have hpos : 0 < price := by linarith
  have hfive := (five_le_log_iff hpos).mpr h
  rw [lastDigit_of_pos hpos]
  omega

/-- From 100k on a price that is not passed on is rounded once. -/
theorem roundPrice_of_ge (hsz : szDecimals ≤ maxDecimals isSpot) (h : ¬ Passed price)
    (hge : 100000 ≤ price) :
    roundPrice price szDecimals isSpot =
      roundTo Double.roundAway (((10 : ℕ) : ℚ) ^ lastDigit price) price := by
  have hdigit := one_le_lastDigit hge
  rw [roundPrice_of_not_passed h]
  exact (Grid.roundTo_eq_self_iff (by omega) Double.roundAway_intCast).mpr
    (Grid.anti (by omega) (by omega) Grid.roundTo_mem)

/-- Prices that are both rounded stay in order. -/
theorem roundPrice_mono_of_not_passed {higher : ℚ} (hprice : 0 ≤ price) (hle : price ≤ higher)
    (h : ¬ Passed price) (hhigher : ¬ Passed higher) :
    roundPrice price szDecimals isSpot ≤ roundPrice higher szDecimals isSpot := by
  rcases hprice.eq_or_lt with rfl | hpos
  · exact (roundPrice_le h (AddSubgroup.zero_mem _) le_rfl).trans (roundPrice_nonneg hle)
  · have hlog : lastDigit price ≤ lastDigit higher := by
      rw [lastDigit_of_pos hpos, lastDigit_of_pos (hpos.trans_le hle)]
      have hmono := Int.log_mono_right (b := 10) hpos hle
      omega
    rw [roundPrice_of_not_passed h, roundPrice_of_not_passed hhigher]
    apply Grid.roundTo_mono (by omega) Double.roundAway_mono
    rcases hlog.eq_or_lt with heq | hlt
    · rw [heq]
      exact Grid.roundTo_mono (by omega) Double.roundAway_mono hle
    · -- the power of ten between them is on both grids
      have hpower : ((10 : ℕ) : ℚ) ^ (lastDigit higher + 4) ≤ higher := by
        rw [lastDigit_of_pos (hpos.trans_le hle), Int.sub_add_cancel]
        exact Int.zpow_log_le_self (by omega) (hpos.trans_le hle)
      have hbetween : ((10 : ℕ) : ℚ) ^ (lastDigit price + 5) ≤
          ((10 : ℕ) : ℚ) ^ (lastDigit higher + 4) :=
        zpow_le_zpow_right₀ (by norm_num) (by omega)
      have hlow : ((10 : ℕ) : ℚ) ^ (lastDigit price + 5) ∈ Grid 10 (lastDigit price) :=
        Grid.pow_mem (by omega) (by omega)
      have hhigh : ((10 : ℕ) : ℚ) ^ (lastDigit higher + 4) ∈ Grid 10 (lastDigit higher) :=
        Grid.pow_mem (by omega) (by omega)
      calc roundTo Double.roundAway (((10 : ℕ) : ℚ) ^ lastDigit price) price
          ≤ ((10 : ℕ) : ℚ) ^ (lastDigit price + 5) :=
            Grid.roundTo_le (by omega) Double.roundAway_intCast Double.roundAway_mono hlow
              (le_pow_lastDigit hprice)
        _ ≤ ((10 : ℕ) : ℚ) ^ (lastDigit higher + 4) := hbetween
        _ ≤ roundTo Double.roundAway (((10 : ℕ) : ℚ) ^ lastDigit higher) higher :=
            Grid.le_roundTo (by omega) Double.roundAway_intCast Double.roundAway_mono hhigh hpower

/-- An integer that is passed on, and a price above it that is rounded. -/
theorem le_roundPrice_iff_of_passed {higher : ℚ} (hsz : szDecimals ≤ maxDecimals isSpot)
    (hle : price ≤ higher) (h : Passed price) (hhigher : ¬ Passed higher) :
    price ≤ roundPrice higher szDecimals isSpot ↔
      ∀ point ∈ Grid 10 (lastDigit higher), point < price →
        point + ((10 : ℕ) : ℚ) ^ lastDigit higher / 2 ≤ higher := by
  have hge : 100000 ≤ higher := h.1.le.trans hle
  have hnonneg : 0 ≤ higher := by linarith
  have hscale : (0 : ℚ) < ((10 : ℕ) : ℚ) ^ lastDigit higher := Grid.pow_pos (by omega) _
  rw [roundPrice_of_ge hsz hhigher hge]
  constructor
  · intro hround point hpoint hlt
    -- the next point is still reached
    have hnext := Grid.add_le_of_lt (by omega) hpoint Grid.roundTo_mem (hlt.trans_le hround)
    have hmem := (Grid 10 (lastDigit higher)).add_mem hpoint
      (Grid.pow_mem (b := 10) (by omega) (le_refl (lastDigit higher)))
    have hreach := (le_roundTo_iff hnonneg hmem).mp hnext
    linarith
  · intro hpoints
    by_contra hlt
    have hmem : roundTo Double.roundAway (((10 : ℕ) : ℚ) ^ lastDigit higher) higher ∈
        Grid 10 (lastDigit higher) := Grid.roundTo_mem
    have hreach := hpoints _ hmem (not_le.mp hlt)
    have hnext := (le_roundTo_iff hnonneg (AddSubgroup.add_mem _ hmem
      (Grid.pow_mem (b := 10) (by omega) (le_refl (lastDigit higher))))).mpr (by linarith)
    linarith

/-- A price that is rounded, and an integer above it that is passed on. -/
theorem roundPrice_le_iff_of_passed {higher : ℚ} (hsz : szDecimals ≤ maxDecimals isSpot)
    (hprice : 0 ≤ price) (h : ¬ Passed price) (hhigher : Passed higher) :
    roundPrice price szDecimals isSpot ≤ higher ↔
      ∀ point ∈ Grid 10 (lastDigit price), higher < point →
        price < point - ((10 : ℕ) : ℚ) ^ lastDigit price / 2 := by
  by_cases hge : 100000 ≤ price
  · rw [roundPrice_of_ge hsz h hge]
    constructor
    · intro hround point hpoint hlt
      by_contra hreach
      have hle := (le_roundTo_iff hprice hpoint).mpr (not_lt.mp hreach)
      linarith
    · intro hpoints
      by_contra hlt
      have hmem : roundTo Double.roundAway (((10 : ℕ) : ℚ) ^ lastDigit price) price ∈
          Grid 10 (lastDigit price) := Grid.roundTo_mem
      have hreach := hpoints _ hmem (not_le.mp hlt)
      have hself := (le_roundTo_iff hprice hmem).mp le_rfl
      linarith
  · -- below 100k the price is rounded to at most 100k, by less than one
    have hlt := not_le.mp hge
    have hdigit : lastDigit price ≤ 0 := by
      rcases hprice.eq_or_lt with rfl | hpos
      · decide
      · have hlog := mt (five_le_log_iff hpos).mp hge
        rw [lastDigit_of_pos hpos]
        omega
    have hround : roundPrice price szDecimals isSpot ≤ 100000 := by
      have hbound : (100000 : ℚ) = ((10 : ℕ) : ℚ) ^ (5 : ℤ) := by norm_num
      rw [hbound]
      apply roundPrice_le h
      · exact Grid.pow_mem (by omega) (max_le (by omega) (by omega))
      · rw [← hbound]
        exact hlt.le
    refine iff_of_true (hround.trans hhigher.1.le) ?_
    intro point _ hpoint
    have hscale : ((10 : ℕ) : ℚ) ^ lastDigit price ≤ ((10 : ℕ) : ℚ) ^ (0 : ℤ) :=
      zpow_le_zpow_right₀ (by norm_num) hdigit
    have hnext : (100001 : ℚ) ≤ higher := by
      have hfloor : (100000 : ℤ) < ⌊higher⌋ := by
        have hgt := hhigher.1
        rw [hhigher.2] at hgt
        exact_mod_cast hgt
      rw [hhigher.2]
      exact_mod_cast hfloor
    rw [zpow_zero] at hscale
    generalize ((10 : ℕ) : ℚ) ^ lastDigit price = scale at hscale ⊢
    linarith

/-- Rounding keeps two prices in order exactly for the pairs described. -/
theorem roundPrice_le_roundPrice_iff {higher : ℚ} (hprice : 0 ≤ price) (hle : price ≤ higher)
    (hsz : szDecimals ≤ maxDecimals isSpot) :
    roundPrice price szDecimals isSpot ≤ roundPrice higher szDecimals isSpot ↔
      InOrder price higher := by
  by_cases h : Passed price
  · by_cases hhigher : Passed higher
    · rw [roundPrice_of_passed h, roundPrice_of_passed hhigher]
      exact iff_of_true hle ⟨fun _ hnot ↦ absurd hhigher hnot, fun hnot ↦ absurd h hnot⟩
    · rw [roundPrice_of_passed h, le_roundPrice_iff_of_passed hsz hle h hhigher]
      exact ⟨fun hpoints ↦ ⟨fun _ _ ↦ hpoints, fun hnot ↦ absurd h hnot⟩,
        fun hpoints ↦ hpoints.1 h hhigher⟩
  · by_cases hhigher : Passed higher
    · rw [roundPrice_of_passed hhigher, roundPrice_le_iff_of_passed hsz hprice h hhigher]
      exact ⟨fun hpoints ↦ ⟨fun hpassed ↦ absurd hpassed h, fun _ _ ↦ hpoints⟩,
        fun hpoints ↦ hpoints.2 h hhigher⟩
    · exact iff_of_true (roundPrice_mono_of_not_passed hprice hle h hhigher)
        ⟨fun hpassed ↦ absurd hpassed h, fun _ hpassed ↦ absurd hpassed hhigher⟩

/-- Two prices of a perpetual around one integer. -/
theorem roundPrice_le_roundPrice_iff_above :
    roundPrice (123455 : ℚ) 4 false ≤ roundPrice (1234555 / 10) 4 false ↔
      InOrder 123455 (1234555 / 10) :=
  roundPrice_le_roundPrice_iff (by norm_num) (by norm_num) (by decide)

/-- An order between 100001 and the next integer is sent below 100001. -/
theorem not_roundPrice_mono :
    ¬ ∀ (price higher : ℚ) (szDecimals : ℤ) (isSpot : Bool), 0 ≤ price → price ≤ higher →
      0 ≤ szDecimals → szDecimals ≤ maxDecimals isSpot →
        roundPrice price szDecimals isSpot ≤ roundPrice higher szDecimals isSpot := by
  intro h
  have hround := h 100001 (200003 / 2) 4 false (by norm_num) (by norm_num) (by omega) (by decide)
  exact absurd hround (by decide +kernel)

end Hyperliquid.Tools.Conversions
