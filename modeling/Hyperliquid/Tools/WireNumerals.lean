import Hyperliquid.Tools.PriceGrid
import Hyperliquid.Tools.WireText
import Mathlib.Tactic.Common

/-!
# The numeral of a double on the wire

`Conversions::floatToWire`, `src/roq/hyperliquid/tools/conversions.cpp:52–84`, in exact
arithmetic: the canonical numeral of the nearest multiple of `10⁻⁸`, unless it is too far away.
-/

namespace Hyperliquid.Tools.Conversions

open Hyperliquid.Base Hyperliquid.Base.Numerals

/-- Cutting the fixed format leaves the canonical numeral. -/
theorem normalize_fixedDigits (negative : Bool) (units : ℕ) :
    normalize (signed negative (Double.fixedDigits units)) =
      signed negative (trimmedDigits units) := by
  have hnotPoint : '.' ∉ signed negative (Nat.toDigits 10 (units / 10 ^ 8)) := by
    rw [signed, List.mem_append, not_or]
    exact ⟨by cases negative <;> decide,
      fun h ↦ ne_point_of_isDigit (isDigit_of_mem_toDigits _ _ h) rfl⟩
  have hfraction := fun c ↦ @isDigit_of_mem_leftpad 8 _ c (isDigit_of_mem_toDigits (units % 10 ^ 8))
  have hnormalize := normalize_point hnotPoint hfraction
  rw [signed, List.append_assoc] at hnormalize
  rw [signed, Double.fixedDigits, hnormalize, trimmedDigits, trimmed]
  split
  · rfl
  · rw [signed, List.append_assoc]

private theorem fixedDigits_injective : Function.Injective Double.fixedDigits := by
  intro m n h
  have hvalue := congrArg Double.unsignedValue h
  rw [unsignedValue_fixedDigits, unsignedValue_fixedDigits,
    div_left_inj' (by norm_num)] at hvalue
  exact_mod_cast hvalue

/-- Minus zero loses its sign before the zeros are cut. -/
theorem normalize_fixedRat (value : ℚ) :
    normalize (if Double.fixedRat value = "-0.00000000" then "0.00000000"
      else Double.fixedRat value).toList = canonical (fixedUnits value) := by
  have hfixed : Double.fixedRat value = String.ofList
      (signed (decide (value < 0)) (Double.fixedDigits (Double.roundEven (|value| * 10 ^ 8)))) := by
    simp [Double.fixedRat, signed]
  rw [canonical, natAbs_fixedUnits, hfixed, fixedUnits]
  generalize Double.roundEven (|value| * 10 ^ 8) = units
  by_cases hneg : value < 0
  · rw [if_pos hneg, decide_eq_true hneg]
    by_cases hunits : units = 0
    · subst hunits
      exact normalize_fixedDigits false 0
    · have hne : String.ofList (signed true (Double.fixedDigits units)) ≠ "-0.00000000" := by
        intro heq
        have hsigned : signed true (Double.fixedDigits units) =
            signed true (Double.fixedDigits 0) := String.ofList_injective heq
        exact hunits (fixedDigits_injective (List.append_cancel_left hsigned))
      rw [if_neg hne, String.toList_ofList, normalize_fixedDigits, decide_eq_true (by omega)]
  · have hne : String.ofList (signed false (Double.fixedDigits units)) ≠ "-0.00000000" := by
      intro heq
      have hhead := head_fixedDigits_ne_minus units
      rw [show Double.fixedDigits units = "-0.00000000".toList from by
        rw [← heq, String.toList_ofList]; rfl] at hhead
      exact hhead rfl
    rw [if_neg hneg, decide_eq_false hneg, if_neg hne, String.toList_ofList,
      normalize_fixedDigits, decide_eq_false (by omega)]

/-! ## The nearest multiple -/

/-- A multiple of `10⁻⁸` than which none is nearer. -/
def Nearest (value point : ℚ) : Prop :=
  point ∈ Grid 10 (-8) ∧ ∀ other ∈ Grid 10 (-8), |value - point| ≤ |value - other|

section

variable {value point : ℚ}

/-- The multiples of `10⁻⁸`. -/
theorem mem_grid_iff : point ∈ Grid 10 (-8) ↔ ∃ units : ℤ, units / 10 ^ 8 = point := by
  have hpow : ((10 : ℕ) : ℚ) ^ (-8 : ℤ) = (10 ^ 8)⁻¹ := by norm_num
  rw [Grid.mem_iff, hpow]
  simp only [div_eq_mul_inv]

/-- The points of the grid are a step apart. -/
theorem one_le_abs_sub {units other : ℤ} (h : units ≠ other) :
    1 / 10 ^ 8 ≤ |(units : ℚ) / 10 ^ 8 - other / 10 ^ 8| := by
  have hone : (1 : ℚ) ≤ |(units : ℚ) - other| := by
    exact_mod_cast Int.one_le_abs (sub_ne_zero.mpr h)
  rw [← sub_div, abs_div, abs_of_pos (by norm_num : (0 : ℚ) < 10 ^ 8)]
  exact div_le_div_of_nonneg_right hone (by norm_num)

/-- What is printed is at most half a step away. -/
theorem abs_sub_printed_le (value : ℚ) :
    |value - fixedUnits value / 10 ^ 8| ≤ 1 / 10 ^ 8 / 2 := by
  have hround := abs_sub_fixedUnits_le value
  have hscale : value - fixedUnits value / 10 ^ 8 =
      (value * 10 ^ 8 - fixedUnits value) / 10 ^ 8 := by
    field_simp
  rw [hscale, abs_div, abs_of_pos (by norm_num : (0 : ℚ) < 10 ^ 8)]
  linarith

/-- A point within half a step is the printed one. -/
theorem printed_eq (hmem : point ∈ Grid 10 (-8)) (hlt : |value - point| < 1 / 10 ^ 8 / 2) :
    (fixedUnits value : ℚ) / 10 ^ 8 = point := by
  obtain ⟨units, rfl⟩ := mem_grid_iff.mp hmem
  by_contra hne
  have hstep := one_le_abs_sub fun heq ↦ hne (congrArg (fun k : ℤ ↦ (k : ℚ) / 10 ^ 8) heq)
  have htriangle := abs_sub_le ((fixedUnits value : ℚ) / 10 ^ 8) value (units / 10 ^ 8)
  rw [abs_sub_comm ((fixedUnits value : ℚ) / 10 ^ 8) value] at htriangle
  linarith [abs_sub_printed_le value]

/-- The printed point is a nearest one. -/
theorem nearest_printed (value : ℚ) : Nearest value (fixedUnits value / 10 ^ 8) := by
  refine ⟨mem_grid_iff.mpr ⟨_, rfl⟩, fun other hother ↦ ?_⟩
  by_cases hlt : |value - other| < 1 / 10 ^ 8 / 2
  · rw [printed_eq hother hlt]
  · exact (abs_sub_printed_le value).trans (not_lt.mp hlt)

/-- The check measures the distance to a nearest multiple. -/
theorem causesRounding_eq (h : Nearest value point) :
    causesRounding value = decide (1 / 10 ^ 12 ≤ |value - point|) := by
  have hprinted := nearest_printed value
  have hdistance : |value - fixedUnits value / 10 ^ 8| = |value - point| :=
    le_antisymm (hprinted.2 point h.1) (h.2 _ hprinted.1)
  change decide (1 / 10 ^ 12 ≤ |Double.stodRat (Double.fixedRat value) - value|) = _
  rw [stodRat_fixedRat, abs_sub_comm, hdistance]

private theorem floatToWire_of_far (h : Nearest value point)
    (hfar : 1 / 10 ^ 12 ≤ |value - point|) :
    floatToWire value = .error (.thrown "floatToWire causes rounding") :=
  floatToWire_of_causesRounding ((causesRounding_eq h).trans (decide_eq_true hfar))

/-- The text of a double near a multiple depends on the multiple only. -/
theorem floatToWire_of_near {units : ℤ} (hnear : |value - units / 10 ^ 8| < 1 / 10 ^ 12) :
    floatToWire value = .ok (String.ofList (canonical units)) := by
  have hmem : (units : ℚ) / 10 ^ 8 ∈ Grid 10 (-8) := mem_grid_iff.mpr ⟨units, rfl⟩
  have hprinted := printed_eq hmem (hnear.trans (by norm_num))
  have hnearest := nearest_printed value
  rw [hprinted] at hnearest
  have hunits : fixedUnits value = units := by
    rw [div_left_inj' (by norm_num)] at hprinted
    exact_mod_cast hprinted
  have hcheck := (causesRounding_eq hnearest).trans (decide_eq_false (not_le.mpr hnear))
  rw [floatToWire_eq_ok hcheck]
  change Except.ok (String.ofList (normalize (if Double.fixedRat value = "-0.00000000"
    then "0.00000000" else Double.fixedRat value).toList)) = _
  rw [normalize_fixedRat, hunits]

/-- No multiple is too far away from itself. -/
theorem exists_floatToWire_of_mem (h : point ∈ Grid 10 (-8)) :
    ∃ text, floatToWire point = .ok text := by
  obtain ⟨units, rfl⟩ := mem_grid_iff.mp h
  refine ⟨_, @floatToWire_of_near _ units ?_⟩
  rw [sub_self, abs_zero]
  norm_num

end

/-- Every rounded size has few enough decimals. -/
theorem roundSize_mem (size : ℚ) (szDecimals : ℤ) :
    roundSize size szDecimals ∈ Grid 10 (-szDecimals) := by
  have hpow : ((10 : ℕ) : ℚ) ^ (-szDecimals) = ((10 : ℚ) ^ szDecimals)⁻¹ := zpow_neg _ _
  rw [Grid.mem_iff, hpow]
  exact ⟨Double.roundAway (size * 10 ^ szDecimals), (div_eq_mul_inv _ _).symm⟩

/-- Far from the nearest multiple the code throws, near it it returns the canonical numeral of
the multiple, the same for all doubles near it, and it returns for what rounding returns. -/
theorem floatToWire_canonical (value : ℚ) :
    (∀ point, Nearest value point → 1 / 10 ^ 12 ≤ |value - point| →
      floatToWire value = .error (.thrown "floatToWire causes rounding")) ∧
    (∀ point, Nearest value point → |value - point| < 1 / 10 ^ 12 →
      ∃ text : String, isCanonical text.toList = true ∧ Double.stodRat text = point ∧
        floatToWire value = .ok text ∧
        ∀ other, Nearest other point → |other - point| < 1 / 10 ^ 12 →
          floatToWire other = .ok text) ∧
    (0 ≤ value → ∀ szDecimals isSpot, 0 ≤ szDecimals → szDecimals ≤ maxDecimals isSpot →
      ∃ text, floatToWire (roundPrice value szDecimals isSpot) = .ok text) ∧
    (0 ≤ value → ∀ szDecimals, 0 ≤ szDecimals → szDecimals ≤ 8 →
      ∃ text, floatToWire (roundSize value szDecimals) = .ok text) := by
  refine ⟨fun point hnearest hfar ↦ floatToWire_of_far hnearest hfar, ?_, ?_, ?_⟩
  · intro point hnearest hnear
    obtain ⟨units, rfl⟩ := mem_grid_iff.mp hnearest.1
    refine ⟨String.ofList (canonical units), ?_, stodRat_canonical units,
      floatToWire_of_near hnear, fun other _ hother ↦ floatToWire_of_near hother⟩
    rw [String.toList_ofList]
    exact isCanonical_canonical units
  · intro _ szDecimals isSpot hnonneg hle
    have hmax := maxDecimals_le isSpot
    exact exists_floatToWire_of_mem (Grid.anti (by omega) (by omega) (roundPrice_mem hle))
  · intro _ szDecimals _ hle
    exact exists_floatToWire_of_mem (Grid.anti (by omega) (by omega) (roundSize_mem _ _))

/-- A third is too far away, a tenth with an error is not, nor is what it is rounded to. -/
theorem floatToWire_canonical_tenth :
    floatToWire (1 / 3 : ℚ) = .error (.thrown "floatToWire causes rounding") ∧
    (∃ text : String, isCanonical text.toList = true ∧ Double.stodRat text = 1 / 10 ∧
      floatToWire (1 / 10 + 1 / 10 ^ 13 : ℚ) = .ok text ∧
      ∀ other, Nearest other (1 / 10) → |other - 1 / 10| < 1 / 10 ^ 12 →
        floatToWire other = .ok text) ∧
    (∃ text, floatToWire (roundPrice (1 / 10 + 1 / 10 ^ 13 : ℚ) 2 true) = .ok text) ∧
    (∃ text, floatToWire (roundSize (1 / 10 + 1 / 10 ^ 13 : ℚ) 2) = .ok text) := by
  have hthird := nearest_printed (1 / 3)
  have htenth := nearest_printed (1 / 10 + 1 / 10 ^ 13)
  rw [show (fixedUnits (1 / 3) : ℚ) / 10 ^ 8 = 33333333 / 10 ^ 8 by decide +kernel] at hthird
  rw [show (fixedUnits (1 / 10 + 1 / 10 ^ 13) : ℚ) / 10 ^ 8 = 1 / 10 by decide +kernel] at htenth
  obtain ⟨-, hnear, hprice, hsize⟩ := floatToWire_canonical (1 / 10 + 1 / 10 ^ 13)
  refine ⟨(floatToWire_canonical (1 / 3)).1 _ hthird ?_, hnear _ htenth ?_,
    hprice ?_ 2 true (by decide) (by decide), hsize ?_ 2 (by decide) (by decide)⟩
  all_goals decide +kernel

end Hyperliquid.Tools.Conversions
