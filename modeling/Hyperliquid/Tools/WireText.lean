import Hyperliquid.Base.Binary64
import Hyperliquid.Tools.Conversions
import Mathlib.Data.List.DropRight

/-!
# The text of a double on the wire

`Conversions::floatToWire`, `src/roq/hyperliquid/tools/conversions.cpp:52–84`, gives a plain
decimal numeral for a finite double, and the word of the stream for any other: the guard
against rounding compares with a NaN.
-/

namespace Hyperliquid.Tools.Conversions

open Hyperliquid.Base Hyperliquid.Base.Numerals

/-- Digits, and digits after a point, if there is one. -/
def isUnsignedNumeral (text : List Char) : Bool :=
  let whole := text.takeWhile (· ≠ '.')
  let fraction := text.dropWhile (· ≠ '.')
  !whole.isEmpty && whole.all Char.isDigit && fraction.length ≠ 1 &&
    (fraction.drop 1).all Char.isDigit

/-- A plain decimal numeral, which may have a minus sign. -/
def isNumeral : List Char → Bool
  | '-' :: text => isUnsignedNumeral text
  | text => isUnsignedNumeral text

example : isNumeral "0.5".toList = true ∧ isNumeral "5.".toList = false := by decide

section

variable {whole fraction : List Char}

private theorem isUnsignedNumeral_whole (hne : whole ≠ [])
    (hwhole : ∀ c ∈ whole, c.isDigit = true) :
    isUnsignedNumeral whole = true := by
  obtain ⟨htake, hdrop⟩ := takeWhile_whole hwhole
  unfold isUnsignedNumeral
  rw [htake, hdrop]
  simpa [hne] using hwhole

private theorem isUnsignedNumeral_point (hne : whole ≠ []) (hwhole : ∀ c ∈ whole, c.isDigit = true)
    (hfraction : fraction ≠ []) (hdigits : ∀ c ∈ fraction, c.isDigit = true) :
    isUnsignedNumeral (whole ++ '.' :: fraction) = true := by
  obtain ⟨htake, hdrop⟩ := takeWhile_point hwhole fraction
  unfold isUnsignedNumeral
  rw [htake, hdrop]
  simpa [hne, hfraction] using ⟨hwhole, hdigits⟩

/-- A numeral without a sign does not start with one. -/
theorem isNumeral_of_isUnsignedNumeral {text : List Char} (h : isUnsignedNumeral text = true) :
    isNumeral text = true := by
  unfold isNumeral
  split
  · next text => exact absurd h (by simp [isUnsignedNumeral])
  · exact h

end

/-! ## The normalisation -/

section

variable {whole fraction : List Char}

/-- The search from the end skips the zeros that a text ends in. -/
theorem findLastNotZero_append {kept : List Char} (hne : kept ≠ [])
    (hlast : kept.getLast hne ≠ '0') (zeros : ℕ) :
    findLastNotZero (kept ++ List.replicate zeros '0') = some (kept.length - 1) := by
  obtain ⟨init, last, rfl⟩ : ∃ init last, kept = init ++ [last] :=
    ⟨_, _, (List.dropLast_append_getLast hne).symm⟩
  rw [List.getLast_append_singleton] at hlast
  simp [findLastNotZero, List.findIdx?_append, List.findIdx?_cons, hlast]

private theorem idxOf?_point (hwhole : '.' ∉ whole) (rest : List Char) :
    (whole ++ '.' :: rest).idxOf? '.' = some whole.length := by
  induction whole with
  | nil => rfl
  | cons c whole ih =>
    rw [List.mem_cons, not_or] at hwhole
    rw [List.cons_append, List.idxOf?_cons, if_neg (by simpa using Ne.symm hwhole.1),
      ih hwhole.2]
    rfl

/-- What is left when the zeros at the end are cut, before a final point is dropped. -/
theorem normalize_append {kept : List Char} (hne : kept ≠ []) (hlast : kept.getLast hne ≠ '0')
    {zeros decimalPos : ℕ}
    (hpoint : (kept ++ List.replicate zeros '0').idxOf? '.' = some decimalPos)
    (hlt : decimalPos < kept.length) :
    normalize (kept ++ List.replicate zeros '0') =
      if kept.getLast? = some '.' then kept.dropLast else kept := by
  have hle : decimalPos ≤ kept.length - 1 := by omega
  have hlength : kept.length - 1 + 1 = kept.length := by omega
  simp only [normalize, hpoint, findLastNotZero_append hne hlast, hle, if_true, hlength,
    List.take_left]

/-- A fraction loses the zeros at its end, and the point if nothing is left of it. -/
theorem normalize_point (hwhole : '.' ∉ whole)
    (hdigits : ∀ c ∈ fraction, c.isDigit = true) :
    normalize (whole ++ '.' :: fraction) =
      if fraction.rdropWhile (· = '0') = [] then whole
      else whole ++ '.' :: fraction.rdropWhile (· = '0') := by
  obtain ⟨zeros, hfraction⟩ := rdropWhile_append_zeros fraction
  have hsplit : whole ++ '.' :: fraction =
      (whole ++ '.' :: fraction.rdropWhile (· = '0')) ++ List.replicate zeros '0' := by
    rw [List.append_assoc, List.cons_append, hfraction]
  have hnotPoint : ∀ c ∈ fraction.rdropWhile (· = '0'), c ≠ '.' := fun c hc ↦
    ne_point_of_isDigit (hdigits c ((List.rdropWhile_prefix _ _).subset hc))
  have hnotZero : ∀ hne : fraction.rdropWhile (· = '0') ≠ [],
      (fraction.rdropWhile (· = '0')).getLast hne ≠ '0' := fun hne ↦ by
    simpa using List.rdropWhile_last_not (fun c : Char ↦ decide (c = '0')) fraction hne
  have hpoint := idxOf?_point hwhole fraction
  rw [hsplit] at hpoint ⊢
  generalize fraction.rdropWhile (· = '0') = kept at hpoint hnotPoint hnotZero ⊢
  by_cases hnil : kept = []
  · subst hnil
    rw [normalize_append (by simp) (by simp) hpoint (by simp)]
    simp
  · have hlast : (whole ++ '.' :: kept).getLast (by simp) = kept.getLast hnil := by
      simp [List.getLast_cons, hnil]
    rw [normalize_append (by simp) (hlast ▸ hnotZero hnil) hpoint (by simp),
      List.getLast?_eq_getLast_of_ne_nil (by simp), hlast, if_neg hnil, if_neg]
    exact fun heq ↦ hnotPoint _ (List.getLast_mem hnil) (Option.some.inj heq)

/-- A sign, digits and a fraction leave a numeral. -/
theorem isNumeral_normalize (negative : Bool) (hne : whole ≠ [])
    (hwhole : ∀ c ∈ whole, c.isDigit = true) (hdigits : ∀ c ∈ fraction, c.isDigit = true) :
    isNumeral (normalize ((if negative then ['-'] else []) ++ whole ++ '.' :: fraction)) =
      true := by
  have hnotPoint : '.' ∉ (if negative then ['-'] else []) ++ whole := by
    rw [List.mem_append, not_or]
    exact ⟨by cases negative <;> decide, fun h ↦ ne_point_of_isDigit (hwhole _ h) rfl⟩
  rw [normalize_point hnotPoint hdigits]
  have hkept : ∀ c ∈ fraction.rdropWhile (· = '0'), c.isDigit = true := fun c hc ↦
    hdigits c ((List.rdropWhile_prefix _ _).subset hc)
  split
  · cases negative with
    | false => exact isNumeral_of_isUnsignedNumeral (isUnsignedNumeral_whole hne hwhole)
    | true => exact isUnsignedNumeral_whole hne hwhole
  · next hfraction =>
    cases negative with
    | false =>
      exact isNumeral_of_isUnsignedNumeral (isUnsignedNumeral_point hne hwhole hfraction hkept)
    | true => exact isUnsignedNumeral_point hne hwhole hfraction hkept

end

/-! ## Finite doubles and others -/

/-- The fixed format of a finite double is normalized to a numeral. -/
theorem isNumeral_normalize_fixedDigits (negative : Bool) (units : ℕ) :
    isNumeral (normalize ((if negative then ['-'] else []) ++ Double.fixedDigits units)) =
      true := by
  have hdigits : ∀ n, ∀ c ∈ Nat.toDigits 10 n, c.isDigit = true := fun n c hc ↦
    Nat.isDigit_of_mem_toDigits (by omega) (by omega) hc
  rw [Double.fixedDigits, ← List.append_assoc]
  apply isNumeral_normalize negative Nat.toDigits_ne_nil (hdigits _)
  exact fun c hc ↦ isDigit_of_mem_leftpad (hdigits _) hc

section

variable {F : Type}

open Double in
/-- The check of `floatToWire`, `conversions.cpp:57–60`. -/
def causesRounding [Double F] (value : F) : Bool :=
  ge (abs (sub (stod (fixed8 value)) value)) (lit (1 / 10 ^ 12))

/-- A double that fails the check makes `floatToWire` throw. -/
theorem floatToWire_of_causesRounding [Double F] {value : F} (h : causesRounding value = true) :
    floatToWire value = .error (.thrown "floatToWire causes rounding") :=
  if_pos h

/-- Any other double is normalized. -/
theorem floatToWire_eq_ok [Double F] {value : F} (h : causesRounding value = false) :
    floatToWire value = .ok (String.ofList (normalize
      (if Double.fixed8 value = "-0.00000000" then "0.00000000"
        else Double.fixed8 value).toList)) :=
  if_neg (Bool.eq_false_iff.mp h)

end

section

variable {math : MathLibrary} {value : Binary64 math}

/-- A double that is read back from its text passes the check. -/
theorem causesRounding_eq_false (h : Double.stod (Double.fixed8 value) = value) :
    causesRounding value = false := by
  unfold causesRounding
  rw [h]
  have hlow : ((2 : ℕ) : ℚ) ^ (-1074 : ℤ) ≤ 1 / 10 ^ 12 :=
    calc ((2 : ℕ) : ℚ) ^ (-1074 : ℤ) ≤ ((2 : ℕ) : ℚ) ^ (-40 : ℤ) :=
          zpow_le_zpow_right₀ (by norm_num) (by norm_num)
      _ ≤ 1 / 10 ^ 12 := by norm_num
  have hhigh : (1 / 10 ^ 12 : ℚ) < Binary64.overflow :=
    lt_trans (by norm_num) (Binary64.natCast_lt_overflow (show 1 < 2 ^ 53 by norm_num))
  exact Binary64.ge_distance_self hlow hhigh

/-- The text of a finite double is a numeral. -/
theorem isNumeral_floatToWire (h : value.isFinite = true) {text : String}
    (hok : floatToWire value = .ok text) : isNumeral text.toList = true := by
  cases hcheck : causesRounding value with
  | true =>
    rw [floatToWire_of_causesRounding hcheck] at hok
    cases hok
  | false =>
    rw [floatToWire_eq_ok hcheck] at hok
    rw [← Except.ok.inj hok, String.toList_ofList]
    split
    · exact isNumeral_normalize_fixedDigits false 0
    · cases value with
      | finite s a =>
        show isNumeral (normalize (String.ofList (signed s (Double.fixedDigits
          (Double.roundEven (a.value * 10 ^ 8))))).toList) = true
        rw [String.toList_ofList]
        exact isNumeral_normalize_fixedDigits s _
      | infinite s => cases h
      | nan s => cases h

/-- The text of any other double is its word: the check lets it pass. -/
theorem isNumeral_floatToWire_of_not_finite (h : value.isFinite = false) {text : String}
    (hok : floatToWire value = .ok text) : isNumeral text.toList = false := by
  have hcheck : causesRounding value = false :=
    causesRounding_eq_false (Binary64.stod_fixed8_of_not_finite h)
  rw [floatToWire_eq_ok hcheck] at hok
  rw [← Except.ok.inj hok, String.toList_ofList]
  have hwords : ∀ word ∈ ["inf", "-inf", "nan", "-nan"],
      isNumeral (normalize
        (if word = "-0.00000000" then "0.00000000" else word).toList) = false := by decide
  exact hwords _ (Binary64.fixed8_of_not_finite h)

/-- A text is a numeral exactly when it is that of a finite double. -/
theorem isNumeral_floatToWire_iff {text : String} (hok : floatToWire value = .ok text) :
    isNumeral text.toList = true ↔ value.isFinite = true := by
  constructor
  · intro hnumeral
    by_contra hfinite
    rw [isNumeral_floatToWire_of_not_finite (Bool.eq_false_iff.mpr hfinite) hok] at hnumeral
    cases hnumeral
  · intro hfinite
    exact isNumeral_floatToWire hfinite hok

end

end Hyperliquid.Tools.Conversions
