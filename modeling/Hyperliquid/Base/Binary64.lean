import Hyperliquid.Base.Nearest
import Hyperliquid.Base.Numerals

/-!
# Doubles as IEEE 754 has them

Binary64 with its signed zeros, subnormal numbers, overflow, infinities and NaNs, as an instance
of `Double`. A finite double is a sign and a magnitude that rounding keeps. An invalid operation
gives the NaN with the sign bit set, as on x86-64; an operation on a NaN keeps its sign.
-/

namespace Hyperliquid.Base

open Binary64

/-- The functions of `<cmath>` that IEEE 754 does not round, and what is relied on of them. -/
structure MathLibrary where
  /-- `static_cast<int>(std::floor(std::log10(x)))` of a positive number. -/
  floorLog10 : ℚ → ℤ
  -- the logarithm is accurate enough to be off by one only next to a power of ten
  floorLog10_le : ∀ x, 0 < x → (1 - 1 / 2 ^ 40) * 10 ^ floorLog10 x ≤ x
  lt_floorLog10 : ∀ x, 0 < x → x < (1 + 1 / 2 ^ 40) * 10 ^ (floorLog10 x + 1)
  /-- `static_cast<int>` of an infinity or a NaN. -/
  castNotFinite : ℤ
  /-- `std::pow(10.0, n)`, where it is neither zero nor infinite. -/
  pow10 : ℤ → ℚ
  nearest_pow10 : ∀ n, nearest (pow10 n) = pow10 n
  -- less than a unit in the last place
  abs_sub_pow10_lt : ∀ n, -323 ≤ n → n ≤ 308 →
    |pow10 n - 10 ^ n| < ((2 : ℕ) : ℚ) ^ exponent (10 ^ n)
  pow10_natCast : ∀ n : ℕ, n ≤ 22 → pow10 n = 10 ^ n

/-- A logarithm without rounding, the powers to the nearest, and the conversion of x86-64. -/
def MathLibrary.exact : MathLibrary where
  floorLog10 := Int.log 10
  floorLog10_le x hx := by
    have hle := Int.zpow_log_le_self (b := 10) (by decide) hx
    have hpos : (0 : ℚ) < 10 ^ Int.log 10 x := zpow_pos (by norm_num) _
    refine le_trans (mul_le_of_le_one_left hpos.le (by norm_num)) ?_
    exact_mod_cast hle
  lt_floorLog10 x _ := by
    have hlt := Int.lt_zpow_succ_log_self (b := 10) (by decide) x
    have hpos : (0 : ℚ) < 10 ^ (Int.log 10 x + 1) := zpow_pos (by norm_num) _
    refine lt_of_lt_of_le ?_ (le_mul_of_one_le_left hpos.le (by norm_num))
    exact_mod_cast hlt
  castNotFinite := -2 ^ 31
  pow10 n := nearest (10 ^ n)
  nearest_pow10 n := nearest_nearest (zpow_nonneg (by norm_num) n)
  abs_sub_pow10_lt n _ _ := by
    rw [abs_sub_comm]
    exact (abs_sub_nearest_le _).trans_lt (half_lt_self (Grid.pow_pos (by decide) _))
  pow10_natCast := by decide +kernel

/-- The magnitude of a finite double. -/
structure Magnitude where
  value : ℚ
  nonneg : 0 ≤ value
  nearest_value : nearest value = value
  lt_pow : value < ((2 : ℕ) : ℚ) ^ (1024 : ℤ)
  deriving DecidableEq

/-- A magnitude does not overflow. -/
theorem Magnitude.lt_overflow (a : Magnitude) : a.value < overflow := by
  rw [← nearest_lt_iff a.nonneg, a.nearest_value]
  exact a.lt_pow

/-- Doubles, with the functions of a mathematics library. -/
inductive Binary64 (math : MathLibrary) where
  | finite (negative : Bool) (magnitude : Magnitude)
  | infinite (negative : Bool)
  | nan (negative : Bool)
  deriving DecidableEq

namespace Binary64

variable {math : MathLibrary}

/-- The double nearest to a number that is given by its sign and its magnitude. -/
def ofMagnitude (negative : Bool) (q : ℚ) : Binary64 math :=
  if h : 0 ≤ q ∧ nearest q < ((2 : ℕ) : ℚ) ^ (1024 : ℤ) then
    finite negative ⟨nearest q, nearest_nonneg h.1, nearest_nearest h.1, h.2⟩
  else infinite negative

/-- The zero of a sign. -/
def zero (negative : Bool) : Binary64 math := ofMagnitude negative 0

/-- A number with a sign. -/
def withSign (negative : Bool) (q : ℚ) : ℚ := if negative then -q else q

/-- `a > b`. -/
def gt : Binary64 math → Binary64 math → Bool
  | finite s a, finite t b => withSign t b.value < withSign s a.value
  | infinite false, finite .. | infinite false, infinite true | finite .., infinite true => true
  | _, _ => false

/-- `a == b`. -/
def eq : Binary64 math → Binary64 math → Bool
  | finite s a, finite t b => withSign s a.value = withSign t b.value
  | infinite s, infinite t => s = t
  | _, _ => false

def mul : Binary64 math → Binary64 math → Binary64 math
  | nan s, _ | _, nan s => nan s
  | finite s a, finite t b => ofMagnitude (s ^^ t) (a.value * b.value)
  | infinite s, infinite t => infinite (s ^^ t)
  | infinite s, finite t b | finite t b, infinite s =>
    if b.value = 0 then nan true else infinite (s ^^ t)

def div : Binary64 math → Binary64 math → Binary64 math
  | nan s, _ | _, nan s => nan s
  | finite s a, finite t b =>
    if b.value = 0 then if a.value = 0 then nan true else infinite (s ^^ t)
    else ofMagnitude (s ^^ t) (a.value / b.value)
  | infinite _, infinite _ => nan true
  | infinite s, finite t _ => infinite (s ^^ t)
  | finite s _, infinite t => zero (s ^^ t)

def sub : Binary64 math → Binary64 math → Binary64 math
  | nan s, _ | _, nan s => nan s
  | finite s a, finite t b =>
    let difference := withSign s a.value - withSign t b.value
    -- only minus zero less zero is minus zero
    if difference = 0 then zero (s && !t) else ofMagnitude (difference < 0) |difference|
  | infinite s, infinite t => if s = t then nan true else infinite s
  | infinite s, finite .. => infinite s
  | finite .., infinite t => infinite !t

def abs : Binary64 math → Binary64 math
  | finite _ a => finite false a
  | infinite _ => infinite false
  | nan _ => nan false

def floor : Binary64 math → Binary64 math
  | finite s a => ofMagnitude s (if s then ⌈a.value⌉ else ⌊a.value⌋)
  | x => x

def round : Binary64 math → Binary64 math
  | finite s a => ofMagnitude s (Double.roundAway a.value)
  | x => x

def floorLog10 : Binary64 math → ℤ
  | finite _ a => if a.value = 0 then math.castNotFinite else math.floorLog10 a.value
  | _ => math.castNotFinite

/-- `std::pow(10.0, n)`. -/
def pow10 (n : ℤ) : Binary64 math :=
  if n < -323 then zero false else if 308 < n then infinite false
  else ofMagnitude false (math.pow10 n)

def fixed8 : Binary64 math → String
  | finite s a =>
    String.ofList (Numerals.signed s (Double.fixedDigits (Double.roundEven (a.value * 10 ^ 8))))
  | infinite s => if s then "-inf" else "inf"
  | nan s => if s then "-nan" else "nan"

/-- `std::stod` on the texts that the stream prints. -/
def stod (text : String) : Binary64 math :=
  if text = "inf" then infinite false
  else if text = "-inf" then infinite true
  else if text = "nan" then nan false
  else if text = "-nan" then nan true
  else
    match text.toList with
    | '-' :: digits => ofMagnitude true (Double.unsignedValue digits)
    | digits => ofMagnitude false (Double.unsignedValue digits)

instance : Double (Binary64 math) where
  lit q := ofMagnitude (q < 0) |q|
  gt
  ge a b := gt a b || eq a b
  eq
  mul
  div
  sub
  abs
  floor
  round
  floorLog10
  pow10
  fixed8
  stod

/-! ## Magnitudes -/

/-- The magnitude of a finite double. -/
def magnitude? : Binary64 math → Option ℚ
  | finite _ a => some a.value
  | _ => none

/-- The number that a finite double is. -/
def value? : Binary64 math → Option ℚ
  | finite s a => some (withSign s a.value)
  | _ => none

/-- `std::isfinite`. -/
def isFinite (x : Binary64 math) : Bool := x.magnitude?.isSome

/-- The nearest double of a non-negative number, unless it is too large. -/
def rounded? (q : ℚ) : Option ℚ := if q < overflow then some (nearest q) else none

section

variable {p q : ℚ} {x y : Binary64 math}

/-- The magnitude is the number without its sign. -/
theorem magnitude?_eq_map (x : Binary64 math) : x.magnitude? = x.value?.map fun q ↦ |q| := by
  cases x with
  | finite s a =>
    cases s with
    | false => exact congrArg some (abs_of_nonneg a.nonneg).symm
    | true => exact congrArg some ((abs_neg a.value).trans (abs_of_nonneg a.nonneg)).symm
  | infinite s => rfl
  | nan s => rfl

/-- A double with a magnitude is finite. -/
private theorem exists_of_magnitude? (h : x.magnitude? = some q) :
    ∃ s a, x = finite s a ∧ a.value = q := by
  cases x with
  | finite s a => exact ⟨s, a, rfl, Option.some.inj h⟩
  | infinite s => cases h
  | nan s => cases h

/-- A double that is a number is finite. -/
private theorem exists_of_value? (h : x.value? = some q) :
    ∃ s a, x = finite s a ∧ withSign s a.value = q := by
  cases x with
  | finite s a => exact ⟨s, a, rfl, Option.some.inj h⟩
  | infinite s => cases h
  | nan s => cases h

/-- A double is finite exactly when it has a magnitude. -/
theorem isFinite_eq_false_iff : x.isFinite = false ↔ x.magnitude? = none := by
  rw [isFinite, Option.isSome_eq_false_iff, Option.isNone_iff_eq_none]

/-- A number is rounded to a finite double unless it is too large. -/
private theorem ofMagnitude_cases (negative : Bool) (h : 0 ≤ q) :
    (q < overflow ∧ ∃ a : Magnitude, a.value = nearest q ∧
        (ofMagnitude negative q : Binary64 math) = finite negative a) ∨
      (¬ q < overflow ∧ (ofMagnitude negative q : Binary64 math) = infinite negative) := by
  unfold ofMagnitude
  by_cases hlt : q < overflow
  · rw [dif_pos ⟨h, (nearest_lt_iff h).mpr hlt⟩]
    exact Or.inl ⟨hlt, _, rfl, rfl⟩
  · rw [dif_neg fun hq ↦ hlt ((nearest_lt_iff h).mp hq.2)]
    exact Or.inr ⟨hlt, rfl⟩

private theorem magnitude?_ofMagnitude (negative : Bool) (h : 0 ≤ q) :
    (ofMagnitude negative q : Binary64 math).magnitude? = rounded? q := by
  rcases ofMagnitude_cases negative h with ⟨hlt, a, hvalue, hfinite⟩ | ⟨hlarge, hinfinite⟩
  · rw [hfinite, rounded?, if_pos hlt, ← hvalue]
    rfl
  · rw [hinfinite, rounded?, if_neg hlarge]
    rfl

private theorem value?_ofMagnitude (negative : Bool) (h : 0 ≤ q) :
    (ofMagnitude negative q : Binary64 math).value? = (rounded? q).map (withSign negative) := by
  rcases ofMagnitude_cases negative h with ⟨hlt, a, hvalue, hfinite⟩ | ⟨hlarge, hinfinite⟩
  · rw [hfinite, rounded?, if_pos hlt, ← hvalue]
    rfl
  · rw [hinfinite, rounded?, if_neg hlarge]
    rfl

private theorem value?_abs (x : Binary64 math) : (Double.abs x).value? = x.magnitude? := by
  cases x <;> rfl

/-- A literal that is not negative. -/
theorem value?_lit (math : MathLibrary) (h : 0 ≤ q) (hlt : q < overflow) :
    (Double.lit q : Binary64 math).value? = some (nearest q) := by
  show (ofMagnitude (decide (q < 0)) |q|).value? = _
  rw [decide_eq_false (not_lt.mpr h), abs_of_nonneg h, value?_ofMagnitude false h, rounded?,
    if_pos hlt]
  rfl

/-- The magnitude of a double is kept. -/
theorem nearest_magnitude? (h : x.magnitude? = some q) : nearest q = q := by
  obtain ⟨s, a, rfl, rfl⟩ := exists_of_magnitude? h
  exact a.nearest_value

/-- The zeros are finite. -/
@[simp] theorem magnitude?_zero (negative : Bool) :
    (zero negative : Binary64 math).magnitude? = some 0 := by
  rw [zero, magnitude?_ofMagnitude negative le_rfl, rounded?, if_pos overflow_pos, nearest_zero]

/-- A product is finite if both factors are and it is not too large. -/
theorem magnitude?_mul (x y : Binary64 math) :
    (Double.mul x y).magnitude? =
      x.magnitude?.bind fun a ↦ y.magnitude?.bind fun b ↦ rounded? (a * b) := by
  show (mul x y).magnitude? = _
  cases x with
  | finite s a =>
    cases y with
    | finite t b => exact magnitude?_ofMagnitude _ (mul_nonneg a.nonneg b.nonneg)
    | infinite t =>
      unfold mul
      dsimp only
      split <;> rfl
    | nan t => rfl
  | infinite s =>
    cases y with
    | finite t b =>
      unfold mul
      dsimp only
      split <;> rfl
    | infinite t => rfl
    | nan t => rfl
  | nan s => cases y <;> rfl

/-- A quotient by a finite double is finite if the dividend is, the divisor is not zero and it is
not too large. -/
theorem magnitude?_div {b : ℚ} (hy : y.magnitude? = some b) (x : Binary64 math) :
    (Double.div x y).magnitude? =
      x.magnitude?.bind fun a ↦ if b = 0 then none else rounded? (a / b) := by
  show (div x y).magnitude? = _
  obtain ⟨t, b', rfl, rfl⟩ := exists_of_magnitude? hy
  cases x with
  | finite s a =>
    have hquotient := @magnitude?_ofMagnitude math _ (s ^^ t) (div_nonneg a.nonneg b'.nonneg)
    unfold div
    by_cases hb : b'.value = 0
    · simp only [if_pos hb]
      split <;> rfl
    · simp only [if_neg hb]
      exact hquotient
  | infinite s => rfl
  | nan s => rfl

/-- A quotient of a double that is not finite is not finite. -/
theorem magnitude?_div_of_not_finite (h : x.magnitude? = none) (y : Binary64 math) :
    (Double.div x y).magnitude? = none := by
  cases x with
  | finite s a => cases h
  | infinite s => cases y <;> rfl
  | nan s => cases y <;> rfl

/-- A double is rounded to an integer that is a double. -/
theorem rounded?_roundAway (a : Magnitude) :
    rounded? (Double.roundAway a.value) = some (Double.roundAway a.value : ℚ) := by
  have hvalue := a.nonneg
  rcases le_or_gt 0 (exponent a.value) with hexponent | hexponent
  · -- a double without a fraction is kept
    have hmem : a.value ∈ Grid 2 0 :=
      Grid.anti (by decide) hexponent (nearest_eq_self_iff.mp a.nearest_value)
    obtain ⟨k, hk⟩ := Grid.mem_zero_iff.mp hmem
    have hkept : (Double.roundAway a.value : ℚ) = a.value := by
      rw [← hk, Double.roundAway_intCast]
    rw [hkept, rounded?, if_pos a.lt_overflow, a.nearest_value]
  · -- the others are small
    have hlt : a.value < 2 ^ 52 := by
      have hpow : ((2 : ℕ) : ℚ) ^ (exponent a.value + 53) ≤ 2 ^ 52 := by
        have hle : ((2 : ℕ) : ℚ) ^ (exponent a.value + 53) ≤ ((2 : ℕ) : ℚ) ^ (52 : ℤ) :=
          zpow_le_zpow_right₀ (by norm_num) (by omega)
        exact_mod_cast hle
      exact (lt_pow_exponent a.value).trans_le hpow
    have hnonneg : 0 ≤ Double.roundAway a.value := (Double.le_roundAway_iff hvalue 0).mpr (by
      push_cast
      linarith)
    have hle : Double.roundAway a.value ≤ 2 ^ 52 := by
      have hmono := Double.roundAway_mono hlt.le
      rwa [show (2 : ℚ) ^ 52 = ((2 ^ 52 : ℤ) : ℚ) by norm_num, Double.roundAway_intCast] at hmono
    obtain ⟨n, hn⟩ := Int.eq_ofNat_of_zero_le hnonneg
    have hcast : (Double.roundAway a.value : ℚ) = (n : ℚ) := by
      rw [hn]
      norm_num
    have hn' : n < 2 ^ 53 := by omega
    rw [hcast, rounded?, nearest_natCast hn', if_pos (natCast_lt_overflow hn')]

/-- `std::round` never reaches the overflow. -/
theorem roundAway_mem (h : x.magnitude? = some q) :
    0 ≤ Double.roundAway q ∧ (Double.roundAway q : ℚ) < overflow := by
  obtain ⟨s, a, rfl, rfl⟩ := exists_of_magnitude? h
  constructor
  · exact (Double.le_roundAway_iff a.nonneg 0).mpr (by
      have := a.nonneg
      push_cast
      linarith)
  · have hrounded := rounded?_roundAway a
    unfold rounded? at hrounded
    by_contra hle
    rw [if_neg hle] at hrounded
    cases hrounded

/-- `std::round` keeps finite doubles finite. -/
theorem magnitude?_round (x : Binary64 math) :
    (Double.round x).magnitude? = x.magnitude?.map fun a ↦ (Double.roundAway a : ℚ) := by
  cases x with
  | finite s a =>
    obtain ⟨hnonneg, _⟩ := roundAway_mem (show (finite s a : Binary64 math).magnitude? = _ from rfl)
    have hnonneg : (0 : ℚ) ≤ Double.roundAway a.value := by exact_mod_cast hnonneg
    exact (magnitude?_ofMagnitude s hnonneg).trans (rounded?_roundAway a)
  | infinite s => rfl
  | nan s => rfl

/-! ## Powers of ten -/

/-- How far a power of ten is off. -/
theorem abs_sub_pow10_le (math : MathLibrary) {n : ℤ} (hlow : -323 ≤ n) (hhigh : n ≤ 308) :
    |math.pow10 n - 10 ^ n| ≤ 10 ^ n / 2 ^ 52 + ((2 : ℕ) : ℚ) ^ (-1074 : ℤ) :=
  (math.abs_sub_pow10_lt n hlow hhigh).le.trans (pow_exponent_le_add (zpow_pos (by norm_num) n))

/-- The powers of ten that are not zero are at most halved or doubled. -/
theorem pow10_mem (math : MathLibrary) {n : ℤ} (hlow : -323 ≤ n) (hhigh : n ≤ 308) :
    10 ^ n / 2 ≤ math.pow10 n ∧ math.pow10 n ≤ 2 * 10 ^ n := by
  have hleast : ((2 : ℕ) : ℚ) ^ (-1074 : ℤ) ≤ 10 ^ n * (498 / 1000) := by
    have hbound : ((2 : ℕ) : ℚ) ^ (-1074 : ℤ) ≤ 10 ^ (-323 : ℤ) * (498 / 1000) := by
      decide +kernel
    exact hbound.trans (mul_le_mul_of_nonneg_right (zpow_le_zpow_right₀ (by norm_num) hlow)
      (by norm_num))
  obtain ⟨hlower, hupper⟩ := abs_le.mp (abs_sub_pow10_le math hlow hhigh)
  have hpos : (0 : ℚ) < 10 ^ n := zpow_pos (by norm_num) n
  generalize ((2 : ℕ) : ℚ) ^ (-1074 : ℤ) = least at hleast hlower hupper
  constructor <;> linarith

/-- The powers of ten are positive. -/
theorem pow10_pos (math : MathLibrary) {n : ℤ} (hlow : -323 ≤ n) (hhigh : n ≤ 308) :
    0 < math.pow10 n :=
  (half_pos (zpow_pos (by norm_num) n)).trans_le (pow10_mem math hlow hhigh).1

/-- The powers of ten between zero and infinity. -/
theorem magnitude?_pow10 (math : MathLibrary) {n : ℤ} (hlow : -323 ≤ n) (hhigh : n ≤ 308) :
    (Double.pow10 n : Binary64 math).magnitude? = some (math.pow10 n) := by
  have hlt : math.pow10 n < overflow := by
    have hpow : (10 : ℚ) ^ n ≤ 10 ^ (308 : ℤ) := zpow_le_zpow_right₀ (by norm_num) hhigh
    have hsplit : (10 : ℚ) ^ (308 : ℤ) = 10 ^ 4 * 10 ^ (304 : ℤ) := by
      rw [show (308 : ℤ) = 4 + 304 by norm_num, zpow_add₀ (by norm_num)]
      norm_num
    have hone : (1 : ℚ) ≤ 10 ^ (304 : ℤ) := one_le_zpow₀ (by norm_num) (by norm_num)
    have hlarge := overflow_bounds.1
    have hupper := (abs_le.mp (abs_sub_pow10_le math hlow hhigh)).2
    have hleast := pow_le_quarter (show -1074 ≤ -2 by norm_num)
    rw [hsplit] at hpow
    generalize ((2 : ℕ) : ℚ) ^ (-1074 : ℤ) = least at hleast hupper
    generalize (10 : ℚ) ^ (304 : ℤ) = unit at hone hlarge hpow
    linarith
  show (pow10 n : Binary64 math).magnitude? = _
  rw [pow10, if_neg (by omega), if_neg (by omega),
    magnitude?_ofMagnitude false (pow10_pos math hlow hhigh).le, rounded?, if_pos hlt,
    math.nearest_pow10]

/-- The smaller powers are zero. -/
theorem magnitude?_pow10_of_lt (math : MathLibrary) {n : ℤ} (h : n < -323) :
    (Double.pow10 n : Binary64 math).magnitude? = some 0 := by
  show (pow10 n : Binary64 math).magnitude? = _
  rw [pow10, if_pos h, magnitude?_zero]

/-! ## Texts -/

/-- The texts of the doubles that are not finite. -/
theorem fixed8_of_not_finite (h : x.isFinite = false) :
    Double.fixed8 x ∈ ["inf", "-inf", "nan", "-nan"] := by
  cases x with
  | finite s a => cases h
  | infinite s =>
    show (if s then "-inf" else "inf") ∈ _
    cases s <;> decide
  | nan s =>
    show (if s then "-nan" else "nan") ∈ _
    cases s <;> decide

/-- A double that is not finite is read back from its text. -/
theorem stod_fixed8_of_not_finite (h : x.isFinite = false) :
    Double.stod (Double.fixed8 x) = x := by
  cases x with
  | finite s a => cases h
  | infinite s => cases s <;> rfl
  | nan s => cases s <;> rfl

/-- A decimal numeral is read as the nearest double. -/
theorem stod_signed (negative : Bool) (units : ℕ) :
    (Double.stod (String.ofList (Numerals.signed negative (Double.fixedDigits units))) :
      Binary64 math) = ofMagnitude negative (units / 10 ^ 8) := by
  have hpoint : '.' ∈ Numerals.signed negative (Double.fixedDigits units) := by
    simp [Numerals.signed, Double.fixedDigits]
  have hword : ∀ word : String, '.' ∉ word.toList →
      String.ofList (Numerals.signed negative (Double.fixedDigits units)) ≠ word := by
    rintro word hword rfl
    rw [String.toList_ofList] at hword
    exact hword hpoint
  show stod _ = _
  rw [stod, if_neg (hword "inf" (by decide)), if_neg (hword "-inf" (by decide)),
    if_neg (hword "nan" (by decide)), if_neg (hword "-nan" (by decide)), String.toList_ofList]
  have hvalue := Numerals.unsignedValue_fixedDigits units
  have hhead := Numerals.head_fixedDigits_ne_minus units
  cases negative with
  | true => exact congrArg (ofMagnitude true) hvalue
  | false =>
    show (match Double.fixedDigits units with
      | '-' :: digits => ofMagnitude true (Double.unsignedValue digits)
      | digits => ofMagnitude false (Double.unsignedValue digits)) = (_ : Binary64 math)
    split
    · next digits heq =>
      rw [heq] at hhead
      exact absurd rfl hhead
    · exact congrArg (ofMagnitude false) hvalue

/-- A double from `2 ^ 26` on is nearest to every number that is as close as a text with eight
decimals, where the doubles below it are as far apart as those above it. -/
private theorem nearest_eq_of_close {a t : ℚ} (ha : ((2 : ℕ) : ℚ) ^ (26 : ℤ) ≤ a)
    (hkept : nearest a = a) (hclose : |t - a| ≤ 1 / 2 / 10 ^ 8)
    (hpow : a = ((2 : ℕ) : ℚ) ^ (exponent a + 52) → t = a) : nearest t = a := by
  have hapos : 0 < a := (Grid.pow_pos (by decide) _).trans_le ha
  have hlog : 26 ≤ Int.log 2 a := (Int.zpow_le_iff_le_log (by decide) hapos).mp ha
  have hexponent : exponent a + 52 = Int.log 2 a := by
    unfold exponent
    omega
  have hstep : 1 / 10 ^ 8 < ((2 : ℕ) : ℚ) ^ exponent a := by
    have hle : ((2 : ℕ) : ℚ) ^ (-26 : ℤ) ≤ ((2 : ℕ) : ℚ) ^ exponent a :=
      zpow_le_zpow_right₀ (by norm_num) (by omega)
    exact lt_of_lt_of_le (by norm_num) hle
  have hmem : a ∈ Grid 2 (exponent a) := nearest_eq_self_iff.mp hkept
  obtain ⟨hlower, hupper⟩ := abs_le.mp hclose
  have htpos : 0 < t := by
    have hone : (1 : ℚ) ≤ ((2 : ℕ) : ℚ) ^ (26 : ℤ) := by norm_num
    linarith
  rcases lt_trichotomy (exponent t) (exponent a) with hlt | heq | hgt
  · -- only next to a power of two the numbers below have a smaller step
    have ht : t < ((2 : ℕ) : ℚ) ^ (exponent a + 52) :=
      (lt_pow_exponent t).trans_le (zpow_le_zpow_right₀ (by norm_num) (by omega))
    have hle : ((2 : ℕ) : ℚ) ^ (exponent a + 52) ≤ a := pow_exponent_le hapos (by omega)
    rcases hle.eq_or_lt with hpower | hlt
    · rw [hpow hpower.symm, hkept]
    · exfalso
      have hnext := Grid.add_le_of_lt (by decide) (Grid.pow_mem (by decide) (by omega)) hmem hlt
      generalize ((2 : ℕ) : ℚ) ^ exponent a = step at hstep hnext
      generalize ((2 : ℕ) : ℚ) ^ (exponent a + 52) = power at ht hnext
      linarith
  · obtain ⟨k, hk⟩ := Grid.mem_iff.mp hmem
    rw [← heq] at hk hstep
    rw [← hk]
    apply nearest_eq
    rw [hk]
    generalize ((2 : ℕ) : ℚ) ^ exponent t = step at hstep ⊢
    linarith
  · exfalso
    have ht : ((2 : ℕ) : ℚ) ^ (exponent a + 53) ≤ t :=
      (zpow_le_zpow_right₀ (by norm_num) (by omega)).trans (pow_exponent_le htpos (by omega))
    have hnext := Grid.add_le_of_lt (by decide) hmem
      (Grid.pow_mem (by decide) (by omega)) (lt_pow_exponent a)
    generalize ((2 : ℕ) : ℚ) ^ exponent a = step at hstep hnext
    generalize ((2 : ℕ) : ℚ) ^ (exponent a + 53) = power at ht hnext
    linarith

/-- Below `2 ^ 26` the text of the double nearest to a decimal is the decimal. -/
private theorem roundEven_nearest_of_lt {units : ℕ}
    (h : (units : ℚ) / 10 ^ 8 < ((2 : ℕ) : ℚ) ^ (26 : ℤ)) :
    Double.roundEven (nearest (units / 10 ^ 8) * 10 ^ 8) = units := by
  have hnonneg : (0 : ℚ) ≤ units / 10 ^ 8 := by positivity
  apply Numerals.roundEven_eq (mul_nonneg (nearest_nonneg hnonneg) (by norm_num))
  have hscale : nearest (units / 10 ^ 8) * 10 ^ 8 - units =
      -((units / 10 ^ 8 - nearest (units / 10 ^ 8)) * 10 ^ 8) := by
    rw [sub_mul, div_mul_cancel₀ _ (by norm_num), neg_sub]
  rw [hscale, abs_neg, abs_mul, abs_of_pos (by norm_num : (0 : ℚ) < 10 ^ 8)]
  rcases hnonneg.eq_or_lt with hzero | hpos
  · rw [← hzero, nearest_zero]
    norm_num
  have hlog : Int.log 2 ((units : ℚ) / 10 ^ 8) < 26 :=
    (Int.lt_zpow_iff_log_lt (by decide) hpos).mp h
  have hexponent : exponent ((units : ℚ) / 10 ^ 8) ≤ -27 := by
    unfold exponent
    omega
  have hstep : ((2 : ℕ) : ℚ) ^ exponent ((units : ℚ) / 10 ^ 8) ≤ ((2 : ℕ) : ℚ) ^ (-27 : ℤ) :=
    zpow_le_zpow_right₀ (by norm_num) hexponent
  have hsmall : ((2 : ℕ) : ℚ) ^ (-27 : ℤ) / 2 * 10 ^ 8 < 1 / 2 := by norm_num
  have herror := abs_sub_nearest_le ((units : ℚ) / 10 ^ 8)
  generalize ((2 : ℕ) : ℚ) ^ exponent ((units : ℚ) / 10 ^ 8) = step at hstep herror
  generalize ((2 : ℕ) : ℚ) ^ (-27 : ℤ) = bound at hstep hsmall
  linarith

/-- The double nearest to a decimal with eight places is read back from its text: below `2 ^ 26`
the text is the decimal, and from there on the doubles are further apart than the texts. -/
theorem nearest_printed (units : ℕ) :
    nearest (Double.roundEven (nearest (units / 10 ^ 8) * 10 ^ 8) / 10 ^ 8) =
      nearest (units / 10 ^ 8) := by
  rcases lt_or_ge ((units : ℚ) / 10 ^ 8) (((2 : ℕ) : ℚ) ^ (26 : ℤ)) with hlt | hge
  · rw [roundEven_nearest_of_lt hlt]
  · have hnonneg : (0 : ℚ) ≤ units / 10 ^ 8 := by positivity
    have hle : ((2 : ℕ) : ℚ) ^ (26 : ℤ) ≤ nearest (units / 10 ^ 8) := by
      rw [← nearest_pow (k := 26) (by norm_num)]
      exact nearest_mono (Grid.pow_pos (by decide) _).le hge
    have hkept := nearest_nearest hnonneg
    generalize nearest ((units : ℚ) / 10 ^ 8) = a at hle hkept
    have hapos : 0 < a := (Grid.pow_pos (by decide) _).trans_le hle
    have hscaled : 0 ≤ a * 10 ^ 8 := mul_nonneg hapos.le (by norm_num)
    apply nearest_eq_of_close hle hkept
    · have hscale : (Double.roundEven (a * 10 ^ 8) : ℚ) / 10 ^ 8 - a =
          -((a * 10 ^ 8 - Double.roundEven (a * 10 ^ 8)) / 10 ^ 8) := by
        rw [sub_div, mul_div_cancel_right₀ _ (by norm_num), neg_sub]
      rw [hscale, abs_neg, abs_div, abs_of_pos (by norm_num : (0 : ℚ) < 10 ^ 8)]
      exact div_le_div_of_nonneg_right (Numerals.abs_sub_roundEven_le hscaled) (by norm_num)
    · intro hpower
      -- a power of two from `2 ^ 26` on is an integer, which has an exact text
      have hlog : 26 ≤ Int.log 2 a := (Int.zpow_le_iff_le_log (by decide) hapos).mp hle
      obtain ⟨n, hn⟩ := Int.eq_ofNat_of_zero_le (show 0 ≤ exponent a + 52 by
        unfold exponent
        omega)
      have hinteger : a * 10 ^ 8 = ((2 ^ n * 10 ^ 8 : ℕ) : ℚ) := by
        rw [hpower, hn, zpow_natCast]
        push_cast
        rfl
      have hexact : Double.roundEven (a * 10 ^ 8) = 2 ^ n * 10 ^ 8 :=
        Numerals.roundEven_eq hscaled (by rw [hinteger, sub_self]; norm_num)
      rw [hexact, ← hinteger, mul_div_cancel_right₀ _ (by norm_num)]

/-- The doubles nearest to decimals with eight places are read back from their texts. -/
theorem stod_fixed8 (units : ℕ) (h : x.magnitude? = some (nearest (units / 10 ^ 8))) :
    Double.stod (Double.fixed8 x) = x := by
  obtain ⟨s, a, rfl, hvalue⟩ := exists_of_magnitude? h
  have hprinted : nearest (Double.roundEven (a.value * 10 ^ 8) / 10 ^ 8) = a.value := by
    rw [hvalue]
    exact nearest_printed units
  have hnonneg : (0 : ℚ) ≤ Double.roundEven (a.value * 10 ^ 8) / 10 ^ 8 := by positivity
  refine (stod_signed s _).trans ?_
  rw [ofMagnitude, dif_pos ⟨hnonneg, by rw [hprinted]; exact a.lt_pow⟩]
  obtain ⟨value, _, _, _⟩ := a
  simp only [hprinted]

/-! ## Comparisons -/

/-- Finite doubles are compared as numbers. -/
theorem gt_eq_decide (hx : x.value? = some p) (hy : y.value? = some q) :
    Double.gt x y = decide (q < p) := by
  obtain ⟨s, a, rfl, rfl⟩ := exists_of_value? hx
  obtain ⟨t, b, rfl, rfl⟩ := exists_of_value? hy
  rfl

/-- Finite doubles are equal as numbers. -/
theorem eq_eq_decide (hx : x.value? = some p) (hy : y.value? = some q) :
    Double.eq x y = decide (p = q) := by
  obtain ⟨s, a, rfl, rfl⟩ := exists_of_value? hx
  obtain ⟨t, b, rfl, rfl⟩ := exists_of_value? hy
  rfl

private theorem ge_eq_decide (hx : x.value? = some p) (hy : y.value? = some q) :
    Double.ge x y = decide (q ≤ p) := by
  have hge : Double.ge x y = (Double.gt x y || Double.eq x y) := rfl
  rw [hge, gt_eq_decide hx hy, eq_eq_decide hx hy, ← Bool.decide_or, decide_eq_decide,
    le_iff_lt_or_eq, eq_comm]

/-- A positive double is an integer exactly when it is its own floor. -/
theorem eq_floor_iff (hx : x.value? = some q) (hq : 0 < q) :
    Double.eq x (Double.floor x) = true ↔ q = ⌊q⌋ := by
  obtain ⟨s, a, rfl, hvalue⟩ := exists_of_value? hx
  have hnonneg := a.nonneg
  cases s with
  | true =>
    have : -a.value = q := hvalue
    linarith
  | false =>
    obtain rfl : a.value = q := hvalue
    have hfloor : (0 : ℚ) ≤ ⌊a.value⌋ := by exact_mod_cast Int.floor_nonneg.mpr hnonneg
    have hlt : (⌊a.value⌋ : ℚ) < overflow := (Int.floor_le a.value).trans_lt a.lt_overflow
    have hvalue : (Double.floor (finite false a : Binary64 math)).value? =
        some (nearest ⌊a.value⌋) := by
      refine (value?_ofMagnitude false hfloor).trans ?_
      rw [rounded?, if_pos hlt]
      rfl
    rw [eq_eq_decide hx hvalue, decide_eq_true_eq]
    constructor
    · intro heq
      have hmem := nearest_mem_zero (Grid.mem_zero_iff.mpr ⟨⌊a.value⌋, rfl⟩)
      obtain ⟨k, hk⟩ := Grid.mem_zero_iff.mp hmem
      have hinteger : a.value = k := heq.trans hk.symm
      rw [hinteger, Int.floor_intCast]
    · intro heq
      show a.value = nearest ⌊a.value⌋
      rw [← heq, a.nearest_value]

/-- No double has a distance from itself: that of a finite one is zero, that of the others is a
NaN, which is not compared. -/
theorem ge_distance_self (hlow : ((2 : ℕ) : ℚ) ^ (-1074 : ℤ) ≤ q) (hhigh : q < overflow) :
    Double.ge (Double.abs (Double.sub x x)) (Double.lit q) = false := by
  have hpos : 0 < q := (Grid.pow_pos (by decide) _).trans_le hlow
  have hlit := value?_lit math hpos.le hhigh
  have hnearest : 0 < nearest q := by linarith [(abs_le.mp (abs_sub_nearest_le_half hlow)).2]
  cases x with
  | finite s a =>
    have hsub : (Double.abs (Double.sub (finite s a : Binary64 math) (finite s a))).value? =
        some 0 := by
      rw [value?_abs]
      show (sub _ _).magnitude? = _
      unfold sub
      dsimp only
      rw [sub_self, if_pos rfl, magnitude?_zero]
    rw [ge_eq_decide hsub hlit, decide_eq_false (not_le.mpr hnearest)]
  | infinite s => cases s <;> rfl
  | nan s => rfl

end

end Binary64

end Hyperliquid.Base
