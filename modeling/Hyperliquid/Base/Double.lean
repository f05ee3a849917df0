import Mathlib.Data.Int.Log
import Mathlib.Data.Rat.Floor
import Mathlib.Tactic.Linarith

/-!
# Doubles by their operations

`Double F` lists the `<cmath>` and stream operations on `double` that the conversions
use, under their C++ names. Code is written once over any `F`; `ℚ` gives the exact
reading, in which every operation is the real one, `std::round` breaks ties away from
zero and the stream prints the nearest multiple of `10⁻⁸`.
-/

namespace Hyperliquid.Base

/-- The operations of `double`. Comparisons are Boolean, so that an instance with a
NaN can answer false both ways. -/
class Double (F : Type) where
  /-- A decimal literal. -/
  lit : ℚ → F
  gt : F → F → Bool
  ge : F → F → Bool
  eq : F → F → Bool
  mul : F → F → F
  div : F → F → F
  sub : F → F → F
  abs : F → F
  floor : F → F
  round : F → F
  /-- `static_cast<int>(std::floor(std::log10(x)))`. -/
  floorLog10 : F → ℤ
  /-- `std::pow(10.0, n)` for an integer `n`. -/
  pow10 : ℤ → F
  /-- `std::fixed << std::setprecision(8) << x`. -/
  fixed8 : F → String
  /-- `std::stod`. -/
  stod : String → F

namespace Double

/-- `std::round`: the nearest integer, ties away from zero. -/
def roundAway (q : ℚ) : ℤ := if 0 ≤ q then ⌊q + 1 / 2⌋ else ⌈q - 1 / 2⌉

/-- `std::round` keeps the integers. -/
theorem roundAway_intCast (k : ℤ) : roundAway k = k := by
  unfold roundAway
  split
  · rw [Int.floor_eq_iff]
    constructor <;> linarith
  · rw [Int.ceil_eq_iff]
    constructor <;> linarith

/-- `std::round` keeps the order. -/
theorem roundAway_mono ⦃p q : ℚ⦄ (h : p ≤ q) : roundAway p ≤ roundAway q := by
  unfold roundAway
  split
  · next hp =>
    rw [if_pos (hp.trans h)]
    exact Int.floor_mono (by linarith)
  · next hp =>
    split
    · next hq =>
      have hneg : ⌈p - 1 / 2⌉ ≤ 0 := Int.ceil_le.mpr (by push_cast; linarith)
      have hpos : 0 ≤ ⌊q + 1 / 2⌋ := Int.le_floor.mpr (by push_cast; linarith)
      exact hneg.trans hpos
    · exact Int.ceil_mono (by linarith)

/-- `std::round` is at most a half away. -/
theorem abs_sub_roundAway_le (q : ℚ) : |q - roundAway q| ≤ 1 / 2 := by
  unfold roundAway
  rw [abs_le]
  split
  · constructor <;> linarith [Int.floor_le (q + 1 / 2), Int.lt_floor_add_one (q + 1 / 2)]
  · constructor <;> linarith [Int.le_ceil (q - 1 / 2), Int.ceil_lt_add_one (q - 1 / 2)]

/-- The integers that `std::round` reaches. -/
theorem le_roundAway_iff {q : ℚ} (h : 0 ≤ q) (k : ℤ) :
    k ≤ roundAway q ↔ (k : ℚ) - 1 / 2 ≤ q := by
  unfold roundAway
  rw [if_pos h, Int.le_floor, sub_le_iff_le_add]

/-- The nearest integer of a non-negative number, ties to even, as the stream rounds. -/
def roundEven (q : ℚ) : ℕ :=
  let n := ⌊q⌋₊
  let rest := q - n
  if rest < 1 / 2 then n
  else if 1 / 2 < rest then n + 1
  else if n % 2 = 0 then n else n + 1

/-- The decimal digits of a number of hundred-millionths, eight of them after the point. -/
def fixedDigits (units : ℕ) : List Char :=
  Nat.toDigits 10 (units / 10 ^ 8) ++ '.' :: (Nat.toDigits 10 (units % 10 ^ 8)).leftpad 8 '0'

/-- The stream's fixed format with eight decimals; a negative number keeps its sign
even when all digits are zero. -/
def fixedRat (q : ℚ) : String :=
  String.ofList ((if q < 0 then ['-'] else []) ++ fixedDigits (roundEven (|q| * 10 ^ 8)))

/-- The number a run of decimal digits spells. -/
def digitsValue (digits : List Char) : ℕ :=
  digits.foldl (fun acc c ↦ acc * 10 + (c.toNat - '0'.toNat)) 0

/-- The number an unsigned decimal numeral spells. -/
def unsignedValue (text : List Char) : ℚ :=
  let whole := text.takeWhile (· ≠ '.')
  let fraction := (text.dropWhile (· ≠ '.')).drop 1
  (digitsValue (whole ++ fraction) : ℚ) / 10 ^ fraction.length

/-- `std::stod` on a decimal numeral, read exactly. -/
def stodRat (s : String) : ℚ :=
  match s.toList with
  | '-' :: text => -unsignedValue text
  | text => unsignedValue text

/-- The exact reading of doubles. -/
instance exact : Double ℚ where
  lit q := q
  gt a b := b < a
  ge a b := b ≤ a
  eq a b := a = b
  mul a b := a * b
  div a b := a / b
  sub a b := a - b
  abs a := |a|
  floor a := ⌊a⌋
  round a := roundAway a
  floorLog10 a := Int.log 10 a
  pow10 n := 10 ^ n
  fixed8 := fixedRat
  stod := stodRat

end Double
end Hyperliquid.Base
