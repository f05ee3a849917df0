import Hyperliquid.Base.Double
import Hyperliquid.Base.Procedure

/-!
# Price and size conversions

`src/roq/hyperliquid/tools/conversions.cpp`: rounding of prices and sizes to the
exchange's grid and the decimal text sent on the wire. All three functions are generic
in the doubles, see `Hyperliquid.Base.Double`.
-/

namespace Hyperliquid.Tools.Conversions

open Hyperliquid.Base

variable {F : Type} [Double F]

open Double in
/-- `Conversions::roundPrice`, `conversions.cpp:17–44`. -/
def roundPrice (price : F) (szDecimals : ℤ) (isSpot : Bool) : F :=
  -- integer prices above 100k are always allowed
  if gt price (lit 100000) && eq price (floor price) then price
  else
    let magnitude : ℤ := if eq price (lit 0) then 0 else floorLog10 (abs price)
    let sigFigs : ℤ := 5
    let scale : F := pow10 (magnitude - (sigFigs - 1))
    let sigFigsPrice := mul (round (div price scale)) scale
    let maxDecimals : ℤ := if isSpot then 8 else 6
    let decimals := maxDecimals - szDecimals
    let multiplier : F := pow10 decimals
    div (round (mul sigFigsPrice multiplier)) multiplier

open Double in
/-- `Conversions::roundSize`, `conversions.cpp:46–50`. -/
def roundSize (size : F) (szDecimals : ℤ) : F :=
  let multiplier : F := pow10 szDecimals
  div (round (mul size multiplier)) multiplier

/-- `rounded.find_last_not_of('0')`. -/
def findLastNotZero (chars : List Char) : Option ℕ :=
  (chars.reverse.findIdx? (· ≠ '0')).map fun i ↦ chars.length - 1 - i

/-- The normalisation at the end of `floatToWire`, `conversions.cpp:69–81`: cut after the
last non-zero digit, then drop a final point. Without a point nothing is cut. -/
def normalize (chars : List Char) : List Char :=
  match chars.idxOf? '.' with
  | none => chars
  | some decimalPos =>
    let cut :=
      match findLastNotZero chars with
      | some lastNonzero => if decimalPos ≤ lastNonzero then chars.take (lastNonzero + 1) else chars
      -- `npos` is not below `decimal_pos`, and `npos + 1` is zero
      | none => []
    if cut.getLast? = some '.' then cut.dropLast else cut

open Double in
/-- `Conversions::floatToWire`, `conversions.cpp:52–84`. -/
def floatToWire (value : F) : Except (Failure String) String :=
  let rounded := fixed8 value
  let back : F := stod rounded
  if ge (abs (sub back value)) (lit (1 / 10 ^ 12)) then
    .error (.thrown "floatToWire causes rounding")
  else
    let rounded := if rounded = "-0.00000000" then "0.00000000" else rounded
    .ok (String.ofList (normalize rounded.toList))

end Hyperliquid.Tools.Conversions
