import Hyperliquid.Base.Double
import Hyperliquid.Base.Procedure
import Mathlib.Order.TypeTags

/-!
# Tick tables

`src/roq/hyperliquid/tools/tick_size_steps.cpp`: the tick size for each range of prices,
by market and number of size decimals.
-/

namespace Hyperliquid.Tools.TickSizeSteps

open Hyperliquid.Base

/-- `roq::TickSizeStep`; the lowest `min_price`, minus infinity, is `⊥`. -/
structure TickSizeStep (F : Type) where
  minPrice : WithBot F
  tickSize : F

variable {F : Type} [Double F]

/-- A table: the tick size from minus infinity on, then the steps above it. -/
def table (tickSize : ℚ) (steps : List (ℚ × ℚ)) : List (TickSizeStep F) :=
  ⟨⊥, Double.lit tickSize⟩ ::
    steps.map fun step ↦ ⟨((Double.lit step.1 : F) : WithBot F), Double.lit step.2⟩

/-- The rows of all spot tables, `tick_size_steps.cpp:17–87`. -/
def spotRows : List (TickSizeStep F) :=
  table 0.0001 [(10.0, 0.001), (100.0, 0.01), (1000.0, 0.1), (10000.0, 1.0), (100000.0, 10.0)]

/-- `SPOT_0`. -/
def spot0 : List (TickSizeStep F) := spotRows

/-- `SPOT_1`. -/
def spot1 : List (TickSizeStep F) := spotRows

/-- `SPOT_2`. -/
def spot2 : List (TickSizeStep F) := spotRows

/-- `SPOT_3`. -/
def spot3 : List (TickSizeStep F) := spotRows

/-- `SPOT_4`. -/
def spot4 : List (TickSizeStep F) := spotRows

/-- `SPOT_5`. -/
def spot5 : List (TickSizeStep F) := spotRows

/-- `SPOT_6`. -/
def spot6 : List (TickSizeStep F) := spotRows

/-- `SPOT_7`. -/
def spot7 : List (TickSizeStep F) := spotRows

/-- `PERPS_0`, `tick_size_steps.cpp:91–100`. -/
def perps0 : List (TickSizeStep F) :=
  table 0.000001
    [(0.1, 0.00001), (1.0, 0.0001), (10.0, 0.001), (100.0, 0.01), (1000.0, 0.1),
      (10000.0, 1.0), (100000.0, 10.0)]

/-- `PERPS_1`, `tick_size_steps.cpp:102–110`. -/
def perps1 : List (TickSizeStep F) :=
  table 0.00001
    [(1.0, 0.0001), (10.0, 0.001), (100.0, 0.01), (1000.0, 0.1), (10000.0, 1.0),
      (100000.0, 10.0)]

/-- `PERPS_2`, `tick_size_steps.cpp:112–119`. -/
def perps2 : List (TickSizeStep F) :=
  table 0.0001
    [(10.0, 0.001), (100.0, 0.01), (1000.0, 0.1), (10000.0, 1.0), (100000.0, 10.0)]

/-- `PERPS_3`, `tick_size_steps.cpp:121–127`. -/
def perps3 : List (TickSizeStep F) :=
  table 0.001 [(100.0, 0.01), (1000.0, 0.1), (10000.0, 1.0), (100000.0, 10.0)]

/-- `PERPS_4`, `tick_size_steps.cpp:129–134`. -/
def perps4 : List (TickSizeStep F) :=
  table 0.01 [(1000.0, 0.1), (10000.0, 1.0), (100000.0, 10.0)]

/-- `PERPS_5`, `tick_size_steps.cpp:136–140`. -/
def perps5 : List (TickSizeStep F) := table 0.1 [(10000.0, 1.0), (100000.0, 10.0)]

/-- `TickSizeSteps::get`, `tick_size_steps.cpp:145–187`. -/
def get (szDecimals : ℤ) (isSpot : Bool) : Except (Failure String) (List (TickSizeStep F)) :=
  if isSpot then
    match szDecimals with
    | 0 => .ok spot0
    | 1 => .ok spot1
    | 2 => .ok spot2
    | 3 => .ok spot3
    | 4 => .ok spot4
    | 5 => .ok spot5
    | 6 => .ok spot6
    | 7 => .ok spot7
    | _ => .error (.fatal ("Unexpected: sz_decimals=" ++ toString szDecimals))
  else
    match szDecimals with
    | 0 => .ok perps0
    | 1 => .ok perps1
    | 2 => .ok perps2
    | 3 => .ok perps3
    | 4 => .ok perps4
    | 5 => .ok perps5
    | _ => .error (.fatal ("Unexpected: sz_decimals=" ++ toString szDecimals))

end Hyperliquid.Tools.TickSizeSteps
