import Hyperliquid.Gateway.SentTexts
import Hyperliquid.Tools.CreatedOrders
import Hyperliquid.Tools.RoundedPrices
import Hyperliquid.Tools.WireNumerals

/-!
# Created orders as the exchange reads them

What `Encoder::create_order`, `src/roq/hyperliquid/tools/encoder.cpp:135–174`, makes of an order
with `Conversions`, `src/roq/hyperliquid/tools/conversions.cpp`, read back from the text that is
sent over either transport. In exact arithmetic nothing is lost but by the rounding of the price
and the size.
-/

namespace Hyperliquid.Gateway

open Hyperliquid.Base Hyperliquid.Base.JsonDocument Hyperliquid.Oms Hyperliquid.Tools
  Hyperliquid.Tools.Encoder

/-- The type of an order, as the exchange reads it. -/
inductive ReadType where
  | market
  | limit (tif : String)
  deriving DecidableEq, Repr

/-- An order, as the exchange reads it. -/
structure ReadOrder where
  asset : Int
  isBuy : Bool
  price : ℚ
  size : ℚ
  reduceOnly : Bool
  orderType : ReadType
  cloid : String
  deriving DecidableEq, Repr

/-- The number that a text spells without superfluous digits. -/
def readNumber? (text : String) : Option ℚ :=
  if Numerals.isCanonical text.toList then some (Double.stodRat text) else none

def readType? (orderType : Tree) : Option ReadType :=
  match member? "isMarket" orderType, (member? "limit" orderType).bind (member? "tif") with
  | some (.boolean true), none => some .market
  | none, some (.string tif) => some (.limit tif)
  | _, _ => none

/-- The order that the exchange reads from the members of an object. -/
def readMembers? (order : Tree) : Option ReadOrder :=
  match member? "a" order, member? "b" order, member? "r" order, member? "c" order with
  | some (.integer asset), some (.boolean isBuy), some (.boolean reduceOnly),
      some (.string cloid) =>
    match member? "p" order, member? "s" order with
    | some (.string price), some (.string size) => do
      let price ← readNumber? price
      let size ← readNumber? size
      let orderType ← member? "t" order >>= readType?
      pure { asset, isBuy, price, size, reduceOnly, orderType, cloid }
    | _, _ => none
  | _, _, _, _ => none

/-- The order that the exchange reads from an action that creates one order. -/
def readOrder? (action : Tree) : Option ReadOrder :=
  match member? "type" action, member? "orders" action with
  | some (.string "order"), some (.array [order]) => readMembers? order
  | _, _ => none

/-- The type of an order that is created. -/
def meantType (lib : Library) (createOrder : CreateOrder ℚ) : ReadType :=
  if createOrder.orderType = .market then .market
  else
    .limit (lib.asRawText
      (if createOrder.executionInstructions.participateDoNotInitiate then .alo
      else mapTimeInForce createOrder.timeInForce))

/-- The order that is meant: its price and its size are rounded. -/
def meantOrder (lib : Library) (createOrder : CreateOrder ℚ) (refData : RefData)
    (requestId : String) : ReadOrder where
  asset := refData.externalSecurityId.toNat
  isBuy := createOrder.side = .buy
  price := wirePrice createOrder refData
  size := wireSize createOrder refData
  reduceOnly := createOrder.executionInstructions.doNotIncrease
  orderType := meantType lib createOrder
  cloid := formatCloid requestId

/-! ## Numbers -/

/-- A number with at most eight decimals is read back from its text. -/
theorem exists_readNumber?_of_mem {point : ℚ} (h : point ∈ Grid 10 (-8)) :
    ∃ text, Conversions.floatToWire point = .ok text ∧ readNumber? text = some point := by
  obtain ⟨units, rfl⟩ := Conversions.mem_grid_iff.mp h
  refine ⟨String.ofList (Numerals.canonical units), Conversions.floatToWire_of_near ?_, ?_⟩
  · rw [sub_self, abs_zero]
    norm_num
  · rw [readNumber?, String.toList_ofList, Numerals.isCanonical_canonical, if_pos rfl,
      Numerals.stodRat_canonical]

variable {createOrder : CreateOrder ℚ} {refData : RefData}

private theorem exists_wirePrice (createOrder : CreateOrder ℚ)
    (hnonneg : 0 ≤ refData.quantityDecimals)
    (hle : refData.quantityDecimals ≤ Conversions.maxDecimals (isSpot refData)) :
    ∃ text, Conversions.floatToWire (wirePrice createOrder refData) = .ok text ∧
      readNumber? text = some (wirePrice createOrder refData) := by
  have hmax := Conversions.maxDecimals_le (isSpot refData)
  exact exists_readNumber?_of_mem
    (Grid.anti (by omega) (by omega) (Conversions.roundPrice_mem hle))

private theorem exists_wireSize (createOrder : CreateOrder ℚ)
    (hle : refData.quantityDecimals ≤ Conversions.maxDecimals (isSpot refData)) :
    ∃ text, Conversions.floatToWire (wireSize createOrder refData) = .ok text ∧
      readNumber? text = some (wireSize createOrder refData) := by
  have hmax := Conversions.maxDecimals_le (isSpot refData)
  exact exists_readNumber?_of_mem
    (Grid.anti (by omega) (by omega) (Conversions.roundSize_mem _ _))

/-- The type is read back. -/
theorem readType?_of_ok {lib : Library} {orderType : Json}
    (h : orderTypeHelper2 lib createOrder = .ok orderType) :
    readType? orderType.toTree = some (meantType lib createOrder) := by
  unfold orderTypeHelper2 at h
  unfold meantType
  cases hcase : createOrder.orderType with
  | undefined =>
    rw [hcase] at h
    cases h
  | market =>
    rw [hcase] at h
    rw [← Except.ok.inj h]
    rfl
  | limit =>
    rw [hcase] at h
    rw [← Except.ok.inj h]
    rfl

private theorem isBuyHelper_eq {side : Side} {isBuy : Bool} (h : isBuyHelper side = .ok isBuy) :
    isBuy = decide (side = .buy) := by
  cases side with
  | undefined => cases h
  | buy => exact (Except.ok.inj h).symm
  | sell => exact (Except.ok.inj h).symm

/-- The order of an action is read as it was meant. -/
theorem exists_createOrderAction (lib : Library) (requestId : String)
    (hside : createOrder.side ≠ .undefined) (htype : createOrder.orderType ≠ .undefined)
    (hnonneg : 0 ≤ refData.quantityDecimals)
    (hle : refData.quantityDecimals ≤ Conversions.maxDecimals (isSpot refData)) :
    ∃ action, createOrderAction lib createOrder refData requestId = .ok action ∧
      readOrder? action.toTree = some (meantOrder lib createOrder refData requestId) := by
  obtain ⟨isBuy, hisBuy⟩ := exists_isBuyHelper hside
  obtain ⟨orderType, horderType⟩ := exists_orderTypeHelper2 lib htype
  obtain ⟨price, hprice, hpriceRead⟩ := exists_wirePrice createOrder hnonneg hle
  obtain ⟨size, hsize, hsizeRead⟩ := exists_wireSize createOrder hle
  unfold wirePrice at hprice
  unfold wireSize at hsize
  simp only [createOrderAction, hisBuy, horderType, hprice, hsize]
  refine ⟨_, rfl, ?_⟩
  show (readNumber? price).bind (fun price ↦ (readNumber? size).bind fun size ↦
    (readType? orderType.toTree).bind fun orderType ↦ some _) = _
  rw [hpriceRead, hsizeRead, readType?_of_ok horderType, isBuyHelper_eq hisBuy]
  rfl

end Hyperliquid.Gateway
