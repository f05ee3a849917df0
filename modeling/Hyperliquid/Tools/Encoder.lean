import Hyperliquid.Base.OrderedJson
import Hyperliquid.Oms.Types
import Hyperliquid.Tools.Conversions

/-!
# Signed actions

`src/roq/hyperliquid/tools/encoder.cpp`: the JSON actions for new and cancelled orders,
and the bytes that are signed for them. The signed bytes are the MessagePack form of the
action, the nonce, the vault byte and, under a condition, an expiry.
-/

namespace Hyperliquid.Tools.Encoder

open Hyperliquid.Base Hyperliquid.Base.MessagePack Hyperliquid.Oms

/-- What the encoder uses of libraries outside the repository. -/
structure Library where
  /-- `utils::charconv::from_chars<int64_t>`; the error is the exception it throws. -/
  fromChars : String → Except String Int64
  /-- `as_raw_text` of an undefined `json::TimeInForce`. -/
  undefinedRawText : String
  /-- `nlohmann::ordered_json::dump`. -/
  dump : Json → String

/-- `protocol::json::TimeInForce`, `time_in_force.json`. -/
inductive JsonTimeInForce where
  | undefinedInternal
  | alo
  | ioc
  | gtc
  deriving DecidableEq, Repr

/-- `map` on `roq::TimeInForce`, `map.cpp:149–184`. -/
def mapTimeInForce : TimeInForce → JsonTimeInForce
  | .gtc => .gtc
  | .ioc => .ioc
  | _ => .undefinedInternal

/-- `as_raw_text` of `json::TimeInForce`. -/
def Library.asRawText (lib : Library) : JsonTimeInForce → String
  | .undefinedInternal => lib.undefinedRawText
  | .alo => "Alo"
  | .ioc => "Ioc"
  | .gtc => "Gtc"

/-- `is_buy_helper`, `encoder.cpp:32–43`. -/
def isBuyHelper : Side → Except (Failure String) Bool
  | .undefined => .error (.fatal "Unexpected")
  | .buy => .ok true
  | .sell => .ok false

/-- `order_type_helper_2`, `encoder.cpp:45–71`. -/
def orderTypeHelper2 {F : Type} (lib : Library) (order : CreateOrder F) :
    Except (Failure String) Json :=
  match order.orderType with
  | .undefined => .error (.fatal "Unexpected")
  | .market => .ok (.object [("isMarket", .boolean true)])
  | .limit =>
    let tif :=
      if order.executionInstructions.participateDoNotInitiate then .alo
      else mapTimeInForce order.timeInForce
    .ok (.object [("limit", .object [("tif", .string (lib.asRawText tif))])])

mutual
/-- `pack_json`, `encoder.cpp:73–98`. `is_number_integer` is also true of unsigned
numbers and is tested first, so these are packed through `get<int64_t>`. -/
def packJson : Json → List UInt8
  | .null => packNil
  | .boolean value => packBool value
  | .integer value => packInt value.toInt
  | .unsigned value => packInt value.toInt64.toInt
  | .float bits => packFloat64 bits
  | .string value => packStr (Json.stringBytes value)
  | .array items => packArray items.length ++ packItems items
  | .object members => packMap members.length ++ packMembers members
/-- The loop over the items of an array. -/
def packItems : List Json → List UInt8
  | [] => []
  | item :: items => packJson item ++ packItems items
/-- The loop over the members of an object. -/
def packMembers : List (String × Json) → List UInt8
  | [] => []
  | (key, value) :: members =>
    packStr (Json.stringBytes key) ++ packJson value ++ packMembers members
end

/-- `pack_helper`, `encoder.cpp:100–130`, on a little-endian host. Times are counts of
milliseconds. -/
def packHelper (action : Json) (nowUtc expiresAfterUtc : Int64) : List UInt8 :=
  packJson action ++ BigEndian.shiftBytes nowUtc ++ [0x00] ++
    (if expiresAfterUtc ≠ 0 ∧ expiresAfterUtc ≠ nowUtc then
      0x00 :: BigEndian.shiftBytes expiresAfterUtc
    else [])

/-- The pair an encoder returns: the action, whose text is its `dump`, and the bytes. -/
structure Encoded where
  action : Json
  packed : List UInt8

/-- `fmt::format("0x{:0>32}", id)`. -/
def formatCloid (id : String) : String := "0x" ++ String.ofList (id.toList.leftpad 32 '0')

/-- `auto is_spot = ref_data.external_security_id >= 10000`, `encoder.cpp:147`. -/
def isSpot (refData : RefData) : Bool := 10000 ≤ refData.externalSecurityId

/-- `nlohmann` keeps an unsigned 32-bit number as an unsigned number. -/
def assetJson (refData : RefData) : Json := .unsigned refData.externalSecurityId.toUInt64

section

variable {F : Type} [Double F]

/-- The action of `Encoder::create_order`, `encoder.cpp:142–170`. -/
def createOrderAction (lib : Library) (createOrder : CreateOrder F) (refData : RefData)
    (requestId : String) : Except (Failure String) Json := do
  let isBuy ← isBuyHelper createOrder.side
  let reduceOnly := createOrder.executionInstructions.doNotIncrease
  let cloid := formatCloid requestId
  let orderType ← orderTypeHelper2 lib createOrder
  let szDecimals := refData.quantityDecimals
  let price ← Conversions.floatToWire
    (Conversions.roundPrice createOrder.price szDecimals (isSpot refData))
  let size ← Conversions.floatToWire (Conversions.roundSize createOrder.quantity szDecimals)
  let order : Json := .object
    [("a", assetJson refData), ("b", .boolean isBuy), ("p", .string price),
      ("s", .string size), ("r", .boolean reduceOnly), ("t", orderType),
      ("c", .string cloid)]
  pure (.object
    [("type", .string "order"), ("orders", .array [order]), ("grouping", .string "na")])

/-- `Encoder::create_order`, `encoder.cpp:135–174`. -/
def createOrder (lib : Library) (createOrder : CreateOrder F) (refData : RefData)
    (requestId : String) (nowUtc expiresAfterUtc : Int64) :
    Except (Failure String) Encoded := do
  let action ← createOrderAction lib createOrder refData requestId
  pure ⟨action, packHelper action nowUtc expiresAfterUtc⟩

/-- `Encoder::modify_order`, `encoder.cpp:177–201`: it only throws. -/
def modifyOrder : Except (Failure String) Encoded := .error (.thrown "not supported")

/-- The action of `Encoder::cancel_order`, `encoder.cpp:218–251`: by client id while the
order has no external id, else by the exchange's number. -/
def cancelOrderAction (lib : Library) (order : Order) (refData : RefData) :
    Except (Failure String) Json :=
  if order.externalOrderId.isEmpty then
    let cancel : Json := .object
      [("asset", assetJson refData), ("cloid", .string (formatCloid order.clientOrderId))]
    pure (.object [("type", .string "cancelByCloid"), ("cancels", .array [cancel])])
  else
    match lib.fromChars order.externalOrderId with
    | .error what => .error (.thrown what)
    | .ok oid =>
      let cancel : Json := .object [("a", assetJson refData), ("o", .integer oid)]
      pure (.object [("type", .string "cancel"), ("cancels", .array [cancel])])

/-- `Encoder::cancel_order`, `encoder.cpp:205–253`. -/
def cancelOrder (lib : Library) (order : Order) (refData : RefData)
    (nowUtc expiresAfterUtc : Int64) : Except (Failure String) Encoded := do
  let action ← cancelOrderAction lib order refData
  pure ⟨action, packHelper action nowUtc expiresAfterUtc⟩

/-- The order of an action of `create_order`. -/
def createdOrder? (action : Json) : Option Json :=
  (action.member? "orders").bind fun orders ↦ orders.item? 0

/-- The price of an action of `create_order`. -/
def createdPrice? (action : Json) : Option Json :=
  (createdOrder? action).bind fun order ↦ order.member? "p"

/-- The asset of an action of `create_order`. -/
def createdAsset? (action : Json) : Option Json :=
  (createdOrder? action).bind fun order ↦ order.member? "a"

/-- The asset of an action of `cancel_order`, under the name its type gives it. -/
def cancelledAsset? (action : Json) : Option Json :=
  ((action.member? "cancels").bind fun cancels ↦ cancels.item? 0).bind fun cancel ↦
    if action.member? "type" matches some (.string "cancelByCloid") then cancel.member? "asset"
    else cancel.member? "a"

/-- What an action of `create_order` is made of. -/
theorem createOrderAction_eq_ok {lib : Library} {createOrder : CreateOrder F}
    {refData : RefData} {requestId : String} {action : Json}
    (h : createOrderAction lib createOrder refData requestId = .ok action) :
    ∃ isBuy orderType price size,
      isBuyHelper createOrder.side = .ok isBuy ∧
      orderTypeHelper2 lib createOrder = .ok orderType ∧
      Conversions.floatToWire (Conversions.roundPrice createOrder.price
        refData.quantityDecimals (isSpot refData)) = .ok price ∧
      Conversions.floatToWire (Conversions.roundSize createOrder.quantity
        refData.quantityDecimals) = .ok size ∧
      createdOrder? action = some (.object
        [("a", assetJson refData), ("b", .boolean isBuy), ("p", .string price),
          ("s", .string size),
          ("r", .boolean createOrder.executionInstructions.doNotIncrease),
          ("t", orderType), ("c", .string (formatCloid requestId))]) := by
  obtain ⟨isBuy, hisBuy, h⟩ := bind_eq_ok.mp h
  obtain ⟨orderType, horderType, h⟩ := bind_eq_ok.mp h
  obtain ⟨price, hprice, h⟩ := bind_eq_ok.mp h
  obtain ⟨size, hsize, h⟩ := bind_eq_ok.mp h
  refine ⟨isBuy, orderType, price, size, hisBuy, horderType, hprice, hsize, ?_⟩
  rw [← Except.ok.inj h]
  rfl

/-- When its parts can be encoded there is an action. -/
theorem createOrderAction_of_parts {lib : Library} {createOrder : CreateOrder F}
    {refData : RefData} (requestId : String) {isBuy : Bool} {orderType : Json}
    {price size : String} (hisBuy : isBuyHelper createOrder.side = .ok isBuy)
    (horderType : orderTypeHelper2 lib createOrder = .ok orderType)
    (hprice : Conversions.floatToWire (Conversions.roundPrice createOrder.price
      refData.quantityDecimals (isSpot refData)) = .ok price)
    (hsize : Conversions.floatToWire (Conversions.roundSize createOrder.quantity
      refData.quantityDecimals) = .ok size) :
    ∃ action, createOrderAction lib createOrder refData requestId = .ok action := by
  simp only [createOrderAction, hisBuy, horderType, hprice, hsize]
  exact ⟨_, rfl⟩

/-- An action of `create_order` sends the id of the reference data. -/
theorem createdAsset?_of_ok {lib : Library} {createOrder : CreateOrder F} {refData : RefData}
    {requestId : String} {action : Json}
    (h : createOrderAction lib createOrder refData requestId = .ok action) :
    createdAsset? action = some (assetJson refData) := by
  obtain ⟨isBuy, orderType, price, size, _, _, _, _, horder⟩ := createOrderAction_eq_ok h
  rw [createdAsset?, horder]
  rfl

/-- An action of `create_order` sends the price rounded for the market read from the id. -/
theorem createdPrice?_of_ok {lib : Library} {createOrder : CreateOrder F} {refData : RefData}
    {requestId : String} {action : Json}
    (h : createOrderAction lib createOrder refData requestId = .ok action) :
    ∃ price, Conversions.floatToWire (Conversions.roundPrice createOrder.price
        refData.quantityDecimals (isSpot refData)) = .ok price ∧
      createdPrice? action = some (.string price) := by
  obtain ⟨isBuy, orderType, price, size, _, _, hprice, _, horder⟩ := createOrderAction_eq_ok h
  refine ⟨price, hprice, ?_⟩
  rw [createdPrice?, horder]
  rfl

omit [Double F] in
/-- An action of `cancel_order` sends the id of the reference data. -/
theorem cancelledAsset?_of_ok {lib : Library} {order : Order} {refData : RefData}
    {action : Json} (h : cancelOrderAction lib order refData = .ok action) :
    cancelledAsset? action = some (assetJson refData) := by
  unfold cancelOrderAction at h
  split at h
  · rw [← Except.ok.inj h]
    rfl
  · cases hoid : lib.fromChars order.externalOrderId with
    | error what =>
      rw [hoid] at h
      cases h
    | ok oid =>
      rw [hoid] at h
      rw [← Except.ok.inj h]
      rfl

end

end Hyperliquid.Tools.Encoder
