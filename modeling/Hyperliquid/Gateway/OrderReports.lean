import Hyperliquid.Base.Replica
import Hyperliquid.Gateway.ClientOrderIds
import Hyperliquid.Gateway.MarketByPrice
import Hyperliquid.Gateway.MarketData
import Hyperliquid.Gateway.SentTexts

/-!
# Reported orders

The exchange reports an order on four ways: the order updates of the drop copy and of the web
socket, `src/roq/hyperliquid/gateway/drop_copy.cpp:375–439` and
`src/roq/hyperliquid/gateway/web_socket.cpp:387–451`, and the replies to two requests,
`src/roq/hyperliquid/gateway/order_entry.cpp:413–462, 523–571`. All become order updates, which
carry the exchange's id as a text. A cancellation turns the text back into the id.
-/

namespace Hyperliquid.Gateway

open Hyperliquid.Base Hyperliquid.Base.JsonDocument Hyperliquid.Oms Hyperliquid.Tools
  Hyperliquid.Tools.Encoder
open Hyperliquid.Gateway.MarketData (JsonSide mapSide UpdateType)

/-- `protocol::json::OrderStatus`, `order_status.json`. -/
inductive JsonOrderStatus where
  | undefinedInternal
  | unknownInternal
  | open
  | filled
  | canceled
  | minTradeNtlRejected
  | iocCancelRejected
  | perpMarginRejected
  | badAloPxRejected
  | reduceOnlyCanceled
  deriving DecidableEq, Repr

/-- `map` on `json::OrderStatus`, `map.cpp:75–100`. -/
def mapOrderStatus : JsonOrderStatus → OrderStatus
  | .undefinedInternal => .undefined
  | .unknownInternal => .undefined
  | .open => .working
  | .filled => .completed
  | .canceled => .canceled
  | .minTradeNtlRejected => .rejected
  | .iocCancelRejected => .rejected
  | .perpMarginRejected => .rejected
  | .badAloPxRejected => .rejected
  | .reduceOnlyCanceled => .canceled

/-- `protocol::json::OrderType`, `order_type.json`. -/
inductive JsonOrderType where
  | undefinedInternal
  | unknownInternal
  | limit
  deriving DecidableEq, Repr

/-- `map` on `json::OrderType`, `map.cpp:20–31`. -/
def mapOrderType : JsonOrderType → Oms.OrderType
  | .undefinedInternal => .undefined
  | .unknownInternal => .undefined
  | .limit => .limit

/-- The fields that the handlers read of an order: `OrderUpdatesDataItemOrder`,
`GetOpenOrdersAckItem` and `GetOrderStatusAckOrderOrder`. The time is a count of milliseconds. -/
structure OrderItem (F : Type) where
  coin : String
  side : JsonSide
  limitPx : F
  sz : F
  oid : Int64
  timestamp : Int64
  origSz : F
  cloid : String

/-- `protocol::json::OrderUpdatesDataItem`. -/
structure OrderUpdatesDataItem (F : Type) where
  order : OrderItem F
  status : JsonOrderStatus
  statusTimestamp : Int64

/-- `protocol::json::GetOrderStatusAckOrder`. -/
structure GetOrderStatusAck (F : Type) where
  order : OrderItem F
  orderType : JsonOrderType
  status : JsonOrderStatus

/-- `server::oms::OrderUpdate`, without the fields that are always empty. An error that is not
there is the default. -/
structure OrderUpdate (F : Type) where
  account : String
  exchange : String
  symbol : String
  side : Side
  orderType : Oms.OrderType
  timeInForce : TimeInForce
  createTimeUtc : Int64
  updateTimeUtc : Int64
  externalOrderId : String
  clientOrderId : String
  orderStatus : OrderStatus
  error : Option Oms.Error
  text : String
  quantity : F
  price : F
  remainingQuantity : F
  tradedQuantity : F
  updateType : UpdateType

/-- What the handlers read beside the messages. -/
structure ReportEnv where
  /-- `account_.name` -/
  account : String
  settings : Settings
  /-- `as_raw_text` of a status that the exchange does not name -/
  internalRawText : JsonOrderStatus → String

/-- `as_raw_text` of `json::OrderStatus`. -/
def ReportEnv.asRawText (env : ReportEnv) : JsonOrderStatus → String
  | .open => "open"
  | .filled => "filled"
  | .canceled => "canceled"
  | .minTradeNtlRejected => "minTradeNtlRejected"
  | .iocCancelRejected => "iocCancelRejected"
  | .perpMarginRejected => "perpMarginRejected"
  | .badAloPxRejected => "badAloPxRejected"
  | .reduceOnlyCanceled => "reduceOnlyCanceled"
  | status => env.internalRawText status

/-- `fmt::format("{}", oid)`. -/
def externalOrderId (oid : Int64) : String := toString oid.toInt

variable {F : Type} [Double F]

/-- The update for an order of `GetOpenOrdersAck`, `order_entry.cpp:416–461`. -/
def OrderItem.openOrder (env : ReportEnv) (item : OrderItem F) : OrderUpdate F where
  account := env.account
  exchange := getExchangeFromCoin item.coin env.settings
  symbol := item.coin
  side := mapSide item.side
  orderType := .limit
  timeInForce := .gtc
  createTimeUtc := 0
  updateTimeUtc := 0
  externalOrderId := externalOrderId item.oid
  clientOrderId := getClientOrderId item.cloid
  orderStatus := .working
  error := none
  text := ""
  quantity := item.origSz
  price := item.limitPx
  remainingQuantity := item.sz
  tradedQuantity := Double.sub item.origSz item.sz
  updateType := .snapshot

/-- The update for an item of `OrderUpdates`, `drop_copy.cpp:379–437` and
`web_socket.cpp:391–449`. -/
def OrderUpdatesDataItem.orderUpdate (env : ReportEnv) (item : OrderUpdatesDataItem F) :
    OrderUpdate F :=
  let orderStatus := mapOrderStatus item.status
  { account := env.account
    exchange := getExchangeFromCoin item.order.coin env.settings
    symbol := item.order.coin
    side := mapSide item.order.side
    orderType := .limit
    timeInForce := .gtc
    createTimeUtc := item.order.timestamp * 1000000
    updateTimeUtc := item.statusTimestamp * 1000000
    externalOrderId := externalOrderId item.order.oid
    clientOrderId := getClientOrderId item.order.cloid
    orderStatus
    error := if orderStatus = .rejected then some .unknown else none
    text := if orderStatus = .rejected then env.asRawText item.status else ""
    quantity := item.order.origSz
    price := item.order.limitPx
    remainingQuantity := item.order.sz
    tradedQuantity := Double.sub item.order.origSz item.order.sz
    updateType := .incremental }

/-- The update of `GetOrderStatusAck`, `order_entry.cpp:526–570`. -/
def GetOrderStatusAck.orderUpdate (env : ReportEnv) (ack : GetOrderStatusAck F) :
    OrderUpdate F :=
  { ack.order.openOrder env with
    orderType := mapOrderType ack.orderType
    orderStatus := mapOrderStatus ack.status }

/-- A message that reports orders. -/
inductive Report (F : Type) where
  | dropCopy (items : List (OrderUpdatesDataItem F))
  | webSocket (items : List (OrderUpdatesDataItem F))
  | openOrders (items : List (OrderItem F))
  | orderStatus (ack : GetOrderStatusAck F)

/-- The loops of the handlers: the updates of a message, in order. -/
def Report.publish (env : ReportEnv) : Report F → List (OrderUpdate F)
  | dropCopy items => items.map (·.orderUpdate env)
  | webSocket items => items.map (·.orderUpdate env)
  | openOrders items => items.map (·.openOrder env)
  | orderStatus ack => [ack.orderUpdate env]

/-! ## One order in many reports -/

/-- An order as one of the handlers reads it. -/
inductive Reported (F : Type) where
  | update (item : OrderUpdatesDataItem F)
  | openOrder (item : OrderItem F)
  | status (ack : GetOrderStatusAck F)

namespace Reported

def order : Reported F → OrderItem F
  | update item => item.order
  | openOrder item => item
  | status ack => ack.order

def orderUpdate (env : ReportEnv) : Reported F → OrderUpdate F
  | update item => item.orderUpdate env
  | openOrder item => item.openOrder env
  | status ack => ack.orderUpdate env

private theorem externalOrderId_orderUpdate (env : ReportEnv) (reported : Reported F) :
    (reported.orderUpdate env).externalOrderId = externalOrderId reported.order.oid := by
  cases reported <;> rfl

private theorem clientOrderId_orderUpdate (env : ReportEnv) (reported : Reported F) :
    (reported.orderUpdate env).clientOrderId = getClientOrderId reported.order.cloid := by
  cases reported <;> rfl

end Reported

/-- The orders of a message. -/
def Report.reported : Report F → List (Reported F)
  | dropCopy items => items.map .update
  | webSocket items => items.map .update
  | openOrders items => items.map .openOrder
  | orderStatus ack => [.status ack]

private theorem Report.publish_eq (env : ReportEnv) (report : Report F) :
    report.publish env = report.reported.map (·.orderUpdate env) := by
  cases report <;> simp [publish, reported, Reported.orderUpdate]

/-- What has been published after some messages. -/
def published (env : ReportEnv) (reports : List (Report F)) : List (OrderUpdate F) :=
  reports.flatMap (·.publish env)

/-- The orders of some messages. -/
def allReported (reports : List (Report F)) : List (Reported F) := reports.flatMap (·.reported)

private theorem published_eq (env : ReportEnv) (reports : List (Report F)) :
    published env reports = (allReported reports).map (·.orderUpdate env) := by
  simp only [published, allReported, List.map_flatMap, Report.publish_eq]

/-- The text of an id tells the id. -/
theorem externalOrderId_inj {oid oid' : Int64} :
    externalOrderId oid = externalOrderId oid' ↔ oid = oid' := by
  constructor
  · intro h
    have hread := integer?_toString oid.toInt
    rw [show toString oid.toInt = toString oid'.toInt from h, integer?_toString] at hread
    exact Int64.toInt_inj.mp (Option.some.inj hread).symm
  · exact congrArg externalOrderId

/-- A consumer that keeps the last update of each external id. -/
def orderView (updates : List (OrderUpdate F)) : String → Option (OrderUpdate F) :=
  Replica.replay (updates.map fun update ↦ (update.externalOrderId, update))

/-- In any interleaving of the four ways a consumer's view of an order is what the last message
about that order says, and no other order has a part in it. -/
theorem orderView_published (env : ReportEnv) (reports : List (Report F)) (oid : Int64) :
    orderView (published env reports) (externalOrderId oid) =
      ((allReported reports).filter (·.order.oid = oid)).getLast?.map (·.orderUpdate env) := by
  have hview := Replica.replay_map_filter (fun _ ↦ true)
    (fun reported : Reported F ↦
      ((reported.orderUpdate env).externalOrderId, reported.orderUpdate env))
    (allReported reports) (externalOrderId oid)
  simp only [List.filter_true, Bool.true_and, Reported.externalOrderId_orderUpdate,
    externalOrderId_inj] at hview
  rw [← hview, orderView, published_eq, List.map_map]
  congr 1
  apply List.map_congr_left
  intro reported _
  simp only [Function.comp, Reported.externalOrderId_orderUpdate]

/-! ## Cancellations of reported orders -/

/-- The external id of an order is that of an update with its client id. -/
def Informed (updates : List (OrderUpdate F)) (order : Order) : Prop :=
  ∃ update ∈ updates,
    update.externalOrderId = order.externalOrderId ∧ update.clientOrderId = order.clientOrderId

/-- What an order knows has been reported. -/
theorem exists_reported_of_informed {reportEnv : ReportEnv} {reports : List (Report F)}
    {order : Order} (h : Informed (published reportEnv reports) order) :
    ∃ reported ∈ allReported reports,
      order.externalOrderId = externalOrderId reported.order.oid ∧
        getClientOrderId reported.order.cloid = order.clientOrderId := by
  obtain ⟨update, hupdate, hexternal, hclient⟩ := h
  rw [published_eq, List.mem_map] at hupdate
  obtain ⟨reported, hreported, rfl⟩ := hupdate
  rw [Reported.externalOrderId_orderUpdate] at hexternal
  rw [Reported.clientOrderId_orderUpdate] at hclient
  exact ⟨reported, hreported, hexternal.symm, hclient⟩

/-- How the exchange is told of an order. -/
inductive OrderName where
  | oid (value : Int)
  | cloid (text : String)
  deriving DecidableEq, Repr

/-- The order that the exchange reads from an action that cancels one order. -/
def cancelledOrder? (action : Tree) : Option OrderName :=
  match member? "cancels" action with
  | some (.array [cancel]) =>
    match member? "o" cancel, member? "cloid" cancel with
    | some (.integer value), none => some (.oid value)
    | none, some (.string text) => some (.cloid text)
    | _, _ => none
  | _ => none

omit [Double F] in
private theorem externalOrderId_ne_empty (oid : Int64) : externalOrderId oid ≠ "" := by
  intro h
  have hread := integer?_toString oid.toInt
  rw [show toString oid.toInt = "" from h] at hread
  cases hread

/-- An identifier is printed with at least one digit. -/
theorem isEmpty_externalOrderId (oid : Int64) : (externalOrderId oid).isEmpty = false := by
  rw [Bool.eq_false_iff, ne_eq, String.isEmpty_iff]
  exact externalOrderId_ne_empty oid

/-- A cancellation names an order by its external id. -/
theorem cancelledOrder?_action {lib : Library}
    (hfromChars : ∀ value : Int64, lib.fromChars (toString value.toInt) = .ok value)
    {order : Order} {refData : RefData} {action : Json} {oid : Int64}
    (hoid : order.externalOrderId = externalOrderId oid)
    (haction : cancelOrderAction lib order refData = .ok action) :
    cancelledOrder? action.toTree = some (.oid oid.toInt) := by
  rw [cancelOrderAction, hoid, isEmpty_externalOrderId, externalOrderId, hfromChars] at haction
  rw [← Except.ok.inj haction]
  rfl

variable (env : Surroundings)

/-- The exchange reads the id from what is sent, on both transports. -/
theorem cancelledOrder?_of_handle (hdump : ∀ tree, tree.exact = true →
      env.lib.dump tree = String.ofList tree.dump)
    (hfromChars : ∀ value : Int64, env.lib.fromChars (toString value.toInt) = .ok value)
    {transport : Transport} {info : MessageInfo} {event : CancelOrder} {order : Order}
    {refData : RefData} {account signer : Crypto} {sent : Sent} {oid : Int64}
    (hoid : order.externalOrderId = externalOrderId oid)
    (hhandle : (OrderRequest.cancel transport info event order refData :
      OrderRequest F).handle env account = .ok (sent, signer)) :
    sent.action?.bind cancelledOrder? = some (.oid oid.toInt) := by
  have hok := hhandle
  rw [OrderRequest.handle_eq] at hok
  cases haction : (OrderRequest.cancel transport info event order refData :
      OrderRequest F).action env with
  | error failure =>
    rw [haction] at hok
    cases hok
  | ok action =>
    rw [action?_of_handle env hdump hhandle haction, Option.bind_some]
    exact cancelledOrder?_action hfromChars hoid haction

end Hyperliquid.Gateway
