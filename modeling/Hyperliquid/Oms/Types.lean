/-!
# Order-management types

The types of the trading API and of `server::oms` that the gateway reads and writes,
with the fields it uses. Enumerations list the enumerators named in the sources; a value
the gateway only passes on is `other`.
-/

namespace Hyperliquid.Oms

/-- `roq::Side`. -/
inductive Side where
  | undefined
  | buy
  | sell
  deriving DecidableEq, Repr

/-- `roq::OrderType`. -/
inductive OrderType where
  | undefined
  | market
  | limit
  deriving DecidableEq, Repr

/-- `roq::TimeInForce`, in the order of `map.cpp:149–184`. -/
inductive TimeInForce where
  | undefined
  | gfd
  | gtc
  | opg
  | ioc
  | fok
  | gtx
  | gtd
  | atTheClose
  | goodThroughCrossing
  | atCrossing
  | goodForTime
  | gfa
  | gfm
  deriving DecidableEq, Repr

/-- The two flags of `roq::Mask<ExecutionInstruction>` that are tested with `has`. -/
structure ExecutionInstructions where
  participateDoNotInitiate : Bool := false
  doNotIncrease : Bool := false
  deriving DecidableEq, Repr

/-- `roq::CreateOrder`; prices and quantities are doubles. -/
structure CreateOrder (F : Type) where
  orderId : UInt64
  side : Side
  orderType : OrderType
  timeInForce : TimeInForce
  executionInstructions : ExecutionInstructions := {}
  quantity : F
  price : F

/-- `roq::CancelOrder`. -/
structure CancelOrder where
  orderId : UInt64
  version : UInt32
  deriving DecidableEq, Repr

/-- `server::oms::Order`. -/
structure Order where
  userId : UInt8
  orderId : UInt64
  externalOrderId : String
  clientOrderId : String
  deriving DecidableEq, Repr

/-- `server::oms::RefData`. `quantityDecimals` is what `utils::decimal_digits` reads from
`quantity.precision`. -/
structure RefData where
  externalSecurityId : UInt32
  quantityDecimals : Int
  deriving DecidableEq, Repr

/-- `roq::MessageInfo`; the receive time is a count of nanoseconds. -/
structure MessageInfo where
  source : UInt8
  receiveTimeUtc : Int64
  deriving DecidableEq, Repr

/-- `roq::RequestType`. -/
inductive RequestType where
  | undefined
  | createOrder
  | modifyOrder
  | cancelOrder
  deriving DecidableEq, Repr

/-- `roq::OrderStatus`, with the values that the gateway uses. -/
inductive OrderStatus where
  | undefined
  | working
  | completed
  | canceled
  | rejected
  deriving DecidableEq, Repr

/-- `roq::Origin`. -/
inductive Origin where
  | gateway
  | exchange
  deriving DecidableEq, Repr

/-- `roq::RequestStatus`. -/
inductive RequestStatus where
  | failed
  | rejected
  | error
  | other (code : UInt8)
  deriving DecidableEq, Repr

/-- `roq::Error`. -/
inductive Error where
  | unknown
  | requestRateLimitReached
  | other (code : UInt16)
  deriving DecidableEq, Repr

/-- `server::oms::Response` with the arguments of its dispatch; the fields the gateway
always leaves empty are left out. -/
structure Response where
  requestType : RequestType
  origin : Origin
  requestStatus : RequestStatus
  error : Error
  text : String
  version : UInt32
  streamId : UInt16
  userId : UInt8
  orderId : UInt64
  deriving DecidableEq, Repr

end Hyperliquid.Oms
