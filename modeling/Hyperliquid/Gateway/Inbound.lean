import Hyperliquid.Base.Process
import Hyperliquid.Gateway.OrderReports
import Hyperliquid.Gateway.WebSocketReplies
import Hyperliquid.Protocol.Told

/-!
# Messages of the exchange

The handlers of the streams that receive messages: those of market data,
`src/roq/hyperliquid/gateway/market_data.cpp:239–458`, of a drop copy,
`src/roq/hyperliquid/gateway/drop_copy.cpp:283–458`, and of a web socket,
`src/roq/hyperliquid/gateway/web_socket.cpp:324–570`. All streams run in one process and share
three buffers. What a subscription response does to the download of a drop copy is in
`Hyperliquid.Gateway.DropCopy`.
-/

namespace Hyperliquid.Gateway

open Hyperliquid.Base Hyperliquid.Base.CoreJson Hyperliquid.Oms Hyperliquid.Web
open Hyperliquid.Protocol.Json (Decoders MessageType PayloadType ResponseType)
open Hyperliquid.Gateway.MarketData

/-- `protocol::json::BBODataBBOItem`, with the fields the handler reads. -/
structure BBOItem (F : Type) where
  px : F
  sz : F
  deriving DecidableEq, Repr

/-- `protocol::json::BBO`; the time is a count of milliseconds. -/
structure BBO (F : Type) where
  coin : String
  time : Int64
  bbo : List (BBOItem F)
  deriving DecidableEq, Repr

/-- `protocol::json::ActiveAssetCtx`, with the fields the handler reads. -/
structure ActiveAssetCtx (F : Type) where
  coin : String
  funding : F
  openInterest : F
  dayNtlVlm : F
  markPx : F
  deriving DecidableEq, Repr

/-- `roq::Layer`. -/
structure Layer (F : Type) where
  bidPrice : F
  bidQuantity : F
  askPrice : F
  askQuantity : F
  deriving DecidableEq, Repr

/-- `roq::TopOfBook`, with the fields the handler fills; the time is a count of nanoseconds. -/
structure TopOfBook (F : Type) where
  streamId : UInt16
  exchange : String
  symbol : String
  layer : Layer F
  updateType : UpdateType
  exchangeTimeUtc : Int64
  deriving DecidableEq, Repr

/-- `roq::StatisticsType`, with the values that the handler uses. -/
inductive StatisticsType where
  | openInterest
  | tradeVolume
  | settlementPrice
  | fundingRate
  deriving DecidableEq, Repr

/-- `roq::StatisticsUpdate`, with the fields the handler fills; a statistic is its type and its
value. -/
structure StatisticsUpdate (F : Type) where
  streamId : UInt16
  exchange : String
  symbol : String
  statistics : List (StatisticsType × F)
  updateType : UpdateType
  deriving DecidableEq, Repr

/-- What a handler reads of a message; the messages without content are logged. -/
def Content (F : Type) : MessageType → Type
  | .bbo => BBO F
  | .l2Book => L2Book F
  | .trades => List (TradesDataItem F)
  | .activeAssetCtx => ActiveAssetCtx F
  | .orderUpdates => List (OrderUpdatesDataItem F)
  | .actionError => WebSocket.ActionError
  | .actionOrder => WebSocket.ActionOrder
  | .actionCancel => WebSocket.ActionCancel
  | _ => Unit

/-- A decoded message, or what its decoder throws. -/
abbrev InboundMessage (F : Type) := (type : MessageType) × Except Exception (Content F type)

/-- What the streams dispatch. -/
inductive Dispatched (F : Type) where
  | topOfBook (topOfBook : TopOfBook F)
  | marketByPriceUpdate (update : MarketByPriceUpdate F)
  | tradeSummary (summary : TradeSummary F)
  | statisticsUpdate (update : StatisticsUpdate F)
  | orderUpdate (streamId : UInt16) (update : OrderUpdate F)
  | effect (effect : AckEffect)

/-- The buffers that all streams share, `shared.hpp`, and what has been dispatched. -/
structure Inbound (F : Type) where
  bids : List (MBPUpdate F)
  asks : List (MBPUpdate F)
  trades : List (Trade F)
  dispatched : List (Dispatched F)

def Inbound.dispatch {F : Type} (shared : Inbound F) (events : List (Dispatched F)) : Inbound F :=
  { shared with dispatched := shared.dispatched ++ events }

/-- What the handlers use beside the messages. -/
structure InboundEnv (F : Type) where
  depth : DepthEnv
  ids : RequestIds
  /-- `as_raw_text` of a status that the exchange does not name -/
  internalRawText : JsonOrderStatus → String
  hash : KeyHash
  channel : Value → Protocol.Json.Channel
  payloadType : Value → PayloadType
  responseType : Value → ResponseType
  status : Value → Protocol.Json.Status
  /-- The generated decoder of a message. -/
  decode : (type : MessageType) → Value → Except Exception (Content F type)
  allowUnknownEventTypes : Bool

/-- The kinds of streams that receive messages. -/
inductive Receiver where
  | marketData
  | dropCopy (account : String)
  | webSocket (account : String)
  deriving DecidableEq, Repr

/-- A message that a stream receives, and which orders the order manager then has. -/
structure Received where
  streamId : UInt16
  receiver : Receiver
  message : Value
  findOrder : UInt8 → UInt64 → Bool

namespace InboundEnv

variable {F : Type} (env : InboundEnv F)

def settings : Settings := env.depth.settings

def decoders : Decoders (InboundMessage F) where
  channel := env.channel
  payloadType := env.payloadType
  responseType := env.responseType
  status := env.status
  message type value := ⟨type, env.decode type value⟩

def reportEnv (account : String) : ReportEnv := ⟨account, env.settings, env.internalRawText⟩

/-- `log::fatal("Unexpected")`. -/
def unexpected : Except (Failure Exception) (Inbound F) := .error (.fatal "Unexpected")

/-- The top of book of a message that has both sides. -/
def topOfBook? (streamId : UInt16) (bbo : BBO F) : Option (TopOfBook F) :=
  match bbo.bbo with
  | [bid, ask] => some
      { streamId
        exchange := getExchangeFromCoin bbo.coin env.settings
        symbol := bbo.coin
        layer := ⟨bid.px, bid.sz, ask.px, ask.sz⟩
        updateType := .incremental
        exchangeTimeUtc := bbo.time * 1000000 }
  | _ => none

/-- The handler of `BBO`, `market_data.cpp:263–289`: a message without both sides is logged. -/
def onBBO (streamId : UInt16) (bbo : BBO F) (shared : Inbound F) : Inbound F :=
  shared.dispatch ((env.topOfBook? streamId bbo).toList.map .topOfBook)

/-- The handler of `L2Book`, `market_data.cpp:291–338`, with the shared buffers. -/
def onL2Book (streamId : UInt16) (l2book : L2Book F) (shared : Inbound F) :
    Except (Failure Exception) (Inbound F) :=
  match Depth.onL2Book env.depth streamId l2book (.start shared.bids shared.asks) with
  | .ok depth => .ok
      { shared with
        bids := depth.bids
        asks := depth.asks
        dispatched := shared.dispatched ++ depth.dispatched.map .marketByPriceUpdate }
  | .error (.thrown what) => .error (.thrown (.std what))
  | .error (.fatal text) => .error (.fatal text)

/-- The handler of `Trades`, `market_data.cpp:340–385`: it clears the shared buffer first. -/
def onTrades (streamId : UInt16) (items : List (TradesDataItem F)) (shared : Inbound F) :
    Inbound F :=
  let loop :=
    (items.foldl (Loop.onItem env.settings streamId) .start).dispatch env.settings streamId
  { shared with
    trades := loop.trades
    dispatched := shared.dispatched ++ loop.dispatched.map .tradeSummary }

def statisticsUpdate (streamId : UInt16) (ctx : ActiveAssetCtx F) : StatisticsUpdate F where
  streamId
  exchange := getExchangeFromCoin ctx.coin env.settings
  symbol := ctx.coin
  statistics :=
    [(.openInterest, ctx.openInterest), (.tradeVolume, ctx.dayNtlVlm),
      (.settlementPrice, ctx.markPx), (.fundingRate, ctx.funding)]
  updateType := .incremental

/-- The handler of `ActiveAssetCtx`, `market_data.cpp:387–425`. -/
def onActiveAssetCtx (streamId : UInt16) (ctx : ActiveAssetCtx F) (shared : Inbound F) :
    Inbound F :=
  shared.dispatch [.statisticsUpdate (env.statisticsUpdate streamId ctx)]

/-- The handler of `OrderUpdates`, `drop_copy.cpp:375–439` and `web_socket.cpp:387–451`. -/
def onOrderUpdates [Double F] (account : String) (streamId : UInt16)
    (items : List (OrderUpdatesDataItem F)) (shared : Inbound F) : Inbound F :=
  shared.dispatch ((items.map (·.orderUpdate (env.reportEnv account))).map (.orderUpdate streamId))

/-- A handler of a reply, with what it dispatches. -/
def onReply (received : Received) (handler : WebSocket.AckEnv → Proc AckEffect Exception Unit)
    (shared : Inbound F) : Except (Failure Exception) (Inbound F) :=
  let handled := handler ⟨env.ids, received.findOrder, received.streamId⟩
  match handled.result with
  | .ok () => .ok (shared.dispatch (handled.events.map .effect))
  | .error failure => .error failure

/-- The handlers of `MarketData`, `market_data.cpp:239–458`. -/
def marketData (received : Received) (shared : Inbound F) :
    (type : MessageType) → Content F type → Except (Failure Exception) (Inbound F)
  | .pong, _ => .ok shared
  | .error, _ => .ok shared
  | .subscriptionResponse, _ => .ok shared
  | .bbo, bbo => .ok (env.onBBO received.streamId bbo shared)
  | .l2Book, l2book => env.onL2Book received.streamId l2book shared
  | .trades, items => .ok (env.onTrades received.streamId items shared)
  | .activeAssetCtx, ctx => .ok (env.onActiveAssetCtx received.streamId ctx shared)
  | .spotMeta, _ => .ok shared
  | .user, _ => unexpected
  | .userFundings, _ => unexpected
  | .userFills, _ => unexpected
  | .orderUpdates, _ => unexpected
  | .notification, _ => .ok shared
  | .actionError, _ => unexpected
  | .actionOrder, _ => unexpected
  | .actionCancel, _ => unexpected

/-- The handlers of `DropCopy`, `drop_copy.cpp:283–458`. -/
def dropCopy [Double F] (account : String) (received : Received) (shared : Inbound F) :
    (type : MessageType) → Content F type → Except (Failure Exception) (Inbound F)
  | .pong, _ => .ok shared
  | .error, _ => .ok shared
  | .subscriptionResponse, _ => .ok shared
  | .bbo, _ => unexpected
  | .l2Book, _ => unexpected
  | .trades, _ => unexpected
  | .activeAssetCtx, _ => unexpected
  | .spotMeta, _ => unexpected
  | .user, _ => .ok shared
  | .userFundings, _ => .ok shared
  | .userFills, _ => .ok shared
  | .orderUpdates, items => .ok (env.onOrderUpdates account received.streamId items shared)
  | .notification, _ => .ok shared
  | .actionError, _ => unexpected
  | .actionOrder, _ => unexpected
  | .actionCancel, _ => unexpected

/-- The handlers of `WebSocket`, `web_socket.cpp:324–570`. -/
def webSocket [Double F] (account : String) (received : Received) (shared : Inbound F) :
    (type : MessageType) → Content F type → Except (Failure Exception) (Inbound F)
  | .pong, _ => .ok shared
  | .error, _ => .ok shared
  | .subscriptionResponse, _ => unexpected
  | .bbo, _ => unexpected
  | .l2Book, _ => unexpected
  | .trades, _ => unexpected
  | .activeAssetCtx, _ => unexpected
  | .spotMeta, _ => unexpected
  | .user, _ => .ok shared
  | .userFundings, _ => .ok shared
  | .userFills, _ => .ok shared
  | .orderUpdates, items => .ok (env.onOrderUpdates account received.streamId items shared)
  | .notification, _ => .ok shared
  | .actionError, action => env.onReply received (WebSocket.actionError · action) shared
  | .actionOrder, action => env.onReply received (WebSocket.actionOrder · action) shared
  | .actionCancel, action => env.onReply received (WebSocket.actionCancel · action) shared

/-- A decoder that throws makes the parser throw. -/
def handleMessage [Double F] (received : Received) (message : InboundMessage F)
    (shared : Inbound F) : Except (Failure Exception) (Inbound F) :=
  match message.2 with
  | .error e => .error (.thrown e)
  | .ok content =>
    match received.receiver with
    | .marketData => env.marketData received shared message.1 content
    | .dropCopy account => env.dropCopy account received shared message.1 content
    | .webSocket account => env.webSocket account received shared message.1 content

/-- A stream receives a message. -/
def handle [Double F] (received : Received) (shared : Inbound F) :
    Except (Failure Exception) (Inbound F) :=
  Protocol.Json.Parser.parse env.hash env.decoders env.allowUnknownEventTypes
    (env.handleMessage received) received.message shared

/-- The process, from any buffers. -/
def run [Double F] (bids asks : List (MBPUpdate F)) (trades : List (Trade F))
    (messages : List Received) : Process (Inbound F) :=
  Process.run env.handle (.start ⟨bids, asks, trades, []⟩) messages

/-! ## What a message says -/

end InboundEnv

/-- The messages that a stream has a handler for; any other ends the process. -/
def Receiver.expects : Receiver → MessageType → Bool
  | _, .pong | _, .error | _, .notification => true
  | .marketData, .subscriptionResponse | .dropCopy _, .subscriptionResponse => true
  | .marketData, .bbo | .marketData, .l2Book | .marketData, .trades => true
  | .marketData, .activeAssetCtx | .marketData, .spotMeta => true
  | .dropCopy _, .user | .dropCopy _, .userFundings | .dropCopy _, .userFills => true
  | .webSocket _, .user | .webSocket _, .userFundings | .webSocket _, .userFills => true
  | .dropCopy _, .orderUpdates | .webSocket _, .orderUpdates => true
  | .webSocket _, .actionError | .webSocket _, .actionOrder | .webSocket _, .actionCancel => true
  | _, _ => false

/-- The account of a stream, if it has one. -/
def Receiver.account : Receiver → String
  | .marketData => ""
  | .dropCopy account => account
  | .webSocket account => account

/-- The version of the response to a rejected request. -/
def WebSocket.Reply.version : WebSocket.Reply → UInt32
  | .order _ => 1
  | .error _ | .cancel _ => 0

/-- The request type that the id of a rejecting reply has to have. -/
def WebSocket.Reply.answersType (reply : WebSocket.Reply) (requestType : RequestType) : Bool :=
  match reply with
  | .error _ => true
  | .order _ => reply.rejection.isNone || requestType = .createOrder
  | .cancel _ => reply.rejection.isNone || requestType = .cancelOrder

instance {F : Type} (env : DepthEnv) (message : Message F) : Decidable (message.Fits env) :=
  inferInstanceAs (Decidable (_ ∧ ∀ items ∈ message.l2book.levels, ∀ item ∈ items, _))

namespace InboundEnv

variable {F : Type} (env : InboundEnv F)

/-- The response to the request of a reply: a reply that rejects it, if its order is found. -/
def replySaid (received : Received) (id : Int64) (reply : WebSocket.Reply) : List AckEffect :=
  let (requestType, userId, orderId) := env.ids.decodeRequestId id.toUInt64
  match reply.rejection with
  | none => []
  | some text =>
    if received.findOrder userId orderId then
      [.dispatch
        { requestType
          origin := .exchange
          requestStatus := .rejected
          error := .unknown
          text
          version := reply.version
          streamId := received.streamId
          userId
          orderId }]
    else []

/-- A content that its handler handles to the end. -/
def fits (received : Received) : (type : MessageType) → Content F type → Bool
  | .l2Book, l2book => decide (Message.Fits env.depth ⟨received.streamId, l2book⟩)
  | .actionOrder, action =>
    (WebSocket.Reply.order action.statuses).answersType
      (env.ids.decodeRequestId action.id.toUInt64).1
  | .actionCancel, action =>
    (WebSocket.Reply.cancel action.statuses).answersType
      (env.ids.decodeRequestId action.id.toUInt64).1
  | _, _ => true

/-- What a stream dispatches for a content, whatever the buffers hold. -/
def said [Double F] (received : Received) : (type : MessageType) → Content F type →
    List (Dispatched F)
  | .bbo, bbo => (env.topOfBook? received.streamId bbo).toList.map .topOfBook
  | .l2Book, l2book =>
    let message : Message F := ⟨received.streamId, l2book⟩
    if message.hasLevel then [.marketByPriceUpdate (message.snapshot env.depth)] else []
  | .trades, items => (MarketData.trades env.settings received.streamId items).map .tradeSummary
  | .activeAssetCtx, ctx => [.statisticsUpdate (env.statisticsUpdate received.streamId ctx)]
  | .orderUpdates, items =>
    (items.map (·.orderUpdate (env.reportEnv received.receiver.account))).map
      (.orderUpdate received.streamId)
  | .actionError, action =>
    (env.replySaid received action.id (.error action.response)).map .effect
  | .actionOrder, action =>
    (env.replySaid received action.id (.order action.statuses)).map .effect
  | .actionCancel, action =>
    (env.replySaid received action.id (.cancel action.statuses)).map .effect
  | _, _ => []

/-- A handler returns for a content that is accepted, and dispatches what this says. -/
inductive Outcome (shared : Inbound F) :
    Except (Failure Exception) (Inbound F) → Bool → List (Dispatched F) → Prop where
  | ok {shared' : Inbound F} {said : List (Dispatched F)}
      (h : shared'.dispatched = shared.dispatched ++ said) : Outcome shared (.ok shared') true said
  | error {failure : Failure Exception} {said : List (Dispatched F)} :
      Outcome shared (.error failure) false said

private theorem Outcome.quiet (shared : Inbound F) : Outcome shared (.ok shared) true [] :=
  .ok (List.append_nil _).symm

/-- A handler that returns has dispatched its events. -/
theorem Outcome.dispatch (shared : Inbound F) (events : List (Dispatched F)) :
    Outcome shared (.ok (shared.dispatch events)) true events := .ok rfl

variable {env}

private theorem outcome_onL2Book (message : Message F) (shared : Inbound F) :
    Outcome shared (env.onL2Book message.streamId message.l2book shared)
      (decide (message.Fits env.depth))
      (if message.hasLevel then [.marketByPriceUpdate (message.snapshot env.depth)] else []) := by
  unfold onL2Book
  cases hresult : Depth.onL2Book env.depth message.streamId message.l2book
    (.start shared.bids shared.asks) with
  | ok depth =>
    have hfits := Depth.fits_of_onL2Book hresult
    have hhandled := Depth.onL2Book_of_fits hfits (.start shared.bids shared.asks)
    rw [decide_eq_true hfits]
    refine .ok ?_
    rw [← Except.ok.inj (hhandled.symm.trans hresult)]
    show shared.dispatched ++ ([] ++ ite _ _ _).map _ = _
    rw [List.nil_append]
    split <;> rfl
  | error failure =>
    have hfits : ¬ message.Fits env.depth := by
      intro hfits
      rw [Depth.onL2Book_of_fits hfits (.start shared.bids shared.asks)] at hresult
      cases hresult
    rw [decide_eq_false hfits]
    cases failure <;> exact .error

/-- A request of which the order is found is rejected. -/
theorem reject_eq (received : Received) (id : Int64) (reply : WebSocket.Reply) {text : String}
    (h : reply.rejection = some text) :
    WebSocket.reject ⟨env.ids, received.findOrder, received.streamId⟩
        (env.ids.decodeRequestId id.toUInt64).1 (env.ids.decodeRequestId id.toUInt64).2.1
        (env.ids.decodeRequestId id.toUInt64).2.2 reply.version text =
      ⟨env.replySaid received id reply, .ok ()⟩ := by
  unfold WebSocket.reject replySaid
  rw [h]
  dsimp only
  split <;> rfl

private theorem replySaid_of_quiet (received : Received) (id : Int64) {reply : WebSocket.Reply}
    (h : reply.rejection = none) : env.replySaid received id reply = [] := by
  unfold replySaid
  rw [h]

/-- The handlers of replies: the type that the id has decides. -/
theorem handleReply_eq (received : Received) (id : Int64) (reply : WebSocket.Reply) :
    WebSocket.handleReply ⟨env.ids, received.findOrder, received.streamId⟩ id reply =
      if reply.answersType (env.ids.decodeRequestId id.toUInt64).1 then
        ⟨env.replySaid received id reply, .ok ()⟩
      else Proc.fatal "Unexpected" := by
  cases reply with
  | error response => exact reject_eq received id (.error response) rfl
  | order statuses =>
    rw [WebSocket.handleReply, WebSocket.actionOrder, WebSocket.Reply.answersType]
    cases hmessage : WebSocket.statusesMessage "" statuses with
    | none =>
      have hquiet : (WebSocket.Reply.order statuses).rejection = none := by
        rw [WebSocket.Reply.rejection, hmessage]
        rfl
      rw [hquiet, replySaid_of_quiet received id hquiet]
      rfl
    | some message =>
      by_cases hempty : message.isEmpty = true
      · have hquiet : (WebSocket.Reply.order statuses).rejection = none := by
          rw [WebSocket.Reply.rejection, hmessage, Option.filter_some, hempty]
          rfl
        rw [hquiet, replySaid_of_quiet received id hquiet]
        simp only [hempty, if_true]
        rfl
      · have hrejects : (WebSocket.Reply.order statuses).rejection = some message := by
          simp [WebSocket.Reply.rejection, hmessage, hempty]
        rw [hrejects, ← reject_eq received id _ hrejects]
        simp only [hempty]
        by_cases htype : (env.ids.decodeRequestId id.toUInt64).1 = .createOrder
        · simp [htype, WebSocket.Reply.version]
        · simp [htype]
  | cancel statuses =>
    rw [WebSocket.handleReply, WebSocket.actionCancel, WebSocket.Reply.answersType]
    by_cases hsuccess : (statuses.isEmpty || statuses == WebSocket.successText) = true
    · have hquiet : (WebSocket.Reply.cancel statuses).rejection = none := by
        rw [WebSocket.Reply.rejection, if_pos hsuccess]
      rw [hquiet, replySaid_of_quiet received id hquiet, if_pos hsuccess]
      rfl
    · have hrejects : (WebSocket.Reply.cancel statuses).rejection = some statuses := by
        rw [WebSocket.Reply.rejection, if_neg hsuccess]
      rw [hrejects, ← reject_eq received id _ hrejects, if_neg hsuccess]
      by_cases htype : (env.ids.decodeRequestId id.toUInt64).1 = .cancelOrder
      · simp [htype, WebSocket.Reply.version]
      · simp [htype]

private theorem outcome_onReply (received : Received) (id : Int64) (reply : WebSocket.Reply)
    (shared : Inbound F) :
    Outcome shared (env.onReply received (WebSocket.handleReply · id reply) shared)
      (reply.answersType (env.ids.decodeRequestId id.toUInt64).1)
      ((env.replySaid received id reply).map .effect) := by
  unfold onReply
  dsimp only
  rw [handleReply_eq]
  cases reply.answersType (env.ids.decodeRequestId id.toUInt64).1 with
  | true => exact .dispatch shared _
  | false => exact .error

/-- The trades of a message do not depend on what the shared buffer held. -/
theorem outcome_onTrades (streamId : UInt16) (items : List (TradesDataItem F))
    (shared : Inbound F) :
    Outcome shared (.ok (env.onTrades streamId items shared)) true
      ((MarketData.trades env.settings streamId items).map .tradeSummary) := .ok rfl

variable [Double F]

private theorem outcome_marketData {received : Received} (h : received.receiver = .marketData)
    (type : MessageType) (content : Content F type) (shared : Inbound F) :
    Outcome shared (env.marketData received shared type content)
      (received.receiver.expects type && env.fits received type content)
      (env.said received type content) := by
  rw [h]
  cases type with
  | bbo => exact .dispatch shared _
  | l2Book => exact outcome_onL2Book ⟨received.streamId, content⟩ shared
  | trades => exact outcome_onTrades received.streamId content shared
  | activeAssetCtx => exact .dispatch shared _
  | user | userFundings | userFills | orderUpdates => exact .error
  | actionError | actionOrder | actionCancel => exact .error
  | _ => exact .quiet shared

private theorem outcome_dropCopy {received : Received} {account : String}
    (h : received.receiver = .dropCopy account) (type : MessageType) (content : Content F type)
    (shared : Inbound F) :
    Outcome shared (env.dropCopy account received shared type content)
      (received.receiver.expects type && env.fits received type content)
      (env.said received type content) := by
  have haccount : received.receiver.account = account := congrArg Receiver.account h
  rw [h]
  cases type with
  | orderUpdates =>
    simp only [said, haccount]
    exact .dispatch shared _
  | bbo | l2Book | trades | activeAssetCtx | spotMeta => exact .error
  | actionError | actionOrder | actionCancel => exact .error
  | _ => exact .quiet shared

private theorem outcome_webSocket {received : Received} {account : String}
    (h : received.receiver = .webSocket account) (type : MessageType) (content : Content F type)
    (shared : Inbound F) :
    Outcome shared (env.webSocket account received shared type content)
      (received.receiver.expects type && env.fits received type content)
      (env.said received type content) := by
  have haccount : received.receiver.account = account := congrArg Receiver.account h
  rw [h]
  cases type with
  | orderUpdates =>
    simp only [said, haccount]
    exact .dispatch shared _
  | actionError => exact outcome_onReply received content.id (.error content.response) shared
  | actionOrder => exact outcome_onReply received content.id (.order content.statuses) shared
  | actionCancel => exact outcome_onReply received content.id (.cancel content.statuses) shared
  | subscriptionResponse | bbo | l2Book | trades | activeAssetCtx | spotMeta => exact .error
  | _ => exact .quiet shared

variable (env)

/-- A stream accepts a message: it tells something that the stream has a handler for, or nothing
if that is allowed. -/
def accepts (received : Received) : Bool :=
  match Protocol.Json.Parser.told env.hash env.decoders received.message with
  | .fails => false
  | .nothing => env.allowUnknownEventTypes
  | .message ⟨_, .error _⟩ => false
  | .message ⟨type, .ok content⟩ =>
    received.receiver.expects type && env.fits received type content

/-- What a stream dispatches for a message. -/
def saidBy (received : Received) : List (Dispatched F) :=
  match Protocol.Json.Parser.told env.hash env.decoders received.message with
  | .message ⟨type, .ok content⟩ => env.said received type content
  | _ => []

private theorem outcome_handleMessage (received : Received) (type : MessageType)
    (content : Content F type)
    (shared : Inbound F) :
    Outcome shared (env.handleMessage received ⟨type, .ok content⟩ shared)
      (received.receiver.expects type && env.fits received type content)
      (env.said received type content) := by
  obtain ⟨streamId, receiver, message, findOrder⟩ := received
  cases receiver with
  | marketData => exact outcome_marketData rfl type content shared
  | dropCopy account => exact outcome_dropCopy rfl type content shared
  | webSocket account => exact outcome_webSocket rfl type content shared

private theorem outcome_handle (received : Received) (shared : Inbound F) :
    Outcome shared (env.handle received shared) (env.accepts received) (env.saidBy received) := by
  unfold handle accepts saidBy
  cases htold : Protocol.Json.Parser.told env.hash env.decoders received.message with
  | fails =>
    obtain ⟨failure, hfailure⟩ := Protocol.Json.Parser.parse_of_fails htold shared
    rw [hfailure]
    exact .error
  | nothing =>
    rw [Protocol.Json.Parser.parse_of_nothing htold]
    cases env.allowUnknownEventTypes with
    | true => exact .quiet shared
    | false => exact .error
  | message message =>
    rw [Protocol.Json.Parser.parse_of_message htold]
    obtain ⟨type, decoded⟩ := message
    cases decoded with
    | error e => exact .error
    | ok content => exact env.outcome_handleMessage received type content shared

/-- The handlers of all streams, as those of one process. -/
theorem handles : Process.Handles env.handle env.accepts Inbound.dispatched env.saidBy where
  ok := by
    intro received haccepts shared
    have houtcome := env.outcome_handle received shared
    rw [haccepts] at houtcome
    generalize env.handle received shared = result at houtcome ⊢
    cases houtcome with
    | ok h => exact ⟨_, rfl, h⟩
  error := by
    intro received haccepts shared
    have houtcome := env.outcome_handle received shared
    rw [haccepts] at houtcome
    generalize env.handle received shared = result at houtcome ⊢
    cases houtcome with
    | error => exact ⟨_, rfl⟩

end InboundEnv
end Hyperliquid.Gateway
