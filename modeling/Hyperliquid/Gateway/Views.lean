import Hyperliquid.Gateway.Inbound

/-!
# What consumers hold

A consumer keeps the last of what the gateway dispatches for each key: the top of book, the book
and the statistics of a coin, and an order. After any run of messages of all streams this is what
the last message says that was received on the channel for that key.
-/

namespace Hyperliquid.Gateway

open Hyperliquid.Base Hyperliquid.Protocol.Json
open Hyperliquid.Gateway.MarketData (Book Key MarketByPriceUpdate)

/-- The last value of a key. -/
def lastOf {κ ν : Type} [DecidableEq κ] (entries : List (κ × ν)) (key : κ) : Option ν :=
  (entries.filter (·.1 = key)).getLast?.map (·.2)

/-- Keys under other names. -/
theorem lastOf_map {κ κ' ν : Type} [DecidableEq κ] [DecidableEq κ'] {rename : κ → κ'}
    (hrename : ∀ {key key'}, rename key = rename key' ↔ key = key') (entries : List (κ × ν))
    (key : κ) :
    lastOf (entries.map fun entry ↦ (rename entry.1, entry.2)) (rename key) =
      lastOf entries key := by
  rw [lastOf, List.filter_map, List.getLast?_map, Option.map_map, lastOf]
  simp only [Function.comp_def, hrename]

namespace Dispatched

variable {F : Type}

/-- What a consumer of tops of books replaces. -/
def layers : Dispatched F → List (Key × Layer F)
  | topOfBook update => [((update.streamId, update.symbol), update.layer)]
  | _ => []

/-- What a consumer of books replaces. -/
def books : Dispatched F → List (Key × Book F)
  | marketByPriceUpdate update => [update.entry]
  | _ => []

/-- What a consumer of statistics replaces: each statistic of a coin on its own. -/
def statistics : Dispatched F → List ((Key × StatisticsType) × F)
  | statisticsUpdate update =>
    update.statistics.map fun statistic ↦
      (((update.streamId, update.symbol), statistic.1), statistic.2)
  | _ => []

/-- What a consumer of orders replaces. -/
def orders : Dispatched F → List (String × OrderUpdate F)
  | orderUpdate _ update => [(update.externalOrderId, update)]
  | _ => []

/-- What a consumer holds. -/
def view {κ ν : Type} [DecidableEq κ] (entries : Dispatched F → List (κ × ν))
    (dispatched : List (Dispatched F)) : κ → Option ν :=
  Replica.replay (dispatched.flatMap entries)

/-- The type of the messages that make a stream dispatch an event. -/
def CarriedBy : Dispatched F → MessageType → Prop
  | topOfBook _, type => type = .bbo
  | marketByPriceUpdate _, type => type = .l2Book
  | tradeSummary _, type => type = .trades
  | statisticsUpdate _, type => type = .activeAssetCtx
  | orderUpdate _ _, type => type = .orderUpdates
  | effect _, type => type = .actionError ∨ type = .actionOrder ∨ type = .actionCancel

/-- A consumer listens to the events that messages of one type carry. -/
def ListensTo {ε : Type} (entries : Dispatched F → List ε) (channel : MessageType) : Prop :=
  ∀ event type, event.CarriedBy type → type ≠ channel → entries event = []

private theorem listensTo_layers : ListensTo (layers (F := F)) .bbo := by
  intro event type hcarried hne
  cases event with
  | topOfBook update => exact absurd hcarried hne
  | _ => rfl

private theorem listensTo_books : ListensTo (books (F := F)) .l2Book := by
  intro event type hcarried hne
  cases event with
  | marketByPriceUpdate update => exact absurd hcarried hne
  | _ => rfl

private theorem listensTo_statistics : ListensTo (statistics (F := F)) .activeAssetCtx := by
  intro event type hcarried hne
  cases event with
  | statisticsUpdate update => exact absurd hcarried hne
  | _ => rfl

private theorem listensTo_orders : ListensTo (orders (F := F)) .orderUpdates := by
  intro event type hcarried hne
  cases event with
  | orderUpdate streamId update => exact absurd hcarried hne
  | _ => rfl

end Dispatched

namespace InboundEnv

variable {F : Type} (env : InboundEnv F)

/-- What a message tells on a channel. -/
def tells {ε : Type} (channel : MessageType) (entriesOf : Received → Content F channel → List ε)
    (received : Received) : List ε :=
  match Parser.told env.hash env.decoders received.message with
  | .message ⟨type, .ok content⟩ =>
    if h : type = channel then entriesOf received (h ▸ content) else []
  | _ => []

/-- The top of book that the exchange sends, if it has both sides. -/
def layersOf (received : Received) (bbo : BBO F) : List (Key × Layer F) :=
  match bbo.bbo with
  | [bid, ask] => [((received.streamId, bbo.coin), ⟨bid.px, bid.sz, ask.px, ask.sz⟩)]
  | _ => []

/-- The book that the exchange sends, if it has a level. -/
def booksOf (received : Received) (l2book : MarketData.L2Book F) : List (Key × Book F) :=
  let message : MarketData.Message F := ⟨received.streamId, l2book⟩
  if message.hasLevel then [(message.key, message.book)] else []

/-- The statistics that the exchange sends. -/
def statisticsOf (received : Received) (ctx : ActiveAssetCtx F) :
    List ((Key × StatisticsType) × F) :=
  let key : Key := (received.streamId, ctx.coin)
  [((key, .openInterest), ctx.openInterest), ((key, .tradeVolume), ctx.dayNtlVlm),
    ((key, .settlementPrice), ctx.markPx), ((key, .fundingRate), ctx.funding)]

/-- The orders that the exchange sends by their ids, as the stream of an account reports them. -/
def ordersOf [Double F] (received : Received) (items : List (OrderUpdatesDataItem F)) :
    List (Int64 × OrderUpdate F) :=
  items.map fun item ↦
    (item.order.oid, item.orderUpdate (env.reportEnv received.receiver.account))

variable [Double F]

/-- A message makes its stream dispatch events of its type only. -/
theorem carriedBy_said (received : Received) (type : MessageType) (content : Content F type) :
    ∀ event ∈ env.said received type content, event.CarriedBy type := by
  cases type with
  | bbo | trades => exact List.forall_mem_map.mpr fun _ _ ↦ rfl
  | l2Book =>
    intro event hevent
    unfold said at hevent
    dsimp only at hevent
    split at hevent
    · rw [List.mem_singleton.mp hevent]
      rfl
    · cases hevent
  | activeAssetCtx => exact List.forall_mem_singleton.mpr rfl
  | orderUpdates => exact List.forall_mem_map.mpr fun _ _ ↦ rfl
  | actionError => exact List.forall_mem_map.mpr fun _ _ ↦ .inl rfl
  | actionOrder => exact List.forall_mem_map.mpr fun _ _ ↦ .inr (.inl rfl)
  | actionCancel => exact List.forall_mem_map.mpr fun _ _ ↦ .inr (.inr rfl)
  | _ => exact List.forall_mem_nil _

variable {env} {κ ν ε : Type}

/-- What a consumer gets from a message is what the message tells on the channel that the consumer
listens to. -/
theorem flatMap_saidBy {channel : MessageType} {entries : Dispatched F → List ε}
    (hlistens : Dispatched.ListensTo entries channel)
    {entriesOf : Received → Content F channel → List ε}
    (hchannel : ∀ received content,
      (env.said received channel content).flatMap entries = entriesOf received content)
    (received : Received) :
    (env.saidBy received).flatMap entries = env.tells channel entriesOf received := by
  unfold saidBy tells
  cases Parser.told env.hash env.decoders received.message with
  | message message =>
    obtain ⟨type, decoded⟩ := message
    cases decoded with
    | error e => rfl
    | ok content =>
      dsimp only
      by_cases htype : type = channel
      · subst htype
        rw [dif_pos rfl]
        exact hchannel received content
      · rw [dif_neg htype]
        apply List.flatMap_eq_nil_iff.mpr
        intro event hevent
        exact hlistens event type (env.carriedBy_said received type content event hevent) htype
  | _ => rfl

/-- What a consumer holds after a run: the last that was told on its channel for a key. -/
theorem view_run [DecidableEq κ] {channel : MessageType}
    {entries : Dispatched F → List (κ × ν)} (hlistens : Dispatched.ListensTo entries channel)
    {entriesOf : Received → Content F channel → List (κ × ν)}
    (hchannel : ∀ received content,
      (env.said received channel content).flatMap entries = entriesOf received content)
    (shared : Inbound F) (hshared : shared.dispatched = []) (messages : List Received) (key : κ) :
    Dispatched.view entries (Process.run env.handle (.start shared) messages).state.dispatched key =
      lastOf ((messages.takeWhile env.accepts).flatMap (env.tells channel entriesOf)) key := by
  rw [env.handles.log_run, hshared, List.nil_append, Dispatched.view, Replica.replay_eq_getLast?,
    List.flatMap_assoc]
  simp only [flatMap_saidBy hlistens hchannel]
  rfl

private theorem flatMap_layers (received : Received) (bbo : BBO F) :
    (env.said received .bbo bbo).flatMap Dispatched.layers = layersOf received bbo := by
  obtain ⟨coin, time, items⟩ := bbo
  obtain _ | ⟨bid, _ | ⟨ask, _ | ⟨item, items⟩⟩⟩ := items <;> rfl

private theorem flatMap_books (received : Received) (l2book : MarketData.L2Book F) :
    (env.said received .l2Book l2book).flatMap Dispatched.books = booksOf received l2book := by
  simp only [said, booksOf]
  split <;> rfl

private theorem flatMap_statistics (received : Received) (ctx : ActiveAssetCtx F) :
    (env.said received .activeAssetCtx ctx).flatMap Dispatched.statistics =
      statisticsOf received ctx := rfl

private theorem flatMap_orders (received : Received) (items : List (OrderUpdatesDataItem F)) :
    (env.said received .orderUpdates items).flatMap Dispatched.orders =
      (env.ordersOf received items).map fun entry ↦ (externalOrderId entry.1, entry.2) := by
  show ((items.map _).map _).flatMap _ = (items.map _).map _
  induction items with
  | nil => rfl
  | cons item items ih => exact congrArg (_ :: ·) ih

variable (env) in
omit [Double F] in
private theorem tells_map {ε' : Type} (channel : MessageType)
    (entriesOf : Received → Content F channel → List ε) (f : ε → ε') (received : Received) :
    env.tells channel (fun received content ↦ (entriesOf received content).map f) received =
      (env.tells channel entriesOf received).map f := by
  unfold tells
  split
  · split <;> rfl
  · rfl

variable (env)

/-- Whatever is received in between, by which stream, and whatever the shared buffers held: of
each coin of a stream a consumer holds the last top of book that had both sides, the last book that
had a level and the last statistics, and of each order its last update. -/
theorem views_run (bids asks : List (MarketData.MBPUpdate F)) (trades : List (MarketData.Trade F))
    (messages : List Received) :
    let dispatched := (env.run bids asks trades messages).state.dispatched
    let accepted := messages.takeWhile env.accepts
    (∀ key, Dispatched.view Dispatched.layers dispatched key =
      lastOf (accepted.flatMap (env.tells .bbo layersOf)) key) ∧
    (∀ key, Dispatched.view Dispatched.books dispatched key =
      lastOf (accepted.flatMap (env.tells .l2Book booksOf)) key) ∧
    (∀ key, Dispatched.view Dispatched.statistics dispatched key =
      lastOf (accepted.flatMap (env.tells .activeAssetCtx statisticsOf)) key) ∧
    ∀ oid, Dispatched.view Dispatched.orders dispatched (externalOrderId oid) =
      lastOf (accepted.flatMap (env.tells .orderUpdates env.ordersOf)) oid := by
  intro dispatched accepted
  refine ⟨?_, ?_, ?_, ?_⟩
  · exact view_run Dispatched.listensTo_layers flatMap_layers _ rfl messages
  · exact view_run Dispatched.listensTo_books flatMap_books _ rfl messages
  · exact view_run Dispatched.listensTo_statistics flatMap_statistics _ rfl messages
  · intro oid
    have htells := funext (env.tells_map .orderUpdates env.ordersOf
      fun entry : Int64 × OrderUpdate F ↦ (externalOrderId entry.1, entry.2))
    rw [← lastOf_map externalOrderId_inj, List.map_flatMap]
    exact (view_run Dispatched.listensTo_orders flatMap_orders _ rfl messages _).trans
      (congrArg (fun told ↦ lastOf (accepted.flatMap told) (externalOrderId oid)) htells)

end InboundEnv
end Hyperliquid.Gateway
