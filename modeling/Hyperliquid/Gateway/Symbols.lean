import Hyperliquid.Gateway.Session
import Mathlib.Algebra.Group.Nat.Defs
import Mathlib.Data.List.Count
import Mathlib.Data.List.Nodup
import Mathlib.Tactic.Common

/-!
# Symbols and their slices

The symbols that the controller has been given, in slices of a configured size, and the
market data streams, each of which subscribes to one slice:
`src/roq/hyperliquid/gateway/controller.cpp:130–144, 229–274` and
`src/roq/hyperliquid/gateway/market_data.cpp:185–208, 480–505`.
-/

namespace Hyperliquid.Gateway

/-- `core::Symbols`: the symbols in the order they were given, in slices. -/
structure Symbols where
  sliceSize : Nat
  symbols : List String
  deriving DecidableEq, Repr

namespace Symbols

/-- The number of slices. -/
def size (slices : Symbols) : Nat :=
  (slices.symbols.length + slices.sliceSize - 1) / slices.sliceSize

/-- `operator()`: appends symbols; the number of slices, and of the symbols held before. -/
def append (slices : Symbols) (symbols : List String) : Nat × Nat × Symbols :=
  let appended := { slices with symbols := slices.symbols ++ symbols }
  (appended.size, slices.symbols.length, appended)

/-- `get_slice`: the symbols of a slice at positions from `startFrom` on. -/
def getSlice (slices : Symbols) (index startFrom : Nat) : List String :=
  (slices.symbols.take ((index + 1) * slices.sliceSize)).drop
    (max (index * slices.sliceSize) startFrom)

/-- A slice holds what is at its positions. -/
theorem mem_getSlice {slices : Symbols} {index startFrom : Nat} {symbol : String} :
    symbol ∈ slices.getSlice index startFrom ↔
      ∃ position, index * slices.sliceSize ≤ position ∧ startFrom ≤ position ∧
        position < (index + 1) * slices.sliceSize ∧
          slices.symbols[position]? = some symbol := by
  rw [getSlice, List.mem_iff_getElem?]
  constructor
  · rintro ⟨k, hk⟩
    rw [List.getElem?_drop, List.getElem?_take] at hk
    split at hk
    · next hlt =>
      refine ⟨max (index * slices.sliceSize) startFrom + k, ?_, ?_, hlt, hk⟩ <;> omega
    · cases hk
  · rintro ⟨position, hslice, hstart, hlt, hsymbol⟩
    refine ⟨position - max (index * slices.sliceSize) startFrom, ?_⟩
    have hposition : max (index * slices.sliceSize) startFrom +
        (position - max (index * slices.sliceSize) startFrom) = position := by omega
    rw [List.getElem?_drop, List.getElem?_take, hposition, if_pos hlt, hsymbol]

/-- What is appended to a slice is what it holds from the old number of symbols on. -/
theorem getSlice_append (slices : Symbols) (symbols : List String) (index : Nat) :
    (slices.append symbols).2.2.getSlice index 0 =
      slices.getSlice index 0 ++
        (slices.append symbols).2.2.getSlice index slices.symbols.length := by
  simp only [getSlice, append, Nat.max_zero, List.take_append, List.drop_append,
    List.length_take]
  generalize index * slices.sliceSize = first
  generalize (index + 1) * slices.sliceSize = last
  have hold : (slices.symbols.take last).drop (max first slices.symbols.length) = [] := by
    apply List.drop_eq_nil_of_le
    rw [List.length_take]
    omega
  rw [hold, List.nil_append]
  congr 1
  by_cases hlast : last ≤ slices.symbols.length
  · have hnone : last - slices.symbols.length = 0 := by omega
    rw [hnone, List.take_zero, List.drop_nil, List.drop_nil]
  · have hdrop : first - min last slices.symbols.length =
        max first slices.symbols.length - min last slices.symbols.length := by omega
    rw [hdrop]

/-- No symbol is in two slices of distinct symbols. -/
theorem eq_of_mem_getSlice {slices : Symbols} (hnodup : slices.symbols.Nodup) {i j : Nat}
    {symbol : String} (hi : symbol ∈ slices.getSlice i 0) (hj : symbol ∈ slices.getSlice j 0) :
    i = j := by
  obtain ⟨p, hip, _, hpi, hp⟩ := mem_getSlice.mp hi
  obtain ⟨q, hjq, _, hqj, hq⟩ := mem_getSlice.mp hj
  have hlt : p < slices.symbols.length := (List.getElem?_eq_some_iff.mp hp).1
  have hpq : p = q := (List.getElem?_inj hlt hnodup).mp (hp.trans hq.symm)
  subst hpq
  have hij : i < j + 1 := Nat.lt_of_mul_lt_mul_right (Nat.lt_of_le_of_lt hip hqj)
  have hji : j < i + 1 := Nat.lt_of_mul_lt_mul_right (Nat.lt_of_le_of_lt hjq hpi)
  omega

/-- A slice names a symbol once. -/
theorem nodup_getSlice {slices : Symbols} (hnodup : slices.symbols.Nodup)
    (index startFrom : Nat) : (slices.getSlice index startFrom).Nodup :=
  (hnodup.sublist (List.take_sublist ..)).sublist (List.drop_sublist ..)

end Symbols

/-- The channels of market data. -/
inductive Channel where
  | bbo
  | l2Book
  | trades
  | activeAssetCtx
  deriving DecidableEq, Repr

/-- A subscribe message, `market_data.cpp:493–503`. -/
structure Subscription where
  type : Channel
  coin : String
  deriving DecidableEq, Repr

/-- The state of a `MarketData` that subscribing needs. -/
structure MarketDataStream where
  /-- `connection_status_` -/
  status : ConnectionStatus
  /-- the subscribe messages sent since the web socket last became ready, in order -/
  sent : List Subscription
  deriving DecidableEq, Repr

namespace MarketDataStream

def new : MarketDataStream := ⟨.undefined, []⟩

/-- `subscribe(channel, symbols)`, `market_data.cpp:490–505`. -/
def subscribeChannel (channel : Channel) (symbols : List String) : List Subscription :=
  symbols.map (Subscription.mk channel)

/-- `subscribe(symbols)`, `market_data.cpp:480–488`. -/
def subscribeSymbols (symbols : List String) : List Subscription :=
  if symbols.isEmpty then []
  else
    subscribeChannel .bbo symbols ++ subscribeChannel .l2Book symbols ++
      subscribeChannel .trades symbols ++ subscribeChannel .activeAssetCtx symbols

/-- `subscribe(start_from)` of the stream at an index, `market_data.cpp:185–189`. -/
def subscribe (slices : Symbols) (index startFrom : Nat) (stream : MarketDataStream) :
    MarketDataStream :=
  if stream.status = .ready then
    { stream with sent := stream.sent ++ subscribeSymbols (slices.getSlice index startFrom) }
  else stream

/-- The handler of `web::socket::Ready`, `market_data.cpp:202–208`. -/
def onReady (slices : Symbols) (index : Nat) (_ : MarketDataStream) : MarketDataStream :=
  subscribe slices index 0 ⟨.ready, []⟩

/-- The handler of `web::socket::Disconnected`, `market_data.cpp:196–200`. -/
def onDisconnected (stream : MarketDataStream) : MarketDataStream :=
  { stream with status := .disconnected }

private theorem count_subscribeChannel (channel : Channel) (symbols : List String)
    (message : Subscription) :
    (subscribeChannel channel symbols).count message =
      if message.type = channel then symbols.count message.coin else 0 := by
  obtain ⟨type, coin⟩ := message
  by_cases htype : type = channel
  · rw [if_pos htype, htype]
    apply List.count_map_of_injective symbols
    intro symbol symbol' h
    exact (Subscription.mk.inj h).2
  · rw [if_neg htype, List.count_eq_zero, subscribeChannel, List.mem_map]
    rintro ⟨symbol, _, h⟩
    exact htype (Subscription.mk.inj h).1.symm

/-- Every channel is subscribed to once for each time a symbol is given. -/
theorem count_subscribeSymbols (symbols : List String) (message : Subscription) :
    (subscribeSymbols symbols).count message = symbols.count message.coin := by
  unfold subscribeSymbols
  split
  · next hempty =>
    rw [List.isEmpty_iff.mp hempty]
    rfl
  · simp only [List.count_append, count_subscribeChannel]
    cases message.type <;> simp

end MarketDataStream

/-- The symbols of the gateway and the streams that subscribe to them. -/
structure Feed where
  /-- `shared_.symbols` -/
  slices : Symbols
  /-- `shared_.all_symbols` -/
  allSymbols : List String
  /-- `market_data_` -/
  marketData : List MarketDataStream
  deriving DecidableEq, Repr

namespace Feed

/-- The state before any event, with the settings' number of subscriptions for a stream. -/
def new (maxSubscriptionsPerStream : Nat) : Feed := ⟨⟨maxSubscriptionsPerStream, []⟩, [], []⟩

/-- `ensure_symbol_slices`, `controller.cpp:266–274`: new streams are not connected yet. -/
def ensureSymbolSlices (marketData : List MarketDataStream) (size : Nat) :
    List MarketDataStream :=
  marketData ++ List.replicate (size - marketData.length) .new

/-- The handler of `SymbolsUpdate` up to the streams, `controller.cpp:229–235`. -/
def symbolsUpdate (symbols : List String) (feed : Feed) : Feed :=
  let (size, startFrom, slices) := feed.slices.append symbols
  { feed with
    slices
    marketData := (ensureSymbolSlices feed.marketData size).mapIdx fun index stream ↦
      stream.subscribe slices index startFrom }

/-- The loop of the handler of `Subscribe`, `controller.cpp:132–139`: the set of all symbols,
and the symbols that were not in it. -/
def insertNew : List String → List String → List String × List String
  | allSymbols, [] => (allSymbols, [])
  | allSymbols, symbol :: symbols =>
    if allSymbols.contains symbol then insertNew allSymbols symbols
    else
      let (all, new) := insertNew (allSymbols ++ [symbol]) symbols
      (all, symbol :: new)

/-- The handler of `Subscribe`, `controller.cpp:130–144`. -/
def subscribe (symbols : List String) (feed : Feed) : Feed :=
  let (allSymbols, new) := insertNew feed.allSymbols symbols
  symbolsUpdate new { feed with allSymbols }

/-- The web socket of a stream becomes ready. -/
def ready (index : Nat) (feed : Feed) : Feed :=
  { feed with marketData := feed.marketData.modify index (·.onReady feed.slices index) }

/-- The web socket of a stream is closed. -/
def disconnected (index : Nat) (feed : Feed) : Feed :=
  { feed with marketData := feed.marketData.modify index (·.onDisconnected) }

end Feed
end Hyperliquid.Gateway
