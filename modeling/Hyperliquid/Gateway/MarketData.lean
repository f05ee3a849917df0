import Hyperliquid.Gateway.Shared
import Hyperliquid.Oms.Types
import Mathlib.Tactic.Common
import Mathlib.Algebra.Group.Int.Defs

/-!
# Market data

`src/roq/hyperliquid/gateway/market_data.cpp`: the handlers that turn a message of the
exchange into market data events.
-/

namespace Hyperliquid.Gateway.MarketData

open Hyperliquid.Oms

/-- `protocol::json::Side`, `side.json`. -/
inductive JsonSide where
  | undefinedInternal
  | unknownInternal
  | bid
  | ask
  deriving DecidableEq, Repr

/-- `map` on `json::Side`, `map.cpp:46–59`. -/
def mapSide : JsonSide → Side
  | .undefinedInternal => .undefined
  | .unknownInternal => .undefined
  | .bid => .buy
  | .ask => .sell

/-- `protocol::json::TradesDataItem`, with the fields the handler reads; the time is a
count of milliseconds. -/
structure TradesDataItem (F : Type) where
  coin : String
  side : JsonSide
  px : F
  sz : F
  time : Int64
  tid : UInt64
  deriving DecidableEq, Repr

/-- `roq::Trade`, with the fields the handler fills. -/
structure Trade (F : Type) where
  side : Side
  price : F
  quantity : F
  tradeId : String
  deriving DecidableEq, Repr

/-- `roq::TradeSummary`, with the fields the handler fills; the time is a count of
nanoseconds. -/
structure TradeSummary (F : Type) where
  streamId : UInt16
  exchange : String
  symbol : String
  trades : List (Trade F)
  exchangeTimeUtc : Int64
  deriving DecidableEq, Repr

/-- The time of an item as `std::chrono::nanoseconds`, in 64 bits. -/
def TradesDataItem.timeUtc {F : Type} (item : TradesDataItem F) : Int64 := item.time * 1000000

/-- The trade of an item, `market_data.cpp:370–380`. -/
def TradesDataItem.trade {F : Type} (item : TradesDataItem F) : Trade F where
  side := mapSide item.side
  price := item.px
  quantity := item.sz
  tradeId := toString item.tid.toNat

/-- The variables of the loop over the items, with the shared buffer of trades and the
summaries dispatched so far. -/
structure Loop (F : Type) where
  time : Int64
  coin : String
  trades : List (Trade F)
  dispatched : List (TradeSummary F)

section

variable {F : Type} (settings : Settings) (streamId : UInt16)

/-- The lambda `dispatch`, `market_data.cpp:348–363`: it leaves the trades in the buffer. -/
def Loop.dispatch (loop : Loop F) : Loop F :=
  if loop.trades.isEmpty then loop
  else
    let tradeSummary : TradeSummary F :=
      { streamId
        exchange := getExchangeFromCoin loop.coin settings
        symbol := loop.coin
        trades := loop.trades
        exchangeTimeUtc := loop.time }
    { loop with dispatched := loop.dispatched ++ [tradeSummary] }

/-- The body of the loop, `market_data.cpp:365–382`. -/
def Loop.onItem (loop : Loop F) (item : TradesDataItem F) : Loop F :=
  let loop :=
    if item.timeUtc ≠ loop.time ∨ item.coin ≠ loop.coin then
      { loop.dispatch settings streamId with time := item.timeUtc, coin := item.coin }
    else loop
  { loop with trades := loop.trades ++ [item.trade] }

/-- The start of the loop: the buffer has been cleared. -/
def Loop.start : Loop F := ⟨0, "", [], []⟩

/-- The handler of `Trades`, `market_data.cpp:340–385`: the summaries it dispatches. -/
def trades (items : List (TradesDataItem F)) : List (TradeSummary F) :=
  ((items.foldl (Loop.onItem settings streamId) Loop.start).dispatch settings streamId).dispatched

/-- Two items with one key: a summary is for one coin and one time in nanoseconds. -/
def SameKey (a b : TradesDataItem F) : Prop := a.coin = b.coin ∧ a.timeUtc = b.timeUtc

/-- The trades of some summaries, in order. -/
def allTrades (summaries : List (TradeSummary F)) : List (Trade F) :=
  summaries.flatMap TradeSummary.trades

/-- Some summaries partition a message: together they have its trades, in order and each
once, and each trade is of an item with the coin and the time of its summary. -/
@[mk_iff]
structure Partitions (items : List (TradesDataItem F)) (summaries : List (TradeSummary F)) :
    Prop where
  trades : allTrades summaries = items.map TradesDataItem.trade
  keys : ∀ summary ∈ summaries, ∀ trade ∈ summary.trades, ∃ item ∈ items,
    item.trade = trade ∧ item.coin = summary.symbol ∧ item.timeUtc = summary.exchangeTimeUtc

/-- A dispatch sends all trades of the buffer. -/
theorem allTrades_dispatch (loop : Loop F) :
    allTrades (loop.dispatch settings streamId).dispatched =
      allTrades loop.dispatched ++ loop.trades := by
  unfold Loop.dispatch
  split
  · next hempty => rw [List.isEmpty_iff.mp hempty, List.append_nil]
  · simp [allTrades]

/-- A dispatch keeps the buffer. -/
@[simp] theorem trades_dispatch (loop : Loop F) :
    (loop.dispatch settings streamId).trades = loop.trades := by
  unfold Loop.dispatch
  split <;> rfl

/-- Each item adds its trade to the buffer, and nothing is ever taken out. -/
@[simp] theorem trades_onItem (loop : Loop F) (item : TradesDataItem F) :
    (loop.onItem settings streamId item).trades = loop.trades ++ [item.trade] := by
  unfold Loop.onItem
  by_cases hkey : item.timeUtc ≠ loop.time ∨ item.coin ≠ loop.coin
  · simp only [if_pos hkey, trades_dispatch]
  · simp only [if_neg hkey]

/-- After the loop the buffer has the trades of all items. -/
theorem trades_foldl (loop : Loop F) (items : List (TradesDataItem F)) :
    (items.foldl (Loop.onItem settings streamId) loop).trades =
      loop.trades ++ items.map TradesDataItem.trade := by
  induction items generalizing loop with
  | nil => simp
  | cons item items ih =>
    rw [List.foldl_cons, ih, trades_onItem, List.append_assoc]
    rfl

/-- An item with the key of the loop sends nothing. -/
theorem onItem_of_sameKey (loop : Loop F) (item : TradesDataItem F)
    (htime : item.timeUtc = loop.time) (hcoin : item.coin = loop.coin) :
    loop.onItem settings streamId item = { loop with trades := loop.trades ++ [item.trade] } := by
  simp [Loop.onItem, htime, hcoin]

/-- An item with another key first sends the buffer. -/
theorem onItem_of_otherKey (loop : Loop F) (item : TradesDataItem F)
    (hkey : item.timeUtc ≠ loop.time ∨ item.coin ≠ loop.coin) :
    allTrades (loop.onItem settings streamId item).dispatched =
      allTrades loop.dispatched ++ loop.trades := by
  rw [← allTrades_dispatch settings streamId loop]
  simp only [Loop.onItem, if_pos hkey]

open Loop in
/-- The first item sends nothing and sets the key. -/
theorem onItem_start (item : TradesDataItem F) :
    Loop.start.onItem settings streamId item =
      ⟨item.timeUtc, item.coin, [item.trade], []⟩ := by
  unfold Loop.onItem
  by_cases hkey : item.timeUtc ≠ (start : Loop F).time ∨ item.coin ≠ (start : Loop F).coin
  · simp only [if_pos hkey]
    rfl
  · simp only [if_neg hkey]
    rw [not_or, not_not, not_not] at hkey
    rw [hkey.1, hkey.2]
    rfl

/-- While all items have the key of the loop nothing is sent. -/
theorem foldl_of_sameKey (loop : Loop F) (items : List (TradesDataItem F))
    (hkey : ∀ item ∈ items, item.timeUtc = loop.time ∧ item.coin = loop.coin) :
    items.foldl (Loop.onItem settings streamId) loop =
      { loop with trades := loop.trades ++ items.map TradesDataItem.trade } := by
  induction items generalizing loop with
  | nil => simp
  | cons item items ih =>
    have hitem := hkey item (List.mem_cons_self ..)
    rw [List.foldl_cons, onItem_of_sameKey settings streamId loop item hitem.1 hitem.2, ih]
    · simp
    · intro next hnext
      exact hkey next (List.mem_cons_of_mem _ hnext)

/-- The number of trades sent never falls along the loop. -/
theorem length_allTrades_foldl (loop : Loop F) (items : List (TradesDataItem F)) :
    (allTrades loop.dispatched).length ≤
      (allTrades (items.foldl (Loop.onItem settings streamId) loop).dispatched).length := by
  induction items generalizing loop with
  | nil => exact Nat.le_refl _
  | cons item items ih =>
    apply Nat.le_trans _ (ih _)
    by_cases hkey : item.timeUtc ≠ loop.time ∨ item.coin ≠ loop.coin
    · rw [onItem_of_otherKey settings streamId loop item hkey, List.length_append]
      exact Nat.le_add_right _ _
    · rw [not_or, not_not, not_not] at hkey
      apply Nat.le_of_eq
      rw [onItem_of_sameKey settings streamId loop item hkey.1 hkey.2]

/-- A change of the key sends trades that stay in the buffer. -/
theorem length_allTrades_foldl_of_otherKey (loop : Loop F) (items : List (TradesDataItem F))
    (hbuffer : loop.trades ≠ [])
    (hkey : ∃ item ∈ items, item.timeUtc ≠ loop.time ∨ item.coin ≠ loop.coin) :
    (allTrades loop.dispatched).length <
      (allTrades (items.foldl (Loop.onItem settings streamId) loop).dispatched).length := by
  induction items generalizing loop with
  | nil => simp at hkey
  | cons item items ih =>
    rw [List.foldl_cons]
    by_cases hitem : item.timeUtc ≠ loop.time ∨ item.coin ≠ loop.coin
    · apply Nat.lt_of_lt_of_le _ (length_allTrades_foldl settings streamId _ items)
      rw [onItem_of_otherKey settings streamId loop item hitem, List.length_append]
      have : 0 < loop.trades.length := List.length_pos_iff.mpr hbuffer
      omega
    · obtain ⟨other, hother, hne⟩ := hkey
      rcases List.mem_cons.mp hother with rfl | hlater
      · exact absurd hne hitem
      · rw [not_or, not_not, not_not] at hitem
        rw [onItem_of_sameKey settings streamId loop item hitem.1 hitem.2]
        exact ih { loop with trades := loop.trades ++ [item.trade] } (by simp)
          ⟨other, hlater, hne⟩

/-- One key: one summary, of all items. -/
theorem trades_of_sameKey (item : TradesDataItem F) (items : List (TradesDataItem F))
    (hkey : ∀ next ∈ items, SameKey next item) :
    trades settings streamId (item :: items) =
      [{ streamId
         exchange := getExchangeFromCoin item.coin settings
         symbol := item.coin
         trades := (item :: items).map TradesDataItem.trade
         exchangeTimeUtc := item.timeUtc }] := by
  rw [trades, List.foldl_cons, onItem_start, foldl_of_sameKey]
  · simp [Loop.dispatch]
  · intro next hnext
    exact ⟨(hkey next hnext).2, (hkey next hnext).1⟩

/-- Several keys: more trades are sent than the message has. -/
theorem length_lt_of_otherKey (item : TradesDataItem F) (items : List (TradesDataItem F))
    (hkey : ∃ next ∈ items, ¬ SameKey next item) :
    (item :: items).length <
      (allTrades (trades settings streamId (item :: items))).length := by
  rw [trades, allTrades_dispatch, trades_foldl, List.foldl_cons, onItem_start]
  have hsent := length_allTrades_foldl_of_otherKey settings streamId
    ⟨item.timeUtc, item.coin, [item.trade], []⟩ items (List.cons_ne_nil _ _) (by
      obtain ⟨next, hnext, hne⟩ := hkey
      refine ⟨next, hnext, ?_⟩
      rw [Ne, ← not_and_or, And.comm]
      exact hne)
  simp only [Loop.start, List.nil_append, List.length_append, List.length_map]
  omega

/-- The summaries of a message partition it exactly when all its items have one coin and
one time: each later key repeats the trades of the earlier ones. -/
theorem partitions_trades_iff (items : List (TradesDataItem F)) :
    Partitions items (trades settings streamId items) ↔
      ∀ a ∈ items, ∀ b ∈ items, SameKey a b := by
  cases items with
  | nil => simp [trades, Loop.start, Loop.dispatch, partitions_iff, allTrades]
  | cons item items =>
    constructor
    · intro hpartitions
      have hlength := congrArg List.length hpartitions.trades
      have hkey : ∀ next ∈ items, SameKey next item := by
        by_contra hother
        push Not at hother
        have := length_lt_of_otherKey settings streamId item items hother
        rw [hlength, List.length_map] at this
        omega
      have hall : ∀ next ∈ item :: items, SameKey next item := by
        rintro next (_ | ⟨_, hnext⟩)
        · exact ⟨rfl, rfl⟩
        · exact hkey next hnext
      intro a ha b hb
      have hkeyA := hall a ha
      have hkeyB := hall b hb
      exact ⟨hkeyA.1.trans hkeyB.1.symm, hkeyA.2.trans hkeyB.2.symm⟩
    · intro hkey
      have hfirst : ∀ next ∈ items, SameKey next item := by
        intro next hnext
        exact hkey next (List.mem_cons_of_mem _ hnext) item (List.mem_cons_self ..)
      rw [trades_of_sameKey settings streamId item items hfirst]
      constructor
      · simp [allTrades]
      · intro summary hsummary trade htrade
        rw [List.mem_singleton.mp hsummary] at htrade ⊢
        obtain ⟨next, hnext, rfl⟩ := List.mem_map.mp htrade
        have hkeyNext := hkey next hnext item (List.mem_cons_self ..)
        exact ⟨next, hnext, rfl, hkeyNext.1, hkeyNext.2⟩

end

/-- A trade of a coin, at the price and size one. -/
def tradeOf (coin : String) (tid : UInt64) : TradesDataItem Nat := ⟨coin, .bid, 1, 1, 1, tid⟩

/-- One trade of each of two coins: the second summary has both. -/
theorem not_partitions_two_coins :
    ¬ ∀ (settings : Settings) (streamId : UInt16) (items : List (TradesDataItem Nat)),
      Partitions items (trades settings streamId items) := by
  intro h
  have hpartitions := h ⟨"hyperliquid", [], false⟩ 1 [tradeOf "BTC" 1, tradeOf "SOL" 2]
  exact absurd hpartitions.trades (by decide)

end Hyperliquid.Gateway.MarketData
