import Hyperliquid.Base.Procedure
import Hyperliquid.Base.Replica
import Hyperliquid.Base.Run
import Hyperliquid.Gateway.Shared
import Mathlib.Data.List.Basic
import Mathlib.Data.List.Induction
import Mathlib.Tactic.Common

/-!
# Market by price

The handler of `L2Book`, `src/roq/hyperliquid/gateway/market_data.cpp:291–338`: it refills two
buffers that all streams share and publishes them as a snapshot, but not when both are empty. A
consumer holds the book of the last message that had a level.
-/

namespace Hyperliquid.Gateway.MarketData

open Hyperliquid.Base

/-- `roq::UpdateType`, with the values that the stream uses. -/
inductive UpdateType where
  | incremental
  | snapshot
  deriving DecidableEq, Repr

/-- `protocol::json::L2BookDataLevelsItemItem`. -/
structure L2BookLevel (F : Type) where
  px : F
  sz : F
  n : UInt32
  deriving DecidableEq, Repr

/-- `protocol::json::L2Book`, with the fields the handler reads; the time is a count of
milliseconds. -/
structure L2Book (F : Type) where
  coin : String
  time : Int64
  levels : List (List (L2BookLevel F))
  deriving DecidableEq, Repr

/-- `roq::MBPUpdate`, with the fields that depend on the level. -/
structure MBPUpdate (F : Type) where
  price : F
  quantity : F
  numberOfOrders : Nat
  deriving DecidableEq, Repr

/-- `roq::MarketByPriceUpdate`, with the fields the handler fills; the time is a count of
nanoseconds. -/
structure MarketByPriceUpdate (F : Type) where
  streamId : UInt16
  exchange : String
  symbol : String
  bids : List (MBPUpdate F)
  asks : List (MBPUpdate F)
  updateType : UpdateType
  exchangeTimeUtc : Int64
  deriving DecidableEq, Repr

/-- What the handler uses beside the message. -/
structure DepthEnv where
  settings : Settings
  /-- `utils::safe_cast` to the type of `number_of_orders`. -/
  toNumberOfOrders : UInt32 → Except (Failure String) Nat
  eq_of_ok : ∀ {n number}, toNumberOfOrders n = .ok number → number = n.toNat

/-- A message of one of the streams. -/
structure Message (F : Type) where
  streamId : UInt16
  l2book : L2Book F
  deriving DecidableEq, Repr

/-- The two buffers that all streams share, and what the streams have received and dispatched. -/
structure Depth (F : Type) where
  /-- `shared_.bids` -/
  bids : List (MBPUpdate F)
  /-- `shared_.asks` -/
  asks : List (MBPUpdate F)
  dispatched : List (MarketByPriceUpdate F)
  /-- the messages that have been handled -/
  received : List (Message F)
  /-- the process has ended -/
  ended : Bool
  deriving DecidableEq, Repr

variable {F : Type}

/-- The time of a message as `std::chrono::nanoseconds`. -/
def L2Book.timeUtc (l2book : L2Book F) : Int64 := l2book.time * 1000000

/-- The lambda `helper`, `market_data.cpp:296–306`: it adds a level to a buffer. -/
def helper (env : DepthEnv) (result : List (MBPUpdate F)) (item : L2BookLevel F) :
    Except (Failure String) (List (MBPUpdate F)) := do
  let numberOfOrders ← env.toNumberOfOrders item.n
  pure (result ++ [{ price := item.px, quantity := item.sz, numberOfOrders }])

namespace Depth

/-- The state before any message; nothing is known of the buffers. -/
def start (bids asks : List (MBPUpdate F)) : Depth F := ⟨bids, asks, [], [], false⟩

/-- The handler of `L2Book`, `market_data.cpp:291–338`. -/
def onL2Book (env : DepthEnv) (streamId : UInt16) (l2book : L2Book F) (depth : Depth F) :
    Except (Failure String) (Depth F) :=
  match l2book.levels with
  | [bids, asks] => do
    let bids ← bids.foldlM (helper env) []
    let asks ← asks.foldlM (helper env) []
    let depth := { depth with bids, asks }
    if !(depth.bids.isEmpty && depth.asks.isEmpty) then
      let marketByPriceUpdate : MarketByPriceUpdate F :=
        { streamId
          exchange := getExchangeFromCoin l2book.coin env.settings
          symbol := l2book.coin
          bids := depth.bids
          asks := depth.asks
          updateType := .snapshot
          exchangeTimeUtc := l2book.timeUtc }
      pure { depth with dispatched := depth.dispatched ++ [marketByPriceUpdate] }
    else pure depth
  | _ => .error (.fatal "Unexpected: l2book=\x7b\x7d")

/-- One step: a message is handled. `MarketData::parse` lets no exception out, so that every
failure ends the process, whatever it leaves in the buffers. -/
def step (env : DepthEnv) (depth : Depth F) (message : Message F) : Depth F :=
  if depth.ended then depth
  else
    match onL2Book env message.streamId message.l2book depth with
    | .ok depth => { depth with received := depth.received ++ [message] }
    | .error _ => { depth with ended := true }

end Depth

/-! ## The book of a consumer -/

/-- A consumer has a book for each coin of each stream. -/
abbrev Key := UInt16 × String

/-- The two sides of a book. -/
abbrev Book (F : Type) := List (MBPUpdate F) × List (MBPUpdate F)

def Message.key (message : Message F) : Key := (message.streamId, message.l2book.coin)

def MarketByPriceUpdate.key (update : MarketByPriceUpdate F) : Key :=
  (update.streamId, update.symbol)

/-- What a consumer replaces when it gets a snapshot. -/
def MarketByPriceUpdate.entry (update : MarketByPriceUpdate F) : Key × Book F :=
  (update.key, update.bids, update.asks)

/-- The price, the quantity and the number of orders of a level. -/
def L2BookLevel.update (level : L2BookLevel F) : MBPUpdate F :=
  ⟨level.px, level.sz, level.n.toNat⟩

/-- The levels at a position of a message: the bids are at 0 and the asks at 1. -/
def Message.side (message : Message F) (position : Nat) : List (MBPUpdate F) :=
  (message.l2book.levels[position]?.getD []).map L2BookLevel.update

/-- The book of a message. -/
def Message.book (message : Message F) : Book F := (message.side 0, message.side 1)

/-- A message has a level on one of its sides. -/
def Message.hasLevel (message : Message F) : Bool :=
  !((message.side 0).isEmpty && (message.side 1).isEmpty)

/-- A message that is handled to its end: it has two lists of levels, and each number of orders
can be cast. -/
def Message.Fits (env : DepthEnv) (message : Message F) : Prop :=
  message.l2book.levels.length = 2 ∧ ∀ items ∈ message.l2book.levels, ∀ item ∈ items,
    (env.toNumberOfOrders item.n).isOk

/-- The snapshot of a message. -/
def Message.snapshot (env : DepthEnv) (message : Message F) : MarketByPriceUpdate F where
  streamId := message.streamId
  exchange := getExchangeFromCoin message.l2book.coin env.settings
  symbol := message.l2book.coin
  bids := message.side 0
  asks := message.side 1
  updateType := .snapshot
  exchangeTimeUtc := message.l2book.timeUtc

namespace Depth

/-- The updates of a coin of a stream, in order. -/
def updates (depth : Depth F) (key : Key) : List (MarketByPriceUpdate F) :=
  depth.dispatched.filter (·.key = key)

/-- The last of the handled messages of a coin of a stream that count. -/
def latest (depth : Depth F) (counts : Message F → Bool) (key : Key) : Option (Message F) :=
  (depth.received.filter fun message ↦ counts message && message.key = key).getLast?

/-- The books of a consumer that replaces a book by each snapshot. -/
def consumer (depth : Depth F) : Key → Option (Book F) :=
  Replica.replay (depth.dispatched.map MarketByPriceUpdate.entry)

/-- What should hold after a message, if the published depth follows the messages that count. -/
structure Follows (env : DepthEnv) (counts : Message F → Bool) (depth : Depth F)
    (message : Message F) : Prop where
  ended : (depth.step env message).ended = true ↔ depth.ended = true ∨ ¬ message.Fits env
  last : (depth.step env message).ended = false → counts message = true →
    ∃ update, ((depth.step env message).updates message.key).getLast? = some update ∧
      update.updateType = .snapshot ∧ (update.bids, update.asks) = message.book
  silent : counts message = false → (depth.step env message).dispatched = depth.dispatched
  others : ∀ key, key ≠ message.key →
    (depth.step env message).updates key = depth.updates key
  consumer : ∀ key, (depth.step env message).consumer key =
    ((depth.step env message).latest counts key).map Message.book

variable {env : DepthEnv}

/-! ## The handler -/

/-- A level whose number of orders can be cast is added to the buffer. -/
theorem helper_of_isOk {item : L2BookLevel F} (h : (env.toNumberOfOrders item.n).isOk)
    (result : List (MBPUpdate F)) : helper env result item = .ok (result ++ [item.update]) := by
  unfold helper
  cases hcast : env.toNumberOfOrders item.n with
  | error failure =>
    rw [hcast] at h
    cases h
  | ok number =>
    rw [L2BookLevel.update, ← env.eq_of_ok hcast]
    rfl

/-- A buffer is refilled with all levels of a list. -/
theorem foldlM_helper {items : List (L2BookLevel F)}
    (h : ∀ item ∈ items, (env.toNumberOfOrders item.n).isOk) (result : List (MBPUpdate F)) :
    items.foldlM (helper env) result = .ok (result ++ items.map L2BookLevel.update) := by
  induction items generalizing result with
  | nil => simp [pure, Except.pure]
  | cons item items ih =>
    have hitem := helper_of_isOk (h item (List.mem_cons_self ..)) result
    have hitems := ih fun later hlater ↦ h later (List.mem_cons_of_mem _ hlater)
    rw [List.foldlM_cons, hitem]
    show items.foldlM (helper env) (result ++ [item.update]) = _
    rw [hitems, List.append_assoc]
    rfl

/-- A level whose number of orders cannot be cast stops the loop. -/
theorem isOk_of_foldlM_helper {items : List (L2BookLevel F)} {result result' : List (MBPUpdate F)}
    (h : items.foldlM (helper env) result = .ok result') :
    ∀ item ∈ items, (env.toNumberOfOrders item.n).isOk := by
  induction items generalizing result with
  | nil => exact nofun
  | cons item items ih =>
    rw [List.foldlM_cons] at h
    obtain ⟨next, hitem, hitems⟩ := bind_eq_ok.mp h
    obtain ⟨number, hcast, _⟩ := bind_eq_ok.mp hitem
    intro other hother
    rcases List.mem_cons.mp hother with rfl | hlater
    · rw [hcast]
      rfl
    · exact ih hitems other hlater

/-- A buffer is refilled with a side of a message that fits. -/
theorem foldlM_side {message : Message F} (h : message.Fits env) {position : Nat}
    {items : List (L2BookLevel F)} (hitems : message.l2book.levels[position]? = some items) :
    items.foldlM (helper env) [] = .ok (message.side position) := by
  rw [foldlM_helper (h.2 items (List.mem_of_getElem? hitems)), Message.side, hitems]
  rfl

/-- What the handler does with a message that fits: the buffers get its levels, whatever they held
before, and are published if there is a level. -/
theorem onL2Book_of_fits {message : Message F} (h : message.Fits env) (depth : Depth F) :
    onL2Book env message.streamId message.l2book depth = .ok { depth with
      bids := message.side 0
      asks := message.side 1
      dispatched := depth.dispatched ++
        if message.hasLevel then [message.snapshot env] else [] } := by
  obtain ⟨bids, asks, hlevels⟩ := List.length_eq_two.mp h.1
  have hbids : bids.foldlM (helper env) [] = .ok (message.side 0) :=
    foldlM_side h (by rw [hlevels]; rfl)
  have hasks : asks.foldlM (helper env) [] = .ok (message.side 1) :=
    foldlM_side h (by rw [hlevels]; rfl)
  unfold onL2Book
  rw [hlevels]
  dsimp only
  rw [hbids, hasks]
  show (ite (message.hasLevel = true) _ _ : Except (Failure String) (Depth F)) = _
  cases message.hasLevel with
  | true => rfl
  | false => rw [if_neg Bool.false_ne_true, if_neg Bool.false_ne_true, List.append_nil]; rfl

/-- A message that is handled to its end fits. -/
theorem fits_of_onL2Book {message : Message F} {depth depth' : Depth F}
    (h : onL2Book env message.streamId message.l2book depth = .ok depth') :
    message.Fits env := by
  unfold onL2Book at h
  split at h
  · next bids asks hlevels =>
    obtain ⟨_, hbids, h⟩ := bind_eq_ok.mp h
    obtain ⟨_, hasks, _⟩ := bind_eq_ok.mp h
    refine ⟨by rw [hlevels]; rfl, ?_⟩
    rw [hlevels]
    intro items hitems
    rcases List.mem_pair.mp hitems with rfl | rfl
    · exact isOk_of_foldlM_helper hbids
    · exact isOk_of_foldlM_helper hasks
  · cases h

/-! ## Runs -/

/-- All that a step can do: it stops the process, or the message fits and its snapshot is published
if it has a level. -/
theorem step_cases (env : DepthEnv) (depth : Depth F) (message : Message F) :
    ((depth.ended = true ∨ ¬ message.Fits env) ∧
      depth.step env message = { depth with ended := true }) ∨
    (depth.ended = false ∧ message.Fits env ∧
      depth.step env message =
        { bids := message.side 0
          asks := message.side 1
          dispatched := depth.dispatched ++
            if message.hasLevel then [message.snapshot env] else []
          received := depth.received ++ [message]
          ended := false }) := by
  unfold step
  cases hended : depth.ended with
  | true =>
    refine .inl ⟨.inl rfl, ?_⟩
    rw [if_pos rfl, ← hended]
  | false =>
    rw [if_neg Bool.false_ne_true]
    by_cases hfits : message.Fits env
    · refine .inr ⟨rfl, hfits, ?_⟩
      rw [onL2Book_of_fits hfits, ← hended]
    · refine .inl ⟨.inr hfits, ?_⟩
      cases hresult : onL2Book env message.streamId message.l2book depth with
      | ok depth' => exact absurd (fits_of_onL2Book hresult) hfits
      | error failure => rfl

/-- What has been dispatched: a snapshot for each handled message that has a level, in order. -/
def Inv (env : DepthEnv) (depth : Depth F) : Prop :=
  depth.dispatched = (depth.received.filter Message.hasLevel).map (Message.snapshot env)

/-- Books that hold their first levels keep the invariant. -/
theorem inv_start (bids asks : List (MBPUpdate F)) : Inv env (start bids asks) := rfl

/-- A message keeps the invariant. -/
theorem Inv.step {depth : Depth F} (h : Inv env depth) (message : Message F) :
    Inv env (depth.step env message) := by
  obtain ⟨-, hstep⟩ | ⟨-, -, hstep⟩ := step_cases env depth message
  · rw [hstep]
    exact h
  · rw [hstep]
    show depth.dispatched ++ _ = ((depth.received ++ [message]).filter _).map _
    rw [List.filter_append, List.map_append, ← h]
    cases hlevel : message.hasLevel <;> simp [hlevel]

/-- The consumer holds the book of the last message that had a level. -/
theorem Inv.consumer {depth : Depth F} (h : Inv env depth) (key : Key) :
    depth.consumer key = (depth.latest Message.hasLevel key).map Message.book := by
  unfold Depth.consumer latest
  rw [h, List.map_map]
  exact Replica.replay_map_filter Message.hasLevel (fun message ↦ (message.key, message.book))
    depth.received key

private theorem ended_step (depth : Depth F) (message : Message F) :
    (depth.step env message).ended = true ↔ depth.ended = true ∨ ¬ message.Fits env := by
  obtain ⟨hstops, hstep⟩ | ⟨hended, hfits, hstep⟩ := step_cases env depth message
  · simp [hstep, hstops]
  · simp [hstep, hended, hfits]

/-- A step that goes on dispatches the snapshot of its message, if that has a level. -/
theorem dispatched_step (depth : Depth F) (message : Message F) :
    (depth.step env message).dispatched = depth.dispatched ++
      if !(depth.step env message).ended && message.hasLevel then [message.snapshot env]
      else [] := by
  obtain ⟨-, hstep⟩ | ⟨-, -, hstep⟩ := step_cases env depth message
  · rw [hstep]
    exact (List.append_nil _).symm
  · rw [hstep]
    rfl

/-- The same for the updates of one coin: those of the other coins stay. -/
theorem updates_step (depth : Depth F) (message : Message F) (key : Key) :
    (depth.step env message).updates key = depth.updates key ++
      if (!(depth.step env message).ended && message.hasLevel) ∧ message.key = key then
        [message.snapshot env]
      else [] := by
  have hsnapshot : (message.snapshot env).key = message.key := rfl
  rw [updates, dispatched_step, List.filter_append]
  congr 1
  cases !(depth.step env message).ended && message.hasLevel <;>
    by_cases hkey : message.key = key <;> simp [hsnapshot, hkey]

/-- The step lemma: under the invariant, the published depth follows each message. -/
theorem Inv.follows {depth : Depth F} (h : Inv env depth) (message : Message F) :
    depth.Follows env Message.hasLevel message where
  ended := depth.ended_step message
  last := by
    intro hgoes hlevel
    refine ⟨message.snapshot env, ?_, rfl, rfl⟩
    rw [updates_step, hgoes, hlevel]
    simp
  silent := by
    intro hlevel
    rw [dispatched_step, hlevel]
    simp
  others := by
    intro key hkey
    rw [updates_step]
    simp [hkey.symm]
  consumer := (h.step message).consumer

/-- A run that has not ended the process has handled all its messages. -/
theorem received_foldl (env : DepthEnv) (depth : Depth F) {messages : List (Message F)}
    (hended : (messages.foldl (step env) depth).ended = false) :
    (messages.foldl (step env) depth).received = depth.received ++ messages := by
  induction messages using List.reverseRecOn with
  | nil => exact (List.append_nil _).symm
  | append_singleton messages message ih =>
    rw [List.foldl_append] at hended ⊢
    show ((messages.foldl (step env) depth).step env message).received = _
    obtain ⟨-, hstep⟩ | ⟨hopen, -, hstep⟩ :=
      step_cases env (messages.foldl (step env) depth) message
    · rw [List.foldl_cons, List.foldl_nil, hstep] at hended
      cases hended
    · rw [hstep, ← List.append_assoc, ← ih hopen]

/-- What a consumer holds after a run, from the messages alone. -/
theorem consumer_foldl (env : DepthEnv) (bids asks : List (MBPUpdate F))
    {messages : List (Message F)}
    (hended : (messages.foldl (step env) (start bids asks)).ended = false) (key : Key) :
    (messages.foldl (step env) (start bids asks)).consumer key =
      (messages.filter fun message ↦ message.hasLevel && message.key = key).getLast?.map
        Message.book := by
  have hinv : Inv env (messages.foldl (step env) (start bids asks)) :=
    Run.invariant_foldl (Inv env) (fun _ message h _ ↦ h.step message) (inv_start bids asks)
      (Run.along_true _ messages)
  rw [hinv.consumer, latest, received_foldl env _ hended]
  rfl

/-- The published depth follows the messages that have a level, in every run. -/
theorem follows_hasLevel (env : DepthEnv) (bids asks : List (MBPUpdate F))
    (messages : List (Message F)) :
    Run.Along (step env) (Follows env Message.hasLevel) (start bids asks) messages := by
  have hallowed : Run.Along (step env) (fun _ _ ↦ True) (start bids asks) messages :=
    Run.along_true _ messages
  exact Run.along_of_invariant (Inv env) (fun _ message h _ ↦ h.step message)
    (fun _ message h _ ↦ h.follows message) (inv_start bids asks) hallowed

/-- The book of a coin empties after it had a bid. -/
def emptied : List (Message Nat) :=
  [⟨1, "BTC", 0, [[⟨100, 2, 1⟩], []]⟩, ⟨1, "BTC", 0, [[], []]⟩]

/-- The published depth does not follow all messages: a book that empties is not published. -/
theorem not_follows_emptied :
    ¬ ∀ (env : DepthEnv) (bids asks : List (MBPUpdate Nat)) (messages : List (Message Nat)),
      Run.Along (step env) (Follows env fun _ ↦ true) (start bids asks) messages := by
  intro h
  let env : DepthEnv := ⟨⟨"hyperliquid", [], false⟩, fun n ↦ .ok n.toNat, by
    intro n number hcast
    cases hcast
    rfl⟩
  have hempty := (h env [] [] emptied).2.1
  obtain ⟨update, hlast, -, hbook⟩ := hempty.last rfl rfl
  cases hlast
  cases hbook

end Depth

end Hyperliquid.Gateway.MarketData
