import Hyperliquid.Base.Run
import Hyperliquid.Gateway.Rest.Meta
import Hyperliquid.Gateway.Symbols

/-!
# What the market data streams subscribe to

Symbols enter by replies to `meta` and by clients, the slices grow, and the streams connect
and drop, in any order. The set of all symbols keeps a symbol out of a second slice, and a
stream subscribes from the start when it becomes ready and to what is new while it is.
-/

namespace Hyperliquid.Gateway

open Hyperliquid.Base

/-- What is added to a set of known symbols: distinct symbols that were not in it. -/
structure Fresh (known new : List String) : Prop where
  nodup : new.Nodup
  unknown : ∀ symbol ∈ new, symbol ∉ known

namespace Fresh

/-- No symbols are fresh. -/
theorem nil (known : List String) : Fresh known [] := ⟨List.nodup_nil, nofun⟩

/-- One more symbol that is not known yet. -/
theorem cons {known new : List String} {symbol : String} (hunknown : symbol ∉ known)
    (h : Fresh (known ++ [symbol]) new) : Fresh known (symbol :: new) where
  nodup := by
    refine List.nodup_cons.mpr ⟨?_, h.nodup⟩
    intro hmem
    exact h.unknown symbol hmem (List.mem_append_right _ (List.mem_singleton_self _))
  unknown := by
    refine List.forall_mem_cons.mpr ⟨hunknown, ?_⟩
    intro other hother hknown
    exact h.unknown other hother (List.mem_append_left _ hknown)

end Fresh

namespace Feed

/-- The symbols that a client adds are fresh. -/
theorem insertNew_fresh (allSymbols symbols : List String) :
    (insertNew allSymbols symbols).1 = allSymbols ++ (insertNew allSymbols symbols).2 ∧
      Fresh allSymbols (insertNew allSymbols symbols).2 := by
  induction symbols generalizing allSymbols with
  | nil => exact ⟨(List.append_nil _).symm, Fresh.nil _⟩
  | cons symbol symbols ih =>
    rw [insertNew]
    split
    · exact ih allSymbols
    · next hunknown =>
      obtain ⟨hall, hfresh⟩ := ih (allSymbols ++ [symbol])
      constructor
      · rw [hall, List.append_assoc]
        rfl
      · apply Fresh.cons _ hfresh
        intro hmem
        exact hunknown (List.contains_iff_mem.mpr hmem)

end Feed

namespace Rest

variable {F : Type} [Double F] (env : MetaEnv)

/-- The symbols that the loop over the items adds are fresh. -/
theorem publishAll_fresh (dex : Dex) (i : Nat) (items : List GetMetaAckUniverseItem)
    (run : MetaRun F) :
    ∃ new, (publishAll env dex i items run).2.allSymbols = run.allSymbols ++ new ∧
      (publishAll env dex i items run).2.symbols = run.symbols ++ new ∧
      Fresh run.allSymbols new := by
  induction items generalizing i run with
  | nil => exact ⟨[], by simp [publishAll], by simp [publishAll], Fresh.nil _⟩
  | cons item items ih =>
    rw [publishAll]
    cases hdata : (referenceData env dex i item : Except _ (ReferenceData F)) with
    | error failure => exact ⟨[], by simp, by simp, Fresh.nil _⟩
    | ok data =>
      obtain ⟨new, hall, hsymbols, hfresh⟩ := ih (i + 1) (run.publish data)
      rw [hall, hsymbols]
      revert hfresh
      unfold MetaRun.publish
      dsimp only
      split_ifs with hdiscard hknown
      · intro hfresh
        exact ⟨new, rfl, rfl, hfresh⟩
      · intro hfresh
        exact ⟨new, rfl, rfl, hfresh⟩
      · intro hfresh
        refine ⟨data.symbol :: new, ?_, ?_, Fresh.cons ?_ hfresh⟩
        · rw [List.append_assoc]
          rfl
        · rw [List.append_assoc]
          rfl
        · intro hmem
          exact hknown (List.contains_iff_mem.mpr hmem)

/-- The symbols of the update are fresh, and added to the set of all symbols. -/
theorem metaAck_fresh (dexs : List Dex) (index : Nat) (items : List GetMetaAckUniverseItem)
    (allSymbols : List String) :
    (metaAck (F := F) env dexs index items allSymbols).2.allSymbols =
        allSymbols ++ (metaAck (F := F) env dexs index items allSymbols).2.symbols ∧
      Fresh allSymbols (metaAck (F := F) env dexs index items allSymbols).2.symbols := by
  unfold metaAck
  split
  · next dex _ =>
    obtain ⟨new, hall, hsymbols, hfresh⟩ :=
      publishAll_fresh env dex 0 items ({ allSymbols } : MetaRun F)
    rw [hall, hsymbols]
    exact ⟨rfl, hfresh⟩
  · exact ⟨(List.append_nil _).symm, Fresh.nil _⟩

end Rest

namespace Feed

variable {F : Type} [Double F]

/-- The handler of a `meta` reply: after an exception there is no update. -/
def metaAck (F : Type) [Double F] (env : Rest.MetaEnv) (dexs : List Dex) (index : Nat)
    (items : List Rest.GetMetaAckUniverseItem) (feed : Feed) : Feed :=
  let (result, run) := Rest.metaAck (F := F) env dexs index items feed.allSymbols
  let feed := { feed with allSymbols := run.allSymbols }
  match result with
  | .ok _ => symbolsUpdate run.symbols feed
  | .error _ => feed

/-- What happens to the symbols and the streams. -/
inductive Event where
  | metaReply (env : Rest.MetaEnv) (dexs : List Dex) (index : Nat)
    (items : List Rest.GetMetaAckUniverseItem)
  | subscribe (symbols : List String)
  | ready (index : Nat)
  | disconnected (index : Nat)

/-- One event. -/
def step (F : Type) [Double F] (feed : Feed) : Event → Feed
  | .metaReply env dexs index items => metaAck F env dexs index items feed
  | .subscribe symbols => subscribe symbols feed
  | .ready index => ready index feed
  | .disconnected index => disconnected index feed

/-- What holds after every event. -/
structure Inv (feed : Feed) : Prop where
  nodup : feed.slices.symbols.Nodup
  known : ∀ symbol ∈ feed.slices.symbols, symbol ∈ feed.allSymbols
  /-- a ready stream has subscribed to what its slice holds -/
  subscribed : ∀ index stream, feed.marketData[index]? = some stream → stream.status = .ready →
    ∀ message, stream.sent.count message =
      (feed.slices.getSlice index 0).count message.coin

/-- The invariant holds before anything is named. -/
theorem inv_new (maxSubscriptionsPerStream : Nat) : Inv (new maxSubscriptionsPerStream) where
  nodup := List.nodup_nil
  known := nofun
  subscribed := nofun

private theorem status_subscribe (slices : Symbols) (index startFrom : Nat)
    (stream : MarketDataStream) :
    (stream.subscribe slices index startFrom).status = stream.status := by
  unfold MarketDataStream.subscribe
  split <;> rfl

/-- A stream that is ready was there before the streams were added. -/
theorem mem_of_ready {marketData : List MarketDataStream} {size index : Nat}
    {stream : MarketDataStream}
    (h : (ensureSymbolSlices marketData size)[index]? = some stream)
    (hready : stream.status = .ready) : marketData[index]? = some stream := by
  rw [ensureSymbolSlices, List.getElem?_append] at h
  split at h
  · exact h
  · have hnew : stream = .new := List.eq_of_mem_replicate (List.mem_of_getElem? h)
    rw [hnew] at hready
    cases hready

/-- An update with fresh symbols keeps the invariant. -/
theorem Inv.symbolsUpdate {feed : Feed} (h : Inv feed) {symbols : List String}
    (hfresh : Fresh feed.allSymbols symbols) :
    Inv (symbolsUpdate symbols { feed with allSymbols := feed.allSymbols ++ symbols }) where
  nodup := by
    refine List.nodup_append.mpr ⟨h.nodup, hfresh.nodup, ?_⟩
    intro old hold symbol hsymbol heq
    exact hfresh.unknown symbol hsymbol (heq ▸ h.known old hold)
  known := by
    intro symbol hsymbol
    rcases List.mem_append.mp hsymbol with hold | hnew
    · exact List.mem_append_left _ (h.known symbol hold)
    · exact List.mem_append_right _ hnew
  subscribed := by
    intro index stream hstream hready message
    simp only [Feed.symbolsUpdate, List.getElem?_mapIdx, Option.map_eq_some_iff] at hstream
    obtain ⟨before, hbefore, rfl⟩ := hstream
    rw [status_subscribe] at hready
    have hcount := h.subscribed index before (mem_of_ready hbefore hready) hready message
    rw [MarketDataStream.subscribe, if_pos hready, List.count_append, hcount,
      MarketDataStream.count_subscribeSymbols]
    show _ = ((feed.slices.append symbols).2.2.getSlice index 0).count message.coin
    rw [Symbols.getSlice_append, List.count_append]
    rfl

/-- The symbols of a client keep the invariant. -/
theorem Inv.subscribe {feed : Feed} (h : Inv feed) (symbols : List String) :
    Inv (subscribe symbols feed) := by
  obtain ⟨hall, hfresh⟩ := insertNew_fresh feed.allSymbols symbols
  have hupdate := h.symbolsUpdate hfresh
  rwa [← hall] at hupdate

/-- More known symbols keep the invariant. -/
theorem Inv.allSymbols {feed : Feed} (h : Inv feed) (more : List String) :
    Inv { feed with allSymbols := feed.allSymbols ++ more } where
  nodup := h.nodup
  known symbol hsymbol := List.mem_append_left _ (h.known symbol hsymbol)
  subscribed := h.subscribed

/-- The symbols of a meta reply keep the invariant. -/
theorem Inv.metaAck {feed : Feed} (h : Inv feed) (env : Rest.MetaEnv) (dexs : List Dex)
    (index : Nat) (items : List Rest.GetMetaAckUniverseItem) :
    Inv (metaAck F env dexs index items feed) := by
  obtain ⟨hall, hfresh⟩ := Rest.metaAck_fresh (F := F) env dexs index items feed.allSymbols
  unfold Feed.metaAck
  dsimp only
  rw [hall]
  split
  · exact h.symbolsUpdate hfresh
  · exact h.allSymbols _

/-- A stream is replaced by one that has subscribed to its slice if it is ready. -/
theorem Inv.modify {feed : Feed} (h : Inv feed) (position : Nat)
    (f : MarketDataStream → MarketDataStream)
    (hf : ∀ stream, (f stream).status = .ready → ∀ message,
      (f stream).sent.count message = (feed.slices.getSlice position 0).count message.coin) :
    Inv { feed with marketData := feed.marketData.modify position f } where
  nodup := h.nodup
  known := h.known
  subscribed := by
    intro index stream hstream hready message
    rw [List.getElem?_modify, Option.map_eq_map, Option.map_eq_some_iff] at hstream
    obtain ⟨before, hbefore, rfl⟩ := hstream
    by_cases hposition : position = index
    · rw [if_pos hposition] at hready ⊢
      rw [← hposition]
      exact hf before hready message
    · rw [if_neg hposition] at hready ⊢
      exact h.subscribed index before hbefore hready message

/-- A connection keeps the invariant. -/
theorem Inv.ready {feed : Feed} (h : Inv feed) (index : Nat) : Inv (ready index feed) := by
  apply h.modify
  intro stream _ message
  show ([] ++ _ : List Subscription).count message = _
  rw [List.nil_append, MarketDataStream.count_subscribeSymbols]

/-- A lost connection keeps the invariant. -/
theorem Inv.disconnected {feed : Feed} (h : Inv feed) (index : Nat) :
    Inv (disconnected index feed) := by
  apply h.modify
  intro stream hready
  cases hready

/-- An event keeps the invariant. -/
theorem Inv.step {feed : Feed} (h : Inv feed) (event : Event) : Inv (step F feed event) := by
  cases event with
  | metaReply env dexs index items => exact h.metaAck env dexs index items
  | subscribe symbols => exact h.subscribe symbols
  | ready index => exact h.ready index
  | disconnected index => exact h.disconnected index

/-- After any events no symbol is in two slices, and a ready stream has subscribed once, in
each channel, to each symbol in its slice, and to nothing else. -/
theorem subscribed_once (maxSubscriptionsPerStream : Nat) (events : List Event) :
    let feed := events.foldl (step F) (new maxSubscriptionsPerStream)
    (∀ i j symbol, i ≠ j → symbol ∈ feed.slices.getSlice i 0 →
        symbol ∉ feed.slices.getSlice j 0) ∧
      ∀ index stream, feed.marketData[index]? = some stream → stream.status = .ready →
        ∀ channel symbol, stream.sent.count ⟨channel, symbol⟩ =
          if symbol ∈ feed.slices.getSlice index 0 then 1 else 0 := by
  intro feed
  have hinv : Inv feed := by
    apply Run.invariant_foldl Inv (P := fun _ _ ↦ True) (fun _ event h _ ↦ h.step event)
      (inv_new maxSubscriptionsPerStream)
    exact Run.along_true _ events
  constructor
  · intro i j symbol hij hi hj
    exact hij (Symbols.eq_of_mem_getSlice hinv.nodup hi hj)
  · intro index stream hstream hready channel symbol
    rw [hinv.subscribed index stream hstream hready]
    split
    · next hmem => exact List.count_eq_one_of_mem (Symbols.nodup_getSlice hinv.nodup _ _) hmem
    · next hmem => exact List.count_eq_zero_of_not_mem hmem

end Feed
end Hyperliquid.Gateway
