import Hyperliquid.Gateway.DexBounds
import Hyperliquid.Gateway.InfoTexts
import Hyperliquid.Gateway.Rest.MetaChain

/-!
# The symbols of the whole gateway

From the replies of the exchange and the requests of clients to what the market data streams
send: the gateway gives the symbols that they name to its feed, and each of them is subscribed to
by one stream. `src/roq/hyperliquid/gateway/rest.cpp:443–538`, `controller.cpp:130–144, 229–274`
and `market_data.cpp:185–208, 480–505`.
-/

namespace Hyperliquid.Gateway

open Hyperliquid.Base Hyperliquid.Web

/-! ## Names of a reply -/

namespace Rest

variable {F : Type} [Double F] (env : MetaEnv)

/-- The symbols that a reply names: those of its items that are not discarded. -/
def namedItems (items : List GetMetaAckUniverseItem) : List String :=
  (items.map (·.name)).filter fun name ↦ !env.discardSymbol name

private theorem symbol_of_ok {dex : Dex} {i : Nat} {item : GetMetaAckUniverseItem}
    {data : ReferenceData F} (h : referenceData env dex i item = .ok data) :
    data.symbol = item.name ∧ data.discard = env.discardSymbol item.name := by
  obtain ⟨steps, _, h⟩ := bind_eq_ok.mp h
  obtain ⟨id, _, h⟩ := bind_eq_ok.mp h
  rw [← Except.ok.inj h]
  exact ⟨rfl, rfl⟩

omit [Double F] in
private theorem mem_allSymbols_publish (run : MetaRun F) (data : ReferenceData F)
    (symbol : String) :
    symbol ∈ (run.publish data).allSymbols ↔
      symbol ∈ run.allSymbols ∨ data.discard = false ∧ symbol = data.symbol := by
  unfold MetaRun.publish
  dsimp only
  split_ifs with hdiscard hknown
  · simp [hdiscard]
  · simp only [hdiscard, true_and]
    refine ⟨.inl, ?_⟩
    rintro (hmem | rfl)
    · exact hmem
    · exact List.contains_iff_mem.mp hknown
  · simp [hdiscard]

/-- A reply whose handler returns has its symbols added to the set of all symbols. -/
theorem mem_publishAll_of_ok {dex : Dex} {i : Nat} {items : List GetMetaAckUniverseItem}
    {run : MetaRun F} (h : (publishAll env dex i items run).1 = .ok ()) (symbol : String) :
    symbol ∈ (publishAll env dex i items run).2.allSymbols ↔
      symbol ∈ run.allSymbols ∨ symbol ∈ namedItems env items := by
  induction items generalizing i run with
  | nil => simp [publishAll, namedItems]
  | cons item items ih =>
    rw [publishAll] at h ⊢
    cases hdata : (referenceData env dex i item : Except _ (ReferenceData F)) with
    | error failure =>
      rw [hdata] at h
      cases h
    | ok data =>
      rw [hdata] at h
      obtain ⟨hsymbol, hdiscard⟩ := symbol_of_ok env hdata
      simp only
      rw [ih h, mem_allSymbols_publish, hsymbol, hdiscard]
      unfold namedItems
      rw [List.map_cons, List.filter_cons]
      cases hitem : env.discardSymbol item.name <;> simp [or_assoc]

private theorem mem_metaAck_of_ok {dexs : List Dex} {index : Nat}
    {items : List GetMetaAckUniverseItem}
    {allSymbols : List String}
    (h : (metaAck (F := F) env dexs index items allSymbols).1 = .ok ()) (symbol : String) :
    symbol ∈ (metaAck (F := F) env dexs index items allSymbols).2.allSymbols ↔
      symbol ∈ allSymbols ∨ symbol ∈ namedItems env items := by
  unfold metaAck at h ⊢
  split
  · next dex hdex =>
    simp only [hdex] at h
    exact mem_publishAll_of_ok env h symbol
  · next hdex =>
    simp only [hdex] at h
    cases h

end Rest

/-! ## Slices -/

namespace Symbols

/-- The slice that holds a symbol. -/
def owner (slices : Symbols) (symbol : String) : Nat :=
  slices.symbols.idxOf symbol / slices.sliceSize

/-- Each symbol is in one slice. -/
theorem mem_getSlice_iff {slices : Symbols} (hnodup : slices.symbols.Nodup)
    (hsize : 0 < slices.sliceSize) (index : Nat) (symbol : String) :
    symbol ∈ slices.getSlice index 0 ↔
      symbol ∈ slices.symbols ∧ slices.owner symbol = index := by
  rw [mem_getSlice]
  constructor
  · rintro ⟨position, hstart, -, hend, hposition⟩
    have hlt : position < slices.symbols.length := (List.getElem?_eq_some_iff.mp hposition).1
    have hidx : slices.symbols.idxOf symbol = position := by
      have hsymbol : slices.symbols[position] = symbol :=
        Option.some.inj ((List.getElem?_eq_getElem hlt).symm.trans hposition)
      rw [← hsymbol]
      exact hnodup.idxOf_getElem position hlt
    refine ⟨List.mem_of_getElem? hposition, ?_⟩
    rw [owner, hidx]
    exact Nat.div_eq_of_lt_le hstart hend
  · rintro ⟨hmem, rfl⟩
    refine ⟨slices.symbols.idxOf symbol, Nat.div_mul_le_self _ _, Nat.zero_le _, ?_, ?_⟩
    · exact Nat.lt_mul_of_div_lt (Nat.lt_succ_self _) hsize
    · rw [List.getElem?_eq_getElem (List.idxOf_lt_length_of_mem hmem), List.getElem_idxOf]

private theorem owner_lt_size {slices : Symbols} (hsize : 0 < slices.sliceSize) {symbol : String}
    (hmem : symbol ∈ slices.symbols) : slices.owner symbol < slices.size := by
  have hlt := List.idxOf_lt_length_of_mem hmem
  rw [owner, size, Nat.div_lt_iff_lt_mul hsize]
  have hdiv := Nat.div_add_mod (slices.symbols.length + slices.sliceSize - 1) slices.sliceSize
  have hmod := Nat.mod_lt (slices.symbols.length + slices.sliceSize - 1) hsize
  rw [Nat.mul_comm] at hdiv
  omega

private theorem size_le_size_append (slices : Symbols) (symbols : List String) :
    slices.size ≤ (slices.append symbols).2.2.size := by
  simp only [size, append, List.length_append]
  apply Nat.div_le_div_right
  omega

end Symbols

/-! ## Names in the feed -/

namespace Feed

/-- The symbols that an event names. -/
def named : Event → List String
  | .metaReply env _ _ items => Rest.namedItems env items
  | .subscribe symbols => symbols
  | .ready _ => []
  | .disconnected _ => []

/-- The handler of a reply returns. After an exception symbols are known that no slice holds. -/
def Accepts (F : Type) [Double F] (feed : Feed) : Event → Prop
  | .metaReply env dexs index items =>
    (Rest.metaAck (F := F) env dexs index items feed.allSymbols).1 = .ok ()
  | _ => True

/-- What holds of a feed that has accepted its replies, and of the symbols that have been
named. -/
structure Holds (sliceSize : Nat) (feed : Feed) (names : List String) : Prop where
  inv : Inv feed
  sliceSize_eq : feed.slices.sliceSize = sliceSize
  mem_iff : ∀ symbol, symbol ∈ feed.slices.symbols ↔ symbol ∈ names
  known : ∀ symbol ∈ feed.allSymbols, symbol ∈ feed.slices.symbols
  size_eq : feed.marketData.length = feed.slices.size

/-- Before anything is named nothing has to be in a slice. -/
theorem holds_new (maxSubscriptionsPerStream : Nat) :
    Holds maxSubscriptionsPerStream (new maxSubscriptionsPerStream) [] where
  inv := inv_new maxSubscriptionsPerStream
  sliceSize_eq := rfl
  mem_iff _ := Iff.rfl
  known := nofun
  size_eq := by
    show 0 = (0 + maxSubscriptionsPerStream - 1) / maxSubscriptionsPerStream
    rw [eq_comm, Nat.div_eq_zero_iff]
    omega

variable {sliceSize : Nat} {feed : Feed} {names : List String}

private theorem Holds.mem_allSymbols_iff (h : Holds sliceSize feed names) (symbol : String) :
    symbol ∈ feed.allSymbols ↔ symbol ∈ names := by
  rw [← h.mem_iff]
  exact ⟨h.known symbol, h.inv.known symbol⟩

/-- An update with the fresh ones of the named symbols. -/
theorem Holds.symbolsUpdate (h : Holds sliceSize feed names) {symbols : List String}
    (more : List String)
    (hfresh : Fresh feed.allSymbols symbols)
    (hmore : ∀ symbol, symbol ∈ feed.allSymbols ++ symbols ↔
      symbol ∈ feed.allSymbols ∨ symbol ∈ more) :
    Holds sliceSize (symbolsUpdate symbols { feed with allSymbols := feed.allSymbols ++ symbols })
      (names ++ more) where
  inv := h.inv.symbolsUpdate hfresh
  sliceSize_eq := h.sliceSize_eq
  mem_iff symbol := by
    show symbol ∈ feed.slices.symbols ++ symbols ↔ _
    rw [List.mem_append, h.mem_iff, ← h.mem_allSymbols_iff, ← List.mem_append, hmore,
      h.mem_allSymbols_iff, ← List.mem_append]
  known symbol hsymbol := by
    show symbol ∈ feed.slices.symbols ++ symbols
    exact List.mem_append.mpr ((List.mem_append.mp hsymbol).imp_left (h.known symbol))
  size_eq := by
    have hle := feed.slices.size_le_size_append symbols
    rw [← h.size_eq] at hle
    show ((ensureSymbolSlices feed.marketData (feed.slices.append symbols).2.2.size).mapIdx
      _).length = (feed.slices.append symbols).2.2.size
    rw [List.length_mapIdx, ensureSymbolSlices, List.length_append, List.length_replicate,
      Nat.add_sub_cancel' hle]

private theorem mem_insertNew_iff (allSymbols symbols : List String) (symbol : String) :
    symbol ∈ (insertNew allSymbols symbols).1 ↔ symbol ∈ allSymbols ∨ symbol ∈ symbols := by
  induction symbols generalizing allSymbols with
  | nil => simp [insertNew]
  | cons first symbols ih =>
    rw [insertNew]
    split
    · next hknown =>
      rw [ih, List.mem_cons]
      refine ⟨.imp_right .inr, ?_⟩
      rintro (hmem | rfl | hmem)
      · exact .inl hmem
      · exact .inl (List.contains_iff_mem.mp hknown)
      · exact .inr hmem
    · show symbol ∈ (insertNew (allSymbols ++ [first]) symbols).1 ↔ _
      rw [ih, List.mem_append, List.mem_singleton, List.mem_cons, or_assoc]

/-- A client names its symbols. -/
theorem Holds.subscribe (h : Holds sliceSize feed names) (symbols : List String) :
    Holds sliceSize (subscribe symbols feed) (names ++ symbols) := by
  obtain ⟨hall, hfresh⟩ := insertNew_fresh feed.allSymbols symbols
  have hupdate := h.symbolsUpdate symbols hfresh fun symbol ↦ by
    rw [← hall, mem_insertNew_iff]
  rwa [← hall] at hupdate

variable (F : Type) [Double F]

/-- A meta reply names its symbols. -/
theorem Holds.metaAck (h : Holds sliceSize feed names) {env : Rest.MetaEnv} {dexs : List Dex}
    {index : Nat} {items : List Rest.GetMetaAckUniverseItem}
    (hok : (Rest.metaAck (F := F) env dexs index items feed.allSymbols).1 = .ok ()) :
    Holds sliceSize (metaAck F env dexs index items feed) (names ++ Rest.namedItems env items) := by
  obtain ⟨hall, hfresh⟩ := Rest.metaAck_fresh (F := F) env dexs index items feed.allSymbols
  have hupdate := h.symbolsUpdate (Rest.namedItems env items) hfresh fun symbol ↦ by
    rw [← hall, Rest.mem_metaAck_of_ok env hok]
  unfold Feed.metaAck
  dsimp only
  rw [hok, hall]
  exact hupdate

/-- A change of one stream names no symbol. -/
theorem Holds.modify (h : Holds sliceSize feed names) {position : Nat}
    {f : MarketDataStream → MarketDataStream}
    (hinv : Inv { feed with marketData := feed.marketData.modify position f }) :
    Holds sliceSize { feed with marketData := feed.marketData.modify position f }
      (names ++ []) := by
  rw [List.append_nil]
  exact ⟨hinv, h.sliceSize_eq, h.mem_iff, h.known, (List.length_modify ..).trans h.size_eq⟩

/-- An event names its symbols. -/
theorem Holds.step (h : Holds sliceSize feed names) {event : Event}
    (haccepts : Accepts F feed event) :
    Holds sliceSize (step F feed event) (names ++ named event) := by
  cases event with
  | metaReply env dexs index items => exact h.metaAck F haccepts
  | subscribe symbols => exact h.subscribe symbols
  | ready index => exact h.modify (h.inv.ready index)
  | disconnected index => exact h.modify (h.inv.disconnected index)

/-- A run names the symbols of its events. -/
theorem Holds.run (h : Holds sliceSize feed names) {events : List Event}
    (haccepts : Run.Along (Feed.step F) (Accepts F) feed events) :
    Holds sliceSize (events.foldl (Feed.step F) feed) (names ++ events.flatMap named) := by
  induction events generalizing feed names with
  | nil => exact (List.append_nil names).symm ▸ h
  | cons event events ih =>
    rw [List.flatMap_cons, ← List.append_assoc]
    exact ih (h.step F haccepts.1) haccepts.2

/-- What a ready stream has sent is read as one subscription, in each channel, to each of the
named symbols that its slice owns. -/
theorem Holds.countP (h : Holds sliceSize feed names) (hsize : 0 < sliceSize)
    (hplain : ∀ symbol ∈ names, Plain symbol) {index : Nat} {stream : MarketDataStream}
    (hstream : feed.marketData[index]? = some stream) (hready : stream.status = .ready)
    (subscription : Subscription) :
    (stream.sent.countP fun message ↦
        Subscription.ofText? message.text = some subscription) =
      if subscription.coin ∈ names ∧ feed.slices.owner subscription.coin = index then 1 else 0 := by
  rw [h.inv.countP_ofText (fun symbol hmem ↦ hplain symbol ((h.mem_iff symbol).mp hmem)) hstream
    hready]
  simp only [Symbols.mem_getSlice_iff h.inv.nodup (h.sliceSize_eq ▸ hsize), h.mem_iff]

/-- A named symbol is in the slice of a stream. -/
theorem Holds.owner_lt (h : Holds sliceSize feed names) (hsize : 0 < sliceSize) {symbol : String}
    (hmem : symbol ∈ names) : feed.slices.owner symbol < feed.marketData.length := by
  rw [h.size_eq]
  exact Symbols.owner_lt_size (h.sliceSize_eq ▸ hsize) ((h.mem_iff symbol).mpr hmem)

end Feed

/-! ## The gateway as a feed -/

namespace Rest

/-- An effect that leaves the symbols of the gateway. -/
def Effect.LeavesFeed : Effect → Prop
  | .setAllSymbols _ => False
  | .symbolsUpdate _ => False
  | _ => True

/-- A request for meta data leaves the feed. -/
theorem emits_getMeta (dex : List Dex) (sent : Except Exception Unit) (index : Nat) :
    (getMeta dex sent index).Emits Effect.LeavesFeed := by
  unfold getMeta
  split
  · exact (Proc.emits_ofThrows sent).bind fun _ _ ↦ (Proc.emits_emit _).mpr trivial
  · exact Proc.emits_fatal _

/-- A state of the download leaves the feed. -/
theorem emits_download (dex : List Dex) (sent : Except Exception Unit) (state : State) :
    (download dex sent state).Emits Effect.LeavesFeed := by
  have hpublish : ∀ status, (Proc.emit (.publish status) : Proc Effect Exception Unit).Emits
      Effect.LeavesFeed := fun _ ↦ (Proc.emits_emit _).mpr trivial
  have hsend : ∀ call, (sendRequest sent call).Emits Effect.LeavesFeed :=
    fun _ ↦ (Proc.emits_ofThrows sent).bind fun _ _ ↦ (Proc.emits_emit _).mpr trivial
  cases state with
  | undefined => exact Proc.emits_fatal _
  | spotMeta => exact (hpublish _).bind fun _ _ ↦ hsend _
  | perpDexs => exact (hpublish _).bind fun _ _ ↦ hsend _
  | metas => exact (hpublish _).bind fun _ _ ↦ emits_getMeta dex sent 0
  | done => exact hpublish _

/-- A state that is entered leaves the feed. -/
theorem emits_enter (dex : List Dex) (sent : Except Exception Unit) (state : State) :
    (enter dex sent state).Emits Effect.LeavesFeed :=
  Proc.Emits.bind ((Proc.emits_emit _).mpr trivial) fun _ _ ↦ emits_download dex sent state

/-- A check of the download leaves the feed. -/
theorem emits_check (dex : List Dex) (sent : Except Exception Unit) (leaves : Bool)
    (checked current : State) :
    (check dex sent leaves checked current).Emits Effect.LeavesFeed := by
  unfold check
  split
  · split
    · exact emits_enter dex sent _
    · exact Proc.emits_pure ()
  · exact Proc.emits_pure ()

/-- A reply leaves the feed if its success handler does. -/
theorem emits_processResponse (http : HttpLibrary) {reply : Reply}
    {successHandler : Body → Proc Effect Exception Unit}
    (h : ∀ status body, reply.response.result = .ok (status, .success, body) →
      (successHandler body).Emits Effect.LeavesFeed) :
    (processResponse http (Proc.emit .suspendFor) reply.response handleError
      successHandler).Emits Effect.LeavesFeed :=
  Gateway.emits_processResponse http ((Proc.emits_emit _).mpr trivial)
    (fun _ _ _ _ ↦ Proc.emits_pure ()) h

/-- The error handlers emit nothing: a success emits what its handler does. -/
theorem events_processResponse (http : HttpLibrary) {reply : Reply} {status : Web.Status}
    {body : Body} {successHandler : Body → Proc Effect Exception Unit}
    (h : reply.response.result = .ok (status, .success, body)) :
    (processResponse http (Proc.emit .suspendFor) reply.response handleError
      successHandler).events = (successHandler body).events := by
  unfold processResponse
  rw [h]
  dsimp only [dispatchCategory]
  unfold Proc.catchThrown
  split
  · next e _ =>
    rw [Stream.handleException_handleError]
    exact List.append_nil _
  · rfl

private theorem emits_ofFailure {α : Type} (x : Except (Failure String) α) :
    (ofFailure x).Emits Effect.LeavesFeed := by
  rcases x with (what | text) | a
  · exact Proc.emits_throw _
  · exact Proc.emits_fatal text
  · exact Proc.emits_pure a

/-- The reply with the spot meta data leaves the feed. -/
theorem emits_getSpotMetaAck (http : HttpLibrary) (view : View) (reply : Reply) :
    (getSpotMetaAck http view reply).Emits Effect.LeavesFeed := by
  apply emits_processResponse http
  intro _ body _
  split
  · exact Proc.emits_pure ()
  · exact (Proc.emits_ofExcept _ _).bind fun _ _ ↦ emits_check _ _ _ _ _

/-- The reply with the exchanges leaves the feed. -/
theorem emits_getPerpDexsAck (http : HttpLibrary) (env : MetaEnv) (view : View) (reply : Reply) :
    (getPerpDexsAck http env view reply).Emits Effect.LeavesFeed := by
  apply emits_processResponse http
  intro _ body _
  split
  · exact Proc.emits_pure ()
  · apply (Proc.emits_ofExcept _ _).bind
    intro items _
    apply (emits_ofFailure _).bind
    intro dex _
    exact Proc.Emits.bind ((Proc.emits_emit _).mpr trivial) fun _ _ ↦ emits_check _ _ _ _ _

end Rest

namespace Controller

variable {library : LimitRequest}

/-- What the reply to a `meta` request is to the feed: one event, if it is successful, not skipped
and decoded. -/
def replyEvents (env : ControllerEnv) (dex : List Dex) (reply : Rest.Reply) (index : Nat) :
    List Feed.Event :=
  match reply.response.result with
  | .ok (_, .success, body) =>
    if reply.skip then []
    else
      match body.metas with
      | .ok items => [.metaReply env.metaEnv dex index items]
      | .error _ => []
  | _ => []

/-- What an event of the gateway is to its feed. -/
def feedEvents (env : ControllerEnv) (controller : Controller library) (event : Event library) :
    List Feed.Event :=
  if controller.ended then []
  else
    match event with
    | .subscribe symbols => [.subscribe symbols]
    | .restReply position reply =>
      match controller.outstanding[position]? with
      | some (.metas index) => replyEvents env controller.dex reply index
      | _ => []
    | .marketDataReady index => [.ready index]
    | .marketDataDisconnected index => [.disconnected index]
    | _ => []

private theorem feed_foldl_of_emits {x : Proc Rest.Effect Exception Unit}
    (h : x.Emits Rest.Effect.LeavesFeed) (controller : Controller library) :
    (x.events.foldl apply controller).feed = controller.feed := by
  apply Run.invariant_foldl (fun other : Controller library ↦ other.feed = controller.feed)
    (P := fun _ effect ↦ effect.LeavesFeed) ?_ rfl (Run.along_of_forall _ h.forall_mem)
  intro other effect hother hleaves
  rw [← hother]
  cases effect <;> first | rfl | cases hleaves

private theorem feed_perform (x : Proc Rest.Effect Exception Unit)
    (controller : Controller library) :
    (perform x controller).feed = (x.events.foldl apply controller).feed := by
  unfold perform
  dsimp only
  split <;> rfl

private theorem feed_perform_of_emits {x : Proc Rest.Effect Exception Unit}
    (h : x.Emits Rest.Effect.LeavesFeed) (controller : Controller library) :
    (perform x controller).feed = controller.feed :=
  (feed_perform x controller).trans (feed_foldl_of_emits h controller)

variable (F : Type) [Double F] (env : ControllerEnv)

/-- What follows the symbols of a meta reply leaves the feed. -/
theorem emits_afterMeta (view : Rest.View) (reply : Rest.Reply) (index : Nat) :
    (Rest.Stream.afterMeta view reply index).Emits Rest.Effect.LeavesFeed := by
  unfold Rest.Stream.afterMeta
  split
  · exact Rest.emits_getMeta _ _ _
  · exact Rest.emits_check _ _ _ _ _

/-- A reply is nothing to the feed, and its handler leaves the symbols of the gateway, or it has
items, and the handler of the decoded reply publishes their symbols. -/
theorem getMetaAck_cases (view : Rest.View) (reply : Rest.Reply) (index : Nat) :
    (replyEvents env view.dex reply index = [] ∧
      (Rest.getMetaAck env.http env.metaEnv view reply F index).Emits Rest.Effect.LeavesFeed) ∨
    ∃ items, replyEvents env view.dex reply index =
        [.metaReply env.metaEnv view.dex index items] ∧
      (Rest.getMetaAck env.http env.metaEnv view reply F index).events =
        let ack := Rest.metaAck (F := F) env.metaEnv view.dex index items view.allSymbols
        .setAllSymbols ack.2.allSymbols ::
          match ack.1 with
          | .ok _ => .symbolsUpdate ack.2.symbols :: (Rest.Stream.afterMeta view reply index).events
          | .error _ => [] := by
  unfold replyEvents Rest.getMetaAck
  rcases hresult : reply.response.result with e | ⟨status, category, body⟩
  · left
    refine ⟨rfl, Rest.emits_processResponse env.http ?_⟩
    rintro _ _ hsuccess
    cases hresult.symm.trans hsuccess
  · cases category with
    | success =>
      cases hskip : reply.skip with
      | true =>
        left
        exact ⟨rfl, Rest.emits_processResponse env.http fun _ _ _ ↦ Proc.emits_pure ()⟩
      | false =>
        cases hitems : body.metas with
        | error what =>
          left
          refine ⟨by simp [hitems], Rest.emits_processResponse env.http ?_⟩
          rintro _ other hsuccess
          cases hresult.symm.trans hsuccess
          rw [hitems]
          exact Proc.emits_throw _
        | ok items =>
          right
          refine ⟨items, by simp [hitems], ?_⟩
          rw [Rest.events_processResponse env.http hresult]
          dsimp only
          rw [hitems, if_neg Bool.false_ne_true, Proc.ofExcept_ok, Proc.pure_bind]
          rcases Rest.metaAck (F := F) env.metaEnv view.dex index items view.allSymbols with
            ⟨(what | text) | _, run⟩
          · rfl
          · rfl
          · rfl
    | _ =>
      left
      refine ⟨rfl, Rest.emits_processResponse env.http ?_⟩
      rintro _ _ hsuccess
      cases hresult.symm.trans hsuccess

/-- The reply with the items of one exchange: its handler does what the feed does, and what
follows leaves the feed. -/
theorem feed_perform_getMetaAck (controller : Controller library) {view : Rest.View}
    (hview : view.allSymbols = controller.feed.allSymbols) (reply : Rest.Reply) (index : Nat) :
    (perform (Rest.getMetaAck env.http env.metaEnv view reply F index) controller).feed =
      (replyEvents env view.dex reply index).foldl (Feed.step F) controller.feed := by
  rcases getMetaAck_cases F env view reply index with ⟨hnone, hemits⟩ | ⟨items, hitems, hevents⟩
  · rw [hnone]
    exact feed_perform_of_emits hemits controller
  · rw [hitems, feed_perform, hevents, hview]
    show _ = Feed.metaAck F env.metaEnv view.dex index items controller.feed
    unfold Feed.metaAck
    rcases Rest.metaAck (F := F) env.metaEnv view.dex index items controller.feed.allSymbols with
      ⟨result, run⟩
    cases result with
    | error failure => rfl
    | ok _ => exact feed_foldl_of_emits (emits_afterMeta view reply index) _

/-- An event that may name symbols: one of a client, and the reply to a `meta` request. -/
def MayName (controller : Controller library) : Event library → Prop
  | .subscribe _ => True
  | .restReply position _ => ∃ index, controller.outstanding[position]? = some (.metas index)
  | _ => False

/-- The other handlers leave the symbols of the gateway. -/
theorem emits_handler (controller : Controller library) (event : Event library)
    (h : ¬ controller.MayName event) :
    (handler F env controller event).Emits Rest.Effect.LeavesFeed := by
  cases event with
  | subscribe symbols => exact absurd trivial h
  | restConnected sent =>
    dsimp only [handler]
    split
    · exact Proc.emits_pure ()
    · exact Rest.emits_enter _ _ _
  | restDisconnected =>
    apply Proc.Emits.bind ((Proc.emits_emit _).mpr trivial)
    intro _ _
    split
    · exact Proc.emits_pure ()
    · exact (Proc.emits_emit _).mpr trivial
  | restCallback sent =>
    dsimp only [handler]
    split
    · exact Rest.emits_download _ _ _
    · exact Proc.emits_pure ()
  | restReply position reply =>
    dsimp only [handler]
    cases hcall : controller.outstanding[position]? with
    | none => exact Proc.emits_pure ()
    | some call =>
      cases call with
      | spotMeta => exact Rest.emits_getSpotMetaAck env.http controller.view reply
      | perpDexs => exact Rest.emits_getPerpDexsAck env.http env.metaEnv controller.view reply
      | metas index => exact absurd ⟨index, hcall⟩ h
  | marketDataReady index => exact Proc.emits_pure ()
  | marketDataDisconnected index => exact Proc.emits_pure ()
  | session account event => exact Proc.emits_pure ()

/-- A step of the gateway does to its feed what the feed does on the events that the step is. -/
theorem feed_step (controller : Controller library) (event : Event library) :
    (step F env controller event).feed =
      (feedEvents env controller event).foldl (Feed.step F) controller.feed := by
  unfold step feedEvents
  split
  · rfl
  · cases event with
    | subscribe symbols => exact feed_perform _ controller
    | restConnected sent =>
      exact feed_perform_of_emits (emits_handler F env controller (.restConnected sent) not_false) _
    | restDisconnected =>
      exact feed_perform_of_emits (emits_handler F env controller .restDisconnected not_false) _
    | restCallback sent =>
      exact feed_perform_of_emits (emits_handler F env controller (.restCallback sent) not_false) _
    | restReply position reply =>
      dsimp only
      split
      · next index hcall =>
        have hview : controller.view.allSymbols = controller.feed.allSymbols := rfl
        dsimp only [handler]
        rw [hcall]
        exact feed_perform_getMetaAck F env { controller with
          outstanding := controller.outstanding.eraseIdx position } hview reply index
      · next hne =>
        apply feed_perform_of_emits
        apply emits_handler F env controller (.restReply position reply)
        rintro ⟨index, hcall⟩
        exact hne index hcall
    | marketDataReady index => rfl
    | marketDataDisconnected index => rfl
    | session account event =>
      show (stepSession env account event controller).feed = controller.feed
      unfold stepSession
      split <;> rfl

/-- What a run of the gateway is to its feed. -/
def feedRun (controller : Controller library) (events : List (Event library)) :
    List Feed.Event :=
  Run.outputs (step F env) (feedEvents env) controller events

/-- The symbols that the replies of the exchange and the clients name in a run. -/
def namedSymbols (controller : Controller library) (events : List (Event library)) :
    List String :=
  (feedRun F env controller events).flatMap Feed.named

/-- The handler of a decoded `meta` reply returns. -/
def Accepts (controller : Controller library) (event : Event library) : Prop :=
  Run.Along (Feed.step F) (Feed.Accepts F) controller.feed (feedEvents env controller event)

/-- In every run of the gateway whose decoded `meta` replies are accepted, each symbol that the
exchange or a client has named has one market data stream, and a ready stream has sent what the
exchange reads as one subscription, in each channel, to each symbol that it has, and as no other,
as long as no symbol needs an escape. -/
theorem subscribed_as_named (accounts : Nat) {maxSubscriptionsPerStream : Nat}
    (hmax : 0 < maxSubscriptionsPerStream) (events : List (Event library))
    (haccepts : Run.Along (step F env) (Accepts F env)
      (new library accounts maxSubscriptionsPerStream) events)
    (hplain : ∀ symbol ∈ namedSymbols F env (new library accounts maxSubscriptionsPerStream) events,
      Plain symbol) :
    let names := namedSymbols F env (new library accounts maxSubscriptionsPerStream) events
    let feed := (events.foldl (step F env) (new library accounts maxSubscriptionsPerStream)).feed
    ∃ owner : String → Nat,
      (∀ symbol ∈ names, owner symbol < feed.marketData.length) ∧
      ∀ index stream, feed.marketData[index]? = some stream → stream.status = .ready →
        ∀ subscription : Subscription,
          (stream.sent.countP fun message ↦
              Subscription.ofText? message.text = some subscription) =
            if subscription.coin ∈ names ∧ owner subscription.coin = index then 1 else 0 := by
  intro names feed
  have hstep := @feed_step library F _ env
  have hfeed : feed = (feedRun F env _ events).foldl (Feed.step F)
      (Feed.new maxSubscriptionsPerStream) := Run.view_foldl hstep _ events
  have hholds : Feed.Holds maxSubscriptionsPerStream feed names := by
    rw [hfeed]
    exact (Feed.holds_new maxSubscriptionsPerStream).run F (Run.along_outputs hstep haccepts)
  refine ⟨feed.slices.owner, fun symbol hsymbol ↦ hholds.owner_lt hmax hsymbol, ?_⟩
  intro index stream hstream hready subscription
  exact hholds.countP hmax hplain hstream hready subscription

/-- A download with one exchange and one symbol, and the market data stream of the symbol. -/
def downloadSymbol : List (Event oneSlot) :=
  downloadList [⟨""⟩] ++
    [.restReply 0 ⟨⟨.ok (.ok, .success, ⟨.ok (), .ok [], .ok [⟨"BTC", 5⟩]⟩)⟩, false, true, .ok ()⟩,
      .marketDataReady 0]

/-- One symbol is named, and the market data stream subscribes to it. -/
theorem subscribed_as_named_once :
    let feed := (downloadSymbol.foldl (step ℚ mainOnly) (new oneSlot 1 100)).feed
    ∃ owner : String → Nat,
      (∀ symbol ∈ ["BTC"], owner symbol < feed.marketData.length) ∧
      ∀ index stream, feed.marketData[index]? = some stream → stream.status = .ready →
        ∀ subscription : Subscription,
          (stream.sent.countP fun message ↦
              Subscription.ofText? message.text = some subscription) =
            if subscription.coin ∈ ["BTC"] ∧ owner subscription.coin = index then 1 else 0 := by
  have hnames : namedSymbols ℚ mainOnly (new oneSlot 1 100) downloadSymbol = ["BTC"] := by decide
  have haccepts : Run.Along (step ℚ mainOnly) (Accepts ℚ mainOnly) (new oneSlot 1 100)
      downloadSymbol :=
    ⟨trivial, trivial, trivial, ⟨rfl, trivial⟩, ⟨trivial, trivial⟩, trivial⟩
  have hplain : ∀ symbol ∈ namedSymbols ℚ mainOnly (new oneSlot 1 100) downloadSymbol,
      Plain symbol := by
    rw [hnames]
    exact List.forall_mem_singleton.mpr rfl
  have hread := subscribed_as_named ℚ mainOnly 1 (by decide) downloadSymbol haccepts hplain
  rw [hnames] at hread
  exact hread

end Controller
end Hyperliquid.Gateway
