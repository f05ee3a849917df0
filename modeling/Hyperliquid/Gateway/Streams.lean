import Hyperliquid.Base.Parts
import Hyperliquid.Gateway.OrderRequests
import Hyperliquid.Gateway.Subscriptions

/-!
# Streams and their numbers

The controller numbers its streams as it creates them, and hands every order request to the
stream of its account: `src/roq/hyperliquid/gateway/controller.cpp:46–87, 162–227, 229–317`.
The streams of an account share one signer.
-/

namespace Hyperliquid.Gateway

open Hyperliquid.Base Hyperliquid.Oms Hyperliquid.Tools

/-- `accounts_`: the names in the order in which the map is visited, and their API keys. -/
structure Accounts where
  names : List String
  nodup : names.Nodup
  key : String → String

/-- A map from the names of accounts to the numbers of their streams. -/
abbrev StreamMap := List (String × UInt16)

/-- `find`. -/
def StreamMap.find (account : String) (streams : StreamMap) : Option UInt16 :=
  (streams.find? (·.1 = account)).map Prod.snd

private theorem StreamMap.mem_of_find {streams : StreamMap} {account : String} {streamId : UInt16}
    (h : streams.find account = some streamId) : (account, streamId) ∈ streams := by
  obtain ⟨entry, hfind, rfl⟩ := Option.map_eq_some_iff.mp h
  have hname : entry.1 = account := by simpa using List.find?_some hfind
  rw [← hname]
  exact List.mem_of_find?_eq_some hfind

/-- The streams of the gateway. -/
structure Streams where
  /-- `settings.ws_api` -/
  wsApi : Bool
  accounts : Accounts
  /-- the signers of the accounts, by name -/
  signers : String → Crypto
  feed : Feed
  /-- `stream_id_` -/
  streamId : UInt16
  /-- the number of `rest_` -/
  rest : UInt16
  /-- the numbers of `market_data_` -/
  marketData : List UInt16
  webSocket : StreamMap
  orderEntry : StreamMap
  dropCopy : StreamMap
  /-- the process has ended -/
  ended : Bool

/-- An order request as the controller gets it. -/
inductive OrderEvent (F : Type) where
  | createOrder (account : String) (info : MessageInfo) (event : CreateOrder F) (order : Order)
    (refData : RefData) (requestId : String)
  | modifyOrder (account : String)
  | cancelOrder (account : String) (info : MessageInfo) (event : CancelOrder) (order : Order)
    (refData : RefData)
  | cancelAllOrders (account : String)
  | massQuote
  | cancelQuotes

/-- What a stream sends for an account. -/
structure Delivery where
  account : String
  streamId : UInt16
  sent : Sent

/-- A delivery without the number of the stream. -/
def Delivery.pair (delivery : Delivery) : String × Sent := (delivery.account, delivery.sent)

/-- The account and the request of an event that a stream sends. -/
def OrderEvent.request? {F : Type} (transport : Transport) :
    OrderEvent F → Option (String × OrderRequest F)
  | .createOrder account info event order refData requestId =>
    some (account, .create transport info event order refData requestId)
  | .cancelOrder account info event order refData =>
    some (account, .cancel transport info event order refData)
  | _ => none

namespace Streams

/-! ## Creation -/

/-- `++stream_id` for a number of streams. -/
def nextIds (streamId : UInt16) : Nat → List UInt16
  | 0 => []
  | n + 1 => (streamId + 1) :: nextIds (streamId + 1) n

/-- One stream for each account: the loop of `create_web_socket`, `create_order_entry` and
`create_drop_copy`, `controller.cpp:46–87`. -/
def createStreams (accounts : Accounts) (streamId : UInt16) : StreamMap :=
  accounts.names.zip (nextIds streamId accounts.names.length)

/-- `stream_id_` after a number of streams. -/
def advance (streamId : UInt16) (n : Nat) : UInt16 := streamId + UInt16.ofNat n

/-- `create_web_socket`. -/
def createWebSocket (streams : Streams) : Streams :=
  { streams with
    webSocket := createStreams streams.accounts streams.streamId
    streamId := advance streams.streamId streams.accounts.names.length }

/-- `create_order_entry`. -/
def createOrderEntry (streams : Streams) : Streams :=
  { streams with
    orderEntry := createStreams streams.accounts streams.streamId
    streamId := advance streams.streamId streams.accounts.names.length }

/-- `create_drop_copy`. -/
def createDropCopy (streams : Streams) : Streams :=
  { streams with
    dropCopy := createStreams streams.accounts streams.streamId
    streamId := advance streams.streamId streams.accounts.names.length }

/-- `ensure_symbol_slices`, `controller.cpp:266–274`: the numbers of the new streams. -/
def ensureSymbolSlices (size : Nat) (streams : Streams) : Streams :=
  let missing := size - streams.marketData.length
  { streams with
    marketData := streams.marketData ++ nextIds streams.streamId missing
    streamId := advance streams.streamId missing }

def ensureWebSocket (streams : Streams) : Streams :=
  if streams.wsApi && streams.webSocket.isEmpty then streams.createWebSocket else streams

def ensureOrderEntry (streams : Streams) : Streams :=
  if streams.orderEntry.isEmpty then streams.createOrderEntry else streams

def ensureDropCopy (streams : Streams) : Streams :=
  if streams.dropCopy.isEmpty then streams.createDropCopy else streams

/-- The streams of the accounts, `controller.cpp:236–261`. -/
def ensureAccountStreams (streams : Streams) : Streams :=
  if streams.accounts.names.isEmpty then streams
  else streams.ensureWebSocket.ensureOrderEntry.ensureDropCopy

/-- The state after construction: only `rest_` has a number. -/
def new (wsApi : Bool) (accounts : Accounts) (maxSubscriptionsPerStream : Nat) : Streams where
  wsApi := wsApi
  accounts := accounts
  signers name := Crypto.create (accounts.key name)
  feed := Feed.new maxSubscriptionsPerStream
  streamId := 1
  rest := 1
  marketData := []
  webSocket := []
  orderEntry := []
  dropCopy := []
  ended := false

/-! ## Events -/

/-- An event of the feed publishes a `SymbolsUpdate`. -/
def updates (F : Type) [Double F] (feed : Feed) : Feed.Event → Bool
  | .metaReply env dexs index items =>
    (Rest.metaAck (F := F) env dexs index items feed.allSymbols).1.isOk
  | .subscribe _ => true
  | .ready _ => false
  | .disconnected _ => false

/-- The symbols and the streams that need them, `controller.cpp:130–144, 229–262`. -/
def onFeed (F : Type) [Double F] (event : Feed.Event) (streams : Streams) : Streams :=
  let feed := streams.feed.step F event
  if updates F streams.feed event then
    ({ streams with feed }.ensureSymbolSlices feed.marketData.length).ensureAccountStreams
  else { streams with feed }

/-- `get_web_socket` and `get_order_entry`, `controller.cpp:301–315`, chosen by the settings. -/
def getStream (streams : Streams) (account : String) : Except (Failure String) UInt16 :=
  match (if streams.wsApi then streams.webSocket else streams.orderEntry).find account with
  | some streamId => .ok streamId
  | none => .error (.thrown ("Unknown account=\"" ++ account ++ "\""))

/-- The transport of the stream. -/
def transport (streams : Streams) : Transport := if streams.wsApi then .webSocket else .rest

variable {F : Type} [Double F] (env : Surroundings)

/-- A request is handed to the stream of its account, and sent. -/
def deliver (streams : Streams) (account : String) (request : OrderRequest F) :
    Except (Failure String) (Delivery × Streams) := do
  let streamId ← streams.getStream account
  let (sent, signer) ← request.handle env (streams.signers account)
  pure (⟨account, streamId, sent⟩,
    { streams with signers := Function.update streams.signers account signer })

/-- The stream of an account refuses the request: `Encoder::modify_order`, and the handlers of
`CancelAllOrders`. -/
def refuse (streams : Streams) (account : String) :
    Except (Failure String) (Delivery × Streams) := do
  let _ ← streams.getStream account
  throw (.thrown "not supported")

/-- The handlers of order requests, `controller.cpp:162–223`. -/
def onOrder (streams : Streams) : OrderEvent F → Except (Failure String) (Delivery × Streams)
  | .createOrder account info event order refData requestId =>
    streams.deliver env account (.create streams.transport info event order refData requestId)
  | .modifyOrder account => streams.refuse account
  | .cancelOrder account info event order refData =>
    streams.deliver (F := F) env account (.cancel streams.transport info event order refData)
  | .cancelAllOrders account => streams.refuse account
  | .massQuote => throw (.thrown "not supported")
  | .cancelQuotes => throw (.thrown "not supported")

/-- What happens to the controller. -/
inductive Event (F : Type) where
  | feed (event : Feed.Event)
  | order (event : OrderEvent F)

/-- One step, and what it sends. -/
def step (streams : Streams) (event : Event F) : Streams × Option Delivery :=
  if streams.ended then (streams, none)
  else
    match event with
    | .feed event => (streams.onFeed F event, none)
    | .order event =>
      match streams.onOrder env event with
      | .ok (delivery, streams) => (streams, some delivery)
      | .error (.thrown _) => (streams, none)
      | .error (.fatal _) => ({ streams with ended := true }, none)

/-- The state after a run. -/
def run (streams : Streams) (events : List (Event F)) : Streams :=
  events.foldl (fun streams event ↦ (streams.step env event).1) streams

/-- What is sent along a run. -/
def deliveries (streams : Streams) : List (Event F) → List Delivery
  | [] => []
  | event :: events =>
    (streams.step env event).2.toList ++ deliveries (streams.step env event).1 events

/-- The numbers of all streams. -/
def ids (streams : Streams) : List UInt16 :=
  streams.rest :: streams.marketData ++ streams.webSocket.map Prod.snd ++
    streams.orderEntry.map Prod.snd ++ streams.dropCopy.map Prod.snd

/-! ## Numbers -/

/-- The first numbers. -/
def numbers (n : Nat) : List UInt16 := (List.range' 1 n).map UInt16.ofNat

private theorem length_nextIds (streamId : UInt16) (n : Nat) : (nextIds streamId n).length = n := by
  induction n generalizing streamId with
  | zero => rfl
  | succ n ih => rw [nextIds, List.length_cons, ih]

private theorem nextIds_ofNat (n k : Nat) :
    nextIds (UInt16.ofNat n) k = (List.range' (n + 1) k).map UInt16.ofNat := by
  induction k generalizing n with
  | zero => rfl
  | succ k ih =>
    have hsucc : UInt16.ofNat n + 1 = UInt16.ofNat (n + 1) := (UInt16.ofNat_add n 1).symm
    rw [nextIds, hsucc, ih, List.range'_succ, List.map_cons]

private theorem numbers_append (n k : Nat) :
    numbers n ++ nextIds (UInt16.ofNat n) k = numbers (n + k) := by
  rw [numbers, numbers, nextIds_ofNat, ← List.map_append, Nat.add_comm n 1, List.range'_append_1]

/-- The numbers wrap to those in use after all of 16 bits. -/
theorem nodup_numbers_iff (n : Nat) : (numbers n).Nodup ↔ n ≤ 65536 := by
  constructor
  · intro h
    by_contra hlt
    have hfirst : (numbers n)[0]? = some (UInt16.ofNat 1) := by
      rw [numbers, List.getElem?_map, List.getElem?_range' (by omega)]
      rfl
    have hwrapped : (numbers n)[65536]? = some (UInt16.ofNat 1) := by
      rw [numbers, List.getElem?_map, List.getElem?_range' (by omega)]
      rfl
    have hlength : (numbers n).length = n := by simp [numbers]
    have heq := (List.getElem?_inj (by omega) h).mp (hfirst.trans hwrapped.symm)
    omega
  · intro h
    refine List.Nodup.map_on ?_ List.nodup_range'
    intro i hi j hj heq
    rw [List.mem_range'_1] at hi hj
    have hmod := congrArg UInt16.toNat heq
    rw [UInt16.toNat_ofNat', UInt16.toNat_ofNat'] at hmod
    omega

/-- The streams have the first numbers. -/
structure Numbered (streams : Streams) : Prop where
  streamId : streams.streamId = UInt16.ofNat streams.ids.length
  ids : streams.ids.Perm (numbers streams.ids.length)

/-- New streams get the next numbers. -/
theorem Numbered.extend {streams streams' : Streams} (h : Numbered streams) {n : Nat}
    (hids : streams'.ids.Perm (streams.ids ++ nextIds streams.streamId n))
    (hstreamId : streams'.streamId = advance streams.streamId n) : Numbered streams' := by
  have hlength : streams'.ids.length = streams.ids.length + n := by
    rw [hids.length_eq, List.length_append, length_nextIds]
  constructor
  · rw [hlength, hstreamId, h.streamId, advance, UInt16.ofNat_add]
  · rw [hlength, ← numbers_append, ← h.streamId]
    exact hids.trans (h.ids.append_right _)

private theorem map_snd_createStreams (accounts : Accounts) (streamId : UInt16) :
    (createStreams accounts streamId).map Prod.snd =
      nextIds streamId accounts.names.length := by
  rw [createStreams, List.map_snd_zip]
  rw [length_nextIds]

private theorem map_fst_createStreams (accounts : Accounts) (streamId : UInt16) :
    (createStreams accounts streamId).map Prod.fst = accounts.names := by
  rw [createStreams, List.map_fst_zip]
  rw [length_nextIds]

private theorem numbered_new (wsApi : Bool) (accounts : Accounts)
    (maxSubscriptionsPerStream : Nat) :
    Numbered (new wsApi accounts maxSubscriptionsPerStream) := ⟨rfl, .rfl⟩

/-- Streams of symbols that are added are numbered on. -/
theorem Numbered.ensureSymbolSlices {streams : Streams} (h : Numbered streams) (size : Nat) :
    Numbered (streams.ensureSymbolSlices size) := by
  refine h.extend ?_ rfl
  rw [List.perm_iff_count]
  intro id
  simp only [Streams.ensureSymbolSlices, Streams.ids, List.count_append, List.count_cons]
  omega

private theorem Numbered.ensureWebSocket {streams : Streams} (h : Numbered streams) :
    Numbered streams.ensureWebSocket := by
  unfold Streams.ensureWebSocket
  split
  · next hcreate =>
    have hempty := List.isEmpty_iff.mp (Bool.and_eq_true_iff.mp hcreate).2
    refine h.extend ?_ rfl
    rw [List.perm_iff_count]
    intro id
    simp only [createWebSocket, Streams.ids, map_snd_createStreams, hempty, List.map_nil,
      List.count_append, List.count_cons, List.count_nil]
    omega
  · exact h

private theorem Numbered.ensureOrderEntry {streams : Streams} (h : Numbered streams) :
    Numbered streams.ensureOrderEntry := by
  unfold Streams.ensureOrderEntry
  split
  · next hcreate =>
    have hempty := List.isEmpty_iff.mp hcreate
    refine h.extend ?_ rfl
    rw [List.perm_iff_count]
    intro id
    simp only [createOrderEntry, Streams.ids, map_snd_createStreams, hempty, List.map_nil,
      List.count_append, List.count_cons, List.count_nil]
    omega
  · exact h

private theorem Numbered.ensureDropCopy {streams : Streams} (h : Numbered streams) :
    Numbered streams.ensureDropCopy := by
  unfold Streams.ensureDropCopy
  split
  · next hcreate =>
    have hempty := List.isEmpty_iff.mp hcreate
    refine h.extend ?_ rfl
    rw [List.perm_iff_count]
    intro id
    simp only [createDropCopy, Streams.ids, map_snd_createStreams, hempty, List.map_nil,
      List.count_append, List.count_cons, List.count_nil]
    omega
  · exact h

private theorem Numbered.ensureAccountStreams {streams : Streams} (h : Numbered streams) :
    Numbered streams.ensureAccountStreams := by
  unfold Streams.ensureAccountStreams
  split
  · exact h
  · exact h.ensureWebSocket.ensureOrderEntry.ensureDropCopy

private theorem Numbered.onFeed {streams : Streams} (h : Numbered streams) (event : Feed.Event) :
    Numbered (streams.onFeed F event) := by
  have hfeed : Numbered { streams with feed := streams.feed.step F event } := ⟨h.1, h.2⟩
  unfold Streams.onFeed
  dsimp only
  split
  · exact (hfeed.ensureSymbolSlices _).ensureAccountStreams
  · exact hfeed

/-! ## The streams of the accounts -/

/-- There are no streams of accounts yet. -/
structure Delayed (streams : Streams) : Prop where
  webSocket : streams.webSocket = []
  orderEntry : streams.orderEntry = []
  dropCopy : streams.dropCopy = []

/-- Every account has its streams. -/
structure Started (streams : Streams) : Prop where
  webSocket : streams.webSocket.map Prod.fst = if streams.wsApi then streams.accounts.names else []
  orderEntry : streams.orderEntry.map Prod.fst = streams.accounts.names
  dropCopy : streams.dropCopy.map Prod.fst = streams.accounts.names

private theorem Delayed.ensureAccountStreams {streams : Streams} (h : Delayed streams) :
    Started streams.ensureAccountStreams := by
  unfold Streams.ensureAccountStreams
  split
  · next hnames =>
    have hempty := List.isEmpty_iff.mp hnames
    constructor
    · rw [h.webSocket, hempty, ite_self]
      rfl
    · rw [h.orderEntry, hempty]
      rfl
    · rw [h.dropCopy, hempty]
      rfl
  · have hweb := h.webSocket
    have horder := h.orderEntry
    have hdrop := h.dropCopy
    cases hws : streams.wsApi with
    | true =>
      constructor <;> simp [ensureWebSocket, ensureOrderEntry, ensureDropCopy, createWebSocket,
        createOrderEntry, createDropCopy, map_fst_createStreams, hweb, horder, hdrop, hws]
    | false =>
      constructor <;> simp [ensureWebSocket, ensureOrderEntry, ensureDropCopy,
        createOrderEntry, createDropCopy, map_fst_createStreams, hweb, horder, hdrop, hws]

private theorem isEmpty_eq_false_of_map {streams : StreamMap} {names : List String}
    (h : streams.map Prod.fst = names) (hnames : names.isEmpty = false) :
    streams.isEmpty = false := by
  rw [← h, List.isEmpty_map] at hnames
  exact hnames

/-- The streams of the accounts are created once. -/
theorem Started.ensureAccountStreams {streams : Streams} (h : Started streams) :
    streams.ensureAccountStreams = streams := by
  unfold Streams.ensureAccountStreams
  split
  · rfl
  · next hnames =>
    rw [Bool.not_eq_true] at hnames
    have horder := isEmpty_eq_false_of_map h.orderEntry hnames
    have hdrop := isEmpty_eq_false_of_map h.dropCopy hnames
    have hweb : (streams.wsApi && streams.webSocket.isEmpty) = false := by
      cases hws : streams.wsApi with
      | false => rfl
      | true =>
        have hmap := h.webSocket
        rw [hws, if_pos rfl] at hmap
        rw [isEmpty_eq_false_of_map hmap hnames]
        rfl
    simp [ensureWebSocket, ensureOrderEntry, ensureDropCopy, hweb, horder, hdrop]

/-- What holds after every event. -/
structure Inv (streams : Streams) : Prop where
  numbered : Numbered streams
  tables : Delayed streams ∨ Started streams

/-- The invariant holds when the gateway starts. -/
theorem inv_new (wsApi : Bool) (accounts : Accounts) (maxSubscriptionsPerStream : Nat) :
    Inv (new wsApi accounts maxSubscriptionsPerStream) :=
  ⟨numbered_new _ _ _, .inl ⟨rfl, rfl, rfl⟩⟩

private theorem Inv.onFeed {streams : Streams} (h : Inv streams) (event : Feed.Event) :
    Inv (streams.onFeed F event) := by
  refine ⟨h.numbered.onFeed event, ?_⟩
  unfold Streams.onFeed
  dsimp only
  split
  · right
    rcases h.tables with hnone | hall
    · have hdelayed : Delayed ({ streams with feed := streams.feed.step F event }.ensureSymbolSlices
          (streams.feed.step F event).marketData.length) := ⟨hnone.1, hnone.2, hnone.3⟩
      exact hdelayed.ensureAccountStreams
    · have hstarted : Started ({ streams with feed := streams.feed.step F event }.ensureSymbolSlices
          (streams.feed.step F event).marketData.length) := ⟨hall.1, hall.2, hall.3⟩
      rw [hstarted.ensureAccountStreams]
      exact hstarted
  · rcases h.tables with hnone | hall
    · exact .inl ⟨hnone.1, hnone.2, hnone.3⟩
    · exact .inr ⟨hall.1, hall.2, hall.3⟩

/-! ## Steps -/

private theorem deliver_eq_ok {streams streams' : Streams} {account : String}
    {request : OrderRequest F}
    {delivery : Delivery} (h : streams.deliver env account request = .ok (delivery, streams')) :
    ∃ streamId sent signer, streams.getStream account = .ok streamId ∧
      request.handle env (streams.signers account) = .ok (sent, signer) ∧
      delivery = ⟨account, streamId, sent⟩ ∧
      streams' = { streams with signers := Function.update streams.signers account signer } := by
  obtain ⟨streamId, hstream, h⟩ := bind_eq_ok.mp h
  obtain ⟨⟨sent, signer⟩, hhandle, h⟩ := bind_eq_ok.mp h
  obtain ⟨rfl, rfl⟩ := Prod.mk.inj (Except.ok.inj h)
  exact ⟨streamId, sent, signer, hstream, hhandle, rfl, rfl⟩

private theorem refuse_ne_ok (streams : Streams) (account : String) (result : Delivery × Streams) :
    streams.refuse account ≠ .ok result := by
  intro h
  obtain ⟨_, _, h⟩ := bind_eq_ok.mp h
  cases h

/-- Only new orders and cancellations are sent. -/
theorem onOrder_eq_ok {streams : Streams} {event : OrderEvent F} {result : Delivery × Streams}
    (h : streams.onOrder env event = .ok result) :
    ∃ account request, event.request? streams.transport = some (account, request) ∧
      streams.deliver env account request = .ok result := by
  cases event with
  | createOrder account info event order refData requestId => exact ⟨_, _, rfl, h⟩
  | modifyOrder account => exact absurd h (refuse_ne_ok _ _ _)
  | cancelOrder account info event order refData => exact ⟨_, _, rfl, h⟩
  | cancelAllOrders account => exact absurd h (refuse_ne_ok _ _ _)
  | massQuote => cases h
  | cancelQuotes => cases h

/-- What a step can do. -/
theorem step_cases (streams : Streams) (event : Event F) :
    (∃ feedEvent, streams.step env event = (streams.onFeed F feedEvent, none)) ∨
    (∃ account streamId sent signer, streams.getStream account = .ok streamId ∧
      streams.step env event =
        ({ streams with signers := Function.update streams.signers account signer },
          some ⟨account, streamId, sent⟩)) ∨
    ∃ ended, streams.step env event = ({ streams with ended }, none) := by
  unfold step
  split
  · exact .inr (.inr ⟨streams.ended, rfl⟩)
  · cases event with
    | feed event => exact .inl ⟨event, rfl⟩
    | order event =>
      dsimp only
      cases hresult : streams.onOrder env event with
      | error failure =>
        cases failure with
        | thrown what => exact .inr (.inr ⟨streams.ended, rfl⟩)
        | fatal text => exact .inr (.inr ⟨true, rfl⟩)
      | ok result =>
        obtain ⟨delivery, streams'⟩ := result
        obtain ⟨account, request, _, hdeliver⟩ := onOrder_eq_ok env hresult
        obtain ⟨streamId, sent, signer, hstream, _, rfl, rfl⟩ := deliver_eq_ok env hdeliver
        exact .inr (.inl ⟨account, streamId, sent, signer, hstream, rfl⟩)

/-- An event keeps the invariant. -/
theorem Inv.step {streams : Streams} (h : Inv streams) (event : Event F) :
    Inv (streams.step env event).1 := by
  rcases step_cases env streams event with
    ⟨feedEvent, hstep⟩ | ⟨account, streamId, sent, signer, _, hstep⟩ | ⟨ended, hstep⟩
  · rw [hstep]
    exact h.onFeed feedEvent
  · rw [hstep]
    exact ⟨⟨h.numbered.1, h.numbered.2⟩, h.tables.imp (fun hd ↦ ⟨hd.1, hd.2, hd.3⟩)
      fun hs ↦ ⟨hs.1, hs.2, hs.3⟩⟩
  · rw [hstep]
    exact ⟨⟨h.numbered.1, h.numbered.2⟩, h.tables.imp (fun hd ↦ ⟨hd.1, hd.2, hd.3⟩)
      fun hs ↦ ⟨hs.1, hs.2, hs.3⟩⟩

/-- A run keeps the invariant. -/
theorem Inv.run {streams : Streams} (h : Inv streams) (events : List (Event F)) :
    Inv (streams.run env events) :=
  Run.invariant_foldl Inv (P := fun _ _ ↦ True) (fun _ event hinv _ ↦ hinv.step env event) h
    (Run.along_true _ events)

/-- The numbers of the streams are distinct as long as 16 bits can count them. -/
theorem nodup_ids_iff (wsApi : Bool) (accounts : Accounts) (maxSubscriptionsPerStream : Nat)
    (events : List (Event F)) :
    let streams := (new wsApi accounts maxSubscriptionsPerStream).run env events
    streams.ids.Nodup ↔ streams.ids.length ≤ 65536 := by
  intro streams
  have hinv := (inv_new wsApi accounts maxSubscriptionsPerStream).run env events
  rw [hinv.numbered.ids.nodup_iff, nodup_numbers_iff]

/-! ## Where requests go -/

/-- The stream of an account stays its stream. -/
theorem getStream_onFeed {streams : Streams} (h : Inv streams) (event : Feed.Event)
    {account : String} {streamId : UInt16} (hstream : streams.getStream account = .ok streamId) :
    (streams.onFeed F event).getStream account = .ok streamId := by
  have hstarted : Started streams := by
    rcases h.tables with hnone | hall
    · rw [getStream, hnone.webSocket, hnone.orderEntry, ite_self] at hstream
      cases hstream
    · exact hall
  have hstarted' : Started ({ streams with feed := streams.feed.step F event }.ensureSymbolSlices
      (streams.feed.step F event).marketData.length) :=
    ⟨hstarted.1, hstarted.2, hstarted.3⟩
  unfold onFeed
  dsimp only
  split
  · rw [hstarted'.ensureAccountStreams]
    exact hstream
  · exact hstream

private theorem getStream_step {streams : Streams} (h : Inv streams) (event : Event F)
    {account : String}
    {streamId : UInt16} (hstream : streams.getStream account = .ok streamId) :
    (streams.step env event).1.getStream account = .ok streamId := by
  rcases step_cases env streams event with ⟨feedEvent, hstep⟩ | ⟨_, _, _, _, _, hstep⟩ | ⟨_, hstep⟩
  · rw [hstep]
    exact getStream_onFeed h feedEvent hstream
  · rw [hstep]
    exact hstream
  · rw [hstep]
    exact hstream

private theorem getStream_run {streams : Streams} (h : Inv streams) (events : List (Event F))
    {account : String} {streamId : UInt16} (hstream : streams.getStream account = .ok streamId) :
    (streams.run env events).getStream account = .ok streamId := by
  induction events generalizing streams with
  | nil => exact hstream
  | cons event events ih => exact ih (h.step env event) (getStream_step env h event hstream)

/-- Whatever was sent for an account was sent by its stream. -/
theorem getStream_of_mem_deliveries {streams : Streams} (h : Inv streams)
    (events : List (Event F)) : ∀ delivery ∈ streams.deliveries env events,
      (streams.run env events).getStream delivery.account = .ok delivery.streamId := by
  induction events generalizing streams with
  | nil => exact List.forall_mem_nil _
  | cons event events ih =>
    intro delivery hdelivery
    rw [deliveries] at hdelivery
    rcases List.mem_append.mp hdelivery with hhead | htail
    · rcases step_cases env streams event with
        ⟨_, hstep⟩ | ⟨account, streamId, sent, signer, hstream, hstep⟩ | ⟨_, hstep⟩
      · rw [hstep] at hhead
        cases hhead
      · have hkeeps := getStream_run env (h.step env event) events
          (getStream_step env h event hstream)
        rw [hstep] at hhead
        rw [List.mem_singleton.mp hhead]
        exact hkeeps
      · rw [hstep] at hhead
        cases hhead
    · exact ih (h.step env event) delivery htail

/-- The streams that requests go to. -/
def orderStreams (streams : Streams) : StreamMap :=
  if streams.wsApi then streams.webSocket else streams.orderEntry

private theorem mem_orderStreams {streams : Streams} {account : String} {streamId : UInt16}
    (h : streams.getStream account = .ok streamId) :
    (account, streamId) ∈ streams.orderStreams := by
  unfold getStream at h
  split at h
  · next hfind =>
    rw [← Except.ok.inj h]
    exact StreamMap.mem_of_find hfind
  · cases h

private theorem sublist_ids (streams : Streams) :
    (streams.orderStreams.map Prod.snd).Sublist streams.ids := by
  unfold orderStreams ids
  split
  · exact ((List.sublist_append_right _ _).trans (List.sublist_append_left _ _)).trans
      (List.sublist_append_left _ _)
  · exact (List.sublist_append_right _ _).trans (List.sublist_append_left _ _)

/-- Everything that is sent for an account is sent by one stream, and by a stream of its own as
long as 16 bits can count the streams. -/
theorem streamId_eq_iff (wsApi : Bool) (accounts : Accounts) (maxSubscriptionsPerStream : Nat)
    (events : List (Event F))
    (hcount : ((new wsApi accounts maxSubscriptionsPerStream).run env events).ids.length ≤ 65536) :
    let deliveries := (new wsApi accounts maxSubscriptionsPerStream).deliveries env events
    ∀ delivery ∈ deliveries, ∀ delivery' ∈ deliveries,
      delivery.streamId = delivery'.streamId ↔ delivery.account = delivery'.account := by
  intro deliveries delivery hmem delivery' hmem'
  have hinv := inv_new wsApi accounts maxSubscriptionsPerStream
  have hstream := getStream_of_mem_deliveries env hinv events delivery hmem
  have hstream' := getStream_of_mem_deliveries env hinv events delivery' hmem'
  constructor
  · intro heq
    have hnodup := hinv.run env events
    have hids := hnodup.numbered.ids.nodup_iff.mpr ((nodup_numbers_iff _).mpr hcount)
    have htable := hids.sublist (sublist_ids _)
    exact (Prod.mk.inj (List.inj_on_of_nodup_map htable (mem_orderStreams hstream)
      (mem_orderStreams hstream') heq)).1
  · intro heq
    rw [heq, hstream'] at hstream
    exact (Except.ok.inj hstream).symm

/-! ## What each account sends -/

/-- Signing as the step of one account. -/
def sign (account : Crypto) (request : OrderRequest F) : Crypto × List Sent :=
  match request.handle env account with
  | .ok (sent, account) => (account, [sent])
  | .error _ => (account, [])

/-- Requests that do not end the process are signed one after the other. -/
theorem emits_sign (account : Crypto) (requests : List (OrderRequest F))
    (h : ∀ request ∈ requests, ∀ text, request.action env ≠ .error (.fatal text)) :
    Parts.emits (sign env) account requests = sendAll env account requests := by
  induction requests generalizing account with
  | nil => rfl
  | cons request requests ih =>
    obtain ⟨hrequest, hrequests⟩ := List.forall_mem_cons.mp h
    rw [Parts.emits, sendAll, sign, OrderRequest.handle_eq]
    cases haction : request.action env with
    | ok action => exact congrArg _ (ih _ hrequests)
    | error failure =>
      cases failure with
      | thrown what => exact ih _ hrequests
      | fatal text => exact absurd haction (hrequest text)

/-- The request that a step hands to a stream, unless it ends the process. -/
def handed? (streams : Streams) (event : Event F) : Option (String × OrderRequest F) :=
  if streams.ended then none
  else
    match event with
    | .feed _ => none
    | .order event =>
      match event.request? streams.transport with
      | none => none
      | some (account, request) =>
        match streams.getStream account, request.action env with
        | .error _, _ => none
        | .ok _, .error (.fatal _) => none
        | .ok _, _ => some (account, request)

/-- The requests that a run hands to the streams. -/
def handed (streams : Streams) : List (Event F) → List (String × OrderRequest F)
  | [] => []
  | event :: events =>
    (streams.handed? env event).toList ++ handed (streams.step env event).1 events

private theorem signers_ensureAccountStreams (streams : Streams) :
    streams.ensureAccountStreams.signers = streams.signers := by
  unfold ensureAccountStreams ensureDropCopy ensureOrderEntry ensureWebSocket
  split_ifs <;> rfl

private theorem signers_onFeed (streams : Streams) (event : Feed.Event) :
    (streams.onFeed F event).signers = streams.signers := by
  unfold onFeed
  dsimp only
  split
  · rw [signers_ensureAccountStreams]
    rfl
  · rfl

private theorem onOrder_of_request {streams : Streams} {event : OrderEvent F} {account : String}
    {request : OrderRequest F}
    (h : event.request? streams.transport = some (account, request)) :
    streams.onOrder env event = streams.deliver env account request := by
  cases event <;> cases h <;> rfl

private theorem onOrder_of_none {streams : Streams} {event : OrderEvent F}
    (h : event.request? streams.transport = none) :
    ∃ what, streams.onOrder env event = .error (.thrown what) := by
  have hrefuse (account : String) : ∃ what, streams.refuse account = .error (.thrown what) := by
    unfold refuse getStream
    split
    · exact ⟨_, rfl⟩
    · exact ⟨_, rfl⟩
  cases event with
  | createOrder account info event order refData requestId => cases h
  | modifyOrder account => exact hrefuse account
  | cancelOrder account info event order refData => cases h
  | cancelAllOrders account => exact hrefuse account
  | massQuote => exact ⟨_, rfl⟩
  | cancelQuotes => exact ⟨_, rfl⟩

private theorem getStream_cases (streams : Streams) (account : String) :
    (∃ streamId, streams.getStream account = .ok streamId) ∨
      ∃ what, streams.getStream account = .error (.thrown what) := by
  unfold getStream
  split
  · exact .inl ⟨_, rfl⟩
  · exact .inr ⟨_, rfl⟩

/-- A step signs the request that it hands over, and touches no other signer. -/
theorem step_handed (streams : Streams) (event : Event F) (rest : List (String × OrderRequest F)) :
    Parts.emitsAll (sign env) streams.signers ((streams.handed? env event).toList ++ rest) =
      (streams.step env event).2.toList.map Delivery.pair ++
        Parts.emitsAll (sign env) (streams.step env event).1.signers rest := by
  unfold handed? step
  by_cases hended : streams.ended = true
  · rw [if_pos hended, if_pos hended]
    rfl
  · rw [if_neg hended, if_neg hended]
    cases event with
    | feed event =>
      dsimp only
      rw [signers_onFeed]
      rfl
    | order event =>
      dsimp only
      cases hrequest : event.request? streams.transport with
      | none =>
        obtain ⟨what, hthrown⟩ := onOrder_of_none env hrequest
        rw [hthrown]
        rfl
      | some handed =>
        obtain ⟨account, request⟩ := handed
        rw [onOrder_of_request env hrequest, deliver]
        dsimp only
        rcases getStream_cases streams account with ⟨streamId, hstream⟩ | ⟨what, hstream⟩
        · rw [hstream, OrderRequest.handle_eq]
          cases haction : request.action env with
          | ok action =>
            simp only [Option.toList_some, List.cons_append, List.nil_append, Parts.emitsAll, sign,
              OrderRequest.handle_eq, haction]
            rfl
          | error failure =>
            cases failure with
            | thrown what =>
              simp only [Option.toList_some, List.cons_append, List.nil_append, Parts.emitsAll,
                sign, OrderRequest.handle_eq, haction]
              exact congrArg (Parts.emitsAll (sign env) · rest) (Function.update_eq_self _ _)
            | fatal text => rfl
        · rw [hstream]
          rfl

private theorem map_pair_deliveries (streams : Streams) (events : List (Event F)) :
    (streams.deliveries env events).map Delivery.pair =
      Parts.emitsAll (sign env) streams.signers (streams.handed env events) := by
  induction events generalizing streams with
  | nil => rfl
  | cons event events ih => rw [deliveries, handed, step_handed, List.map_append, ih]

/-- A request that is handed over does not end the process. -/
theorem action_of_mem_handed (streams : Streams) (events : List (Event F)) :
    ∀ handed ∈ streams.handed env events, ∀ text,
      handed.2.action env ≠ .error (.fatal text) := by
  induction events generalizing streams with
  | nil => exact List.forall_mem_nil _
  | cons event events ih =>
    intro request hrequest
    rw [handed] at hrequest
    rcases List.mem_append.mp hrequest with hhead | htail
    · rw [Option.mem_toList] at hhead
      unfold handed? at hhead
      grind
    · exact ih _ request htail

private theorem ofKey_deliveries (streams : Streams) (events : List (Event F)) (account : String) :
    Parts.ofKey account ((streams.deliveries env events).map Delivery.pair) =
      sendAll env (streams.signers account)
        (Parts.ofKey account (streams.handed env events)) := by
  rw [map_pair_deliveries, Parts.ofKey_emitsAll, emits_sign]
  intro request hrequest
  rw [Parts.mem_ofKey] at hrequest
  exact action_of_mem_handed env streams events _ hrequest

/-- What an account sends in a run of the gateway is what it sends alone: the requests of other
accounts, the symbols and the streams do not matter. -/
theorem sent_of_account (wsApi : Bool) (accounts : Accounts) (maxSubscriptionsPerStream : Nat)
    (events : List (Event F)) (account : String) :
    let streams := new wsApi accounts maxSubscriptionsPerStream
    Parts.ofKey account ((streams.deliveries env events).map Delivery.pair) =
      sendAll env (Crypto.create (accounts.key account))
        (Parts.ofKey account (streams.handed env events)) := by
  intro streams
  exact ofKey_deliveries env streams events account

private theorem length_handed_le (streams : Streams) (events : List (Event F)) :
    (streams.handed env events).length ≤ events.length := by
  induction events generalizing streams with
  | nil => exact Nat.le_refl 0
  | cons event events ih =>
    have hhead : (streams.handed? env event).toList.length ≤ 1 := by
      cases streams.handed? env event with
      | none => exact Nat.zero_le 1
      | some request => exact Nat.le_refl 1
    have htail := ih (streams.step env event).1
    rw [handed, List.length_append, List.length_cons]
    omega

/-- In a run of the gateway the nonces that an account sends increase, for any clock and whatever
the other accounts do. None is before the time of its request, and they run ahead of the clock by
at most one for each request. -/
theorem noncesFollow_of_account (wsApi : Bool) (accounts : Accounts)
    (maxSubscriptionsPerStream : Nat) (events : List (Event F)) (account : String)
    (hlength : events.length < 2 ^ 62) :
    let streams := new wsApi accounts maxSubscriptionsPerStream
    NoncesFollow (Crypto.create (accounts.key account))
      (sentTimes env (Parts.ofKey account (streams.handed env events)))
      ((Parts.ofKey account ((streams.deliveries env events).map Delivery.pair)).filterMap
        Sent.bodyNonce?) := by
  intro streams
  have hhanded := length_handed_le env streams events
  have hrequests := Parts.length_ofKey_le account (streams.handed env events)
  have hstart : (Crypto.create (accounts.key account)).nonce.toInt = 0 := rfl
  rw [ofKey_deliveries]
  exact noncesFollow_sendAll env _ _ (by omega) (by omega)

end Streams

/-- Two accounts. -/
def Accounts.two : Accounts := ⟨["A", "B"], by decide, fun name ↦ name⟩

/-- A cancel request of an account in the first millisecond. -/
def Streams.cancelEvent (account : String) : Streams.Event ℚ :=
  .order (.cancelOrder account ⟨1, 1000000⟩ ⟨1, 1⟩ ⟨1, 1, "", "1"⟩ ⟨0, 2⟩)

/-- Two requests of one account in one millisecond, around one of another account. -/
def Streams.cancelEvents : List (Streams.Event ℚ) :=
  [.feed (.subscribe ["BTC"]), cancelEvent "A", cancelEvent "B", cancelEvent "A"]

/-- What is sent in this run over the WebSocket. -/
def Streams.cancelDeliveries : List Delivery :=
  (Streams.new true .two 10).deliveries .fixed cancelEvents

example : Streams.cancelDeliveries.map
    (fun delivery ↦ (delivery.account, delivery.streamId, delivery.sent.bodyNonce?)) =
      [("A", 3, some 1), ("B", 4, some 1), ("A", 3, some 2)] := by decide

/-- The first two deliveries. -/
theorem streamId_eq_iff_cancel :
    (Streams.cancelDeliveries.get ⟨0, by decide⟩).streamId =
        (Streams.cancelDeliveries.get ⟨1, by decide⟩).streamId ↔
      (Streams.cancelDeliveries.get ⟨0, by decide⟩).account =
        (Streams.cancelDeliveries.get ⟨1, by decide⟩).account :=
  Streams.streamId_eq_iff .fixed true .two 10 Streams.cancelEvents (by decide) _
    (List.get_mem _ _) _ (List.get_mem _ _)

/-- The two requests in one millisecond. -/
theorem noncesFollow_of_account_cancel :
    NoncesFollow (Crypto.create "A")
      (sentTimes .fixed (Parts.ofKey "A"
        ((Streams.new true .two 10).handed .fixed Streams.cancelEvents)))
      ((Parts.ofKey "A" (Streams.cancelDeliveries.map Delivery.pair)).filterMap
        Sent.bodyNonce?) :=
  Streams.noncesFollow_of_account .fixed true .two 10 Streams.cancelEvents "A" (by decide)

end Hyperliquid.Gateway
