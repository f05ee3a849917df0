import Hyperliquid.Gateway.OrderReports
import Hyperliquid.Gateway.Subscriptions

/-!
# The texts of information requests and subscriptions

The bodies of the `/info` requests, `src/roq/hyperliquid/gateway/rest.cpp:237, 344, 420–425` and
`src/roq/hyperliquid/gateway/order_entry.cpp:244–251, 291–300, 345–354, 464–496, 575–584`, and the
subscriptions of the market data, `src/roq/hyperliquid/gateway/market_data.cpp:488–512`. Names are
put between quotes as they are, so a text is read back for names that need no escapes.
-/

namespace Hyperliquid.Gateway

open Hyperliquid.Base Hyperliquid.Base.JsonDocument Hyperliquid.Oms Hyperliquid.Tools

/-! ## Objects of strings -/

/-- The text of an object whose members are strings. -/
def stringsText (members : List (String × String)) : String :=
  "\x7b" ++ String.intercalate "," (members.map fun member ↦
    "\"" ++ member.1 ++ "\":\"" ++ member.2 ++ "\"") ++ "\x7d"

/-- The object as it is read. -/
def stringsTree (members : List (String × String)) : Tree :=
  .object (members.map fun member ↦ (member.1, .string member.2))

/-- Texts that need no escapes. -/
def Plain (text : String) : Prop := text.toList.all isPlain = true

instance (text : String) : Decidable (Plain text) :=
  inferInstanceAs (Decidable (text.toList.all isPlain = true))

private theorem spells_stringsText {members : List (String × String)}
    (h : ∀ member ∈ members, Plain member.1 ∧ Plain member.2) :
    Spells (stringsText members).toList (stringsTree members) := by
  rw [stringsText, toList_braces]
  apply spells_object
  induction members with
  | nil => exact .nil
  | cons member members ih =>
    obtain ⟨⟨hname, hvalue⟩, hmembers⟩ := List.forall_mem_cons.mp h
    refine .cons ?_ (ih hmembers)
    have htext : ("\"" ++ member.1 ++ "\":\"" ++ member.2 ++ "\"").toList =
        memberText member.1.toList (quoted member.2.toList) := by
      simp only [memberText, quoted, String.toList_append, String.reduceToList, List.cons_append,
        List.nil_append, List.append_assoc]
    rw [htext]
    exact spells_entry hname (spells_quoted hvalue)

/-! ## Information requests -/

/-- What is asked of `/info`. -/
inductive InfoRequest where
  | spotMeta
  | perpDexs
  | metaOf (dex : String)
  | spotClearinghouseState (user : String)
  | clearinghouseState (user dex : String)
  | openOrders (user dex : String)
  | userFills (user dex : String)
  | orderStatus (user : String) (name : OrderName)
  deriving DecidableEq, Repr

namespace InfoRequest

/-- The members that are strings. -/
def members : InfoRequest → List (String × String)
  | spotMeta => [("type", "spotMeta")]
  | perpDexs => [("type", "perpDexs")]
  | metaOf dex => [("type", "meta"), ("dex", dex)]
  | spotClearinghouseState user => [("type", "spotClearinghouseState"), ("user", user)]
  | clearinghouseState user dex => [("type", "clearinghouseState"), ("user", user), ("dex", dex)]
  | openOrders user dex => [("type", "openOrders"), ("user", user), ("dex", dex)]
  | userFills user dex => [("type", "userFills"), ("user", user), ("dex", dex)]
  | orderStatus user (.oid _) => [("type", "orderStatus"), ("user", user)]
  | orderStatus user (.cloid text) => [("type", "orderStatus"), ("user", user), ("oid", text)]

/-- The body. -/
def text : InfoRequest → String
  | orderStatus user (.oid value) =>
    (OrderStatusBody.mk user (.external (toString value))).format
  | orderStatus user (.cloid cloid) => (OrderStatusBody.mk user (.cloid cloid)).format
  | request => stringsText request.members

/-- The request that the exchange takes a tree for. -/
def ofTree : Tree → Option InfoRequest
  | .object [("type", .string type)] =>
    if type = "spotMeta" then some spotMeta
    else if type = "perpDexs" then some perpDexs
    else none
  | .object [("type", .string type), (name, .string value)] =>
    if type = "meta" ∧ name = "dex" then some (metaOf value)
    else if type = "spotClearinghouseState" ∧ name = "user" then
      some (spotClearinghouseState value)
    else none
  | .object [("type", .string type), ("user", .string user), (name, .string value)] =>
    if type = "clearinghouseState" ∧ name = "dex" then some (clearinghouseState user value)
    else if type = "openOrders" ∧ name = "dex" then some (openOrders user value)
    else if type = "userFills" ∧ name = "dex" then some (userFills user value)
    else if type = "orderStatus" ∧ name = "oid" then some (orderStatus user (.cloid value))
    else none
  | .object [("type", .string type), ("user", .string user), ("oid", .integer value)] =>
    if type = "orderStatus" then some (orderStatus user (.oid value)) else none
  | _ => none

/-- The request that the exchange reads from a body. -/
def ofText? (text : String) : Option InfoRequest := parse text.toList >>= ofTree

/-- The request as it is read. -/
def tree : InfoRequest → Tree
  | orderStatus user (.oid value) =>
    .object [("type", .string "orderStatus"), ("user", .string user), ("oid", .integer value)]
  | request => stringsTree request.members

private theorem ofTree_tree (request : InfoRequest) : ofTree request.tree = some request := by
  cases request with
  | orderStatus user name => cases name <;> rfl
  | _ => rfl

/-- The names that are put into the text. -/
def inserted : InfoRequest → List String
  | spotMeta => []
  | perpDexs => []
  | metaOf dex => [dex]
  | spotClearinghouseState user => [user]
  | clearinghouseState user dex => [user, dex]
  | openOrders user dex => [user, dex]
  | userFills user dex => [user, dex]
  | orderStatus user (.oid _) => [user]
  | orderStatus user (.cloid text) => [user, text]

private theorem plain_members {request : InfoRequest} (h : ∀ text ∈ request.inserted, Plain text) :
    ∀ member ∈ request.members, Plain member.1 ∧ Plain member.2 := by
  have hnames : Plain "type" ∧ Plain "user" ∧ Plain "dex" ∧ Plain "oid" := by decide
  have htypes : Plain "spotMeta" ∧ Plain "perpDexs" ∧ Plain "meta" ∧
      Plain "spotClearinghouseState" ∧ Plain "clearinghouseState" ∧ Plain "openOrders" ∧
      Plain "userFills" ∧ Plain "orderStatus" := by decide
  cases request with
  | orderStatus user name => cases name <;> simp_all [members, inserted]
  | _ => simp_all [members, inserted]

private theorem toList_format_orderStatus (user : String) (oid : Oid) :
    (OrderStatusBody.mk user oid).format.toList =
      objectText [memberText "type".toList (quoted "orderStatus".toList),
        memberText "user".toList (quoted user.toList),
        memberText "oid".toList oid.format.toList] := by
  show ("\x7b\"type\":\"orderStatus\",\"user\":\"" ++ user ++ "\",\"oid\":" ++ oid.format ++
    "\x7d").toList = _
  simp only [memberText, objectText, quoted, String.toList_append, String.reduceToList,
    List.intercalate_cons_cons, List.intercalate_singleton, List.cons_append, List.nil_append,
    List.append_assoc]

private theorem spells_orderStatus {user : String} (huser : Plain user) {oid : Oid} {tree : Tree}
    (h : Spells oid.format.toList tree) :
    Spells (OrderStatusBody.mk user oid).format.toList
      (.object [("type", .string "orderStatus"), ("user", .string user), ("oid", tree)]) := by
  have htype : Spells (quoted "orderStatus".toList) (.string "orderStatus") := spells_quoted rfl
  rw [toList_format_orderStatus]
  exact spells_object (.cons (spells_entry rfl htype)
    (.cons (spells_entry rfl (spells_quoted huser)) (.cons (spells_entry rfl h) .nil)))

/-- The text of a request spells its tree. -/
theorem spells_text {request : InfoRequest} (h : ∀ text ∈ request.inserted, Plain text) :
    Spells request.text.toList request.tree := by
  have hmembers := plain_members h
  cases request with
  | orderStatus user name =>
    have huser : Plain user := by
      cases name <;> exact h user (List.mem_cons_self ..)
    cases name with
    | oid value => exact spells_orderStatus huser (spells_integer value)
    | cloid text =>
      have htext : Plain text := h text (List.mem_cons_of_mem _ (List.mem_cons_self ..))
      have hquoted : (Oid.cloid text).format.toList = quoted text.toList := by
        simp only [Oid.format, quoted, String.toList_append, String.reduceToList,
          List.cons_append, List.nil_append]
      apply spells_orderStatus huser
      rw [hquoted]
      exact spells_quoted htext
  | _ => exact spells_stringsText hmembers

private theorem ofText?_text {request : InfoRequest} (h : ∀ text ∈ request.inserted, Plain text) :
    ofText? request.text = some request := by
  simp only [ofText?, parse_of_spells (spells_text h), Option.bind_eq_bind, Option.bind_some]
  exact ofTree_tree request

/-- Every information request is read by the exchange as the request that was meant, and no two
of them have one text. -/
theorem read_iff {request request' : InfoRequest} (h : ∀ text ∈ request.inserted, Plain text)
    (h' : ∀ text ∈ request'.inserted, Plain text) :
    ofText? request.text = some request ∧ (request.text = request'.text ↔ request = request') := by
  refine ⟨ofText?_text h, ?_, congrArg text⟩
  intro heq
  have hread := ofText?_text h
  rw [heq, ofText?_text h'] at hread
  exact (Option.some.inj hread).symm

/-- The open orders of one user on two dexes. -/
theorem read_iff_dexs :
    ofText? (openOrders "0x0" "a").text = some (openOrders "0x0" "a") ∧
      ((openOrders "0x0" "a").text = (openOrders "0x0" "b").text ↔
        openOrders "0x0" "a" = openOrders "0x0" "b") :=
  read_iff (by decide) (by decide)

end InfoRequest

/-! ## What is asked and sent about a reported order -/

section

variable {F : Type} [Double F]

/-- After any reports of the exchange, what the gateway sends about an order is read as the order
that was reported with its client id: the cancellation, on both transports, and the request for
its status. -/
theorem read_as_reported (env : Surroundings) (hdump : ∀ tree, tree.exact = true →
      env.lib.dump tree = String.ofList tree.dump)
    (hfromChars : ∀ value : Int64, env.lib.fromChars (toString value.toInt) = .ok value)
    {reportEnv : ReportEnv} {reports : List (Report F)} {order : Order}
    (hinformed : Informed (published reportEnv reports) order) {key : String} (hkey : Plain key)
    {transport : Transport} {info : MessageInfo} {event : CancelOrder} {refData : RefData}
    {account signer : Crypto} {sent : Sent}
    (hhandle : (OrderRequest.cancel transport info event order refData :
      OrderRequest F).handle env account = .ok (sent, signer)) :
    ∃ reported ∈ allReported reports,
      getClientOrderId reported.order.cloid = order.clientOrderId ∧
        sent.action?.bind cancelledOrder? = some (.oid reported.order.oid.toInt) ∧
        InfoRequest.ofText? (orderStatusBody key order.clientOrderId order.externalOrderId).format =
          some (.orderStatus key (.oid reported.order.oid.toInt)) := by
  obtain ⟨reported, hreported, hexternal, hclient⟩ := exists_reported_of_informed hinformed
  refine ⟨reported, hreported, hclient,
    cancelledOrder?_of_handle env hdump hfromChars hexternal hhandle, ?_⟩
  have hbody : (orderStatusBody key order.clientOrderId order.externalOrderId).format =
      (InfoRequest.orderStatus key (.oid reported.order.oid.toInt)).text := by
    rw [orderStatusBody, hexternal, isEmpty_externalOrderId]
    rfl
  have hplain : ∀ text ∈ (InfoRequest.orderStatus key (.oid reported.order.oid.toInt)).inserted,
      Plain text := List.forall_mem_singleton.mpr hkey
  rw [hbody]
  exact InfoRequest.ofText?_text hplain

/-- Surroundings that print actions and read decimal numerals. -/
def Surroundings.reading : Surroundings :=
  { Surroundings.fixed with
    lib :=
      { fromChars := fun text ↦ (integer? text.toList).elim (.error "") (.ok ∘ Int64.ofInt)
        undefinedRawText := ""
        dump := fun tree ↦ String.ofList tree.dump } }

private theorem fromChars_reading (value : Int64) :
    Surroundings.reading.lib.fromChars (toString value.toInt) = .ok value := by
  show (integer? (toString value.toInt).toList).elim _ _ = _
  rw [integer?_toString]
  exact congrArg Except.ok (Int64.ofInt_toInt value)

/-- An open order of the exchange, with the id 7. -/
def openOrderSeven : OrderItem ℚ := ⟨"BTC", .bid, 1, 1, 7, 0, 2, "0x1"⟩

/-- The order as it is known after the report, and its cancellation. -/
def cancelSeven (transport : Transport) : OrderRequest ℚ :=
  .cancel transport ⟨1, 1000000⟩ ⟨1, 1⟩ ⟨1, 1, "7", "1"⟩ ⟨0, 2⟩

/-- What is sent for the cancellation. -/
def sentSeven (transport : Transport) : Sent × Crypto :=
  (cancelSeven transport).sent .reading (Crypto.create "0x0")
    (.object [("type", .string "cancel"),
      ("cancels", .array [.object [("a", .unsigned 0), ("o", .integer 7)]])])

/-- The cancellation over the WebSocket, and the request for the status. -/
theorem read_as_reported_seven :
    ∃ reported ∈ allReported [.openOrders [openOrderSeven]],
      getClientOrderId reported.order.cloid = "1" ∧
        (sentSeven .webSocket).1.action?.bind cancelledOrder? =
          some (.oid reported.order.oid.toInt) ∧
        InfoRequest.ofText? (orderStatusBody "0x0" "1" "7").format =
          some (.orderStatus "0x0" (.oid reported.order.oid.toInt)) :=
  have hinformed : Informed (published ⟨"A", ⟨"X", [], false⟩, fun _ ↦ ""⟩
      [.openOrders [openOrderSeven]]) ⟨1, 1, "7", "1"⟩ :=
    ⟨_, .head _, by decide, by decide⟩
  have hhandle : (cancelSeven .webSocket).handle .reading (Crypto.create "0x0") =
      .ok (sentSeven .webSocket) := rfl
  have hkey : Plain "0x0" := rfl
  read_as_reported .reading (fun _ _ ↦ rfl) fromChars_reading hinformed hkey hhandle

end

/-! ## Subscriptions -/

/-- The text of a subscription. -/
def subscribeText (members : List (String × String)) : String :=
  "\x7b\"method\":\"subscribe\",\"subscription\":" ++ stringsText members ++ "\x7d"

/-- The name that a channel is subscribed by. -/
def Channel.text : Channel → String
  | bbo => "bbo"
  | l2Book => "l2Book"
  | trades => "trades"
  | activeAssetCtx => "activeAssetCtx"

/-- `subscribe`, `market_data.cpp:493–503`. -/
def Subscription.text (subscription : Subscription) : String :=
  subscribeText [("type", subscription.type.text), ("coin", subscription.coin)]

private theorem spells_subscribeText {members : List (String × String)}
    (h : ∀ member ∈ members, Plain member.1 ∧ Plain member.2) :
    Spells (subscribeText members).toList
      (.object [("method", .string "subscribe"), ("subscription", stringsTree members)]) := by
  have htext : (subscribeText members).toList =
      objectText [memberText "method".toList (quoted "subscribe".toList),
        memberText "subscription".toList (stringsText members).toList] := by
    show ("\x7b\"method\":\"subscribe\",\"subscription\":" ++ stringsText members ++
      "\x7d").toList = _
    simp only [memberText, objectText, quoted, String.toList_append, String.reduceToList,
      List.intercalate_cons_cons, List.intercalate_singleton, List.cons_append, List.nil_append]
  have hmethod : Spells (quoted "subscribe".toList) (.string "subscribe") := spells_quoted rfl
  rw [htext]
  exact spells_object (.cons (spells_entry rfl hmethod)
    (.cons (spells_entry rfl (spells_stringsText h)) .nil))

/-- The channel of a name. -/
def Channel.ofText? (text : String) : Option Channel :=
  if text = "bbo" then some bbo
  else if text = "l2Book" then some l2Book
  else if text = "trades" then some trades
  else if text = "activeAssetCtx" then some activeAssetCtx
  else none

/-- The subscription that the exchange takes a tree for. -/
def Subscription.ofTree : Tree → Option Subscription
  | .object [("method", .string "subscribe"),
      ("subscription", .object [("type", .string type), ("coin", .string coin)])] =>
    (Channel.ofText? type).map (Subscription.mk · coin)
  | _ => none

/-- The subscription that the exchange reads from a message. -/
def Subscription.ofText? (text : String) : Option Subscription :=
  parse text.toList >>= Subscription.ofTree

private theorem Subscription.ofText?_text {subscription : Subscription}
    (h : Plain subscription.coin) :
    Subscription.ofText? subscription.text = some subscription := by
  have hnames : Plain "type" ∧ Plain "coin" := by decide
  have htype : Plain subscription.type.text := by cases subscription.type <;> decide
  have hmembers : ∀ member ∈ [("type", subscription.type.text), ("coin", subscription.coin)],
      Plain member.1 ∧ Plain member.2 := by
    intro member hmember
    rcases List.mem_pair.mp hmember with rfl | rfl
    · exact ⟨hnames.1, htype⟩
    · exact ⟨hnames.2, h⟩
  rw [Subscription.ofText?, Subscription.text, parse_of_spells (spells_subscribeText hmembers)]
  obtain ⟨type, coin⟩ := subscription
  cases type <;> rfl

/-- As long as the names of all symbols need no escapes, the exchange reads one subscription to
each symbol of its slice in each channel from what a ready stream has sent, and no other. -/
theorem Feed.Inv.countP_ofText {feed : Feed} (h : Feed.Inv feed)
    (hplain : ∀ symbol ∈ feed.slices.symbols, Plain symbol) {index : Nat}
    {stream : MarketDataStream} (hstream : feed.marketData[index]? = some stream)
    (hready : stream.status = .ready) (subscription : Subscription) :
    (stream.sent.countP fun message ↦
        Subscription.ofText? message.text = some subscription) =
      if subscription.coin ∈ feed.slices.getSlice index 0 then 1 else 0 := by
  have hsubscribed := h.subscribed index stream hstream hready
  have hread : ∀ message ∈ stream.sent,
      Subscription.ofText? message.text = some message := by
    intro message hmessage
    have hcount := List.count_pos_iff.mpr hmessage
    rw [hsubscribed, List.count_pos_iff] at hcount
    obtain ⟨_, _, _, _, hsymbol⟩ := Symbols.mem_getSlice.mp hcount
    exact Subscription.ofText?_text (hplain _ (List.mem_of_getElem? hsymbol))
  have hcountP : (stream.sent.countP fun message ↦
      Subscription.ofText? message.text = some subscription) =
        stream.sent.count subscription := by
    rw [List.count]
    apply List.countP_congr
    intro message hmessage
    rw [hread message hmessage]
    simp
  rw [hcountP, hsubscribed]
  split
  · next hmem => exact List.count_eq_one_of_mem (Symbols.nodup_getSlice h.nodup _ _) hmem
  · next hmem => exact List.count_eq_zero_of_not_mem hmem

/-- In every run each ready stream is read as subscribing to its slice. -/
theorem subscriptions_read {F : Type} [Double F] (maxSubscriptionsPerStream : Nat)
    (events : List Feed.Event)
    (hplain : ∀ symbol ∈ (events.foldl (Feed.step F)
      (Feed.new maxSubscriptionsPerStream)).slices.symbols, Plain symbol) :
    let feed := events.foldl (Feed.step F) (Feed.new maxSubscriptionsPerStream)
    ∀ index stream, feed.marketData[index]? = some stream → stream.status = .ready →
      ∀ subscription : Subscription,
        (stream.sent.countP fun message ↦
            Subscription.ofText? message.text = some subscription) =
          if subscription.coin ∈ feed.slices.getSlice index 0 then 1 else 0 := by
  intro feed index stream hstream hready subscription
  have hinv : Feed.Inv feed := by
    apply Run.invariant_foldl Feed.Inv (P := fun _ _ ↦ True) (fun _ event h _ ↦ h.step event)
      (Feed.inv_new maxSubscriptionsPerStream)
    exact Run.along_true _ events
  exact hinv.countP_ofText hplain hstream hready subscription

/-- One symbol, and the stream of its slice. -/
def oneSymbol : List Feed.Event := [.subscribe ["BTC"], .ready 0]

/-- What the stream has sent when it is ready. -/
def oneSymbolSent : List Subscription :=
  [⟨.bbo, "BTC"⟩, ⟨.l2Book, "BTC"⟩, ⟨.trades, "BTC"⟩, ⟨.activeAssetCtx, "BTC"⟩]

/-- The trades of the symbol. -/
theorem subscriptions_read_one :
    (oneSymbolSent.countP fun message ↦
        Subscription.ofText? message.text = some ⟨.trades, "BTC"⟩) =
      if "BTC" ∈ (oneSymbol.foldl (Feed.step ℚ) (Feed.new 10)).slices.getSlice 0 0 then 1
      else 0 :=
  have hplain : ∀ symbol ∈ (oneSymbol.foldl (Feed.step ℚ) (Feed.new 10)).slices.symbols,
      Plain symbol := List.forall_mem_singleton.mpr rfl
  subscriptions_read 10 oneSymbol hplain 0 ⟨.ready, oneSymbolSent⟩ rfl rfl ⟨.trades, "BTC"⟩

end Hyperliquid.Gateway
