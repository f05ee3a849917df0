import Hyperliquid.Gateway.OrderRequests
import Hyperliquid.Tools.PrintedJson

/-!
# What is signed and what is sent

The exchange reads a JSON text and checks a signature over the MessagePack form of the action.
Both hold the same action, whichever transport carries the text.
-/

namespace Hyperliquid.Tools

open Hyperliquid.Base Hyperliquid.Base.JsonDocument

/-! ## The request body -/

private theorem isPlain_digitChar (n : Nat) : isPlain (Nat.digitChar (n % 16)) = true := by
  have hall : ∀ k < 16, isPlain (Nat.digitChar k) = true := by decide
  exact hall _ (Nat.mod_lt _ (by decide))

private theorem toList_hexPrinter (bytes : List UInt8) :
    (hexPrinter bytes).toList =
      bytes.flatMap fun b ↦ [Nat.digitChar (b.toNat / 16), Nat.digitChar (b.toNat % 16)] :=
  String.toList_ofList

/-- Digits in base 16 stand for themselves. -/
theorem all_isPlain_hexPrinter (bytes : List UInt8) :
    ("0x" ++ hexPrinter bytes).toList.all isPlain = true := by
  have hdigits : ∀ b : UInt8, isPlain (Nat.digitChar (b.toNat / 16)) = true ∧
      isPlain (Nat.digitChar (b.toNat % 16)) = true := by
    intro b
    have hb : b.toNat / 16 = b.toNat / 16 % 16 := by
      have := b.toNat_lt
      omega
    rw [hb]
    exact ⟨isPlain_digitChar _, isPlain_digitChar _⟩
  rw [String.toList_append, List.all_append, toList_hexPrinter, Bool.and_eq_true]
  refine ⟨rfl, List.all_eq_true.mpr ?_⟩
  intro c hc
  obtain ⟨b, _, hc⟩ := List.mem_flatMap.mp hc
  rcases List.mem_pair.mp hc with rfl | rfl
  · exact (hdigits b).1
  · exact (hdigits b).2

/-- The signature as it is read from a body. -/
def Signature.tree (signature : Signature) : Tree :=
  .object [("r", .string ("0x" ++ hexPrinter signature.r)),
    ("s", .string ("0x" ++ hexPrinter signature.s)), ("v", .integer signature.v)]

/-- A request body as it is read. -/
def bodyTree (action : Tree) (nonce : Int64) (signature : Signature) (expiresAfter : Int64) :
    Tree :=
  .object [("action", action), ("nonce", .integer nonce.toInt), ("signature", signature.tree),
    ("expiresAfter", .integer expiresAfter.toInt)]

/-- A name that needs no escapes. -/
theorem spells_entry {name : String} (hname : name.toList.all isPlain = true)
    {text : List Char} {tree : Tree} (h : Spells text tree) :
    SpellsMember (memberText name.toList text) (name, tree) := by
  have hmember := spells_member (spellsContent_plain hname) h
  rwa [String.ofList_toList] at hmember

private theorem spells_hexPrinter (bytes : List UInt8) :
    Spells (quoted ("0x" ++ hexPrinter bytes).toList) (.string ("0x" ++ hexPrinter bytes)) := by
  have h := spells_string (spellsContent_plain (all_isPlain_hexPrinter bytes))
  rwa [String.ofList_toList] at h

/-- The text of an object, member by member. -/
theorem toList_braces (members : List String) :
    ("\x7b" ++ String.intercalate "," members ++ "\x7d").toList =
      objectText (members.map String.toList) := by
  rw [String.toList_append, String.toList_append, String.toList_intercalate]
  rfl

private theorem toList_format_action (text : String) :
    (Member.format (.action text)).toList = memberText "action".toList text.toList := by
  show ("\"action\":" ++ text).toList = _
  simp only [memberText, quoted, String.toList_append, String.reduceToList, List.cons_append,
    List.nil_append]

private theorem toList_format_nonce (count : Int64) :
    (Member.format (.nonce count)).toList =
      memberText "nonce".toList (toString count.toInt).toList := by
  show ("\"nonce\":" ++ toString count.toInt).toList = _
  simp only [memberText, quoted, String.toList_append, String.reduceToList, List.cons_append,
    List.nil_append]

private theorem toList_format_expiresAfter (count : Int64) :
    (Member.format (.expiresAfter count)).toList =
      memberText "expiresAfter".toList (toString count.toInt).toList := by
  show ("\"expiresAfter\":" ++ toString count.toInt).toList = _
  simp only [memberText, quoted, String.toList_append, String.reduceToList, List.cons_append,
    List.nil_append]

/-- The text of a signature. -/
def signatureText (signature : Signature) : List Char :=
  objectText [memberText "r".toList (quoted ("0x" ++ hexPrinter signature.r).toList),
    memberText "s".toList (quoted ("0x" ++ hexPrinter signature.s).toList),
    memberText "v".toList (toString signature.v).toList]

private theorem toList_format_signature (signature : Signature) :
    (Member.format (.signature signature)).toList =
      memberText "signature".toList (signatureText signature) := by
  show ("\"signature\":\x7b\"r\":\"0x" ++ hexPrinter signature.r ++ "\",\"s\":\"0x" ++
    hexPrinter signature.s ++ "\",\"v\":" ++ toString signature.v ++ "\x7d").toList = _
  simp only [signatureText, memberText, objectText, quoted, String.toList_append,
    String.reduceToList, List.intercalate_cons_cons, List.intercalate_singleton,
    List.cons_append, List.nil_append, List.append_assoc]

private theorem spells_signature (signature : Signature) :
    Spells (signatureText signature) signature.tree :=
  spells_object (.cons (spells_entry rfl (spells_hexPrinter _))
    (.cons (spells_entry rfl (spells_hexPrinter _))
      (.cons (spells_entry rfl (spells_natural _)) .nil)))

/-- The text of a body stands for the body. -/
theorem spells_body {action : String} {tree : Tree} (h : Spells action.toList tree)
    (nonce : Int64) (signature : Signature) (expiresAfter : Int64) :
    Spells (Body.format [.action action, .nonce nonce, .signature signature,
      .expiresAfter expiresAfter]).toList (bodyTree tree nonce signature expiresAfter) := by
  rw [Body.format, toList_braces]
  simp only [List.map_cons, List.map_nil, toList_format_action, toList_format_nonce,
    toList_format_signature, toList_format_expiresAfter]
  exact spells_object (.cons (spells_entry rfl h)
    (.cons (spells_entry rfl (spells_integer _))
      (.cons (spells_entry rfl (spells_signature _))
        (.cons (spells_entry rfl (spells_integer _)) .nil))))

end Hyperliquid.Tools

namespace Hyperliquid.Tools.Encoder

open Hyperliquid.Base Hyperliquid.Oms

/-! ## The actions -/

section

variable {F : Type} [Double F] {lib : Library}

omit [Double F] in
private theorem exact_orderTypeHelper2 {order : CreateOrder F} {orderType : Json}
    (h : orderTypeHelper2 lib order = .ok orderType) : orderType.exact = true := by
  unfold orderTypeHelper2 at h
  split at h
  · cases h
  · cases h
    rfl
  · cases h
    rfl

/-- No action has a double. -/
theorem exact_createOrderAction {createOrder : CreateOrder F} {refData : RefData}
    {requestId : String} {action : Json}
    (h : createOrderAction lib createOrder refData requestId = .ok action) :
    action.exact = true := by
  obtain ⟨isBuy, _, h⟩ := bind_eq_ok.mp h
  obtain ⟨orderType, horderType, h⟩ := bind_eq_ok.mp h
  obtain ⟨price, _, h⟩ := bind_eq_ok.mp h
  obtain ⟨size, _, h⟩ := bind_eq_ok.mp h
  have htype := exact_orderTypeHelper2 horderType
  rw [Json.exact] at htype
  rw [← Except.ok.inj h]
  simp [Json.exact, Json.everywhere, Json.everywhereItems, Json.everywhereMembers, Json.nodeExact,
    assetJson, htype]

omit [Double F] in
private theorem exact_cancelOrderAction {order : Order} {refData : RefData} {action : Json}
    (h : cancelOrderAction lib order refData = .ok action) : action.exact = true := by
  unfold cancelOrderAction at h
  split at h
  · cases h
    rfl
  · split at h
    · cases h
    · cases h
      rfl

end

end Hyperliquid.Tools.Encoder

namespace Hyperliquid.Gateway

open Hyperliquid.Base Hyperliquid.Base.JsonDocument Hyperliquid.Oms Hyperliquid.Tools
  Hyperliquid.Tools.Encoder

/-! ## The texts of the two transports -/

/-- The text that is sent: the body, or a message around it. -/
def Sent.text (sent : Sent) : String :=
  match sent.destination with
  | .rest .. => sent.body.format
  | .webSocket id => messageText id sent.body.format

/-- What a transport puts around a body. -/
def Destination.frame : Destination → Tree → Tree
  | .rest .., body => body
  | .webSocket id, body => .object
    [("method", .string "post"), ("id", .integer id.toNat),
      ("request", .object [("type", .string "action"), ("payload", body)])]

private theorem toList_messageText (id : UInt64) (request : String) :
    (messageText id request).toList =
      objectText [memberText "method".toList (quoted "post".toList),
        memberText "id".toList (toString id.toNat).toList,
        memberText "request".toList (objectText
          [memberText "type".toList (quoted "action".toList),
            memberText "payload".toList request.toList])] := by
  show ("\x7b\"method\":\"post\",\"id\":" ++ toString id.toNat ++
    ",\"request\":\x7b\"type\":\"action\",\"payload\":" ++ request ++ "\x7d\x7d").toList = _
  simp only [memberText, objectText, quoted, String.toList_append, String.reduceToList,
    List.intercalate_cons_cons, List.intercalate_singleton, List.cons_append, List.nil_append,
    List.append_assoc]

/-- A text between quotes that needs no escapes. -/
theorem spells_quoted {text : String} (h : text.toList.all isPlain = true) :
    Spells (quoted text.toList) (.string text) := by
  have hstring := spells_string (spellsContent_plain h)
  rwa [String.ofList_toList] at hstring

/-- The text of a request spells its tree. -/
theorem spells_text {sent : Sent} {body : Tree} (h : Spells sent.body.format.toList body) :
    Spells sent.text.toList (sent.destination.frame body) := by
  obtain ⟨destination, encoded, sentBody⟩ := sent
  cases destination with
  | rest => exact h
  | webSocket id =>
    show Spells (messageText id sentBody.format).toList _
    rw [toList_messageText]
    have haction : Spells (quoted "action".toList) (.string "action") := spells_quoted rfl
    have hpost : Spells (quoted "post".toList) (.string "post") := spells_quoted rfl
    have hrequest : Spells (objectText [memberText "type".toList (quoted "action".toList),
        memberText "payload".toList sentBody.format.toList])
        (.object [("type", .string "action"), ("payload", body)]) :=
      spells_object (.cons (spells_entry rfl haction) (.cons (spells_entry rfl h) .nil))
    exact spells_object (.cons (spells_entry rfl hpost)
      (.cons (spells_entry rfl (spells_natural _)) (.cons (spells_entry rfl hrequest) .nil)))

/-! ## What is signed -/

/-- The signature over packed bytes. -/
def actionSignature (eth : Eth) (mainnet : Bool) (packed : List UInt8) : Signature :=
  eth.signTypedData eip712Domain
    { type := "Agent"
      data :=
        [⟨"source", .string, getSource mainnet⟩,
          ⟨"connectionId", .bytes32, computeConnectionId eth packed⟩] }

/-- The exchange reads one action from the text and from the bytes that are signed for it. -/
structure Sent.SignedAsSent (eth : Eth) (mainnet : Bool) (sent : Sent) (action : Tree) : Prop where
  text : ∃ nonce expiresAfter,
    sent.bodyNonce? = some nonce ∧ sent.body.expiresAfter? = some expiresAfter ∧
      parse sent.text.toList = some (sent.destination.frame (bodyTree action nonce
        (actionSignature eth mainnet sent.encoded.packed) expiresAfter))
  packed : ∃ rest, MessagePack.decode sent.encoded.packed = some (Json.packed action, rest)

variable {F : Type} [Double F] (env : Surroundings)

private theorem exact_action {request : OrderRequest F} {action : Json}
    (h : request.action env = .ok action) : action.exact = true := by
  cases request with
  | create transport info event order refData requestId => exact exact_createOrderAction h
  | cancel transport info event order refData => exact exact_cancelOrderAction h

private theorem decode_packHelper {action : Json} (hfits : action.fits = true)
    (hexact : action.exact = true) (nowUtc expiresAfterUtc : Int64) :
    ∃ rest, MessagePack.decode (packHelper action nowUtc expiresAfterUtc) =
      some (Json.packed action.toTree, rest) := by
  have hdepth : (packJson action).length ≤ (packHelper action nowUtc expiresAfterUtc).length := by
    rw [packHelper_eq, List.length_append]
    exact Nat.le_add_right _ _
  have hreads := reads_packJson hfits hdepth (BigEndian.shiftBytes nowUtc ++
    0x00 :: packExpiry (effectiveExpiry nowUtc expiresAfterUtc))
  rw [← packHelper_eq, ← Json.packed_toTree hexact] at hreads
  exact ⟨_, hreads⟩

omit [Double F] in
private theorem parse_sent (hdump : ∀ tree, tree.exact = true →
      env.lib.dump tree = String.ofList tree.dump) (account : Crypto) (request : OrderRequest F)
    {action : Json} (hexact : action.exact = true) :
    ∃ nonce expiresAfter,
      (request.sent env account action).1.bodyNonce? = some nonce ∧
      (request.sent env account action).1.body.expiresAfter? = some expiresAfter ∧
      parse (request.sent env account action).1.text.toList =
        some ((request.destination env).frame (bodyTree action.toTree nonce
          (actionSignature env.eth account.mainnet
            (request.sent env account action).1.encoded.packed) expiresAfter)) := by
  have haction : Spells (env.lib.dump action).toList action.toTree := by
    rw [hdump action hexact, String.toList_ofList]
    exact Json.spells_dump hexact
  have hbody := spells_body haction (nextNonce account.nonce request.nowUtc)
    (actionSignature env.eth account.mainnet
      (packHelper action request.nowUtc (request.nowUtc + env.recvWindow)))
    (request.nowUtc + env.recvWindow)
  exact ⟨_, _, rfl, rfl, parse_of_spells (spells_text hbody)⟩

omit [Double F] in
private theorem signedAsSent_sent (hdump : ∀ tree, tree.exact = true →
      env.lib.dump tree = String.ofList tree.dump) (account : Crypto) (request : OrderRequest F)
    {action : Json} (hexact : action.exact = true) (hfits : action.fits = true) :
    (request.sent env account action).1.SignedAsSent env.eth account.mainnet action.toTree where
  text := parse_sent env hdump account request hexact
  packed := decode_packHelper hfits hexact _ _

/-- A property of every sent request of a run, from what one request sends. The network that
the account signs for stays. -/
theorem sendAll_induction {P : Sent → Prop} {mainnet : Bool}
    (hsent : ∀ (account : Crypto) (request : OrderRequest F) (action : Json),
      account.mainnet = mainnet → request.action env = .ok action →
        P (request.sent env account action).1)
    (account : Crypto) (hmainnet : account.mainnet = mainnet) (requests : List (OrderRequest F)) :
    ∀ sent ∈ sendAll env account requests, P sent := by
  induction requests generalizing account with
  | nil => exact List.forall_mem_nil P
  | cons request requests ih =>
    rw [sendAll, OrderRequest.handle_eq]
    cases haction : request.action env with
    | error failure =>
      cases failure with
      | thrown what => exact ih account hmainnet
      | fatal text => exact List.forall_mem_nil P
    | ok action =>
      intro sent hmem
      rcases List.mem_cons.mp hmem with rfl | hmem
      · exact hsent account request action hmainnet haction
      · exact ih (request.sent env account action).2 hmainnet sent hmem

private theorem signedAsSent_of_mem (hdump : ∀ tree, tree.exact = true →
      env.lib.dump tree = String.ofList tree.dump) {account : Crypto}
    {requests : List (OrderRequest F)} {sent : Sent} (hsent : sent ∈ sendAll env account requests)
    (hfits : sent.encoded.action.fits = true) :
    sent.SignedAsSent env.eth account.mainnet sent.encoded.action.toTree := by
  refine sendAll_induction (P := fun sent ↦ sent.encoded.action.fits = true →
    sent.SignedAsSent env.eth account.mainnet sent.encoded.action.toTree) env ?_ account rfl
    requests sent hsent hfits
  intro signer request action hmainnet haction hfits
  rw [← hmainnet]
  exact signedAsSent_sent env hdump signer request (exact_action env haction) hfits

/-! ## What a signature can stand for -/

/-- The bytes that are signed for a request. -/
theorem packed_sendAll (account : Crypto) (requests : List (OrderRequest F)) :
    ∀ sent ∈ sendAll env account requests, ∃ nowUtc, sent.encoded.packed =
      packHelper sent.encoded.action nowUtc (nowUtc + env.recvWindow) := by
  refine sendAll_induction env ?_ account rfl requests
  intro signer request action _ _
  exact ⟨request.nowUtc, rfl⟩

/-- The member of an object by its name. -/
def member? (name : String) : Tree → Option Tree
  | .object members => (members.find? (·.1 = name)).map Prod.snd
  | _ => none

/-- The body inside a text that is read. -/
def Destination.body? : Destination → Tree → Option Tree
  | .rest .., tree => some tree
  | .webSocket _, tree => member? "request" tree >>= member? "payload"

/-- The action that the exchange reads from what is sent. -/
def Sent.action? (sent : Sent) : Option Tree :=
  parse sent.text.toList >>= sent.destination.body? >>= member? "action"

private theorem body?_frame (destination : Destination) (body : Tree) :
    destination.body? (destination.frame body) = some body := by
  cases destination <;> rfl

private theorem action?_of_parse {sent : Sent} {action : Tree} {nonce expiresAfter : Int64}
    {signature : Signature} (h : parse sent.text.toList =
      some (sent.destination.frame (bodyTree action nonce signature expiresAfter))) :
    sent.action? = some action := by
  simp only [Sent.action?, h, Option.bind_eq_bind, Option.bind_some, body?_frame]
  rfl

private theorem Sent.SignedAsSent.action?_eq {eth : Eth} {mainnet : Bool} {sent : Sent}
    {action : Tree}
    (h : sent.SignedAsSent eth mainnet action) : sent.action? = some action := by
  obtain ⟨nonce, expiresAfter, _, _, hparse⟩ := h.text
  exact action?_of_parse hparse

/-- The exchange reads the action that was encoded. -/
theorem action?_of_handle (hdump : ∀ tree, tree.exact = true →
      env.lib.dump tree = String.ofList tree.dump) {account signer : Crypto}
    {request : OrderRequest F} {sent : Sent} {action : Json}
    (hhandle : request.handle env account = .ok (sent, signer))
    (haction : request.action env = .ok action) : sent.action? = some action.toTree := by
  rw [OrderRequest.handle_eq, haction] at hhandle
  rw [← (Prod.mk.inj (Except.ok.inj hhandle)).1]
  obtain ⟨nonce, expiresAfter, _, _, hparse⟩ :=
    parse_sent env hdump account request (exact_action env haction)
  exact action?_of_parse hparse

/-- What is signed is what is sent, for every request of a run and on both transports. -/
theorem signedAsSent_sendAll (hdump : ∀ tree, tree.exact = true →
      env.lib.dump tree = String.ofList tree.dump) (account : Crypto)
    (requests : List (OrderRequest F)) :
    ∀ sent ∈ sendAll env account requests, sent.encoded.action.fits = true →
      sent.SignedAsSent env.eth account.mainnet sent.encoded.action.toTree ∧
        sent.action? = some sent.encoded.action.toTree := by
  intro sent hsent hfits
  have hsigned := signedAsSent_of_mem env hdump hsent hfits
  exact ⟨hsigned, hsigned.action?_eq⟩

/-- Surroundings that print actions. -/
def Surroundings.printing : Surroundings :=
  { Surroundings.fixed with lib := ⟨fun _ ↦ .error "", "", fun tree ↦ String.ofList tree.dump⟩ }

/-- The cancel that an account sends in the first millisecond. -/
def cancelSent (transport : Transport) (key : String) : Sent :=
  ((cancelAt transport 1).sent Surroundings.printing (Crypto.create key)
    (.object [("type", .string "cancelByCloid"),
      ("cancels", .array
        [.object [("asset", .unsigned 0), ("cloid", .string (formatCloid "1"))]])])).1

private theorem cancelSent_mem (transport : Transport) (key : String) : cancelSent transport key ∈
    sendAll Surroundings.printing (Crypto.create key) [cancelAt transport 1] := by
  cases transport <;> exact .head _

/-- A cancel request over the WebSocket. -/
theorem signedAsSent_sendAll_cancel :
    (cancelSent .webSocket "0x0").SignedAsSent Surroundings.printing.eth true
        (cancelSent .webSocket "0x0").encoded.action.toTree ∧
      (cancelSent .webSocket "0x0").action? =
        some (cancelSent .webSocket "0x0").encoded.action.toTree :=
  signedAsSent_sendAll Surroundings.printing (fun _ _ ↦ rfl) (Crypto.create "0x0")
    [cancelAt .webSocket 1] _ (cancelSent_mem .webSocket "0x0") rfl

/-- One action is read from all texts with the same signed bytes. -/
theorem Sent.SignedAsSent.action_eq {eth eth' : Eth} {mainnet mainnet' : Bool} {sent sent' : Sent}
    {action action' : Tree} (h : sent.SignedAsSent eth mainnet action)
    (h' : sent'.SignedAsSent eth' mainnet' action')
    (hpacked : sent.encoded.packed = sent'.encoded.packed) : action = action' := by
  obtain ⟨rest, hdecode⟩ := h.packed
  obtain ⟨rest', hdecode'⟩ := h'.packed
  rw [hpacked, hdecode'] at hdecode
  exact Json.packed_injective (Prod.mk.inj (Option.some.inj hdecode)).1.symm

/-- A signature fits one action only: requests with the same signed bytes, of any two accounts
and on any transports, are read as the same action at the same time. -/
theorem action?_eq_of_packed_eq {env env' : Surroundings}
    (hdump : ∀ tree, tree.exact = true → env.lib.dump tree = String.ofList tree.dump)
    (hdump' : ∀ tree, tree.exact = true → env'.lib.dump tree = String.ofList tree.dump)
    {account account' : Crypto} {requests requests' : List (OrderRequest F)} {sent sent' : Sent}
    (hsent : sent ∈ sendAll env account requests)
    (hsent' : sent' ∈ sendAll env' account' requests')
    (hfits : sent.encoded.action.fits = true) (hfits' : sent'.encoded.action.fits = true)
    (hpacked : sent.encoded.packed = sent'.encoded.packed) :
    sent.action? = sent'.action? ∧ sent.packedNonce = sent'.packedNonce := by
  have hsigned := signedAsSent_of_mem env hdump hsent hfits
  have hsigned' := signedAsSent_of_mem env' hdump' hsent' hfits'
  constructor
  · rw [hsigned.action?_eq, hsigned'.action?_eq, hsigned.action_eq hsigned' hpacked]
  · obtain ⟨nowUtc, hbytes⟩ := packed_sendAll env account requests sent hsent
    obtain ⟨nowUtc', hbytes'⟩ := packed_sendAll env' account' requests' sent' hsent'
    have hnonce : sent.packedNonce = nowUtc := by
      rw [Sent.packedNonce, hbytes, toInt64_nonceBytes_packHelper]
    have hnonce' : sent'.packedNonce = nowUtc' := by
      rw [Sent.packedNonce, hbytes', toInt64_nonceBytes_packHelper]
    rw [hbytes, hbytes', packHelper_eq, packHelper_eq] at hpacked
    have hrest := (toValue_eq_of_packJson hfits hfits' hpacked).2
    have hlength : (BigEndian.shiftBytes nowUtc).length =
        (BigEndian.shiftBytes nowUtc').length := by
      rw [BigEndian.length_shiftBytes, BigEndian.length_shiftBytes]
    rw [hnonce, hnonce']
    exact shiftBytes_injective (List.append_inj hrest hlength).1

/-- A cancel of two accounts, over REST and over the WebSocket. -/
theorem action?_eq_of_packed_eq_cancel :
    (cancelSent .rest "0x0").action? = (cancelSent .webSocket "0x1").action? ∧
      (cancelSent .rest "0x0").packedNonce = (cancelSent .webSocket "0x1").packedNonce :=
  action?_eq_of_packed_eq (fun _ _ ↦ rfl) (fun _ _ ↦ rfl) (cancelSent_mem .rest "0x0")
    (cancelSent_mem .webSocket "0x1") rfl rfl rfl

end Hyperliquid.Gateway
