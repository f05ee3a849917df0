import Hyperliquid.Gateway.RequestId
import Hyperliquid.Tools.Crypto

/-!
# Order requests of one account

The sending halves of `OrderEntry` (REST) and `WebSocket`: both take the request time
from the message, encode the action, have the account sign it and send the body. One
signer serves both transports of an account.
-/

namespace Hyperliquid.Gateway

open Hyperliquid.Base Hyperliquid.Oms Hyperliquid.Tools Hyperliquid.Tools.Encoder

/-- What the two streams read from their surroundings: the libraries, the layout of
request ids and `settings.rest.recv_window` in milliseconds. -/
structure Surroundings where
  lib : Library
  eth : Eth
  ids : RequestIds
  recvWindow : Int64

/-- `duration_cast<milliseconds>(message_info.receive_time_utc)`. -/
def receiveMilliseconds (info : MessageInfo) : Int64 := info.receiveTimeUtc / 1000000

/-- Where a request goes, with what comes back with its reply: the values captured by
the REST callback, or the id echoed over the WebSocket. -/
inductive Destination where
  | rest (userId : UInt8) (orderId : UInt64) (version : UInt32)
  | webSocket (id : UInt64)
  deriving DecidableEq, Repr

/-- A request that has been signed and sent. -/
structure Sent where
  destination : Destination
  encoded : Encoded
  body : Body

/-- The text sent over the WebSocket, `web_socket.cpp:205–215`. -/
def messageText (id : UInt64) (request : String) : String :=
  "\x7b\"method\":\"post\",\"id\":" ++ toString id ++
    ",\"request\":\x7b\"type\":\"action\",\"payload\":" ++ request ++ "\x7d\x7d"

variable {F : Type} [Double F] (env : Surroundings)

/-- The lines shared by all order requests: time, expiry, encoding and signature. -/
def signRequest (account : Crypto) (info : MessageInfo) (destination : Destination)
    (encode : Int64 → Int64 → Except (Failure String) Encoded) :
    Except (Failure String) (Sent × Crypto) := do
  let nowUtc := receiveMilliseconds info
  let expiresAfterUtc := nowUtc + env.recvWindow
  let encoded ← encode nowUtc expiresAfterUtc
  let (body, account) := signL1Action env.eth account (env.lib.dump encoded.action)
    encoded.packed nowUtc expiresAfterUtc
  pure (⟨destination, encoded, body⟩, account)

/-- `OrderEntry::create_order`, `order_entry.cpp:637–667`. -/
def OrderEntry.createOrder (account : Crypto) (info : MessageInfo) (event : CreateOrder F)
    (refData : RefData) (requestId : String) : Except (Failure String) (Sent × Crypto) :=
  signRequest env account info (.rest info.source event.orderId 1)
    (Encoder.createOrder env.lib event refData requestId)

/-- `OrderEntry::cancel_order`, `order_entry.cpp:795–826`. -/
def OrderEntry.cancelOrder (account : Crypto) (info : MessageInfo) (event : CancelOrder)
    (order : Order) (refData : RefData) : Except (Failure String) (Sent × Crypto) :=
  signRequest env account info (.rest info.source event.orderId event.version)
    (Encoder.cancelOrder env.lib order refData)

/-- `WebSocket::operator()(Event<CreateOrder>)`, `web_socket.cpp:197–219`. -/
def WebSocket.createOrder (account : Crypto) (info : MessageInfo) (event : CreateOrder F)
    (order : Order) (refData : RefData) (requestId : String) :
    Except (Failure String) (Sent × Crypto) :=
  signRequest env account info
    (.webSocket (env.ids.encodeRequestId .createOrder order.userId order.orderId))
    (Encoder.createOrder env.lib event refData requestId)

/-- `WebSocket::operator()(Event<CancelOrder>)`, `web_socket.cpp:249–275`. -/
def WebSocket.cancelOrder (account : Crypto) (info : MessageInfo) (order : Order)
    (refData : RefData) : Except (Failure String) (Sent × Crypto) :=
  signRequest env account info
    (.webSocket (env.ids.encodeRequestId .cancelOrder order.userId order.orderId))
    (Encoder.cancelOrder env.lib order refData)

/-! ### Runs of requests -/

/-- `settings.ws_api` chooses the transport. -/
inductive Transport where
  | rest
  | webSocket
  deriving DecidableEq, Repr

/-- An order request as the order management hands it to a stream. -/
inductive OrderRequest (F : Type) where
  | create (transport : Transport) (info : MessageInfo) (event : CreateOrder F)
      (order : Order) (refData : RefData) (requestId : String)
  | cancel (transport : Transport) (info : MessageInfo) (event : CancelOrder)
      (order : Order) (refData : RefData)

namespace OrderRequest

/-- The request time in milliseconds. -/
def nowUtc : OrderRequest F → Int64
  | create _ info _ _ _ _ => receiveMilliseconds info
  | cancel _ info _ _ _ => receiveMilliseconds info

/-- The action the encoder builds, or its failure. -/
def action : OrderRequest F → Except (Failure String) Json
  | create _ _ event _ refData requestId => createOrderAction env.lib event refData requestId
  | cancel _ _ _ order refData => cancelOrderAction env.lib order refData

/-- The stream's handler for the request. -/
def handle (account : Crypto) : OrderRequest F → Except (Failure String) (Sent × Crypto)
  | create .rest info event _ refData requestId =>
    OrderEntry.createOrder env account info event refData requestId
  | create .webSocket info event order refData requestId =>
    WebSocket.createOrder env account info event order refData requestId
  | cancel .rest info event order refData =>
    OrderEntry.cancelOrder env account info event order refData
  | cancel .webSocket info _ order refData =>
    WebSocket.cancelOrder env account info order refData

/-- The destination of the request. -/
def destination : OrderRequest F → Destination
  | create .rest info event _ _ _ => .rest info.source event.orderId 1
  | create .webSocket _ _ order _ _ =>
    .webSocket (env.ids.encodeRequestId .createOrder order.userId order.orderId)
  | cancel .rest info event _ _ => .rest info.source event.orderId event.version
  | cancel .webSocket _ _ order _ =>
    .webSocket (env.ids.encodeRequestId .cancelOrder order.userId order.orderId)

/-- What is sent for an encoded action. -/
def sent (account : Crypto) (request : OrderRequest F) (action : Json) : Sent × Crypto :=
  let expiresAfterUtc := request.nowUtc + env.recvWindow
  let packed := packHelper action request.nowUtc expiresAfterUtc
  let signed := signL1Action env.eth account (env.lib.dump action) packed request.nowUtc
    expiresAfterUtc
  (⟨request.destination env, ⟨action, packed⟩, signed.1⟩, signed.2)

/-- All four handlers sign and send the encoded action, and leave the account alone when
the encoder fails. -/
theorem handle_eq (account : Crypto) (request : OrderRequest F) :
    request.handle env account = (request.action env).map (request.sent env account) := by
  cases request with
  | create transport info event order refData requestId =>
    cases transport <;>
      simp only [handle, action, OrderEntry.createOrder, WebSocket.createOrder, signRequest,
        Encoder.createOrder] <;>
      cases createOrderAction env.lib event refData requestId <;> rfl
  | cancel transport info event order refData =>
    cases transport <;>
      simp only [handle, action, OrderEntry.cancelOrder, WebSocket.cancelOrder, signRequest,
        Encoder.cancelOrder] <;>
      cases cancelOrderAction env.lib order refData <;> rfl

end OrderRequest

/-- The requests sent along a run. A request whose encoding throws is dropped; one that
ends the process ends the run. -/
def sendAll (account : Crypto) : List (OrderRequest F) → List Sent
  | [] => []
  | request :: requests =>
    match request.handle env account with
    | .ok (sent, account) => sent :: sendAll account requests
    | .error (.thrown _) => sendAll account requests
    | .error (.fatal _) => []

/-- The request times of the requests a run sends. -/
def sentTimes : List (OrderRequest F) → List Int64
  | [] => []
  | request :: requests =>
    match request.action env with
    | .ok _ => request.nowUtc :: sentTimes requests
    | .error (.thrown _) => sentTimes requests
    | .error (.fatal _) => []

/-- The nonce that was signed. -/
def Sent.packedNonce (sent : Sent) : Int64 :=
  BigEndian.toInt64 (nonceBytes sent.encoded.action sent.encoded.packed)

/-- The nonce that was sent. -/
def Sent.bodyNonce? (sent : Sent) : Option Int64 := Body.nonce? sent.body

/-- In every request the signed nonce is the sent nonce, and the sent nonces increase. -/
def NoncesAgree (run : List Sent) : Prop :=
  (∀ sent ∈ run, sent.bodyNonce? = some sent.packedNonce) ∧
    (run.filterMap Sent.bodyNonce?).Pairwise (· < ·)

omit [Double F] in
/-- The signed nonce of a request is its time. -/
theorem packedNonce_sent (account : Crypto) (request : OrderRequest F) (action : Json) :
    (request.sent env account action).1.packedNonce = request.nowUtc :=
  toInt64_nonceBytes_packHelper _ _ _

omit [Double F] in
/-- The sent nonce of a request is the account's next nonce. -/
theorem bodyNonce?_sent (account : Crypto) (request : OrderRequest F) (action : Json) :
    (request.sent env account action).1.bodyNonce? =
      some (nextNonce account.nonce request.nowUtc) := rfl

omit [Double F] in
/-- The account keeps the nonce it sent. -/
theorem nonce_sent (account : Crypto) (request : OrderRequest F) (action : Json) :
    (request.sent env account action).2.nonce = nextNonce account.nonce request.nowUtc := rfl

/-- Along a run the signed nonces are the request times, whatever the account's nonce. -/
theorem packedNonces_sendAll (account : Crypto) (requests : List (OrderRequest F)) :
    (sendAll env account requests).map Sent.packedNonce = sentTimes env requests := by
  induction requests generalizing account with
  | nil => rfl
  | cons request requests ih =>
    rw [sendAll, sentTimes, OrderRequest.handle_eq]
    cases request.action env with
    | ok action =>
      simp only [Except.map, List.map_cons, packedNonce_sent]
      rw [ih]
    | error failure =>
      cases failure with
      | thrown what => exact ih account
      | fatal text => rfl

/-- Times that increase, starting above the account's nonce, become the sent nonces. -/
theorem bodyNonce?_sendAll (account : Crypto) (requests : List (OrderRequest F))
    (habove : ∀ time ∈ sentTimes env requests, account.nonce < time)
    (hincreasing : (sentTimes env requests).Pairwise (· < ·)) :
    ∀ sent ∈ sendAll env account requests, sent.bodyNonce? = some sent.packedNonce := by
  induction requests generalizing account with
  | nil => simp [sendAll]
  | cons request requests ih =>
    rw [sentTimes] at habove hincreasing
    rw [sendAll, OrderRequest.handle_eq]
    cases haction : request.action env with
    | error failure =>
      rw [haction] at habove hincreasing
      cases failure with
      | thrown what => exact ih account habove hincreasing
      | fatal text => simp [Except.map]
    | ok action =>
      rw [haction] at habove hincreasing
      have hnow : account.nonce < request.nowUtc := habove _ (List.mem_cons_self ..)
      have hnext : nextNonce account.nonce request.nowUtc = request.nowUtc := if_pos hnow
      have hrest := List.pairwise_cons.mp hincreasing
      simp only [Except.map, List.mem_cons]
      rintro sent (rfl | hsent)
      · rw [bodyNonce?_sent, packedNonce_sent, hnext]
      · refine ih (request.sent env account action).2 ?_ hrest.2 sent hsent
        intro time htime
        rw [nonce_sent, hnext]
        exact hrest.1 time htime

private theorem filterMap_eq_map {α β : Type} (f : α → Option β) (g : α → β) (xs : List α)
    (h : ∀ x ∈ xs, f x = some (g x)) : xs.filterMap f = xs.map g := by
  rw [← List.filterMap_eq_map]
  exact List.filterMap_congr h

/-- Where signed and sent nonces agree, the sent nonces are the request times. -/
theorem bodyNonces_eq_sentTimes (account : Crypto) (requests : List (OrderRequest F))
    (h : ∀ sent ∈ sendAll env account requests, sent.bodyNonce? = some sent.packedNonce) :
    (sendAll env account requests).filterMap Sent.bodyNonce? = sentTimes env requests := by
  rw [filterMap_eq_map _ _ _ h, packedNonces_sendAll]

private theorem pos_of_mem_sentTimes (requests : List (OrderRequest F))
    (hpos : ∀ request ∈ requests, 0 < request.nowUtc) :
    ∀ time ∈ sentTimes env requests, 0 < time := by
  induction requests with
  | nil => simp [sentTimes]
  | cons request requests ih =>
    have htail := ih fun r hr ↦ hpos r (List.mem_cons_of_mem _ hr)
    rw [sentTimes]
    cases request.action env with
    | ok action =>
      rintro time (_ | ⟨_, htime⟩)
      · exact hpos request (List.mem_cons_self ..)
      · exact htail time htime
    | error failure =>
      cases failure with
      | thrown what => exact htail
      | fatal text => simp

/-- From a fresh account, and for positive request times, the signed nonces are the sent
nonces and increase exactly when the request times increase. -/
theorem noncesAgree_iff (key : String) (requests : List (OrderRequest F))
    (hpos : ∀ request ∈ requests, 0 < request.nowUtc) :
    NoncesAgree (sendAll env (Crypto.create key) requests) ↔
      (sentTimes env requests).Pairwise (· < ·) := by
  constructor
  · rintro ⟨hagree, hincreasing⟩
    rwa [bodyNonces_eq_sentTimes env _ _ hagree] at hincreasing
  · intro hincreasing
    have hagree := bodyNonce?_sendAll env (Crypto.create key) requests
      (pos_of_mem_sentTimes env requests hpos) hincreasing
    refine ⟨hagree, ?_⟩
    rwa [bodyNonces_eq_sentTimes env _ _ hagree]

/-- Surroundings for fixed runs: no receive window and trivial libraries. -/
def Surroundings.fixed : Surroundings where
  lib := ⟨fun _ ↦ .error "", "", fun _ ↦ "null"⟩
  eth := ⟨fun bytes ↦ bytes, fun _ _ ↦ ⟨[], [], 27⟩⟩
  ids := RequestIds.sequential
  recvWindow := 0

/-- A cancel request by client id, received at a number of milliseconds. -/
def cancelAt (transport : Transport) (milliseconds : Int64) : OrderRequest ℚ :=
  .cancel transport ⟨1, milliseconds * 1000000⟩ ⟨1, 1⟩ ⟨1, 1, "", "1"⟩ ⟨0, 2⟩

/-- Two requests in different milliseconds. -/
theorem noncesAgree_iff_two :
    NoncesAgree (sendAll Surroundings.fixed (Crypto.create "0x0")
      [cancelAt .rest 1, cancelAt .webSocket 2]) :=
  (noncesAgree_iff Surroundings.fixed "0x0" [cancelAt .rest 1, cancelAt .webSocket 2]
    (by decide)).mpr (by decide)

/-- Two requests in one millisecond: the second signs nonce 1 and sends nonce 2. -/
theorem noncesDisagree_same_millisecond :
    ¬ ∀ (env : Surroundings) (key : String) (requests : List (OrderRequest ℚ)),
      (∀ request ∈ requests, 0 < request.nowUtc) →
        NoncesAgree (sendAll env (Crypto.create key) requests) := by
  intro h
  have hagree := h Surroundings.fixed "0x0" [cancelAt .rest 1, cancelAt .webSocket 1] (by decide)
  have htimes := bodyNonces_eq_sentTimes Surroundings.fixed (Crypto.create "0x0") _ hagree.1
  have hincreasing := hagree.2
  rw [htimes] at hincreasing
  exact absurd hincreasing (by decide)

/-! ### Nonces for any clock -/

/-- A nonce is later than the last one and not before the clock. -/
theorem toInt_nextNonce {nonce : Int64} (h : nonce.toInt + 1 < 2 ^ 63) (nowUtc : Int64) :
    (nextNonce nonce nowUtc).toInt = max (nonce.toInt + 1) nowUtc.toInt := by
  have hlow := nonce.le_toInt
  have hsucc : (nonce + 1).toInt = nonce.toInt + 1 := by
    rw [Int64.toInt_add, show (1 : Int64).toInt = 1 from rfl, Int.bmod_eq_of_le] <;> omega
  unfold nextNonce
  split_ifs with hnow
  · rw [Int64.lt_iff_toInt_lt] at hnow
    omega
  · rw [Int64.lt_iff_toInt_lt] at hnow
    omega

/-- A count of nanoseconds in milliseconds leaves most of a 64-bit count free. -/
theorem toInt_receiveMilliseconds_lt (info : MessageInfo) :
    (receiveMilliseconds info).toInt < 2 ^ 62 := by
  have hlow := info.receiveTimeUtc.le_toInt
  have hhigh := info.receiveTimeUtc.toInt_lt
  have hdiv : info.receiveTimeUtc.toInt.tdiv 1000000 < 2 ^ 62 ∧
      -2 ^ 63 ≤ info.receiveTimeUtc.toInt.tdiv 1000000 := by
    rw [Int.tdiv_eq_ediv, show Int.sign 1000000 = 1 from rfl]
    split_ifs <;> omega
  rw [receiveMilliseconds, Int64.toInt_div, show (1000000 : Int64).toInt = 1000000 from rfl,
    Int.bmod_eq_of_le] <;> omega

/-- The nonces that are sent along a run. -/
def sentNonces (account : Crypto) (requests : List (OrderRequest F)) : List Int64 :=
  (sendAll env account requests).filterMap Sent.bodyNonce?

/-- What holds of the nonces of a run from an account. -/
structure NoncesFollow (account : Crypto) (times nonces : List Int64) : Prop where
  above : ∀ nonce ∈ nonces, account.nonce < nonce
  increasing : nonces.Pairwise (· < ·)
  current : List.Forall₂ (· ≤ ·) times nonces
  ahead : ∀ latest : Int, account.nonce.toInt ≤ latest → (∀ time ∈ times, time.toInt ≤ latest) →
    ∀ nonce ∈ nonces, nonce.toInt ≤ latest + nonces.length

/-- One more request in front. -/
theorem NoncesFollow.cons {account : Crypto} {times nonces : List Int64} {time : Int64}
    (hroom : account.nonce.toInt + 1 < 2 ^ 63)
    (h : NoncesFollow { account with nonce := nextNonce account.nonce time } times nonces) :
    NoncesFollow account (time :: times) (nextNonce account.nonce time :: nonces) := by
  have hnext := toInt_nextNonce hroom time
  have hlt : account.nonce < nextNonce account.nonce time := by
    rw [Int64.lt_iff_toInt_lt]
    omega
  constructor
  · intro nonce hnonce
    rcases List.mem_cons.mp hnonce with rfl | hnonce
    · exact hlt
    · exact Int64.lt_trans hlt (h.above nonce hnonce)
  · exact .cons h.above h.increasing
  · refine .cons ?_ h.current
    rw [Int64.le_iff_toInt_le]
    omega
  · intro latest haccount htimes nonce hnonce
    obtain ⟨htime, htimes⟩ := List.forall_mem_cons.mp htimes
    rw [List.length_cons]
    rcases List.mem_cons.mp hnonce with rfl | hnonce
    · omega
    · -- one more request is at most one further ahead
      have hrest := h.ahead (latest + 1) (by simp only; omega)
        (fun time htime ↦ by have := htimes time htime; omega) nonce hnonce
      push_cast
      omega

/-- The nonces of all requests of one account follow the times at which they are sent. -/
theorem noncesFollow_sendAll (account : Crypto) (requests : List (OrderRequest F))
    (hnonce : account.nonce.toInt + requests.length < 2 ^ 63)
    (hlength : requests.length < 2 ^ 62) :
    NoncesFollow account (sentTimes env requests) (sentNonces env account requests) := by
  induction requests generalizing account with
  | nil => exact ⟨nofun, .nil, .nil, fun _ _ _ ↦ nofun⟩
  | cons request requests ih =>
    rw [List.length_cons] at hnonce hlength
    push_cast at hnonce
    have hdropped := ih account (by omega) (by omega)
    rw [sentNonces, sentTimes, sendAll, OrderRequest.handle_eq]
    cases haction : request.action env with
    | error failure =>
      cases failure with
      | thrown what => exact hdropped
      | fatal text => exact ⟨nofun, .nil, .nil, fun _ _ _ ↦ nofun⟩
    | ok action =>
      have hnow : request.nowUtc.toInt < 2 ^ 62 := by
        cases request <;> exact toInt_receiveMilliseconds_lt _
      have hnext := toInt_nextNonce (by omega : account.nonce.toInt + 1 < 2 ^ 63) request.nowUtc
      exact .cons (by omega) (ih (request.sent env account action).2
        (by rw [nonce_sent]; omega) (by omega))

end Hyperliquid.Gateway
