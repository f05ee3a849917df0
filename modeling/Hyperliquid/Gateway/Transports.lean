import Hyperliquid.Gateway.OrderAcks
import Mathlib.Tactic.Common

/-!
# REST and WebSocket replies side by side

One reply of the exchange to an order request can arrive over either transport. This
module puts the handlers of the two side by side, for replies as the exchange sends them.
-/

namespace Hyperliquid.Gateway

open Hyperliquid.Base Hyperliquid.Base.CoreJson Hyperliquid.Oms Hyperliquid.Web
open Hyperliquid.Protocol.Json

/-! ## Replies to new orders -/

/-- A resting part of a status as the exchange sends it. -/
structure RestingPart where
  oid : Int64
  cloid : Option String
  deriving DecidableEq, Repr

/-- A filled part of a status as the exchange sends it. -/
structure FilledPart where
  totalSz : String
  avgPx : String
  oid : Int64
  cloid : Option String
  deriving DecidableEq, Repr

/-- A status as the exchange sends it. -/
structure OrderStatus where
  error : Option String := none
  resting : Option RestingPart := none
  filled : Option FilledPart := none
  deriving DecidableEq, Repr

/-- A reply to a new order that both transports can carry. -/
inductive CreateReply where
  | err (error : String)
  | ok (statuses : List OrderStatus)
  deriving DecidableEq, Repr

/-- The members of an optional value. -/
def optional {α : Type} (name : String) (tree : α → Value) (value : Option α) :
    List (String × Value) :=
  value.toList.map fun v ↦ (name, tree v)

def RestingPart.tree (part : RestingPart) : Value :=
  .object (("oid", .integer part.oid) :: optional "cloid" .string part.cloid)

def FilledPart.tree (part : FilledPart) : Value :=
  .object ([("totalSz", .string part.totalSz), ("avgPx", .string part.avgPx),
    ("oid", .integer part.oid)] ++ optional "cloid" .string part.cloid)

def OrderStatus.tree (status : OrderStatus) : Value :=
  .object (optional "error" .string status.error ++
    optional "resting" RestingPart.tree status.resting ++
    optional "filled" FilledPart.tree status.filled)

/-- The body of a REST reply, and the payload of a WebSocket message. -/
def CreateReply.tree : CreateReply → Value
  | .err error => errorReply error
  | .ok statuses => statusesReply "order" (statuses.map OrderStatus.tree)

/-- A decoded status: what is missing is empty. -/
def OrderStatus.decoded (status : OrderStatus) : OrderStatusesItem where
  error := status.error.getD ""
  resting := (status.resting.map fun part ↦ ⟨part.oid, part.cloid.getD ""⟩).getD ⟨0, ""⟩
  filled := (status.filled.map fun part ↦ ⟨part.oid, part.cloid.getD ""⟩).getD ⟨0, ""⟩

/-- A reply for which REST dispatches nothing: no error in the first status. -/
def CreateReply.QuietOverRest : CreateReply → Prop
  | .err _ => False
  | .ok statuses => ∀ first ∈ statuses.head?, first.decoded.error = ""

/-- A reply for which WebSocket dispatches nothing: a filled part with a client id, or no
error in any status. -/
def CreateReply.QuietOverWebSocket : CreateReply → Prop
  | .err _ => False
  | .ok statuses =>
    (∃ status ∈ statuses, status.decoded.filled.cloid ≠ "") ∨
      ∀ status ∈ statuses, status.decoded.error = ""

/-! ## The two transports -/

/-- The handlers of both transports, with generated decoders that read the replies. A
decoded text is empty exactly when the text of the reply is. -/
structure Transports where
  rest : OrderEntry.AckEnv
  webSocket : WebSocket.AckEnv
  decodesError : ∀ text, rest.decodeGeneralError (errorReply text) = .ok ⟨.err, text⟩
  decodesCreate : ∀ statuses : List OrderStatus,
    rest.decodeCreateOrderAck (CreateReply.ok statuses).tree =
      .ok ⟨.ok, statuses.map OrderStatus.decoded⟩
  /-- The decoder of one status of a cancel reply. -/
  decodeCancelItem : Value → Except String CancelStatusesItem
  decodesCancel : ∀ statuses : List Value,
    rest.decodeCancelOrderAck (statusesReply "cancel" statuses) =
      (statuses.mapM decodeCancelItem).map fun items ↦ ⟨.ok, items⟩
  decodesCancelError : ∀ text,
    decodeCancelItem (.object [("error", .string text)]) = .ok ⟨text⟩
  /-- A text is not an object: if it is decoded at all, it has no error. -/
  decodesCancelText : ∀ text item, decodeCancelItem (.string text) = .ok item → item.error = ""

/-- An order that the order manager still finds. -/
structure KnownOrder (transports : Transports) where
  userId : UInt8
  orderId : UInt64
  orderId_le : orderId ≤ transports.webSocket.ids.orderIdMax
  found : transports.webSocket.findOrder userId orderId

namespace Transports

variable (transports : Transports) (order : KnownOrder transports)

/-- The id that a reply over WebSocket carries. -/
def replyId (requestType : RequestType) : Int64 :=
  RequestIds.echo (transports.webSocket.ids.encodeRequestId requestType order.userId order.orderId)

/-- What `create_order_ack` does with a reply in a 2xx response. -/
def createOverRest (status : Web.Status) (reply : CreateReply) : Proc AckEffect Exception Unit :=
  OrderEntry.createOrderAck transports.rest ⟨.ok (status, .success, .ok reply.tree)⟩
    order.userId order.orderId 1

/-- What the WebSocket handlers do with a reply in a message. -/
def createOverWebSocket : CreateReply → Proc AckEffect Exception Unit
  | .err error =>
    WebSocket.actionError transports.webSocket ⟨transports.replyId order .createOrder, error⟩
  | .ok statuses =>
    WebSocket.actionOrder transports.webSocket
      ⟨transports.replyId order .createOrder, statuses.map OrderStatus.decoded⟩

/-- What a strategy sees of a response. -/
structure Outcome where
  requestType : RequestType
  origin : Origin
  requestStatus : RequestStatus
  error : Error
  text : String
  deriving DecidableEq, Repr

/-- The outcomes among some effects. -/
def outcomes (effects : List AckEffect) : List Outcome :=
  (responses effects).map fun response ↦
    ⟨response.requestType, response.origin, response.requestStatus, response.error,
      response.text⟩

/-- The identifier of a reply gives back the request. -/
theorem decodeRequestId_replyId (requestType : RequestType) :
    transports.webSocket.ids.decodeRequestId (transports.replyId order requestType).toUInt64 =
      (requestType, order.userId, order.orderId) := by
  rw [replyId, RequestIds.toUInt64_echo]
  exact RequestIds.decodeRequestId_encodeRequestId _ _ _ _ order.orderId_le

private theorem createOverRest_err (status : Web.Status) (error : String) :
    createOverRest transports order status (.err error) =
      handleError .createOrder transports.rest.streamId order.userId order.orderId 1 .exchange
        .failed .unknown error := by
  rw [createOverRest, OrderEntry.createOrderAck_of_success]
  exact OrderEntry.handleCreateSuccess_errorReply _ (transports.decodesError error)

private theorem createOverRest_ok (status : Web.Status) (statuses : List OrderStatus) :
    createOverRest transports order status (.ok statuses) =
      OrderEntry.firstStatus OrderStatusesItem.error
        (handleError .createOrder transports.rest.streamId order.userId order.orderId 1 .exchange
          .failed .unknown)
        (statuses.map OrderStatus.decoded) := by
  rw [createOverRest, OrderEntry.createOrderAck_of_success]
  exact OrderEntry.handleCreateSuccess_statusesReply _ (transports.decodesCreate statuses)

/-- A response over REST is a failure. -/
theorem failed_of_mem_createOverRest {status : Web.Status} {reply : CreateReply}
    {outcome : Outcome}
    (h : outcome ∈ outcomes (createOverRest transports order status reply).events) :
    outcome.requestStatus = .failed := by
  cases reply with
  | err error =>
    rw [createOverRest_err] at h
    rw [List.mem_singleton.mp h]
  | ok statuses =>
    rw [createOverRest_ok] at h
    cases statuses with
    | nil => exact absurd h List.not_mem_nil
    | cons first statuses =>
      rw [List.map_cons, OrderEntry.firstStatus] at h
      split at h
      · exact absurd h List.not_mem_nil
      · rw [List.mem_singleton.mp h]

private theorem createOverRest_eq_nil_iff (status : Web.Status) (reply : CreateReply) :
    outcomes (createOverRest transports order status reply).events = [] ↔
      reply.QuietOverRest := by
  cases reply with
  | err error =>
    rw [createOverRest_err]
    exact iff_of_false (List.cons_ne_nil _ _) id
  | ok statuses =>
    rw [createOverRest_ok]
    cases statuses with
    | nil => exact iff_of_true rfl (by simp [CreateReply.QuietOverRest])
    | cons first statuses =>
      rw [List.map_cons, OrderEntry.firstStatus]
      by_cases herror : first.decoded.error = ""
      · rw [herror]
        exact iff_of_true rfl (by simpa [CreateReply.QuietOverRest] using herror)
      · rw [if_neg (by simpa using herror)]
        exact iff_of_false (List.cons_ne_nil _ _)
          (by simpa [CreateReply.QuietOverRest] using herror)

private theorem createOverWebSocket_err (error : String) :
    createOverWebSocket transports order (.err error) =
      handleError .createOrder transports.webSocket.streamId order.userId order.orderId 0
        .exchange .rejected .unknown error := by
  simp only [createOverWebSocket, WebSocket.actionError, decodeRequestId_replyId,
    WebSocket.reject, order.found, if_true]

private theorem createOverWebSocket_ok (statuses : List OrderStatus) :
    createOverWebSocket transports order (.ok statuses) =
      match WebSocket.statusesMessage "" (statuses.map OrderStatus.decoded) with
      | none => pure ()
      | some message =>
        if message.isEmpty then pure ()
        else handleError .createOrder transports.webSocket.streamId order.userId order.orderId 1
          .exchange .rejected .unknown message := by
  cases hmessage : WebSocket.statusesMessage "" (statuses.map OrderStatus.decoded) with
  | none => simp only [createOverWebSocket, WebSocket.actionOrder, hmessage]
  | some message =>
    simp only [createOverWebSocket, WebSocket.actionOrder, hmessage, decodeRequestId_replyId,
      WebSocket.reject, order.found, if_true, ne_eq, not_true_eq_false, if_false]

/-- A response over WebSocket is a rejection. -/
theorem rejected_of_mem_createOverWebSocket {reply : CreateReply} {outcome : Outcome}
    (h : outcome ∈ outcomes (createOverWebSocket transports order reply).events) :
    outcome.requestStatus = .rejected := by
  cases reply with
  | err error =>
    rw [createOverWebSocket_err] at h
    rw [List.mem_singleton.mp h]
  | ok statuses =>
    rw [createOverWebSocket_ok] at h
    split at h
    · exact absurd h List.not_mem_nil
    · split at h
      · exact absurd h List.not_mem_nil
      · rw [List.mem_singleton.mp h]

private theorem createOverWebSocket_eq_nil_iff (reply : CreateReply) :
    outcomes (createOverWebSocket transports order reply).events = [] ↔
      reply.QuietOverWebSocket := by
  cases reply with
  | err error =>
    rw [createOverWebSocket_err]
    exact iff_of_false (List.cons_ne_nil _ _) id
  | ok statuses =>
    rw [createOverWebSocket_ok, CreateReply.QuietOverWebSocket]
    have hnone := WebSocket.statusesMessage_eq_none_iff "" (statuses.map OrderStatus.decoded)
    simp only [List.mem_map, exists_exists_and_eq_and] at hnone
    rw [← hnone]
    cases hmessage : WebSocket.statusesMessage "" (statuses.map OrderStatus.decoded) with
    | none => exact iff_of_true rfl (Or.inl rfl)
    | some message =>
      have hempty := WebSocket.message_eq_empty_iff hmessage
      simp only [List.forall_mem_map, true_and] at hempty
      rw [or_iff_right (Option.some_ne_none message), ← hempty]
      dsimp only
      by_cases h : message = ""
      · rw [h]
        exact iff_of_true rfl rfl
      · rw [if_neg (by simpa using h)]
        exact iff_of_false (List.cons_ne_nil _ _) h

/-- Over REST and WebSocket a reply has the same outcomes exactly when it has none over
either: a failure over REST is a rejection over WebSocket. -/
theorem createOutcomes_eq_iff (status : Web.Status) (reply : CreateReply) :
    outcomes (createOverRest transports order status reply).events =
        outcomes (createOverWebSocket transports order reply).events ↔
      reply.QuietOverRest ∧ reply.QuietOverWebSocket := by
  rw [← createOverRest_eq_nil_iff transports order status,
    ← createOverWebSocket_eq_nil_iff transports order]
  constructor
  · intro hsame
    have hnil : outcomes (createOverRest transports order status reply).events = [] := by
      apply List.eq_nil_iff_forall_not_mem.mpr
      intro outcome hrest
      have hfailed := failed_of_mem_createOverRest transports order hrest
      rw [hsame] at hrest
      have hrejected := rejected_of_mem_createOverWebSocket transports order hrest
      rw [hfailed] at hrejected
      cases hrejected
    exact ⟨hnil, hsame ▸ hnil⟩
  · rintro ⟨hrest, hwebSocket⟩
    rw [hrest, hwebSocket]

/-! ## Fixed transports -/

namespace Schema

/-- A member of an object. -/
def member? (name : String) : Value → Option Value
  | .object members => members.lookup name
  | _ => none

/-- A text, or nothing. -/
def text : Option Value → String
  | some (.string text) => text
  | _ => ""

/-- The status of a reply. -/
def status (message : Value) : Protocol.Json.Status :=
  if text (member? "status" message) = "ok" then .ok else .err

/-- The statuses of a reply. -/
def statuses (message : Value) : List Value :=
  match ((member? "response" message).bind (member? "data")).bind (member? "statuses") with
  | some (.array items) => items
  | _ => []

/-- A resting or filled part. -/
def part : Option Value → OrderPart
  | some (.object members) =>
    match members.lookup "oid" with
    | some (.integer oid) => ⟨oid, text (members.lookup "cloid")⟩
    | _ => ⟨0, text (members.lookup "cloid")⟩
  | _ => ⟨0, ""⟩

/-- A status of a new order. -/
def orderItem (value : Value) : OrderStatusesItem :=
  ⟨text (member? "error" value), part (member? "resting" value), part (member? "filled" value)⟩

/-- A status of a cancel reply; a text is refused. -/
def cancelItem : Value → Except String CancelStatusesItem
  | .object members => .ok ⟨text (members.lookup "error")⟩
  | _ => .error badVariantAccess

private theorem orderItem_tree (status : OrderStatus) : orderItem status.tree = status.decoded := by
  obtain ⟨error, resting, filled⟩ := status
  cases error <;> cases resting with
  | none => cases filled with
    | none => rfl
    | some part =>
      obtain ⟨totalSz, avgPx, oid, cloid⟩ := part
      cases cloid <;> rfl
  | some rest =>
    obtain ⟨oid, cloid⟩ := rest
    cases filled with
    | none => cases cloid <;> rfl
    | some part =>
      obtain ⟨totalSz, avgPx, oid', cloid'⟩ := part
      cases cloid <;> cases cloid' <;> rfl

end Schema

/-- Transports whose decoders read the members that the schemas name, and an order manager
that finds every order. -/
def schema : Transports where
  rest :=
    { hash := .fnv1a
      decodeGeneralError := fun message ↦
        .ok ⟨Schema.status message, Schema.text (Schema.member? "response" message)⟩
      decodeCreateOrderAck := fun message ↦
        .ok ⟨Schema.status message, (Schema.statuses message).map Schema.orderItem⟩
      decodeCancelOrderAck := fun message ↦
        ((Schema.statuses message).mapM Schema.cancelItem).map fun items ↦
          ⟨Schema.status message, items⟩
      allowUnknownEventTypes := false
      http := ⟨fun _ ↦ "", fun _ ↦ .std ""⟩
      streamId := 1 }
  webSocket := ⟨.sequential, fun _ _ ↦ true, 2⟩
  decodesError _ := rfl
  decodesCreate statuses := by
    have hitems : (statuses.map OrderStatus.tree).map Schema.orderItem =
        statuses.map OrderStatus.decoded := by
      rw [List.map_map]
      exact List.map_congr_left fun status _ ↦ Schema.orderItem_tree status
    rw [← hitems]
    rfl
  decodeCancelItem := Schema.cancelItem
  decodesCancel _ := rfl
  decodesCancelError _ := rfl
  decodesCancelText _ _ h := nomatch h

/-- The first order of the first user. -/
def firstOrder : KnownOrder schema := ⟨1, 1, by decide, rfl⟩

/-- A refused order is failed over REST and rejected over WebSocket. -/
theorem createOutcomes_differ :
    ¬ ∀ (transports : Transports) (order : KnownOrder transports) (status : Web.Status)
      (reply : CreateReply),
      outcomes (createOverRest transports order status reply).events =
        outcomes (createOverWebSocket transports order reply).events := by
  intro h
  have hsame := h schema firstOrder .ok (.ok [{ error := "Insufficient margin to place order." }])
  rw [createOverRest_ok, createOverWebSocket_ok] at hsame
  exact absurd hsame (by decide)

end Transports

end Hyperliquid.Gateway
