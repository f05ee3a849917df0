import Hyperliquid.Base.Run
import Hyperliquid.Gateway.OrderAcks
import Hyperliquid.Gateway.OrderRequests

/-!
# Replies over WebSocket

A run of the stream that sends order requests over a web socket and handles the replies, in
any order: `src/roq/hyperliquid/gateway/web_socket.cpp:197–275, 458–570`. A reply carries the
id of the request that it answers.
-/

namespace Hyperliquid.Gateway

open Hyperliquid.Base Hyperliquid.Oms Hyperliquid.Tools Hyperliquid.Web
open Hyperliquid.Protocol.Json

namespace OrderRequest

variable {F : Type}

def requestType : OrderRequest F → RequestType
  | create .. => .createOrder
  | cancel .. => .cancelOrder

/-- The order that the request is for. -/
def order : OrderRequest F → Order
  | create _ _ _ order _ _ => order
  | cancel _ _ _ order _ => order

/-- A request over WebSocket carries the id of its type, user and order. -/
theorem eq_of_destination_eq_webSocket {env : Surroundings} {request : OrderRequest F}
    {id : UInt64} (h : request.destination env = .webSocket id) :
    id = env.ids.encodeRequestId request.requestType request.order.userId
      request.order.orderId := by
  cases request with
  | create transport info event order refData requestId =>
    cases transport with
    | rest => cases h
    | webSocket => exact (Destination.webSocket.inj h).symm
  | cancel transport info event order refData =>
    cases transport with
    | rest => cases h
    | webSocket => exact (Destination.webSocket.inj h).symm

end OrderRequest

namespace WebSocket

/-- A request that has been sent with an id, and what the id stands for. -/
structure SentRequest where
  requestType : RequestType
  userId : UInt8
  orderId : UInt64
  id : UInt64
  deriving DecidableEq, Repr

/-- A reply, as it is decoded but for its id. -/
inductive Reply where
  /-- `ActionError` -/
  | error (response : String)
  /-- `ActionOrder` -/
  | order (statuses : List OrderStatusesItem)
  /-- `ActionCancel` -/
  | cancel (statuses : String)
  deriving DecidableEq, Repr

/-- The type of the response is that of a request; an error answers any. -/
def Reply.Answers (requestType : RequestType) : Reply → Prop
  | .error _ => True
  | .order _ => requestType = .createOrder
  | .cancel _ => requestType = .cancelOrder

/-- The text with which a reply rejects its request, if it does. -/
def Reply.rejection : Reply → Option String
  | .error response => some response
  | .order statuses => (statusesMessage "" statuses).filter fun message ↦ !message.isEmpty
  | .cancel statuses =>
    if statuses.isEmpty || statuses == successText then none else some statuses

/-- The handler of a reply with an id. -/
def handleReply (env : AckEnv) (id : Int64) : Reply → Proc AckEffect Exception Unit
  | .error response => actionError env ⟨id, response⟩
  | .order statuses => actionOrder env ⟨id, statuses⟩
  | .cancel statuses => actionCancel env ⟨id, statuses⟩

/-- What happens to the stream: a reply has the id of one of the requests sent so far. -/
inductive Event (F : Type) where
  | request (request : OrderRequest F)
  | reply (position : Nat) (reply : Reply) (findOrder : UInt8 → UInt64 → Bool)

/-- The state of the stream. -/
structure Stream where
  account : Crypto
  sent : List SentRequest
  ended : Bool

namespace Stream

/-- The state before any request, with the key of the account. -/
def new (key : String) : Stream := ⟨.create key, [], false⟩

variable {F : Type} [Double F] (env : Surroundings) (streamId : UInt16)

/-- Sends a request. One that the encoder rejects is not sent. -/
def send (stream : Stream) (request : OrderRequest F) : Stream :=
  match request.handle env stream.account with
  | .ok (sent, account) =>
    match sent.destination with
    | .webSocket id =>
      { stream with
        account
        sent := stream.sent ++
          [⟨request.requestType, request.order.userId, request.order.orderId, id⟩] }
    | .rest _ _ _ => { stream with account }
  | .error (.thrown _) => stream
  | .error (.fatal _) => { stream with ended := true }

/-- The handler that runs for a reply to a request. -/
def replyHandler (request : SentRequest) (reply : Reply) (findOrder : UInt8 → UInt64 → Bool) :
    Proc AckEffect Exception Unit :=
  handleReply ⟨env.ids, findOrder, streamId⟩ (RequestIds.echo request.id) reply

/-- One step of the stream. -/
def step (stream : Stream) : Event F → Stream
  | .request request => if stream.ended then stream else stream.send env request
  | .reply position reply findOrder =>
    match stream.ended, stream.sent[position]? with
    | false, some request =>
      match (replyHandler env streamId request reply findOrder).result with
      | .error (.fatal _) => { stream with ended := true }
      | _ => stream
    | _, _ => stream

/-- The order ids are in range, and replies have the type of the request that they answer. -/
def Legal (stream : Stream) : Event F → Prop
  | .request request => request.order.orderId ≤ env.ids.orderIdMax
  | .reply position reply _ =>
    ∀ request, stream.sent[position]? = some request → reply.Answers request.requestType

/-- What the order manager learns: the request that is rejected, and why. -/
structure Rejection where
  requestType : RequestType
  userId : UInt8
  orderId : UInt64
  text : String
  deriving DecidableEq, Repr

def rejections (effects : List AckEffect) : List Rejection :=
  (responses effects).map fun response ↦
    ⟨response.requestType, response.userId, response.orderId, response.text⟩

/-- The handler of a reply returns, and rejects the request that is answered: once if the reply
rejects it and its order is found, else never. -/
structure Handled (request : SentRequest) (reply : Reply) (findOrder : UInt8 → UInt64 → Bool)
    (handler : Proc AckEffect Exception Unit) : Prop where
  returns : handler.result = .ok ()
  rejections_eq : rejections handler.events =
    if findOrder request.userId request.orderId then
      reply.rejection.toList.map (⟨request.requestType, request.userId, request.orderId, ·⟩)
    else []

/-- A reply in a step is handled for its own request. -/
def Correct (stream : Stream) : Event F → Prop
  | .request _ => True
  | .reply position reply findOrder =>
    ∀ request, stream.sent[position]? = some request →
      Handled request reply findOrder (replyHandler env streamId request reply findOrder)

/-- The id of a request is made of what it stands for. -/
structure Packed (ids : RequestIds) (request : SentRequest) : Prop where
  id_eq : request.id = ids.encodeRequestId request.requestType request.userId request.orderId
  orderId_le : request.orderId ≤ ids.orderIdMax

variable {env streamId}

/-- An identifier that is echoed gives back the request. -/
theorem Packed.decode {ids : RequestIds} {request : SentRequest} (h : Packed ids request) :
    ids.decodeRequestId (RequestIds.echo request.id).toUInt64 =
      (request.requestType, request.userId, request.orderId) := by
  rw [RequestIds.toUInt64_echo, h.id_eq]
  exact ids.decodeRequestId_encodeRequestId _ _ _ h.orderId_le

private theorem handled_reject {request : SentRequest} {reply : Reply}
    {findOrder : UInt8 → UInt64 → Bool} {text : String} (h : reply.rejection = some text)
    (version : UInt32) :
    Handled request reply findOrder (reject ⟨env.ids, findOrder, streamId⟩ request.requestType
      request.userId request.orderId version text) := by
  unfold reject
  split
  · next hfound =>
    refine ⟨rfl, ?_⟩
    rw [if_pos hfound, h]
    rfl
  · next hfound =>
    refine ⟨rfl, ?_⟩
    rw [if_neg hfound]
    rfl

private theorem handled_pure {request : SentRequest} {reply : Reply}
    {findOrder : UInt8 → UInt64 → Bool} (h : reply.rejection = none) :
    Handled request reply findOrder (pure ()) where
  returns := rfl
  rejections_eq := by
    rw [h]
    exact (ite_self _).symm

/-- A reply of the right type is handled for the request whose id it has. -/
theorem Packed.handled {request : SentRequest} (h : Packed env.ids request) {reply : Reply}
    (hanswers : reply.Answers request.requestType) (findOrder : UInt8 → UInt64 → Bool) :
    Handled request reply findOrder (replyHandler env streamId request reply findOrder) := by
  unfold replyHandler
  cases reply with
  | error response =>
    rw [handleReply, actionError]
    simp only [h.decode]
    exact handled_reject rfl 0
  | order statuses =>
    rw [handleReply, actionOrder]
    cases hmessage : statusesMessage "" statuses with
    | none => exact handled_pure (by rw [Reply.rejection, hmessage]; rfl)
    | some message =>
      by_cases hempty : message.isEmpty = true
      · simp only [hempty, if_true]
        exact handled_pure (by rw [Reply.rejection, hmessage, Option.filter_some, hempty]; rfl)
      · have hcreate : request.requestType = .createOrder := hanswers
        simp only [hempty, h.decode, hcreate, ne_eq, not_true_eq_false, if_false]
        rw [← hcreate]
        exact handled_reject (by simp [Reply.rejection, hmessage, hempty]) 1
  | cancel statuses =>
    rw [handleReply, actionCancel]
    by_cases hquiet : (statuses.isEmpty || statuses == successText) = true
    · simp only [hquiet, if_true]
      exact handled_pure (by simp only [Reply.rejection, hquiet, if_true])
    · have hcancel : request.requestType = .cancelOrder := hanswers
      simp only [hquiet, h.decode, hcancel, ne_eq, not_true_eq_false, if_false]
      rw [← hcancel]
      exact handled_reject (by rw [Reply.rejection, if_neg hquiet]) 0

variable (env) in
/-- All ids that have been sent are made of what they stand for. -/
def Inv (stream : Stream) : Prop := ∀ request ∈ stream.sent, Packed env.ids request

/-- A legal request keeps the invariant. -/
theorem Inv.send {stream : Stream} (h : Inv env stream) {request : OrderRequest F}
    (hlegal : request.order.orderId ≤ env.ids.orderIdMax) :
    Inv env (stream.send env request) := by
  unfold Stream.send
  split
  · next sent account hhandle =>
    rw [OrderRequest.handle_eq] at hhandle
    have hdestination : sent.destination = request.destination env := by
      cases haction : request.action env with
      | error failure =>
        rw [haction] at hhandle
        cases hhandle
      | ok action =>
        rw [haction] at hhandle
        exact congrArg (·.1.destination) (Except.ok.inj hhandle).symm
    split
    · next id hid =>
      intro added hadded
      rcases List.mem_append.mp hadded with hold | hnew
      · exact h added hold
      · rw [List.mem_singleton.mp hnew]
        exact ⟨OrderRequest.eq_of_destination_eq_webSocket (hdestination ▸ hid), hlegal⟩
    · exact h
  · exact h
  · exact h

/-- A legal event keeps the invariant. -/
theorem Inv.step {stream : Stream} (h : Inv env stream) {event : Event F}
    (hlegal : stream.Legal env event) : Inv env (stream.step env streamId event) := by
  unfold Stream.step
  split
  · split
    · exact h
    · exact h.send hlegal
  · split
    · split <;> exact h
    · exact h

omit [Double F] in
private theorem Inv.correct {stream : Stream} (h : Inv env stream) {event : Event F}
    (hlegal : stream.Legal env event) : stream.Correct env streamId event := by
  cases event with
  | request request => trivial
  | reply position reply findOrder =>
    intro request hrequest
    exact (h request (List.mem_of_getElem? hrequest)).handled (hlegal request hrequest) findOrder

variable (env streamId) in
/-- An id gives back what it is made of. Hence in every run of requests and replies each reply
is handled for its own request, and no handler of a reply ends the process. -/
theorem replies_correct (key : String) (events : List (Event F))
    (hlegal : Run.Along (step env streamId) (Legal env) (new key) events) :
    env.ids.GivesBack ∧
      Run.Along (step env streamId) (Correct env streamId) (new key) events := by
  refine ⟨env.ids.givesBack, ?_⟩
  exact Run.along_of_invariant (Inv env) (fun _ _ h hlegal ↦ h.step hlegal)
    (fun _ _ h hlegal ↦ h.correct hlegal) nofun hlegal

/-- A cancel request, and the reply that rejects it. -/
def rejectedCancel : List (Event ℚ) :=
  [.request (cancelAt .webSocket 1), .reply 0 (.cancel "[\"error\"]") fun _ _ ↦ true]

/-- A cancellation that the exchange rejects. -/
theorem replies_correct_rejectedCancel :
    Run.Along (step Surroundings.fixed 1) (Correct Surroundings.fixed 1) (new "0x0")
      rejectedCancel := by
  have hsent : ((new "0x0").step Surroundings.fixed 1 (.request (cancelAt .webSocket 1))).sent =
      [⟨.cancelOrder, 1, 1, RequestIds.sequential.encodeRequestId .cancelOrder 1 1⟩] := by
    decide
  have hrange : (cancelAt .webSocket 1).order.orderId ≤ Surroundings.fixed.ids.orderIdMax := by
    decide
  refine (replies_correct Surroundings.fixed 1 "0x0" rejectedCancel ⟨hrange, ?_, trivial⟩).2
  intro request hrequest
  rw [hsent] at hrequest
  exact (Option.some.inj hrequest) ▸ rfl

end Stream
end WebSocket
end Hyperliquid.Gateway
