import Hyperliquid.Gateway.ProcessResponse
import Hyperliquid.Gateway.RequestId
import Hyperliquid.Protocol.OrderAcks
import Mathlib.Tactic.ByContra

/-!
# Replies to order requests in the gateway

The handlers that turn a reply of the exchange into a response for the order manager: over
REST `src/roq/hyperliquid/gateway/order_entry.cpp:669–718, 828–877`, over WebSocket
`src/roq/hyperliquid/gateway/web_socket.cpp:458–570`.
-/

namespace Hyperliquid.Gateway

open Hyperliquid.Base Hyperliquid.Base.CoreJson Hyperliquid.Oms Hyperliquid.Web
open Hyperliquid.Protocol.Json

/-- What the reply handlers do to the outside. -/
inductive AckEffect where
  /-- A response to the order manager. -/
  | dispatch (response : Oms.Response)
  /-- `(*connection_).suspend_for(suspend_after_429)`. -/
  | suspendFor
  deriving DecidableEq, Repr

/-- The responses to the order manager among some effects. -/
def responses (effects : List AckEffect) : List Oms.Response :=
  effects.filterMap fun
    | .dispatch response => some response
    | .suspendFor => none

/-- The `handle_error` of a handler: it dispatches one response. -/
def handleError (requestType : RequestType) (streamId : UInt16) (userId : UInt8)
    (orderId : UInt64) (version : UInt32) : ErrorHandler AckEffect :=
  fun origin requestStatus error text ↦
    Proc.emit (.dispatch
      { requestType, origin, requestStatus, error, text, version, streamId, userId, orderId })

namespace OrderEntry

/-- What the handlers use beside the reply. -/
structure AckEnv where
  hash : KeyHash
  decodeGeneralError : Value → Except String GeneralError
  decodeCreateOrderAck : Value → Except String CreateOrderAck
  decodeCancelOrderAck : Value → Except String CancelOrderAck
  allowUnknownEventTypes : Bool
  http : HttpLibrary
  streamId : UInt16

/-- The body of a reply as the JSON library parses it; the error is what it throws. -/
abbrev Body := Except String Value

/-- `handle_success_2`, `order_entry.cpp:693–705` and `852–864`: only the first status
counts. The handlers called for a status without an error do nothing. -/
def firstStatus {τ : Type} (error : τ → String)
    (handleError2 : String → Proc AckEffect Exception Unit) :
    List τ → Proc AckEffect Exception Unit
  | [] => pure ()
  | status :: _ => if (error status).isEmpty then pure () else handleError2 (error status)

/-- `utils::exceptions::Unhandled::terminate` after any exception. -/
def orTerminate (x : Proc AckEffect Exception Unit) : Proc AckEffect Exception Unit :=
  Proc.catchThrown x fun _ ↦ Proc.fatal "Unhandled"

variable (env : AckEnv)

/-- `handle_success` of `create_order_ack`, `order_entry.cpp:689–715`. -/
def handleCreateSuccess (userId : UInt8) (orderId : UInt64) (version : UInt32) (body : Body) :
    Proc AckEffect Exception Unit :=
  let handleError2 : String → Proc AckEffect Exception Unit :=
    handleError .createOrder env.streamId userId orderId version .exchange .failed .unknown
  orTerminate do
    let message ← Proc.ofExcept .std body
    let _ ← CreateOrderAckParser.dispatch env.hash env.decodeGeneralError
      env.decodeCreateOrderAck env.allowUnknownEventTypes handleError2
      (fun ack ↦ firstStatus OrderStatusesItem.error handleError2 ack.statuses) message
    pure ()

/-- `OrderEntry::create_order_ack`, `order_entry.cpp:669–718`. -/
def createOrderAck (response : Response Body) (userId : UInt8) (orderId : UInt64)
    (version : UInt32) : Proc AckEffect Exception Unit :=
  processResponse env.http (Proc.emit .suspendFor) response
    (handleError .createOrder env.streamId userId orderId version)
    (handleCreateSuccess env userId orderId version)

/-- `handle_success` of `cancel_order_ack`, `order_entry.cpp:848–874`. -/
def handleCancelSuccess (userId : UInt8) (orderId : UInt64) (version : UInt32) (body : Body) :
    Proc AckEffect Exception Unit :=
  let handleError2 : String → Proc AckEffect Exception Unit :=
    handleError .cancelOrder env.streamId userId orderId version .exchange .failed .unknown
  orTerminate do
    let message ← Proc.ofExcept .std body
    let _ ← CancelOrderAckParser.dispatch env.hash env.decodeGeneralError
      env.decodeCancelOrderAck env.allowUnknownEventTypes handleError2
      (fun ack ↦ firstStatus CancelStatusesItem.error handleError2 ack.statuses) message
    pure ()

/-- `OrderEntry::cancel_order_ack`, `order_entry.cpp:828–877`. -/
def cancelOrderAck (response : Response Body) (userId : UInt8) (orderId : UInt64)
    (version : UInt32) : Proc AckEffect Exception Unit :=
  processResponse env.http (Proc.emit .suspendFor) response
    (handleError .cancelOrder env.streamId userId orderId version)
    (handleCancelSuccess env userId orderId version)

/-- What does not throw is not terminated. -/
theorem orTerminate_of_not_thrown {x : Proc AckEffect Exception Unit}
    (h : ∀ e, x.result ≠ .error (.thrown e)) : orTerminate x = x :=
  Proc.catchThrown_of_not_thrown h _

private theorem result_handleError (requestType : RequestType) (streamId : UInt16) (userId : UInt8)
    (orderId : UInt64) (version : UInt32) (origin : Origin) (requestStatus : RequestStatus)
    (error : Error) (text : String) :
    (handleError requestType streamId userId orderId version origin requestStatus error
      text).result = .ok () := rfl

/-- A reply is judged by its first status, and none is not an error. -/
theorem result_firstStatus {τ : Type} (error : τ → String)
    {handleError2 : String → Proc AckEffect Exception Unit}
    (h : ∀ text, (handleError2 text).result = .ok ()) (statuses : List τ) :
    (firstStatus error handleError2 statuses).result = .ok () := by
  cases statuses with
  | nil => rfl
  | cons status statuses =>
    by_cases hempty : (error status).isEmpty
    · rw [firstStatus, if_pos hempty]
      rfl
    · rw [firstStatus, if_neg hempty]
      exact h _

/-- A success is the handler's alone: what it throws ends the process. -/
theorem createOrderAck_of_success (status : Web.Status) (body : Body) (userId : UInt8)
    (orderId : UInt64) (version : UInt32) :
    createOrderAck env ⟨.ok (status, .success, body)⟩ userId orderId version =
      handleCreateSuccess env userId orderId version body := by
  apply processResponse_of_success
  exact Proc.catchThrown_fatal_not_thrown _ _

/-- A successful reply to a cancellation is read. -/
theorem cancelOrderAck_of_success (status : Web.Status) (body : Body) (userId : UInt8)
    (orderId : UInt64) (version : UInt32) :
    cancelOrderAck env ⟨.ok (status, .success, body)⟩ userId orderId version =
      handleCancelSuccess env userId orderId version body := by
  apply processResponse_of_success
  exact Proc.catchThrown_fatal_not_thrown _ _

variable {userId : UInt8} {orderId : UInt64} {version : UInt32}

/-- A general error is reported as a failure. -/
theorem handleCreateSuccess_errorReply {text : String} {general : GeneralError}
    (h : env.decodeGeneralError (errorReply text) = .ok general) :
    handleCreateSuccess env userId orderId version (.ok (errorReply text)) =
      handleError .createOrder env.streamId userId orderId version .exchange .failed .unknown
        general.response := by
  simp only [handleCreateSuccess, Proc.ofExcept_ok, Proc.pure_bind,
    CreateOrderAckParser.dispatch]
  rw [dispatchAck_errorReply, dispatchHelper_of_ok _ _ h, Proc.bind_assoc]
  exact orTerminate_of_not_thrown nofun

/-- The first status of a reply is reported. -/
theorem handleCreateSuccess_statusesReply {type : String} {statuses : List Value}
    {ack : CreateOrderAck}
    (h : env.decodeCreateOrderAck (statusesReply type statuses) = .ok ack) :
    handleCreateSuccess env userId orderId version (.ok (statusesReply type statuses)) =
      firstStatus OrderStatusesItem.error
        (handleError .createOrder env.streamId userId orderId version .exchange .failed .unknown)
        ack.statuses := by
  simp only [handleCreateSuccess, Proc.ofExcept_ok, Proc.pure_bind]
  rw [createDispatch_statusesReply env.hash env.allowUnknownEventTypes h, Proc.bind_assoc]
  simp only [Proc.pure_bind, Proc.bind_pure_unit]
  apply orTerminate_of_not_thrown
  intro e
  rw [result_firstStatus OrderStatusesItem.error (fun text ↦ result_handleError ..)]
  exact nofun

/-- A cancel reply of strings is a success. -/
theorem handleCancelSuccess_of_strings {type : String} {statuses : List Value}
    (h : isArrayOfString statuses = true) :
    handleCancelSuccess env userId orderId version (.ok (statusesReply type statuses)) =
      pure () := by
  simp only [handleCancelSuccess, Proc.ofExcept_ok, Proc.pure_bind]
  rw [cancelDispatch_of_strings env.hash env.allowUnknownEventTypes h]
  rfl

/-- The first status of any other cancel reply is reported, if the reply can be decoded. -/
theorem handleCancelSuccess_of_decoded {type : String} {statuses : List Value}
    {ack : CancelOrderAck} (h : isArrayOfString statuses = false)
    (hdecoded : env.decodeCancelOrderAck (statusesReply type statuses) = .ok ack) :
    handleCancelSuccess env userId orderId version (.ok (statusesReply type statuses)) =
      firstStatus CancelStatusesItem.error
        (handleError .cancelOrder env.streamId userId orderId version .exchange .failed .unknown)
        ack.statuses := by
  simp only [handleCancelSuccess, Proc.ofExcept_ok, Proc.pure_bind]
  rw [cancelDispatch_of_not_strings env.hash env.allowUnknownEventTypes h, hdecoded]
  simp only [Proc.ofExcept_ok, Proc.pure_bind, Proc.bind_assoc, Proc.bind_pure_unit]
  apply orTerminate_of_not_thrown
  intro e
  rw [result_firstStatus CancelStatusesItem.error (fun text ↦ result_handleError ..)]
  exact nofun

/-- A cancel reply that cannot be decoded ends the process before anything is reported. -/
theorem handleCancelSuccess_of_undecoded {type : String} {statuses : List Value}
    {what : String} (h : isArrayOfString statuses = false)
    (hdecoded : env.decodeCancelOrderAck (statusesReply type statuses) = .error what) :
    handleCancelSuccess env userId orderId version (.ok (statusesReply type statuses)) =
      Proc.fatal "Unhandled" := by
  simp only [handleCancelSuccess, Proc.ofExcept_ok, Proc.pure_bind]
  rw [cancelDispatch_of_not_strings env.hash env.allowUnknownEventTypes h, hdecoded]
  rfl

end OrderEntry

namespace WebSocket

/-- What the handlers use beside the message. -/
structure AckEnv where
  ids : RequestIds
  /-- `shared_.dispatcher.find_order`: whether it calls back with an order. -/
  findOrder : UInt8 → UInt64 → Bool
  streamId : UInt16

/-- `protocol::json::ActionError`, with `data.id` and `data.response.payload.response`. -/
structure ActionError where
  id : Int64
  response : String
  deriving DecidableEq, Repr

/-- `protocol::json::ActionOrder`, with `data.id` and the statuses of its payload. -/
structure ActionOrder where
  id : Int64
  statuses : List OrderStatusesItem
  deriving DecidableEq, Repr

/-- `protocol::json::ActionCancel`, with `data.id` and the statuses of its payload, which
are the text of the array. -/
structure ActionCancel where
  id : Int64
  statuses : String
  deriving DecidableEq, Repr

variable (env : AckEnv)

/-- The end of the three handlers: a rejection, while the order is still known. -/
def reject (requestType : RequestType) (userId : UInt8) (orderId : UInt64) (version : UInt32)
    (text : String) : Proc AckEffect Exception Unit :=
  if env.findOrder userId orderId then
    handleError requestType env.streamId userId orderId version .exchange .rejected .unknown text
  else pure ()

/-- The handler of `ActionError`, `web_socket.cpp:458–487`. -/
def actionError (action : ActionError) : Proc AckEffect Exception Unit :=
  let (requestType, userId, orderId) := env.ids.decodeRequestId action.id.toUInt64
  reject env requestType userId orderId 0 action.response

/-- The loop over the statuses, `web_socket.cpp:492–500`: the first error, or nothing as
soon as a filled part has a client id. -/
def statusesMessage : String → List OrderStatusesItem → Option String
  | message, [] => some message
  | message, item :: items =>
    if !item.filled.cloid.isEmpty then none
    else if !item.error.isEmpty && message.isEmpty then statusesMessage item.error items
    else statusesMessage message items

/-- The loop ends early exactly when a filled part has a client id. -/
theorem statusesMessage_eq_none_iff (message : String) (items : List OrderStatusesItem) :
    statusesMessage message items = none ↔ ∃ item ∈ items, item.filled.cloid ≠ "" := by
  induction items generalizing message with
  | nil => simp [statusesMessage]
  | cons item items ih =>
    rw [statusesMessage]
    simp only [List.mem_cons, exists_eq_or_imp]
    by_cases hcloid : item.filled.cloid = ""
    · rw [hcloid]
      by_cases hfirst : (!item.error.isEmpty && message.isEmpty) = true
      · simp [hfirst, ih]
      · simp [hfirst, ih]
    · have hnotEmpty : (!item.filled.cloid.isEmpty) = true := by
        rw [Bool.not_eq_true', ← Bool.not_eq_true, String.isEmpty_iff]
        exact hcloid
      rw [if_pos hnotEmpty]
      exact iff_of_true rfl (Or.inl hcloid)

/-- A loop that runs to the end finds no message exactly when there is no error. -/
theorem message_eq_empty_iff {message message' : String} {items : List OrderStatusesItem}
    (h : statusesMessage message items = some message') :
    message' = "" ↔ message = "" ∧ ∀ item ∈ items, item.error = "" := by
  induction items generalizing message with
  | nil =>
    rw [statusesMessage] at h
    rw [← Option.some.inj h]
    simp
  | cons item items ih =>
    rw [statusesMessage] at h
    split at h
    · cases h
    · split at h
      · next hfirst =>
        have herror : item.error ≠ "" := by
          intro hempty
          simp [hempty] at hfirst
        rw [ih h, List.forall_mem_cons]
        constructor
        · rintro ⟨hempty, _⟩
          exact absurd hempty herror
        · rintro ⟨_, hempty, _⟩
          exact absurd hempty herror
      · next hlater =>
        rw [ih h, List.forall_mem_cons]
        constructor
        · rintro ⟨rfl, hitems⟩
          refine ⟨rfl, ?_, hitems⟩
          by_contra hne
          apply hlater
          simp [hne]
        · rintro ⟨hempty, _, hitems⟩
          exact ⟨hempty, hitems⟩

/-- The handler of `ActionOrder`, `web_socket.cpp:488–530`. -/
def actionOrder (action : ActionOrder) : Proc AckEffect Exception Unit :=
  match statusesMessage "" action.statuses with
  | none => pure ()
  | some message =>
    if message.isEmpty then pure ()
    else
      let (requestType, userId, orderId) := env.ids.decodeRequestId action.id.toUInt64
      if requestType ≠ .createOrder then Proc.fatal "Unexpected"
      else reject env requestType userId orderId 1 message

/-- The text of an array with one success, `web_socket.cpp:539`. -/
def successText : String := "[\"success\"]"

/-- The handler of `ActionCancel`, `web_socket.cpp:532–570`: the text of the array decides. -/
def actionCancel (action : ActionCancel) : Proc AckEffect Exception Unit :=
  if action.statuses.isEmpty || action.statuses == successText then pure ()
  else
    let (requestType, userId, orderId) := env.ids.decodeRequestId action.id.toUInt64
    if requestType ≠ .cancelOrder then Proc.fatal "Unexpected"
    else reject env requestType userId orderId 0 action.statuses

end WebSocket

end Hyperliquid.Gateway
