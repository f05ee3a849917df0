import Hyperliquid.Base.CoreJson
import Hyperliquid.Web.Http

/-!
# Replies to order requests

The decoded replies to new and cancelled orders, and the parsers that tell a general error
from a list of statuses: `src/roq/hyperliquid/protocol/json/create_order_ack_parser.cpp`
and `cancel_order_ack_parser.cpp`. The decoders of a whole message are generated.
-/

namespace Hyperliquid.Protocol.Json

open Hyperliquid.Base Hyperliquid.Base.CoreJson Hyperliquid.Web

/-- `protocol::json::Status`, `status.json`. -/
inductive Status where
  | undefinedInternal
  | unknownInternal
  | ok
  | err
  deriving DecidableEq, Repr

/-- `protocol::json::GeneralError`. -/
structure GeneralError where
  status : Status
  response : String
  deriving DecidableEq, Repr

/-- `protocol::json::CreateOrderAckResponseDataStatusesItemResting` and `…Filled`, with the
ids; the WebSocket reply has the same parts. -/
structure OrderPart where
  oid : Int64
  cloid : String
  deriving DecidableEq, Repr

/-- `protocol::json::CreateOrderAckResponseDataStatusesItem`; a missing text is empty. -/
structure OrderStatusesItem where
  error : String
  resting : OrderPart
  filled : OrderPart
  deriving DecidableEq, Repr

/-- `protocol::json::CreateOrderAck`, with `response.data.statuses`. -/
structure CreateOrderAck where
  status : Status
  statuses : List OrderStatusesItem
  deriving DecidableEq, Repr

/-- `protocol::json::CancelOrderAckResponseDataStatusesItem`. -/
structure CancelStatusesItem where
  error : String
  deriving DecidableEq, Repr

/-- `protocol::json::CancelOrderAck`, with `response.data.statuses`. -/
structure CancelOrderAck where
  status : Status
  statuses : List CancelStatusesItem
  deriving DecidableEq, Repr

variable {ω : Type}

/-- `dispatch_helper`: decodes the message and calls the handler. -/
def dispatchHelper {τ : Type} (decode : Value → Except String τ)
    (handler : τ → Proc ω Exception Unit) (message : Value) : Proc ω Exception Bool := do
  let obj ← Proc.ofExcept .std (decode message)
  handler obj
  pure true

/-- A callback of a visited object; its state is the captured variable `result`. -/
abbrev Callback (ω : Type) := Bool → String → Value → Proc ω Exception (Bool × Bool)

section

variable (hash : KeyHash) (generalError : Proc ω Exception Bool) (dataHelper : Callback ω)

/-- `response_helper`, the same in both parsers. -/
def responseHelper : Callback ω := fun result key value ↦
  if hash.is key "type" then pure (result, result)
  else if hash.is key "data" then
    match value with
    | .object members => do
      let result ← CoreJson.dispatch dataHelper result members
      pure (result, result)
    | _ => Proc.throw (.std badVariantAccess)
  else pure (result, result)

/-- `helper`, the same in both parsers. -/
def helper : Callback ω := fun result key value ↦
  if hash.is key "status" then pure (result, result)
  else if hash.is key "response" then
    match value with
    | .string _ => do
      let result ← generalError
      pure (result, true)
    | .object members => do
      let result ← CoreJson.dispatch (responseHelper hash dataHelper) result members
      pure (result, true)
    | _ => pure (result, false)
  else pure (result, result)

/-- The body of `dispatch`, the same in both parsers. The text of the failure is followed
by the message. -/
def dispatchAck (allowUnknownEventTypes : Bool) (message : Value) : Proc ω Exception Bool :=
  match message with
  | .object members => do
    let result ← CoreJson.dispatch (helper hash generalError dataHelper) false members
    if result || allowUnknownEventTypes then pure result else Proc.fatal "Unexpected"
  | _ => Proc.throw (.std badVariantAccess)

end

/-- `data_helper`, `create_order_ack_parser.cpp:55–90`. -/
def createDataHelper (hash : KeyHash) (createOrderAck : Proc ω Exception Bool) : Callback ω :=
  fun result key _ ↦
    if hash.is key "statuses" then do
      let result ← createOrderAck
      pure (result, true)
    else pure (result, result)

/-- `CreateOrderAckParser::dispatch`, `create_order_ack_parser.cpp:43–131`. -/
def CreateOrderAckParser.dispatch (hash : KeyHash)
    (decodeGeneralError : Value → Except String GeneralError)
    (decodeCreateOrderAck : Value → Except String CreateOrderAck)
    (allowUnknownEventTypes : Bool) (errorHandler : String → Proc ω Exception Unit)
    (successHandler : CreateOrderAck → Proc ω Exception Unit) (message : Value) :
    Proc ω Exception Bool :=
  dispatchAck hash
    (dispatchHelper decodeGeneralError (fun obj ↦ errorHandler obj.response) message)
    (createDataHelper hash (dispatchHelper decodeCreateOrderAck successHandler message))
    allowUnknownEventTypes message

/-- `is_array_of_string`, `cancel_order_ack_parser.cpp:44–80`: the loop ends at the first
item that is not a string. -/
def isArrayOfString : List Value → Bool
  | [] => true
  | .string _ :: items => isArrayOfString items
  | _ :: _ => false

/-- `data_helper`, `cancel_order_ack_parser.cpp:81–93`. -/
def cancelDataHelper (hash : KeyHash) (cancelOrderAck : Proc ω Exception Bool) : Callback ω :=
  fun result key value ↦
    if hash.is key "statuses" then
      match value with
      | .array items =>
        -- an array of strings is a success and is not dispatched
        if isArrayOfString items then pure (true, true)
        else do
          let result ← cancelOrderAck
          pure (result, true)
      | _ => Proc.throw (.std badVariantAccess)
    else pure (result, result)

/-- `CancelOrderAckParser::dispatch`, `cancel_order_ack_parser.cpp:41–135`. -/
def CancelOrderAckParser.dispatch (hash : KeyHash)
    (decodeGeneralError : Value → Except String GeneralError)
    (decodeCancelOrderAck : Value → Except String CancelOrderAck)
    (allowUnknownEventTypes : Bool) (errorHandler : String → Proc ω Exception Unit)
    (successHandler : CancelOrderAck → Proc ω Exception Unit) (message : Value) :
    Proc ω Exception Bool :=
  dispatchAck hash
    (dispatchHelper decodeGeneralError (fun obj ↦ errorHandler obj.response) message)
    (cancelDataHelper hash (dispatchHelper decodeCancelOrderAck successHandler message))
    allowUnknownEventTypes message

/-- A reply `{"status": …, "response": text}`. -/
def errorReply (text : String) : Value :=
  .object [("status", .string "err"), ("response", .string text)]

/-- A reply `{"status": …, "response": {"type": …, "data": {"statuses": […]}}}`. -/
def statusesReply (type : String) (statuses : List Value) : Value :=
  .object
    [("status", .string "ok"),
      ("response", .object
        [("type", .string type), ("data", .object [("statuses", .array statuses)])])]

section

variable {τ : Type} (decode : Value → Except String τ) (handler : τ → Proc ω Exception Unit)

/-- A helper that returns has called the handler, and its result is true. -/
theorem dispatchHelper_bind {α : Type} (message : Value) (f : Bool → Proc ω Exception α) :
    (dispatchHelper decode handler message >>= f) =
      ((Proc.ofExcept .std (decode message) >>= handler) >>= fun _ ↦ f true) := by
  unfold dispatchHelper
  rw [Proc.bind_assoc, Proc.bind_assoc]
  congr 1
  ext1 obj
  rw [Proc.bind_assoc]
  rfl

/-- A decoded reply is handed to the handler. -/
theorem dispatchHelper_of_ok {message : Value} {obj : τ} (h : decode message = .ok obj) :
    dispatchHelper decode handler message = handler obj >>= fun _ ↦ pure true := by
  simp only [dispatchHelper, h, Proc.ofExcept_ok, Proc.pure_bind]

end

variable (hash : KeyHash) (allowUnknown : Bool)

/-- A parser takes a reply whose response is a text for a general error. -/
theorem dispatchAck_errorReply {τ : Type} (decode : Value → Except String τ)
    (handler : τ → Proc ω Exception Unit) (dataHelper : Callback ω) (message : Value)
    (text : String) :
    dispatchAck hash (dispatchHelper decode handler message) dataHelper allowUnknown
        (errorReply text) =
      dispatchHelper decode handler message := by
  have hstatus : helper hash (dispatchHelper decode handler message) dataHelper false "status"
      (.string "err") = pure (false, false) := by
    simp [helper]
  have hresponse : helper hash (dispatchHelper decode handler message) dataHelper false
      "response" (.string text) =
        dispatchHelper decode handler message >>= fun result ↦ pure (result, true) := by
    simp [helper]
  simp only [dispatchAck, errorReply]
  rw [dispatch_of_continue hstatus, dispatch_of_stop hresponse, dispatchHelper_bind]
  simp only [Bool.true_or, if_true]
  exact (dispatchHelper_bind decode handler message pure).symm.trans (Proc.bind_pure _)

/-- A parser hands the statuses of a reply to its helper for the data. -/
theorem dispatchAck_statusesReply (generalError : Proc ω Exception Bool)
    (dataHelper : Callback ω) (type : String) (statuses : List Value)
    {dispatched : Proc ω Exception Bool}
    (hdata : dataHelper false "statuses" (.array statuses) =
      dispatched >>= fun result ↦ pure (result, true)) :
    dispatchAck hash generalError dataHelper allowUnknown (statusesReply type statuses) =
      dispatched >>= fun result ↦
        if result || allowUnknown then pure result else Proc.fatal "Unexpected" := by
  have hstatus : helper hash generalError dataHelper false "status" (.string "ok") =
      pure (false, false) := by
    simp [helper]
  have htype : responseHelper hash dataHelper false "type" (.string type) =
      pure (false, false) := by
    simp [responseHelper]
  have hdata' : responseHelper hash dataHelper false "data"
      (.object [("statuses", .array statuses)]) =
        dispatched >>= fun result ↦ pure (result, result) := by
    simp only [responseHelper, KeyHash.is_data_type, KeyHash.is_self, Bool.false_eq_true,
      if_false, if_true]
    rw [dispatch_of_stop hdata]
  have hresponse : helper hash generalError dataHelper false "response" (.object
      [("type", .string type), ("data", .object [("statuses", .array statuses)])]) =
        dispatched >>= fun result ↦ pure (result, true) := by
    simp only [helper, KeyHash.is_response_status, KeyHash.is_self, Bool.false_eq_true,
      if_false, if_true]
    rw [dispatch_of_continue htype, dispatch_of_last hdata']
  simp only [dispatchAck, statusesReply]
  rw [dispatch_of_continue hstatus, dispatch_of_stop hresponse]

/-- A create parser that decodes the statuses calls the handler for them. -/
theorem createDispatch_statusesReply {decodeGeneralError : Value → Except String GeneralError}
    {decodeCreateOrderAck : Value → Except String CreateOrderAck}
    {errorHandler : String → Proc ω Exception Unit}
    {successHandler : CreateOrderAck → Proc ω Exception Unit} {type : String}
    {statuses : List Value} {ack : CreateOrderAck}
    (h : decodeCreateOrderAck (statusesReply type statuses) = .ok ack) :
    CreateOrderAckParser.dispatch hash decodeGeneralError decodeCreateOrderAck allowUnknown
        errorHandler successHandler (statusesReply type statuses) =
      successHandler ack >>= fun _ ↦ pure true := by
  have hdata : createDataHelper hash (dispatchHelper decodeCreateOrderAck successHandler
      (statusesReply type statuses)) false "statuses" (.array statuses) =
        dispatchHelper decodeCreateOrderAck successHandler (statusesReply type statuses) >>=
          fun result ↦ pure (result, true) := by
    simp [createDataHelper]
  unfold CreateOrderAckParser.dispatch
  rw [dispatchAck_statusesReply hash allowUnknown _ _ type statuses hdata,
    dispatchHelper_of_ok _ _ h, Proc.bind_assoc]
  rfl

/-- A cancel parser calls no handler for strings only. -/
theorem cancelDispatch_of_strings {decodeGeneralError : Value → Except String GeneralError}
    {decodeCancelOrderAck : Value → Except String CancelOrderAck}
    {errorHandler : String → Proc ω Exception Unit}
    {successHandler : CancelOrderAck → Proc ω Exception Unit} {type : String}
    {statuses : List Value} (h : isArrayOfString statuses = true) :
    CancelOrderAckParser.dispatch hash decodeGeneralError decodeCancelOrderAck allowUnknown
        errorHandler successHandler (statusesReply type statuses) = pure true := by
  have hdata : cancelDataHelper hash (dispatchHelper decodeCancelOrderAck successHandler
      (statusesReply type statuses)) false "statuses" (.array statuses) =
        pure true >>= fun result ↦ pure (result, true) := by
    simp [cancelDataHelper, h]
  unfold CancelOrderAckParser.dispatch
  rw [dispatchAck_statusesReply hash allowUnknown _ _ type statuses hdata]
  rfl

/-- A cancel parser decodes anything else, and calls the handler for what it decodes. -/
theorem cancelDispatch_of_not_strings {decodeGeneralError : Value → Except String GeneralError}
    {decodeCancelOrderAck : Value → Except String CancelOrderAck}
    {errorHandler : String → Proc ω Exception Unit}
    {successHandler : CancelOrderAck → Proc ω Exception Unit} {type : String}
    {statuses : List Value} (h : isArrayOfString statuses = false) :
    CancelOrderAckParser.dispatch hash decodeGeneralError decodeCancelOrderAck allowUnknown
        errorHandler successHandler (statusesReply type statuses) =
      (Proc.ofExcept .std (decodeCancelOrderAck (statusesReply type statuses)) >>= successHandler)
        >>= fun _ ↦ pure true := by
  have hdata : cancelDataHelper hash (dispatchHelper decodeCancelOrderAck successHandler
      (statusesReply type statuses)) false "statuses" (.array statuses) =
        dispatchHelper decodeCancelOrderAck successHandler (statusesReply type statuses) >>=
          fun result ↦ pure (result, true) := by
    simp [cancelDataHelper, h]
  unfold CancelOrderAckParser.dispatch
  rw [dispatchAck_statusesReply hash allowUnknown _ _ type statuses hdata, dispatchHelper_bind]
  rfl

end Hyperliquid.Protocol.Json
