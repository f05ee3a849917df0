import Hyperliquid.Gateway.Transports
import Hyperliquid.Protocol.AckBodies

/-!
# One response for each order action

The callbacks of the requests of `OrderEntry` and their handlers,
`src/roq/hyperliquid/gateway/order_entry.cpp:637–877`: how often each of them sends a response
to the order manager.
-/

namespace Hyperliquid.Gateway.OrderEntry

open Hyperliquid.Base Hyperliquid.Base.CoreJson Hyperliquid.Oms Hyperliquid.Web
open Hyperliquid.Protocol.Json
open Hyperliquid.Protocol.Json.Parser (membersOf)

/-- `protocol::json::ModifyOrderAck`; the handler called for it does nothing. -/
structure ModifyOrderAck where
  status : Protocol.Json.Status
  deriving DecidableEq, Repr

/-- What the handlers of all three replies use. -/
structure OrderAckEnv extends AckEnv where
  decodeModifyOrderAck : Value → Except String ModifyOrderAck

/-- `handle_success` of `modify_order_ack`, `order_entry.cpp:779–784`. -/
def handleModifySuccess (env : OrderAckEnv) (body : Body) : Proc AckEffect Exception Unit := do
  let message ← Proc.ofExcept .std body
  let _ ← Proc.ofExcept .std (env.decodeModifyOrderAck message)
  pure ()

/-- `OrderEntry::modify_order_ack`, `order_entry.cpp:759–787`. -/
def modifyOrderAck (env : OrderAckEnv) (response : Response Body) (userId : UInt8)
    (orderId : UInt64) (version : UInt32) : Proc AckEffect Exception Unit :=
  processResponse env.http (Proc.emit .suspendFor) response
    (handleError .modifyOrder env.streamId userId orderId version) (handleModifySuccess env)

/-- An order action, with what its callback captures: `message_info.source`, the order id, and
the version, if the action has one. -/
inductive Action where
  | createOrder (source : UInt8) (orderId : UInt64)
  | modifyOrder (source : UInt8) (orderId : UInt64) (version : UInt32)
  | cancelOrder (source : UInt8) (orderId : UInt64) (version : UInt32)

namespace Action

def requestType : Action → RequestType
  | createOrder _ _ => .createOrder
  | modifyOrder _ _ _ => .modifyOrder
  | cancelOrder _ _ _ => .cancelOrder

def source : Action → UInt8
  | createOrder source _ | modifyOrder source _ _ | cancelOrder source _ _ => source

def orderId : Action → UInt64
  | createOrder _ orderId | modifyOrder _ orderId _ | cancelOrder _ orderId _ => orderId

/-- A new order has the version 1. -/
def version : Action → UInt32
  | createOrder _ _ => 1
  | modifyOrder _ _ version | cancelOrder _ _ version => version

/-- The `callback` of the request, `order_entry.cpp:653–656, 746–747, 815–816`. -/
def callback (env : OrderAckEnv) (response : Response Body) :
    Action → Proc AckEffect Exception Unit
  | createOrder source orderId => createOrderAck env.toAckEnv response source orderId 1
  | modifyOrder source orderId version => modifyOrderAck env response source orderId version
  | cancelOrder source orderId version =>
    cancelOrderAck env.toAckEnv response source orderId version

end Action

/-! ## What a body says -/

/-- A status of the 2xx range. -/
def isSuccessful : Web.Status → Bool
  | .ok => true
  | .other code => 200 ≤ code && code < 300
  | _ => false

/-- The error of the first decoded status, if there is a status. -/
def firstDecoded? {ack τ : Type} (statuses : ack → List τ) (error : τ → String)
    (decoded : Except String ack) : Option String :=
  decoded.toOption.bind fun ack ↦ (statuses ack).head?.map error

/-- The error of the first status of a body; a status that is a text has none. -/
def firstError? (env : OrderAckEnv) (message : Value) : Action → Option String
  | .createOrder _ _ =>
    match found env.hash (membersOf message) with
    | .statuses _ =>
      firstDecoded? CreateOrderAck.statuses OrderStatusesItem.error
        (env.decodeCreateOrderAck message)
    | _ => none
  | .modifyOrder _ _ _ => none
  | .cancelOrder _ _ _ =>
    match found env.hash (membersOf message) with
    | .statuses value =>
      match value with
      | .array items =>
        if isArrayOfString items then items.head?.map fun _ ↦ ""
        else
          firstDecoded? CancelOrderAck.statuses CancelStatusesItem.error
            (env.decodeCancelOrderAck message)
      | _ => none
    | _ => none

/-- A body that must be answered: a general error, a first status with an error, or a reply to a
modified order that cannot be decoded. -/
def BodyFails (env : OrderAckEnv) (action : Action) (body : Body) : Prop :=
  match action with
  | .modifyOrder _ _ _ => (body.bind env.decodeModifyOrderAck).isOk = false
  | _ =>
    ∃ message, body = .ok message ∧
      (found env.hash (membersOf message) = .generalError ∨
        ∃ error, firstError? env message action = some error ∧ error ≠ "")

/-- An outcome that must be answered. -/
def MustAnswer (env : OrderAckEnv) (action : Action) (response : Response Body) : Prop :=
  match response.result with
  | .error _ => True
  | .ok (_, .success, body) => BodyFails env action body
  | .ok (status, _, _) => isSuccessful status = false

/-- A first status without an error. -/
def FirstSucceeds (env : OrderAckEnv) (action : Action) (response : Response Body) : Prop :=
  ∃ status message, response.result = .ok (status, .success, .ok message) ∧
    firstError? env message action = some ""

/-- How an outcome is answered. -/
structure Answers (env : OrderAckEnv) (action : Action) (response : Response Body) : Prop where
  atMostOne : (responses (action.callback env response).events).length ≤ 1
  captured : ∀ answer ∈ responses (action.callback env response).events,
    answer.requestType = action.requestType ∧ answer.userId = action.source ∧
      answer.orderId = action.orderId ∧ answer.version = action.version
  exactlyOne : MustAnswer env action response →
    (responses (action.callback env response).events).length = 1
  silent : FirstSucceeds env action response →
    responses (action.callback env response).events = []

/-! ## Bodies -/

section

variable {hash : KeyHash} {allowUnknown : Bool}
  {generalError : Value → Proc AckEffect Exception Bool}
  {dataHelper : Value → Callback AckEffect}
  {onStatuses : Value → Value → Proc AckEffect Exception Bool}

/-- What throws is terminated. -/
theorem result_of_orTerminate {x : Proc AckEffect Exception Unit}
    (h : ∀ text, (orTerminate x).result ≠ .error (.fatal text)) :
    orTerminate x = x ∧ x.result = .ok () := by
  unfold orTerminate Proc.catchThrown at h ⊢
  obtain ⟨events, failure | _⟩ := x
  · cases failure with
    | thrown e => exact absurd rfl (h "Unhandled")
    | fatal text => exact absurd rfl (h text)
  · exact ⟨rfl, rfl⟩

/-- A body whose handler does not end the process is an object, and the handler does what is done
for what the object is taken for. -/
theorem handleFound_of_not_fatal
    (hstatuses : ∀ message, HandlesStatuses hash (dataHelper message) (onStatuses message))
    (hreturns : ∀ message value, ReturnsTrue (onStatuses message value)) {body : Body}
    {x : Proc AckEffect Exception Unit}
    (hx : x = orTerminate do
      let message ← Proc.ofExcept .std body
      let _ ← dispatchAck hash (generalError message) (dataHelper message) allowUnknown message
      pure ())
    (h : ∀ text, x.result ≠ .error (.fatal text)) :
    ∃ members result, body = .ok (.object members) ∧
      handleFound (generalError (.object members)) (onStatuses (.object members))
        (found hash members) = ⟨x.events, .ok result⟩ := by
  rw [hx] at h
  obtain ⟨heq, hok⟩ := result_of_orTerminate h
  rw [hx, heq]
  clear hx h heq
  cases body with
  | error what => cases hok
  | ok message =>
    rw [Proc.ofExcept_ok, Proc.pure_bind] at hok ⊢
    cases message with
    | object members =>
      rcases dispatchAck_object (hstatuses (.object members)) (hreturns (.object members))
        allowUnknown members with hthrown | hhandled
      · rw [hthrown] at hok
        cases hok
      · rw [hhandled] at hok ⊢
        generalize hfound : handleFound (generalError (.object members))
          (onStatuses (.object members)) (found hash members) = handled at hok ⊢
        obtain ⟨events, failure | result⟩ := handled
        · cases hok
        · refine ⟨members, result, rfl, ?_⟩
          rw [hfound]
          by_cases hresult : (result || allowUnknown) = true
          · simp [bind, pure, hresult]
          · simp [bind, hresult, Proc.fatal] at hok
    | _ => cases hok

end

private theorem dispatchHelper_eq_ok {τ : Type} {decode : Value → Except String τ}
    {handler : τ → Proc AckEffect Exception Unit} {message : Value} {events : List AckEffect}
    {result : Bool} (h : dispatchHelper decode handler message = ⟨events, .ok result⟩) :
    ∃ obj, decode message = .ok obj ∧ (handler obj).events = events := by
  unfold dispatchHelper at h
  cases hdecoded : decode message with
  | error what =>
    rw [hdecoded] at h
    cases h
  | ok obj =>
    rw [hdecoded, Proc.ofExcept_ok, Proc.pure_bind] at h
    refine ⟨obj, rfl, ?_⟩
    generalize handler obj = handled at h
    obtain ⟨handledEvents, _ | _⟩ := handled
    · cases h
    · have hevents := congrArg Proc.events h
      exact (List.append_nil _).symm.trans hevents

/-- A response with the captured values. -/
def answerOf (env : OrderAckEnv) (action : Action) (origin : Origin) (status : RequestStatus)
    (error : Error) (text : String) : Oms.Response where
  requestType := action.requestType
  origin := origin
  requestStatus := status
  error := error
  text := text
  version := action.version
  streamId := env.streamId
  userId := action.source
  orderId := action.orderId

/-- The text of the response for a body, if there is a response. -/
def reported? (env : OrderAckEnv) (message : Value) (action : Action) : Option String :=
  match found env.hash (membersOf message) with
  | .generalError => (env.decodeGeneralError message).toOption.map GeneralError.response
  | _ => (firstError? env message action).filter (· ≠ "")

/-- How a body is answered: once with its text, or not at all. -/
def AnsweredBy (env : OrderAckEnv) (action : Action) (message : Value)
    (events : List AckEffect) : Prop :=
  responses events =
      (reported? env message action).toList.map (answerOf env action .exchange .failed .unknown) ∧
    (found env.hash (membersOf message) = .generalError →
      (reported? env message action).isSome = true)

/-- Only the first status counts. -/
theorem responses_firstStatus {τ : Type} (error : τ → String) (answer : String → Oms.Response)
    (statuses : List τ) :
    responses (firstStatus error (fun text ↦ Proc.emit (.dispatch (answer text))) statuses).events =
      ((statuses.head?.map error).filter (· ≠ "")).toList.map answer := by
  cases statuses with
  | nil => rfl
  | cons status statuses =>
    rw [firstStatus]
    by_cases hempty : error status = ""
    · simp [hempty, responses, pure]
    · simp [hempty, responses, Proc.emit, Option.filter]

/-- A body without statuses is answered alike for all actions. -/
theorem answeredBy_of_handleFound {env : OrderAckEnv} {action : Action}
    {members : List (String × Value)} {onStatuses : Value → Proc AckEffect Exception Bool}
    {events : List AckEffect} {result : Bool}
    (hstatuses : ∀ value, found env.hash members = .statuses value →
      onStatuses value = ⟨events, .ok result⟩ →
        responses events = ((firstError? env (.object members) action).filter (· ≠ "")).toList.map
          (answerOf env action .exchange .failed .unknown))
    (h : handleFound (dispatchHelper env.decodeGeneralError (fun general ↦ Proc.emit (.dispatch
        (answerOf env action .exchange .failed .unknown general.response))) (.object members))
      onStatuses (found env.hash members) = ⟨events, .ok result⟩) :
    AnsweredBy env action (.object members) events := by
  unfold AnsweredBy reported?
  simp only [membersOf]
  cases hfound : found env.hash members with
  | generalError =>
    rw [hfound] at h
    obtain ⟨general, hgeneral, rfl⟩ := dispatchHelper_eq_ok h
    simp only [hgeneral]
    exact ⟨rfl, fun _ ↦ rfl⟩
  | statuses value =>
    rw [hfound] at h
    exact ⟨hstatuses value hfound h, fun hgeneral ↦ by cases hgeneral⟩
  | nothing =>
    have hnone : firstError? env (.object members) action = none := by
      cases action <;> simp only [firstError?, membersOf, hfound]
    rw [hfound] at h
    cases h
    rw [hnone]
    exact ⟨rfl, fun hgeneral ↦ by cases hgeneral⟩

/-- A reply to a new order. -/
theorem answeredBy_create (env : OrderAckEnv) (source : UInt8) (orderId : UInt64) {body : Body}
    (h : ∀ text, (handleCreateSuccess env.toAckEnv source orderId 1 body).result ≠
      .error (.fatal text)) :
    ∃ message, body = .ok message ∧ AnsweredBy env (.createOrder source orderId) message
      (handleCreateSuccess env.toAckEnv source orderId 1 body).events := by
  obtain ⟨members, result, hbody, hhandled⟩ := handleFound_of_not_fatal
    (x := handleCreateSuccess env.toAckEnv source orderId 1 body)
    (fun _ ↦ handlesStatuses_create _ _) (fun _ _ ↦ returnsTrue_dispatchHelper _ _ _) rfl h
  refine ⟨.object members, hbody, answeredBy_of_handleFound ?_ hhandled⟩
  intro value hfound hstatuses
  obtain ⟨ack, hack, hevents⟩ := dispatchHelper_eq_ok hstatuses
  rw [← hevents]
  simp only [firstError?, membersOf, hfound, hack]
  exact responses_firstStatus _ _ _

/-- A reply to a cancelled order; texts as statuses are successes. -/
theorem answeredBy_cancel (env : OrderAckEnv) (source : UInt8) (orderId : UInt64)
    (version : UInt32) {body : Body}
    (h : ∀ text, (handleCancelSuccess env.toAckEnv source orderId version body).result ≠
      .error (.fatal text)) :
    ∃ message, body = .ok message ∧ AnsweredBy env (.cancelOrder source orderId version) message
      (handleCancelSuccess env.toAckEnv source orderId version body).events := by
  obtain ⟨members, result, hbody, hhandled⟩ := handleFound_of_not_fatal
    (x := handleCancelSuccess env.toAckEnv source orderId version body)
    (fun _ ↦ handlesStatuses_cancel _ _)
    (fun _ ↦ returnsTrue_onCancelStatuses (returnsTrue_dispatchHelper _ _ _)) rfl h
  refine ⟨.object members, hbody, answeredBy_of_handleFound ?_ hhandled⟩
  intro value hfound hstatuses
  unfold onCancelStatuses at hstatuses
  simp only [firstError?, membersOf, hfound]
  cases value with
  | array items =>
    dsimp only at hstatuses ⊢
    by_cases hstrings : isArrayOfString items = true
    · rw [if_pos hstrings] at hstatuses ⊢
      rw [← congrArg Proc.events hstatuses]
      cases items <;> rfl
    · rw [if_neg hstrings] at hstatuses ⊢
      obtain ⟨ack, hack, hevents⟩ := dispatchHelper_eq_ok hstatuses
      rw [← hevents, hack]
      exact responses_firstStatus _ _ _
  | _ => cases congrArg Proc.result hstatuses

/-! ## Outcomes -/

/-- One response with the captured values. -/
def AnsweredOnce (env : OrderAckEnv) (action : Action) (events : List AckEffect) : Prop :=
  ∃ origin status error text, responses events = [answerOf env action origin status error text]

/-- `handle_success` of an action. -/
def Action.handleSuccess (env : OrderAckEnv) (body : Body) :
    Action → Proc AckEffect Exception Unit
  | .createOrder source orderId => handleCreateSuccess env.toAckEnv source orderId 1 body
  | .modifyOrder _ _ _ => handleModifySuccess env body
  | .cancelOrder source orderId version =>
    handleCancelSuccess env.toAckEnv source orderId version body

/-- The three callbacks differ in their `handle_success` only. -/
theorem callback_eq (env : OrderAckEnv) (action : Action) (response : Response Body) :
    action.callback env response =
      processResponse env.http (Proc.emit .suspendFor) response
        (handleError action.requestType env.streamId action.source action.orderId action.version)
        fun body ↦ action.handleSuccess env body := by
  cases action <;> rfl

/-- The error handler sends one response. -/
theorem answeredOnce_handleError (env : OrderAckEnv) (action : Action) (origin : Origin)
    (status : RequestStatus) (error : Error) (text : String) :
    AnsweredOnce env action (handleError action.requestType env.streamId action.source
      action.orderId action.version origin status error text).events :=
  ⟨origin, status, error, text, rfl⟩

private theorem answeredOnce_handleException (env : OrderAckEnv) (action : Action) (e : Exception) :
    AnsweredOnce env action (handleException (handleError action.requestType env.streamId
      action.source action.orderId action.version) e).events := by
  cases e with
  | networkError requestStatus error what => exact answeredOnce_handleError ..
  | std what => exact answeredOnce_handleError ..

/-- What is thrown is answered. -/
theorem answeredOnce_of_error (env : OrderAckEnv) (action : Action) (e : Exception) :
    AnsweredOnce env action (action.callback env ⟨.error e⟩).events := by
  rw [callback_eq]
  exact answeredOnce_handleException env action e

/-- Every failure that is not a redirection is answered, unless `expect` finds its status `OK`. -/
theorem answeredOnce_of_failure (env : OrderAckEnv) (action : Action) {status : Web.Status}
    {category : Category} {body : Body} (hsuccess : category ≠ .success)
    (hredirection : category ≠ .redirection) :
    AnsweredOnce env action (action.callback env ⟨.ok (status, category, body)⟩).events ∨
      status = .ok ∧
        responses (action.callback env ⟨.ok (status, category, body)⟩).events = [] := by
  rw [callback_eq]
  unfold processResponse dispatchCategory expectOk
  dsimp only
  cases category with
  | success => exact absurd rfl hsuccess
  | redirection => exact absurd rfl hredirection
  | clientError =>
    left
    dsimp only
    split
    · exact ⟨_, _, _, _, rfl⟩
    · exact ⟨_, _, _, _, rfl⟩
  | serverError => exact Or.inl ⟨_, _, _, _, rfl⟩
  | _ =>
    dsimp only
    by_cases hstatus : status = .ok
    · rw [if_pos hstatus]
      exact Or.inr ⟨hstatus, rfl⟩
    · rw [if_neg hstatus]
      exact Or.inl (answeredOnce_handleException env action (env.http.unexpected status))

section

variable {env : OrderAckEnv} {action : Action} {response : Response Body}

private theorem answers_of_once (h : AnsweredOnce env action (action.callback env response).events)
    (hsilent : ¬ FirstSucceeds env action response) : Answers env action response := by
  obtain ⟨origin, status, error, text, h⟩ := h
  refine ⟨by simp [h], ?_, fun _ ↦ by simp [h], fun hfirst ↦ absurd hfirst hsilent⟩
  intro answer hanswer
  rw [h, List.mem_singleton] at hanswer
  rw [hanswer]
  exact ⟨rfl, rfl, rfl, rfl⟩

private theorem answers_of_silent (h : responses (action.callback env response).events = [])
    (hmust : ¬ MustAnswer env action response) : Answers env action response := by
  refine ⟨by simp [h], ?_, fun hanswer ↦ absurd hanswer hmust, fun _ ↦ h⟩
  intro answer hanswer
  rw [h] at hanswer
  exact absurd hanswer List.not_mem_nil

/-- A reply to a modified order is answered exactly when it cannot be decoded. -/
theorem answers_modify {source : UInt8} {orderId : UInt64} {version : UInt32}
    {status : Web.Status} {body : Body} :
    Answers env (.modifyOrder source orderId version) ⟨.ok (status, .success, body)⟩ := by
  have hthrown : ∀ what, handleModifySuccess env body = Proc.throw (.std what) →
      Answers env (.modifyOrder source orderId version) ⟨.ok (status, .success, body)⟩ := by
    intro what h
    apply answers_of_once
    · rw [callback_eq]
      unfold processResponse dispatchCategory Action.handleSuccess
      dsimp only
      rw [h]
      exact answeredOnce_handleException env _ _
    · rintro ⟨_, _, _, hfirst⟩
      cases hfirst
  cases body with
  | error what => exact hthrown what rfl
  | ok message =>
    cases hdecoded : env.decodeModifyOrderAck message with
    | error what =>
      apply hthrown what
      unfold handleModifySuccess
      rw [Proc.ofExcept_ok, Proc.pure_bind, hdecoded]
      rfl
    | ok ack =>
      have hreturned : handleModifySuccess env (.ok message) = pure () := by
        unfold handleModifySuccess
        rw [Proc.ofExcept_ok, Proc.pure_bind, hdecoded]
        rfl
      apply answers_of_silent
      · rw [callback_eq]
        unfold processResponse dispatchCategory Action.handleSuccess
        dsimp only
        rw [hreturned]
        rfl
      · intro hmust
        change (env.decodeModifyOrderAck message).isOk = false at hmust
        rw [hdecoded] at hmust
        cases hmust

/-- A first status is found in a reply that is no general error. -/
theorem reported?_of_firstError? {message : Value} {error : String}
    (h : firstError? env message action = some error) :
    reported? env message action = if error = "" then none else some error := by
  have hfound : found env.hash (membersOf message) ≠ .generalError := by
    intro hgeneral
    unfold firstError? at h
    rw [hgeneral] at h
    cases action <;> cases h
  have hreported : reported? env message action =
      (firstError? env message action).filter (· ≠ "") := by
    unfold reported?
    split
    · next hgeneral => exact absurd hgeneral hfound
    · rfl
  rw [hreported, h, Option.filter_some]
  by_cases herror : error = "" <;> simp [herror]

/-- A body that is answered with its text, or not at all. -/
theorem answers_of_answeredBy {status : Web.Status} {message : Value}
    (hfails : BodyFails env action (.ok message) →
      found env.hash (membersOf message) = .generalError ∨
        ∃ error, firstError? env message action = some error ∧ error ≠ "")
    (h : AnsweredBy env action message
      (action.callback env ⟨.ok (status, .success, .ok message)⟩).events) :
    Answers env action ⟨.ok (status, .success, .ok message)⟩ := by
  obtain ⟨hresponses, hgeneral⟩ := h
  cases hreported : reported? env message action with
  | none =>
    rw [hreported] at hresponses hgeneral
    apply answers_of_silent hresponses
    intro hmust
    rcases hfails hmust with hfound | ⟨error, hfirst, hne⟩
    · cases hgeneral hfound
    · rw [reported?_of_firstError? hfirst, if_neg hne] at hreported
      cases hreported
  | some text =>
    rw [hreported] at hresponses
    apply answers_of_once ⟨_, _, _, text, hresponses⟩
    rintro ⟨_, _, hresponse, hfirst⟩
    cases hresponse
    rw [reported?_of_firstError? hfirst, if_pos rfl] at hreported
    cases hreported

end

/-- Every outcome that does not end the process is answered once or not at all, with what its
callback has captured. -/
theorem answers (env : OrderAckEnv) (action : Action) (response : Response Body)
    (h : ∀ text, (action.callback env response).result ≠ .error (.fatal text)) :
    Answers env action response := by
  obtain ⟨result⟩ := response
  cases result with
  | error e =>
    apply answers_of_once (answeredOnce_of_error env action e)
    rintro ⟨_, _, hresponse, _⟩
    cases hresponse
  | ok parts =>
    obtain ⟨status, category, body⟩ := parts
    by_cases hsuccess : category = .success
    · subst hsuccess
      cases action with
      | modifyOrder source orderId version => exact answers_modify
      | createOrder source orderId =>
        have hcallback : (Action.createOrder source orderId).callback env
            ⟨.ok (status, .success, body)⟩ = _ :=
          createOrderAck_of_success env.toAckEnv status body source orderId 1
        rw [hcallback] at h
        obtain ⟨message, rfl, hanswered⟩ := answeredBy_create env source orderId h
        apply answers_of_answeredBy
        · rintro ⟨_, hmessage, hfails⟩
          cases hmessage
          exact hfails
        · rw [hcallback]
          exact hanswered
      | cancelOrder source orderId version =>
        have hcallback : (Action.cancelOrder source orderId version).callback env
            ⟨.ok (status, .success, body)⟩ = _ :=
          cancelOrderAck_of_success env.toAckEnv status body source orderId version
        rw [hcallback] at h
        obtain ⟨message, rfl, hanswered⟩ := answeredBy_cancel env source orderId version h
        apply answers_of_answeredBy
        · rintro ⟨_, hmessage, hfails⟩
          cases hmessage
          exact hfails
        · rw [hcallback]
          exact hanswered
    · have hsilent : ¬ FirstSucceeds env action ⟨.ok (status, category, body)⟩ := by
        rintro ⟨_, _, hresponse, _⟩
        cases hresponse
        exact hsuccess rfl
      have hredirection : category ≠ .redirection := by
        rintro rfl
        rw [callback_eq] at h
        exact h _ rfl
      rcases @answeredOnce_of_failure env action status category body hsuccess hredirection with
        honce | ⟨rfl, hnone⟩
      · exact answers_of_once honce hsilent
      · apply answers_of_silent hnone
        intro hmust
        cases category <;> first | cases hmust | exact hsuccess rfl

/-- A first status with an error. -/
theorem answers_insufficient_margin :
    Answers ⟨Transports.schema.rest, fun _ ↦ .ok ⟨.ok⟩⟩ (.createOrder 1 1)
      ⟨.ok (.ok, .success, .ok (statusesReply "order"
        [.object [("error", .string "Insufficient margin to place order.")]]))⟩ := by
  apply answers
  intro text h
  change (createOrderAck Transports.schema.rest _ 1 1 1).result = _ at h
  rw [createOrderAck_of_success, handleCreateSuccess_statusesReply _ rfl,
    result_firstStatus _ fun _ ↦ rfl] at h
  cases h

end Hyperliquid.Gateway.OrderEntry
