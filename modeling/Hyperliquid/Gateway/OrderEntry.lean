import Hyperliquid.Gateway.ProcessResponse
import Hyperliquid.Gateway.Session

/-!
# Downloads of the order entry stream

The requests by which `OrderEntry` answers the slots of a session, and the handlers of their
replies: `src/roq/hyperliquid/gateway/order_entry.cpp:253–411, 466–521, 575–625, 885–902`.
The bodies of the requests and the order updates made from the replies are left out.
-/

namespace Hyperliquid.Gateway.OrderEntry

open Hyperliquid.Base Hyperliquid.Web

/-- What the handlers do to the session and to the outside, in order. -/
inductive Effect (library : LimitRequest) where
  /-- `(*connection_).suspend_for(suspend_after_429)` -/
  | suspendFor
  | send (call : Call)
  /-- `finished = false` -/
  | notFinished
  | checkPending (name : RequestName) (input : library.Input) (threw : Bool)
  | commit (name : RequestName)
  /-- `++download_stale_orders_counter_` -/
  | countOrder
  /-- `--download_stale_orders_counter_` -/
  | discountOrder
  /-- `details_stale_orders.clear()` -/
  | clearStaleOrders

/-- A reply to a request: the response with its decoded body, of which the download uses
nothing, and how the calls that its handler makes end. -/
structure Reply where
  response : Response (Except String Unit)
  /-- `create_trace_and_dispatch_2` -/
  dispatched : Except Exception Unit
  /-- sending the next request -/
  sent : Except Exception Unit

namespace Reply

/-- The reply has a 2xx status and was decoded. -/
def successful (reply : Reply) : Bool :=
  match reply.response.result with
  | .ok (_, .success, .ok ()) => true
  | _ => false

/-- The reply is a redirection, which ends the process. -/
def redirected (reply : Reply) : Bool :=
  match reply.response.result with
  | .ok (_, .redirection, _) => true
  | _ => false

/-- The reply is successful, and its handler returns. -/
def handled (reply : Reply) : Bool := reply.successful && reply.dispatched.isOk

end Reply

variable {library : LimitRequest}

/-- The `handle_error` of these handlers: it logs. -/
def logError : ErrorHandler (Effect library) := fun _ _ _ _ ↦ pure ()

/-- The end of every request: `(*connection_)(request, callback, …)`. -/
def sendRequest (sent : Except Exception Unit) (call : Call) :
    Proc (Effect library) Exception Unit := do
  Proc.ofThrows sent
  Proc.emit (.send call)

/-- `get_spot_clearing_house_state`, `order_entry.cpp:253–275`. -/
def getSpotClearingHouseState (sent : Except Exception Unit) :
    Proc (Effect library) Exception Unit :=
  sendRequest sent .spotClearingHouseState

/-- The request for one entry of the list of dexes. The assertion is kept. -/
def getDex (call : Nat → Call) (dex : List Dex) (sent : Except Exception Unit) (index : Nat) :
    Proc (Effect library) Exception Unit :=
  if index < dex.length then sendRequest sent (call index)
  else Proc.fatal "index < std::size(shared_.dex)"

/-- `get_clearing_house_state`, `order_entry.cpp:301–327`. -/
def getClearingHouseState (dex : List Dex) (sent : Except Exception Unit) (index : Nat) :
    Proc (Effect library) Exception Unit :=
  getDex .clearingHouseState dex sent index

/-- `get_open_orders`, `order_entry.cpp:361–387`. -/
def getOpenOrders (dex : List Dex) (sent : Except Exception Unit) (index : Nat) :
    Proc (Effect library) Exception Unit :=
  getDex .openOrders dex sent index

/-- `get_user_fills`, `order_entry.cpp:575–601`. -/
def getUserFills (dex : List Dex) (sent : Except Exception Unit) (index : Nat) :
    Proc (Effect library) Exception Unit :=
  getDex .userFills dex sent index

/-- `get_order_status`, `order_entry.cpp:466–496`. -/
def getOrderStatus (sent : Except Exception Unit) (order : OrderKey) :
    Proc (Effect library) Exception Unit :=
  sendRequest sent (.orderStatus order)

variable (http : HttpLibrary)

/-- `get_spot_clearing_house_state_ack`, `order_entry.cpp:277–291`: the slot is committed after
any reply that does not end the process. -/
def getSpotClearingHouseStateAck (reply : Reply) : Proc (Effect library) Exception Unit := do
  processResponse http (Proc.emit .suspendFor) reply.response logError fun body ↦ do
    Proc.ofExcept .std body
    Proc.ofThrows reply.dispatched
  Proc.emit (.commit .spotClearingHouseState)

/-- The `handle_success` of a reply for one entry of the list of dexes. -/
def handleDexSuccess (call : Nat → Call) (dex : List Dex) (reply : Reply) (index : Nat)
    (body : Except String Unit) : Proc (Effect library) Exception Unit := do
  Proc.ofExcept .std body
  Proc.ofThrows reply.dispatched
  if index + 1 < dex.length then do
    Proc.emit .notFinished
    getDex call dex reply.sent (index + 1)
  else pure ()

/-- `finished`, after some effects. -/
def finished (effects : List (Effect library)) : Bool :=
  effects.all fun
    | .notFinished => false
    | _ => true

/-- The handler of a reply for one entry of the list of dexes: a success asks for the next
entry; the slot is committed after the last entry, and after any failure. -/
def getDexAck (call : Nat → Call) (name : RequestName) (dex : List Dex) (reply : Reply)
    (index : Nat) : Proc (Effect library) Exception Unit :=
  let handler := processResponse http (Proc.emit .suspendFor) reply.response logError
    (handleDexSuccess call dex reply index)
  handler >>= fun _ ↦
    if finished handler.events then Proc.emit (.commit name) else pure ()

/-- `get_clearing_house_state_ack`, `order_entry.cpp:329–351`. -/
def getClearingHouseStateAck (dex : List Dex) (reply : Reply) (index : Nat) :
    Proc (Effect library) Exception Unit :=
  getDexAck http .clearingHouseState .clearingHouseState dex reply index

/-- `get_open_orders_ack`, `order_entry.cpp:389–411`. -/
def getOpenOrdersAck (dex : List Dex) (reply : Reply) (index : Nat) :
    Proc (Effect library) Exception Unit :=
  getDexAck http .openOrders .openOrders dex reply index

/-- `get_user_fills_ack`, `order_entry.cpp:603–625`. -/
def getUserFillsAck (dex : List Dex) (reply : Reply) (index : Nat) :
    Proc (Effect library) Exception Unit :=
  getDexAck http .userFills .trades dex reply index

/-- `get_order_status_ack`, `order_entry.cpp:498–521`. -/
def getOrderStatusAck (downloadStaleOrdersCounter : Nat) (reply : Reply) :
    Proc (Effect library) Exception Unit := do
  processResponse http (Proc.emit .suspendFor) reply.response logError fun body ↦ do
    Proc.ofExcept .std body
    Proc.ofThrows reply.dispatched
  match downloadStaleOrdersCounter with
  | 0 => Proc.fatal "Unexpected"
  | counter + 1 => do
    Proc.emit .discountOrder
    if counter = 0 then Proc.emit (.commit .staleOrders) else pure ()

/-- What `check_request_queue` learns from outside. -/
structure QueueInputs (library : LimitRequest) where
  input : RequestName → library.Input
  /-- how sending a request ends -/
  sent : Call → Except Exception Unit
  /-- `shared_.dispatcher.find_order` -/
  findOrder : OrderKey → Bool

variable (request : Request library) (inputs : QueueInputs library)

/-- `check_pending` of a slot. -/
def checkPending (name : RequestName) (callback : Proc (Effect library) Exception Unit) :
    Proc (Effect library) Exception Unit :=
  if library.fires (inputs.input name) (request.slot name) then do
    Proc.emit (.checkPending name (inputs.input name) !callback.result.isOk)
    callback
  else Proc.emit (.checkPending name (inputs.input name) false)

/-- The loop over the stale orders, `order_entry.cpp:891–900`; the count is kept per order, after
its request has been sent. -/
def requestOrders : List OrderKey → Proc (Effect library) Exception Unit
  | [] => Proc.emit .clearStaleOrders
  | order :: orders => do
    if inputs.findOrder order then do
      getOrderStatus (inputs.sent (.orderStatus order)) order
      Proc.emit .countOrder
    else pure ()
    requestOrders orders

/-- `check_request_queue`, `order_entry.cpp:885–902`. -/
def checkRequestQueue (dex : List Dex) : Proc (Effect library) Exception Unit := do
  checkPending request inputs .spotClearingHouseState
    (getSpotClearingHouseState (inputs.sent .spotClearingHouseState))
  checkPending request inputs .clearingHouseState
    (getClearingHouseState dex (inputs.sent (.clearingHouseState 0)) 0)
  checkPending request inputs .openOrders (getOpenOrders dex (inputs.sent (.openOrders 0)) 0)
  checkPending request inputs .staleOrders (requestOrders inputs request.detailsStaleOrders)
  checkPending request inputs .trades (getUserFills dex (inputs.sent (.userFills 0)) 0)

/-- The callback of a request, which handles its reply. -/
def ack (dex : List Dex) (downloadStaleOrdersCounter : Nat) (reply : Reply) :
    Call → Proc (Effect library) Exception Unit
  | .spotClearingHouseState => getSpotClearingHouseStateAck http reply
  | .clearingHouseState index => getClearingHouseStateAck http dex reply index
  | .openOrders index => getOpenOrdersAck http dex reply index
  | .orderStatus _ => getOrderStatusAck http downloadStaleOrdersCounter reply
  | .userFills index => getUserFillsAck http dex reply index

/-- What the handler of a reply may do: ask for the next entry after a success, and commit
after the last entry or a failure. -/
def ReplyAllows (dex : List Dex) (reply : Reply) (call : Call) : Effect library → Prop
  | .suspendFor => True
  | .notFinished => True
  | .discountOrder => True
  | .send following => call.following dex = some following ∧ reply.handled = true
  | .commit name =>
    name = call.name ∧ reply.redirected = false ∧
      (reply.handled = true → call.following dex = none)
  | _ => False

/-- What the queue may do: the requests that it sends are the first of their chains. -/
def QueueAllows : Effect library → Prop
  | .checkPending _ _ _ => True
  | .countOrder => True
  | .clearStaleOrders => True
  | .send call => call.earlier = []
  | _ => False

private theorem finished_eq_false_of_mem {effects : List (Effect library)}
    (h : .notFinished ∈ effects) :
    finished effects = false := by
  rw [finished, List.all_eq_false]
  exact ⟨.notFinished, h, Bool.false_ne_true⟩

/-- A reply that is handled has a decoded body in a 2xx response. -/
theorem Reply.result_of_handled {reply : Reply} (h : reply.handled = true) :
    (∃ status, reply.response = ⟨.ok (status, .success, .ok ())⟩) ∧ reply.dispatched = .ok () := by
  obtain ⟨⟨result⟩, dispatched, sent⟩ := reply
  rw [handled, Bool.and_eq_true] at h
  constructor
  · have hsuccess := h.1
    unfold successful at hsuccess
    split at hsuccess
    · next status hresult => exact ⟨status, congrArg _ hresult⟩
    · cases hsuccess
  · have hdispatched := h.2
    cases dispatched with
    | error e => cases hdispatched
    | ok _ => rfl

/-- A response that is processed to the end is no redirection. -/
theorem Reply.redirected_eq_false {ω : Type} (reply : Reply) {http : HttpLibrary}
    {suspendAfter429 : Proc ω Exception Unit} {errorHandler : ErrorHandler ω}
    {successHandler : Except String Unit → Proc ω Exception Unit} {a : Unit}
    (h : (processResponse http suspendAfter429 reply.response errorHandler
      successHandler).result = .ok a) : reply.redirected = false := by
  obtain ⟨⟨result⟩, dispatched, sent⟩ := reply
  cases result with
  | error e => rfl
  | ok parts =>
    obtain ⟨status, category, body⟩ := parts
    cases category with
    | redirection => cases h
    | _ => rfl

/-- A handler that asks for the next entry has not finished. -/
theorem notFinished_mem_of_handled (call : Nat → Call) {dex : List Dex} {reply : Reply}
    {index : Nat} (h : reply.handled = true) (hindex : index + 1 < dex.length) :
    (.notFinished : Effect library) ∈
      (processResponse http (Proc.emit .suspendFor) reply.response logError
        (handleDexSuccess call dex reply index)).events := by
  obtain ⟨⟨status, hresponse⟩, hdispatched⟩ := reply.result_of_handled h
  have hhandler : (handleDexSuccess call dex reply index (.ok ()) :
      Proc (Effect library) Exception Unit) =
        Proc.emit .notFinished >>= fun _ ↦ getDex call dex reply.sent (index + 1) := by
    simp only [handleDexSuccess, hdispatched, Proc.ofExcept_ok, Proc.pure_bind, hindex, if_true]
    rfl
  rw [hresponse]
  show _ ∈ (Proc.catchThrown (handleDexSuccess call dex reply index (.ok ())) _).events
  rw [hhandler, Proc.emit_bind]
  unfold Proc.catchThrown
  split
  · exact List.mem_append_left _ (List.mem_cons_self ..)
  · exact List.mem_cons_self ..

private theorem emits_getDex {P : Effect library → Prop} (call : Nat → Call) (dex : List Dex)
    (sent : Except Exception Unit) (index : Nat)
    (h : index < dex.length → P (.send (call index))) :
    (getDex call dex sent index : Proc (Effect library) Exception Unit).Emits P := by
  unfold getDex sendRequest
  split
  · next hindex =>
    exact (Proc.emits_ofThrows sent).bind fun _ _ ↦ (Proc.emits_emit _).mpr (h hindex)
  · exact Proc.emits_fatal _

/-- The handler of a reply whose `handle_success` only dispatches. -/
theorem emits_processResponse_dispatch {P : Effect library → Prop} (hsuspend : P .suspendFor)
    (reply : Reply) :
    (processResponse http (Proc.emit .suspendFor) reply.response logError fun body ↦ do
      Proc.ofExcept .std body
      Proc.ofThrows reply.dispatched : Proc (Effect library) Exception Unit).Emits P := by
  apply emits_processResponse http
  · exact (Proc.emits_emit _).mpr hsuspend
  · exact fun _ _ _ _ ↦ Proc.emits_pure ()
  · intro _ body _
    exact (Proc.emits_ofExcept _ body).bind fun _ _ ↦ Proc.emits_ofThrows _

private theorem emits_handleDexSuccess (call : Nat → Call) {dex : List Dex} {reply : Reply}
    {index : Nat}
    (hfollowing : (call index).following dex =
      if index + 1 < dex.length then some (call (index + 1)) else none)
    {status : Web.Status} {body : Except String Unit}
    (hresult : reply.response.result = .ok (status, .success, body)) :
    (handleDexSuccess call dex reply index body : Proc (Effect library) Exception Unit).Emits
      (ReplyAllows dex reply (call index)) := by
  cases body with
  | error what => exact Proc.emits_throw _
  | ok _ =>
    cases hdispatched : reply.dispatched with
    | error e =>
      simp only [handleDexSuccess, hdispatched, Proc.ofExcept_ok, Proc.pure_bind]
      exact Proc.emits_throw _
    | ok _ =>
      have hhandled : reply.handled = true := by
        simp [Reply.handled, Reply.successful, hresult, hdispatched, Except.isOk, Except.toBool]
      simp only [handleDexSuccess, hdispatched, Proc.ofExcept_ok, Proc.pure_bind]
      show (ite _ _ _ : Proc (Effect library) Exception Unit).Emits _
      split
      · next hindex =>
        rw [if_pos hindex] at hfollowing
        apply Proc.Emits.bind ((Proc.emits_emit _).mpr trivial)
        intro _ _
        exact emits_getDex call dex reply.sent (index + 1) fun _ ↦ ⟨hfollowing, hhandled⟩
      · exact Proc.emits_pure ()

private theorem emits_getDexAck (call : Nat → Call) {name : RequestName} {dex : List Dex}
    (reply : Reply) {index : Nat} (hname : name = (call index).name)
    (hfollowing : (call index).following dex =
      if index + 1 < dex.length then some (call (index + 1)) else none) :
    (getDexAck http call name dex reply index : Proc (Effect library) Exception Unit).Emits
      (ReplyAllows dex reply (call index)) := by
  unfold getDexAck
  apply Proc.Emits.bind
  · apply emits_processResponse http
    · exact (Proc.emits_emit _).mpr trivial
    · exact fun _ _ _ _ ↦ Proc.emits_pure ()
    · exact fun _ _ hresult ↦ emits_handleDexSuccess call hfollowing hresult
  · intro _ hreturned
    split
    · next hfinished =>
      apply (Proc.emits_emit _).mpr
      refine ⟨hname, reply.redirected_eq_false hreturned, ?_⟩
      intro hhandled
      rw [hfollowing, if_neg]
      intro hindex
      have hmem : (.notFinished : Effect library) ∈ _ :=
        notFinished_mem_of_handled http call hhandled hindex
      rw [finished_eq_false_of_mem hmem] at hfinished
      cases hfinished
    · exact Proc.emits_pure ()

/-- What the handler of each reply does. -/
theorem emits_ack (dex : List Dex) (downloadStaleOrdersCounter : Nat) (reply : Reply)
    (call : Call) :
    (ack http dex downloadStaleOrdersCounter reply call :
      Proc (Effect library) Exception Unit).Emits (ReplyAllows dex reply call) := by
  cases call with
  | spotClearingHouseState =>
    apply Proc.Emits.bind (emits_processResponse_dispatch http trivial reply)
    intro _ hreturned
    exact (Proc.emits_emit _).mpr ⟨rfl, reply.redirected_eq_false hreturned, fun _ ↦ rfl⟩
  | clearingHouseState index => exact emits_getDexAck http .clearingHouseState reply rfl rfl
  | openOrders index => exact emits_getDexAck http .openOrders reply rfl rfl
  | orderStatus order =>
    apply Proc.Emits.bind (emits_processResponse_dispatch http trivial reply)
    intro _ hreturned
    cases downloadStaleOrdersCounter with
    | zero => exact Proc.emits_fatal _
    | succ counter =>
      apply Proc.Emits.bind ((Proc.emits_emit _).mpr trivial)
      intro _ _
      split
      · exact (Proc.emits_emit _).mpr ⟨rfl, reply.redirected_eq_false hreturned, fun _ ↦ rfl⟩
      · exact Proc.emits_pure ()
  | userFills index => exact emits_getDexAck http .userFills reply rfl rfl

private theorem emits_checkPending (request : Request library) (inputs : QueueInputs library)
    (name : RequestName) {callback : Proc (Effect library) Exception Unit}
    (h : callback.Emits QueueAllows) :
    (checkPending request inputs name callback).Emits QueueAllows := by
  unfold checkPending
  split
  · exact ((Proc.emits_emit _).mpr trivial).bind fun _ _ ↦ h
  · exact (Proc.emits_emit _).mpr trivial

private theorem emits_requestOrders (inputs : QueueInputs library) (orders : List OrderKey) :
    (requestOrders inputs orders).Emits QueueAllows := by
  induction orders with
  | nil => exact (Proc.emits_emit _).mpr trivial
  | cons order orders ih =>
    have hsend : (getOrderStatus (inputs.sent (.orderStatus order)) order :
        Proc (Effect library) Exception Unit).Emits QueueAllows :=
      (Proc.emits_ofThrows _).bind fun _ _ ↦ (Proc.emits_emit _).mpr rfl
    rw [requestOrders]
    split
    · apply hsend.bind
      intro _ _
      exact ((Proc.emits_emit _).mpr trivial).bind fun _ _ ↦ ih
    · exact ih

/-- What the queue does. -/
theorem emits_checkRequestQueue (request : Request library) (inputs : QueueInputs library)
    (dex : List Dex) : (checkRequestQueue request inputs dex).Emits QueueAllows := by
  have hspot : (getSpotClearingHouseState (inputs.sent .spotClearingHouseState) :
      Proc (Effect library) Exception Unit).Emits QueueAllows :=
    (Proc.emits_ofThrows _).bind fun _ _ ↦ (Proc.emits_emit _).mpr rfl
  have hfirst : ∀ (call : Nat → Call) (sent : Except Exception Unit), (call 0).earlier = [] →
      (getDex call dex sent 0 : Proc (Effect library) Exception Unit).Emits QueueAllows :=
    fun call sent h ↦ emits_getDex call dex sent 0 fun _ ↦ h
  unfold checkRequestQueue
  apply (emits_checkPending request inputs _ hspot).bind
  intro _ _
  apply (emits_checkPending request inputs _ (hfirst .clearingHouseState _ rfl)).bind
  intro _ _
  apply (emits_checkPending request inputs _ (hfirst .openOrders _ rfl)).bind
  intro _ _
  apply (emits_checkPending request inputs _ (emits_requestOrders inputs _)).bind
  intro _ _
  exact emits_checkPending request inputs _ (hfirst .userFills _ rfl)

end Hyperliquid.Gateway.OrderEntry
