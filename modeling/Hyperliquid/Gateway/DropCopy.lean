import Hyperliquid.Base.Download
import Hyperliquid.Gateway.Session

/-!
# Downloads of the drop copy stream

How `DropCopy` walks through the states of its download, asks for what it needs through the
slots of the session and publishes READY: `src/roq/hyperliquid/gateway/drop_copy.cpp`. The
messages that it sends over the web socket are left out.
-/

namespace Hyperliquid.Gateway.DropCopy

open Hyperliquid.Base

/-- The settings that the download reads: `download.trades_lookback` and
`experimental.check_stale_order_freq`. -/
structure DownloadSettings where
  tradesLookback : Int
  checkStaleOrderFreq : Int
  deriving DecidableEq, Repr

/-- `protocol::json::SubscriptionType`. -/
inductive SubscriptionType where
  | undefinedInternal
  | unknownInternal
  | bbo
  | l2Book
  | trades
  | activeAssetCtx
  | notification
  | userFundings
  | orderUpdates
  | userFills
  | userEvents
  deriving DecidableEq, Repr

variable {library : LimitRequest}

/-- `create_trace_and_dispatch_2` of a connection status. -/
def publish (status : ConnectionStatus) (session : Session library) : Session library :=
  { session with dropCopyStatus := status }

/-- `request_.….request(trace_info)`. -/
def ask (name : RequestName) (session : Session library) : Session library :=
  { session with request := session.request.modify library.request name }

/-- `log::fatal`, and a failed assertion. -/
def fatal (session : Session library) : Session library := { session with ended := true }

variable (settings : DownloadSettings)

/-- `download`, `drop_copy.cpp:217–279`. -/
def download (state : DownloadState) (session : Session library) : Session library × Int32 :=
  match state with
  | .undefined => (fatal session, 0)
  | .subscribeNotification => (publish .downloading session, 1)
  | .subscribeUserFundings => (publish .downloading session, 1)
  | .getSpotClearingHouseState =>
    (ask .spotClearingHouseState (publish .downloading session), 1)
  | .getClearingHouseState => (ask .clearingHouseState (publish .downloading session), 1)
  | .subscribeOrderUpdates => (publish .downloading session, 1)
  | .getOpenOrders => (ask .openOrders (publish .downloading session), 1)
  | .getStaleOrders =>
    if session.request.detailsStaleOrders.isEmpty then (session, 0)
    else (ask .staleOrders (publish .downloading session), 1)
  | .subscribeUserFills => (publish .downloading session, 1)
  | .getUserFills =>
    if settings.tradesLookback ≠ 0 then (ask .trades (publish .downloading session), 1)
    else (session, 0)
  | .subscribeUserEvents => (publish .downloading session, 1)
  | .done =>
    ({ publish .ready session with
      readies := session.readies ++ [⟨session.dex, session.received⟩] }, 0)

/-- `download_.check(trace_info, checked)`. -/
def check (leaves : Nat) (checked : DownloadState) (session : Session library) :
    Session library :=
  let (state, session') :=
    Download.check DownloadState.next (download settings) leaves checked session.download session
  { session' with download := state }

/-- The handler of `web::socket::Disconnected`, with `download_.reset()`. -/
def disconnected (session : Session library) : Session library :=
  { publish .disconnected session with download := .undefined }

/-- The handler of `web::socket::Ready`, with `download_.begin(trace_info)`. -/
def ready (leaves : Nat) (session : Session library) : Session library :=
  let (state, session') := Download.enter DownloadState.next (download settings) leaves
    .subscribeNotification (publish .ready session)
  { session' with download := state }

/-- The handler of `protocol::json::SubscriptionResponse`. -/
def subscriptionResponse (leaves : Nat) (type : SubscriptionType) (session : Session library) :
    Session library :=
  match type with
  | .undefinedInternal | .unknownInternal | .bbo | .l2Book | .trades | .activeAssetCtx => session
  | .notification => check settings leaves .subscribeNotification session
  | .userFundings => check settings leaves .subscribeUserFundings session
  | .orderUpdates => check settings leaves .subscribeOrderUpdates session
  | .userFills => check settings leaves .subscribeUserFills session
  | .userEvents => check settings leaves .subscribeUserEvents session

/-- `details_stale_orders.insert(key)`. -/
def insertKey (details : List OrderKey) (key : OrderKey) : List OrderKey :=
  if key ∈ details then details else details ++ [key]

/-- `check_stale_orders`, `drop_copy.cpp:534–558`: the orders that the dispatcher calls stale
are added to the set; whether one is new. -/
def checkStaleOrders (stale : List OrderKey) (session : Session library) :
    Session library × Bool :=
  let details := stale.foldl insertKey session.request.detailsStaleOrders
  ({ session with request := { session.request with detailsStaleOrders := details } },
    details.length ≠ session.request.detailsStaleOrders.length)

/-- `check_stale_orders(trace_info)`, `drop_copy.cpp:560–567`. -/
def checkStaleOrdersAt (originCreateTime : Int) (stale : List OrderKey)
    (session : Session library) : Session library :=
  if session.nextCheckStaleOrders < originCreateTime then
    let session :=
      { session with nextCheckStaleOrders := originCreateTime + settings.checkStaleOrderFreq }
    let (session, found) := checkStaleOrders stale session
    if found then ask .staleOrders session else session
  else session

/-- `check_request_queue`, `drop_copy.cpp:484–532`. -/
def checkRequestQueue (leaves : Nat) (stale : List OrderKey) (session : Session library) :
    Session library :=
  match session.download with
  | .getSpotClearingHouseState =>
    if library.hasResponse session.request.spotClearingHouseState then
      check settings leaves .getSpotClearingHouseState session
    else session
  | .getClearingHouseState =>
    if library.hasResponse session.request.clearingHouseState then
      check settings leaves .getClearingHouseState session
    else session
  | .getOpenOrders =>
    if library.hasResponse session.request.openOrders then
      check settings leaves .getOpenOrders (checkStaleOrders stale session).1
    else session
  | .getStaleOrders =>
    if library.hasResponse session.request.staleOrders then
      if session.request.detailsStaleOrders.isEmpty then
        check settings leaves .getStaleOrders session
      else fatal session
    else session
  | .getUserFills =>
    if library.hasResponse session.request.trades then
      check settings leaves .getUserFills session
    else session
  | _ => session

/-- The handler of `Timer`, `drop_copy.cpp:118–129`; `refreshed` is what `refresh` returns. -/
def timer (refreshed : Bool) (originCreateTime : Int) (stale : List OrderKey) (leaves : Nat)
    (session : Session library) : Session library :=
  if refreshed then
    let session :=
      if session.dropCopyStatus = .ready then
        checkStaleOrdersAt settings originCreateTime stale session
      else session
    checkRequestQueue settings leaves stale session
  else session

/-- A view of the session through which the steps of the download are not seen. -/
structure Unseen {α : Type} (view : Session library → α) : Prop where
  update : ∀ (session : Session library) status state time readies ended details,
    view { session with
      dropCopyStatus := status
      download := state
      nextCheckStaleOrders := time
      readies := readies
      ended := ended
      request := { session.request with detailsStaleOrders := details } } = view session
  ask : ∀ name session, view (ask name session) = view session

namespace Unseen

variable {α : Type} {view : Session library → α} (h : Unseen view)
include h

/-- A published status is not seen. -/
theorem publish (status : ConnectionStatus) (session : Session library) :
    view (publish status session) = view session :=
  h.update session status _ _ _ _ _

/-- A state of the download is seen by its requests only. -/
theorem download (state : DownloadState) (session : Session library) :
    view (download settings state session).1 = view session := by
  have hask : ∀ name, view (DropCopy.ask name (DropCopy.publish .downloading session)) =
      view session := by
    intro name
    rw [h.ask, h.publish]
  unfold DropCopy.download
  cases state with
  | undefined => exact h.update session _ _ _ _ true _
  | getSpotClearingHouseState => exact hask _
  | getClearingHouseState => exact hask _
  | getOpenOrders => exact hask _
  | getStaleOrders =>
    dsimp only
    split
    · rfl
    · exact hask _
  | getUserFills =>
    dsimp only
    split
    · exact hask _
    · rfl
  | done => exact h.update session .ready _ _ _ _ _
  | _ => exact h.publish _ session

/-- A check of the download is not seen. -/
theorem check (leaves : Nat) (checked : DownloadState) (session : Session library) :
    view (check settings leaves checked session) = view session := by
  apply (h.update _ _ _ _ _ _ _).trans
  apply Download.check_keeps (P := fun session' ↦ view session' = view session) _ leaves rfl
  exact fun state session' hview ↦ (h.download settings state session').trans hview

/-- A connection is not seen. -/
theorem ready (leaves : Nat) (session : Session library) :
    view (ready settings leaves session) = view session := by
  apply (h.update _ _ _ _ _ _ _).trans
  apply Download.enter_keeps (P := fun session' ↦ view session' = view session) _ leaves
  · exact h.publish .ready session
  · exact fun state session' hview ↦ (h.download settings state session').trans hview

/-- A lost connection is not seen. -/
theorem disconnected (session : Session library) :
    view (disconnected session) = view session :=
  h.update session .disconnected .undefined _ _ _ _

/-- A confirmed subscription is not seen. -/
theorem subscriptionResponse (leaves : Nat) (type : SubscriptionType)
    (session : Session library) :
    view (subscriptionResponse settings leaves type session) = view session := by
  cases type <;> first | rfl | exact h.check settings leaves _ session

/-- Stale orders that are collected are not seen. -/
theorem checkStaleOrders (stale : List OrderKey) (session : Session library) :
    view (checkStaleOrders stale session).1 = view session :=
  h.update session _ _ _ _ _ _

/-- A look for stale orders is not seen. -/
theorem checkStaleOrdersAt (originCreateTime : Int) (stale : List OrderKey)
    (session : Session library) :
    view (checkStaleOrdersAt settings originCreateTime stale session) = view session := by
  have hlater : view { session with
      nextCheckStaleOrders := originCreateTime + settings.checkStaleOrderFreq } = view session :=
    h.update session _ _ _ _ _ _
  unfold DropCopy.checkStaleOrdersAt
  split
  · dsimp only
    split
    · rw [h.ask, h.checkStaleOrders, hlater]
    · rw [h.checkStaleOrders, hlater]
  · rfl

/-- A look at the request of the download is not seen. -/
theorem checkRequestQueue (leaves : Nat) (stale : List OrderKey) (session : Session library) :
    view (checkRequestQueue settings leaves stale session) = view session := by
  unfold DropCopy.checkRequestQueue
  split
  · split
    · exact h.check settings leaves _ session
    · rfl
  · split
    · exact h.check settings leaves _ session
    · rfl
  · split
    · rw [h.check, h.checkStaleOrders]
    · rfl
  · split
    · split
      · exact h.check settings leaves _ session
      · exact h.update session _ _ _ _ true _
    · rfl
  · split
    · exact h.check settings leaves _ session
    · rfl
  · rfl

/-- A timer of the stream is not seen. -/
theorem timer (refreshed : Bool) (originCreateTime : Int) (stale : List OrderKey) (leaves : Nat)
    (session : Session library) :
    view (timer settings refreshed originCreateTime stale leaves session) = view session := by
  unfold DropCopy.timer
  split
  · dsimp only
    rw [h.checkRequestQueue]
    split
    · exact h.checkStaleOrdersAt settings originCreateTime stale session
    · rfl
  · rfl

end Unseen

end Hyperliquid.Gateway.DropCopy
