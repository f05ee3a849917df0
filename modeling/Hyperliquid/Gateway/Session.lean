import Hyperliquid.Gateway.Shared

/-!
# A session of one account

The state that `DropCopy` and `OrderEntry` of one account have between them: the five slots
of `gateway/request.hpp`, through which one asks and the other answers, and what each keeps
for itself.
-/

namespace Hyperliquid.Gateway

/-- `core::limit::Request`, as far as the streams rely on it: a response is only present after
a call of `commit` that no later call of `request` follows. -/
structure LimitRequest where
  Slot : Type
  /-- What `check_pending` learns from outside: the time, and what `can_request` answers. -/
  Input : Type
  new : Slot
  request : Slot → Slot
  /-- Whether `check_pending` calls its callback. -/
  fires : Input → Slot → Bool
  /-- The slot after `check_pending`, whose callback may have thrown. -/
  checkPending : Input → (threw : Bool) → Slot → Slot
  commit : Slot → Slot
  hasResponse : Slot → Bool
  /-- `commit` has been called since the last call of `request`. -/
  committed : Slot → Bool
  committed_request : ∀ slot, committed (request slot) = false
  committed_checkPending : ∀ input threw slot,
    committed (checkPending input threw slot) = committed slot
  committed_of_hasResponse : ∀ slot, hasResponse slot = true → committed slot = true

/-- A slot that is pending, in flight or answered. -/
structure OneSlot where
  pending : Bool
  inFlight : Bool
  response : Bool
  deriving DecidableEq, Repr

/-- Slots that fire once for each request. -/
def oneSlot : LimitRequest where
  Slot := OneSlot
  Input := Bool
  new := ⟨false, false, false⟩
  request slot := { slot with pending := true, response := false }
  fires canRequest slot := canRequest && slot.pending
  checkPending canRequest threw slot :=
    if canRequest && slot.pending && !threw then { slot with pending := false, inFlight := true }
    else slot
  commit slot := { slot with inFlight := false, response := true }
  hasResponse slot := slot.response
  committed slot := slot.response
  committed_request _ := rfl
  committed_checkPending _ _ _ := by split <;> rfl
  committed_of_hasResponse _ h := h

/-- The key of an order: its user and its id. -/
abbrev OrderKey := UInt8 × UInt64

/-- The slots of `Request`. -/
inductive RequestName where
  | spotClearingHouseState
  | clearingHouseState
  | openOrders
  | staleOrders
  | trades
  deriving DecidableEq, Repr

/-- `Request`, `request.hpp:15–32`; the stale orders are a set. -/
structure Request (library : LimitRequest) where
  spotClearingHouseState : library.Slot
  clearingHouseState : library.Slot
  openOrders : library.Slot
  staleOrders : library.Slot
  trades : library.Slot
  detailsStaleOrders : List OrderKey

namespace Request

variable {library : LimitRequest}

def new (library : LimitRequest) : Request library :=
  ⟨library.new, library.new, library.new, library.new, library.new, []⟩

/-- The slot of a name. -/
def slot (request : Request library) : RequestName → library.Slot
  | .spotClearingHouseState => request.spotClearingHouseState
  | .clearingHouseState => request.clearingHouseState
  | .openOrders => request.openOrders
  | .staleOrders => request.staleOrders
  | .trades => request.trades

/-- A call on the slot of a name. -/
def modify (request : Request library) (f : library.Slot → library.Slot) :
    RequestName → Request library
  | .spotClearingHouseState =>
    { request with spotClearingHouseState := f request.spotClearingHouseState }
  | .clearingHouseState => { request with clearingHouseState := f request.clearingHouseState }
  | .openOrders => { request with openOrders := f request.openOrders }
  | .staleOrders => { request with staleOrders := f request.staleOrders }
  | .trades => { request with trades := f request.trades }

/-- The slot that is changed. -/
@[simp] theorem slot_modify_self (request : Request library) (f : library.Slot → library.Slot)
    (name : RequestName) : (request.modify f name).slot name = f (request.slot name) := by
  cases name <;> rfl

/-- The other slots stay as they are. -/
theorem slot_modify_of_ne (request : Request library) (f : library.Slot → library.Slot)
    {name other : RequestName} (h : other ≠ name) :
    (request.modify f name).slot other = request.slot other := by
  cases name <;> cases other <;> first | rfl | exact absurd rfl h

/-- The stale orders are not a slot. -/
@[simp] theorem slot_details (request : Request library) (details : List OrderKey)
    (name : RequestName) :
    ({ request with detailsStaleOrders := details }).slot name = request.slot name := by
  cases name <;> rfl

end Request

/-- A request that `OrderEntry` sends; an index is that of an entry of the list of dexes. -/
inductive Call where
  | spotClearingHouseState
  | clearingHouseState (index : Nat)
  | openOrders (index : Nat)
  | orderStatus (order : OrderKey)
  | userFills (index : Nat)
  deriving DecidableEq, Repr

namespace Call

/-- The slot that a request answers. -/
def name : Call → RequestName
  | spotClearingHouseState => .spotClearingHouseState
  | clearingHouseState _ => .clearingHouseState
  | openOrders _ => .openOrders
  | orderStatus _ => .staleOrders
  | userFills _ => .trades

/-- The request for the next entry of the list. -/
def following (dex : List Dex) : Call → Option Call
  | spotClearingHouseState => none
  | clearingHouseState index =>
    if index + 1 < dex.length then some (clearingHouseState (index + 1)) else none
  | openOrders index => if index + 1 < dex.length then some (openOrders (index + 1)) else none
  | orderStatus _ => none
  | userFills index => if index + 1 < dex.length then some (userFills (index + 1)) else none

/-- The requests for the earlier entries of the list. -/
def earlier : Call → List Call
  | spotClearingHouseState => []
  | clearingHouseState index => (List.range index).map clearingHouseState
  | openOrders index => (List.range index).map openOrders
  | orderStatus _ => []
  | userFills index => (List.range index).map userFills

end Call

/-- `DropCopy::State`, `drop_copy.hpp:79–92`. -/
inductive DownloadState where
  | undefined
  | subscribeNotification
  | subscribeUserFundings
  | getSpotClearingHouseState
  | getClearingHouseState
  | subscribeOrderUpdates
  | getOpenOrders
  | getStaleOrders
  | subscribeUserFills
  | getUserFills
  | subscribeUserEvents
  | done
  deriving DecidableEq, Repr

/-- The states in the order of their enumeration. -/
def DownloadState.next : DownloadState → Option DownloadState
  | undefined => some subscribeNotification
  | subscribeNotification => some subscribeUserFundings
  | subscribeUserFundings => some getSpotClearingHouseState
  | getSpotClearingHouseState => some getClearingHouseState
  | getClearingHouseState => some subscribeOrderUpdates
  | subscribeOrderUpdates => some getOpenOrders
  | getOpenOrders => some getStaleOrders
  | getStaleOrders => some subscribeUserFills
  | subscribeUserFills => some getUserFills
  | getUserFills => some subscribeUserEvents
  | subscribeUserEvents => some done
  | done => none

/-- `ConnectionStatus`, with the values the two streams publish. -/
inductive ConnectionStatus where
  | undefined
  | disconnected
  | downloading
  | ready
  deriving DecidableEq, Repr

/-- A request that has no reply yet. It is torn when earlier requests of its chain were
answered before the web socket last became ready; no code knows this. -/
structure Outstanding where
  call : Call
  torn : Bool
  deriving DecidableEq, Repr

/-- A READY that the download has published, with the list of dexes and the successful
replies since the web socket last became ready. -/
structure Ready where
  dex : List Dex
  received : List Call
  deriving DecidableEq, Repr

/-- The state of a session. -/
structure Session (library : LimitRequest) where
  /-- `shared_.dex` -/
  dex : List Dex
  request : Request library
  /-- `connection_status_` of `OrderEntry` -/
  orderEntryStatus : ConnectionStatus
  /-- `download_stale_orders_counter_` of `OrderEntry` -/
  downloadStaleOrdersCounter : Nat
  /-- the requests that `OrderEntry` has sent, in order -/
  outstanding : List Outstanding
  /-- `connection_status_` of `DropCopy` -/
  dropCopyStatus : ConnectionStatus
  /-- `download_.state()` of `DropCopy` -/
  download : DownloadState
  /-- `next_check_stale_orders_` of `DropCopy` -/
  nextCheckStaleOrders : Int
  /-- the process has ended -/
  ended : Bool
  /-- the requests with a successful reply since the web socket last became ready -/
  received : List Call
  /-- what the download has published as READY, in order -/
  readies : List Ready

/-- The state before any event. -/
def Session.new (library : LimitRequest) (dex : List Dex) : Session library where
  dex := dex
  request := .new library
  orderEntryStatus := .undefined
  downloadStaleOrdersCounter := 0
  outstanding := []
  dropCopyStatus := .undefined
  download := .undefined
  nextCheckStaleOrders := 0
  ended := false
  received := []
  readies := []

end Hyperliquid.Gateway
