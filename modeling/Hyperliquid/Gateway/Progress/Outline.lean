import Hyperliquid.Base.Rank
import Hyperliquid.Gateway.SessionRun
import Mathlib.Algebra.BigOperators.Group.List.Basic
import Mathlib.Algebra.Order.Ring.Nat

/-!
# What a download waits for

`DropCopy` and `OrderEntry` wait for each other, for the web socket and for replies,
`src/roq/hyperliquid/gateway/drop_copy.cpp:118–129, 217–279, 484–532` and
`order_entry.cpp:253–411, 466–521, 575–625, 885–902`. The outline of a session says what the state
of its download waits for, and its rank how many steps are left until READY.
-/

namespace Hyperliquid.Gateway

open Hyperliquid.Base

/-- Where a slot of `core::limit::Request` is between a request and its response. -/
inductive SlotPhase where
  | idle
  | pending
  | inFlight
  | answered
  deriving DecidableEq, Repr

/-- `core::limit::Request` as one slot: a request makes it pending, `check_pending` calls back for
a pending slot as soon as it is granted, and `commit` answers a slot in flight. Slots that have
been used in another way have no phase. -/
structure SlotPhases (library : LimitRequest) where
  phase : library.Slot → Option SlotPhase
  /-- what `can_request` answers -/
  granted : library.Input → Bool
  grant : library.Input
  granted_grant : granted grant = true
  phase_new : phase library.new = some .idle
  phase_request : ∀ slot, phase slot = some .idle ∨ phase slot = some .answered →
    phase (library.request slot) = some .pending
  fires_eq : ∀ input slot place, phase slot = some place →
    library.fires input slot = (granted input && place = .pending)
  phase_checkPending : ∀ input slot place, phase slot = some place →
    (granted input && place = .pending) = false →
      phase (library.checkPending input false slot) = some place
  phase_fired : ∀ input slot, phase slot = some .pending → granted input = true →
    phase (library.checkPending input false slot) = some .inFlight
  phase_commit : ∀ slot, phase slot = some .inFlight →
    phase (library.commit slot) = some .answered
  hasResponse_eq : ∀ slot place, phase slot = some place →
    library.hasResponse slot = decide (place = .answered)

/-- The phases of slots that fire once for each request. -/
def oneSlotPhases : SlotPhases oneSlot where
  phase
    | ⟨false, false, false⟩ => some .idle
    | ⟨true, false, false⟩ => some .pending
    | ⟨false, true, false⟩ => some .inFlight
    | ⟨false, false, true⟩ => some .answered
    | _ => none
  granted canRequest := canRequest
  grant := true
  granted_grant := rfl
  phase_new := rfl
  phase_request := by
    rintro ⟨_ | _, _ | _, _ | _⟩ h <;> simp [oneSlot] at h ⊢
  fires_eq := by
    rintro canRequest ⟨_ | _, _ | _, _ | _⟩ place h <;> cases h <;> cases canRequest <;> rfl
  phase_checkPending := by
    rintro canRequest ⟨_ | _, _ | _, _ | _⟩ place h hfires <;> cases h <;> cases canRequest <;>
      first | rfl | cases hfires
  phase_fired := by
    rintro canRequest ⟨_ | _, _ | _, _ | _⟩ h hgranted <;> cases h
    cases hgranted
    rfl
  phase_commit := by
    rintro ⟨_ | _, _ | _, _ | _⟩ h <;> cases h
    rfl
  hasResponse_eq := by
    rintro ⟨_ | _, _ | _, _ | _⟩ place h <;> cases h <;> rfl

/-! ## What is left of a download -/

namespace DownloadState

/-- The slot that a state asks for. -/
def slot? : DownloadState → Option RequestName
  | getSpotClearingHouseState => some .spotClearingHouseState
  | getClearingHouseState => some .clearingHouseState
  | getOpenOrders => some .openOrders
  | getStaleOrders => some .staleOrders
  | getUserFills => some .trades
  | _ => none

/-- The subscription that a state waits for. -/
def subscription? : DownloadState → Option DropCopy.SubscriptionType
  | subscribeNotification => some .notification
  | subscribeUserFundings => some .userFundings
  | subscribeOrderUpdates => some .orderUpdates
  | subscribeUserFills => some .userFills
  | subscribeUserEvents => some .userEvents
  | _ => none

/-- The steps that a state waits for, with a number of dexes and a bound on the stale orders: the
response to a subscription, or the queue, the replies and the timer. -/
def cost (dexes orders : Nat) : DownloadState → Nat
  | undefined => 0
  | getSpotClearingHouseState => 3
  | getClearingHouseState => dexes + 2
  | getOpenOrders => dexes + 2
  | getStaleOrders => orders + 2
  | getUserFills => dexes + 2
  | done => 0
  | _ => 1

/-- The steps that the states after a state wait for. -/
def remaining (dexes orders : Nat) : DownloadState → Nat
  | undefined => 3 * dexes + orders + 16
  | subscribeNotification => 3 * dexes + orders + 15
  | subscribeUserFundings => 3 * dexes + orders + 14
  | getSpotClearingHouseState => 3 * dexes + orders + 11
  | getClearingHouseState => 2 * dexes + orders + 9
  | subscribeOrderUpdates => 2 * dexes + orders + 8
  | getOpenOrders => dexes + orders + 6
  | getStaleOrders => dexes + 4
  | subscribeUserFills => dexes + 3
  | getUserFills => 1
  | subscribeUserEvents => 0
  | done => 0

/-- What remains after a state is the next state and what remains after that. -/
theorem remaining_next (dexes orders : Nat) {state following : DownloadState}
    (h : state.next = some following) :
    state.remaining dexes orders =
      following.cost dexes orders + following.remaining dexes orders := by
  cases state <;> cases h <;> simp only [remaining, cost] <;> omega

/-- A state that subscribes has no slot. -/
theorem slot?_of_subscription? {state : DownloadState} {type : DropCopy.SubscriptionType}
    (h : state.subscription? = some type) : state.slot? = none := by
  cases state <;> first | rfl | cases h

/-- A slot belongs to one state. -/
theorem slot?_inj {state other : DownloadState} {name : RequestName} (h : state.slot? = some name)
    (hother : other.slot? = some name) : state = other := by
  cases state <;> cases h <;> cases other <;> first | rfl | cases hother

/-- A subscription belongs to one state. -/
theorem subscription?_inj {state other : DownloadState} {type : DropCopy.SubscriptionType}
    (h : state.subscription? = some type) (hother : other.subscription? = some type) :
    state = other := by
  cases state <;> cases h <;> cases other <;> first | rfl | cases hother

/-- The steps that the state of a slot waits for. -/
theorem cost_of_slot? {state : DownloadState} {name : RequestName} (h : state.slot? = some name)
    (dexes orders : Nat) :
    state.cost dexes orders =
      match name with
      | .spotClearingHouseState => 3
      | .staleOrders => orders + 2
      | _ => dexes + 2 := by
  cases state <;> cases h <;> rfl

/-- A state that asks for something waits for it. -/
theorem cost_pos (dexes orders : Nat) {state : DownloadState}
    (h : state.slot?.isSome = true ∨ state.subscription?.isSome = true) :
    0 < state.cost dexes orders := by
  cases state <;> simp [slot?, subscription?, cost] at h ⊢

end DownloadState

/-- The replies that a request leaves to be received, with a number of dexes. -/
def Call.left (dexes : Nat) : Call → Nat
  | spotClearingHouseState => 1
  | clearingHouseState index => dexes - index
  | openOrders index => dexes - index
  | orderStatus _ => 1
  | userFills index => dexes - index

/-- What a session shows of its download. -/
@[ext]
structure Outline where
  phase : RequestName → Option SlotPhase
  detailsStaleOrders : List OrderKey
  outstanding : List Call
  downloadStaleOrdersCounter : Nat
  download : DownloadState
  dropCopyStatus : ConnectionStatus
  dexes : Nat
  ended : Bool

variable {library : LimitRequest} (slots : SlotPhases library)

def Session.outline (session : Session library) : Outline where
  phase name := slots.phase (session.request.slot name)
  detailsStaleOrders := session.request.detailsStaleOrders
  outstanding := session.outstanding.map Outstanding.call
  downloadStaleOrdersCounter := session.downloadStaleOrdersCounter
  download := session.download
  dropCopyStatus := session.dropCopyStatus
  dexes := session.dex.length
  ended := session.ended

/-- A call on a slot of the session. -/
theorem Session.outline_modify (session : Session library) (name : RequestName)
    {f : library.Slot → library.Slot} {place : Option SlotPhase}
    (h : slots.phase (f (session.request.slot name)) = place) :
    ({ session with request := session.request.modify f name }.outline slots).phase =
      Function.update (session.outline slots).phase name place := by
  funext other
  by_cases hname : other = name
  · subst hname
    rw [Function.update_self, ← h]
    exact congrArg slots.phase (Request.slot_modify_self session.request f other)
  · rw [Function.update_of_ne hname]
    exact congrArg slots.phase (Request.slot_modify_of_ne session.request f hname)

/-- A change of a slot leaves the stale orders. -/
theorem Request.detailsStaleOrders_modify (request : Request library)
    (f : library.Slot → library.Slot) (name : RequestName) :
    (request.modify f name).detailsStaleOrders = request.detailsStaleOrders := by
  cases name <;> rfl

namespace Outline

/-- The steps that the state of the download still waits for. -/
def waits (orders : Nat) (outline : Outline) : Nat :=
  match outline.download.slot? with
  | none => outline.download.cost outline.dexes orders
  | some name =>
    match outline.phase name with
    | some .pending => outline.download.cost outline.dexes orders
    | some .inFlight => (outline.outstanding.map (Call.left outline.dexes)).sum + 1
    | _ => 1

/-- The steps that the download still waits for. -/
def rank (orders : Nat) (outline : Outline) : Nat :=
  outline.waits orders + outline.download.remaining outline.dexes orders

section Rank

variable {orders : Nat} {outline : Outline} {name : RequestName}
  (hslot : outline.download.slot? = some name)
include hslot

/-- The request has not been sent. -/
theorem rank_of_pending (hphase : outline.phase name = some .pending) :
    outline.rank orders = outline.download.cost outline.dexes orders +
      outline.download.remaining outline.dexes orders := by
  simp only [rank, waits, hslot, hphase]

/-- The replies are waited for. -/
theorem rank_of_inFlight (hphase : outline.phase name = some .inFlight) :
    outline.rank orders = (outline.outstanding.map (Call.left outline.dexes)).sum + 1 +
      outline.download.remaining outline.dexes orders := by
  simp only [rank, waits, hslot, hphase]

/-- The timer is waited for. -/
theorem rank_of_answered (hphase : outline.phase name = some .answered) :
    outline.rank orders = 1 + outline.download.remaining outline.dexes orders := by
  simp only [rank, waits, hslot, hphase]

end Rank

/-- A slot that nothing is asked of. -/
def Settled (outline : Outline) (name : RequestName) : Prop :=
  outline.phase name = some .idle ∨ outline.phase name = some .answered

/-- Nothing is asked, and nothing is in flight. -/
structure Rested (orders : Nat) (outline : Outline) : Prop where
  ended : outline.ended = false
  dexes : 0 < outline.dexes
  orders : outline.detailsStaleOrders.length ≤ orders
  settled : ∀ name, outline.Settled name
  outstanding : outline.outstanding = []
  counter : outline.downloadStaleOrdersCounter = 0

/-- What the state of a download waits for. -/
inductive Waits (outline : Outline) : Prop where
  /-- the response to a subscription -/
  | subscription {type : DropCopy.SubscriptionType}
    (state : outline.download.subscription? = some type)
    (outstanding : outline.outstanding = [])
    (counter : outline.downloadStaleOrdersCounter = 0)
  /-- the queue of `OrderEntry` -/
  | queue {name : RequestName} (state : outline.download.slot? = some name)
    (phase : outline.phase name = some .pending) (outstanding : outline.outstanding = [])
    (counter : outline.downloadStaleOrdersCounter = 0)
    (details : name = .staleOrders → outline.detailsStaleOrders ≠ [])
  /-- the reply to the request of a chain -/
  | chain {call : Call} (state : outline.download.slot? = some call.name)
    (ofChain : call.name ≠ .staleOrders) (phase : outline.phase call.name = some .inFlight)
    (outstanding : outline.outstanding = [call])
    (counter : outline.downloadStaleOrdersCounter = 0) (left : 0 < call.left outline.dexes)
  /-- the replies to the requests of a batch of stale orders -/
  | batch (state : outline.download = .getStaleOrders)
    (phase : outline.phase .staleOrders = some .inFlight)
    (outstanding : outline.outstanding ≠ [])
    (ofBatch : ∀ call ∈ outline.outstanding, call.name = .staleOrders)
    (counter : outline.downloadStaleOrdersCounter = outline.outstanding.length)
    (details : outline.detailsStaleOrders = [])
  /-- the timer of `DropCopy` -/
  | timer {name : RequestName} (state : outline.download.slot? = some name)
    (phase : outline.phase name = some .answered) (outstanding : outline.outstanding = [])
    (counter : outline.downloadStaleOrdersCounter = 0)
    (details : name = .staleOrders → outline.detailsStaleOrders = [])

/-- A download that is under way. -/
structure UnderWay (orders : Nat) (outline : Outline) : Prop where
  ended : outline.ended = false
  status : outline.dropCopyStatus = .downloading
  dexes : 0 < outline.dexes
  orders : outline.detailsStaleOrders.length ≤ orders
  settled : ∀ name, outline.download.slot? ≠ some name → outline.Settled name
  waits : outline.Waits

/-- The download has published READY. -/
structure Done (outline : Outline) : Prop where
  download : outline.download = .done
  status : outline.dropCopyStatus = .ready

/-- What holds between the steps of a download. -/
def Inv (orders : Nat) (outline : Outline) : Prop := outline.UnderWay orders ∨ outline.Done

/-- A download at its end waits for nothing. -/
theorem Done.rank {outline : Outline} (h : outline.Done) (orders : Nat) :
    outline.rank orders = 0 := by
  simp [Outline.rank, waits, h.download, DownloadState.slot?, DownloadState.cost,
    DownloadState.remaining]

/-- A download that is under way waits for something. -/
theorem UnderWay.rank_pos {orders : Nat} {outline : Outline} (h : outline.UnderWay orders) :
    0 < outline.rank orders := by
  have hwaits : 0 < outline.waits orders := by
    unfold Outline.waits
    cases h.waits with
    | subscription state =>
      rw [DownloadState.slot?_of_subscription? state]
      exact DownloadState.cost_pos _ _ (.inr (Option.isSome_of_eq_some state))
    | queue state phase =>
      simp only [state, phase]
      exact DownloadState.cost_pos _ _ (.inl (Option.isSome_of_eq_some state))
    | chain state _ phase => simp [state, phase]
    | batch state phase => simp [state, phase, DownloadState.slot?]
    | timer state phase => simp [state, phase]
  exact Nat.add_pos_left hwaits _

/-- A download is at rest when the slot of its state is settled and nothing is in flight. -/
theorem UnderWay.rested {orders : Nat} {outline : Outline} (h : outline.UnderWay orders)
    (hsettled : ∀ name, outline.download.slot? = some name → outline.Settled name)
    (houtstanding : outline.outstanding = []) (hcounter : outline.downloadStaleOrdersCounter = 0) :
    outline.Rested orders where
  ended := h.ended
  dexes := h.dexes
  orders := h.orders
  settled name := (em (outline.download.slot? = some name)).elim (hsettled name) (h.settled name)
  outstanding := houtstanding
  counter := hcounter

end Outline

/-- What a step that pays a number of steps leaves of what a session waits for. -/
def Session.Moves (slots : SlotPhases library) (orders count : Nat)
    (session session' : Session library) : Prop :=
  (session'.outline slots).Inv orders ∧
    (session'.outline slots).rank orders + count ≤ (session.outline slots).rank orders

/-- A step that does nothing pays for nothing. -/
theorem Session.moves_self {slots : SlotPhases library} {orders : Nat} {session : Session library}
    (h : (session.outline slots).UnderWay orders) : Session.Moves slots orders 0 session session :=
  ⟨.inl h, Nat.le_refl _⟩

end Hyperliquid.Gateway
