import Hyperliquid.Base.Run
import Hyperliquid.Gateway.DropCopy
import Hyperliquid.Gateway.OrderEntry

/-!
# Runs of a session

The steps of a session: timers of both streams, messages and disconnects of the web socket,
and replies to the requests, in any order. Each event carries what the step learns from
outside.
-/

namespace Hyperliquid.Gateway

open Hyperliquid.Base

namespace Session

variable {library : LimitRequest}

/-- What happens to a session; `leaves` is how many states `download_` leaves. -/
inductive Event (library : LimitRequest) where
  | dropCopyReady (leaves : Nat)
  | dropCopyDisconnected
  | dropCopyTimer (refreshed : Bool) (originCreateTime : Int) (stale : List OrderKey)
    (leaves : Nat)
  | subscriptionResponse (type : DropCopy.SubscriptionType) (leaves : Nat)
  | orderEntryConnected
  | orderEntryDisconnected
  | orderEntryTimer (refreshed : Bool) (inputs : OrderEntry.QueueInputs library)
  /-- the reply to one of the outstanding requests -/
  | reply (position : Nat) (reply : OrderEntry.Reply)
  /-- `Rest` appends an entry to the list of dexes. -/
  | dexAdded (dex : Dex)

/-- An effect of a handler of `OrderEntry`. A request that a torn chain sends is torn. -/
def apply (torn : Bool) (session : Session library) : OrderEntry.Effect library → Session library
  | .suspendFor => session
  | .send call => { session with outstanding := session.outstanding ++ [⟨call, torn⟩] }
  | .notFinished => session
  | .checkPending name input threw =>
    { session with request := session.request.modify (library.checkPending input threw) name }
  | .commit name => { session with request := session.request.modify library.commit name }
  | .countOrder =>
    { session with downloadStaleOrdersCounter := session.downloadStaleOrdersCounter + 1 }
  | .discountOrder =>
    { session with downloadStaleOrdersCounter := session.downloadStaleOrdersCounter - 1 }
  | .clearStaleOrders =>
    { session with request := { session.request with detailsStaleOrders := [] } }

/-- Runs a handler of `OrderEntry`. What it throws goes to the event loop. -/
def perform (torn : Bool) (handler : Proc (OrderEntry.Effect library) Web.Exception Unit)
    (session : Session library) : Session library :=
  let session := handler.events.foldl (apply torn) session
  match handler.result with
  | .error (.fatal _) => { session with ended := true }
  | _ => session

/-- The web socket becomes ready: nothing has been received since, and the chains under way
are torn. -/
def restart (session : Session library) : Session library :=
  { session with
    received := []
    outstanding := session.outstanding.map fun waiting ↦
      { waiting with torn := !waiting.call.earlier.isEmpty } }

/-- A reply arrives. -/
def answered (position : Nat) (call : Call) (successful : Bool) (session : Session library) :
    Session library :=
  { session with
    outstanding := session.outstanding.eraseIdx position
    received := if successful then call :: session.received else session.received }

/-- The handler of `OrderEntry` that an event of a session runs. -/
def handler (http : HttpLibrary) (session : Session library) :
    Event library → Proc (OrderEntry.Effect library) Web.Exception Unit
  | .orderEntryTimer refreshed inputs =>
    if refreshed && session.orderEntryStatus = .ready then
      OrderEntry.checkRequestQueue session.request inputs session.dex
    else pure ()
  | .reply position reply =>
    match session.outstanding[position]? with
    | none => pure ()
    | some ⟨call, _⟩ =>
      OrderEntry.ack http session.dex session.downloadStaleOrdersCounter reply call
  | _ => pure ()

/-- One step of a session. -/
def step (settings : DropCopy.DownloadSettings) (http : HttpLibrary) (session : Session library)
    (event : Event library) : Session library :=
  if session.ended then session
  else
    match event with
    | .dropCopyReady leaves => DropCopy.ready settings leaves session.restart
    | .dropCopyDisconnected => DropCopy.disconnected session
    | .dropCopyTimer refreshed originCreateTime stale leaves =>
      DropCopy.timer settings refreshed originCreateTime stale leaves session
    | .subscriptionResponse type leaves =>
      DropCopy.subscriptionResponse settings leaves type session
    | .orderEntryConnected => { session with orderEntryStatus := .ready }
    | .orderEntryDisconnected => { session with orderEntryStatus := .disconnected }
    | .orderEntryTimer refreshed inputs =>
      if refreshed && session.orderEntryStatus = .ready then
        session.perform false
          (OrderEntry.checkRequestQueue session.request inputs session.dex)
      else session
    | .reply position reply =>
      match session.outstanding[position]? with
      | none => session
      | some ⟨call, torn⟩ =>
        (session.answered position call reply.successful).perform torn
          (OrderEntry.ack http session.dex session.downloadStaleOrdersCounter reply call)
    | .dexAdded dex => { session with dex := session.dex ++ [dex] }

end Session

end Hyperliquid.Gateway
