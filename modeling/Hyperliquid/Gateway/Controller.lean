import Hyperliquid.Gateway.Rest.Download
import Hyperliquid.Gateway.SessionRun
import Hyperliquid.Gateway.Subscriptions

/-!
# The controller

The gateway as a whole, as far as reference data and symbols go: the stream that downloads
them, the market data streams, and the streams of the accounts, which are created with the
first symbols: `src/roq/hyperliquid/gateway/controller.cpp`.
-/

namespace Hyperliquid.Gateway

open Hyperliquid.Base Hyperliquid.Web

/-- What the controller reads beside its state. -/
structure ControllerEnv where
  http : HttpLibrary
  metaEnv : Rest.MetaEnv
  settings : DropCopy.DownloadSettings
  /-- A cast does not end with an assertion of the gateway. -/
  toUInt32_ne : ∀ x, metaEnv.safeCast.toUInt32 x ≠
    .error (.fatal "index < std::size(shared_.dex)")

/-- The state of the gateway. -/
structure Controller (library : LimitRequest) where
  /-- the number of accounts -/
  accounts : Nat
  /-- `shared_.dex`, which all streams read -/
  dex : List Dex
  feed : Feed
  /-- `connection_status_` of `Rest` -/
  restStatus : ConnectionStatus
  /-- `download_.state()` of `Rest` -/
  download : Rest.State
  /-- the requests that `Rest` has sent and that have no reply yet, in order -/
  outstanding : List Rest.Call
  /-- `order_entry_` and `drop_copy_`: the two streams of each account -/
  sessions : List (Session library)
  /-- the process has ended -/
  ended : Bool

namespace Controller

variable {library : LimitRequest}

/-- The state before any event. -/
def new (library : LimitRequest) (accounts maxSubscriptionsPerStream : Nat) :
    Controller library where
  accounts := accounts
  dex := []
  feed := .new maxSubscriptionsPerStream
  restStatus := .undefined
  download := .undefined
  outstanding := []
  sessions := []
  ended := false

/-- What happens to the gateway. -/
inductive Event (library : LimitRequest) where
  | subscribe (symbols : List String)
  | restConnected (sent : Except Exception Unit)
  | restDisconnected
  /-- `download_` of `Rest` calls back for its state again, after `retry` or `bump`. -/
  | restCallback (sent : Except Exception Unit)
  /-- the reply to one of the outstanding requests of `Rest` -/
  | restReply (position : Nat) (reply : Rest.Reply)
  | marketDataReady (index : Nat)
  | marketDataDisconnected (index : Nat)
  | session (account : Nat) (event : Session.Event library)

/-- The handler of `SymbolsUpdate`, `controller.cpp:229–262`: the streams of the accounts are
created once there are symbols. -/
def symbolsUpdate (symbols : List String) (controller : Controller library) :
    Controller library :=
  { controller with
    feed := controller.feed.symbolsUpdate symbols
    sessions :=
      if controller.sessions.isEmpty then
        List.replicate controller.accounts (Session.new library controller.dex)
      else controller.sessions }

/-- An effect of a handler of `Rest`. -/
def apply (controller : Controller library) : Rest.Effect → Controller library
  | .suspendFor => controller
  | .publish status => { controller with restStatus := status }
  | .send call => { controller with outstanding := controller.outstanding ++ [call] }
  | .enter state => { controller with download := state }
  | .setDex dex => { controller with dex }
  | .setAllSymbols allSymbols =>
    { controller with feed := { controller.feed with allSymbols } }
  | .symbolsUpdate symbols => symbolsUpdate symbols controller

/-- `download_.downloading()`. -/
def downloading (controller : Controller library) : Bool :=
  controller.download ≠ .undefined && controller.download ≠ .done

/-- What the handlers of `Rest` read. -/
def view (controller : Controller library) : Rest.View where
  dex := controller.dex
  allSymbols := controller.feed.allSymbols
  state := controller.download

variable (F : Type) [Double F] (env : ControllerEnv)

/-- The handlers of `Subscribe`, `controller.cpp:130–144`, and of the events of `Rest`,
`rest.cpp:174–190`. -/
def handler (controller : Controller library) :
    Event library → Proc Rest.Effect Exception Unit
  | .subscribe symbols => do
    let (allSymbols, new) := Feed.insertNew controller.feed.allSymbols symbols
    Proc.emit (.setAllSymbols allSymbols)
    Proc.emit (.symbolsUpdate new)
  | .restConnected sent =>
    if controller.downloading then pure () else Rest.enter controller.dex sent .spotMeta
  | .restDisconnected => do
    Proc.emit (.publish .disconnected)
    if controller.downloading then pure () else Proc.emit (.enter .undefined)
  | .restCallback sent =>
    if controller.downloading then Rest.download controller.dex sent controller.download
    else pure ()
  | .restReply position reply =>
    match controller.outstanding[position]? with
    | none => pure ()
    | some call => Rest.ack env.http env.metaEnv controller.view reply F call
  | _ => pure ()

/-- Runs a handler. What it throws goes to the event loop. -/
def perform (handler : Proc Rest.Effect Exception Unit) (controller : Controller library) :
    Controller library :=
  let controller := handler.events.foldl apply controller
  match handler.result with
  | .error (.fatal _) => { controller with ended := true }
  | _ => controller

/-- The session of an account, with the list of dexes that it shares with `Rest`. -/
def session? (controller : Controller library) (account : Nat) : Option (Session library) :=
  controller.sessions[account]?.map fun session ↦ { session with dex := controller.dex }

/-- A step of the session of an account; only `Rest` adds entries to the list of dexes. -/
def stepSession (account : Nat) (event : Session.Event library)
    (controller : Controller library) : Controller library :=
  match controller.session? account, event with
  | none, _ => controller
  | _, .dexAdded _ => controller
  | some session, event =>
    let session := session.step env.settings env.http event
    { controller with
      sessions := controller.sessions.set account session
      ended := session.ended }

/-- One step of the gateway. -/
def step (controller : Controller library) (event : Event library) : Controller library :=
  if controller.ended then controller
  else
    match event with
    | .marketDataReady index => { controller with feed := controller.feed.ready index }
    | .marketDataDisconnected index =>
      { controller with feed := controller.feed.disconnected index }
    | .session account event => stepSession env account event controller
    | .restReply position reply =>
      perform (handler F env controller (.restReply position reply))
        { controller with outstanding := controller.outstanding.eraseIdx position }
    | event => perform (handler F env controller event) controller

/-- A handler ends with the failed assertion of an access to the list of dexes. -/
def indexFails {ω : Type} (handler : Proc ω Exception Unit) : Bool :=
  match handler.result with
  | .error (.fatal text) => text == "index < std::size(shared_.dex)"
  | _ => false

/-- In a step the list of dexes is accessed outside its bounds. -/
def accessFails (controller : Controller library) (event : Event library) : Bool :=
  if controller.ended then false
  else
    match event with
    | .session account event =>
      (controller.session? account).any fun session ↦
        indexFails (session.handler env.http event)
    | event => indexFails (handler F env controller event)

end Controller

/-- A handler that fails has ended with a fatal error. -/
theorem Controller.exists_of_indexFails {ω : Type} {handler : Proc ω Exception Unit}
    (h : indexFails handler = true) : ∃ text, handler.result = .error (.fatal text) := by
  unfold indexFails at h
  split at h
  · next text hresult => exact ⟨text, hresult⟩
  · cases h

namespace Session

variable {library : LimitRequest}

private theorem ended_perform {torn : Bool}
    {handler : Proc (OrderEntry.Effect library) Exception Unit}
    (session : Session library) (h : Controller.indexFails handler = true) :
    (session.perform torn handler).ended = true := by
  obtain ⟨text, hresult⟩ := Controller.exists_of_indexFails h
  unfold perform
  rw [hresult]

/-- A session whose handler fails ends. -/
theorem ended_of_indexFails (settings : DropCopy.DownloadSettings) {http : HttpLibrary}
    {session : Session library} {event : Event library}
    (h : Controller.indexFails (session.handler http event) = true) :
    (session.step settings http event).ended = true := by
  unfold step
  split
  · assumption
  · cases event with
    | orderEntryTimer refreshed inputs =>
      unfold handler at h
      dsimp only at h ⊢
      split at h
      · next hready =>
        rw [if_pos hready]
        exact ended_perform session h
      · cases h
    | reply position reply =>
      unfold handler at h
      cases hwaiting : session.outstanding[position]? with
      | none =>
        simp only [hwaiting] at h
        cases h
      | some waiting =>
        simp only [hwaiting] at h ⊢
        exact ended_perform _ h
    | _ => cases h

end Session

/-- An access outside the bounds ends the process. -/
theorem Controller.ended_of_accessFails {library : LimitRequest} (F : Type) [Double F]
    {env : ControllerEnv} {controller : Controller library} {event : Event library}
    (h : accessFails F env controller event = true) :
    (step F env controller event).ended = true := by
  have hperform : ∀ (handler : Proc Rest.Effect Exception Unit) (controller : Controller library),
      indexFails handler = true → (perform handler controller).ended = true := by
    intro handler controller hfails
    obtain ⟨text, hresult⟩ := exists_of_indexFails hfails
    unfold perform
    rw [hresult]
  unfold accessFails at h
  unfold step
  split
  · assumption
  · next hended =>
    rw [if_neg hended] at h
    cases event with
    | session account event =>
      obtain ⟨session, hsession, hfails⟩ := (Option.any_eq_true _ _).mp h
      show (stepSession env account event controller).ended = true
      unfold stepSession
      rw [hsession]
      cases event with
      | dexAdded dex => cases hfails
      | _ => exact Session.ended_of_indexFails env.settings hfails
    | marketDataReady index => cases h
    | marketDataDisconnected index => cases h
    | subscribe symbols => exact hperform _ _ h
    | restConnected sent => exact hperform _ _ h
    | restDisconnected => exact hperform _ _ h
    | restCallback sent => exact hperform _ _ h
    | restReply position reply => exact hperform _ _ h

end Hyperliquid.Gateway
