import Hyperliquid.Gateway.ProcessResponse
import Hyperliquid.Gateway.Rest.Meta
import Hyperliquid.Gateway.Session

/-!
# The download of reference data

How `Rest` walks through the states of its download, what it asks for in each of them and the
handlers of the replies: `src/roq/hyperliquid/gateway/rest.cpp:172–280, 340–538`. The bodies of
the requests are left out.
-/

namespace Hyperliquid.Gateway.Rest

open Hyperliquid.Base Hyperliquid.Web

/-- `Rest::State`, `rest.hpp:67–73`; `META` is `metas`, since `meta` is a keyword. -/
inductive State where
  | undefined
  | spotMeta
  | perpDexs
  | metas
  | done
  deriving DecidableEq, Repr

/-- The states in the order of their enumeration. -/
def State.next : State → Option State
  | undefined => some spotMeta
  | spotMeta => some perpDexs
  | perpDexs => some metas
  | metas => some done
  | done => none

/-- A request that `Rest` sends; an index is that of an entry of the list of dexes. -/
inductive Call where
  | spotMeta
  | perpDexs
  | metas (index : Nat)
  deriving DecidableEq, Repr

/-- The body of a reply, as each of the decoders reads it. -/
structure Body where
  spotMeta : Except String Unit
  perpDexs : Except String (List GetPerpDexsAckItem)
  metas : Except String (List GetMetaAckUniverseItem)

/-- A reply to a request, and how the calls that its handler makes end. -/
structure Reply where
  response : Response Body
  /-- what `download_.skip` returns -/
  skip : Bool
  /-- whether `download_.check` leaves the state -/
  leaves : Bool
  /-- sending the next request -/
  sent : Except Exception Unit

/-- What the handlers do to the gateway and to the outside, in order. -/
inductive Effect where
  /-- `(*connection_).suspend_for(suspend_after_429)` -/
  | suspendFor
  /-- `create_trace_and_dispatch_2` of a connection status -/
  | publish (status : ConnectionStatus)
  | send (call : Call)
  /-- `download_` enters a state -/
  | enter (state : State)
  /-- `shared_.dex`, after a change -/
  | setDex (dex : List Dex)
  /-- `shared_.all_symbols`, after a change -/
  | setAllSymbols (allSymbols : List String)
  /-- `SymbolsUpdate` -/
  | symbolsUpdate (symbols : List String)

/-- What a function of the repository throws is a `std::exception`. -/
def ofFailure {α : Type} : Except (Failure String) α → Proc Effect Exception α
  | .ok a => pure a
  | .error (.thrown what) => Proc.throw (.std what)
  | .error (.fatal text) => Proc.fatal text

/-- The end of every request: `(*connection_)(request, callback, …)`. -/
def sendRequest (sent : Except Exception Unit) (call : Call) : Proc Effect Exception Unit := do
  Proc.ofThrows sent
  Proc.emit (.send call)

/-- `get_spot_meta`, `rest.cpp:235–251`. -/
def getSpotMeta (sent : Except Exception Unit) : Proc Effect Exception Unit :=
  sendRequest sent .spotMeta

/-- `get_perp_dexs`, `rest.cpp:342–358`. -/
def getPerpDexs (sent : Except Exception Unit) : Proc Effect Exception Unit :=
  sendRequest sent .perpDexs

/-- `get_meta`, `rest.cpp:416–441`. The assertion is kept. -/
def getMeta (dex : List Dex) (sent : Except Exception Unit) (index : Nat) :
    Proc Effect Exception Unit :=
  if index < dex.length then sendRequest sent (.metas index)
  else Proc.fatal "index < std::size(shared_.dex)"

/-- `download`, `rest.cpp:205–231`. Every state but the last stops the download until it is
checked. -/
def download (dex : List Dex) (sent : Except Exception Unit) :
    State → Proc Effect Exception Unit
  | .undefined => Proc.fatal "false"
  | .spotMeta => do
    Proc.emit (.publish .downloading)
    getSpotMeta sent
  | .perpDexs => do
    Proc.emit (.publish .downloading)
    getPerpDexs sent
  | .metas => do
    Proc.emit (.publish .downloading)
    getMeta dex sent 0
  | .done => Proc.emit (.publish .ready)

/-- `download_` enters a state. -/
def enter (dex : List Dex) (sent : Except Exception Unit) (state : State) :
    Proc Effect Exception Unit := do
  Proc.emit (.enter state)
  download dex sent state

/-- `download_.check(trace_info, checked)`: the download may leave a state that is checked. -/
def check (dex : List Dex) (sent : Except Exception Unit) (leaves : Bool)
    (checked current : State) : Proc Effect Exception Unit :=
  match checked.next with
  | some following =>
    if leaves && current = checked then enter dex sent following else pure ()
  | none => pure ()

/-- The `handle_error` of the three replies. What `download_.retry` does is an event of its
own: the download may call back for its state at any time. -/
def handleError : ErrorHandler Effect := fun _ _ _ _ ↦ pure ()

/-- What the handlers read: `shared_.dex`, `shared_.all_symbols` and `download_.state()`. -/
structure View where
  dex : List Dex
  allSymbols : List String
  state : State

variable (http : HttpLibrary) (env : MetaEnv) (view : View) (reply : Reply)

/-- `get_spot_meta_ack`, `rest.cpp:253–273`; the handler of the decoded reply logs. -/
def getSpotMetaAck : Proc Effect Exception Unit :=
  processResponse http (Proc.emit .suspendFor) reply.response handleError fun body ↦
    if reply.skip then pure ()
    else do
      Proc.ofExcept .std body.spotMeta
      check view.dex reply.sent reply.leaves .spotMeta view.state

/-- `get_perp_dexs_ack`, `rest.cpp:360–380`, with the handler of the decoded reply. -/
def getPerpDexsAck : Proc Effect Exception Unit :=
  processResponse http (Proc.emit .suspendFor) reply.response handleError fun body ↦
    if reply.skip then pure ()
    else do
      let items ← Proc.ofExcept .std body.perpDexs
      let dex ← ofFailure (perpDexsAck env.settings view.dex items)
      Proc.emit (.setDex dex)
      check dex reply.sent reply.leaves .perpDexs view.state

/-- `get_meta_ack`, `rest.cpp:443–468`, with the handler of the decoded reply. -/
def getMetaAck (F : Type) [Double F] (index : Nat) : Proc Effect Exception Unit :=
  processResponse http (Proc.emit .suspendFor) reply.response handleError fun body ↦
    if reply.skip then pure ()
    else do
      let items ← Proc.ofExcept .std body.metas
      let (result, run) := metaAck (F := F) env view.dex index items view.allSymbols
      Proc.emit (.setAllSymbols run.allSymbols)
      ofFailure result
      Proc.emit (.symbolsUpdate run.symbols)
      if index + 1 < view.dex.length then getMeta view.dex reply.sent (index + 1)
      else check view.dex reply.sent reply.leaves .metas view.state

/-- The callback of a request, which handles its reply. -/
def ack (F : Type) [Double F] : Call → Proc Effect Exception Unit
  | .spotMeta => getSpotMetaAck http view reply
  | .perpDexs => getPerpDexsAck http env view reply
  | .metas index => getMetaAck http env view reply F index

end Hyperliquid.Gateway.Rest
