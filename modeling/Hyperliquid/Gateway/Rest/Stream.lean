import Hyperliquid.Gateway.Rest.Download

/-!
# The stream of reference data

`Rest` with its connection and its download, `src/roq/hyperliquid/gateway/rest.cpp:174–231,
416–468`: the callback of a request captures the sequence of the download, and a download that is
started anew leaves its requests in flight.
-/

namespace Hyperliquid.Gateway.Rest

open Hyperliquid.Base Hyperliquid.Web

/-- The index that a request carries. -/
def Call.index? : Call → Option Nat
  | .spotMeta => none
  | .perpDexs => none
  | .metas index => some index

/-- A request without a reply, and the sequence that its callback has captured. -/
structure Request where
  call : Call
  sequence : UInt32
  deriving DecidableEq, Repr

/-- The state of the stream. -/
structure Stream where
  /-- `shared_.dex` -/
  dex : List Dex
  /-- `shared_.all_symbols` -/
  allSymbols : List String
  /-- `connection_status_` -/
  status : ConnectionStatus
  /-- `download_.state()` -/
  state : State
  /-- `download_.sequence()` -/
  sequence : UInt32
  /-- the requests that have no reply yet, in order -/
  outstanding : List Request
  /-- the download has entered its state, or called back for it, since the sequence changed -/
  started : Bool
  /-- the indexes whose replies the handler of `META` has processed since the sequence changed -/
  processed : List Nat
  /-- the process has ended -/
  ended : Bool

namespace Stream

/-- The state before any event. -/
def new (sequence : UInt32) : Stream where
  dex := []
  allSymbols := []
  status := .undefined
  state := .undefined
  sequence := sequence
  outstanding := []
  started := false
  processed := []
  ended := false

/-- What happens to the stream. -/
inductive Event where
  /-- the download is restarted, retried or bumped, which changes its sequence -/
  | sequenceChanged (sequence : UInt32)
  /-- another part of the gateway changes `shared_.all_symbols` -/
  | allSymbolsChanged (allSymbols : List String)
  | connected (sent : Except Exception Unit)
  | disconnected
  /-- the download calls back for its state again, after `retry` or `bump` -/
  | callback (sent : Except Exception Unit)
  /-- the reply to one of the outstanding requests, and the sequence of the state that its handler
  enters, where that is another one -/
  | reply (position : Nat) (reply : Reply) (entered : Option UInt32)

/-- `download_.downloading()`. -/
def downloading (stream : Stream) : Bool :=
  stream.state ≠ .undefined && stream.state ≠ .done

/-- What the handlers read. -/
def view (stream : Stream) : View := ⟨stream.dex, stream.allSymbols, stream.state⟩

/-- An effect of a handler, for a reply to a request with an index. -/
def apply (index : Option Nat) (entered : Option UInt32) (stream : Stream) : Effect → Stream
  | .suspendFor => stream
  | .publish status => { stream with status }
  | .send call =>
    { stream with outstanding := stream.outstanding ++ [⟨call, stream.sequence⟩] }
  | .enter state =>
    match entered with
    | none => { stream with state, started := true }
    | some sequence => { stream with state, sequence, started := true, processed := [] }
  | .setDex dex => { stream with dex }
  | .setAllSymbols allSymbols => { stream with allSymbols }
  | .symbolsUpdate _ => { stream with processed := stream.processed ++ index.toList }

variable (http : HttpLibrary) (env : MetaEnv) (F : Type) [Double F]

/-- The handlers, `rest.cpp:174–190`, and the callbacks of the requests. -/
def handler (stream : Stream) : Event → Proc Effect Exception Unit
  | .sequenceChanged _ => pure ()
  | .allSymbolsChanged _ => pure ()
  | .connected sent => if stream.downloading then pure () else enter stream.dex sent .spotMeta
  | .disconnected => do
    Proc.emit (.publish .disconnected)
    if stream.downloading then pure () else Proc.emit (.enter .undefined)
  | .callback sent =>
    if stream.downloading then download stream.dex sent stream.state else pure ()
  | .reply position reply _ =>
    match stream.outstanding[position]? with
    | none => pure ()
    | some request => ack http env stream.view reply F request.call

/-- Runs a handler. What it throws goes to the event loop. -/
def perform (index : Option Nat) (entered : Option UInt32)
    (handler : Proc Effect Exception Unit) (stream : Stream) : Stream :=
  let stream := handler.events.foldl (apply index entered) stream
  match handler.result with
  | .error (.fatal _) => { stream with ended := true }
  | _ => stream

/-- A request that has its reply is no longer in flight. -/
def answered (stream : Stream) (position : Nat) : Stream :=
  { stream with outstanding := stream.outstanding.eraseIdx position }

/-- One step of the stream. -/
def step (stream : Stream) (event : Event) : Stream :=
  if stream.ended then stream
  else
    match event with
    | .sequenceChanged sequence => { stream with sequence, started := false, processed := [] }
    | .allSymbolsChanged allSymbols => { stream with allSymbols }
    | .callback sent =>
      perform none none (stream.handler http env F (.callback sent)) { stream with started := true }
    | .reply position _ entered =>
      match stream.outstanding[position]? with
      | none => stream
      | some request =>
        perform request.call.index? entered (stream.handler http env F event)
          (stream.answered position)
    | event => perform none none (stream.handler http env F event) stream

end Stream

end Hyperliquid.Gateway.Rest
