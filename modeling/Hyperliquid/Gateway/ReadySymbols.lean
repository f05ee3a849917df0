import Hyperliquid.Gateway.NamedSymbols

/-!
# READY and the symbols of the gateway

The gateway together with the stream of reference data, which knows the sequence of its download:
`src/roq/hyperliquid/gateway/rest.cpp:174–231, 443–538`. When `Rest` publishes READY, the universe
of each dex has been read, and its symbols have market data streams.
-/

namespace Hyperliquid.Gateway

open Hyperliquid.Base Hyperliquid.Web

/-- The gateway, its stream of reference data, and the symbols that `META` has read since the
sequence of the download last changed, with the indexes of their dexes. -/
structure Tracked (library : LimitRequest) where
  controller : Controller library
  stream : Rest.Stream
  universes : List (Nat × List String)

namespace Tracked

variable {library : LimitRequest}

def new (library : LimitRequest) (accounts maxSubscriptionsPerStream : Nat) (sequence : UInt32) :
    Tracked library :=
  ⟨.new library accounts maxSubscriptionsPerStream, .new sequence, []⟩

/-- What happens to the gateway: the events of `Rest.Stream` and the others of `Controller`. -/
inductive Event (library : LimitRequest) where
  | sequenceChanged (sequence : UInt32)
  | restConnected (sent : Except Exception Unit)
  | restDisconnected
  | restCallback (sent : Except Exception Unit)
  | restReply (position : Nat) (reply : Rest.Reply) (entered : Option UInt32)
  | subscribe (symbols : List String)
  | marketDataReady (index : Nat)
  | marketDataDisconnected (index : Nat)
  | session (account : Nat) (event : Session.Event library)

/-- An event as one of the gateway, which does not see the sequence. -/
def Event.controllerEvent? : Event library → Option (Controller.Event library)
  | .sequenceChanged _ => none
  | .restConnected sent => some (.restConnected sent)
  | .restDisconnected => some .restDisconnected
  | .restCallback sent => some (.restCallback sent)
  | .restReply position reply _ => some (.restReply position reply)
  | .subscribe symbols => some (.subscribe symbols)
  | .marketDataReady index => some (.marketDataReady index)
  | .marketDataDisconnected index => some (.marketDataDisconnected index)
  | .session account event => some (.session account event)

/-- An event as one of the stream. -/
def Event.streamEvent? (allSymbols : List String) : Event library → Option Rest.Stream.Event
  | .sequenceChanged sequence => some (.sequenceChanged sequence)
  | .restConnected sent => some (.connected sent)
  | .restDisconnected => some .disconnected
  | .restCallback sent => some (.callback sent)
  | .restReply position reply entered => some (.reply position reply entered)
  | .subscribe symbols => some (.allSymbolsChanged (Feed.insertNew allSymbols symbols).1)
  | .marketDataReady _ => none
  | .marketDataDisconnected _ => none
  | .session _ _ => none

/-- The universe that an event of the feed is, with the index of its dex. -/
def universe? : Feed.Event → Option (Nat × List String)
  | .metaReply env _ index items => some (index, Rest.namedItems env items)
  | _ => none

variable (F : Type) [Double F] (env : ControllerEnv)

/-- What a step is to the feed of the gateway. -/
def feedEvents (tracked : Tracked library) (event : Event library) : List Feed.Event :=
  event.controllerEvent?.toList.flatMap (tracked.controller.feedEvents env)

/-- The universes that `META` reads in a step. -/
def read (tracked : Tracked library) (event : Event library) : List (Nat × List String) :=
  (tracked.feedEvents env event).filterMap universe?

/-- One step of the gateway and of its stream. -/
def step (tracked : Tracked library) (event : Event library) : Tracked library :=
  if tracked.controller.ended then tracked
  else
    let stream := (event.streamEvent? tracked.controller.feed.allSymbols).elim tracked.stream
      (tracked.stream.step env.http env.metaEnv F)
    { controller := event.controllerEvent?.elim tracked.controller (tracked.controller.step F env)
      stream
      universes :=
        (tracked.universes ++ tracked.read env event).take stream.processed.length }

/-! ## The two states agree -/

/-- The stream is what the gateway keeps of it. -/
structure Agrees (controller : Controller library) (stream : Rest.Stream) : Prop where
  dex : stream.dex = controller.dex
  allSymbols : stream.allSymbols = controller.feed.allSymbols
  status : stream.status = controller.restStatus
  state : stream.state = controller.download
  outstanding : stream.outstanding.map Rest.Request.call = controller.outstanding
  ended : stream.ended = true → controller.ended = true

private theorem agrees_new (accounts maxSubscriptionsPerStream : Nat) (sequence : UInt32) :
    Agrees (Controller.new library accounts maxSubscriptionsPerStream) (.new sequence) :=
  ⟨rfl, rfl, rfl, rfl, rfl, nofun⟩

/-- An event of `Rest` as the gateway sees it and as its stream does. -/
inductive Same : Controller.Event library → Rest.Stream.Event → Prop where
  | connected (sent : Except Exception Unit) : Same (.restConnected sent) (.connected sent)
  | disconnected : Same .restDisconnected .disconnected
  | callback (sent : Except Exception Unit) : Same (.restCallback sent) (.callback sent)
  | reply (position : Nat) (reply : Rest.Reply) (entered : Option UInt32) :
    Same (.restReply position reply) (.reply position reply entered)

namespace Agrees

variable {controller : Controller library} {stream : Rest.Stream} (h : Agrees controller stream)
include h

private theorem view_eq : stream.view = controller.view := by
  unfold Rest.Stream.view Controller.view
  rw [h.dex, h.allSymbols, h.state]

private theorem downloading_eq : stream.downloading = controller.downloading := by
  unfold Rest.Stream.downloading Controller.downloading
  rw [h.state]

/-- An effect is seen alike. -/
theorem apply (index : Option Nat) (entered : Option UInt32) (effect : Rest.Effect) :
    Agrees (controller.apply effect) (stream.apply index entered effect) := by
  cases effect with
  | suspendFor => exact h
  | publish status => exact ⟨h.dex, h.allSymbols, rfl, h.state, h.outstanding, h.ended⟩
  | send call =>
    refine ⟨h.dex, h.allSymbols, h.status, h.state, ?_, h.ended⟩
    show (stream.outstanding ++ [_]).map Rest.Request.call = controller.outstanding ++ [call]
    rw [List.map_append, h.outstanding]
    rfl
  | enter state =>
    cases entered <;> exact ⟨h.dex, h.allSymbols, h.status, rfl, h.outstanding, h.ended⟩
  | setDex dex => exact ⟨rfl, h.allSymbols, h.status, h.state, h.outstanding, h.ended⟩
  | setAllSymbols allSymbols => exact ⟨h.dex, rfl, h.status, h.state, h.outstanding, h.ended⟩
  | symbolsUpdate symbols =>
    exact ⟨h.dex, h.allSymbols, h.status, h.state, h.outstanding, h.ended⟩

/-- The effects of a handler are seen alike. -/
theorem foldl (index : Option Nat) (entered : Option UInt32) (effects : List Rest.Effect) :
    Agrees (effects.foldl Controller.apply controller)
      (effects.foldl (Rest.Stream.apply index entered) stream) := by
  induction effects generalizing controller stream with
  | nil => exact h
  | cons effect effects ih => exact ih (h.apply index entered effect)

/-- A handler does the same to both, and what is fatal ends both. -/
theorem perform (index : Option Nat) (entered : Option UInt32)
    (x : Proc Rest.Effect Exception Unit) :
    Agrees (Controller.perform x controller) (Rest.Stream.perform index entered x stream) := by
  have hfold := h.foldl index entered x.events
  unfold Controller.perform Rest.Stream.perform
  rcases x.result with (e | text) | _
  · exact hfold
  · exact ⟨hfold.dex, hfold.allSymbols, hfold.status, hfold.state, hfold.outstanding, fun _ ↦ rfl⟩
  · exact hfold

/-- The gateway and its stream run one handler. -/
theorem handler_eq (F : Type) [Double F] (env : ControllerEnv)
    {controllerEvent : Controller.Event library} {streamEvent : Rest.Stream.Event}
    (hsame : Same controllerEvent streamEvent) :
    stream.handler env.http env.metaEnv F streamEvent =
      controller.handler F env controllerEvent := by
  cases hsame with
  | connected sent =>
    dsimp only [Rest.Stream.handler, Controller.handler]
    rw [h.downloading_eq, h.dex]
  | disconnected =>
    dsimp only [Rest.Stream.handler, Controller.handler]
    rw [h.downloading_eq]
  | callback sent =>
    dsimp only [Rest.Stream.handler, Controller.handler]
    rw [h.downloading_eq, h.dex, h.state]
  | reply position reply entered =>
    dsimp only [Rest.Stream.handler, Controller.handler]
    rw [← h.outstanding, List.getElem?_map, h.view_eq]
    cases stream.outstanding[position]? <;> rfl

/-- The stream of a gateway that has not ended has not either. -/
theorem not_ended (hended : ¬ controller.ended = true) : ¬ stream.ended = true :=
  fun hstream ↦ hended (h.ended hstream)

/-- The reply to a request, which the gateway and its stream take from their lists. -/
theorem answered (position : Nat) :
    Agrees { controller with outstanding := controller.outstanding.eraseIdx position }
      (stream.answered position) := by
  refine ⟨h.dex, h.allSymbols, h.status, h.state, ?_, h.ended⟩
  show (stream.outstanding.eraseIdx position).map Rest.Request.call = _
  rw [← h.outstanding, List.eraseIdx_map]

end Agrees

variable {F env}

/-- Every step keeps the agreement. -/
theorem Agrees.step {tracked : Tracked library}
    (h : Agrees tracked.controller tracked.stream) (event : Event library) :
    Agrees (tracked.step F env event).controller (tracked.step F env event).stream := by
  unfold Tracked.step
  split
  · exact h
  · next hended =>
    have hstream := h.not_ended hended
    cases event with
    | sequenceChanged sequence =>
      dsimp only [Event.streamEvent?, Event.controllerEvent?, Option.elim, Rest.Stream.step]
      rw [if_neg hstream]
      exact ⟨h.dex, h.allSymbols, h.status, h.state, h.outstanding, h.ended⟩
    | restConnected sent =>
      have hhandler := h.handler_eq F env (.connected sent)
      dsimp only [Event.streamEvent?, Event.controllerEvent?, Option.elim, Rest.Stream.step,
        Controller.step]
      rw [if_neg hstream, if_neg hended, hhandler]
      exact h.perform none none _
    | restDisconnected =>
      have hhandler := h.handler_eq F env .disconnected
      dsimp only [Event.streamEvent?, Event.controllerEvent?, Option.elim, Rest.Stream.step,
        Controller.step]
      rw [if_neg hstream, if_neg hended, hhandler]
      exact h.perform none none _
    | restCallback sent =>
      have hhandler := h.handler_eq F env (.callback sent)
      have hstarted : Agrees tracked.controller { tracked.stream with started := true } :=
        ⟨h.dex, h.allSymbols, h.status, h.state, h.outstanding, h.ended⟩
      dsimp only [Event.streamEvent?, Event.controllerEvent?, Option.elim, Rest.Stream.step,
        Controller.step]
      rw [if_neg hstream, if_neg hended, hhandler]
      exact hstarted.perform none none _
    | restReply position reply entered =>
      have hhandler := h.handler_eq F env (.reply position reply entered)
      have hanswered := h.answered position
      dsimp only [Event.streamEvent?, Event.controllerEvent?, Option.elim, Rest.Stream.step,
        Controller.step]
      rw [if_neg hstream, if_neg hended, hhandler]
      split
      · next hnone =>
        have hcontroller : tracked.controller.outstanding[position]? = none := by
          rw [← h.outstanding, List.getElem?_map, hnone]
          rfl
        have herased : tracked.controller.outstanding.eraseIdx position =
            tracked.controller.outstanding :=
          List.eraseIdx_of_length_le (List.getElem?_eq_none_iff.mp hcontroller)
        rw [herased]
        dsimp only [Controller.handler]
        rw [hcontroller]
        exact h
      · exact hanswered.perform _ entered _
    | subscribe symbols =>
      dsimp only [Event.streamEvent?, Event.controllerEvent?, Option.elim, Rest.Stream.step,
        Controller.step]
      rw [if_neg hstream, if_neg hended]
      exact ⟨h.dex, rfl, h.status, h.state, h.outstanding, fun hfalse ↦ absurd hfalse hstream⟩
    | marketDataReady index =>
      dsimp only [Event.streamEvent?, Event.controllerEvent?, Option.elim, Controller.step]
      rw [if_neg hended]
      exact ⟨h.dex, h.allSymbols, h.status, h.state, h.outstanding, h.ended⟩
    | marketDataDisconnected index =>
      dsimp only [Event.streamEvent?, Event.controllerEvent?, Option.elim, Controller.step]
      rw [if_neg hended]
      exact ⟨h.dex, h.allSymbols, h.status, h.state, h.outstanding, h.ended⟩
    | session account event =>
      dsimp only [Event.streamEvent?, Event.controllerEvent?, Option.elim, Controller.step]
      rw [if_neg hended]
      show Agrees (Controller.stepSession env account event tracked.controller) tracked.stream
      unfold Controller.stepSession
      split
      · exact h
      · exact h
      · exact ⟨h.dex, h.allSymbols, h.status, h.state, h.outstanding,
          fun hfalse ↦ absurd hfalse hstream⟩

/-! ## What `META` has processed -/

private theorem processed_foldl_of_emits {x : Proc Rest.Effect Exception Unit}
    (h : x.Emits Rest.Effect.LeavesFeed) (index : Option Nat) (entered : Option UInt32)
    (stream : Rest.Stream) :
    (x.events.foldl (Rest.Stream.apply index entered) stream).processed = [] ∨
      (x.events.foldl (Rest.Stream.apply index entered) stream).processed = stream.processed := by
  apply Run.invariant_foldl
    (fun other : Rest.Stream ↦ other.processed = [] ∨ other.processed = stream.processed)
    (P := fun _ effect ↦ effect.LeavesFeed) ?_ (.inr rfl) (Run.along_of_forall _ h.forall_mem)
  intro other effect hother hleaves
  cases effect with
  | enter state => cases entered <;> first | exact hother | exact .inl rfl
  | setAllSymbols allSymbols => cases hleaves
  | symbolsUpdate symbols => cases hleaves
  | _ => exact hother

private theorem processed_perform (index : Option Nat) (entered : Option UInt32)
    (x : Proc Rest.Effect Exception Unit) (stream : Rest.Stream) :
    (Rest.Stream.perform index entered x stream).processed =
      (x.events.foldl (Rest.Stream.apply index entered) stream).processed := by
  unfold Rest.Stream.perform
  dsimp only
  split <;> rfl

/-- What the library of the download is trusted with, and that the handlers of the decoded replies
return. -/
structure Allowed (F : Type) [Double F] (env : ControllerEnv) (tracked : Tracked library)
    (event : Event library) : Prop where
  stream : ∀ streamEvent ∈ event.streamEvent? tracked.controller.feed.allSymbols,
    tracked.stream.Allowed streamEvent
  accepts : ∀ controllerEvent ∈ event.controllerEvent?,
    tracked.controller.Accepts F env controllerEvent

/-- A step starts the list of the processed indexes anew, or adds those that it reads. -/
def Processes (env : ControllerEnv) (tracked : Tracked library) (event : Event library)
    (stream : Rest.Stream) : Prop :=
  stream.processed = [] ∨
    stream.processed = tracked.stream.processed ++ (tracked.read env event).map Prod.fst

private theorem processes_of_emits {tracked : Tracked library} {event : Event library}
    (hread : tracked.read env event = []) {x : Proc Rest.Effect Exception Unit}
    (hx : x.Emits Rest.Effect.LeavesFeed) (index : Option Nat) (entered : Option UInt32)
    {stream : Rest.Stream} (hstream : stream.processed = tracked.stream.processed) :
    Processes env tracked event (Rest.Stream.perform index entered x stream) := by
  unfold Processes
  rw [hread, processed_perform, List.map_nil, List.append_nil, ← hstream]
  exact processed_foldl_of_emits hx index entered stream

private theorem processes_getMetaAck {tracked : Tracked library} {position : Nat}
    {reply : Rest.Reply}
    {entered : Option UInt32} (hended : ¬ tracked.controller.ended = true) {index : Nat}
    (hcall : tracked.controller.outstanding[position]? = some (.metas index))
    (haccepts : tracked.controller.Accepts F env (.restReply position reply)) :
    Processes env tracked (.restReply position reply entered)
      (Rest.Stream.perform (some index) entered
        (Rest.getMetaAck env.http env.metaEnv tracked.controller.view reply F index)
        (tracked.stream.answered position)) := by
  have hevents : tracked.controller.feedEvents env (.restReply position reply) =
      Controller.replyEvents env tracked.controller.dex reply index := by
    unfold Controller.feedEvents
    rw [if_neg hended]
    dsimp only
    rw [hcall]
  have hread : tracked.read env (.restReply position reply entered) =
      (Controller.replyEvents env tracked.controller.dex reply index).filterMap universe? := by
    rw [← hevents]
    exact congrArg (List.filterMap universe?) (List.append_nil _)
  rcases Controller.getMetaAck_cases F env tracked.controller.view reply index with
    ⟨hnone, hemits⟩ | ⟨items, hitems, hack⟩
  · exact processes_of_emits (hread.trans (congrArg (List.filterMap universe?) hnone)) hemits _ _
      rfl
  · have haccepted : (Rest.metaAck (F := F) env.metaEnv tracked.controller.view.dex index items
        tracked.controller.view.allSymbols).1 = .ok () := by
      unfold Controller.Accepts at haccepts
      rw [hevents, show Controller.replyEvents env tracked.controller.dex reply index = _
        from hitems] at haccepts
      exact haccepts.1
    dsimp only at hack
    rw [haccepted] at hack
    unfold Processes
    rw [processed_perform, hack, hread.trans (congrArg (List.filterMap universe?) hitems)]
    exact processed_foldl_of_emits
      (Controller.emits_afterMeta tracked.controller.view reply index) _ entered _

/-- An event that may be read: the reply to a `meta` request. -/
def MayRead (tracked : Tracked library) : Event library → Prop
  | .restReply position _ _ =>
    ∃ index, tracked.controller.outstanding[position]? = some (.metas index)
  | _ => False

private theorem read_eq_nil {tracked : Tracked library} (event : Event library)
    (h : ¬ tracked.MayRead event) : tracked.read env event = [] := by
  have hone : ∀ controllerEvent, event.controllerEvent? = some controllerEvent →
      (tracked.controller.feedEvents env controllerEvent).filterMap universe? = [] →
      tracked.read env event = [] := by
    intro controllerEvent hevent hnil
    unfold read feedEvents
    rw [hevent, Option.toList_some, List.flatMap_singleton, hnil]
  cases event with
  | sequenceChanged sequence => rfl
  | restReply position reply entered =>
    apply hone _ rfl
    unfold Controller.feedEvents
    split
    · rfl
    · dsimp only
      split
      · next index hcall => exact absurd ⟨index, hcall⟩ h
      · rfl
  | _ =>
    apply hone _ rfl
    unfold Controller.feedEvents
    split <;> rfl

/-- Every step starts the list anew, or adds what it reads. -/
theorem processes_step {tracked : Tracked library} (h : Agrees tracked.controller tracked.stream)
    {event : Event library} (hended : ¬ tracked.controller.ended = true)
    (hallowed : tracked.Allowed F env event) :
    Processes env tracked event (tracked.step F env event).stream := by
  have hstream := h.not_ended hended
  have hsame : tracked.read env event = [] → Processes env tracked event tracked.stream := by
    intro hread
    right
    rw [hread, List.map_nil, List.append_nil]
  unfold Tracked.step
  rw [if_neg hended]
  cases event with
  | sequenceChanged sequence =>
    dsimp only [Event.streamEvent?, Option.elim, Rest.Stream.step]
    rw [if_neg hstream]
    exact .inl rfl
  | restConnected sent =>
    have hhandler := h.handler_eq F env (.connected sent)
    dsimp only [Event.streamEvent?, Option.elim, Rest.Stream.step]
    rw [if_neg hstream, hhandler]
    exact processes_of_emits (read_eq_nil (.restConnected sent) not_false)
      (Controller.emits_handler F env _ (.restConnected sent) not_false) none none rfl
  | restDisconnected =>
    have hhandler := h.handler_eq F env .disconnected
    dsimp only [Event.streamEvent?, Option.elim, Rest.Stream.step]
    rw [if_neg hstream, hhandler]
    exact processes_of_emits (read_eq_nil .restDisconnected not_false)
      (Controller.emits_handler F env _ .restDisconnected not_false) none none rfl
  | restCallback sent =>
    have hhandler := h.handler_eq F env (.callback sent)
    dsimp only [Event.streamEvent?, Option.elim, Rest.Stream.step]
    rw [if_neg hstream, hhandler]
    exact processes_of_emits (read_eq_nil (.restCallback sent) not_false)
      (Controller.emits_handler F env _ (.restCallback sent) not_false) none none rfl
  | restReply position reply entered =>
    have hhandler := h.handler_eq F env (.reply position reply entered)
    dsimp only [Event.streamEvent?, Option.elim, Rest.Stream.step]
    rw [if_neg hstream, hhandler]
    split
    · next hnone =>
      apply hsame
      apply read_eq_nil
      rintro ⟨index, hcall⟩
      rw [← h.outstanding, List.getElem?_map, hnone] at hcall
      cases hcall
    · next request hrequest =>
      have hcall : tracked.controller.outstanding[position]? = some request.call := by
        rw [← h.outstanding, List.getElem?_map, hrequest]
        rfl
      by_cases hmeta : ∃ index, request.call = .metas index
      · obtain ⟨index, hindex⟩ := hmeta
        rw [hindex] at hcall ⊢
        dsimp only [Controller.handler]
        rw [hcall]
        exact processes_getMetaAck hended hcall (hallowed.accepts _ rfl)
      · have hother : ∀ index, tracked.controller.outstanding[position]? ≠ some (.metas index) := by
          intro index hmetas
          exact hmeta ⟨index, Option.some.inj (hcall.symm.trans hmetas)⟩
        have hread := @read_eq_nil _ env tracked (.restReply position reply entered)
          fun ⟨index, hmetas⟩ ↦ hother index hmetas
        have hemits := Controller.emits_handler F env tracked.controller
          (.restReply position reply) fun ⟨index, hmetas⟩ ↦ hother index hmetas
        exact processes_of_emits hread hemits _ entered rfl
  | subscribe symbols =>
    dsimp only [Event.streamEvent?, Option.elim, Rest.Stream.step]
    rw [if_neg hstream]
    exact hsame (read_eq_nil (.subscribe symbols) not_false)
  | marketDataReady index =>
    show Processes env tracked (.marketDataReady index) tracked.stream
    exact hsame (read_eq_nil (.marketDataReady index) not_false)
  | marketDataDisconnected index =>
    show Processes env tracked (.marketDataDisconnected index) tracked.stream
    exact hsame (read_eq_nil (.marketDataDisconnected index) not_false)
  | session account event =>
    show Processes env tracked (.session account event) tracked.stream
    exact hsame (read_eq_nil (.session account event) not_false)

/-! ## Runs -/

/-- The subscriptions take the events that the gateway hands on. -/
theorem feed_step {tracked : Tracked library} (event : Event library)
    (hended : ¬ tracked.controller.ended = true) :
    (tracked.step F env event).controller.feed =
      (tracked.feedEvents env event).foldl (Feed.step F) tracked.controller.feed := by
  unfold step feedEvents
  rw [if_neg hended]
  dsimp only
  cases hevent : event.controllerEvent? with
  | none => rfl
  | some controllerEvent =>
    rw [Option.elim_some, Option.toList_some, List.flatMap_singleton]
    exact Controller.feed_step F env tracked.controller controllerEvent

/-- What holds between the steps: the states agree, and what has been read is known to the
slices. -/
structure Inv (sliceSize : Nat) (tracked : Tracked library) : Prop where
  agrees : Agrees tracked.controller tracked.stream
  stream : tracked.stream.Inv
  holds : tracked.controller.feed.Holds sliceSize tracked.controller.feed.slices.symbols
  indexes : tracked.universes.map Prod.fst = tracked.stream.processed
  known : ∀ listing ∈ tracked.universes, ∀ symbol ∈ listing.2,
    symbol ∈ tracked.controller.feed.slices.symbols

/-- The invariant holds before anything is downloaded. -/
theorem inv_new (accounts maxSubscriptionsPerStream : Nat) (sequence : UInt32) :
    Inv maxSubscriptionsPerStream (new library accounts maxSubscriptionsPerStream sequence) where
  agrees := agrees_new accounts maxSubscriptionsPerStream sequence
  stream := Rest.Stream.inv_new sequence
  holds := Feed.holds_new maxSubscriptionsPerStream
  indexes := rfl
  known := nofun

variable {sliceSize : Nat} {tracked : Tracked library} {event : Event library}

/-- The slices hold what they held and what a step names. -/
theorem holds_step (h : Inv sliceSize tracked) (hended : ¬ tracked.controller.ended = true)
    (hallowed : tracked.Allowed F env event) :
    (tracked.step F env event).controller.feed.Holds sliceSize
      (tracked.controller.feed.slices.symbols ++
        (tracked.feedEvents env event).flatMap Feed.named) := by
  rw [feed_step event hended]
  apply h.holds.run F
  unfold feedEvents
  cases hevent : event.controllerEvent? with
  | none => trivial
  | some controllerEvent =>
    rw [Option.toList_some, List.flatMap_singleton]
    exact hallowed.accepts controllerEvent hevent

private theorem mem_of_read {listing : Nat × List String} (h : listing ∈ tracked.read env event)
    {symbol : String} (hsymbol : symbol ∈ listing.2) :
    symbol ∈ (tracked.feedEvents env event).flatMap Feed.named := by
  obtain ⟨feedEvent, hfeedEvent, huniverse⟩ := List.mem_filterMap.mp h
  refine List.mem_flatMap.mpr ⟨feedEvent, hfeedEvent, ?_⟩
  cases feedEvent with
  | metaReply metaEnv dexs index items =>
    cases huniverse
    exact hsymbol
  | _ => cases huniverse

/-- The universes after a step, before the sequence may change: their symbols are known. -/
theorem mem_slices_step (h : Inv sliceSize tracked) (hended : ¬ tracked.controller.ended = true)
    (hallowed : tracked.Allowed F env event) {listing : Nat × List String}
    (huniverse : listing ∈ tracked.universes ++ tracked.read env event) {symbol : String}
    (hsymbol : symbol ∈ listing.2) :
    symbol ∈ (tracked.step F env event).controller.feed.slices.symbols := by
  rw [(holds_step h hended hallowed).mem_iff, List.mem_append]
  rcases List.mem_append.mp huniverse with hold | hread
  · exact .inl (h.known listing hold symbol hsymbol)
  · exact .inr (mem_of_read hread hsymbol)

/-- An event keeps the invariant. -/
theorem Inv.step (h : Inv sliceSize tracked) (hallowed : tracked.Allowed F env event) :
    Inv sliceSize (tracked.step F env event) := by
  by_cases hended : tracked.controller.ended = true
  · unfold Tracked.step
    rwa [if_pos hended]
  · have hholds := holds_step h hended hallowed
    have huniverses : (tracked.step F env event).universes =
        (tracked.universes ++ tracked.read env event).take
          (tracked.step F env event).stream.processed.length := by
      unfold Tracked.step
      rw [if_neg hended]
    refine ⟨h.agrees.step event, ?_, ?_, ?_, ?_⟩
    · unfold Tracked.step
      rw [if_neg hended]
      dsimp only
      cases hevent : event.streamEvent? tracked.controller.feed.allSymbols with
      | none => exact h.stream
      | some streamEvent => exact h.stream.step (hallowed.stream streamEvent hevent)
    · exact ⟨hholds.inv, hholds.sliceSize_eq, fun _ ↦ Iff.rfl, hholds.known, hholds.size_eq⟩
    · rw [huniverses]
      rcases processes_step h.agrees hended hallowed with hnone | hadded
      · rw [hnone]
        rfl
      · rw [hadded, ← h.indexes, ← List.map_append, List.length_map, List.take_length]
    · intro listing huniverse symbol hsymbol
      rw [huniverses] at huniverse
      exact mem_slices_step h hended hallowed (List.mem_of_mem_take huniverse) hsymbol

/-- What READY says: the universe of each dex of the list has been read, in the order of the list,
and each of their symbols is in the slice of a market data stream. -/
def ReadyCovers (F : Type) [Double F] (env : ControllerEnv) (tracked : Tracked library)
    (event : Event library) : Prop :=
  ∀ controllerEvent ∈ event.controllerEvent?, tracked.controller.ended = false →
    .publish .ready ∈ (tracked.controller.handler F env controllerEvent).events →
    (tracked.universes ++ tracked.read env event).map Prod.fst =
        List.range tracked.controller.dex.length ∧
      ∀ listing ∈ tracked.universes ++ tracked.read env event, ∀ symbol ∈ listing.2,
        ∃ index, index < (tracked.step F env event).controller.feed.marketData.length ∧
          symbol ∈ (tracked.step F env event).controller.feed.slices.getSlice index 0

/-- A reply that `META` processes is read. -/
theorem read_of_processes (h : Inv sliceSize tracked) (hended : ¬ tracked.controller.ended = true)
    {position : Nat} {reply : Rest.Reply} {entered : Option UInt32} {request : Rest.Request}
    {index : Nat} (hrequest : tracked.stream.outstanding[position]? = some request)
    (hcall : request.call = .metas index)
    (hprocesses : Rest.Stream.Processes env.metaEnv F tracked.stream.view reply index) :
    (tracked.read env (.restReply position reply entered)).map Prod.fst = [index] := by
  obtain ⟨hskip, status, body, items, hresult, hitems, -⟩ := hprocesses
  have houtstanding : tracked.controller.outstanding[position]? = some (.metas index) := by
    rw [← h.agrees.outstanding, List.getElem?_map, hrequest, Option.map_some, hcall]
  have hevents : tracked.feedEvents env (.restReply position reply entered) =
      [.metaReply env.metaEnv tracked.controller.dex index items] := by
    show [Controller.Event.restReply position reply].flatMap _ = _
    rw [List.flatMap_singleton, Controller.feedEvents, if_neg hended]
    rw [houtstanding]
    dsimp only [Controller.replyEvents]
    rw [hresult]
    dsimp only
    rw [hskip, if_neg Bool.false_ne_true, hitems]
  unfold read
  rw [hevents]
  rfl

/-- The step that publishes READY has processed the last reply of the chain. -/
theorem indexes_of_ready (h : Inv sliceSize tracked) (hallowed : tracked.Allowed F env event)
    (hended : ¬ tracked.controller.ended = true) {controllerEvent : Controller.Event library}
    (hevent : event.controllerEvent? = some controllerEvent)
    (hready : .publish .ready ∈ (tracked.controller.handler F env controllerEvent).events) :
    (tracked.universes ++ tracked.read env event).map Prod.fst =
      List.range tracked.controller.dex.length := by
  have hstream : tracked.stream.ended = false :=
    Bool.eq_false_of_not_eq_true (h.agrees.not_ended hended)
  have hchecks : ∀ {streamEvent}, Same controllerEvent streamEvent →
      ∃ index, Rest.Stream.ChecksMeta env.metaEnv F tracked.stream streamEvent index := by
    intro streamEvent hsame
    rw [← h.agrees.handler_eq F env hsame] at hready
    exact Rest.Stream.exists_checksMeta hstream hready
  cases event with
  | restReply position reply entered =>
    cases hevent
    obtain ⟨index, hindex⟩ := hchecks (.reply position reply entered)
    have hrange := h.stream.range_of_checksMeta (hallowed.stream _ rfl) hindex
    obtain ⟨-, ⟨request, hrequest, hcall⟩, hprocesses, -⟩ := hindex
    rw [List.map_append, h.indexes, read_of_processes h hended hrequest hcall hprocesses, hrange,
      h.agrees.dex]
  | restConnected sent =>
    cases hevent
    obtain ⟨index, hindex⟩ := hchecks (.connected sent)
    cases hindex
  | restDisconnected =>
    cases hevent
    obtain ⟨index, hindex⟩ := hchecks .disconnected
    cases hindex
  | restCallback sent =>
    cases hevent
    obtain ⟨index, hindex⟩ := hchecks (.callback sent)
    cases hindex
  | subscribe symbols =>
    cases hevent
    simp [Controller.handler, Proc.emit, bind] at hready
  | sequenceChanged sequence => cases hevent
  | _ =>
    cases hevent
    cases hready

private theorem Inv.readyCovers (h : Inv sliceSize tracked) (hsize : 0 < sliceSize)
    (hallowed : tracked.Allowed F env event) : ReadyCovers F env tracked event := by
  intro controllerEvent hevent hrunning hready
  have hended : ¬ tracked.controller.ended = true := by
    rw [hrunning]
    exact Bool.false_ne_true
  refine ⟨indexes_of_ready h hallowed hended hevent hready, ?_⟩
  intro listing hlisting symbol hsymbol
  have hmem := mem_slices_step h hended hallowed hlisting hsymbol
  have hholds := (h.step hallowed).holds
  refine ⟨_, hholds.owner_lt hsize hmem, ?_⟩
  rw [Symbols.mem_getSlice_iff hholds.inv.nodup (hholds.sliceSize_eq ▸ hsize)]
  exact ⟨hmem, rfl⟩

/-- In every run of the gateway that the library of the download allows and whose decoded `meta`
replies are accepted, READY of the reference data covers all symbols: it is published only when
the universe of each dex has been read since the sequence of the download last changed, and each
symbol of them that is not discarded is then in the slice of one of the market data streams. -/
theorem readyCovers_run (F : Type) [Double F] (env : ControllerEnv) (accounts : Nat)
    {maxSubscriptionsPerStream : Nat} (hmax : 0 < maxSubscriptionsPerStream) (sequence : UInt32)
    (events : List (Event library))
    (hallowed : Run.Along (step F env) (Allowed F env)
      (new library accounts maxSubscriptionsPerStream sequence) events) :
    Run.Along (step F env) (ReadyCovers F env)
      (new library accounts maxSubscriptionsPerStream sequence) events :=
  Run.along_of_invariant (Inv maxSubscriptionsPerStream) (fun _ _ h hstep ↦ h.step hstep)
    (fun _ _ h hstep ↦ h.readyCovers hmax hstep) (inv_new accounts _ sequence) hallowed

/-- A download with one exchange and one symbol, in its own sequence. -/
def downloadSequence : List (Event oneSlot) :=
  [.sequenceChanged 1, .restConnected (.ok ()), .restReply 0 (Controller.received []) none,
    .restReply 0 (Controller.received [⟨""⟩]) none,
    .restReply 0 ⟨⟨.ok (.ok, .success, ⟨.ok (), .ok [], .ok [⟨"BTC", 5⟩]⟩)⟩, false, true, .ok ()⟩
      none]

/-- One download with a single exchange and a single symbol. -/
theorem readyCovers_run_once :
    (downloadSequence.foldl (step ℚ Controller.mainOnly)
        (new oneSlot 1 100 0)).controller.restStatus = .ready ∧
      (downloadSequence.foldl (step ℚ Controller.mainOnly) (new oneSlot 1 100 0)).universes =
        [(0, ["BTC"])] ∧
      Run.Along (step ℚ Controller.mainOnly) (ReadyCovers ℚ Controller.mainOnly)
        (new oneSlot 1 100 0) downloadSequence := by
  refine ⟨by decide, by decide,
    readyCovers_run ℚ Controller.mainOnly 1 (by decide) 0 downloadSequence ?_⟩
  refine ⟨⟨by decide, ?_⟩, ⟨by decide, ?_⟩, ⟨by decide, ?_⟩, ⟨by decide, ?_⟩, ⟨by decide, ?_⟩,
    trivial⟩
  all_goals rintro _ ⟨⟩
  · trivial
  · trivial
  · trivial
  · exact ⟨rfl, trivial⟩

end Tracked
end Hyperliquid.Gateway
