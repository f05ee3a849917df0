import Hyperliquid.Base.Run
import Hyperliquid.Gateway.Rest.Stream

/-!
# The chain of `meta` requests

`Rest` asks for the universe of one dex at a time, `src/roq/hyperliquid/gateway/rest.cpp:416–468`:
the handler of a reply sends the next request, and replies of chains that were left come at any
time.
-/

namespace Hyperliquid.Gateway.Rest

open Hyperliquid.Base Hyperliquid.Web

/-- The index of a `meta` request that has captured a given sequence. -/
def Request.indexIn (sequence : UInt32) (request : Request) : Option Nat :=
  if request.sequence = sequence then request.call.index? else none

namespace Stream

variable (http : HttpLibrary) (env : MetaEnv) (F : Type) [Double F]

/-- The indexes of the `meta` requests in flight that have captured a sequence. -/
def indexes (stream : Stream) (sequence : UInt32) : List Nat :=
  stream.outstanding.filterMap (Request.indexIn sequence)

/-- What the library of the download is trusted with: its sequence takes a value that no `meta`
request in flight has captured, it has changed whenever the download begins or calls back again,
and a reply to a `meta` request with another sequence is skipped. -/
def Allowed (stream : Stream) : Event → Prop
  | .sequenceChanged sequence => stream.indexes sequence = []
  | .connected _ => stream.downloading = true ∨ stream.started = false
  | .callback _ => stream.started = false
  | .reply position reply entered =>
    (∀ request ∈ stream.outstanding[position]?, request.call.index?.isSome →
      request.sequence ≠ stream.sequence → reply.skip = true) ∧
    ∀ sequence ∈ entered, stream.indexes sequence = []
  | _ => True

instance (stream : Stream) : (event : Event) → Decidable (stream.Allowed event)
  | .sequenceChanged _ => inferInstanceAs (Decidable (_ = _))
  | .allSymbolsChanged _ => isTrue trivial
  | .connected _ => inferInstanceAs (Decidable (_ ∨ _))
  | .disconnected => isTrue trivial
  | .callback _ => inferInstanceAs (Decidable (_ = _))
  | .reply position _ entered =>
    @instDecidableAnd _ _ (Option.decidableForallMem stream.outstanding[position]?)
      (Option.decidableForallMem entered)

/-- The handler of `META` processes a reply: it is successful, it is not skipped, and the handler
of the decoded body returns. -/
def Processes (view : View) (reply : Reply) (index : Nat) : Prop :=
  reply.skip = false ∧ ∃ status body items,
    reply.response.result = .ok (status, .success, body) ∧ body.metas = .ok items ∧
      (metaAck (F := F) env view.dex index items view.allSymbols).1 = .ok ()

/-- A step calls `download_.check(META)`, after a reply to the request with an index. -/
def ChecksMeta (stream : Stream) (event : Event) (index : Nat) : Prop :=
  match event with
  | .reply position reply _ =>
    stream.ended = false ∧
      (∃ request ∈ stream.outstanding[position]?, request.call = .metas index) ∧
      Processes env F stream.view reply index ∧ stream.dex.length ≤ index + 1
  | _ => False

/-- What should hold of a step: when `META` is checked, each index of the list of dexes has been
processed once and in order, and READY is published only then. -/
structure Complete (stream : Stream) (event : Event) : Prop where
  checked : ∀ index, ChecksMeta env F stream event index →
    stream.processed ++ [index] = List.range stream.dex.length
  ready : stream.ended = false →
    .publish .ready ∈ (stream.handler http env F event).events →
      ∃ index, ChecksMeta env F stream event index

/-! ## Replies to `meta` requests -/

section

variable {env F} {view : View} {reply : Reply} {index : Nat}

/-- The error handlers leave the stream as it is. -/
theorem handleException_handleError (e : Exception) :
    handleException handleError e = pure () := by
  cases e <;> rfl

/-- The handler of a reply to an index beyond the list ends the process. -/
theorem Processes.index_lt (h : Processes env F view reply index) : index < view.dex.length := by
  obtain ⟨_, _, _, items, _, _, hmeta⟩ := h
  by_contra hindex
  rw [metaAck, List.getElem?_eq_none (Nat.le_of_not_lt hindex)] at hmeta
  cases hmeta

/-- The rest of the handler of a reply after `META` has processed it. -/
def afterMeta (view : View) (reply : Reply) (index : Nat) : Proc Effect Exception Unit :=
  if index + 1 < view.dex.length then getMeta view.dex reply.sent (index + 1)
  else check view.dex reply.sent reply.leaves .metas view.state

/-- A reply that is processed: the symbols are published, and the chain goes on. -/
theorem getMetaAck_of_processes (h : Processes env F view reply index) :
    ∃ allSymbols symbols, getMetaAck http env view reply F index =
      Proc.catchThrown (do
        Proc.emit (.setAllSymbols allSymbols)
        Proc.emit (.symbolsUpdate symbols)
        afterMeta view reply index) (handleException handleError) := by
  obtain ⟨hskip, status, body, items, hresponse, hitems, hmeta⟩ := h
  refine ⟨(metaAck (F := F) env view.dex index items view.allSymbols).2.allSymbols,
    (metaAck (F := F) env view.dex index items view.allSymbols).2.symbols, ?_⟩
  simp only [getMetaAck, processResponse, hresponse, dispatchCategory, hskip, hitems, afterMeta,
    Proc.ofExcept_ok, Proc.pure_bind, hmeta, ofFailure, Bool.false_eq_true, if_false]

/-- An effect of a handler that is not about the chain. -/
def Aside : Effect → Prop
  | .suspendFor => True
  | .setAllSymbols _ => True
  | _ => False

/-- A reply that is not processed leaves the chain. -/
theorem emits_of_not_processes (h : ¬ Processes env F view reply index) :
    (getMetaAck http env view reply F index).Emits Aside := by
  apply emits_processResponse http
  · exact (Proc.emits_emit _).mpr trivial
  · exact fun _ _ _ _ ↦ Proc.emits_pure ()
  · intro status body hresponse
    split
    · exact Proc.emits_pure ()
    · next hskip =>
      cases hitems : body.metas with
      | error what => exact (Proc.emits_throw _).bind nofun
      | ok items =>
        rw [Proc.ofExcept_ok, Proc.pure_bind]
        dsimp only
        refine ((Proc.emits_emit _).mpr trivial).bind ?_
        intro _ _
        cases hmeta : (metaAck (F := F) env view.dex index items view.allSymbols).1 with
        | ok _ =>
          exact absurd ⟨Bool.eq_false_of_not_eq_true hskip, status, body, items, hresponse, hitems,
            hmeta⟩ h
        | error failure =>
          cases failure with
          | thrown what => exact (Proc.emits_throw _).bind nofun
          | fatal text => exact (Proc.emits_fatal _).bind nofun

end

/-! ## The invariant -/

/-- The `meta` requests in flight of the current sequence. -/
def current (stream : Stream) : List Nat := stream.indexes stream.sequence

/-- What holds between the steps: at most one request of the current sequence is in flight, it is
the next of the chain, and there is none before the download has been started. -/
structure Inv (stream : Stream) : Prop where
  chain : stream.current = [] ∨
    ∃ index, stream.current = [index] ∧ stream.processed = List.range index ∧
      stream.state = .metas
  before : stream.state = .spotMeta ∨ stream.state = .perpDexs → stream.processed = []
  unstarted : stream.started = false → stream.current = [] ∧ stream.processed = []

/-- The invariant holds before the first connection. -/
theorem inv_new (sequence : UInt32) : Inv (new sequence) :=
  ⟨.inl rfl, fun _ ↦ rfl, fun _ ↦ ⟨rfl, rfl⟩⟩

/-- What the invariant depends on. -/
theorem Inv.frame {stream stream' : Stream} (h : Inv stream)
    (hcurrent : stream'.current = stream.current) (hstate : stream'.state = stream.state)
    (hstarted : stream'.started = stream.started)
    (hprocessed : stream'.processed = stream.processed) : Inv stream' := by
  constructor
  · rw [hcurrent, hstate, hprocessed]
    exact h.chain
  · rw [hstate, hprocessed]
    exact h.before
  · rw [hstarted, hcurrent, hprocessed]
    exact h.unstarted

/-- The requests of a sequence, after one more has been sent. -/
theorem indexes_send (stream : Stream) (index : Option Nat) (entered : Option UInt32)
    (call : Call) (sequence : UInt32) :
    (stream.apply index entered (.send call)).indexes sequence =
      stream.indexes sequence ++ (Request.indexIn sequence ⟨call, stream.sequence⟩).toList := by
  show (stream.outstanding ++ [_]).filterMap _ = _
  rw [List.filterMap_append]
  cases hindex : Request.indexIn sequence ⟨call, stream.sequence⟩ <;> simp [indexes, hindex]

/-- A request of the current sequence is sent. -/
theorem current_send (stream : Stream) (index : Option Nat) (entered : Option UInt32)
    (call : Call) :
    (stream.apply index entered (.send call)).current =
      stream.current ++ call.index?.toList := by
  show (stream.apply index entered (.send call)).indexes stream.sequence = _
  rw [indexes_send, Request.indexIn, if_pos rfl]
  rfl

private theorem indexes_perm {stream : Stream} {position : Nat} {request : Request}
    (h : stream.outstanding[position]? = some request) (sequence : UInt32) :
    (stream.indexes sequence).Perm
      ((request.indexIn sequence).toList ++ (stream.answered position).indexes sequence) := by
  obtain ⟨hposition, rfl⟩ := List.getElem?_eq_some_iff.mp h
  have hperm := (List.getElem_cons_eraseIdx_perm hposition).symm.filterMap
    (Request.indexIn sequence)
  cases hindex : (stream.outstanding[position]).indexIn sequence with
  | none =>
    rw [List.filterMap_cons_none hindex] at hperm
    exact hperm
  | some index =>
    rw [List.filterMap_cons_some hindex] at hperm
    exact hperm

/-! ## Triples -/

/-- A part of a handler, for a reply to a request with an index; what it throws keeps the
invariant. -/
abbrev Leads (index : Option Nat) (entered : Option UInt32) (P : Stream → Prop)
    (x : Proc Effect Exception Unit) (Q : Stream → Prop) : Prop :=
  Proc.Triple (apply index entered) P x (fun _ ↦ Q) fun _ ↦ Inv

/-- The chain up to an index has been processed, and no request is in flight. -/
structure Between (index : Nat) (stream : Stream) : Prop where
  state_eq : stream.state = .metas
  started : stream.started = true
  current : stream.current = []
  processed : stream.processed = List.range index

/-- A state has been entered, and its request has not been sent. -/
structure Entered (state : State) (stream : Stream) : Prop where
  state_eq : stream.state = state
  started : stream.started = true
  current : stream.current = []
  processed : state ≠ .undefined → state ≠ .done → stream.processed = []

/-- Nothing is in flight between two requests of the chain. -/
theorem Between.inv {index : Nat} {stream : Stream} (h : Between index stream) : Inv stream where
  chain := .inl h.current
  before := by
    rw [h.state_eq]
    rintro (hstate | hstate) <;> cases hstate
  unstarted hstarted := by cases h.started.symm.trans hstarted

/-- Nothing is in flight while a state is being entered. -/
theorem Entered.inv {state : State} {stream : Stream} (h : Entered state stream) :
    Inv stream where
  chain := .inl h.current
  before hstate := by
    rw [h.state_eq] at hstate
    rcases hstate with rfl | rfl
    · exact h.processed nofun nofun
    · exact h.processed nofun nofun
  unstarted hstarted := by cases h.started.symm.trans hstarted

section

variable {index : Option Nat} {entered : Option UInt32}

private theorem leads_sendRequest {P : Stream → Prop} (sent : Except Exception Unit) {call : Call}
    (hthrow : ∀ stream, P stream → Inv stream)
    (hsend : ∀ stream, P stream → Inv (stream.apply index entered (.send call))) :
    Leads index entered P (sendRequest sent call) Inv := by
  apply Proc.Triple.ofThrows_bind
  · exact fun _ stream h ↦ hthrow stream h
  · exact fun _ _ ↦ Proc.Triple.emit hsend

/-- The next request of the chain is sent. -/
theorem leads_getMeta (dex : List Dex) (sent : Except Exception Unit) (next : Nat) :
    Leads index entered (Between next) (getMeta dex sent next) Inv := by
  unfold getMeta
  split
  · apply leads_sendRequest sent
    · exact fun _ h ↦ h.inv
    · intro stream h
      refine ⟨.inr ⟨next, ?_, h.processed, h.state_eq⟩, h.inv.before, ?_⟩
      · rw [current_send, h.current]
        rfl
      · intro hstarted
        cases h.started.symm.trans hstarted
  · exact Proc.Triple.fatal fun _ h ↦ h.inv

/-- A request that is not of the chain is sent. -/
theorem leads_sendRequest_of_none {state : State} (sent : Except Exception Unit) {call : Call}
    (hcall : call.index? = none) :
    Leads index entered (Entered state) (sendRequest sent call) Inv := by
  apply leads_sendRequest sent
  · exact fun _ h ↦ h.inv
  · intro stream h
    refine h.inv.frame ?_ rfl rfl rfl
    rw [current_send, hcall]
    exact List.append_nil _

private theorem leads_publish {P : Stream → Prop} {status : ConnectionStatus}
    (h : ∀ stream : Stream, P stream → P { stream with status }) :
    Leads index entered P (Proc.emit (.publish status)) P :=
  Proc.Triple.emit h

/-- The callback for a state that has been entered. -/
theorem leads_download (dex : List Dex) (sent : Except Exception Unit) (state : State) :
    Leads index entered (Entered state) (download dex sent state) Inv := by
  have hpublish : ∀ status, Leads index entered (Entered state) (Proc.emit (.publish status))
      (Entered state) :=
    fun _ ↦ leads_publish fun _ h ↦ ⟨h.state_eq, h.started, h.current, h.processed⟩
  cases state with
  | undefined => exact Proc.Triple.fatal fun _ h ↦ h.inv
  | spotMeta => exact (hpublish .downloading).bind fun _ _ ↦ leads_sendRequest_of_none sent rfl
  | perpDexs => exact (hpublish .downloading).bind fun _ _ ↦ leads_sendRequest_of_none sent rfl
  | metas =>
    apply (hpublish .downloading).bind
    intro _ _
    apply (leads_getMeta dex sent 0).pre
    exact fun _ h ↦ ⟨h.state_eq, h.started, h.current, h.processed nofun nofun⟩
  | done => exact (hpublish .ready).mono (fun _ _ h ↦ h.inv) fun _ _ h ↦ h

/-- The download may enter a state: no request of the sequence that it will have is in flight. -/
structure Enterable (entered : Option UInt32) (state : State) (stream : Stream) : Prop where
  current : stream.current = []
  fresh : ∀ sequence ∈ entered, stream.indexes sequence = []
  processed : state ≠ .undefined → state ≠ .done → stream.processed = []

/-- The state is entered. -/
theorem Enterable.enter {state : State} {stream : Stream} (h : Enterable entered state stream) :
    Entered state (stream.apply index entered (.enter state)) := by
  cases entered with
  | none => exact ⟨rfl, rfl, h.current, h.processed⟩
  | some sequence => exact ⟨rfl, rfl, h.fresh sequence rfl, fun _ _ ↦ rfl⟩

private theorem leads_enter (dex : List Dex) (sent : Except Exception Unit) (state : State) :
    Leads index entered (Enterable entered state) (enter dex sent state) Inv := by
  apply Proc.Triple.bind (R := fun _ ↦ Entered state)
  · exact Proc.Triple.emit fun _ h ↦ h.enter
  · exact fun _ _ ↦ leads_download dex sent state

/-- The invariant, while a handler runs that has read the state of the download. -/
structure At (entered : Option UInt32) (state : State) (stream : Stream) : Prop where
  inv : Inv stream
  state_eq : stream.state = state
  fresh : ∀ sequence ∈ entered, stream.indexes sequence = []

/-- Before the chain has begun the download may enter any state. -/
theorem At.enterable {state following : State} {stream : Stream} (h : At entered state stream)
    (hstate : state = .spotMeta ∨ state = .perpDexs) : Enterable entered following stream where
  current := by
    rcases h.inv.chain with hcurrent | ⟨_, _, _, hmetas⟩
    · exact hcurrent
    · rw [← h.state_eq, hmetas] at hstate
      rcases hstate with hstate | hstate <;> cases hstate
  fresh := h.fresh
  processed _ _ := h.inv.before (by rwa [h.state_eq])

/-- A state before the chain is checked. -/
theorem leads_check (dex : List Dex) (sent : Except Exception Unit) (leaves : Bool)
    {checked current : State} (hchecked : checked = .spotMeta ∨ checked = .perpDexs) :
    Leads index entered (At entered current) (check dex sent leaves checked current) Inv := by
  unfold check
  split
  · next following hfollowing =>
    split
    · next hleaves =>
      rw [Bool.and_eq_true, decide_eq_true_eq] at hleaves
      obtain ⟨_, rfl⟩ := hleaves
      exact (leads_enter dex sent following).pre fun _ h ↦ h.enterable hchecked
    · exact Proc.Triple.pure fun _ h ↦ h.inv
  · exact Proc.Triple.pure fun _ h ↦ h.inv

private theorem leads_processResponse {state : State} {reply : Reply}
    {successHandler : Body → Proc Effect Exception Unit}
    (h : ∀ body, Leads index entered (At entered state) (successHandler body) Inv) :
    Leads index entered (At entered state)
      (processResponse http (Proc.emit .suspendFor) reply.response handleError successHandler)
      Inv := by
  apply triple_processResponse http
  · exact fun _ hat ↦ hat.inv
  · exact fun _ _ hat ↦ hat.inv
  · exact fun _ hat ↦ hat.inv
  · exact Proc.Triple.emit fun _ hat ↦ hat
  · exact fun _ _ _ _ ↦ Proc.Triple.pure fun _ hat ↦ hat.inv
  · exact fun _ _ _ _ _ ↦ Proc.Triple.pure fun _ hinv ↦ hinv
  · exact fun _ body _ ↦ h body

private theorem leads_getSpotMetaAck (view : View) (reply : Reply) :
    Leads index entered (At entered view.state) (getSpotMetaAck http view reply) Inv := by
  apply leads_processResponse http
  intro body
  split
  · exact Proc.Triple.pure fun _ h ↦ h.inv
  · apply Proc.Triple.ofExcept_bind
    · exact fun _ _ h ↦ h.inv
    · exact fun _ _ ↦ leads_check view.dex reply.sent reply.leaves (.inl rfl)

private theorem leads_getPerpDexsAck (view : View) (reply : Reply) :
    Leads index entered (At entered view.state) (getPerpDexsAck http env view reply) Inv := by
  apply leads_processResponse http
  intro body
  split
  · exact Proc.Triple.pure fun _ h ↦ h.inv
  · apply Proc.Triple.ofExcept_bind fun _ _ h ↦ h.inv
    intro items _
    cases perpDexsAck env.settings view.dex items with
    | error failure =>
      cases failure with
      | thrown what => exact Proc.Triple.throw fun _ h ↦ h.inv
      | fatal text => exact Proc.Triple.fatal fun _ h ↦ h.inv
    | ok dex =>
      show Leads index entered _ (Proc.emit (.setDex dex) >>= fun _ ↦
        check dex reply.sent reply.leaves .perpDexs view.state) Inv
      apply Proc.Triple.bind (R := fun _ ↦ At entered view.state)
      · exact Proc.Triple.emit fun _ h ↦ ⟨h.inv.frame rfl rfl rfl rfl, h.state_eq, h.fresh⟩
      · exact fun _ _ ↦ leads_check dex reply.sent reply.leaves (.inr rfl)

/-- The rest of the handler after `META` has processed a reply: the next request, or the end of
the chain. -/
theorem leads_afterMeta {view : View} {reply : Reply} {processed : Nat} :
    Leads index entered
      (fun stream ↦ Between (processed + 1) stream ∧ At entered view.state stream)
      (afterMeta view reply processed) Inv := by
  unfold afterMeta
  split
  · exact (leads_getMeta view.dex reply.sent (processed + 1)).pre fun _ h ↦ h.1
  · unfold check
    dsimp only [State.next]
    split
    · apply (leads_enter view.dex reply.sent .done).pre
      exact fun _ h ↦ ⟨h.1.current, h.2.fresh, fun _ hdone ↦ absurd rfl hdone⟩
    · exact Proc.Triple.pure fun _ h ↦ h.2.inv

private theorem leads_of_emits {x : Proc Effect Exception Unit} (h : x.Emits Aside) :
    Leads index entered Inv x Inv := by
  apply Proc.Triple.of_emits h
  intro stream effect hinv haside
  cases effect with
  | suspendFor => exact hinv
  | setAllSymbols allSymbols => exact hinv.frame rfl rfl rfl rfl
  | _ => cases haside

/-- The reply to the request that the chain waits for. -/
theorem leads_getMetaAck {view : View} {reply : Reply} {waiting : Nat} :
    Leads (some waiting) entered
      (fun stream ↦ Between waiting stream ∧ At entered view.state stream)
      (getMetaAck http env view reply F waiting) Inv := by
  by_cases h : Processes env F view reply waiting
  · obtain ⟨allSymbols, symbols, hack⟩ := getMetaAck_of_processes http h
    rw [hack]
    apply Proc.Triple.catchThrown
    · apply Proc.Triple.bind
        (R := fun _ stream ↦ Between waiting stream ∧ At entered view.state stream)
      · apply Proc.Triple.emit
        intro stream hbetween
        refine ⟨⟨hbetween.1.state_eq, hbetween.1.started, hbetween.1.current,
          hbetween.1.processed⟩, hbetween.2.inv.frame rfl rfl rfl rfl, hbetween.2.state_eq,
          hbetween.2.fresh⟩
      intro _ _
      apply Proc.Triple.bind
        (R := fun _ stream ↦ Between (waiting + 1) stream ∧ At entered view.state stream)
      · apply Proc.Triple.emit
        intro stream hbetween
        have hnext : Between (waiting + 1) (stream.apply (some waiting) entered
            (.symbolsUpdate symbols)) := by
          refine ⟨hbetween.1.state_eq, hbetween.1.started, hbetween.1.current, ?_⟩
          show stream.processed ++ [waiting] = _
          rw [hbetween.1.processed, List.range_succ]
        exact ⟨hnext, hnext.inv, hbetween.2.state_eq, hbetween.2.fresh⟩
      · exact fun _ _ ↦ leads_afterMeta
    · intro e
      rw [handleException_handleError]
      exact Proc.Triple.pure fun _ hinv ↦ hinv
  · apply (leads_of_emits (emits_of_not_processes http h)).pre
    exact fun _ hbetween ↦ hbetween.2.inv

end

/-! ## Runs -/

variable {http env F}

private theorem inv_perform {index : Option Nat} {entered : Option UInt32} {P : Stream → Prop}
    {x : Proc Effect Exception Unit} (hx : Leads index entered P x Inv) {stream : Stream}
    (h : P stream) : Inv (perform index entered x stream) := by
  have hinv : Inv (x.events.foldl (apply index entered) stream) := by
    cases hresult : x.result with
    | ok _ => exact hx.ok stream () h hresult
    | error failure => exact hx.error stream failure h hresult
  unfold perform
  dsimp only
  split
  · exact hinv.frame rfl rfl rfl rfl
  · exact hinv

/-- While the download is not running, no request of its sequence is in flight. -/
theorem Inv.current_of_not_downloading {stream : Stream} (h : Inv stream)
    (hdownloading : stream.downloading = false) : stream.current = [] := by
  rcases h.chain with hcurrent | ⟨_, _, _, hstate⟩
  · exact hcurrent
  · rw [downloading, hstate] at hdownloading
    cases hdownloading

/-- The download begins, unless it is running. -/
theorem Inv.connected {stream : Stream} (h : Inv stream) (sent : Except Exception Unit)
    (hallowed : stream.Allowed (.connected sent)) :
    Inv (perform none none (stream.handler http env F (.connected sent)) stream) := by
  dsimp only [handler]
  split
  · exact inv_perform (Proc.Triple.pure fun _ hinv ↦ hinv) h
  · next hdownloading =>
    obtain ⟨hcurrent, hprocessed⟩ := h.unstarted (hallowed.resolve_left hdownloading)
    exact inv_perform (leads_enter stream.dex sent .spotMeta)
      ⟨hcurrent, fun _ ↦ nofun, fun _ _ ↦ hprocessed⟩

/-- The download is reset, unless it is running. -/
theorem Inv.disconnected {stream : Stream} (h : Inv stream) :
    Inv (perform none none (stream.handler http env F .disconnected) stream) := by
  dsimp only [handler]
  split
  · exact inv_perform (leads_publish fun _ hinv ↦ hinv.frame rfl rfl rfl rfl) h
  · next hdownloading =>
    have hcurrent := h.current_of_not_downloading (Bool.eq_false_of_not_eq_true hdownloading)
    apply inv_perform (P := fun stream ↦ Enterable none .undefined stream)
    · apply Proc.Triple.bind (leads_publish fun _ hent ↦ ⟨hent.current, hent.fresh, hent.processed⟩)
      exact fun _ _ ↦ Proc.Triple.emit fun _ hent ↦ hent.enter.inv
    · exact ⟨hcurrent, fun _ ↦ nofun, fun hne _ ↦ absurd rfl hne⟩

/-- The download starts its state anew. -/
theorem Inv.callback {stream : Stream} (h : Inv stream) (sent : Except Exception Unit)
    (hallowed : stream.Allowed (.callback sent)) :
    Inv (perform none none (stream.handler http env F (.callback sent))
      { stream with started := true }) := by
  obtain ⟨hcurrent, hprocessed⟩ := h.unstarted hallowed
  have hentered : Entered stream.state { stream with started := true } :=
    ⟨rfl, rfl, hcurrent, fun _ _ ↦ hprocessed⟩
  dsimp only [handler]
  split
  · exact inv_perform (leads_download stream.dex sent stream.state) hentered
  · exact inv_perform (Proc.Triple.pure fun _ hent ↦ hent.inv) hentered

section

variable {stream : Stream} {position : Nat} {request : Request}

/-- A reply to a request that is not of the chain leaves the chain. -/
theorem Inv.answered (h : Inv stream) (hrequest : stream.outstanding[position]? = some request)
    (hindex : request.indexIn stream.sequence = none) : Inv (stream.answered position) := by
  have hperm : stream.current.Perm (stream.answered position).current := by
    have hperm := indexes_perm hrequest stream.sequence
    rwa [hindex] at hperm
  refine h.frame ?_ rfl rfl rfl
  rcases h.chain with hcurrent | ⟨index, hcurrent, _, _⟩
  · rw [hcurrent] at hperm ⊢
    exact List.nil_perm.mp hperm
  · rw [hcurrent] at hperm ⊢
    exact (List.singleton_perm.mp hperm).symm

/-- The request that the chain waits for has its reply. -/
theorem Inv.between {index : Nat} (h : Inv stream)
    (hrequest : stream.outstanding[position]? = some request)
    (hindex : request.indexIn stream.sequence = some index) :
    Between index (stream.answered position) := by
  have hperm : stream.current.Perm (index :: (stream.answered position).current) := by
    have hperm := indexes_perm hrequest stream.sequence
    rwa [hindex] at hperm
  have hne : stream.current ≠ [] := by
    intro hcurrent
    rw [hcurrent] at hperm
    cases List.nil_perm.mp hperm
  obtain ⟨waiting, hcurrent, hprocessed, hstate⟩ := h.chain.resolve_left hne
  rw [hcurrent] at hperm
  obtain ⟨rfl, hrest⟩ := List.cons.inj (List.singleton_perm.mp hperm)
  refine ⟨hstate, ?_, hrest.symm, hprocessed⟩
  by_contra hstarted
  exact hne (h.unstarted (Bool.eq_false_of_not_eq_true hstarted)).1

/-- No other request of a sequence comes into flight by a reply. -/
theorem indexes_answered (hrequest : stream.outstanding[position]? = some request)
    {sequence : UInt32} (h : stream.indexes sequence = []) :
    (stream.answered position).indexes sequence = [] := by
  have hperm := indexes_perm hrequest sequence
  rw [h] at hperm
  exact (List.append_eq_nil_iff.mp (List.nil_perm.mp hperm)).2

/-- Every reply keeps the invariant: one to the request that the chain waits for carries the chain
on, another one is skipped or not of the chain. -/
theorem Inv.reply {reply : Reply} {entered : Option UInt32} (h : Inv stream)
    (hrequest : stream.outstanding[position]? = some request)
    (hallowed : stream.Allowed (.reply position reply entered)) :
    Inv (perform request.call.index? entered (ack http env stream.view reply F request.call)
      (stream.answered position)) := by
  obtain ⟨hskip, hfresh⟩ := hallowed
  have hat (hinv : Inv (stream.answered position)) :
      At entered stream.view.state (stream.answered position) :=
    ⟨hinv, rfl, fun sequence hsequence ↦ indexes_answered hrequest (hfresh sequence hsequence)⟩
  obtain ⟨call, sequence⟩ := request
  cases call with
  | spotMeta =>
    exact inv_perform (leads_getSpotMetaAck http stream.view reply)
      (hat (h.answered hrequest (ite_self _)))
  | perpDexs =>
    exact inv_perform (leads_getPerpDexsAck http env stream.view reply)
      (hat (h.answered hrequest (ite_self _)))
  | metas index =>
    by_cases hsequence : sequence = stream.sequence
    · have hbetween := h.between hrequest (if_pos hsequence)
      exact inv_perform (leads_getMetaAck http env F) ⟨hbetween, hat hbetween.inv⟩
    · have hskipped := hskip _ hrequest rfl hsequence
      have hnot : ¬ Processes env F stream.view reply index := by
        intro hprocesses
        cases hskipped.symm.trans hprocesses.1
      exact inv_perform (leads_of_emits (emits_of_not_processes http hnot))
        (h.answered hrequest (if_neg hsequence))

end

/-- Every step that the library allows keeps the invariant. -/
theorem Inv.step {stream : Stream} {event : Event} (h : Inv stream)
    (hallowed : stream.Allowed event) : Inv (stream.step http env F event) := by
  unfold Stream.step
  split
  · exact h
  · cases event with
    | sequenceChanged sequence =>
      exact ⟨.inl hallowed, fun _ ↦ rfl, fun _ ↦ ⟨hallowed, rfl⟩⟩
    | allSymbolsChanged allSymbols => exact h.frame rfl rfl rfl rfl
    | connected sent => exact h.connected sent hallowed
    | disconnected => exact h.disconnected
    | callback sent => exact h.callback sent hallowed
    | reply position reply entered =>
      dsimp only [handler]
      split
      · exact h
      · next request hrequest => exact h.reply hrequest hallowed

/-! ## READY -/

section

variable {view : View} {reply : Reply}

/-- A request emits itself only. -/
theorem emits_sendRequest {P : Effect → Prop} (sent : Except Exception Unit) {call : Call}
    (h : P (.send call)) : (sendRequest sent call).Emits P :=
  (Proc.emits_ofThrows sent).bind fun _ _ ↦ (Proc.emits_emit _).mpr h

/-- A request of the chain does not publish READY. -/
theorem emits_getMeta (dex : List Dex) (sent : Except Exception Unit) (index : Nat) :
    (getMeta dex sent index).Emits (· ≠ .publish .ready) := by
  unfold getMeta
  split
  · exact emits_sendRequest sent nofun
  · exact Proc.emits_fatal _

/-- Only the last state publishes READY. -/
theorem emits_download (dex : List Dex) (sent : Except Exception Unit) {state : State}
    (hstate : state ≠ .done) : (download dex sent state).Emits (· ≠ .publish .ready) := by
  have hpublish : (Proc.emit (.publish .downloading) : Proc Effect Exception Unit).Emits
      (· ≠ .publish .ready) := (Proc.emits_emit _).mpr nofun
  cases state with
  | undefined => exact Proc.emits_fatal _
  | spotMeta => exact hpublish.bind fun _ _ ↦ emits_sendRequest sent nofun
  | perpDexs => exact hpublish.bind fun _ _ ↦ emits_sendRequest sent nofun
  | metas => exact hpublish.bind fun _ _ ↦ emits_getMeta dex sent 0
  | done => exact absurd rfl hstate

/-- READY is published by the last state only. -/
theorem emits_enter (dex : List Dex) (sent : Except Exception Unit) {state : State}
    (hstate : state ≠ .done) : (enter dex sent state).Emits (· ≠ .publish .ready) :=
  ((Proc.emits_emit _).mpr nofun).bind fun _ _ ↦ emits_download dex sent hstate

/-- A state whose successor is not the last one does not publish READY. -/
theorem emits_check (dex : List Dex) (sent : Except Exception Unit) (leaves : Bool)
    {checked current : State} (hchecked : checked ≠ .metas) :
    (check dex sent leaves checked current).Emits (· ≠ .publish .ready) := by
  unfold check
  split
  · next following hfollowing =>
    split
    · apply emits_enter
      rintro rfl
      cases checked <;> cases hfollowing
      exact hchecked rfl
    · exact Proc.emits_pure ()
  · exact Proc.emits_pure ()

private theorem emits_ofResponse {successHandler : Body → Proc Effect Exception Unit}
    (h : ∀ body, (successHandler body).Emits (· ≠ .publish .ready)) :
    (processResponse http (Proc.emit .suspendFor) reply.response handleError
      successHandler).Emits (· ≠ .publish .ready) := by
  apply emits_processResponse http
  · exact (Proc.emits_emit _).mpr nofun
  · exact fun _ _ _ _ ↦ Proc.emits_pure ()
  · exact fun _ body _ ↦ h body

/-- A spot reply does not publish READY. -/
theorem emits_getSpotMetaAck :
    (getSpotMetaAck http view reply).Emits (· ≠ .publish .ready) := by
  apply emits_ofResponse
  intro body
  split
  · exact Proc.emits_pure ()
  · refine (Proc.emits_ofExcept _ _).bind ?_
    exact fun _ _ ↦ emits_check view.dex reply.sent reply.leaves nofun

/-- A list of exchanges does not publish READY. -/
theorem emits_getPerpDexsAck :
    (getPerpDexsAck http env view reply).Emits (· ≠ .publish .ready) := by
  apply emits_ofResponse
  intro body
  split
  · exact Proc.emits_pure ()
  · refine (Proc.emits_ofExcept _ _).bind ?_
    intro items _
    cases perpDexsAck env.settings view.dex items with
    | error failure =>
      cases failure with
      | thrown what => exact Proc.emits_throw _
      | fatal text => exact Proc.emits_fatal _
    | ok dex =>
      show Proc.Emits _ (Proc.emit (.setDex dex) >>= fun _ ↦
        check dex reply.sent reply.leaves .perpDexs view.state)
      refine ((Proc.emits_emit _).mpr nofun).bind ?_
      exact fun _ _ ↦ emits_check dex reply.sent reply.leaves nofun

/-- A reply within the chain does not end the download. -/
theorem emits_getMetaAck {index : Nat}
    (h : Processes env F view reply index → index + 1 < view.dex.length) :
    (getMetaAck http env view reply F index).Emits (· ≠ .publish .ready) := by
  by_cases hprocesses : Processes env F view reply index
  · obtain ⟨allSymbols, symbols, hack⟩ := getMetaAck_of_processes http hprocesses
    rw [hack]
    apply Proc.Emits.catchThrown
    · refine ((Proc.emits_emit _).mpr nofun).bind fun _ _ ↦ ?_
      refine ((Proc.emits_emit _).mpr nofun).bind fun _ _ ↦ ?_
      rw [afterMeta, if_pos (h hprocesses)]
      exact emits_getMeta view.dex reply.sent (index + 1)
    · intro e
      rw [handleException_handleError]
      exact Proc.emits_pure ()
  · apply (emits_of_not_processes http hprocesses).mono
    rintro _ haside rfl
    exact haside

end

/-- READY is published by a step that checks `META`, and by no other. -/
theorem exists_checksMeta {stream : Stream} {event : Event} (hended : stream.ended = false)
    (hready : .publish .ready ∈ (stream.handler http env F event).events) :
    ∃ index, ChecksMeta env F stream event index := by
  by_contra hnone
  have hemits : (stream.handler http env F event).Emits (· ≠ .publish .ready) := by
    cases event with
    | sequenceChanged sequence => exact Proc.emits_pure ()
    | allSymbolsChanged allSymbols => exact Proc.emits_pure ()
    | connected sent =>
      dsimp only [handler]
      split
      · exact Proc.emits_pure ()
      · exact emits_enter stream.dex sent nofun
    | disconnected =>
      refine ((Proc.emits_emit _).mpr nofun).bind fun _ _ ↦ ?_
      split
      · exact Proc.emits_pure ()
      · exact (Proc.emits_emit _).mpr nofun
    | callback sent =>
      dsimp only [handler]
      split
      · next hdownloading =>
        apply emits_download
        intro hdone
        rw [downloading, hdone] at hdownloading
        cases hdownloading
      · exact Proc.emits_pure ()
    | reply position reply entered =>
      dsimp only [handler]
      split
      · exact Proc.emits_pure ()
      · next request hrequest =>
        cases hcall : request.call with
        | spotMeta => exact emits_getSpotMetaAck
        | perpDexs => exact emits_getPerpDexsAck
        | metas index =>
          apply emits_getMetaAck
          intro hprocesses
          by_contra hlast
          exact hnone ⟨index, hended, ⟨request, hrequest, hcall⟩, hprocesses, by
            exact Nat.le_of_not_lt hlast⟩
  exact hemits.forall_mem _ hready rfl

/-- When `META` is checked, the whole chain has been processed. -/
theorem Inv.range_of_checksMeta {stream : Stream} {event : Event} {index : Nat} (h : Inv stream)
    (hallowed : stream.Allowed event) (hchecks : ChecksMeta env F stream event index) :
    stream.processed ++ [index] = List.range stream.dex.length := by
  cases event with
  | reply position reply entered =>
    obtain ⟨_, ⟨request, hrequest, hcall⟩, hprocesses, hlast⟩ := hchecks
    have hindex : request.indexIn stream.sequence = some index := by
      rw [Request.indexIn, if_pos, hcall]
      · rfl
      · by_contra hsequence
        have hskip := hallowed.1 request hrequest (by rw [hcall]; rfl) hsequence
        cases hskip.symm.trans hprocesses.1
    have hbetween := h.between hrequest hindex
    have hlength := hprocesses.index_lt
    rw [show stream.processed = List.range index from hbetween.processed, ← List.range_succ,
      show stream.dex.length = index + 1 by exact Nat.le_antisymm hlast hlength]
  | _ => cases hchecks

/-- In every run, whenever `META` is checked, the replies for all dexes have been processed in
order since the sequence last changed, and READY is published only then. -/
theorem complete_of_allowed (http : HttpLibrary) (env : MetaEnv) (F : Type) [Double F]
    (sequence : UInt32) (events : List Event)
    (hallowed : Run.Along (step http env F) Allowed (new sequence) events) :
    Run.Along (step http env F) (Complete http env F) (new sequence) events := by
  apply Run.along_of_invariant Inv (fun _ _ hinv ↦ hinv.step) _ (inv_new sequence) hallowed
  intro stream event hinv hallowed
  constructor
  · exact fun _ hchecks ↦ hinv.range_of_checksMeta hallowed hchecks
  · exact fun hended hready ↦ exists_checksMeta hended hready

/-- One exchange beside the main one. -/
def oneMore : MetaEnv := ⟨⟨"hyperliquid", ["a"], false⟩, 1, fun _ ↦ false, .throwing⟩

/-- A success whose body is a reply of each kind. -/
def success (skip : Bool) : Reply :=
  ⟨⟨.ok (.ok, .success, ⟨.ok (), .ok [⟨""⟩, ⟨"a"⟩], .ok []⟩)⟩, skip, true, .ok ()⟩

/-- The chain is retried after its first reply, and the reply to its second request comes late. -/
def retried : List Event :=
  [.sequenceChanged 1, .connected (.ok ()), .reply 0 (success false) none,
    .reply 0 (success false) none, .reply 0 (success false) none, .sequenceChanged 2,
    .callback (.ok ()), .reply 0 (success true) none, .reply 0 (success false) none,
    .reply 0 (success false) none]

/-- Two exchanges, and the chain is retried after its first request. -/
theorem complete_of_allowed_retried :
    (retried.foldl (step ⟨fun _ ↦ "", fun _ ↦ .std ""⟩ oneMore ℚ) (new 0)).status = .ready ∧
      (retried.foldl (step ⟨fun _ ↦ "", fun _ ↦ .std ""⟩ oneMore ℚ) (new 0)).processed = [0, 1] ∧
      Run.Along (step ⟨fun _ ↦ "", fun _ ↦ .std ""⟩ oneMore ℚ)
        (Complete ⟨fun _ ↦ "", fun _ ↦ .std ""⟩ oneMore ℚ) (new 0) retried := by
  refine ⟨by decide, by decide, ?_⟩
  exact complete_of_allowed ⟨fun _ ↦ "", fun _ ↦ .std ""⟩ oneMore ℚ 0 retried (by decide)

end Stream

end Hyperliquid.Gateway.Rest
