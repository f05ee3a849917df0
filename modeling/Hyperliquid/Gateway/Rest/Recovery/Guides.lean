import Hyperliquid.Gateway.Rest.Recovery.Steady

/-!
# Triples of the download

What the handlers of `src/roq/hyperliquid/gateway/rest.cpp:174–231, 253–273, 360–412, 443–538`
leave when they return or throw: the request that has been sent, or none.
-/

namespace Hyperliquid.Gateway.Rest.Stream

open Hyperliquid.Base Hyperliquid.Web

/-- What a handler that throws leaves; one that ends the process owes nothing. -/
def Caught : Failure Exception → Stream → Prop
  | .thrown _, stream => Steady stream
  | .fatal _, _ => True

/-- A part of a handler, for a reply to a request with an index. -/
abbrev Guides (index : Option Nat) (entered : Option UInt32) (P : Stream → Prop)
    (x : Proc Effect Exception Unit) (Q : Stream → Prop) : Prop :=
  Proc.Triple (apply index entered) P x (fun _ ↦ Q) Caught

/-- A request has been sent, and the download waits for it. -/
structure Awaits (call : Call) (stream : Stream) : Prop where
  state_eq : stream.state = call.state
  started : stream.started = true
  waiting : stream.waiting = [call]
  within : ∀ index, call = .metas index → index < stream.dex.length

/-- A state has been entered. -/
def Arrived : State → Stream → Prop
  | .undefined, _ => False
  | .spotMeta, stream => Awaits .spotMeta stream
  | .perpDexs, stream => Awaits .perpDexs stream
  | .metas, stream => Awaits (.metas 0) stream
  | .done, stream => stream.state = .done ∧ stream.waiting = [] ∧ stream.status = .ready

/-- A state has been entered, with the list of dexes that its callback reads, and its request has
not been sent. -/
structure Idle (state : State) (dex : List Dex) (stream : Stream) : Prop where
  state_eq : stream.state = state
  dex_eq : stream.dex = dex
  started : stream.started = true
  waiting : stream.waiting = []

/-- A state may be entered: no request of the sequence that the download will have is in flight. -/
structure MayEnter (entered : Option UInt32) (dex : List Dex) (stream : Stream) : Prop where
  dex_eq : stream.dex = dex
  waiting : stream.waiting = []
  fresh : ∀ sequence ∈ entered, stream.calls sequence = []

/-- The request that the download waits for has its reply, whose handler has read the list of
dexes. -/
structure Answered (entered : Option UInt32) (call : Call) (dex : List Dex)
    (stream : Stream) : Prop where
  idle : Idle call.state dex stream
  fresh : ∀ sequence ∈ entered, stream.calls sequence = []
  listed : call.state = .metas → dex ≠ []

/-- The sequence stays as it is. -/
theorem mayEnter_none {dex : List Dex} {stream : Stream} (hdex : stream.dex = dex)
    (hwaiting : stream.waiting = []) : MayEnter none dex stream where
  dex_eq := hdex
  waiting := hwaiting
  fresh _ hsequence := by cases hsequence

/-- A download that waits for its one request is steady. -/
theorem Awaits.steady {call : Call} {stream : Stream} (h : Awaits call stream) :
    Steady stream where
  waits := .inr ⟨call, h.waiting, h.state_eq.symm⟩
  within index hindex := by
    rw [h.waiting, List.mem_singleton] at hindex
    exact h.within index hindex.symm
  unstarted hstarted := by cases h.started.symm.trans hstarted
  listed hmetas hdex := by
    rw [h.state_eq] at hmetas
    cases call with
    | metas index =>
      have := h.within index rfl
      rw [hdex] at this
      cases this
    | _ => cases hmetas
  ready hdone := by
    rw [h.state_eq] at hdone
    cases call <;> cases hdone

/-- A state that has been entered and has asked for what it needs is steady. -/
theorem Arrived.steady {state : State} {stream : Stream} (h : Arrived state stream) :
    Steady stream := by
  cases state with
  | undefined => exact h.elim
  | done =>
    obtain ⟨hstate, hwaiting, hready⟩ := h
    apply steady_of_waiting_nil hwaiting
    · intro hmetas
      cases hstate.symm.trans hmetas
    · exact fun _ ↦ hready
  | _ => exact Awaits.steady h

/-- A state other than the last one that has nothing in flight is steady. -/
theorem Idle.steady {state : State} {dex : List Dex} {stream : Stream}
    (h : Idle state dex stream) (hdone : state ≠ .done) (hlisted : state = .metas → dex ≠ []) :
    Steady stream := by
  apply steady_of_waiting_nil h.waiting
  · intro hmetas
    rw [h.dex_eq]
    exact hlisted (h.state_eq.symm.trans hmetas)
  · exact fun hready ↦ absurd (h.state_eq.symm.trans hready) hdone

/-- A state whose request has been answered is steady. -/
theorem Answered.steady {entered : Option UInt32} {call : Call} {dex : List Dex}
    {stream : Stream} (h : Answered entered call dex stream) : Steady stream :=
  h.idle.steady call.state_ne_done h.listed

section

variable {index : Option Nat} {entered : Option UInt32}

/-- A request is sent from a state in which nothing is in flight. -/
theorem guides_sendRequest {state : State} {dex : List Dex} (sent : Except Exception Unit)
    {call : Call} (hcall : call.state = state)
    (hwithin : ∀ index, call = .metas index → index < dex.length) :
    Guides index entered (Idle state dex) (sendRequest sent call) (Awaits call) := by
  subst hcall
  apply Proc.Triple.ofThrows_bind
  · intro _ stream h
    apply h.steady call.state_ne_done
    intro hmetas hdex
    cases call with
    | metas index =>
      have hindex := hwithin index rfl
      rw [hdex] at hindex
      cases hindex
    | _ => cases hmetas
  · intro _ _
    apply Proc.Triple.emit
    intro stream h
    refine ⟨h.state_eq, h.started, ?_, ?_⟩
    · rw [waiting_send, h.waiting]
      rfl
    · intro index hindex
      show index < stream.dex.length
      rw [h.dex_eq]
      exact hwithin index hindex

private theorem guides_getMeta (dex : List Dex) (sent : Except Exception Unit) (next : Nat) :
    Guides index entered (Idle .metas dex) (getMeta dex sent next) (Awaits (.metas next)) := by
  unfold getMeta
  split
  · next hnext =>
    apply guides_sendRequest sent
    · rfl
    · rintro _ ⟨⟩
      exact hnext
  · exact Proc.Triple.fatal fun _ _ ↦ trivial

/-- The callback for a state that has been entered. -/
theorem guides_download (dex : List Dex) (sent : Except Exception Unit) (state : State) :
    Guides index entered (Idle state dex) (download dex sent state) (Arrived state) := by
  have hpublish : ∀ status, Guides index entered (Idle state dex) (Proc.emit (.publish status))
      (Idle state dex) :=
    fun _ ↦ Proc.Triple.emit fun _ h ↦ ⟨h.state_eq, h.dex_eq, h.started, h.waiting⟩
  cases state with
  | undefined => exact Proc.Triple.fatal fun _ _ ↦ trivial
  | spotMeta =>
    exact (hpublish .downloading).bind fun _ _ ↦ guides_sendRequest sent rfl fun _ ↦ nofun
  | perpDexs =>
    exact (hpublish .downloading).bind fun _ _ ↦ guides_sendRequest sent rfl fun _ ↦ nofun
  | metas => exact (hpublish .downloading).bind fun _ _ ↦ guides_getMeta dex sent 0
  | done => exact Proc.Triple.emit fun _ h ↦ ⟨h.state_eq, h.waiting, rfl⟩

/-- A state is entered with nothing in flight. -/
theorem MayEnter.enter {state : State} {dex : List Dex} {stream : Stream}
    (h : MayEnter entered dex stream) :
    Idle state dex (stream.apply index entered (.enter state)) := by
  cases entered with
  | none => exact ⟨rfl, h.dex_eq, rfl, h.waiting⟩
  | some sequence => exact ⟨rfl, h.dex_eq, rfl, h.fresh sequence rfl⟩

/-- A state is entered, and asks for what it needs. -/
theorem guides_enter (dex : List Dex) (sent : Except Exception Unit) (state : State) :
    Guides index entered (MayEnter entered dex) (enter dex sent state) (Arrived state) := by
  apply Proc.Triple.bind (R := fun _ ↦ Idle state dex)
  · exact Proc.Triple.emit fun _ h ↦ h.enter
  · exact fun _ _ ↦ guides_download dex sent state

/-- The next state may be entered after an answer. -/
theorem Answered.mayEnter {call : Call} {dex : List Dex} {stream : Stream}
    (h : Answered entered call dex stream) : MayEnter entered dex stream :=
  ⟨h.idle.dex_eq, h.idle.waiting, h.fresh⟩

/-- The state of the request is checked. -/
theorem guides_check {call : Call} (dex : List Dex) (sent : Except Exception Unit)
    (leaves : Bool) (checked current : State) :
    Guides index entered (Answered entered call dex) (check dex sent leaves checked current)
      Steady := by
  unfold check
  split
  · next following _ =>
    split
    · exact ((guides_enter dex sent following).mono (fun _ _ h ↦ h.steady) fun _ _ h ↦ h).pre
        fun _ h ↦ h.mayEnter
    · exact Proc.Triple.pure fun _ h ↦ h.steady
  · exact Proc.Triple.pure fun _ h ↦ h.steady

variable (http : HttpLibrary) (env : MetaEnv) (F : Type) [Double F]

private theorem guides_processResponse {call : Call} {dex : List Dex} {reply : Reply}
    {successHandler : Body → Proc Effect Exception Unit}
    (h : ∀ body, Guides index entered (Answered entered call dex) (successHandler body) Steady) :
    Guides index entered (Answered entered call dex)
      (processResponse http (Proc.emit .suspendFor) reply.response handleError successHandler)
      Steady := by
  apply triple_processResponse http
  · exact fun _ hanswered ↦ hanswered.steady
  · exact fun _ _ hanswered ↦ hanswered.steady
  · exact fun _ _ ↦ trivial
  · exact Proc.Triple.emit fun _ hanswered ↦ hanswered
  · exact fun _ _ _ _ ↦ Proc.Triple.pure fun _ hanswered ↦ hanswered.steady
  · exact fun _ _ _ _ _ ↦ Proc.Triple.pure fun _ hsteady ↦ hsteady
  · exact fun _ body _ ↦ h body

private theorem guides_getSpotMetaAck (view : View) (reply : Reply) :
    Guides index entered (Answered entered .spotMeta view.dex) (getSpotMetaAck http view reply)
      Steady := by
  apply guides_processResponse http
  intro body
  split
  · exact Proc.Triple.pure fun _ h ↦ h.steady
  · apply Proc.Triple.ofExcept_bind
    · exact fun _ _ h ↦ h.steady
    · exact fun _ _ ↦ guides_check view.dex reply.sent reply.leaves .spotMeta view.state

private theorem guides_getPerpDexsAck (view : View) (reply : Reply) :
    Guides index entered (Answered entered .perpDexs view.dex)
      (getPerpDexsAck http env view reply) Steady := by
  apply guides_processResponse http
  intro body
  split
  · exact Proc.Triple.pure fun _ h ↦ h.steady
  · apply Proc.Triple.ofExcept_bind fun _ _ h ↦ h.steady
    intro items _
    cases perpDexsAck env.settings view.dex items with
    | error failure =>
      cases failure with
      | thrown what => exact Proc.Triple.throw fun _ h ↦ h.steady
      | fatal text => exact Proc.Triple.fatal fun _ _ ↦ trivial
    | ok dex =>
      show Guides index entered _ (Proc.emit (.setDex dex) >>= fun _ ↦
        check dex reply.sent reply.leaves .perpDexs view.state) Steady
      apply Proc.Triple.bind (R := fun _ ↦ Answered entered .perpDexs dex)
      · apply Proc.Triple.emit
        intro stream h
        exact ⟨⟨h.idle.state_eq, rfl, h.idle.started, h.idle.waiting⟩, h.fresh, nofun⟩
      · exact fun _ _ ↦ guides_check dex reply.sent reply.leaves .perpDexs view.state

/-- The symbols of a reply are published. -/
theorem guides_setAllSymbols {call : Call} {dex : List Dex} (allSymbols : List String) :
    Guides index entered (Answered entered call dex) (Proc.emit (.setAllSymbols allSymbols))
      (Answered entered call dex) :=
  Proc.Triple.emit fun _ h ↦
    ⟨⟨h.idle.state_eq, h.idle.dex_eq, h.idle.started, h.idle.waiting⟩, h.fresh, h.listed⟩

private theorem guides_symbolsUpdate {call : Call} {dex : List Dex} (symbols : List String) :
    Guides index entered (Answered entered call dex) (Proc.emit (.symbolsUpdate symbols))
      (Answered entered call dex) :=
  Proc.Triple.emit fun _ h ↦
    ⟨⟨h.idle.state_eq, h.idle.dex_eq, h.idle.started, h.idle.waiting⟩, h.fresh, h.listed⟩

/-- Symbols that are named change nothing that the download waits for. -/
theorem guides_symbols {call : Call} {dex : List Dex} (allSymbols symbols : List String)
    {x : Proc Effect Exception Unit} {Q : Stream → Prop}
    (hx : Guides index entered (Answered entered call dex) x Q) :
    Guides index entered (Answered entered call dex)
      (Proc.emit (.setAllSymbols allSymbols) >>= fun _ ↦
        Proc.emit (.symbolsUpdate symbols) >>= fun _ ↦ x) Q :=
  (guides_setAllSymbols allSymbols).bind fun _ _ ↦
    (guides_symbolsUpdate symbols).bind fun _ _ ↦ hx

private theorem guides_afterMeta (view : View) (reply : Reply) (processed : Nat) :
    Guides index entered (Answered entered (.metas processed) view.dex)
      (afterMeta view reply processed) Steady := by
  unfold afterMeta
  split
  · apply ((guides_getMeta view.dex reply.sent (processed + 1)).mono
      (fun _ _ h ↦ h.steady) fun _ _ h ↦ h).pre
    exact fun _ h ↦ h.idle
  · exact guides_check view.dex reply.sent reply.leaves .metas view.state

private theorem guides_getMetaAck (view : View) (reply : Reply) (processed : Nat) :
    Guides index entered (Answered entered (.metas processed) view.dex)
      (getMetaAck http env view reply F processed) Steady := by
  apply guides_processResponse http
  intro body
  split
  · exact Proc.Triple.pure fun _ h ↦ h.steady
  · apply Proc.Triple.ofExcept_bind fun _ _ h ↦ h.steady
    intro items _
    dsimp only
    apply Proc.Triple.bind (guides_setAllSymbols _)
    intro _ _
    cases (metaAck (F := F) env view.dex processed items view.allSymbols).1 with
    | error failure =>
      cases failure with
      | thrown what => exact Proc.Triple.throw fun _ h ↦ h.steady
      | fatal text => exact Proc.Triple.fatal fun _ _ ↦ trivial
    | ok _ =>
      show Guides index entered _ (Proc.emit (.symbolsUpdate _) >>= fun _ ↦
        afterMeta view reply processed) Steady
      exact (guides_symbolsUpdate _).bind fun _ _ ↦ guides_afterMeta view reply processed

/-- Every reply to the request that the download waits for. -/
theorem guides_ack (view : View) (reply : Reply) (call : Call) :
    Guides index entered (Answered entered call view.dex) (ack http env view reply F call)
      Steady := by
  cases call with
  | spotMeta => exact guides_getSpotMetaAck http view reply
  | perpDexs => exact guides_getPerpDexsAck http env view reply
  | metas processed => exact guides_getMetaAck http env F view reply processed

end

end Hyperliquid.Gateway.Rest.Stream
