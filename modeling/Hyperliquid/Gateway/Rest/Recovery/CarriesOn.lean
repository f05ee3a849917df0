import Hyperliquid.Gateway.Rest.Recovery.Guides

/-!
# Replies that carry the download on

What the handlers of `src/roq/hyperliquid/gateway/rest.cpp:253–273, 360–412, 443–538` do for a
reply that is accepted, and for one that `download_.skip` skips.
-/

namespace Hyperliquid.Gateway.Rest.Stream

open Hyperliquid.Base Hyperliquid.Web

variable {http : HttpLibrary} {env : MetaEnv} {F : Type} [Double F] {view : View} {reply : Reply}

private theorem exists_of_carriesOn {call : Call} (h : reply.carriesOn env F view call = true) :
    reply.sent = .ok () ∧ reply.skip = false ∧ ∃ status body,
      reply.response.result = .ok (status, .success, body) ∧
        body.carriesOn env F view reply.leaves call = true := by
  obtain ⟨hsent, hbody⟩ := Bool.and_eq_true_iff.mp h
  refine ⟨eq_ok_of_isOk hsent, ?_⟩
  unfold Reply.body? at hbody
  split at hbody
  · next status body hresult =>
    split at hbody
    · cases hbody
    · next hskip => exact ⟨Bool.eq_false_of_not_eq_true hskip, status, body, hresult, hbody⟩
  · cases hbody

/-- A success whose handler throws nothing is handled by it alone. -/
theorem processResponse_eq {successHandler : Body → Proc Effect Exception Unit}
    {status : Web.Status} {body : Body} {x : Proc Effect Exception Unit}
    (hresult : reply.response.result = .ok (status, .success, body))
    (hbody : successHandler body = x) (hx : ∀ e, x.result ≠ .error (.thrown e)) :
    processResponse http (Proc.emit .suspendFor) reply.response handleError successHandler = x := by
  have hresponse : reply.response = ⟨.ok (status, .success, body)⟩ :=
    congrArg Response.mk hresult
  subst hbody
  rw [hresponse]
  exact processResponse_of_success http _ _ hx

/-- The callback for a state throws nothing, if its request is sent. -/
theorem download_not_thrown (dex : List Dex) (state : State) (e : Exception) :
    (download dex (.ok ()) state).result ≠ .error (.thrown e) := by
  cases state with
  | metas =>
    show ((getMeta dex (.ok ()) 0).result : Except _ _) ≠ _
    unfold getMeta
    split <;> nofun
  | _ => nofun

/-- Nothing is thrown when the requests can be sent. -/
theorem enter_not_thrown (dex : List Dex) (state : State) (e : Exception) :
    (enter dex (.ok ()) state).result ≠ .error (.thrown e) := download_not_thrown dex state e

/-- A spot reply that is accepted enters the next state. -/
theorem getSpotMetaAck_of_carriesOn (h : reply.carriesOn env F view .spotMeta = true)
    (hstate : view.state = .spotMeta) :
    getSpotMetaAck http view reply = enter view.dex (.ok ()) .perpDexs := by
  obtain ⟨hsent, hskip, status, body, hresult, hbody⟩ := exists_of_carriesOn h
  obtain ⟨hleaves, hdecoded⟩ := Bool.and_eq_true_iff.mp hbody
  have hspotMeta := eq_ok_of_isOk hdecoded
  apply processResponse_eq hresult
  · simp [hskip, hspotMeta, hsent, hleaves, hstate, check, State.next]
  · exact enter_not_thrown view.dex .perpDexs

/-- A list of exchanges that is accepted is kept, and the chain is entered. -/
theorem getPerpDexsAck_of_carriesOn (h : reply.carriesOn env F view .perpDexs = true)
    (hstate : view.state = .perpDexs) :
    ∃ status body items dex, reply.response.result = .ok (status, .success, body) ∧
      body.perpDexs = .ok items ∧ perpDexsAck env.settings view.dex items = .ok dex ∧
        getPerpDexsAck http env view reply =
          (Proc.emit (.setDex dex) >>= fun _ ↦ enter dex (.ok ()) .metas) := by
  obtain ⟨hsent, hskip, status, body, hresult, hbody⟩ := exists_of_carriesOn h
  obtain ⟨hleaves, hdecoded⟩ := Bool.and_eq_true_iff.mp hbody
  obtain ⟨items, hitems, hhandled⟩ := exists_of_any_toOption hdecoded
  obtain ⟨dex, hdex⟩ := exists_of_isOk hhandled
  refine ⟨status, body, items, dex, hresult, hitems, hdex,
    processResponse_eq hresult ?_ (enter_not_thrown dex .metas)⟩
  simp [hskip, hitems, hdex, hsent, hleaves, hstate, check, State.next, ofFailure]

/-- A meta reply that is accepted is followed by the next request or the end of the download. -/
theorem getMetaAck_of_carriesOn {index : Nat}
    (h : reply.carriesOn env F view (.metas index) = true) (hstate : view.state = .metas) :
    ∃ allSymbols symbols, getMetaAck http env view reply F index =
      (Proc.emit (.setAllSymbols allSymbols) >>= fun _ ↦
        Proc.emit (.symbolsUpdate symbols) >>= fun _ ↦
          if index + 1 < view.dex.length then sendRequest (.ok ()) (.metas (index + 1))
          else enter view.dex (.ok ()) .done) := by
  obtain ⟨hsent, hskip, status, body, hresult, hbody⟩ := exists_of_carriesOn h
  obtain ⟨hleaves, hdecoded⟩ := Bool.and_eq_true_iff.mp hbody
  obtain ⟨items, hitems, hhandled⟩ := exists_of_any_toOption hdecoded
  have hmeta := eq_ok_of_isOk hhandled
  refine ⟨(metaAck (F := F) env view.dex index items view.allSymbols).2.allSymbols,
    (metaAck (F := F) env view.dex index items view.allSymbols).2.symbols,
    processResponse_eq hresult ?_ ?_⟩
  · simp only [hskip, hitems, hmeta, hsent, ofFailure, Proc.ofExcept_ok, Proc.pure_bind,
      Bool.false_eq_true, if_false]
    by_cases hnext : index + 1 < view.dex.length
    · have hsend : getMeta view.dex (.ok ()) (index + 1) =
          sendRequest (.ok ()) (.metas (index + 1)) := if_pos hnext
      simp [hnext, hsend]
    · have hleaves : reply.leaves = true := by simpa [hnext] using hleaves
      simp [hnext, hleaves, hstate, check, State.next]
  · intro e
    by_cases hnext : index + 1 < view.dex.length
    · simp [hnext, sendRequest, Proc.ofThrows, Proc.emit]
    · simpa [hnext] using enter_not_thrown view.dex .done e

/-- A reply that is skipped does nothing to the download. -/
theorem emits_ack_of_skip (hskip : reply.skip = true) (call : Call) :
    (ack http env view reply F call).Emits (· = .suspendFor) := by
  have hresponse : ∀ successHandler : Body → Proc Effect Exception Unit,
      (∀ body, successHandler body = pure ()) →
      (processResponse http (Proc.emit .suspendFor) reply.response handleError
        successHandler).Emits (· = .suspendFor) := by
    intro successHandler hsuccess
    apply emits_processResponse http
    · exact (Proc.emits_emit _).mpr rfl
    · exact fun _ _ _ _ ↦ Proc.emits_pure ()
    · intro _ body _
      rw [hsuccess body]
      exact Proc.emits_pure ()
  cases call with
  | _ => exact hresponse _ fun _ ↦ if_pos hskip

/-! ## Accepted replies -/

variable {dexes : Nat}

/-- An effect that keeps the list of dexes within a bound. -/
def KeepsDexes (dexes : Nat) : Effect → Prop
  | .setDex dex => dex.length ≤ dexes
  | _ => True

/-- A handler that returns, and keeps the list of dexes within a bound. -/
structure Returns (dexes : Nat) (x : Proc Effect Exception Unit) : Prop where
  result : x.result = .ok ()
  emits : x.Emits (KeepsDexes dexes)

/-- One more effect in front. -/
theorem Returns.emit {effect : Effect} {x : Proc Effect Exception Unit}
    (heffect : KeepsDexes dexes effect) (hx : Returns dexes x) :
    Returns dexes (Proc.emit effect >>= fun _ ↦ x) where
  result := hx.result
  emits := ((Proc.emits_emit _).mpr heffect).bind fun _ _ ↦ hx.emits

private theorem returns_sendRequest (dexes : Nat) (call : Call) :
    Returns dexes (sendRequest (.ok ()) call) :=
  ⟨rfl, emits_sendRequest _ trivial⟩

/-- The callback for a state returns, if its request is sent and there are dexes to ask for. -/
theorem download_returns (dexes : Nat) (dex : List Dex) (state : State)
    (hstate : state ≠ .undefined) (hdex : state = .metas → dex ≠ []) :
    Returns dexes (download dex (.ok ()) state) := by
  cases state with
  | undefined => exact absurd rfl hstate
  | metas =>
    have hsend : getMeta dex (.ok ()) 0 = sendRequest (.ok ()) (.metas 0) :=
      if_pos (List.length_pos_iff.mpr (hdex rfl))
    unfold download
    rw [hsend]
    exact (returns_sendRequest dexes (.metas 0)).emit trivial
  | done => exact ⟨rfl, (Proc.emits_emit _).mpr trivial⟩
  | spotMeta => exact (returns_sendRequest dexes .spotMeta).emit trivial
  | perpDexs => exact (returns_sendRequest dexes .perpDexs).emit trivial

/-- A state that sends its request returns, if an exchange is listed for the chain. -/
theorem enter_returns (dexes : Nat) (dex : List Dex) (state : State)
    (hstate : state ≠ .undefined) (hdex : state = .metas → dex ≠ []) :
    Returns dexes (enter dex (.ok ()) state) :=
  (download_returns dexes dex state hstate hdex).emit trivial

/-- A reply that every handler accepts. -/
def accepted (items : List GetPerpDexsAckItem) : Reply :=
  ⟨⟨.ok (.ok, .success, ⟨.ok (), .ok items, .ok []⟩)⟩, false, true, .ok ()⟩

/-- There is a reply to `perpDexs` that leaves some dexes, and no more than a bound. -/
theorem exists_perpDexsAck (settings : Settings) {dex : List Dex} (hpos : 0 < dexes)
    (hdexes : dex.length ≤ dexes) :
    ∃ items dex', perpDexsAck settings dex items = .ok dex' ∧ dex' ≠ [] ∧
      dex'.length ≤ dexes := by
  cases dex with
  | nil => exact ⟨[⟨""⟩], [⟨"", assetIdOffset 0⟩], rfl, nofun, hpos⟩
  | cons entry dex => exact ⟨[], entry :: dex, rfl, nofun, hdexes⟩

/-- There is a reply that carries the download on, whichever request it waits for. -/
theorem exists_carriesOn (http : HttpLibrary) (env : MetaEnv) (F : Type) [Double F] (view : View)
    {call : Call} (hpos : 0 < dexes) (hdexes : view.dex.length ≤ dexes)
    (hcall : call.state = view.state)
    (hwithin : ∀ index, call = .metas index → index < view.dex.length) :
    ∃ reply : Reply, reply.skip = false ∧ reply.carriesOn env F view call = true ∧
      Returns dexes (ack http env view reply F call) := by
  cases call with
  | spotMeta =>
    have hcarriesOn : (accepted []).carriesOn env F view .spotMeta = true := rfl
    have hack : ack http env view (accepted []) F .spotMeta = enter view.dex (.ok ()) .perpDexs :=
      getSpotMetaAck_of_carriesOn hcarriesOn hcall.symm
    refine ⟨accepted [], rfl, hcarriesOn, ?_⟩
    rw [hack]
    exact enter_returns dexes view.dex .perpDexs (by decide) (absurd · (by decide))
  | perpDexs =>
    obtain ⟨items, dex, hitems, hdex, hlength⟩ := exists_perpDexsAck env.settings hpos hdexes
    have hcarriesOn : (accepted items).carriesOn env F view .perpDexs = true := by
      simp [Reply.carriesOn, Body.carriesOn, Reply.body?, accepted, hitems, Except.isOk,
        Except.toBool, Except.toOption]
    obtain ⟨_, _, _, dex', hresult, hbody, hdex', hperpDexs⟩ :=
      @getPerpDexsAck_of_carriesOn http env F _ view _ hcarriesOn hcall.symm
    cases hresult
    cases hbody
    obtain rfl : dex = dex' := Except.ok.inj (hitems.symm.trans hdex')
    have hack : ack http env view (accepted items) F .perpDexs = _ := hperpDexs
    refine ⟨accepted items, rfl, hcarriesOn, ?_⟩
    rw [hack]
    exact (enter_returns dexes dex .metas (by decide) fun _ ↦ hdex).emit hlength
  | metas index =>
    have hmeta : (metaAck (F := F) env view.dex index [] view.allSymbols).1 = .ok () := by
      rw [metaAck, List.getElem?_eq_getElem (hwithin index rfl)]
      rfl
    have hcarriesOn : (accepted []).carriesOn env F view (.metas index) = true := by
      simp [Reply.carriesOn, Body.carriesOn, Reply.body?, accepted, hmeta, Except.isOk,
        Except.toBool, Except.toOption]
    obtain ⟨allSymbols, symbols, hack⟩ : ∃ allSymbols symbols,
        ack http env view (accepted []) F (.metas index) = _ :=
      getMetaAck_of_carriesOn hcarriesOn hcall.symm
    refine ⟨accepted [], rfl, hcarriesOn, ?_⟩
    rw [hack]
    refine Returns.emit trivial (Returns.emit trivial ?_)
    split
    · exact returns_sendRequest dexes (.metas (index + 1))
    · exact enter_returns dexes view.dex .done (by decide) (absurd · (by decide))

end Hyperliquid.Gateway.Rest.Stream
