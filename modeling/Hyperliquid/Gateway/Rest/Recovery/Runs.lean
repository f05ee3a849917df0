import Hyperliquid.Base.Rank
import Hyperliquid.Gateway.Rest.Recovery.CarriesOn
import Mathlib.Data.Finset.Card

/-!
# The recovery of the download

Each step of the stream of `src/roq/hyperliquid/gateway/rest.cpp:174–231, 416–468` carries the
download of reference data on, throws it back or leaves it; from what one step does follows what
runs with any replies, retries and lost connections do.
-/

namespace Hyperliquid.Gateway.Rest.Stream

open Hyperliquid.Base Hyperliquid.Web

/-! ## Steps -/

/-- The cost of the state, less the requests of the chain that have been answered. -/
theorem Awaits.rank (dexes : Nat) {call : Call} {stream : Stream} (h : Awaits call stream) :
    stream.rank dexes = cost dexes call.state - call.index?.getD 0 :=
  rank_of_waiting dexes h.waiting h.state_eq.symm

/-- The cost of the state. -/
theorem Arrived.rank (dexes : Nat) {state : State} {stream : Stream} (h : Arrived state stream) :
    stream.rank dexes = cost dexes state := by
  cases state with
  | undefined => exact h.elim
  | done => exact if_pos h.1
  | _ => exact Awaits.rank dexes h

/-- A step that keeps the invariant and is paid for: it lowers the rank if it is due, and raises
it only if it is a setback. -/
structure Pays (dexes : Nat) (due setback : Bool) (stream stream' : Stream) : Prop where
  steady : Steady stream'
  rank_le : stream'.rank dexes + due.toNat ≤ stream.rank dexes + (dexes + 4) * setback.toNat

/-- A setback pays for any state. -/
theorem pays_setback {dexes : Nat} {stream stream' : Stream} (h : Steady stream') :
    Pays dexes false true stream stream' where
  steady := h
  rank_le := by
    have := stream'.rank_le dexes
    rw [Bool.toNat_false, Bool.toNat_true]
    omega

private theorem pays_same {dexes : Nat} {stream stream' : Stream} (h : Steady stream')
    (hrank : stream'.rank dexes = stream.rank dexes) : Pays dexes false false stream stream' where
  steady := h
  rank_le := by rw [hrank, Bool.toNat_false, Nat.mul_zero]

private theorem pays_due {dexes : Nat} {stream stream' : Stream} (h : Steady stream')
    (hrank : stream'.rank dexes < stream.rank dexes) : Pays dexes true false stream stream' where
  steady := h
  rank_le := by
    rw [Bool.toNat_false, Bool.toNat_true, Nat.mul_zero]
    exact hrank

/-- A handler that does not end the process leaves what its effects do. -/
theorem perform_eq_foldl {index : Option Nat} {entered : Option UInt32}
    {x : Proc Effect Exception Unit} {stream : Stream}
    (hended : (perform index entered x stream).ended = false) :
    perform index entered x stream = x.events.foldl (apply index entered) stream ∧
      ∀ text, x.result ≠ .error (.fatal text) := by
  unfold perform at hended ⊢
  dsimp only at hended ⊢
  split at hended
  · cases hended
  · next hfatal => exact ⟨rfl, hfatal⟩

section

variable {index : Option Nat} {entered : Option UInt32} {P Q : Stream → Prop}
  {x : Proc Effect Exception Unit} {stream : Stream}

private theorem steady_perform (hx : Guides index entered P x Q)
    (hQ : ∀ stream, Q stream → Steady stream)
    (h : P stream) (hended : (perform index entered x stream).ended = false) :
    Steady (perform index entered x stream) := by
  obtain ⟨hperform, hfatal⟩ := perform_eq_foldl hended
  rw [hperform]
  cases hresult : x.result with
  | ok _ => exact hQ _ (hx.ok stream () h hresult)
  | error failure =>
    have hcaught := hx.error stream failure h hresult
    cases failure with
    | thrown e => exact hcaught
    | fatal text => exact absurd hresult (hfatal text)

/-- A handler that neither throws nor ends the process returns. -/
theorem post_perform (hx : Guides index entered P x Q) (h : P stream)
    (hended : (perform index entered x stream).ended = false)
    (hthrown : ∀ e, x.result ≠ .error (.thrown e)) : Q (perform index entered x stream) := by
  obtain ⟨hperform, hfatal⟩ := perform_eq_foldl hended
  rw [hperform]
  cases hresult : x.result with
  | ok _ => exact hx.ok stream () h hresult
  | error failure =>
    cases failure with
    | thrown e => exact absurd hresult (hthrown e)
    | fatal text => exact absurd hresult (hfatal text)

end

section

variable {http : HttpLibrary} {env : MetaEnv} {F : Type} [Double F] {dexes : Nat}
  {stream : Stream}

private theorem pays_sequenceChanged (h : Steady stream) {sequence : UInt32}
    (hfresh : stream.calls sequence = []) :
    Pays dexes (due env F stream (.sequenceChanged sequence))
      (setback env F stream (.sequenceChanged sequence)) stream
      { stream with sequence, started := false, processed := [] } := by
  have hwaiting : ({ stream with sequence, started := false, processed := [] } :
      Stream).waiting = [] := hfresh
  have hsteady : Steady { stream with sequence, started := false, processed := [] } :=
    steady_of_waiting_nil hwaiting h.listed h.ready
  dsimp only [due, setback]
  cases hnil : stream.waiting with
  | cons call calls =>
    rw [List.isEmpty_cons, Bool.and_false]
    exact pays_setback hsteady
  | nil =>
    rw [List.isEmpty_nil, Bool.and_true]
    by_cases hstate : stream.state = .done
    · rw [show (stream.state ≠ .done && stream.started : Bool) = false by simp [hstate]]
      refine pays_same hsteady (Eq.trans ?_ (rank_of_done dexes hstate).symm)
      exact if_pos hstate
    · have hrank := rank_of_waiting_nil dexes hstate hnil
      have hrank' := @rank_of_waiting_nil dexes
        { stream with sequence, started := false, processed := [] } hstate hwaiting
      cases hstarted : stream.started with
      | false =>
        rw [Bool.and_false]
        refine pays_same hsteady ?_
        rw [hrank', hrank, hstarted]
      | true =>
        rw [show (stream.state ≠ .done && true : Bool) = true by simp [hstate]]
        refine pays_due hsteady ?_
        rw [hrank', hrank, hstarted]
        exact Nat.lt_succ_self _

/-- The download begins, unless it is running. -/
theorem pays_connected (h : Steady stream) (sent : Except Exception Unit)
    (htrusted : stream.Trusted (.connected sent))
    (hended : (perform none none (stream.handler http env F (.connected sent)) stream).ended =
      false) :
    Pays dexes (due env F stream (.connected sent)) (setback env F stream (.connected sent)) stream
      (perform none none (stream.handler http env F (.connected sent)) stream) := by
  dsimp only [handler, due, setback] at hended ⊢
  cases hdownloading : stream.downloading with
  | true =>
    have hstate : stream.state ≠ .undefined := by
      intro hstate
      rw [downloading, hstate] at hdownloading
      cases hdownloading
    rw [decide_eq_false hstate]
    exact pays_same h rfl
  | false =>
    have hstarted : stream.started = false := by
      rcases htrusted with hrunning | hstarted
      · cases hdownloading.symm.trans hrunning
      · exact hstarted
    have hmay := mayEnter_none rfl (h.unstarted hstarted)
    rw [hdownloading, if_neg Bool.false_ne_true] at hended
    rw [if_neg Bool.false_ne_true, Bool.not_false, Bool.true_and]
    cases hdue : (decide (stream.state = .undefined) && sent.isOk) with
    | false =>
      apply pays_setback
      exact steady_perform (guides_enter stream.dex sent .spotMeta) (fun _ ↦ Arrived.steady) hmay
        hended
    | true =>
      obtain ⟨hstate, hsent⟩ := Bool.and_eq_true_iff.mp hdue
      rw [decide_eq_true_eq] at hstate
      obtain rfl := eq_ok_of_isOk hsent
      have harrived := post_perform (guides_enter stream.dex (.ok ()) .spotMeta) hmay hended
        (enter_not_thrown stream.dex .spotMeta)
      apply pays_due harrived.steady
      rw [harrived.rank, rank_of_waiting_nil dexes (by rw [hstate]; decide) hmay.waiting, hstate,
        hstarted]
      exact Nat.lt_succ_self _

/-- The download is reset, unless it is running. -/
theorem pays_disconnected (h : Steady stream) :
    Pays dexes (due env F stream .disconnected) (setback env F stream .disconnected) stream
      (perform none none (stream.handler http env F .disconnected) stream) := by
  dsimp only [handler, due, setback]
  cases hdownloading : stream.downloading with
  | true =>
    refine pays_same ⟨h.waits, h.within, h.unstarted, h.listed, ?_⟩ rfl
    intro hdone
    rw [downloading, show stream.state = .done from hdone] at hdownloading
    cases hdownloading
  | false =>
    have hwaiting := h.waiting_of_not_downloading hdownloading
    apply pays_setback
    refine Idle.steady (?_ : Idle .undefined stream.dex _) (by decide) (absurd · (by decide))
    exact @MayEnter.enter none none .undefined stream.dex { stream with status := .disconnected }
      (mayEnter_none rfl hwaiting)

/-- The download starts its state anew. -/
theorem pays_callback (h : Steady stream) (sent : Except Exception Unit)
    (hstarted : stream.started = false)
    (hended : (perform none none (stream.handler http env F (.callback sent))
      { stream with started := true }).ended = false) :
    Pays dexes (due env F stream (.callback sent)) (setback env F stream (.callback sent)) stream
      (perform none none (stream.handler http env F (.callback sent))
        { stream with started := true }) := by
  have hwaiting := h.unstarted hstarted
  dsimp only [handler, due, setback] at hended ⊢
  cases hdownloading : stream.downloading with
  | false =>
    exact pays_setback (steady_of_waiting_nil hwaiting h.listed h.ready)
  | true =>
    have hidle : Idle stream.state stream.dex { stream with started := true } :=
      ⟨rfl, rfl, rfl, hwaiting⟩
    have hguides : ∀ sent, Guides none none (Idle stream.state stream.dex)
        (Rest.download stream.dex sent stream.state) (Arrived stream.state) :=
      fun sent ↦ guides_download stream.dex sent stream.state
    rw [hdownloading, if_pos rfl] at hended
    rw [if_pos rfl, Bool.true_and]
    cases hsent : sent.isOk with
    | false =>
      exact pays_setback (steady_perform (hguides sent) (fun _ ↦ Arrived.steady) hidle hended)
    | true =>
      obtain rfl := eq_ok_of_isOk hsent
      have harrived := post_perform (hguides (.ok ())) hidle hended
        (download_not_thrown stream.dex stream.state)
      apply pays_due harrived.steady
      have hdone : stream.state ≠ .done := by
        intro hdone
        rw [downloading, hdone] at hdownloading
        cases hdownloading
      rw [harrived.rank, rank_of_waiting_nil dexes hdone hwaiting]
      omega

/-- What the effects of a skipped reply leave. -/
theorem foldl_suspendFor {index : Option Nat} {entered : Option UInt32} {effects : List Effect}
    (h : ∀ effect ∈ effects, effect = .suspendFor) (stream : Stream) :
    effects.foldl (apply index entered) stream = stream := by
  induction effects with
  | nil => rfl
  | cons effect effects ih =>
    rw [List.forall_mem_cons] at h
    obtain ⟨rfl, heffects⟩ := h
    exact ih heffects

section

variable {position : Nat} {request : Request} {reply : Reply} {entered : Option UInt32}

/-- A reply to a request of another sequence leaves the download. -/
theorem pays_reply_of_ne (h : Steady stream)
    (hrequest : stream.outstanding[position]? = some request)
    (hsequence : request.sequence ≠ stream.sequence) (hskip : reply.skip = true)
    (hended : (perform request.call.index? entered (ack http env stream.view reply F request.call)
      (stream.answered position)).ended = false) :
    Pays dexes false false stream
      (perform request.call.index? entered (ack http env stream.view reply F request.call)
        (stream.answered position)) := by
  rw [(perform_eq_foldl hended).1,
    foldl_suspendFor (emits_ack_of_skip hskip request.call).forall_mem]
  have hwaiting := waiting_answered_of_ne h hrequest hsequence
  apply pays_same
  · refine ⟨?_, ?_, ?_, h.listed, h.ready⟩
    · rw [hwaiting]
      exact h.waits
    · rw [hwaiting]
      exact h.within
    · rw [hwaiting]
      exact h.unstarted
  · unfold Stream.rank
    rw [hwaiting]
    rfl

/-- The reply that carries the download on leaves it at the next request, or at its end. -/
theorem rank_of_carriesOn {call : Call} {view : View} (hcall : call.state = view.state)
    (hwithin : ∀ index, call = .metas index → index < dexes)
    (hanswered : Answered entered call view.dex stream)
    (hcarriesOn : reply.carriesOn env F view call = true)
    (hended : (perform call.index? entered (ack http env view reply F call) stream).ended = false) :
    (perform call.index? entered (ack http env view reply F call) stream).rank dexes <
      cost dexes call.state - call.index?.getD 0 := by
  cases call with
  | spotMeta =>
    have hack : ack http env view reply F .spotMeta = enter view.dex (.ok ()) .perpDexs :=
      getSpotMetaAck_of_carriesOn hcarriesOn hcall.symm
    rw [hack] at hended ⊢
    have harrived := post_perform (guides_enter view.dex (.ok ()) .perpDexs) hanswered.mayEnter
      hended (enter_not_thrown view.dex .perpDexs)
    rw [harrived.rank]
    exact Nat.lt_succ_self _
  | perpDexs =>
    obtain ⟨_, _, _, dex, _, _, _, hperpDexs⟩ :=
      getPerpDexsAck_of_carriesOn (F := F) hcarriesOn hcall.symm
    have hack : ack http env view reply F .perpDexs = _ := hperpDexs
    rw [hack] at hended ⊢
    have hguides : Guides (Call.index? .perpDexs) entered (Answered entered .perpDexs view.dex)
        (Proc.emit (.setDex dex) >>= fun _ ↦ enter dex (.ok ()) .metas) (Arrived .metas) := by
      apply Proc.Triple.bind (R := fun _ ↦ MayEnter entered dex)
      · exact Proc.Triple.emit fun _ h ↦ ⟨rfl, h.idle.waiting, h.fresh⟩
      · exact fun _ _ ↦ guides_enter dex (.ok ()) .metas
    have harrived := post_perform hguides hanswered hended (enter_not_thrown dex .metas)
    rw [harrived.rank]
    exact Nat.lt_succ_self _
  | metas index =>
    obtain ⟨allSymbols, symbols, hack⟩ : ∃ allSymbols symbols,
        ack http env view reply F (.metas index) = _ :=
      getMetaAck_of_carriesOn hcarriesOn hcall.symm
    rw [hack] at hended ⊢
    have hindex := hwithin index rfl
    by_cases hnext : index + 1 < view.dex.length
    · rw [if_pos hnext] at hended ⊢
      have hsend : Guides (Call.index? (.metas index)) entered
          (Answered entered (.metas index) view.dex) (sendRequest (.ok ()) (.metas (index + 1)))
          (Awaits (.metas (index + 1))) :=
        (guides_sendRequest (.ok ()) rfl fun _ heq ↦ Call.metas.inj heq ▸ hnext).pre
          fun _ h ↦ h.idle
      have hawaits := post_perform (guides_symbols allSymbols symbols hsend) hanswered hended nofun
      rw [hawaits.rank]
      exact Nat.sub_succ_lt_self dexes index hindex
    · rw [if_neg hnext] at hended ⊢
      have henter : Guides (Call.index? (.metas index)) entered
          (Answered entered (.metas index) view.dex) (enter view.dex (.ok ()) .done)
          (Arrived .done) :=
        (guides_enter view.dex (.ok ()) .done).pre fun _ h ↦ h.mayEnter
      have harrived := post_perform (guides_symbols allSymbols symbols henter) hanswered hended
        (enter_not_thrown view.dex .done)
      rw [harrived.rank]
      exact Nat.sub_pos_of_lt hindex

/-- Every reply: one to the request that the download waits for carries it on or is a setback. -/
theorem pays_reply (h : Steady stream) (hdexes : stream.dex.length ≤ dexes)
    (hrequest : stream.outstanding[position]? = some request)
    (htrusted : stream.Trusted (.reply position reply entered))
    (hended : (perform request.call.index? entered (ack http env stream.view reply F request.call)
      (stream.answered position)).ended = false) :
    Pays dexes (due env F stream (.reply position reply entered))
      (setback env F stream (.reply position reply entered)) stream
      (perform request.call.index? entered (ack http env stream.view reply F request.call)
        (stream.answered position)) := by
  obtain ⟨hskip, hfresh⟩ := htrusted
  dsimp only [due, setback]
  rw [hrequest, Option.any_some, Option.any_some]
  by_cases hsequence : request.sequence = stream.sequence
  · obtain ⟨hwaiting, hcall, hnone⟩ := h.answered hrequest hsequence
    have hstarted : stream.started = true := by
      by_contra hstarted
      rw [h.unstarted (Bool.eq_false_of_not_eq_true hstarted)] at hwaiting
      cases hwaiting
    have hanswered : Answered entered request.call stream.view.dex (stream.answered position) := by
      refine ⟨⟨hcall.symm, rfl, hstarted, hnone⟩, ?_, ?_⟩
      · exact fun sequence hmem ↦ calls_answered hrequest (hfresh sequence hmem)
      · exact fun hmetas ↦ h.listed (hcall.symm.trans hmetas)
    have hsteady := steady_perform (guides_ack http env F stream.view reply request.call)
      (fun _ hsteady ↦ hsteady) hanswered hended
    rw [decide_eq_true hsequence, Bool.true_and, Bool.true_and]
    cases hcarriesOn : reply.carriesOn env F stream.view request.call with
    | false => exact pays_setback hsteady
    | true =>
      apply pays_due hsteady
      rw [rank_of_waiting dexes hwaiting hcall]
      apply rank_of_carriesOn hcall _ hanswered hcarriesOn hended
      intro index hindex
      refine Nat.lt_of_lt_of_le (h.within index ?_) hdexes
      rw [hwaiting, hindex]
      exact List.mem_singleton_self _
  · rw [decide_eq_false hsequence, Bool.false_and, Bool.false_and]
    exact pays_reply_of_ne h hrequest hsequence (hskip request hrequest hsequence) hended

end

/-- Every sound step is paid for. -/
theorem pays_step (h : Steady stream) (hrunning : stream.ended = false)
    (hdexes : stream.dex.length ≤ dexes) {event : Event}
    (hsound : Sound http env F dexes stream event) :
    Pays dexes (due env F stream event) (setback env F stream event) stream
      (stream.step http env F event) := by
  obtain ⟨htrusted, hended, _⟩ := hsound
  have hnot : ¬ stream.ended = true := by
    rw [hrunning]
    exact Bool.false_ne_true
  unfold Stream.step at hended ⊢
  rw [if_neg hnot] at hended ⊢
  cases event with
  | sequenceChanged sequence => exact pays_sequenceChanged (F := F) h htrusted
  | allSymbolsChanged allSymbols =>
    exact pays_same ⟨h.waits, h.within, h.unstarted, h.listed, h.ready⟩ rfl
  | connected sent => exact pays_connected h sent htrusted hended
  | disconnected => exact pays_disconnected h
  | callback sent => exact pays_callback h sent htrusted hended
  | reply position reply entered =>
    dsimp only [handler] at hended ⊢
    cases hrequest : stream.outstanding[position]? with
    | none =>
      dsimp only [due, setback]
      rw [hrequest]
      exact pays_same h rfl
    | some request =>
      rw [hrequest] at hended
      exact pays_reply h hdexes hrequest htrusted hended

/-- What holds between the steps of a run. -/
structure Running (dexes : Nat) (stream : Stream) : Prop where
  steady : Steady stream
  ended : stream.ended = false
  dexes : stream.dex.length ≤ dexes

/-- The steps that carry the download on are paid by its rank and by the setbacks. -/
theorem recovers (http : HttpLibrary) (env : MetaEnv) (F : Type) [Double F] (dexes : Nat) :
    Run.Recovers (step http env F) (due env F) (setback env F) (Running dexes)
      (Sound http env F dexes) (rank dexes) (dexes + 4) where
  inv _ _ h hsound := ⟨(pays_step h.steady h.ended h.dexes hsound).steady, hsound.2.1, hsound.2.2⟩
  le _ _ h hsound := (pays_step h.steady h.ended h.dexes hsound).rank_le

/-! ## What the download waits for -/

/-- A sequence that no request in flight has captured. -/
theorem exists_fresh (h : stream.outstanding.length < 2 ^ 32) :
    ∃ sequence, stream.calls sequence = [] := by
  let captured := (stream.outstanding.map fun request ↦ request.sequence.toNat).toFinset
  have hcard : captured.card < (Finset.range (2 ^ 32)).card := by
    rw [Finset.card_range]
    refine Nat.lt_of_le_of_lt (List.toFinset_card_le _) ?_
    rwa [List.length_map]
  obtain ⟨n, hn, hfresh⟩ := Finset.exists_mem_notMem_of_card_lt_card hcard
  refine ⟨UInt32.ofNat n, List.filterMap_eq_nil_iff.mpr ?_⟩
  intro request hrequest
  apply if_neg
  intro hsequence
  apply hfresh
  rw [List.mem_toFinset]
  refine List.mem_map.mpr ⟨request, hrequest, ?_⟩
  rw [hsequence]
  exact UInt32.toNat_ofNat_of_lt' (Finset.mem_range.mp hn)

/-- A handler that returns keeps the process running, and the list of dexes within its bound. -/
theorem running_perform {index : Option Nat} {entered : Option UInt32}
    {x : Proc Effect Exception Unit} (hx : Returns dexes x) (hended : stream.ended = false)
    (hdexes : stream.dex.length ≤ dexes) :
    (perform index entered x stream).ended = false ∧
      (perform index entered x stream).dex.length ≤ dexes := by
  unfold perform
  dsimp only
  rw [hx.result]
  refine List.foldlRecOn (motive := fun stream : Stream ↦
    stream.ended = false ∧ stream.dex.length ≤ dexes) x.events _ ⟨hended, hdexes⟩ ?_
  intro stream h effect heffect
  cases effect with
  | setDex dex => exact ⟨h.1, hx.emits.forall_mem _ heffect⟩
  | enter state => cases entered <;> exact h
  | _ => exact h

/-- A download that is not at its end waits for a step that can happen. -/
theorem exists_due (http : HttpLibrary) (env : MetaEnv) (F : Type) [Double F]
    (h : Running dexes stream) (hpos : 0 < dexes) (hdone : stream.state ≠ .done)
    (hlength : stream.outstanding.length < 2 ^ 32) :
    ∃ event, Sound http env F dexes stream event ∧ due env F stream event = true ∧
      setback env F stream event = false := by
  have hnot : ¬ stream.ended = true := by
    rw [h.ended]
    exact Bool.false_ne_true
  rcases h.steady.waits with hnil | ⟨call, hwaiting, hcall⟩
  -- Without a request in flight, the next step is up to the download or to the connection.
  · cases hstarted : stream.started with
    | true =>
      -- The state has lost its request, so that it must be retried under a fresh sequence.
      obtain ⟨sequence, hfresh⟩ := exists_fresh hlength
      refine ⟨.sequenceChanged sequence, ⟨hfresh, ?_⟩, ?_, ?_⟩
      · unfold Stream.step
        rw [if_neg hnot]
        exact ⟨h.ended, h.dexes⟩
      · simp [due, hdone, hstarted, hnil]
      · simp [setback, hnil]
    | false =>
      by_cases hundefined : stream.state = .undefined
      · have hdownloading : stream.downloading = false := by
          rw [downloading, hundefined]
          rfl
        have hreturns := enter_returns dexes stream.dex .spotMeta (by decide) (absurd · (by decide))
        refine ⟨.connected (.ok ()), ⟨.inr hstarted, ?_⟩, ?_, ?_⟩
        · unfold Stream.step
          rw [if_neg hnot]
          dsimp only [handler]
          rw [hdownloading, if_neg Bool.false_ne_true]
          exact running_perform hreturns h.ended h.dexes
        · simp [due, hundefined, Except.isOk, Except.toBool]
        · simp [setback, hundefined, Except.isOk, Except.toBool]
      · have hdownloading : stream.downloading = true := by
          simp [downloading, hundefined, hdone]
        have hreturns :=
          download_returns dexes stream.dex stream.state hundefined h.steady.listed
        refine ⟨.callback (.ok ()), ⟨hstarted, ?_⟩, ?_, ?_⟩
        · unfold Stream.step
          rw [if_neg hnot]
          dsimp only [handler]
          rw [hdownloading, if_pos rfl]
          exact running_perform hreturns h.ended h.dexes
        · simp [due, hdownloading, Except.isOk, Except.toBool]
        · simp [setback, hdownloading, Except.isOk, Except.toBool]
  -- Otherwise it is the reply, and an accepted one exists.
  · have hmem : call ∈ stream.waiting := by
      rw [hwaiting]
      exact List.mem_singleton_self _
    obtain ⟨request, hrequest, hcalled⟩ := List.mem_filterMap.mp hmem
    obtain ⟨hsequence, hsome⟩ := Option.ite_none_right_eq_some.mp hcalled
    obtain rfl := Option.some.inj hsome
    obtain ⟨position, hposition⟩ := List.mem_iff_getElem?.mp hrequest
    obtain ⟨reply, hskip, hcarriesOn, hreturns⟩ := exists_carriesOn http env F
      stream.view hpos h.dexes hcall fun index hindex ↦
        h.steady.within index (by rw [← hindex]; exact hmem)
    refine ⟨.reply position reply none, ⟨⟨?_, ?_⟩, ?_⟩, ?_, ?_⟩
    · intro request' hrequest' hne
      cases hposition.symm.trans hrequest'
      exact absurd hsequence hne
    · rintro _ ⟨⟩
    · unfold Stream.step
      rw [if_neg hnot]
      dsimp only [handler]
      rw [hposition]
      exact running_perform hreturns h.ended h.dexes
    · simp [due, hposition, hsequence, hcarriesOn]
    · simp [setback, hposition, hcarriesOn]

end

/-- In every run, whatever replies, requests and connections do: the steps that carry the download
on are bounded by the setbacks, and as long as it has not published READY it waits for such a step,
which can happen. -/
theorem recovers_run (http : HttpLibrary) (env : MetaEnv) (F : Type) [Double F] {dexes : Nat}
    (hpos : 0 < dexes) (sequence : UInt32) (events : List Event)
    (hsound : Run.Along (step http env F) (Sound http env F dexes) (new sequence) events) :
    let final := events.foldl (step http env F) (new sequence)
    let bound := dexes + 3 +
      (dexes + 4) * Run.count (step http env F) (setback env F) (new sequence) events
    Run.count (step http env F) (due env F) (new sequence) events ≤ bound ∧
    (final.state = .done → final.status = .ready) ∧
    (final.state ≠ .done →
      Run.count (step http env F) (due env F) (new sequence) events < bound ∧
      (final.outstanding.length < 2 ^ 32 → ∃ event, Sound http env F dexes final event ∧
        due env F final event = true ∧ setback env F final event = false)) := by
  intro final bound
  have hrecovers := recovers http env F dexes
  have hstart : Running dexes (new sequence) := ⟨steady_new sequence, rfl, Nat.zero_le _⟩
  have hfinal : Running dexes final :=
    Run.invariant_foldl (Running dexes) hrecovers.inv hstart hsound
  have hrun : final.rank dexes + Run.count (step http env F) (due env F) (new sequence) events ≤
      bound := hrecovers.run hstart hsound
  refine ⟨Nat.le_trans (Nat.le_add_left _ _) hrun, hfinal.steady.ready, fun hdone ↦ ⟨?_, ?_⟩⟩
  · have hrank := hfinal.steady.rank_pos hfinal.dexes hdone
    omega
  · exact exists_due http env F hfinal hpos hdone

/-- The first reply fails, the chain is retried after its first reply, and the reply to its second
request comes late. -/
def setBack : List Event :=
  [.connected (.ok ()), .reply 0 ⟨⟨.error (.std "")⟩, false, true, .ok ()⟩ none,
    .sequenceChanged 1, .callback (.ok ()), .reply 0 (success false) none,
    .reply 0 (success false) none, .reply 0 (success false) none, .sequenceChanged 2,
    .callback (.ok ()), .reply 0 (success true) none, .reply 0 (success false) none]

/-- A download that is set back and is not at its end yet. -/
theorem recovers_run_setBack :
    let final := setBack.foldl (step ⟨fun _ ↦ "", fun _ ↦ .std ""⟩ oneMore ℚ) (new 0)
    final.processed = [0] ∧ final.state = .metas ∧
      ∃ event, Sound ⟨fun _ ↦ "", fun _ ↦ .std ""⟩ oneMore ℚ 2 final event ∧
        due oneMore ℚ final event = true ∧ setback oneMore ℚ final event = false := by
  refine ⟨by decide, by decide, ?_⟩
  refine ((recovers_run ⟨fun _ ↦ "", fun _ ↦ .std ""⟩ oneMore ℚ (by decide) 0 setBack
    (by decide)).2.2 (by decide)).2 (by decide)

end Hyperliquid.Gateway.Rest.Stream
