import Hyperliquid.Gateway.Controller
import Hyperliquid.Gateway.Readiness

/-!
# Accesses to the list of dexes

Every chain of requests starts at the first entry of the list and goes on only while there
is a next one, so an access is outside the bounds only if a chain starts while the list is
empty: after a reply of which the settings keep nothing, or when a client has the streams of
the accounts created before the list is known.
-/

namespace Hyperliquid.Gateway

open Hyperliquid.Base Hyperliquid.Web

/-- The failure of the assertion. -/
def indexFailure : Failure Exception := .fatal "index < std::size(shared_.dex)"

private theorem indexFails_eq_false_iff {ω : Type} (handler : Proc ω Exception Unit) :
    Controller.indexFails handler = false ↔ handler.result ≠ .error indexFailure := by
  obtain ⟨events, result⟩ := handler
  rcases result with (e | text) | a
  · exact iff_of_true rfl nofun
  · show (text == "index < std::size(shared_.dex)") = false ↔ _
    rw [beq_eq_false_iff_ne, not_iff_not]
    constructor
    · rintro rfl
      rfl
    · intro h
      exact Failure.fatal.inj (Except.error.inj h)
  · exact iff_of_true rfl nofun

namespace OrderEntry

variable {library : LimitRequest}

/-- A handler does not end with the failed assertion. -/
abbrev Within (x : Proc (Effect library) Exception Unit) : Prop :=
  Proc.Triple (fun (s : Unit) _ ↦ s) (fun _ ↦ True) x (fun _ _ ↦ True)
    (fun failure _ ↦ failure ≠ indexFailure)

private theorem within_pure : Within (pure () : Proc (Effect library) Exception Unit) :=
  Proc.Triple.pure fun _ _ ↦ trivial

private theorem within_emit (effect : Effect library) : Within (Proc.emit effect) :=
  Proc.Triple.emit fun _ _ ↦ trivial

private theorem within_ofThrows (x : Except Exception Unit) :
    Within (Proc.ofThrows x : Proc (Effect library) Exception Unit) :=
  Proc.Triple.ofThrows (fun _ _ _ ↦ trivial) fun _ _ _ ↦ nofun

/-- An exception of a decoder is caught with the others. -/
theorem within_ofExcept (body : Except String Unit) :
    Within (Proc.ofExcept .std body : Proc (Effect library) Exception Unit) :=
  Proc.Triple.ofExcept (fun _ _ _ _ ↦ trivial) fun _ _ _ ↦ nofun

private theorem within_bind {x : Proc (Effect library) Exception Unit}
    {f : Unit → Proc (Effect library) Exception Unit} (hx : Within x) (hf : ∀ a, Within (f a)) :
    Within (x >>= f) :=
  Proc.Triple.bind hx fun a _ ↦ hf a

private theorem within_sendRequest (sent : Except Exception Unit) (call : Call) :
    Within (sendRequest sent call : Proc (Effect library) Exception Unit) :=
  within_bind (within_ofThrows sent) fun _ ↦ within_emit (.send call)

private theorem within_getDex (call : Nat → Call) {dex : List Dex} (sent : Except Exception Unit)
    {index : Nat} (h : index < dex.length) :
    Within (getDex call dex sent index : Proc (Effect library) Exception Unit) := by
  rw [getDex, if_pos h]
  exact within_sendRequest sent (call index)

private theorem within_processResponse (http : HttpLibrary) {reply : Reply}
    {successHandler : Except String Unit → Proc (Effect library) Exception Unit}
    (h : ∀ body, Within (successHandler body)) :
    Within (processResponse http (Proc.emit .suspendFor) reply.response logError
      successHandler) := by
  apply triple_processResponse http
  · exact fun _ _ ↦ trivial
  · exact fun _ _ _ ↦ nofun
  · exact fun _ _ ↦ by simp [indexFailure]
  · exact within_emit .suspendFor
  · exact fun _ _ _ _ ↦ within_pure
  · exact fun _ _ _ _ _ ↦ Proc.Triple.pure fun _ _ ↦ trivial
  · exact fun _ body _ ↦ h body

/-- A reply whose handler only dispatches. -/
theorem within_dispatch (http : HttpLibrary) (reply : Reply) :
    Within (processResponse http (Proc.emit .suspendFor) reply.response logError (fun body ↦ do
      Proc.ofExcept .std body
      Proc.ofThrows reply.dispatched) : Proc (Effect library) Exception Unit) := by
  apply within_processResponse http
  intro body
  exact within_bind (within_ofExcept body) fun _ ↦ within_ofThrows reply.dispatched

/-- The request for the next entry is sent only if there is one. -/
theorem within_getDexAck (http : HttpLibrary) (call : Nat → Call) (name : RequestName)
    (dex : List Dex) (reply : Reply) (index : Nat) :
    Within (getDexAck http call name dex reply index : Proc (Effect library) Exception Unit) := by
  apply within_bind
  · apply within_processResponse http
    intro body
    apply within_bind (within_ofExcept body)
    intro _
    apply within_bind (within_ofThrows reply.dispatched)
    intro _
    split
    · next hindex =>
      apply within_bind (within_emit .notFinished)
      exact fun _ ↦ within_getDex call reply.sent hindex
    · exact within_pure
  · intro _
    split
    · exact within_emit (.commit name)
    · exact within_pure

/-- No reply makes an access outside the bounds, whatever the list is by then. -/
theorem within_ack (http : HttpLibrary) (dex : List Dex) (downloadStaleOrdersCounter : Nat)
    (reply : Reply) (call : Call) :
    Within (ack http dex downloadStaleOrdersCounter reply call :
      Proc (Effect library) Exception Unit) := by
  cases call with
  | spotClearingHouseState =>
    apply within_bind (within_dispatch http reply)
    exact fun _ ↦ within_emit (.commit .spotClearingHouseState)
  | clearingHouseState index => exact within_getDexAck http _ _ dex reply index
  | openOrders index => exact within_getDexAck http _ _ dex reply index
  | orderStatus order =>
    apply within_bind (within_dispatch http reply)
    intro _
    cases downloadStaleOrdersCounter with
    | zero => exact Proc.Triple.fatal fun _ _ ↦ by simp [indexFailure]
    | succ counter =>
      apply within_bind (within_emit .discountOrder)
      intro _
      split
      · exact within_emit (.commit .staleOrders)
      · exact within_pure
  | userFills index => exact within_getDexAck http _ _ dex reply index

section

variable (request : Request library) (inputs : QueueInputs library)

private theorem within_checkPending (name : RequestName)
    {callback : Proc (Effect library) Exception Unit} (h : Within callback) :
    Within (checkPending request inputs name callback) := by
  unfold checkPending
  split
  · exact within_bind (within_emit _) fun _ ↦ h
  · exact within_emit _

private theorem within_requestOrders (orders : List OrderKey) :
    Within (requestOrders inputs orders) := by
  induction orders with
  | nil => exact within_emit .clearStaleOrders
  | cons order orders ih =>
    rw [requestOrders]
    split
    · apply within_bind (within_sendRequest _ _)
      intro _
      exact within_bind (within_emit .countOrder) fun _ ↦ ih
    · exact within_bind within_pure fun _ ↦ ih

/-- The queue starts its chains at the first entry, which there must be. -/
theorem within_checkRequestQueue {dex : List Dex} (h : 0 < dex.length) :
    Within (checkRequestQueue request inputs dex) := by
  apply within_bind (within_checkPending request inputs _ (within_sendRequest _ _))
  intro _
  apply within_bind (within_checkPending request inputs _ (within_getDex _ _ h))
  intro _
  apply within_bind (within_checkPending request inputs _ (within_getDex _ _ h))
  intro _
  apply within_bind (within_checkPending request inputs _ (within_requestOrders inputs _))
  intro _
  exact within_checkPending request inputs _ (within_getDex _ _ h)

end

end OrderEntry

/-- A session whose list is not empty makes no access outside its bounds. -/
theorem Session.within_handler {library : LimitRequest} (http : HttpLibrary)
    {session : Session library} (h : 0 < session.dex.length) (event : Session.Event library) :
    OrderEntry.Within (session.handler http event) := by
  unfold handler
  split
  · split
    · exact OrderEntry.within_checkRequestQueue _ _ h
    · exact Proc.Triple.pure fun _ _ ↦ trivial
  · split
    · exact Proc.Triple.pure fun _ _ ↦ trivial
    · exact OrderEntry.within_ack http _ _ _ _
  · exact Proc.Triple.pure fun _ _ ↦ trivial

/-! ## Failures of the reference data -/

namespace Rest

private theorem eq_of_checkKnown_eq_error {item : GetPerpDexsAckItem} {offset : Int32}
    {dex : List Dex} {failure : Failure String} (h : checkKnown item offset dex = .error failure) :
    failure = .fatal "Unexpected" := by
  induction dex with
  | nil => cases h
  | cons item2 dex ih =>
    rw [checkKnown] at h
    split_ifs at h
    · exact (Except.error.inj h).symm
    · exact ih h
    · exact ih h

/-- The handler of `GetPerpDexsAck` fails only on an entry that has moved. -/
theorem eq_of_perpDexsAck_eq_error {settings : Settings} {dex : List Dex}
    {reply : List GetPerpDexsAckItem} {failure : Failure String}
    (h : perpDexsAck settings dex reply = .error failure) : failure = .fatal "Unexpected" := by
  obtain ⟨dex', entry, hentry⟩ := exists_of_foldlM_eq_error h
  rcases bind_eq_error.mp hentry with hcheck | ⟨_, _, happend⟩
  · exact eq_of_checkKnown_eq_error hcheck
  · split_ifs at happend <;> cases happend

/-- A table that is not there is not an access to the list. -/
theorem ne_of_get_eq_error {F : Type} [Double F] {szDecimals : ℤ} {isSpot : Bool}
    {failure : Failure String}
    (h : Tools.TickSizeSteps.get (F := F) szDecimals isSpot = .error failure) :
    failure ≠ .fatal "index < std::size(shared_.dex)" := by
  have htext : ∀ text, "Unexpected: sz_decimals=" ++ text ≠ "index < std::size(shared_.dex)" := by
    intro text heq
    have hhead := congrArg (fun text ↦ text.toList.head?) heq
    simp at hhead
  have hunknown : ∀ text, failure = .fatal ("Unexpected: sz_decimals=" ++ text) →
      failure ≠ .fatal "index < std::size(shared_.dex)" := by
    rintro text rfl hfailure
    exact htext text (Failure.fatal.inj hfailure)
  unfold Tools.TickSizeSteps.get at h
  split at h
  · split at h <;> cases h
    exact hunknown _ rfl
  · split at h <;> cases h
    exact hunknown _ rfl

/-- The handler of `GetMetaAck` fails with the assertion only on an entry outside the list. -/
theorem ne_of_metaAck_eq_error {F : Type} [Double F] {env : MetaEnv}
    (hcast : ∀ x, env.safeCast.toUInt32 x ≠ .error (.fatal "index < std::size(shared_.dex)"))
    {dex : List Dex} {index : Nat} (hindex : index < dex.length)
    {items : List GetMetaAckUniverseItem} {allSymbols : List String} {failure : Failure String}
    (h : (metaAck (F := F) env dex index items allSymbols).1 = .error failure) :
    failure ≠ .fatal "index < std::size(shared_.dex)" := by
  rw [metaAck, List.getElem?_eq_getElem hindex] at h
  change (publishAll env dex[index] 0 items { allSymbols }).1 = _ at h
  generalize ({ allSymbols } : MetaRun F) = run at h
  generalize 0 = i at h
  induction items generalizing i run with
  | nil => cases h
  | cons item items ih =>
    rw [publishAll] at h
    cases hdata : (referenceData env dex[index] i item : Except _ (ReferenceData F)) with
    | ok data =>
      rw [hdata] at h
      exact ih _ _ h
    | error failure' =>
      rw [hdata] at h
      obtain rfl := Except.error.inj h
      rcases bind_eq_error.mp hdata with hsteps | ⟨steps, _, hrest⟩
      · exact ne_of_get_eq_error hsteps
      · rcases bind_eq_error.mp hrest with hid | ⟨_, _, hpure⟩
        · rintro rfl
          exact hcast _ hid
        · cases hpure

end Rest

/-! ## The gateway -/

namespace Controller

variable {library : LimitRequest} (F : Type) [Double F] (env : ControllerEnv)

/-- The list is known where it is used: by the streams of the accounts, in the state that
downloads its entries, and at the index that a request carries. -/
structure Inv (controller : Controller library) : Prop where
  sessions : controller.sessions ≠ [] → 0 < controller.dex.length
  download : controller.download = .metas → 0 < controller.dex.length
  outstanding : ∀ index, .metas index ∈ controller.outstanding → index < controller.dex.length

/-- The condition on a step: the list is known when a client has the streams of the accounts
created, and it is not empty after the reply that ends the download of the list. -/
def Sound (controller : Controller library) : Event library → Prop
  | .subscribe _ => controller.accounts = 0 ∨ controller.dex ≠ []
  | .restReply position reply =>
    match controller.outstanding[position]?, reply.response.result with
    | some .perpDexs, .ok (_, .success, body) =>
      match body.perpDexs with
      | .ok items =>
        reply.skip = false → reply.leaves = true → controller.download = .perpDexs →
          controller.dex ≠ [] ∨ Rest.kept env.metaEnv.settings items ≠ []
      | .error _ => True
    | _, _ => True
  | _ => True

variable {env}

/-- The invariant, while a handler runs that has read the list. -/
structure At (dex : List Dex) (controller : Controller library) : Prop where
  inv : Inv controller
  dex_eq : controller.dex = dex

/-- A part of a handler of `Rest`, from a given list to a condition: no assertion fails. -/
abbrev Leads (library : LimitRequest) (dex : List Dex) (x : Proc Rest.Effect Exception Unit)
    (Q : Controller library → Prop) : Prop :=
  Proc.Triple apply (At dex) x (fun _ ↦ Q)
    (fun failure controller ↦ Inv controller ∧ failure ≠ indexFailure)

/-- A handler of `Rest` keeps the invariant. -/
abbrev Keeps (library : LimitRequest) (dex : List Dex) (x : Proc Rest.Effect Exception Unit) :
    Prop :=
  Leads library dex x Inv

private theorem keeps_pure (dex : List Dex) :
    Keeps library dex (pure () : Proc Rest.Effect Exception Unit) :=
  Proc.Triple.pure fun _ h ↦ h.inv

/-- An effect that leaves the list as it is. -/
theorem at_emit {dex : List Dex} {effect : Rest.Effect}
    (hdex : ∀ controller : Controller library, (controller.apply effect).dex = controller.dex)
    (hinv : ∀ controller : Controller library, controller.dex = dex → Inv controller →
      Inv (controller.apply effect)) :
    Leads library dex (Proc.emit effect) (At dex) :=
  Proc.Triple.emit fun controller h ↦
    ⟨hinv controller h.dex_eq h.inv, (hdex controller).trans h.dex_eq⟩

private theorem at_publish (dex : List Dex) (status : ConnectionStatus) :
    Leads library dex (Proc.emit (.publish status)) (At dex) :=
  at_emit (fun _ ↦ rfl) fun _ _ h ↦ ⟨h.sessions, h.download, h.outstanding⟩

/-- A request is sent for an entry that the list has. -/
theorem keeps_sendRequest {dex : List Dex} (sent : Except Exception Unit) {call : Rest.Call}
    (h : ∀ index, call = .metas index → index < dex.length) :
    Keeps library dex (Rest.sendRequest sent call) := by
  apply Proc.Triple.ofThrows_bind
  · exact fun _ _ hat ↦ ⟨hat.inv, nofun⟩
  · rintro _ -
    apply Proc.Triple.emit
    intro controller hat
    refine ⟨hat.inv.sessions, hat.inv.download, ?_⟩
    intro index hindex
    rcases List.mem_append.mp hindex with hold | hnew
    · exact hat.inv.outstanding index hold
    · have hcall := h index (List.mem_singleton.mp hnew).symm
      rwa [← hat.dex_eq] at hcall

private theorem keeps_getMeta {dex : List Dex} (sent : Except Exception Unit) {index : Nat}
    (h : index < dex.length) : Keeps library dex (Rest.getMeta dex sent index) := by
  rw [Rest.getMeta, if_pos h]
  apply keeps_sendRequest
  rintro _ ⟨⟩
  exact h

/-- The download calls back for the entries of the list only if there are some. -/
theorem keeps_download {dex : List Dex} (sent : Except Exception Unit) {state : Rest.State}
    (h : state = .metas → 0 < dex.length) :
    Keeps library dex (Rest.download dex sent state) := by
  cases state with
  | undefined => exact Proc.Triple.fatal fun _ hat ↦ ⟨hat.inv, by simp [indexFailure]⟩
  | spotMeta =>
    apply Proc.Triple.bind (at_publish dex .downloading)
    exact fun _ _ ↦ keeps_sendRequest sent nofun
  | perpDexs =>
    apply Proc.Triple.bind (at_publish dex .downloading)
    exact fun _ _ ↦ keeps_sendRequest sent nofun
  | metas =>
    apply Proc.Triple.bind (at_publish dex .downloading)
    exact fun _ _ ↦ keeps_getMeta sent (h rfl)
  | done => exact Proc.Triple.emit fun _ hat ↦ ⟨hat.inv.sessions, hat.inv.download,
      hat.inv.outstanding⟩

private theorem keeps_enter {dex : List Dex} (sent : Except Exception Unit) {state : Rest.State}
    (h : state = .metas → 0 < dex.length) :
    Keeps library dex (Rest.enter dex sent state) := by
  apply Proc.Triple.bind (R := fun _ ↦ At dex)
  · apply at_emit (fun _ ↦ rfl)
    intro controller hdex hinv
    refine ⟨hinv.sessions, ?_, hinv.outstanding⟩
    intro hstate
    show 0 < controller.dex.length
    rw [hdex]
    exact h hstate
  · exact fun _ _ ↦ keeps_download sent h

/-- The download of the entries is entered from the reply with the list. -/
theorem keeps_check {dex : List Dex} (sent : Except Exception Unit) {leaves : Bool}
    {checked current : Rest.State}
    (h : checked = .perpDexs → leaves = true → current = checked → 0 < dex.length) :
    Keeps library dex (Rest.check dex sent leaves checked current) := by
  unfold Rest.check
  split
  · next following hfollowing =>
    split
    · next hleaves =>
      rw [Bool.and_eq_true, decide_eq_true_eq] at hleaves
      apply keeps_enter sent
      rintro rfl
      cases checked <;> cases hfollowing
      exact h rfl hleaves.1 hleaves.2
    · exact keeps_pure dex
  · exact keeps_pure dex

private theorem keeps_processResponse {dex : List Dex} (http : HttpLibrary) {reply : Rest.Reply}
    {successHandler : Rest.Body → Proc Rest.Effect Exception Unit}
    (h : ∀ status body, reply.response.result = .ok (status, .success, body) →
      Keeps library dex (successHandler body)) :
    Keeps library dex (processResponse http (Proc.emit .suspendFor) reply.response
      Rest.handleError successHandler) := by
  apply triple_processResponse http
  · exact fun _ hat ↦ hat.inv
  · exact fun _ _ hat ↦ ⟨hat.inv, nofun⟩
  · exact fun _ hat ↦ ⟨hat.inv, by simp [indexFailure]⟩
  · exact Proc.Triple.emit fun _ hat ↦ hat
  · exact fun _ _ _ _ ↦ keeps_pure dex
  · exact fun _ _ _ _ _ ↦ Proc.Triple.pure fun _ hinv ↦ hinv.1
  · exact h

private theorem keeps_getSpotMetaAck (http : HttpLibrary) (view : Rest.View) (reply : Rest.Reply) :
    Keeps library view.dex (Rest.getSpotMetaAck http view reply) := by
  apply keeps_processResponse http
  intro _ body _
  split
  · exact keeps_pure view.dex
  · apply Proc.Triple.ofExcept_bind
    · exact fun _ _ hat ↦ ⟨hat.inv, nofun⟩
    · exact fun _ _ ↦ keeps_check reply.sent nofun

/-- The list that a reply leaves has at least the entries that it had. -/
theorem inv_setDex {controller : Controller library} (h : Inv controller) {dex : List Dex}
    (hlength : controller.dex.length ≤ dex.length) : Inv (controller.apply (.setDex dex)) where
  sessions hne := Nat.lt_of_lt_of_le (h.sessions hne) hlength
  download hstate := Nat.lt_of_lt_of_le (h.download hstate) hlength
  outstanding index hindex := Nat.lt_of_lt_of_le (h.outstanding index hindex) hlength

private theorem keeps_getPerpDexsAck (http : HttpLibrary) (metaEnv : Rest.MetaEnv)
    (view : Rest.View)
    (reply : Rest.Reply)
    (h : ∀ status body items, reply.response.result = .ok (status, .success, body) →
      body.perpDexs = .ok items → reply.skip = false → reply.leaves = true →
        view.state = .perpDexs → view.dex ≠ [] ∨ Rest.kept metaEnv.settings items ≠ []) :
    Keeps library view.dex (Rest.getPerpDexsAck http metaEnv view reply) := by
  apply keeps_processResponse http
  intro status body hresult
  split
  · exact keeps_pure view.dex
  · next hskip =>
    cases hitems : body.perpDexs with
    | error what => exact Proc.Triple.throw fun _ hat ↦ ⟨hat.inv, nofun⟩
    | ok items =>
      rw [Proc.ofExcept_ok, Proc.pure_bind]
      cases hack : Rest.perpDexsAck metaEnv.settings view.dex items with
      | error failure =>
        rw [Rest.eq_of_perpDexsAck_eq_error hack]
        exact Proc.Triple.fatal fun _ hat ↦ ⟨hat.inv, by simp [indexFailure]⟩
      | ok dex =>
        have hdex := Rest.perpDexsAck_eq_ok metaEnv.settings hack
        have hlength : view.dex.length ≤ dex.length := by
          rw [hdex, List.length_append]
          exact Nat.le_add_right _ _
        show Leads library view.dex (Proc.emit (.setDex dex) >>= fun _ ↦
          Rest.check dex reply.sent reply.leaves .perpDexs view.state) Inv
        apply Proc.Triple.bind (R := fun _ ↦ At dex)
        · exact Proc.Triple.emit fun _ hat ↦ ⟨inv_setDex hat.inv (hat.dex_eq ▸ hlength), rfl⟩
        intro _ _
        apply keeps_check reply.sent
        intro _ hleaves hstate
        have hne := h status body items hresult hitems (Bool.eq_false_of_not_eq_true hskip)
          hleaves hstate
        apply List.length_pos_of_ne_nil
        rw [hdex]
        simpa [or_iff_not_imp_left] using hne

private theorem leads_ofFailure {dex : List Dex} {x : Except (Failure String) Unit}
    (h : ∀ failure, x = .error failure → failure ≠ .fatal "index < std::size(shared_.dex)") :
    Leads library dex (Rest.ofFailure x) (At dex) := by
  rcases x with (what | text) | _
  · exact Proc.Triple.throw fun _ hat ↦ ⟨hat.inv, nofun⟩
  · refine Proc.Triple.fatal fun _ hat ↦ ⟨hat.inv, ?_⟩
    rintro ⟨⟩
    exact h _ rfl rfl
  · exact Proc.Triple.pure fun _ hat ↦ hat

/-- The index of a request is that of an entry, now as when it was sent. -/
theorem keeps_getMetaAck (http : HttpLibrary) {metaEnv : Rest.MetaEnv}
    (hcast : ∀ x, metaEnv.safeCast.toUInt32 x ≠
      .error (.fatal "index < std::size(shared_.dex)"))
    (view : Rest.View) (reply : Rest.Reply) {index : Nat} (hindex : index < view.dex.length) :
    Keeps library view.dex (Rest.getMetaAck http metaEnv view reply F index) := by
  apply keeps_processResponse http
  intro status body _
  split
  · exact keeps_pure view.dex
  · apply Proc.Triple.ofExcept_bind fun _ _ hat ↦ ⟨hat.inv, nofun⟩
    intro items _
    apply Proc.Triple.bind (R := fun _ ↦ At view.dex)
    · exact at_emit (fun _ ↦ rfl) fun _ _ hinv ↦ ⟨hinv.sessions, hinv.download, hinv.outstanding⟩
    intro _ _
    apply Proc.Triple.bind (R := fun _ ↦ At view.dex)
    · exact leads_ofFailure fun _ ↦ Rest.ne_of_metaAck_eq_error hcast hindex
    intro _ _
    apply Proc.Triple.bind (R := fun _ ↦ At view.dex)
    · apply at_emit (fun _ ↦ rfl)
      intro controller hdex hinv
      refine ⟨fun _ ↦ ?_, hinv.download, hinv.outstanding⟩
      show 0 < controller.dex.length
      rw [hdex]
      exact Nat.zero_lt_of_lt hindex
    intro _ _
    split
    · next hnext => exact keeps_getMeta reply.sent hnext
    · exact keeps_check reply.sent nofun

/-- A subscription of a client. It creates the streams of the accounts, if there are any. -/
theorem keeps_subscribe {dex : List Dex} {accounts : Nat} (h : accounts = 0 ∨ dex ≠ [])
    (allSymbols new : List String) :
    Proc.Triple apply
      (fun controller : Controller library ↦ At dex controller ∧ controller.accounts = accounts)
      (do
        Proc.emit (.setAllSymbols allSymbols)
        Proc.emit (.symbolsUpdate new) : Proc Rest.Effect Exception Unit)
      (fun _ ↦ Inv) (fun failure controller ↦ Inv controller ∧ failure ≠ indexFailure) := by
  apply Proc.Triple.bind
    (R := fun _ controller ↦ At dex controller ∧ controller.accounts = accounts)
  · apply Proc.Triple.emit
    rintro controller ⟨⟨hinv, hdex⟩, haccounts⟩
    exact ⟨⟨⟨hinv.sessions, hinv.download, hinv.outstanding⟩, hdex⟩, haccounts⟩
  intro _ _
  apply Proc.Triple.emit
  rintro controller ⟨⟨hinv, rfl⟩, rfl⟩
  refine ⟨?_, hinv.download, hinv.outstanding⟩
  intro hsessions
  show 0 < controller.dex.length
  rcases h with hnone | hne
  · apply hinv.sessions
    rintro hempty
    simp [apply, symbolsUpdate, hempty, hnone] at hsessions
  · exact List.length_pos_of_ne_nil hne

variable (env)

/-- A handler of `Rest` keeps the invariant. -/
theorem Inv.handler {controller : Controller library} (h : Inv controller) {event : Event library}
    (hsound : controller.Sound env event) (hevent : ∀ symbols, event ≠ .subscribe symbols) :
    Keeps library controller.dex (handler F env controller event) := by
  cases event with
  | subscribe symbols => exact absurd rfl (hevent symbols)
  | restConnected sent =>
    show Keeps library controller.dex
      (if controller.downloading then pure () else Rest.enter controller.dex sent .spotMeta)
    split
    · exact keeps_pure _
    · exact keeps_enter sent nofun
  | restDisconnected =>
    apply Proc.Triple.bind (at_publish _ .disconnected)
    intro _ _
    split
    · exact keeps_pure _
    · exact Proc.Triple.emit fun _ hat ↦ ⟨hat.inv.sessions, nofun, hat.inv.outstanding⟩
  | restCallback sent =>
    show Keeps library controller.dex
      (if controller.downloading then Rest.download controller.dex sent controller.download
        else pure ())
    split
    · exact keeps_download sent h.download
    · exact keeps_pure _
  | restReply position reply =>
    unfold Controller.handler
    cases hcall : controller.outstanding[position]? with
    | none =>
      simp only [hcall]
      exact keeps_pure _
    | some call =>
      simp only [hcall]
      cases call with
      | spotMeta => exact keeps_getSpotMetaAck env.http controller.view reply
      | perpDexs =>
        apply keeps_getPerpDexsAck env.http env.metaEnv controller.view reply
        intro status body items hresult hitems
        simpa [Sound, view, hcall, hresult, hitems] using hsound
      | metas index =>
        apply keeps_getMetaAck F env.http env.toUInt32_ne controller.view reply
        exact h.outstanding index (List.mem_of_getElem? hcall)
  | marketDataReady index => exact keeps_pure _
  | marketDataDisconnected index => exact keeps_pure _
  | session account event => exact keeps_pure _

/-- What a handler does to a state that meets its precondition. -/
theorem Inv.perform {P : Controller library → Prop} {x : Proc Rest.Effect Exception Unit}
    {controller : Controller library} (hP : P controller)
    (hx : Proc.Triple apply P x (fun _ ↦ Inv)
      (fun failure controller ↦ Inv controller ∧ failure ≠ indexFailure)) :
    Inv (Controller.perform x controller) ∧ indexFails x = false := by
  rw [indexFails_eq_false_iff]
  unfold Controller.perform
  cases hresult : x.result with
  | ok _ => exact ⟨hx.ok _ _ hP hresult, nofun⟩
  | error failure =>
    obtain ⟨hinv, hne⟩ := hx.error _ _ hP hresult
    refine ⟨?_, fun h ↦ hne (Except.error.inj h)⟩
    cases failure with
    | thrown e => exact hinv
    | fatal text => exact ⟨hinv.sessions, hinv.download, hinv.outstanding⟩

/-- A session has the list of the gateway, which is known when there are sessions. -/
theorem Inv.session? {controller : Controller library} (h : Inv controller) {account : Nat}
    {session : Session library} (hsession : controller.session? account = some session) :
    0 < session.dex.length := by
  obtain ⟨stored, hstored, rfl⟩ := Option.map_eq_some_iff.mp hsession
  apply h.sessions
  rintro hempty
  simp [hempty] at hstored

/-- An event of an account's streams keeps the invariant. -/
theorem Inv.stepSession {controller : Controller library} (h : Inv controller) (account : Nat)
    (event : Session.Event library) :
    Inv (Controller.stepSession env account event controller) := by
  unfold Controller.stepSession
  split
  · exact h
  · exact h
  · refine ⟨fun hne ↦ h.sessions ?_, h.download, h.outstanding⟩
    rintro hempty
    simp [hempty] at hne

/-- One step that meets the condition keeps the invariant and makes no access outside the
bounds. -/
theorem Inv.step {controller : Controller library} (h : Inv controller) {event : Event library}
    (hsound : controller.Sound env event) :
    Inv (step F env controller event) ∧ accessFails F env controller event = false := by
  unfold Controller.step accessFails
  split
  · exact ⟨h, rfl⟩
  · have hat : At controller.dex controller := ⟨h, rfl⟩
    cases event with
    | subscribe symbols =>
      exact Inv.perform ⟨hat, rfl⟩ (keeps_subscribe hsound _ _)
    | restReply position reply =>
      have herased : At controller.dex
          { controller with outstanding := controller.outstanding.eraseIdx position } := by
        refine ⟨⟨h.sessions, h.download, ?_⟩, rfl⟩
        intro index hindex
        exact h.outstanding index (List.mem_of_mem_eraseIdx hindex)
      exact Inv.perform herased (h.handler F env hsound nofun)
    | session account event =>
      refine ⟨h.stepSession env account event, ?_⟩
      show (controller.session? account).any _ = false
      cases hsession : controller.session? account with
      | none => rfl
      | some session =>
        rw [Option.any_some, indexFails_eq_false_iff]
        intro hfails
        exact (session.within_handler env.http (h.session? hsession) event).error () _ trivial
          hfails rfl
    | marketDataReady index => exact ⟨⟨h.sessions, h.download, h.outstanding⟩, rfl⟩
    | marketDataDisconnected index => exact ⟨⟨h.sessions, h.download, h.outstanding⟩, rfl⟩
    | restConnected sent => exact Inv.perform hat (h.handler F env hsound nofun)
    | restDisconnected => exact Inv.perform hat (h.handler F env hsound nofun)
    | restCallback sent => exact Inv.perform hat (h.handler F env hsound nofun)

/-- The invariant holds before anything is downloaded. -/
theorem inv_new (library : LimitRequest) (accounts maxSubscriptionsPerStream : Nat) :
    Inv (new library accounts maxSubscriptionsPerStream) where
  sessions h := absurd rfl h
  download := nofun
  outstanding := nofun

/-- In every run whose steps meet the condition, each access to the list of dexes is inside
its bounds. -/
theorem accesses_within_of_sound (library : LimitRequest)
    (accounts maxSubscriptionsPerStream : Nat) (events : List (Event library))
    (hsound : Run.Along (step F env) (Sound env) (new library accounts maxSubscriptionsPerStream)
      events) :
    Run.Along (step F env) (fun controller event ↦ accessFails F env controller event = false)
      (new library accounts maxSubscriptionsPerStream) events :=
  Run.along_of_invariant Inv (fun _ _ h hsound ↦ (h.step F env hsound).1)
    (fun _ _ h hsound ↦ (h.step F env hsound).2) (inv_new library accounts _) hsound

/-! ## Fixed runs -/

/-- Settings that keep the main exchange alone. -/
def mainOnly : ControllerEnv where
  http := Session.silent
  metaEnv := ⟨⟨"hyperliquid", [], false⟩, 1, fun _ ↦ false, .throwing⟩
  settings := ⟨0, 0⟩
  toUInt32_ne x h := by
    change (if x.toNat < 2 ^ 32 then Except.ok x.toUInt32 else _) = _ at h
    split_ifs at h
    cases h

/-- A reply that is decoded and ends its state. -/
def received (perpDexs : List Rest.GetPerpDexsAckItem) : Rest.Reply :=
  ⟨⟨.ok (.ok, .success, ⟨.ok (), .ok perpDexs, .ok []⟩)⟩, false, true, .ok ()⟩

/-- The download up to the reply with the list. -/
def downloadList (perpDexs : List Rest.GetPerpDexsAckItem) : List (Event oneSlot) :=
  [.restConnected (.ok ()), .restReply 0 (received []), .restReply 0 (received perpDexs)]

/-- The streams of an account become ready and serve the first two slots. -/
def serve : List (Session.Event oneSlot) :=
  [.orderEntryConnected, .dropCopyReady 12, .subscriptionResponse .notification 12,
    .subscriptionResponse .userFundings 12] ++
  Session.fetch Session.success ++ Session.fetch Session.success

/-- A client subscribes, which creates the streams of the account. -/
def subscribeAndServe : List (Event oneSlot) := .subscribe ["BTC"] :: serve.map (.session 0)

/-- A list with one exchange, its meta reply, then a client and the streams of its account. -/
theorem accesses_within_of_sound_once :
    Run.Along (step ℚ mainOnly)
      (fun controller event ↦ accessFails ℚ mainOnly controller event = false) (new oneSlot 1 100)
      (downloadList [⟨""⟩] ++ [.restReply 0 (received [])] ++ subscribeAndServe) :=
  accesses_within_of_sound ℚ mainOnly oneSlot 1 100 _
    ⟨trivial, trivial, fun _ _ _ ↦ .inr (by decide), trivial, .inr (by decide), trivial, trivial,
      trivial, trivial, trivial, trivial, trivial, trivial, trivial, trivial, trivial⟩

/-- The list is accessed although a reply has left it empty, and although a client has
subscribed before any download. -/
theorem access_outside_bounds :
    ¬ Run.Along (step ℚ mainOnly)
        (fun controller event ↦ accessFails ℚ mainOnly controller event = false)
        (new oneSlot 1 100) (downloadList []) ∧
      ¬ Run.Along (step ℚ mainOnly)
        (fun controller event ↦ accessFails ℚ mainOnly controller event = false)
        (new oneSlot 1 100) subscribeAndServe := by
  constructor <;> decide

end Controller

end Hyperliquid.Gateway
