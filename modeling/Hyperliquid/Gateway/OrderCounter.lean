import Hyperliquid.Gateway.Readiness
import Mathlib.Data.List.Perm.Basic
import Mathlib.Tactic.ByContra

/-!
# The counter of the stale orders

`download_stale_orders_counter_` is raised in a loop that an exception can leave, and lowered
by a handler that runs after failed replies too: `src/roq/hyperliquid/gateway/order_entry.cpp`.
In every run of a session it is the number of order status requests without a reply.
-/

namespace Hyperliquid.Gateway

open Hyperliquid.Base

namespace Session

variable {library : LimitRequest}

/-- The number of order status requests that have been sent and not answered. -/
def unanswered (session : Session library) : Nat :=
  session.outstanding.countP fun waiting ↦ waiting.call.name = .staleOrders

/-- The counter is the number of order status requests without a reply. -/
def Counted (session : Session library) : Prop :=
  session.downloadStaleOrdersCounter = session.unanswered

end Session

namespace OrderEntry

variable {library : LimitRequest} (http : HttpLibrary)

/-- A response that only dispatches is processed to the end, unless it is a redirection. -/
theorem processResponse_dispatch_result (reply : Reply) (h : reply.redirected = false) :
    (processResponse http (Proc.emit .suspendFor) reply.response logError fun body ↦ do
      Proc.ofExcept .std body
      Proc.ofThrows reply.dispatched : Proc (Effect library) Web.Exception Unit).result =
        .ok () := by
  apply Proc.catchThrown_result
  · intro e
    cases e <;> rfl
  obtain ⟨⟨result⟩, dispatched, sent⟩ := reply
  cases result with
  | error e => exact nofun
  | ok parts =>
    obtain ⟨status, category, body⟩ := parts
    have hexpect : ∀ text, (expectOk http status : Proc (Effect library) Web.Exception
        Unit).result ≠ .error (.fatal text) := by
      unfold expectOk
      split <;> exact nofun
    cases category with
    | unknown => exact hexpect
    | informationalResponse => exact hexpect
    | success => cases body <;> cases dispatched <;> exact nofun
    | redirection => cases h
    | clientError =>
      intro text
      show (ite _ _ _ : Proc (Effect library) Web.Exception Unit).result ≠ _
      split <;> exact nofun
    | serverError => exact nofun

/-- An effect that does not concern the stale orders. -/
def Elsewhere : Effect library → Prop
  | .suspendFor => True
  | .send call => call.name ≠ .staleOrders
  | .notFinished => True
  | .checkPending name _ _ => name ≠ .staleOrders
  | .commit name => name ≠ .staleOrders
  | _ => False

/-- A condition that effects elsewhere keep. -/
def OfOrders (torn : Bool) (P : Session library → Prop) : Prop :=
  ∀ session effect, P session → Elsewhere effect → P (session.apply torn effect)

/-- How a handler fails that keeps a condition: never because of the counter. -/
def Fails (P : Session library → Prop) : Failure Web.Exception → Session library → Prop
  | .thrown _, session => P session
  | .fatal text, _ => text ≠ "Unexpected"

section Elsewhere

variable {torn : Bool} {P : Session library → Prop}

private theorem triple_sendRequest (hP : OfOrders torn P) (sent : Except Web.Exception Unit)
    (call : Call)
    (hcall : call.name ≠ .staleOrders) :
    Proc.Triple (Session.apply torn) P (sendRequest sent call) (fun _ ↦ P) (Fails P) := by
  apply Proc.Triple.ofThrows_bind fun _ _ h ↦ h
  exact fun _ _ ↦ Proc.Triple.emit fun session h ↦ hP session _ h hcall

private theorem triple_getDex (hP : OfOrders torn P) (call : Nat → Call) (dex : List Dex)
    (sent : Except Web.Exception Unit) (index : Nat) (hcall : (call index).name ≠ .staleOrders) :
    Proc.Triple (Session.apply torn) P (getDex call dex sent index) (fun _ ↦ P) (Fails P) := by
  unfold getDex
  split
  · exact triple_sendRequest hP sent _ hcall
  · exact Proc.Triple.fatal fun _ _ ↦ by simp [Fails]

/-- A response is processed elsewhere if its success is. -/
theorem triple_processResponse (hP : OfOrders torn P) (reply : Reply)
    {successHandler : Except String Unit → Proc (Effect library) Web.Exception Unit}
    (hsuccess : ∀ body, Proc.Triple (Session.apply torn) P (successHandler body) (fun _ ↦ P)
      (Fails P)) :
    Proc.Triple (Session.apply torn) P
      (processResponse http (Proc.emit .suspendFor) reply.response logError successHandler)
      (fun _ ↦ P) (Fails P) := by
  apply Gateway.triple_processResponse http
  · exact fun _ h ↦ h
  · exact fun _ _ h ↦ h
  · exact fun _ _ ↦ by simp [Fails]
  · exact Proc.Triple.emit fun session h ↦ hP session _ h trivial
  · exact fun _ _ _ _ ↦ Proc.Triple.pure fun _ h ↦ h
  · exact fun _ _ _ _ _ ↦ Proc.Triple.pure fun _ h ↦ h
  · exact fun _ body _ ↦ hsuccess body

/-- A reply whose `handle_success` only dispatches. -/
theorem triple_dispatch (hP : OfOrders torn P) (reply : Reply) :
    Proc.Triple (Session.apply torn) P
      (processResponse http (Proc.emit .suspendFor) reply.response logError fun body ↦ do
        Proc.ofExcept .std body
        Proc.ofThrows reply.dispatched)
      (fun _ ↦ P) (Fails P) := by
  apply triple_processResponse http hP
  intro body
  apply Proc.Triple.ofExcept_bind fun _ _ h ↦ h
  exact fun _ _ ↦ Proc.Triple.ofThrows (fun _ _ h ↦ h) fun _ _ h ↦ h

private theorem triple_getDexAck (hP : OfOrders torn P) (call : Nat → Call) {name : RequestName}
    (dex : List Dex) (reply : Reply) (index : Nat) (hname : name ≠ .staleOrders)
    (hcall : ∀ index, (call index).name = name) :
    Proc.Triple (Session.apply torn) P (getDexAck http call name dex reply index) (fun _ ↦ P)
      (Fails P) := by
  unfold getDexAck
  have hsuccess : ∀ body, Proc.Triple (Session.apply torn) P
      (handleDexSuccess call dex reply index body) (fun _ ↦ P) (Fails P) := by
    intro body
    apply Proc.Triple.ofExcept_bind fun _ _ h ↦ h
    intro _ _
    apply Proc.Triple.ofThrows_bind fun _ _ h ↦ h
    intro _ _
    show Proc.Triple _ _ (ite _ _ _) _ _
    split
    · have hnot : Proc.Triple (Session.apply torn) P
          (Proc.emit .notFinished : Proc (Effect library) Web.Exception Unit) (fun _ ↦ P)
          (Fails P) := Proc.Triple.emit fun session h ↦ hP session _ h trivial
      exact hnot.bind fun _ _ ↦
        triple_getDex hP call dex reply.sent (index + 1) (hcall _ ▸ hname)
    · exact Proc.Triple.pure fun _ h ↦ h
  apply (triple_processResponse http hP reply hsuccess).bind
  intro _ _
  split
  · exact Proc.Triple.emit fun session h ↦ hP session _ h hname
  · exact Proc.Triple.pure fun _ h ↦ h

/-- The handler of a reply to another request. -/
theorem triple_ack (hP : OfOrders torn P) (dex : List Dex) (downloadStaleOrdersCounter : Nat)
    (reply : Reply) {call : Call} (hcall : call.name ≠ .staleOrders) :
    Proc.Triple (Session.apply torn) P (ack http dex downloadStaleOrdersCounter reply call)
      (fun _ ↦ P) (Fails P) := by
  cases call with
  | spotClearingHouseState =>
    apply (triple_dispatch http hP reply).bind
    intro _ _
    exact Proc.Triple.emit fun session h ↦ hP session _ h hcall
  | clearingHouseState index =>
    exact triple_getDexAck http hP .clearingHouseState dex reply index hcall fun _ ↦ rfl
  | openOrders index =>
    exact triple_getDexAck http hP .openOrders dex reply index hcall fun _ ↦ rfl
  | orderStatus order => exact absurd rfl hcall
  | userFills index =>
    exact triple_getDexAck http hP .userFills dex reply index hcall fun _ ↦ rfl

private theorem triple_checkPending (hP : OfOrders torn P) (request : Request library)
    (inputs : QueueInputs library) {name : RequestName}
    {callback : Proc (Effect library) Web.Exception Unit} (hname : name ≠ .staleOrders)
    (hcallback : Proc.Triple (Session.apply torn) P callback (fun _ ↦ P) (Fails P)) :
    Proc.Triple (Session.apply torn) P (checkPending request inputs name callback) (fun _ ↦ P)
      (Fails P) := by
  have hemit : ∀ threw, Proc.Triple (Session.apply torn) P
      (Proc.emit (.checkPending name (inputs.input name) threw)) (fun _ ↦ P) (Fails P) :=
    fun _ ↦ Proc.Triple.emit fun session h ↦ hP session _ h hname
  unfold checkPending
  split
  · exact (hemit _).bind fun _ _ ↦ hcallback
  · exact hemit false

end Elsewhere

/-- The callbacks of the slots before the stale orders do not leave the queue. -/
structure Reaches (request : Request library) (inputs : QueueInputs library) (dex : List Dex) :
    Prop where
  spotClearingHouseState : (checkPending request inputs .spotClearingHouseState
    (getSpotClearingHouseState (inputs.sent .spotClearingHouseState))).result = .ok ()
  clearingHouseState : (checkPending request inputs .clearingHouseState
    (getClearingHouseState dex (inputs.sent (.clearingHouseState 0)) 0)).result = .ok ()
  openOrders : (checkPending request inputs .openOrders
    (getOpenOrders dex (inputs.sent (.openOrders 0)) 0)).result = .ok ()

/-- The queue does to the stale orders what its fourth slot does, if that slot is reached. -/
theorem triple_checkRequestQueue {P Q : Session library → Prop} (hP : OfOrders false P)
    (hQ : OfOrders false Q) (hPQ : ∀ session, P session → Q session) (request : Request library)
    (inputs : QueueInputs library) (dex : List Dex)
    (hstale : Reaches request inputs dex → Proc.Triple (Session.apply false) P
      (checkPending request inputs .staleOrders (requestOrders inputs request.detailsStaleOrders))
      (fun _ ↦ Q) (Fails Q)) :
    Proc.Triple (Session.apply false) P (checkRequestQueue request inputs dex) (fun _ ↦ Q)
      (Fails Q) := by
  have hslot : ∀ name callback, name ≠ .staleOrders →
      Proc.Triple (Session.apply false) P callback (fun _ ↦ P) (Fails P) →
        Proc.Triple (Session.apply false) P (checkPending request inputs name callback)
          (fun _ ↦ P) (Fails Q) := by
    intro name callback hname hcallback
    apply (triple_checkPending hP request inputs hname hcallback).mono (fun _ _ h ↦ h)
    intro failure session h
    cases failure with
    | thrown e => exact hPQ session h
    | fatal text => exact h
  unfold checkRequestQueue
  apply (hslot .spotClearingHouseState _ nofun
    (triple_sendRequest hP _ .spotClearingHouseState nofun)).bind
  intro _ hspot
  apply (hslot .clearingHouseState _ nofun
    (triple_getDex hP .clearingHouseState dex _ 0 nofun)).bind
  intro _ hclearing
  apply (hslot .openOrders _ nofun (triple_getDex hP .openOrders dex _ 0 nofun)).bind
  intro _ hopen
  apply (hstale ⟨hspot, hclearing, hopen⟩).bind
  intro _ _
  exact triple_checkPending hQ request inputs nofun (triple_getDex hQ .userFills dex _ 0 nofun)

open Session (Counted)

/-- Effects elsewhere change neither the counter, nor what it counts, nor the slot. -/
theorem ofOrders_of_counts (torn : Bool) (P : Nat → Nat → library.Slot → Prop) :
    OfOrders torn fun session ↦ P session.downloadStaleOrdersCounter session.unanswered
      (session.request.slot .staleOrders) := by
  intro session effect h heffect
  cases effect with
  | send call =>
    have hcall : ¬ call.name = .staleOrders := heffect
    have hsame : (session.apply torn (.send call)).unanswered = session.unanswered := by
      simp [Session.unanswered, Session.apply, List.countP_append, hcall]
    rw [hsame]
    exact h
  | checkPending name input threw =>
    have hsame := session.request.slot_modify_of_ne (library.checkPending input threw)
      (Ne.symm heffect)
    exact hsame ▸ h
  | commit name =>
    have hsame := session.request.slot_modify_of_ne library.commit (Ne.symm heffect)
    exact hsame ▸ h
  | countOrder => exact heffect.elim
  | discountOrder => exact heffect.elim
  | _ => exact h

private theorem ofOrders_counted (torn : Bool) : OfOrders torn (Counted : Session library → Prop) :=
  ofOrders_of_counts torn fun count number _ ↦ count = number

/-- The loop over the stale orders keeps the count, also where it throws. -/
theorem triple_requestOrders (inputs : QueueInputs library) (orders : List OrderKey) :
    Proc.Triple (Session.apply false) Counted (requestOrders inputs orders) (fun _ ↦ Counted)
      (Fails Counted) := by
  induction orders with
  | nil => exact Proc.Triple.emit fun _ h ↦ h
  | cons order orders ih =>
    rw [requestOrders]
    split
    · -- the request is sent before it is counted
      have hsend : Proc.Triple (Session.apply false) Counted
          (getOrderStatus (inputs.sent (.orderStatus order)) order)
          (fun _ (session : Session library) ↦
            session.downloadStaleOrdersCounter + 1 = session.unanswered)
          (Fails Counted) := by
        apply Proc.Triple.ofThrows_bind fun _ _ h ↦ h
        intro _ _
        apply Proc.Triple.emit
        intro session hcounted
        simp only [Counted, Session.unanswered, Session.apply, List.countP_append] at hcounted ⊢
        simpa [Call.name] using hcounted
      apply hsend.bind
      intro _ _
      have hcount : Proc.Triple (Session.apply false)
          (fun session ↦ session.downloadStaleOrdersCounter + 1 = session.unanswered)
          (Proc.emit .countOrder : Proc (Effect library) Web.Exception Unit) (fun _ ↦ Counted)
          (Fails Counted) := Proc.Triple.emit fun _ h ↦ h
      exact hcount.bind fun _ _ ↦ ih
    · exact ih

/-- The queue keeps the count. -/
theorem triple_checkRequestQueue_counted (request : Request library)
    (inputs : QueueInputs library) (dex : List Dex) :
    Proc.Triple (Session.apply false) Counted (checkRequestQueue request inputs dex)
      (fun _ ↦ Counted) (Fails Counted) := by
  have hcounted := @ofOrders_counted library false
  apply triple_checkRequestQueue hcounted hcounted fun _ h ↦ h
  intro _
  have hemit : ∀ threw, Proc.Triple (Session.apply false) Counted
      (Proc.emit (.checkPending .staleOrders (inputs.input .staleOrders) threw))
      (fun _ ↦ Counted) (Fails Counted) :=
    fun _ ↦ Proc.Triple.emit fun _ h ↦ h
  unfold checkPending
  split
  · exact (hemit _).bind fun _ _ ↦ triple_requestOrders inputs request.detailsStaleOrders
  · exact hemit false

/-- A redirection ends the process. -/
theorem getOrderStatusAck_of_redirected (downloadStaleOrdersCounter : Nat) {reply : Reply}
    (h : reply.redirected = true) :
    (getOrderStatusAck http downloadStaleOrdersCounter reply :
      Proc (Effect library) Web.Exception Unit) =
        Proc.fatal "Unexpected: URL is being redirected" := by
  obtain ⟨⟨result⟩, dispatched, sent⟩ := reply
  cases result with
  | error e => cases h
  | ok parts =>
    obtain ⟨status, category, body⟩ := parts
    cases category with
    | redirection => rfl
    | _ => cases h

/-- Any other reply lowers the counter, and commits the slot if nothing is left. -/
theorem getOrderStatusAck_of_not_redirected (counter : Nat) {reply : Reply}
    (h : reply.redirected = false) :
    (getOrderStatusAck http (counter + 1) reply : Proc (Effect library) Web.Exception Unit) =
      ⟨(processResponse http (Proc.emit .suspendFor) reply.response logError fun body ↦ do
          Proc.ofExcept .std body
          Proc.ofThrows reply.dispatched : Proc (Effect library) Web.Exception Unit).events ++
        .discountOrder :: if counter = 0 then [.commit .staleOrders] else [], .ok ()⟩ := by
  have hresult := @processResponse_dispatch_result library http reply h
  unfold getOrderStatusAck
  generalize (processResponse http _ reply.response logError _ :
    Proc (Effect library) Web.Exception Unit) = x at hresult ⊢
  obtain ⟨events, result⟩ := x
  cases hresult
  by_cases hcounter : counter = 0
  · rw [if_pos hcounter]
    subst hcounter
    rfl
  · show (Proc.mk events (.ok ()) >>= fun _ ↦ Proc.emit .discountOrder >>= fun _ ↦ ite _ _ _) = _
    rw [if_neg hcounter, if_neg hcounter]
    rfl

/-- A reply lowers the counter to the number of the other requests, and the slot is committed
if there is none. -/
theorem triple_getOrderStatusAck (torn : Bool) (counter : Nat) (reply : Reply)
    {Q : Session library → Prop}
    (hmore : ∀ session : Session library, session.Counted → 0 < session.unanswered → Q session)
    (hlast : ∀ session : Session library, session.Counted →
      Q (session.apply torn (.commit .staleOrders))) :
    Proc.Triple (Session.apply torn)
      (fun session ↦ session.downloadStaleOrdersCounter = counter + 1 ∧
        session.unanswered = counter)
      (getOrderStatusAck http (counter + 1) reply) (fun _ ↦ Q) (Fails Q) := by
  cases h : reply.redirected with
  | true =>
    rw [getOrderStatusAck_of_redirected http _ h]
    exact Proc.Triple.fatal fun _ _ ↦ by simp [Fails]
  | false =>
    rw [getOrderStatusAck_of_not_redirected http counter h]
    refine ⟨?_, fun _ _ _ hresult ↦ by cases hresult⟩
    intro session _ hsession _
    have hdispatched := (triple_dispatch http
      (ofOrders_of_counts torn fun count number _ ↦ count = counter + 1 ∧ number = counter)
      reply).ok session _ hsession (processResponse_dispatch_result http reply h)
    rw [List.foldl_append, List.foldl_cons]
    generalize List.foldl (Session.apply torn) session _ = session' at hdispatched ⊢
    have hcounted : (session'.apply torn .discountOrder).Counted := by
      show session'.downloadStaleOrdersCounter - 1 = session'.unanswered
      omega
    split
    · exact hlast _ hcounted
    · next hcounter =>
      apply hmore _ hcounted
      show 0 < session'.unanswered
      omega

/-- The handler of a reply to an order status request sends nothing. -/
theorem emits_getOrderStatusAck (downloadStaleOrdersCounter : Nat) (reply : Reply) :
    (getOrderStatusAck http downloadStaleOrdersCounter reply :
      Proc (Effect library) Web.Exception Unit).Emits
        fun effect ↦ ∀ torn session, (Session.apply torn session effect).outstanding =
          session.outstanding := by
  apply (emits_processResponse_dispatch http (fun _ _ ↦ rfl) reply).bind
  intro _ _
  split
  · exact Proc.emits_fatal _
  · apply ((Proc.emits_emit _).mpr fun _ _ ↦ rfl).bind
    intro _ _
    split
    · exact (Proc.emits_emit _).mpr fun _ _ ↦ rfl
    · exact Proc.emits_pure ()

end OrderEntry

namespace Session

variable {library : LimitRequest} (settings : DropCopy.DownloadSettings) (http : HttpLibrary)

/-- The steps of the download do not touch the count. -/
theorem unseen_counted : DropCopy.Unseen (Counted : Session library → Prop) :=
  ⟨fun _ _ _ _ _ _ _ ↦ rfl, fun _ _ ↦ rfl⟩

/-- A restart leaves the requests in flight. -/
@[simp] theorem unanswered_restart (session : Session library) :
    session.restart.unanswered = session.unanswered := by
  simp only [unanswered, restart, List.countP_map, Function.comp_def]

/-- A request with a reply is no longer counted. -/
theorem unanswered_answered (session : Session library) {position : Nat} {waiting : Outstanding}
    (h : session.outstanding[position]? = some waiting) (call : Call) (successful : Bool) :
    session.unanswered = (session.answered position call successful).unanswered +
      if waiting.call.name = .staleOrders then 1 else 0 := by
  obtain ⟨hposition, hwaiting⟩ := List.getElem?_eq_some_iff.mp h
  have hperm := (List.getElem_cons_eraseIdx_perm hposition).countP_eq
    fun waiting ↦ waiting.call.name = .staleOrders
  rw [List.countP_cons, hwaiting] at hperm
  simpa [unanswered, answered] using hperm.symm

private theorem ended_foldl (torn : Bool) (effects : List (OrderEntry.Effect library))
    (session : Session library) :
    (effects.foldl (Session.apply torn) session).ended = session.ended := by
  refine List.foldlRecOn (motive := fun (session' : Session library) ↦
    session'.ended = session.ended) effects _ rfl ?_
  intro session' h effect _
  rw [← h]
  cases effect <;> rfl

/-- A handler that returns does not end the process. -/
theorem ended_perform_of_ok {torn : Bool}
    {handler : Proc (OrderEntry.Effect library) Web.Exception Unit}
    (h : handler.result = .ok ()) (session : Session library) :
    (session.perform torn handler).ended = session.ended := by
  unfold perform
  rw [h]
  exact ended_foldl torn handler.events session

/-- A handler that keeps a condition keeps it while the process goes on. -/
theorem perform_of_triple {torn : Bool} {P Q : Session library → Prop}
    {handler : Proc (OrderEntry.Effect library) Web.Exception Unit}
    (h : Proc.Triple (Session.apply torn) P handler (fun _ ↦ Q) (OrderEntry.Fails Q))
    {session : Session library} (hP : P session)
    (hended : (session.perform torn handler).ended = false) :
    Q (session.perform torn handler) := by
  unfold perform at hended ⊢
  dsimp only at hended ⊢
  cases hresult : handler.result with
  | ok _ => exact h.ok session _ hP hresult
  | error failure =>
    rw [hresult] at hended
    cases failure with
    | thrown e => exact h.error session _ hP hresult
    | fatal text => cases hended

private theorem outstanding_perform {torn : Bool}
    {handler : Proc (OrderEntry.Effect library) Web.Exception Unit}
    (h : handler.Emits fun effect ↦ ∀ torn session,
      (Session.apply torn session effect).outstanding = session.outstanding)
    (session : Session library) :
    (session.perform torn handler).outstanding = session.outstanding := by
  have hfold : (handler.events.foldl (Session.apply torn) session).outstanding =
      session.outstanding := by
    refine List.foldlRecOn (motive := fun (session' : Session library) ↦
      session'.outstanding = session.outstanding) handler.events _ rfl ?_
    intro session' h' effect heffect
    rw [h.forall_mem effect heffect, h']
  unfold perform
  dsimp only
  split <;> exact hfold

/-- A request for something else does not change the count. -/
theorem Counted.answered {session : Session library} (h : session.Counted) {position : Nat}
    {call : Call} {torn : Bool} (hwaiting : session.outstanding[position]? = some ⟨call, torn⟩)
    (hcall : call.name ≠ .staleOrders) (successful : Bool) :
    (session.answered position call successful).Counted := by
  have hanswered := session.unanswered_answered hwaiting call successful
  rw [if_neg hcall, Nat.add_zero] at hanswered
  exact Eq.trans h hanswered

/-- What the handler of a reply does to the session without the answered request. -/
theorem Counted.triple_ack {session : Session library} (h : session.Counted) {position : Nat}
    {call : Call} {torn : Bool} (hwaiting : session.outstanding[position]? = some ⟨call, torn⟩)
    (reply : OrderEntry.Reply) {Q : Session library → Prop} (hQ : OrderEntry.OfOrders torn Q)
    (hother : call.name ≠ .staleOrders → Q (session.answered position call reply.successful))
    (hmore : ∀ session : Session library, session.Counted → 0 < session.unanswered → Q session)
    (hlast : ∀ session : Session library, session.Counted →
      Q (session.apply torn (.commit .staleOrders))) :
    ∃ P, P (session.answered position call reply.successful) ∧
      Proc.Triple (Session.apply torn) P
        (OrderEntry.ack http session.dex session.downloadStaleOrdersCounter reply call)
        (fun _ ↦ Q) (OrderEntry.Fails Q) := by
  by_cases hcall : call.name = .staleOrders
  · cases call with
    | orderStatus order =>
      have hcounter : session.downloadStaleOrdersCounter =
          (session.answered position (.orderStatus order) reply.successful).unanswered + 1 :=
        Eq.trans h (session.unanswered_answered hwaiting _ _)
      rw [hcounter]
      exact ⟨_, ⟨hcounter, rfl⟩,
        OrderEntry.triple_getOrderStatusAck http torn _ reply hmore hlast⟩
    | _ => cases hcall
  · exact ⟨Q, hother hcall, OrderEntry.triple_ack http hQ session.dex _ reply hcall⟩

/-- A reply keeps the count. -/
theorem Counted.triple_reply {session : Session library} (h : session.Counted) {position : Nat}
    {call : Call} {torn : Bool} (hwaiting : session.outstanding[position]? = some ⟨call, torn⟩)
    (reply : OrderEntry.Reply) :
    ∃ P, P (session.answered position call reply.successful) ∧
      Proc.Triple (Session.apply torn) P
        (OrderEntry.ack http session.dex session.downloadStaleOrdersCounter reply call)
        (fun _ ↦ Counted) (OrderEntry.Fails Counted) :=
  h.triple_ack http hwaiting reply (OrderEntry.ofOrders_counted torn)
    (h.answered hwaiting · reply.successful) (fun _ h _ ↦ h) fun _ h ↦ h

/-- A process that goes on has not ended before. -/
theorem ended_of_step {session : Session library} {event : Event library}
    (h : (session.step settings http event).ended = false) : session.ended = false := by
  unfold step at h
  split at h
  · exact h
  · next hbefore => exact eq_false_of_ne_true hbefore

/-- A step keeps the count while the process goes on. -/
theorem Counted.step {session : Session library} (h : session.Counted) (event : Event library)
    (hended : (session.step settings http event).ended = false) :
    (session.step settings http event).Counted := by
  unfold Session.step at hended ⊢
  split at hended
  · next hbefore => rwa [if_pos hbefore]
  · next hbefore =>
    rw [if_neg hbefore]
    cases event with
    | dropCopyReady leaves =>
      exact (unseen_counted.ready settings leaves _).mpr (h.trans session.unanswered_restart.symm)
    | dropCopyDisconnected => exact (unseen_counted.disconnected session).mpr h
    | dropCopyTimer refreshed originCreateTime stale leaves =>
      exact (unseen_counted.timer settings refreshed originCreateTime stale leaves session).mpr h
    | subscriptionResponse type leaves =>
      exact (unseen_counted.subscriptionResponse settings leaves type session).mpr h
    | orderEntryConnected => exact h
    | orderEntryDisconnected => exact h
    | orderEntryTimer refreshed inputs =>
      dsimp only at hended ⊢
      split at hended
      · next hready =>
        rw [if_pos hready]
        exact perform_of_triple (OrderEntry.triple_checkRequestQueue_counted session.request inputs
          session.dex) h hended
      · next hready => rwa [if_neg hready]
    | reply position reply =>
      dsimp only at hended ⊢
      cases hwaiting : session.outstanding[position]? with
      | none => exact h
      | some waiting =>
        rw [hwaiting] at hended
        obtain ⟨P, hP, htriple⟩ := h.triple_reply http hwaiting reply
        exact perform_of_triple htriple hP hended
    | dexAdded dex => exact h

/-- No handler ends the process because of the counter. -/
theorem Counted.handler_result {session : Session library} (h : session.Counted)
    (event : Event library) :
    (session.handler http event).result ≠ .error (.fatal "Unexpected") := by
  unfold handler
  split
  · next inputs =>
    split
    · intro hresult
      exact (OrderEntry.triple_checkRequestQueue_counted session.request inputs
        session.dex).error session _ h hresult rfl
    · exact nofun
  · next position reply =>
    split
    · exact nofun
    · next call torn hwaiting =>
      intro hresult
      obtain ⟨P, hP, htriple⟩ := h.triple_reply http hwaiting reply
      exact htriple.error _ _ hP hresult rfl
  · exact nofun

/-- A reply to an order status request after which the process goes on, with none left. -/
def AnswersLast (session : Session library) : Event library → Prop
  | .reply position reply =>
    (∃ waiting ∈ session.outstanding[position]?, waiting.call.name = .staleOrders) ∧
      (session.step settings http (.reply position reply)).ended = false ∧
      (session.step settings http (.reply position reply)).unanswered = 0
  | _ => False

/-- The handler of a reply to an order status request commits the slot if none is left. -/
theorem commit_mem_getOrderStatusAck_iff (counter : Nat) {reply : OrderEntry.Reply}
    (h : reply.redirected = false) :
    .commit .staleOrders ∈ (OrderEntry.getOrderStatusAck http (counter + 1) reply :
      Proc (OrderEntry.Effect library) Web.Exception Unit).events ↔ counter = 0 := by
  have hdispatched := @OrderEntry.emits_processResponse_dispatch library http
    (fun effect ↦ effect = .suspendFor) rfl reply
  rw [OrderEntry.getOrderStatusAck_of_not_redirected http counter h, List.mem_append]
  constructor
  · rintro (hmem | hmem)
    · cases hdispatched.forall_mem _ hmem
    · by_contra hcounter
      rw [if_neg hcounter] at hmem
      cases List.mem_singleton.mp hmem
  · rintro rfl
    exact Or.inr (List.mem_cons_of_mem _ (List.mem_singleton_self _))

/-- The slot is committed by the replies that leave no order status request. -/
theorem Counted.commit_mem_iff {session : Session library} (h : session.Counted)
    (hended : session.ended = false) (event : Event library) :
    .commit .staleOrders ∈ (session.handler http event).events ↔
      session.AnswersLast settings http event := by
  cases event with
  | orderEntryTimer refreshed inputs =>
    refine iff_of_false ?_ id
    unfold handler
    dsimp only
    split
    · exact (OrderEntry.emits_checkRequestQueue session.request inputs session.dex).forall_mem _
    · exact nofun
  | reply position reply =>
    cases hwaiting : session.outstanding[position]? with
    | none => simp [handler, AnswersLast, hwaiting, pure]
    | some waiting =>
      obtain ⟨call, torn⟩ := waiting
      have hhandler : session.handler http (.reply position reply) =
          OrderEntry.ack http session.dex session.downloadStaleOrdersCounter reply call := by
        unfold handler
        dsimp only
        rw [hwaiting]
      have hstep : session.step settings http (.reply position reply) =
          (session.answered position call reply.successful).perform torn
            (OrderEntry.ack http session.dex session.downloadStaleOrdersCounter reply call) := by
        simp [Session.step, hended, hwaiting]
      have hcommit := @OrderEntry.emits_ack library http session.dex
        session.downloadStaleOrdersCounter reply call
      simp only [AnswersLast, hwaiting, Option.mem_some_iff, exists_eq_left', hstep, hhandler]
      by_cases hcall : call.name = .staleOrders
      · cases call with
        | orderStatus order =>
          have hcounter : session.downloadStaleOrdersCounter =
              (session.answered position (.orderStatus order) reply.successful).unanswered + 1 :=
            Eq.trans h (session.unanswered_answered hwaiting _ _)
          rw [hcounter]
          unfold OrderEntry.ack
          cases hredirected : reply.redirected with
          | true =>
            rw [OrderEntry.getOrderStatusAck_of_redirected http _ hredirected]
            exact iff_of_false nofun fun hlast ↦ nomatch hlast.2.1
          | false =>
            rw [commit_mem_getOrderStatusAck_iff http _ hredirected]
            have hresult := congrArg Proc.result
              (@OrderEntry.getOrderStatusAck_of_not_redirected library http
                (session.answered position (.orderStatus order) reply.successful).unanswered reply
                hredirected)
            rw [ended_perform_of_ok hresult]
            unfold unanswered
            rw [outstanding_perform (OrderEntry.emits_getOrderStatusAck http _ reply)]
            exact ⟨fun hlast ↦ ⟨rfl, hended, hlast⟩, fun hlast ↦ hlast.2.2⟩
        | _ => cases hcall
      · refine iff_of_false ?_ fun hlast ↦ hcall hlast.1
        intro hmem
        exact hcall (hcommit.forall_mem _ hmem).1.symm
  | _ => exact iff_of_false nofun id

/-- What the counter is for, in a state and in the step that follows. -/
structure CountsOrders (session : Session library) (event : Event library) : Prop where
  counter : session.downloadStaleOrdersCounter = session.unanswered
  /-- the process does not end because of the counter -/
  result : (session.handler http event).result ≠ .error (.fatal "Unexpected")
  commits : .commit .staleOrders ∈ (session.handler http event).events ↔
    session.AnswersLast settings http event

/-- In every run of a session, while the process goes on, the counter is the number of the
order status requests without a reply, and the slot is committed by the replies that leave
none. -/
theorem countsOrders (library : LimitRequest) (settings : DropCopy.DownloadSettings)
    (http : HttpLibrary) (dex : List Dex) (events : List (Event library)) (event : Event library)
    (hended : (events.foldl (step settings http) (Session.new library dex)).ended = false) :
    (events.foldl (step settings http) (Session.new library dex)).CountsOrders settings http
      event := by
  have hrun : Run.Along (step settings http) (fun _ _ ↦ True) (Session.new library dex) events :=
    Run.along_true _ events
  have hcounted := Run.invariant_foldl (fun session ↦ session.ended = false → session.Counted)
    (fun session event h _ hafter ↦
      (h (ended_of_step settings http hafter)).step settings http event hafter)
    (fun _ ↦ rfl) hrun hended
  exact ⟨hcounted, hcounted.handler_result http event,
    hcounted.commit_mem_iff settings http hended event⟩

/-- The queue of `OrderEntry`, which sends everything and finds all orders. -/
def queue : Event oneSlot := .orderEntryTimer true ⟨fun _ ↦ true, fun _ ↦ .ok (), fun _ ↦ true⟩

/-- A download up to its stale orders. -/
def untilStaleOrders (stale : List OrderKey) : List (Event oneSlot) :=
  [.orderEntryConnected, .dropCopyReady 12, .subscriptionResponse .notification 12,
    .subscriptionResponse .userFundings 12] ++
  fetch success ++ fetch success ++
  [.subscriptionResponse .orderUpdates 12, queue, .reply 0 success, .dropCopyTimer true 0 stale 12]

/-- Two stale orders whose requests have been sent, then the first reply, which has failed. -/
theorem countsOrders_two :
    (((untilStaleOrders [(0, 1), (0, 2)] ++ [queue]).foldl (step ⟨0, 0⟩ silent)
        (Session.new oneSlot mainDex)).downloadStaleOrdersCounter = 2) ∧
      ((untilStaleOrders [(0, 1), (0, 2)] ++ [queue]).foldl (step ⟨0, 0⟩ silent)
        (Session.new oneSlot mainDex)).CountsOrders ⟨0, 0⟩ silent (.reply 0 failure) :=
  ⟨by decide, countsOrders oneSlot ⟨0, 0⟩ silent mainDex _ (.reply 0 failure) (by decide)⟩

end Session

end Hyperliquid.Gateway
