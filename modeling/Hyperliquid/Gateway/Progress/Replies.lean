import Hyperliquid.Gateway.OrderCounter
import Hyperliquid.Gateway.Progress.Queue

/-!
# How the replies move a download on

The handlers of the replies, `src/roq/hyperliquid/gateway/order_entry.cpp:277–411, 498–521,
603–625`, commit the slot that the download waits for, or leave one request less.
-/

namespace Hyperliquid.Gateway

open Hyperliquid.Base

variable {library : LimitRequest} {slots : SlotPhases library}

namespace OrderEntry

variable {torn : Bool} {outline outline' : Outline}

section Replies

variable (http : HttpLibrary) {reply : Reply}

/-- An effect that does not change a session. -/
def Silent (effect : Effect library) : Prop := effect = .suspendFor ∨ effect = .notFinished

private theorem foldl_of_silent {effects : List (Effect library)}
    (h : ∀ effect ∈ effects, Silent effect)
    (session : Session library) : effects.foldl (Session.apply torn) session = session := by
  refine List.foldlRecOn (motive := fun session' ↦ session' = session) effects _ rfl ?_
  rintro _ rfl effect heffect
  rcases h effect heffect with rfl | rfl <;> rfl

private theorem perform_of_silent {effects : List (Effect library)}
    (h : ∀ effect ∈ effects, Silent effect)
    (rest : List (Effect library)) (session : Session library) :
    session.perform torn ⟨effects ++ rest, .ok ()⟩ = rest.foldl (Session.apply torn) session := by
  show List.foldl _ _ (effects ++ rest) = _
  rw [List.foldl_append, foldl_of_silent h]

/-- A handler that returns, and has one effect. -/
def Does (handler : Proc (Effect library) Web.Exception Unit) (effect : Effect library) : Prop :=
  ∃ effects, (∀ other ∈ effects, Silent other) ∧ handler = ⟨effects ++ [effect], .ok ()⟩

/-- The session sees the one effect of the handler. -/
theorem Does.perform {handler : Proc (Effect library) Web.Exception Unit}
    {effect : Effect library} (h : Does handler effect) (session : Session library) :
    session.perform torn handler = session.apply torn effect := by
  obtain ⟨effects, hsilent, rfl⟩ := h
  exact perform_of_silent hsilent [effect] session

/-- A reply whose `handle_success` only dispatches. -/
theorem processResponse_dispatch_eq (h : reply.redirected = false) :
    ∃ effects : List (Effect library), (∀ effect ∈ effects, Silent effect) ∧
      (processResponse http (Proc.emit .suspendFor) reply.response logError fun body ↦ do
        Proc.ofExcept .std body
        Proc.ofThrows reply.dispatched) = ⟨effects, .ok ()⟩ :=
  ⟨_, (emits_processResponse_dispatch http (.inl rfl) reply).forall_mem,
    Proc.ext rfl (processResponse_dispatch_result http reply h)⟩

/-- A reply for an entry of the list of dexes commits the slot, or sends the next request. -/
theorem does_getDexAck (call : Nat → Call) (name : RequestName) (dex : List Dex) (index : Nat)
    (h : reply.redirected = false) (hsent : reply.sent = .ok ()) :
    Does (getDexAck http call name dex reply index : Proc (Effect library) Web.Exception Unit)
        (.commit name) ∨
      index + 1 < dex.length ∧
        Does (getDexAck http call name dex reply index : Proc (Effect library) Web.Exception Unit)
          (.send (call (index + 1))) := by
  obtain ⟨⟨result⟩, dispatched, sent⟩ := reply
  cases hsent
  cases result with
  | error e => exact .inl ⟨[], nofun, by cases e <;> rfl⟩
  | ok parts =>
    obtain ⟨status, category, body⟩ := parts
    cases category with
    | success =>
      cases body with
      | error what => exact .inl ⟨[], nofun, rfl⟩
      | ok _ =>
        cases dispatched with
        | error e => exact .inl ⟨[], nofun, by cases e <;> rfl⟩
        | ok _ =>
          by_cases hindex : index + 1 < dex.length
          · right
            refine ⟨hindex, [.notFinished], List.forall_mem_singleton.mpr (.inr rfl), ?_⟩
            unfold getDexAck processResponse dispatchCategory handleDexSuccess getDex
            dsimp only
            rw [if_pos hindex, if_pos hindex]
            rfl
          · left
            refine ⟨[], nofun, ?_⟩
            unfold getDexAck processResponse dispatchCategory handleDexSuccess
            dsimp only
            rw [if_neg hindex]
            rfl
    | redirection => cases h
    | clientError =>
      left
      by_cases hstatus : status = .tooManyRequests
      · refine ⟨[.suspendFor], List.forall_mem_singleton.mpr (.inl rfl), ?_⟩
        unfold getDexAck processResponse dispatchCategory
        dsimp only
        rw [if_pos hstatus]
        rfl
      · refine ⟨[], nofun, ?_⟩
        unfold getDexAck processResponse dispatchCategory
        dsimp only
        rw [if_neg hstatus]
        rfl
    | serverError => exact .inl ⟨[], nofun, rfl⟩
    | _ =>
      left
      refine ⟨[], nofun, ?_⟩
      unfold getDexAck processResponse dispatchCategory expectOk
      dsimp only
      by_cases hstatus : status = .ok
      · rw [if_pos hstatus]
        rfl
      · rw [if_neg hstatus]
        cases http.unexpected status <;> rfl

/-- A reply to a request of a chain commits the slot, or sends the next request. -/
theorem does_ack {call : Call} (hcall : call.name ≠ .staleOrders) (dex : List Dex) (counter : Nat)
    (h : reply.redirected = false) (hsent : reply.sent = .ok ()) :
    Does (ack http dex counter reply call : Proc (Effect library) Web.Exception Unit)
        (.commit call.name) ∨
      ∃ next, call.following dex = some next ∧
        Does (ack http dex counter reply call : Proc (Effect library) Web.Exception Unit)
          (.send next) := by
  have hchain : ∀ (f : Nat → Call) (name : RequestName) (index : Nat),
      Does (getDexAck http f name dex reply index : Proc (Effect library) Web.Exception Unit)
          (.commit name) ∨
        ∃ next, (if index + 1 < dex.length then some (f (index + 1)) else none) = some next ∧
          Does (getDexAck http f name dex reply index : Proc (Effect library) Web.Exception Unit)
            (.send next) := by
    intro f name index
    rcases @does_getDexAck library http reply f name dex index h hsent with
      hcommit | ⟨hindex, hsend⟩
    · exact .inl hcommit
    · exact .inr ⟨_, if_pos hindex, hsend⟩
  cases call with
  | spotClearingHouseState =>
    obtain ⟨effects, hsilent, heq⟩ := @processResponse_dispatch_eq library http reply h
    refine .inl ⟨effects, hsilent, ?_⟩
    unfold ack getSpotClearingHouseStateAck
    rw [heq]
    rfl
  | clearingHouseState index => exact hchain .clearingHouseState .clearingHouseState index
  | openOrders index => exact hchain .openOrders .openOrders index
  | orderStatus order => exact absurd rfl hcall
  | userFills index => exact hchain .userFills .trades index

/-- A reply to a request of a batch lowers the counter, and commits the slot if nothing is
left. -/
theorem perform_orderStatusAck (counter : Nat) (h : reply.redirected = false)
    (session : Session library) :
    session.perform torn (getOrderStatusAck http (counter + 1) reply) =
      if counter = 0 then (session.apply torn .discountOrder).apply torn (.commit .staleOrders)
      else session.apply torn .discountOrder := by
  obtain ⟨effects, hsilent, heq⟩ := @processResponse_dispatch_eq library http reply h
  rw [getOrderStatusAck_of_not_redirected http counter h, heq, perform_of_silent hsilent]
  split <;> rfl

/-- The next request of a chain leaves one reply less. -/
theorem left_following {dex : List Dex} {call next : Call} (h : call.following dex = some next) :
    next.name = call.name ∧ 0 < next.left dex.length ∧
      next.left dex.length + 1 = call.left dex.length := by
  have hnext : ∀ {f : Nat → Call} {index : Nat},
      (if index + 1 < dex.length then some (f (index + 1)) else none) = some next →
        index + 1 < dex.length ∧ next = f (index + 1) := by
    intro f index hif
    split at hif
    · next hindex => exact ⟨hindex, (Option.some.inj hif).symm⟩
    · cases hif
  have hleft : ∀ {index : Nat}, index + 1 < dex.length →
      0 < dex.length - (index + 1) ∧ dex.length - (index + 1) + 1 = dex.length - index := by
    omega
  cases call with
  | clearingHouseState index =>
    obtain ⟨hindex, rfl⟩ := hnext h
    exact ⟨rfl, hleft hindex⟩
  | openOrders index =>
    obtain ⟨hindex, rfl⟩ := hnext h
    exact ⟨rfl, hleft hindex⟩
  | userFills index =>
    obtain ⟨hindex, rfl⟩ := hnext h
    exact ⟨rfl, hleft hindex⟩
  | _ => cases h

/-- The outline after a slot has been answered. -/
def commits (outline : Outline) (name : RequestName) : Outline :=
  { outline with phase := Function.update outline.phase name (some .answered) }

private theorem outline_commit {name : RequestName} {session : Session library}
    (h : (session.outline slots).phase name = some .inFlight) :
    (session.apply torn (.commit name)).outline slots = commits (session.outline slots) name :=
  Outline.ext (session.outline_modify slots name (slots.phase_commit _ h))
    (Request.detailsStaleOrders_modify ..) rfl rfl rfl rfl rfl rfl

/-- The outline with other requests in flight. -/
def awaiting (outline : Outline) (calls : List Call) (counter : Nat) : Outline :=
  { outline with
    outstanding := calls
    downloadStaleOrdersCounter := counter }

variable {orders : Nat} {session : Session library}

/-- A download whose slot is answered waits for the timer. -/
theorem underWay_commits (h : outline.UnderWay orders) {name : RequestName}
    (hslot : outline.download.slot? = some name)
    (hdetails : name = .staleOrders → outline.detailsStaleOrders = []) :
    (commits (awaiting outline [] 0) name).UnderWay orders ∧
      (commits (awaiting outline [] 0) name).rank orders =
        1 + outline.download.remaining outline.dexes orders := by
  have hphase : (commits (awaiting outline [] 0) name).phase name = some .answered :=
    Function.update_self ..
  refine ⟨⟨h.ended, h.status, h.dexes, h.orders, ?_, .timer hslot hphase rfl rfl hdetails⟩, ?_⟩
  · intro other hother
    have hne : other ≠ name := fun heq ↦ hother (heq ▸ hslot)
    unfold Outline.Settled commits
    dsimp only
    rw [Function.update_of_ne hne]
    exact h.settled other hother
  · have hslot' : (commits (awaiting outline [] 0) name).download.slot? = some name := hslot
    rw [Outline.rank_of_answered hslot' hphase]
    rfl

private theorem rank_awaiting {name : RequestName} (hslot : outline.download.slot? = some name)
    (hphase : outline.phase name = some .inFlight) (calls : List Call) (counter : Nat) :
    (awaiting outline calls counter).rank orders = (calls.map (Call.left outline.dexes)).sum + 1 +
      outline.download.remaining outline.dexes orders := by
  have hslot' : (awaiting outline calls counter).download.slot? = some name := hslot
  have hphase' : (awaiting outline calls counter).phase name = some .inFlight := hphase
  rw [Outline.rank_of_inFlight hslot' hphase']
  rfl

private theorem outline_answered (slots : SlotPhases library) (session : Session library)
    (position : Nat) (call : Call) (successful : Bool) :
    (session.answered position call successful).outline slots =
      awaiting (session.outline slots) ((session.outline slots).outstanding.eraseIdx position)
        session.downloadStaleOrdersCounter := by
  refine Outline.ext rfl rfl ?_ rfl rfl rfl rfl rfl
  exact (List.eraseIdx_map ..).symm

/-- The reply to the request of a chain. -/
theorem moves_reply_chain (h : (session.outline slots).UnderWay orders) {call : Call}
    (hslot : session.download.slot? = some call.name) (hcall : call.name ≠ .staleOrders)
    (hphase : (session.outline slots).phase call.name = some .inFlight)
    (houtstanding : (session.outline slots).outstanding = [call])
    (hcounter : session.downloadStaleOrdersCounter = 0) (hleft : 0 < call.left session.dex.length)
    (hredirected : reply.redirected = false) (hsent : reply.sent = .ok ()) :
    Session.Moves slots orders 1 session
      ((session.answered 0 call reply.successful).perform torn
        (ack http session.dex session.downloadStaleOrdersCounter reply call)) := by
  have hanswered := outline_answered slots session 0 call reply.successful
  rw [houtstanding, hcounter, List.eraseIdx_cons_zero] at hanswered
  have hrank : (session.outline slots).rank orders = call.left session.dex.length + 1 +
      session.download.remaining session.dex.length orders := by
    rw [Outline.rank_of_inFlight hslot hphase, houtstanding, List.map_singleton,
      List.sum_singleton]
    rfl
  unfold Session.Moves
  rcases @does_ack library http reply call hcall session.dex session.downloadStaleOrdersCounter
    hredirected hsent with hcommit | ⟨next, hnext, hsend⟩
  · have hinFlight : ((session.answered 0 call reply.successful).outline slots).phase call.name =
        some .inFlight := hphase
    obtain ⟨hunderWay, hleast⟩ := underWay_commits h hslot fun heq ↦ absurd heq hcall
    rw [hcommit.perform, outline_commit hinFlight, hanswered, hleast, hrank]
    refine ⟨.inl hunderWay, ?_⟩
    show 1 + session.download.remaining session.dex.length orders + 1 ≤ _
    omega
  · obtain ⟨hname, hpos, hless⟩ := left_following hnext
    have hslot' : session.download.slot? = some next.name := hname ▸ hslot
    have hphase' : (session.outline slots).phase next.name = some .inFlight := hname ▸ hphase
    have houtline : ((session.answered 0 call reply.successful).apply torn (.send next)).outline
        slots = awaiting (session.outline slots) [next] 0 := by
      rw [outline_send, hanswered]
      rfl
    rw [hsend.perform, houtline, rank_awaiting hslot' hphase', hrank, List.map_singleton,
      List.sum_singleton]
    constructor
    · left
      exact ⟨h.ended, h.status, h.dexes, h.orders, h.settled,
        .chain hslot' (hname ▸ hcall) hphase' rfl rfl hpos⟩
    · show next.left session.dex.length + 1 +
        session.download.remaining session.dex.length orders + 1 ≤ _
      omega

/-- The reply to a request of a batch. -/
theorem moves_reply_batch (h : (session.outline slots).UnderWay orders)
    (hstate : session.download = .getStaleOrders)
    (hphase : (session.outline slots).phase .staleOrders = some .inFlight)
    (hbatch : ∀ call ∈ (session.outline slots).outstanding, call.name = .staleOrders)
    (hcounter : session.downloadStaleOrdersCounter = (session.outline slots).outstanding.length)
    (hdetails : session.request.detailsStaleOrders = []) {position : Nat} {call : Call}
    (hcall : (session.outline slots).outstanding[position]? = some call)
    (hredirected : reply.redirected = false) :
    Session.Moves slots orders 1 session
      ((session.answered position call reply.successful).perform torn
        (ack http session.dex session.downloadStaleOrdersCounter reply call)) := by
  have hslot : session.download.slot? = some .staleOrders := congrArg DownloadState.slot? hstate
  obtain ⟨order, rfl⟩ : ∃ order, call = .orderStatus order := by
    have hname := hbatch call (List.mem_of_getElem? hcall)
    cases call with
    | orderStatus order => exact ⟨order, rfl⟩
    | _ => cases hname
  obtain ⟨hposition, -⟩ := List.getElem?_eq_some_iff.mp hcall
  obtain ⟨counter, hlength⟩ := Nat.exists_eq_add_of_lt (Nat.zero_lt_of_lt hposition)
  rw [Nat.zero_add] at hlength
  have hrank : (session.outline slots).rank orders = counter + 1 + 1 +
      session.download.remaining session.dex.length orders := by
    rw [Outline.rank_of_inFlight hslot hphase, sum_left hbatch, hlength]
    rfl
  have herased : ((session.outline slots).outstanding.eraseIdx position).length = counter := by
    rw [List.length_eraseIdx_of_lt hposition, hlength]
    rfl
  have hdiscount : ((session.answered position (.orderStatus order) reply.successful).apply torn
      .discountOrder).outline slots = awaiting (session.outline slots)
        ((session.outline slots).outstanding.eraseIdx position) counter := by
    have hanswered := outline_answered slots session position (.orderStatus order)
      reply.successful
    refine (congrArg (fun outline : Outline ↦ { outline with
      downloadStaleOrdersCounter := outline.downloadStaleOrdersCounter - 1 }) hanswered).trans ?_
    exact Outline.ext rfl rfl rfl (by
      show session.downloadStaleOrdersCounter - 1 = counter
      omega) rfl rfl rfl rfl
  have hperform := @perform_orderStatusAck _ torn http reply counter hredirected
    (session.answered position (.orderStatus order) reply.successful)
  unfold Session.Moves
  rw [hcounter, hlength]
  unfold ack
  rw [hperform]
  split
  · next hzero =>
    have hempty : (session.outline slots).outstanding.eraseIdx position = [] :=
      List.length_eq_zero_iff.mp (herased.trans hzero)
    rw [hempty, hzero] at hdiscount
    have hinFlight : (((session.answered position (.orderStatus order)
        reply.successful).apply torn .discountOrder).outline slots).phase .staleOrders =
          some .inFlight := hphase
    obtain ⟨hunderWay, hleast⟩ := underWay_commits h hslot fun _ ↦ hdetails
    rw [outline_commit hinFlight, hdiscount, hleast, hrank]
    refine ⟨.inl hunderWay, ?_⟩
    show 1 + session.download.remaining session.dex.length orders + 1 ≤ _
    omega
  · next hpos =>
    have hothers : ∀ call ∈ (session.outline slots).outstanding.eraseIdx position,
        call.name = .staleOrders := fun call hmem ↦ hbatch call (List.mem_of_mem_eraseIdx hmem)
    rw [hdiscount, rank_awaiting hslot hphase, sum_left hothers, herased, hrank]
    constructor
    · left
      refine ⟨h.ended, h.status, h.dexes, h.orders, h.settled,
        .batch hstate hphase ?_ hothers herased.symm hdetails⟩
      intro hempty
      apply hpos
      rw [← herased]
      exact congrArg List.length hempty
    · show counter + 1 + session.download.remaining session.dex.length orders + 1 ≤ _
      omega

/-- A reply that ends no process and whose next request is sent moves the download on. -/
theorem moves_reply (torn : Bool) (h : (session.outline slots).UnderWay orders) {position : Nat}
    {waiting : Outstanding} (hwaiting : session.outstanding[position]? = some waiting)
    (hredirected : reply.redirected = false) (hsent : reply.sent = .ok ()) :
    Session.Moves slots orders 1 session
      ((session.answered position waiting.call reply.successful).perform torn
        (ack http session.dex session.downloadStaleOrdersCounter reply waiting.call)) := by
  have hcall : (session.outline slots).outstanding[position]? = some waiting.call := by
    rw [show (session.outline slots).outstanding = session.outstanding.map Outstanding.call from
      rfl, List.getElem?_map, hwaiting]
    rfl
  cases h.waits with
  | subscription _ houtstanding =>
    rw [houtstanding] at hcall
    cases hcall
  | queue _ _ houtstanding =>
    rw [houtstanding] at hcall
    cases hcall
  | timer _ _ houtstanding =>
    rw [houtstanding] at hcall
    cases hcall
  | chain state ofChain phase houtstanding hcounter hleft =>
    rw [houtstanding] at hcall
    cases position with
    | zero =>
      cases hcall
      exact moves_reply_chain http h state ofChain phase houtstanding hcounter hleft hredirected
        hsent
    | succ position => cases hcall
  | batch state phase _ ofBatch hcounter hdetails =>
    exact moves_reply_batch http h state phase ofBatch hcounter hdetails hcall hredirected

end Replies

end OrderEntry

end Hyperliquid.Gateway
