import Hyperliquid.Gateway.OrderCounter

/-!
# Batches of stale orders

`DropCopy` asks for the orders that it believes to be stale through one slot and one set, and
`OrderEntry` sends a request for each: `src/roq/hyperliquid/gateway/drop_copy.cpp:512–567` and
`order_entry.cpp:889–901`. Neither the slot nor the set says which batch a reply belongs to,
and a batch without a request has no reply.
-/

namespace Hyperliquid.Gateway

open Hyperliquid.Base

/-- When a slot of `core::limit::Request` is in flight: from a call of `check_pending` that
calls its callback until a call of `commit`. -/
structure Flight (library : LimitRequest) where
  inFlight : library.Slot → Bool
  inFlight_new : inFlight library.new = false
  inFlight_request : ∀ slot, inFlight (library.request slot) = inFlight slot
  inFlight_commit : ∀ slot, inFlight (library.commit slot) = false
  inFlight_checkPending : ∀ input threw slot,
    inFlight (library.checkPending input threw slot) = true →
      inFlight slot = true ∨ library.fires input slot = true

/-- A slot whose callback has thrown is still pending. -/
def oneSlotFlight : Flight oneSlot where
  inFlight slot := slot.inFlight
  inFlight_new := rfl
  inFlight_request _ := rfl
  inFlight_commit _ := rfl
  inFlight_checkPending := by
    intro canRequest threw slot h
    by_cases hfires : (canRequest && slot.pending) = true
    · exact Or.inr hfires
    · left
      have hsame : oneSlot.checkPending canRequest threw slot = slot :=
        if_neg fun hcondition ↦ hfires (Bool.and_eq_true_iff.mp hcondition).1
      rwa [hsame] at h

namespace OrderEntry

variable {library : LimitRequest}

/-- A batch only sends and counts requests, and clears the set. -/
def BatchAllows : Effect library → Prop
  | .send call => call.name = .staleOrders
  | .countOrder => True
  | .clearStaleOrders => True
  | _ => False

private theorem emits_batch (inputs : QueueInputs library) (orders : List OrderKey) :
    (requestOrders inputs orders).Emits BatchAllows := by
  induction orders with
  | nil => exact (Proc.emits_emit _).mpr trivial
  | cons order orders ih =>
    have hsend : (getOrderStatus (inputs.sent (.orderStatus order)) order :
        Proc (Effect library) Web.Exception Unit).Emits BatchAllows :=
      (Proc.emits_ofThrows _).bind fun _ _ ↦ (Proc.emits_emit _).mpr rfl
    rw [requestOrders]
    split
    · apply hsend.bind
      intro _ _
      exact ((Proc.emits_emit _).mpr trivial).bind fun _ _ ↦ ih
    · exact ih

/-- A batch that has sent a request keeps one. -/
theorem unanswered_apply_batch {session : Session library} {effect : Effect library}
    (h : 0 < session.unanswered) (heffect : BatchAllows effect) :
    0 < (session.apply false effect).unanswered := by
  cases effect with
  | send call =>
    have hle : session.unanswered ≤ (session.apply false (.send call)).unanswered :=
      (List.sublist_append_left _ _).countP_le
    omega
  | countOrder => exact h
  | clearStaleOrders => exact h
  | _ => exact heffect.elim

/-- A batch throws, but does not end the process. -/
theorem requestOrders_result (inputs : QueueInputs library) (orders : List OrderKey)
    (text : String) : (requestOrders inputs orders).result ≠ .error (.fatal text) := by
  induction orders with
  | nil => exact nofun
  | cons order orders ih =>
    rw [requestOrders]
    split
    · cases hsent : inputs.sent (.orderStatus order) with
      | error e => simp [getOrderStatus, sendRequest, Proc.ofThrows, Proc.throw, bind]
      | ok _ => exact ih
    · exact ih

/-- A batch throws if the request for the first order that is found does. -/
theorem requestOrders_throws {inputs : QueueInputs library} {orders : List OrderKey}
    {order : OrderKey} (h : order ∈ orders.find? inputs.findOrder)
    (hsent : (inputs.sent (.orderStatus order)).isOk = false) :
    (requestOrders inputs orders).result.isOk = false := by
  induction orders with
  | nil => simp at h
  | cons first orders ih =>
    rw [requestOrders]
    cases hfind : inputs.findOrder first with
    | false =>
      rw [List.find?_cons_of_neg (by simp [hfind])] at h
      exact ih h
    | true =>
      rw [List.find?_cons_of_pos (by exact hfind)] at h
      cases h
      cases hresult : inputs.sent (.orderStatus order) with
      | ok _ => rw [hresult] at hsent; cases hsent
      | error e => rfl

/-- What a batch leaves, it leaves when it throws too. -/
theorem triple_batch {P Q : Session library → Prop} {inputs : QueueInputs library}
    {orders : List OrderKey}
    (h : Proc.Triple (Session.apply false) P (requestOrders inputs orders) (fun _ ↦ Q)
      fun _ ↦ Q) :
    Proc.Triple (Session.apply false) P (requestOrders inputs orders) (fun _ ↦ Q) (Fails Q) where
  ok := h.ok
  error := by
    intro session failure hP hresult
    cases failure with
    | thrown e => exact h.error session _ hP hresult
    | fatal text => exact absurd hresult (requestOrders_result inputs orders text)

/-- A batch of which the first order that is found has its request sent leaves a request. -/
theorem triple_batch_sent (inputs : QueueInputs library) {orders : List OrderKey}
    (h : ∃ order ∈ orders.find? inputs.findOrder,
      (inputs.sent (.orderStatus order)).isOk = true) :
    Proc.Triple (Session.apply false) (fun _ ↦ True) (requestOrders inputs orders)
      (fun _ (session : Session library) ↦ 0 < session.unanswered)
      fun _ session ↦ 0 < session.unanswered := by
  induction orders with
  | nil => simp at h
  | cons order orders ih =>
    rw [requestOrders]
    cases hfind : inputs.findOrder order with
    | false =>
      rw [List.find?_cons_of_neg (by simp [hfind])] at h
      exact ih h
    | true =>
      rw [List.find?_cons_of_pos (by exact hfind)] at h
      obtain ⟨first, hfirst, hsent⟩ := h
      cases hfirst
      have hthrows : Proc.Triple (Session.apply false) (fun _ : Session library ↦ True)
          (Proc.ofThrows (inputs.sent (.orderStatus order)) :
            Proc (Effect library) Web.Exception Unit) (fun _ _ ↦ True)
          fun _ session ↦ 0 < session.unanswered := by
        cases hresult : inputs.sent (.orderStatus order) with
        | ok _ => exact Proc.Triple.pure fun _ _ ↦ trivial
        | error e => rw [hresult] at hsent; cases hsent
      have hemit : Proc.Triple (Session.apply false) (fun _ : Session library ↦ True)
          (Proc.emit (.send (.orderStatus order)) : Proc (Effect library) Web.Exception Unit)
          (fun _ session ↦ 0 < session.unanswered) fun _ session ↦ 0 < session.unanswered := by
        apply Proc.Triple.emit
        intro session _
        simp [Session.unanswered, Session.apply, List.countP_append, Call.name]
      rw [if_pos rfl]
      apply (hthrows.bind fun _ _ ↦ hemit).bind
      intro _ _
      apply Proc.Triple.of_emits (A := BatchAllows)
      · exact ((Proc.emits_emit _).mpr trivial).bind fun _ _ ↦ emits_batch inputs orders
      · exact fun _ _ ↦ unanswered_apply_batch

end OrderEntry

namespace Session

variable {library : LimitRequest} (flight : Flight library)

/-- If the slot of the stale orders is in flight, a request has no reply yet. -/
def Answerable (session : Session library) : Prop :=
  flight.inFlight (session.request.slot .staleOrders) = true → 0 < session.unanswered

/-- `check_pending` of a slot before that of the stale orders does not leave the queue. -/
def returns (session : Session library) (inputs : OrderEntry.QueueInputs library) (call : Call) :
    Bool :=
  !library.fires (inputs.input call.name) (session.request.slot call.name) ||
    (inputs.sent call).isOk && (call = .spotClearingHouseState || !session.dex.isEmpty)

/-- The condition on a batch: a request is outstanding, or the first order that is found has its
request sent, or that request throws and the library does not mark the slot. -/
def SendsBatch (session : Session library) (inputs : OrderEntry.QueueInputs library) : Prop :=
  [.spotClearingHouseState, .clearingHouseState 0, .openOrders 0].all (session.returns inputs) →
    library.fires (inputs.input .staleOrders) (session.request.slot .staleOrders) = true →
      0 < session.unanswered ∨
        ∃ order ∈ session.request.detailsStaleOrders.find? inputs.findOrder,
          (inputs.sent (.orderStatus order)).isOk = true ∨
            flight.inFlight (library.checkPending (inputs.input .staleOrders) true
              (session.request.slot .staleOrders)) = false

/-- The condition on a step. -/
def Sends (session : Session library) : Event library → Prop
  | .orderEntryTimer refreshed inputs =>
    refreshed = true → session.orderEntryStatus = .ready → session.SendsBatch flight inputs
  | _ => True

private theorem ofOrders_answerable (torn : Bool) :
    OrderEntry.OfOrders torn (Answerable flight : Session library → Prop) :=
  OrderEntry.ofOrders_of_counts torn fun _ number slot ↦ flight.inFlight slot = true → 0 < number

private theorem returns_of_result {session : Session library}
    {inputs : OrderEntry.QueueInputs library}
    {call : Call} {callback : Proc (OrderEntry.Effect library) Web.Exception Unit}
    (hcallback : callback.result = .ok () → (inputs.sent call).isOk = true ∧
      (call = .spotClearingHouseState ∨ session.dex.isEmpty = false))
    (h : (OrderEntry.checkPending session.request inputs call.name callback).result = .ok ()) :
    session.returns inputs call = true := by
  unfold OrderEntry.checkPending at h
  unfold returns
  split at h
  · next hfires =>
    obtain ⟨hsent, hdex⟩ := hcallback h
    rw [hfires, hsent]
    simpa using hdex
  · next hfires => simp [hfires]

/-- A request that is sent has not thrown. -/
theorem isOk_of_sendRequest {sent : Except Web.Exception Unit} {call : Call}
    (h : (OrderEntry.sendRequest sent call : Proc (OrderEntry.Effect library) Web.Exception
      Unit).result = .ok ()) : sent.isOk = true := by
  cases sent with
  | ok _ => rfl
  | error e => cases h

/-- The request for the main exchange is sent if the list of dexes has it. -/
theorem isOk_of_getDex {call : Nat → Call} {dex : List Dex} {sent : Except Web.Exception Unit}
    (h : (OrderEntry.getDex call dex sent 0 : Proc (OrderEntry.Effect library) Web.Exception
      Unit).result = .ok ()) : sent.isOk = true ∧ dex.isEmpty = false := by
  unfold OrderEntry.getDex at h
  split at h
  · next hdex =>
    refine ⟨isOk_of_sendRequest h, ?_⟩
    rw [List.isEmpty_eq_false_iff]
    exact List.ne_nil_of_length_pos hdex
  · cases h

private theorem returns_of_reaches {session : Session library}
    {inputs : OrderEntry.QueueInputs library}
    (h : OrderEntry.Reaches session.request inputs session.dex) :
    [.spotClearingHouseState, .clearingHouseState 0, .openOrders 0].all
      (session.returns inputs) = true := by
  have hspot : session.returns inputs .spotClearingHouseState = true :=
    returns_of_result (fun hresult ↦ ⟨isOk_of_sendRequest hresult, Or.inl rfl⟩)
      h.spotClearingHouseState
  have hclearing : session.returns inputs (.clearingHouseState 0) = true :=
    returns_of_result (fun hresult ↦ (isOk_of_getDex hresult).imp id Or.inr) h.clearingHouseState
  have hopen : session.returns inputs (.openOrders 0) = true :=
    returns_of_result (fun hresult ↦ (isOk_of_getDex hresult).imp id Or.inr) h.openOrders
  simp [hspot, hclearing, hopen]

/-- A batch does not touch the slot. -/
theorem slot_apply_batch {session : Session library} {effect : OrderEntry.Effect library}
    (heffect : OrderEntry.BatchAllows effect) (name : RequestName) :
    (session.apply false effect).request.slot name = session.request.slot name := by
  cases effect with
  | send call => rfl
  | countOrder => rfl
  | clearStaleOrders => exact Request.slot_details _ _ name
  | _ => exact heffect.elim

/-- The slot of the stale orders and its requests, before a batch. -/
def BeforeBatch (session session' : Session library) : Prop :=
  session'.request.slot .staleOrders = session.request.slot .staleOrders ∧
    session.unanswered ≤ session'.unanswered

/-- A batch that meets its condition leaves a request if it leaves the slot in flight. -/
theorem Answerable.triple_batch {session : Session library} (h : session.Answerable flight)
    {inputs : OrderEntry.QueueInputs library} (hsends : session.SendsBatch flight inputs)
    (hreaches : OrderEntry.Reaches session.request inputs session.dex) :
    Proc.Triple (Session.apply false) (BeforeBatch session)
      (OrderEntry.checkPending session.request inputs .staleOrders
        (OrderEntry.requestOrders inputs session.request.detailsStaleOrders))
      (fun _ ↦ Answerable flight) (OrderEntry.Fails (Answerable flight)) := by
  have hcondition := hsends (returns_of_reaches hreaches)
  unfold OrderEntry.checkPending
  split
  · next hfires =>
    have hemit : ∀ (P : Session library → Prop) threw,
        (∀ session', BeforeBatch session session' → P (session'.apply false
          (.checkPending .staleOrders (inputs.input .staleOrders) threw))) →
        Proc.Triple (Session.apply false) (BeforeBatch session)
          (Proc.emit (.checkPending .staleOrders (inputs.input .staleOrders) threw))
          (fun _ ↦ P) (OrderEntry.Fails (Answerable flight)) :=
      fun _ _ hP ↦ Proc.Triple.emit hP
    rcases hcondition hfires with hpositive | ⟨order, horder, hrequest⟩
    · apply (hemit (fun session' ↦ 0 < session'.unanswered) _ fun session' hbefore ↦
        Nat.lt_of_lt_of_le hpositive hbefore.2).bind
      intro _ _
      apply OrderEntry.triple_batch
      apply (Proc.Triple.of_emits (OrderEntry.emits_batch inputs _)
        fun _ _ ↦ OrderEntry.unanswered_apply_batch).mono
      · exact fun _ _ h _ ↦ h
      · exact fun _ _ h _ ↦ h
    · cases hsent : (inputs.sent (.orderStatus order)).isOk with
      | true =>
        apply (hemit (fun _ ↦ True) _ fun _ _ ↦ trivial).bind
        intro _ _
        apply OrderEntry.triple_batch
        apply (OrderEntry.triple_batch_sent inputs ⟨order, horder, hsent⟩).mono
        · exact fun _ _ h _ ↦ h
        · exact fun _ _ h _ ↦ h
      | false =>
        have hmark := hrequest.resolve_left (by simp [hsent])
        rw [OrderEntry.requestOrders_throws horder hsent]
        apply (hemit (fun session' ↦
          flight.inFlight (session'.request.slot .staleOrders) = false) _ ?_).bind
        · intro _ _
          apply OrderEntry.triple_batch
          apply (Proc.Triple.of_emits (OrderEntry.emits_batch inputs _) ?_).mono
          · exact fun _ _ h hflight ↦ absurd hflight (by simp [h])
          · exact fun _ _ h hflight ↦ absurd hflight (by simp [h])
          · intro session' effect h heffect
            rw [slot_apply_batch heffect]
            exact h
        · intro session' hbefore
          show flight.inFlight (library.checkPending _ _ (session'.request.slot .staleOrders)) = _
          rw [hbefore.1]
          exact hmark
  · next hfires =>
    apply Proc.Triple.emit
    rintro session' ⟨hslot, hle⟩ hflight
    have hslot' : flight.inFlight (library.checkPending (inputs.input .staleOrders) false
        (session.request.slot .staleOrders)) = true := hslot ▸ hflight
    rcases flight.inFlight_checkPending _ _ _ hslot' with hbefore | hfires'
    · exact Nat.lt_of_lt_of_le (h hbefore) hle
    · exact absurd hfires' hfires

variable (settings : DropCopy.DownloadSettings) (http : HttpLibrary)

/-- The download asks, which does not mark a slot. -/
theorem unseen_answerable :
    DropCopy.Unseen (Answerable flight : Session library → Prop) where
  update _ _ _ _ _ _ _ := rfl
  ask name session := by
    cases name with
    | staleOrders =>
      show (flight.inFlight (library.request _) = true → _) = _
      rw [flight.inFlight_request]
      rfl
    | _ => rfl

/-- A step keeps the slot answerable if it meets the condition. -/
theorem Answerable.step {session : Session library} (h : session.Answerable flight)
    (hcounted : session.Counted) {event : Event library} (hsends : session.Sends flight event)
    (hended : (session.step settings http event).ended = false) :
    (session.step settings http event).Answerable flight := by
  have hunseen := unseen_answerable flight
  have hbefore := ended_of_step settings http hended
  unfold Session.step at hended ⊢
  rw [hbefore, if_neg Bool.false_ne_true] at hended ⊢
  cases event with
  | dropCopyReady leaves =>
    apply (hunseen.ready settings leaves session.restart).mpr
    intro hflight
    rw [session.unanswered_restart]
    exact h hflight
  | dropCopyDisconnected => exact (hunseen.disconnected session).mpr h
  | dropCopyTimer refreshed originCreateTime stale leaves =>
    exact (hunseen.timer settings refreshed originCreateTime stale leaves session).mpr h
  | subscriptionResponse type leaves =>
    exact (hunseen.subscriptionResponse settings leaves type session).mpr h
  | orderEntryConnected => exact h
  | orderEntryDisconnected => exact h
  | orderEntryTimer refreshed inputs =>
    dsimp only at hended ⊢
    split at hended
    · next hready =>
      rw [if_pos hready]
      obtain ⟨hrefreshed, hstatus⟩ := Bool.and_eq_true_iff.mp hready
      have hbatch := hsends hrefreshed (of_decide_eq_true hstatus)
      refine perform_of_triple (OrderEntry.triple_checkRequestQueue
        (OrderEntry.ofOrders_of_counts false fun _ number slot ↦
          slot = session.request.slot .staleOrders ∧ session.unanswered ≤ number)
        (ofOrders_answerable flight false) ?_ session.request inputs session.dex
        fun hreaches ↦ h.triple_batch flight hbatch hreaches) ⟨rfl, Nat.le_refl _⟩ hended
      rintro session' ⟨hslot, hle⟩ hflight
      exact Nat.lt_of_lt_of_le (h (hslot ▸ hflight)) hle
    · next hready => rwa [if_neg hready]
  | reply position reply =>
    dsimp only at hended ⊢
    cases hwaiting : session.outstanding[position]? with
    | none => exact h
    | some waiting =>
      rw [hwaiting] at hended
      have hanswered := session.unanswered_answered hwaiting waiting.call reply.successful
      obtain ⟨P, hP, htriple⟩ := hcounted.triple_ack http hwaiting reply
        (ofOrders_answerable flight waiting.torn)
        (fun hcall hflight ↦ by
          rw [if_neg hcall, Nat.add_zero] at hanswered
          exact hanswered ▸ h hflight)
        (fun _ _ hpositive _ ↦ hpositive)
        fun session' _ hflight ↦ by
          have hcommit : flight.inFlight (library.commit _) = true := hflight
          rw [flight.inFlight_commit] at hcommit
          cases hcommit
      exact perform_of_triple htriple hP hended
  | dexAdded dex => exact h

/-- In every run whose batches meet the condition, while the process goes on, a slot that is in
flight has a request without a reply. -/
theorem answerable_of_sends (library : LimitRequest) (flight : Flight library)
    (settings : DropCopy.DownloadSettings) (http : HttpLibrary) (dex : List Dex)
    (events : List (Event library))
    (hsends : Run.Along (step settings http) (Sends flight) (Session.new library dex) events)
    (hended : (events.foldl (step settings http) (Session.new library dex)).ended = false) :
    (events.foldl (step settings http) (Session.new library dex)).Answerable flight := by
  have hrun := Run.invariant_foldl
    (fun session ↦ session.ended = false → session.Counted ∧ session.Answerable flight)
    (fun session event h hsends hafter ↦ by
      obtain ⟨hcounted, hanswerable⟩ := h (ended_of_step settings http hafter)
      exact ⟨hcounted.step settings http event hafter,
        hanswerable.step flight settings http hcounted hsends hafter⟩)
    (fun _ ↦ ⟨rfl, fun hflight ↦ absurd hflight (by
      show ¬ flight.inFlight library.new = true
      simp [flight.inFlight_new])⟩) hsends
  exact (hrun hended).2

instance (session : Session library) (inputs : OrderEntry.QueueInputs library) :
    Decidable (session.SendsBatch flight inputs) :=
  inferInstanceAs (Decidable (_ → _))

instance (session : Session library) :
    (event : Event library) → Decidable (session.Sends flight event)
  | .orderEntryTimer refreshed inputs =>
    inferInstanceAs (Decidable (refreshed = true → session.orderEntryStatus = .ready →
      session.SendsBatch flight inputs))
  | .dropCopyReady _ => isTrue trivial
  | .dropCopyDisconnected => isTrue trivial
  | .dropCopyTimer _ _ _ _ => isTrue trivial
  | .subscriptionResponse _ _ => isTrue trivial
  | .orderEntryConnected => isTrue trivial
  | .orderEntryDisconnected => isTrue trivial
  | .reply _ _ => isTrue trivial
  | .dexAdded _ => isTrue trivial

/-- The two requests of a batch, after the first reply. -/
theorem answerable_of_sends_two :
    ((untilStaleOrders [(0, 1), (0, 2)] ++ [queue, .reply 0 failure]).foldl
      (step ⟨0, 0⟩ silent) (Session.new oneSlot mainDex)).Answerable oneSlotFlight :=
  answerable_of_sends oneSlot oneSlotFlight ⟨0, 0⟩ silent mainDex _ (by decide) (by decide)

/-- The queue of `OrderEntry`, which finds none of the orders. -/
def queueOfVanished : Event oneSlot :=
  .orderEntryTimer true ⟨fun _ ↦ true, fun _ ↦ .ok (), fun _ ↦ false⟩

/-- An order vanishes between being listed and being asked for: the download waits for its
slot, and no request is outstanding. -/
theorem waits_after_vanished :
    (¬ ∀ (library : LimitRequest) (flight : Flight library) (settings : DropCopy.DownloadSettings)
      (http : HttpLibrary) (dex : List Dex) (events : List (Event library)),
      (events.foldl (step settings http) (Session.new library dex)).ended = false →
        (events.foldl (step settings http) (Session.new library dex)).Answerable flight) ∧
      ((untilStaleOrders [(0, 1)] ++ [queueOfVanished]).foldl (step ⟨0, 0⟩ silent)
        (Session.new oneSlot mainDex)).download = .getStaleOrders := by
  refine ⟨?_, by decide⟩
  intro h
  have hanswerable := h oneSlot oneSlotFlight ⟨0, 0⟩ silent mainDex
    (untilStaleOrders [(0, 1)] ++ [queueOfVanished]) (by decide)
  exact absurd (hanswerable (by decide)) (by decide)

/-! ## Late replies -/

/-- While the download waits for stale orders that have not been asked for, its slot is not
committed. -/
def Unanswered (session : Session library) : Prop :=
  session.download = .getStaleOrders → session.request.detailsStaleOrders ≠ [] →
    library.committed (session.request.slot .staleOrders) = false

/-- The condition on a step: the last outstanding reply does not arrive while the download waits
for stale orders that have not been asked for. -/
def Timely (session : Session library) : Event library → Prop
  | .reply position reply =>
    session.download = .getStaleOrders → session.request.detailsStaleOrders ≠ [] →
      ∀ waiting ∈ session.outstanding[position]?, waiting.call.name = .staleOrders →
        session.downloadStaleOrdersCounter = 1 → reply.redirected = true
  | _ => True

/-- What a step of the download keeps while the process goes on. -/
def Waiting (session : Session library) : Prop := session.Unanswered ∧ session.ended = false

/-- A state that is entered asks for its stale orders; only the first one ends the process. -/
theorem waiting_download (state : DownloadState) (session : Session library)
    (h : state ≠ .undefined ∧ session.ended = false) :
    Waiting { (DropCopy.download settings state session).1 with download := state } := by
  obtain ⟨hstate, hended⟩ := h
  cases state with
  | undefined => exact absurd rfl hstate
  | getStaleOrders =>
    unfold DropCopy.download
    dsimp only
    split
    · next hempty => exact ⟨fun _ hsome ↦ absurd (List.isEmpty_iff.mp hempty) hsome, hended⟩
    · exact ⟨fun _ _ ↦ library.committed_request _, hended⟩
  | getUserFills =>
    unfold DropCopy.download
    dsimp only
    split <;> exact ⟨nofun, hended⟩
  | _ => exact ⟨nofun, hended⟩

private theorem entered_next (state : DownloadState) (session : Session library)
    (following : DownloadState) (h : state ≠ .undefined ∧ session.ended = false)
    (hzero : (DropCopy.download settings state session).2 = 0)
    (hnext : state.next = some following) :
    following ≠ .undefined ∧ (DropCopy.download settings state session).1.ended = false := by
  have hentered := (waiting_download settings state session h).2
  refine ⟨?_, hentered⟩
  rintro rfl
  cases state <;> cases hnext

/-- A check of the download waits on. -/
theorem Waiting.check {session : Session library} (h : session.Waiting) (leaves : Nat)
    (checked : DownloadState) : (DropCopy.check settings leaves checked session).Waiting := by
  have hleave : session.download = checked → ∀ following, session.download.next = some following →
      following ≠ .undefined ∧ session.ended = false := by
    rintro _ following hnext
    refine ⟨?_, h.2⟩
    rintro rfl
    cases hstate : session.download <;> rw [hstate] at hnext <;> cases hnext
  exact @Download.check_induct _ _ DownloadState.next (DropCopy.download settings)
    (fun state session ↦ state ≠ .undefined ∧ session.ended = false)
    (fun state session ↦ Waiting { session with download := state }) _
    (waiting_download settings) (entered_next settings) leaves checked session.download session h
    hleave

private theorem waiting_ready {session : Session library} (h : session.ended = false)
    (leaves : Nat) :
    (DropCopy.ready settings leaves session).Waiting :=
  @Download.enter_induct _ _ DownloadState.next (DropCopy.download settings)
    (fun state session ↦ state ≠ .undefined ∧ session.ended = false)
    (fun state session ↦ Waiting { session with download := state })
    (waiting_download settings) (entered_next settings) leaves .subscribeNotification
    (DropCopy.publish .ready session) ⟨nofun, h⟩

/-- A confirmed subscription waits on. -/
theorem Waiting.subscriptionResponse {session : Session library} (h : session.Waiting)
    (type : DropCopy.SubscriptionType) (leaves : Nat) :
    (DropCopy.subscriptionResponse settings leaves type session).Waiting := by
  cases type <;> first | exact h | exact h.check settings leaves _

/-- New stale orders are asked for. -/
theorem Waiting.checkStaleOrdersAt {session : Session library} (h : session.Waiting)
    (originCreateTime : Int) (stale : List OrderKey) :
    (DropCopy.checkStaleOrdersAt settings originCreateTime stale session).Waiting := by
  unfold DropCopy.checkStaleOrdersAt
  split
  · dsimp only
    split
    · exact ⟨fun _ _ ↦ library.committed_request _, h.2⟩
    · next hfound =>
      refine ⟨?_, h.2⟩
      intro hstate hdetails
      have hlength : (stale.foldl DropCopy.insertKey session.request.detailsStaleOrders).length =
          session.request.detailsStaleOrders.length := by
        simpa [DropCopy.checkStaleOrders] using hfound
      refine h.1 hstate fun hnil ↦ hdetails (List.eq_nil_of_length_eq_zero ?_)
      exact hlength.trans (by rw [hnil]; rfl)
  · exact h

/-- The queue of the download does not end the process. -/
theorem Waiting.checkRequestQueue {session : Session library} (h : session.Waiting) (leaves : Nat)
    (stale : List OrderKey) :
    (DropCopy.checkRequestQueue settings leaves stale session).Waiting := by
  unfold DropCopy.checkRequestQueue
  cases hstate : session.download with
  | getSpotClearingHouseState =>
    dsimp only
    split
    · exact h.check settings leaves _
    · exact h
  | getClearingHouseState =>
    dsimp only
    split
    · exact h.check settings leaves _
    · exact h
  | getOpenOrders =>
    dsimp only
    split
    · have hchecked : (DropCopy.checkStaleOrders stale session).1.Waiting := by
        refine ⟨?_, h.2⟩
        intro hsame
        have hcontra : session.download = .getStaleOrders := hsame
        rw [hstate] at hcontra
        cases hcontra
      exact hchecked.check settings leaves _
    · exact h
  | getStaleOrders =>
    dsimp only
    split
    · next hresponse =>
      split
      · exact h.check settings leaves _
      · next hdetails =>
        -- a response would have been committed before the orders were asked for
        have hcommitted := h.1 hstate fun hnil ↦ hdetails (List.isEmpty_iff.mpr hnil)
        rw [show library.committed (session.request.slot .staleOrders) = true from
          library.committed_of_hasResponse _ hresponse] at hcommitted
        cases hcommitted
    · exact h
  | getUserFills =>
    dsimp only
    split
    · exact h.check settings leaves _
    · exact h
  | _ => exact h

/-- A timer of the stream waits on. -/
theorem Waiting.timer {session : Session library} (h : session.Waiting) (refreshed : Bool)
    (originCreateTime : Int) (stale : List OrderKey) (leaves : Nat) :
    (DropCopy.timer settings refreshed originCreateTime stale leaves session).Waiting := by
  unfold DropCopy.timer
  split
  · apply Waiting.checkRequestQueue
    split
    · exact h.checkStaleOrdersAt settings originCreateTime stale
    · exact h
  · exact h

/-- Nothing but a commit answers the stale orders. -/
theorem Unanswered.apply {session : Session library} (h : session.Unanswered) (torn : Bool)
    {effect : OrderEntry.Effect library} (heffect : effect ≠ .commit .staleOrders) :
    (session.apply torn effect).Unanswered := by
  intro hstate hdetails
  cases effect with
  | checkPending name input threw =>
    have hbefore : library.committed (session.request.slot .staleOrders) = false :=
      h hstate (by cases name <;> exact hdetails)
    unfold Session.apply
    dsimp only
    by_cases hname : name = .staleOrders
    · rw [hname, Request.slot_modify_self, library.committed_checkPending]
      exact hbefore
    · rw [Request.slot_modify_of_ne _ _ (Ne.symm hname)]
      exact hbefore
  | commit name =>
    have hname : .staleOrders ≠ name := by
      rintro rfl
      exact heffect rfl
    have hbefore : library.committed (session.request.slot .staleOrders) = false :=
      h hstate (by cases name <;> exact hdetails)
    unfold Session.apply
    dsimp only
    rw [Request.slot_modify_of_ne _ _ hname]
    exact hbefore
  | clearStaleOrders => exact absurd rfl hdetails
  | _ => exact h hstate hdetails

/-- A handler that does not commit the slot. -/
theorem Unanswered.perform {session : Session library} (h : session.Unanswered) (torn : Bool)
    {handler : Proc (OrderEntry.Effect library) Web.Exception Unit}
    (hhandler : .commit .staleOrders ∉ handler.events) :
    (session.perform torn handler).Unanswered := by
  have hfold : Unanswered (handler.events.foldl (Session.apply torn) session) := by
    refine List.foldlRecOn handler.events (Session.apply torn) h ?_
    intro session' hsession effect heffect
    exact hsession.apply torn fun hsame ↦ hhandler (hsame ▸ heffect)
  unfold Session.perform
  dsimp only
  split <;> exact hfold

/-- A handler neither moves the download nor adds stale orders. -/
theorem details_perform (torn : Bool)
    (handler : Proc (OrderEntry.Effect library) Web.Exception Unit) (session : Session library) :
    (session.perform torn handler).download = session.download ∧
      ((session.perform torn handler).request.detailsStaleOrders ≠ [] →
        session.request.detailsStaleOrders ≠ []) := by
  have hfold : (handler.events.foldl (Session.apply torn) session).download = session.download ∧
      ((handler.events.foldl (Session.apply torn) session).request.detailsStaleOrders ≠ [] →
        session.request.detailsStaleOrders ≠ []) := by
    refine List.foldlRecOn (motive := fun (session' : Session library) ↦
      session'.download = session.download ∧ (session'.request.detailsStaleOrders ≠ [] →
        session.request.detailsStaleOrders ≠ [])) handler.events _ ⟨rfl, id⟩ ?_
    rintro session' ⟨hstate, hdetails⟩ effect _
    cases effect with
    | checkPending name input threw => exact ⟨hstate, by cases name <;> exact hdetails⟩
    | commit name => exact ⟨hstate, by cases name <;> exact hdetails⟩
    | clearStaleOrders => exact ⟨hstate, fun hsome ↦ absurd rfl hsome⟩
    | _ => exact ⟨hstate, hdetails⟩
  unfold Session.perform
  dsimp only
  split <;> exact hfold

/-- The slot is committed by the last reply to an order status request only. -/
theorem commit_mem_ack (dex : List Dex) (downloadStaleOrdersCounter : Nat)
    (reply : OrderEntry.Reply) {call : Call}
    (h : .commit .staleOrders ∈ (OrderEntry.ack http dex downloadStaleOrdersCounter reply call :
      Proc (OrderEntry.Effect library) Web.Exception Unit).events) :
    call.name = .staleOrders ∧ downloadStaleOrdersCounter = 1 ∧ reply.redirected = false := by
  obtain ⟨hname, hredirected, _⟩ := (OrderEntry.emits_ack http dex downloadStaleOrdersCounter reply
    call).forall_mem _ h
  refine ⟨hname.symm, ?_, hredirected⟩
  cases call with
  | orderStatus order =>
    cases downloadStaleOrdersCounter with
    | zero =>
      have hemits : (OrderEntry.getOrderStatusAck http 0 reply :
          Proc (OrderEntry.Effect library) Web.Exception Unit).Emits
            fun effect ↦ effect = .suspendFor := by
        apply Proc.Emits.bind
        · exact OrderEntry.emits_processResponse_dispatch http
            (P := fun effect ↦ effect = .suspendFor) rfl reply
        · exact fun _ _ ↦ Proc.emits_fatal _
      cases hemits.forall_mem _ h
    | succ counter => rw [(commit_mem_getOrderStatusAck_iff http counter hredirected).mp h]
  | _ => cases hname

/-- A step that is timely keeps the stale orders unanswered. -/
theorem Unanswered.step {session : Session library} (h : session.Unanswered)
    {event : Event library} (htimely : session.Timely event) :
    (session.step settings http event).Unanswered := by
  unfold Session.step
  split
  · exact h
  · next hended =>
    have hwaiting : session.Waiting := ⟨h, eq_false_of_ne_true hended⟩
    cases event with
    | dropCopyReady leaves =>
      have hrestart : session.restart.ended = false := hwaiting.2
      exact (waiting_ready settings hrestart leaves).1
    | dropCopyDisconnected => exact nofun
    | dropCopyTimer refreshed originCreateTime stale leaves =>
      exact (hwaiting.timer settings refreshed originCreateTime stale leaves).1
    | subscriptionResponse type leaves =>
      exact (hwaiting.subscriptionResponse settings type leaves).1
    | orderEntryConnected => exact h
    | orderEntryDisconnected => exact h
    | orderEntryTimer refreshed inputs =>
      dsimp only
      split
      · exact h.perform false ((OrderEntry.emits_checkRequestQueue session.request inputs
          session.dex).forall_mem _)
      · exact h
    | reply position reply =>
      dsimp only
      split
      · exact h
      · next call torn hcall =>
        by_cases hcommit : .commit .staleOrders ∈ (OrderEntry.ack http session.dex
            session.downloadStaleOrdersCounter reply call :
              Proc (OrderEntry.Effect library) Web.Exception Unit).events
        · -- the download does not wait for orders that have not been asked for
          obtain ⟨hname, hcounter, hredirected⟩ := commit_mem_ack http _ _ reply hcommit
          intro hstate hdetails
          obtain ⟨hsame, hkept⟩ := details_perform torn (OrderEntry.ack http session.dex
            session.downloadStaleOrdersCounter reply call)
            (session.answered position call reply.successful)
          have hlast := htimely (hsame ▸ hstate) (hkept hdetails) ⟨call, torn⟩ hcall hname hcounter
          rw [hredirected] at hlast
          cases hlast
        · have hanswered : (session.answered position call reply.successful).Unanswered := h
          exact hanswered.perform torn hcommit
    | dexAdded dex => exact h

/-- In every run in which the last reply of a batch never arrives while the download waits for
other stale orders, the timer of `DropCopy` does not end the process. -/
theorem ended_dropCopyTimer_of_timely (library : LimitRequest)
    (settings : DropCopy.DownloadSettings) (http : HttpLibrary) (dex : List Dex)
    (events : List (Event library))
    (htimely : Run.Along (step settings http) Timely (Session.new library dex) events)
    (hended : (events.foldl (step settings http) (Session.new library dex)).ended = false)
    (refreshed : Bool) (originCreateTime : Int) (stale : List OrderKey) (leaves : Nat) :
    ((events.foldl (step settings http) (Session.new library dex)).step settings http
      (.dropCopyTimer refreshed originCreateTime stale leaves)).ended = false := by
  have hnew : (Session.new library dex).Unanswered := fun hstate ↦ by cases hstate
  have hunanswered := Run.invariant_foldl Unanswered
    (fun session event h htimely ↦ Unanswered.step settings http h htimely) hnew htimely
  generalize events.foldl (step settings http) (Session.new library dex) = session at *
  have hwaiting := Waiting.timer settings ⟨hunanswered, hended⟩ refreshed originCreateTime stale
    leaves
  unfold step
  rw [hended, if_neg Bool.false_ne_true]
  exact hwaiting.2

instance (session : Session library) :
    (event : Event library) → Decidable (session.Timely event)
  | .reply position reply =>
    inferInstanceAs (Decidable (session.download = .getStaleOrders →
      session.request.detailsStaleOrders ≠ [] →
        ∀ waiting ∈ session.outstanding[position]?, waiting.call.name = .staleOrders →
          session.downloadStaleOrdersCounter = 1 → reply.redirected = true))
  | .dropCopyReady _ => isTrue trivial
  | .dropCopyDisconnected => isTrue trivial
  | .dropCopyTimer _ _ _ _ => isTrue trivial
  | .subscriptionResponse _ _ => isTrue trivial
  | .orderEntryConnected => isTrue trivial
  | .orderEntryDisconnected => isTrue trivial
  | .orderEntryTimer _ _ => isTrue trivial
  | .dexAdded _ => isTrue trivial

/-- Two stale orders, both answered before the timer. -/
theorem ended_dropCopyTimer_of_timely_two :
    (((untilStaleOrders [(0, 1), (0, 2)] ++ [queue, .reply 0 success, .reply 0 failure]).foldl
      (step ⟨0, 0⟩ silent) (Session.new oneSlot mainDex)).step ⟨0, 0⟩ silent
        (.dropCopyTimer true 0 [] 12)).ended = false :=
  ended_dropCopyTimer_of_timely oneSlot ⟨0, 0⟩ silent mainDex
    (untilStaleOrders [(0, 1), (0, 2)] ++ [queue, .reply 0 success, .reply 0 failure])
    (by decide) (by decide) true 0 [] 12

/-- A stale order is asked for just before the web socket disconnects, and another one is found
by the next download. -/
def secondDownload : List (Event oneSlot) :=
  downloadOnce success ++
  [.dropCopyTimer true 1 [(0, 1)] 12, queue, .dropCopyDisconnected, .dropCopyReady 12,
    .subscriptionResponse .notification 12, .subscriptionResponse .userFundings 12,
    queue, .reply 1 success, .dropCopyTimer true 0 [] 12,
    queue, .reply 1 success, .dropCopyTimer true 0 [] 12,
    .subscriptionResponse .orderUpdates 12,
    queue, .reply 1 success, .dropCopyTimer true 0 [(0, 2)] 12]

/-- The late reply commits the slot, and the timer ends the process. -/
theorem ended_after_late_reply :
    ¬ ∀ (library : LimitRequest) (settings : DropCopy.DownloadSettings) (http : HttpLibrary)
      (dex : List Dex) (events : List (Event library)),
      (events.foldl (step settings http) (Session.new library dex)).ended = false →
      ∀ refreshed originCreateTime stale leaves,
        ((events.foldl (step settings http) (Session.new library dex)).step settings http
          (.dropCopyTimer refreshed originCreateTime stale leaves)).ended = false := by
  intro h
  have hended := h oneSlot ⟨0, 0⟩ silent mainDex (secondDownload ++ [.reply 0 success])
    (by decide) true 0 [] 12
  exact absurd hended (by decide)

end Session

end Hyperliquid.Gateway
