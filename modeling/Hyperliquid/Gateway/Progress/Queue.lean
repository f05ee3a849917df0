import Hyperliquid.Gateway.Progress.Outline

/-!
# How the queue moves a download on

`check_request_queue`, `src/roq/hyperliquid/gateway/order_entry.cpp:885–902`, sends the first
request of the slot that the download waits for, or a batch of stale orders.
-/

namespace Hyperliquid.Gateway

open Hyperliquid.Base

variable {library : LimitRequest} {slots : SlotPhases library}

namespace OrderEntry

variable {torn : Bool} {outline outline' : Outline}

/-- A session has an outline. -/
def Shows (slots : SlotPhases library) (outline : Outline) (session : Session library) : Prop :=
  session.outline slots = outline

/-- A procedure that returns. -/
def Never : Failure Web.Exception → Session library → Prop := fun _ _ ↦ False

private theorem perform_of_shows {handler : Proc (Effect library) Web.Exception Unit}
    (h : Proc.Triple (Session.apply torn) (Shows slots outline) handler
      (fun _ ↦ Shows slots outline') Never)
    {session : Session library} (hsession : Shows slots outline session) :
    Shows slots outline' (session.perform torn handler) := by
  unfold Session.perform
  cases hresult : handler.result with
  | ok a => exact h.ok session a hsession hresult
  | error failure => exact (h.error session failure hsession hresult).elim

/-- The outline after a request. -/
def sends (outline : Outline) (calls : List Call) : Outline :=
  { outline with outstanding := outline.outstanding ++ calls }

/-- A request that is sent is in flight. -/
theorem outline_send (session : Session library) (call : Call) :
    (session.apply torn (.send call)).outline slots = sends (session.outline slots) [call] :=
  Outline.ext rfl rfl List.map_append rfl rfl rfl rfl rfl

private theorem shows_sendRequest (outline : Outline) (call : Call) :
    Proc.Triple (Session.apply torn) (Shows slots outline) (sendRequest (.ok ()) call)
      (fun _ ↦ Shows slots (sends outline [call])) Never := by
  apply Proc.Triple.emit
  intro session hsession
  cases hsession
  exact outline_send session call

/-- The outline after a batch of stale orders. -/
def batch (outline : Outline) (orders : List OrderKey) : Outline :=
  { sends outline (orders.map .orderStatus) with
    downloadStaleOrdersCounter := outline.downloadStaleOrdersCounter + orders.length
    detailsStaleOrders := [] }

private theorem shows_requestOrders {inputs : QueueInputs library}
    (hsent : ∀ call, inputs.sent call = .ok ()) (outline : Outline) (orders : List OrderKey) :
    Proc.Triple (Session.apply torn) (Shows slots outline) (requestOrders inputs orders)
      (fun _ ↦ Shows slots (batch outline (orders.filter inputs.findOrder))) Never := by
  induction orders generalizing outline with
  | nil =>
    apply Proc.Triple.emit
    intro session hsession
    cases hsession
    exact Outline.ext (funext fun name ↦ by cases name <;> rfl) rfl (List.append_nil _).symm rfl
      rfl rfl rfl rfl
  | cons order orders ih =>
    rw [requestOrders]
    by_cases hfind : inputs.findOrder order = true
    · rw [if_pos hfind, List.filter_cons_of_pos hfind, getOrderStatus, hsent]
      apply (shows_sendRequest outline (.orderStatus order)).bind
      intro _ _
      have hcount : Proc.Triple (Session.apply torn)
          (Shows slots (sends outline [.orderStatus order])) (Proc.emit .countOrder)
          (fun _ ↦ Shows slots
            { sends outline [.orderStatus order] with
              downloadStaleOrdersCounter := outline.downloadStaleOrdersCounter + 1 }) Never := by
        apply Proc.Triple.emit
        intro session hsession
        exact congrArg (fun outline : Outline ↦ { outline with
          downloadStaleOrdersCounter := outline.downloadStaleOrdersCounter + 1 }) hsession
      apply hcount.bind
      intro _ _
      apply (ih _).mono _ fun _ _ h ↦ h
      intro _ session hsession
      refine hsession.trans (Outline.ext rfl rfl ?_ ?_ rfl rfl rfl rfl)
      · exact List.append_assoc ..
      · show _ + 1 + _ = _ + (_ + 1)
        omega
    · rw [if_neg hfind, List.filter_cons_of_neg hfind]
      exact ih outline

/-- A batch whose requests are sent returns. -/
theorem requestOrders_returns {inputs : QueueInputs library}
    (hsent : ∀ call, inputs.sent call = .ok ()) (orders : List OrderKey) :
    (requestOrders inputs orders).result = .ok () := by
  induction orders with
  | nil => rfl
  | cons order orders ih =>
    rw [requestOrders]
    split
    · rw [getOrderStatus, hsent]
      exact ih
    · exact ih

section Queue

variable (request : Request library) (inputs : QueueInputs library) (dex : List Dex)

/-- What `check_request_queue` calls back for a slot. -/
def callback : RequestName → Proc (Effect library) Web.Exception Unit
  | .spotClearingHouseState => getSpotClearingHouseState (inputs.sent .spotClearingHouseState)
  | .clearingHouseState => getClearingHouseState dex (inputs.sent (.clearingHouseState 0)) 0
  | .openOrders => getOpenOrders dex (inputs.sent (.openOrders 0)) 0
  | .staleOrders => requestOrders inputs request.detailsStaleOrders
  | .trades => getUserFills dex (inputs.sent (.userFills 0)) 0

/-- The slots in the order of the queue. -/
def queueNames : List RequestName :=
  [.spotClearingHouseState, .clearingHouseState, .openOrders, .staleOrders, .trades]

/-- The queue from a slot on. -/
def queueFrom : List RequestName → Proc (Effect library) Web.Exception Unit
  | [] => pure ()
  | name :: names => do
    checkPending request inputs name (callback request inputs dex name)
    queueFrom names

private theorem checkRequestQueue_eq :
    checkRequestQueue request inputs dex = queueFrom request inputs dex queueNames := by
  simp only [checkRequestQueue, queueNames, queueFrom, callback, Proc.bind_pure_unit]

variable {request inputs dex}

/-- A condition that is passed on from slot to slot. -/
theorem triple_queue {P : List RequestName → Session library → Prop}
    (h : ∀ name names, (name :: names) <:+ queueNames →
      Proc.Triple (Session.apply torn) (P (name :: names))
        (checkPending request inputs name (callback request inputs dex name)) (fun _ ↦ P names)
        Never) :
    Proc.Triple (Session.apply torn) (P queueNames) (checkRequestQueue request inputs dex)
      (fun _ ↦ P []) Never := by
  have hfrom : ∀ names, names <:+ queueNames → Proc.Triple (Session.apply torn) (P names)
      (queueFrom request inputs dex names) (fun _ ↦ P []) Never := by
    intro names
    induction names with
    | nil => exact fun _ ↦ Proc.Triple.pure fun _ hP ↦ hP
    | cons name names ih =>
      intro hnames
      apply (h name names hnames).bind
      exact fun _ _ ↦ ih ((List.suffix_cons name names).trans hnames)
  rw [checkRequestQueue_eq]
  exact hfrom queueNames (List.suffix_refl _)

/-- A slot that does not fire. -/
theorem shows_checkPending_quiet {name : RequestName} {place : SlotPhase}
    (hrequest : slots.phase (request.slot name) = some place)
    (hquiet : (slots.granted (inputs.input name) && place = .pending) = false)
    (houtline : outline.phase name = some place)
    (callback : Proc (Effect library) Web.Exception Unit) :
    Proc.Triple (Session.apply torn) (Shows slots outline)
      (checkPending request inputs name callback) (fun _ ↦ Shows slots outline) Never := by
  unfold checkPending
  rw [slots.fires_eq _ _ place hrequest, hquiet, if_neg Bool.false_ne_true]
  apply Proc.Triple.emit
  intro session hsession
  have hplace : slots.phase (session.request.slot name) = some place := by
    rw [← houtline, ← hsession]
    rfl
  have hphase := session.outline_modify slots name
    (slots.phase_checkPending (inputs.input name) _ place hplace hquiet)
  have hsame : (session.outline slots).phase =
      Function.update (session.outline slots).phase name (some place) := by
    rw [← hplace]
    exact (Function.update_eq_self name _).symm
  have houtline' : (session.apply torn (.checkPending name (inputs.input name) false)).outline
      slots = session.outline slots :=
    Outline.ext (hphase.trans hsame.symm) (Request.detailsStaleOrders_modify ..) rfl rfl rfl rfl
      rfl rfl
  exact houtline'.trans hsession

/-- The outline after a slot has fired. -/
def fires (outline : Outline) (name : RequestName) : Outline :=
  { outline with phase := Function.update outline.phase name (some .inFlight) }

/-- A pending slot that fires. -/
theorem shows_checkPending_fires {name : RequestName}
    (hrequest : slots.phase (request.slot name) = some .pending)
    (hgranted : slots.granted (inputs.input name) = true)
    (houtline : outline.phase name = some .pending)
    {callback : Proc (Effect library) Web.Exception Unit} (hresult : callback.result = .ok ())
    (hcallback : Proc.Triple (Session.apply torn) (Shows slots (fires outline name)) callback
      (fun _ ↦ Shows slots outline') Never) :
    Proc.Triple (Session.apply torn) (Shows slots outline)
      (checkPending request inputs name callback) (fun _ ↦ Shows slots outline') Never := by
  unfold checkPending
  rw [slots.fires_eq _ _ .pending hrequest, hgranted, if_pos (by rfl), hresult]
  refine Proc.Triple.bind (R := fun _ ↦ Shows slots (fires outline name)) ?_
    fun _ _ ↦ hcallback
  apply Proc.Triple.emit
  intro session hsession
  have hplace : slots.phase (session.request.slot name) = some .pending := by
    rw [← houtline, ← hsession]
    rfl
  have hphase := session.outline_modify slots name
    (slots.phase_fired (inputs.input name) _ hplace hgranted)
  cases hsession
  exact Outline.ext hphase (Request.detailsStaleOrders_modify ..) rfl rfl rfl rfl rfl rfl

end Queue

section MovesQueue

variable {orders : Nat} {session : Session library} {inputs : QueueInputs library}

/-- The queue calls back for the slot that the download waits for. -/
def serves (slots : SlotPhases library) (session : Session library)
    (inputs : QueueInputs library) : Bool :=
  session.download.slot?.any fun name ↦
    slots.granted (inputs.input name) &&
      decide (slots.phase (session.request.slot name) = some .pending)

/-- A queue in which no slot fires changes nothing. -/
theorem outline_queue_quiet
    (h : ∀ name, ∃ place, (session.outline slots).phase name = some place ∧
      (slots.granted (inputs.input name) && place = .pending) = false) :
    (session.perform torn (checkRequestQueue session.request inputs session.dex)).outline slots =
      session.outline slots := by
  apply @perform_of_shows _ slots torn (session.outline slots) _ _ _ _ rfl
  apply triple_queue (P := fun _ ↦ Shows slots (session.outline slots))
  intro name names _
  obtain ⟨place, hphase, hquiet⟩ := h name
  exact shows_checkPending_quiet hphase hquiet hphase _

/-- A queue in which one slot fires. -/
theorem outline_queue_fires {current : RequestName}
    (hphase : (session.outline slots).phase current = some .pending)
    (hgranted : slots.granted (inputs.input current) = true)
    (hothers : ∀ name, name ≠ current → (session.outline slots).Settled name)
    (houtline' : ∀ name, name ≠ current →
      outline'.phase name = (session.outline slots).phase name)
    (hresult : (callback session.request inputs session.dex current).result = .ok ())
    (hcallback : Proc.Triple (Session.apply torn)
      (Shows slots (fires (session.outline slots) current))
      (callback session.request inputs session.dex current) (fun _ ↦ Shows slots outline') Never) :
    (session.perform torn (checkRequestQueue session.request inputs session.dex)).outline slots =
      outline' := by
  apply @perform_of_shows _ slots torn (session.outline slots) _ _ _ _ rfl
  have hqueue := @triple_queue _ torn session.request inputs session.dex
    (fun names ↦ Shows slots (if current ∈ names then session.outline slots else outline')) ?_
  · have hcurrent : current ∈ queueNames := by cases current <;> decide
    rw [if_pos hcurrent] at hqueue
    exact hqueue
  intro name names hnames
  by_cases hname : name = current
  · subst hname
    have hnodup : (name :: names).Nodup := hnames.sublist.nodup (by decide)
    rw [if_pos (List.mem_cons_self ..), if_neg (List.nodup_cons.mp hnodup).1]
    exact shows_checkPending_fires hphase hgranted hphase hresult hcallback
  · have hmem : current ∈ name :: names ↔ current ∈ names := by
      rw [List.mem_cons, or_iff_right fun h ↦ hname h.symm]
    obtain ⟨place, hplace, hne⟩ : ∃ place, (session.outline slots).phase name = some place ∧
        place ≠ .pending := by
      rcases hothers name hname with hidle | hanswered
      · exact ⟨_, hidle, nofun⟩
      · exact ⟨_, hanswered, nofun⟩
    have hquiet : (slots.granted (inputs.input name) && place = .pending) = false := by
      rw [decide_eq_false hne, Bool.and_false]
    simp only [hmem]
    apply shows_checkPending_quiet hplace hquiet
    split
    · exact hplace
    · rw [houtline' name hname, hplace]

private theorem moves_queue_quiet (h : (session.outline slots).UnderWay orders)
    (hcurrent : ∀ name, session.download.slot? = some name → ∃ place,
      (session.outline slots).phase name = some place ∧
        (slots.granted (inputs.input name) && place = .pending) = false) :
    Session.Moves slots orders (serves slots session inputs).toNat session
      (session.perform torn (checkRequestQueue session.request inputs session.dex)) := by
  have hserves : serves slots session inputs = false := by
    unfold serves
    cases hslot : session.download.slot? with
    | none => rfl
    | some name =>
      obtain ⟨place, hphase, hquiet⟩ := hcurrent name hslot
      show (_ && decide (slots.phase _ = _)) = false
      rw [show slots.phase _ = some place from hphase]
      simpa only [Option.some.injEq] using hquiet
  have houtline : (session.perform torn
      (checkRequestQueue session.request inputs session.dex)).outline slots =
        session.outline slots := by
    apply outline_queue_quiet
    intro name
    by_cases hname : session.download.slot? = some name
    · exact hcurrent name hname
    · rcases h.settled name hname with hidle | hanswered
      · exact ⟨_, hidle, Bool.and_false _⟩
      · exact ⟨_, hanswered, Bool.and_false _⟩
  unfold Session.Moves
  rw [hserves, houtline]
  exact ⟨.inl h, Nat.le_refl _⟩

/-- The slot that the download waits for fires. -/
theorem moves_queue_fires (h : (session.outline slots).UnderWay orders) {current : RequestName}
    (hslot : session.download.slot? = some current)
    (hphase : (session.outline slots).phase current = some .pending)
    (hgranted : slots.granted (inputs.input current) = true)
    (houtline' : ∀ name, name ≠ current →
      outline'.phase name = (session.outline slots).phase name)
    (hresult : (callback session.request inputs session.dex current).result = .ok ())
    (hcallback : Proc.Triple (Session.apply torn)
      (Shows slots (fires (session.outline slots) current))
      (callback session.request inputs session.dex current) (fun _ ↦ Shows slots outline') Never)
    (hunderWay : outline'.UnderWay orders)
    (hrank : outline'.rank orders + 1 ≤ (session.outline slots).rank orders) :
    Session.Moves slots orders (serves slots session inputs).toNat session
      (session.perform torn (checkRequestQueue session.request inputs session.dex)) := by
  have hserves : serves slots session inputs = true := by
    unfold serves
    rw [hslot]
    show (_ && decide (slots.phase _ = _)) = true
    rw [hgranted, Bool.true_and]
    exact decide_eq_true hphase
  have hothers : ∀ name, name ≠ current → (session.outline slots).Settled name := by
    intro name hname
    exact h.settled name fun hslot' ↦ hname (Option.some.inj (hslot'.symm.trans hslot))
  unfold Session.Moves
  rw [hserves, outline_queue_fires hphase hgranted hothers houtline' hresult hcallback]
  exact ⟨.inl hunderWay, hrank⟩

private theorem settled_fires {current name : RequestName} (hname : name ≠ current)
    (h : outline.Settled name) : (fires outline current).Settled name := by
  unfold Outline.Settled fires
  dsimp only
  rw [Function.update_of_ne hname]
  exact h

/-- The first request of a chain. -/
theorem underWay_chain (h : outline.UnderWay orders) {call : Call}
    (hslot : outline.download.slot? = some call.name) (hcall : call.name ≠ .staleOrders)
    (houtstanding : outline.outstanding = []) (hcounter : outline.downloadStaleOrdersCounter = 0)
    (hleft : 0 < call.left outline.dexes) :
    (sends (fires outline call.name) [call]).UnderWay orders ∧
      (sends (fires outline call.name) [call]).rank orders =
        call.left outline.dexes + 1 + outline.download.remaining outline.dexes orders := by
  have hcalls : (sends (fires outline call.name) [call]).outstanding = [call] := by
    show outline.outstanding ++ [call] = [call]
    rw [houtstanding, List.nil_append]
  have hphase : (sends (fires outline call.name) [call]).phase call.name = some .inFlight :=
    Function.update_self ..
  constructor
  · refine ⟨h.ended, h.status, h.dexes, h.orders, ?_,
      .chain hslot hcall hphase hcalls hcounter hleft⟩
    intro name hname
    exact settled_fires (fun heq ↦ hname (heq ▸ hslot)) (h.settled name hname)
  · have hslot' : (sends (fires outline call.name) [call]).download.slot? = some call.name := hslot
    rw [Outline.rank_of_inFlight hslot' hphase, hcalls, List.map_singleton, List.sum_singleton]
    rfl

/-- The requests of a batch wait for one reply each. -/
theorem sum_left {calls : List Call} (h : ∀ call ∈ calls, call.name = .staleOrders)
    (dexes : Nat) : (calls.map (Call.left dexes)).sum = calls.length := by
  induction calls with
  | nil => rfl
  | cons call calls ih =>
    have hcall : call.left dexes = 1 := by
      have hname := h call (List.mem_cons_self ..)
      cases call <;> first | rfl | cases hname
    have hcalls : ∀ other ∈ calls, other.name = .staleOrders :=
      fun other hmem ↦ h other (List.mem_cons_of_mem _ hmem)
    rw [List.map_cons, List.sum_cons, hcall, ih hcalls, List.length_cons, Nat.add_comm]

/-- The requests of a batch of stale orders, of which some are found. -/
theorem underWay_batch (h : outline.UnderWay orders) (hstate : outline.download = .getStaleOrders)
    (houtstanding : outline.outstanding = []) (hcounter : outline.downloadStaleOrdersCounter = 0)
    {found : List OrderKey} (hfound : found ≠ []) :
    (batch (fires outline .staleOrders) found).UnderWay orders ∧
      (batch (fires outline .staleOrders) found).rank orders =
        found.length + 1 + outline.download.remaining outline.dexes orders := by
  have hcalls : (batch (fires outline .staleOrders) found).outstanding =
      found.map .orderStatus := by
    show outline.outstanding ++ found.map .orderStatus = _
    rw [houtstanding, List.nil_append]
  have hphase : (batch (fires outline .staleOrders) found).phase .staleOrders =
      some .inFlight := by
    simp only [batch, sends, fires, Function.update_self]
  have hslot : (batch (fires outline .staleOrders) found).download.slot? = some .staleOrders :=
    congrArg DownloadState.slot? hstate
  have hbatch : ∀ call ∈ (batch (fires outline .staleOrders) found).outstanding,
      call.name = .staleOrders := by
    rw [hcalls]
    exact List.forall_mem_map.mpr fun _ _ ↦ rfl
  have hlength : (batch (fires outline .staleOrders) found).outstanding.length = found.length := by
    rw [hcalls, List.length_map]
  constructor
  · refine ⟨h.ended, h.status, h.dexes, Nat.zero_le _, ?_,
      .batch hstate hphase ?_ hbatch ?_ rfl⟩
    · intro name hname
      have hne : name ≠ .staleOrders := by
        rintro rfl
        exact hname hslot
      exact settled_fires hne (h.settled name hname)
    · rw [hcalls]
      simpa using hfound
    · rw [hlength]
      show outline.downloadStaleOrdersCounter + found.length = _
      omega
  · rw [Outline.rank_of_inFlight hslot hphase, sum_left hbatch, hlength]
    rfl

/-- The first request of a chain is sent. -/
theorem shows_callback (hsent : ∀ call, inputs.sent call = .ok ()) (hdex : 0 < session.dex.length)
    {call : Call} (hname : call.name ≠ .staleOrders) (hfirst : call.earlier = []) :
    callback session.request inputs session.dex call.name = sendRequest (.ok ()) call := by
  have hzero : ∀ {f : Nat → Call} {index : Nat}, (List.range index).map f = [] → index = 0 := by
    intro f index h
    simpa using h
  cases call with
  | spotClearingHouseState =>
    simp only [callback, Call.name, getSpotClearingHouseState, hsent]
  | clearingHouseState index =>
    cases hzero hfirst
    simp only [callback, Call.name, getClearingHouseState, getDex, hdex, if_true, hsent]
  | openOrders index =>
    cases hzero hfirst
    simp only [callback, Call.name, getOpenOrders, getDex, hdex, if_true, hsent]
  | orderStatus order => exact absurd rfl hname
  | userFills index =>
    cases hzero hfirst
    simp only [callback, Call.name, getUserFills, getDex, hdex, if_true, hsent]

/-- The queue sends what the download waits for. -/
theorem moves_queue (h : (session.outline slots).UnderWay orders)
    (hsent : ∀ call, inputs.sent call = .ok ())
    (hfind : session.download = .getStaleOrders → session.request.detailsStaleOrders ≠ [] →
      ∃ order ∈ session.request.detailsStaleOrders, inputs.findOrder order = true) :
    Session.Moves slots orders (serves slots session inputs).toNat session
      (session.perform torn (checkRequestQueue session.request inputs session.dex)) := by
  have hquiet : ∀ current place, session.download.slot? = some current →
      (session.outline slots).phase current = some place →
        (slots.granted (inputs.input current) && place = .pending) = false →
          Session.Moves slots orders (serves slots session inputs).toNat session
            (session.perform torn (checkRequestQueue session.request inputs session.dex)) := by
    intro current place hslot hphase hquiet
    apply moves_queue_quiet h
    intro name hname
    cases hslot.symm.trans hname
    exact ⟨place, hphase, hquiet⟩
  cases h.waits with
  | subscription state =>
    apply moves_queue_quiet h
    intro name hname
    cases (DownloadState.slot?_of_subscription? state).symm.trans hname
  | chain state _ phase => exact hquiet _ _ state phase (Bool.and_false _)
  | batch state phase =>
    exact hquiet _ _ (congrArg DownloadState.slot? state) phase (Bool.and_false _)
  | timer state phase => exact hquiet _ _ state phase (Bool.and_false _)
  | @queue name state phase houtstanding hcounter hdetails =>
    by_cases hgranted : slots.granted (inputs.input name) = true
    · have hchain : ∀ call : Call, name = call.name → call.name ≠ .staleOrders →
          call.earlier = [] → 0 < call.left session.dex.length →
            call.left session.dex.length + 2 ≤
              session.download.cost session.dex.length orders →
            Session.Moves slots orders (serves slots session inputs).toNat session
              (session.perform torn
                (checkRequestQueue session.request inputs session.dex)) := by
        intro call hname hother hfirst hleft hcost
        subst hname
        have hcallback := shows_callback hsent h.dexes hother hfirst
        obtain ⟨hunderWay, hrank⟩ := underWay_chain h state hother houtstanding hcounter hleft
        apply moves_queue_fires h state phase hgranted _ (by rw [hcallback]; rfl)
          (by rw [hcallback]; exact shows_sendRequest _ call) hunderWay
        · rw [hrank, Outline.rank_of_pending state phase]
          show call.left session.dex.length + 1 + _ + 1 ≤
            session.download.cost session.dex.length orders + _
          omega
        · intro other hne
          exact Function.update_of_ne hne ..
      have hcost := DownloadState.cost_of_slot? state session.dex.length orders
      cases name with
      | spotClearingHouseState =>
        exact hchain .spotClearingHouseState rfl nofun rfl Nat.one_pos (Nat.le_of_eq hcost.symm)
      | clearingHouseState =>
        exact hchain (.clearingHouseState 0) rfl nofun rfl h.dexes (Nat.le_of_eq hcost.symm)
      | openOrders => exact hchain (.openOrders 0) rfl nofun rfl h.dexes (Nat.le_of_eq hcost.symm)
      | trades => exact hchain (.userFills 0) rfl nofun rfl h.dexes (Nat.le_of_eq hcost.symm)
      | staleOrders =>
        have hstate : session.download = .getStaleOrders := DownloadState.slot?_inj state rfl
        obtain ⟨order, horder, hfound⟩ := hfind hstate (hdetails rfl)
        have hsome : session.request.detailsStaleOrders.filter inputs.findOrder ≠ [] :=
          List.ne_nil_of_mem (List.mem_filter.mpr ⟨horder, hfound⟩)
        obtain ⟨hunderWay, hrank⟩ := underWay_batch h hstate houtstanding hcounter hsome
        apply moves_queue_fires h state phase hgranted _ (requestOrders_returns hsent _)
          (shows_requestOrders hsent _ _) hunderWay
        · have hlength : (session.request.detailsStaleOrders.filter inputs.findOrder).length ≤
              orders := Nat.le_trans (List.length_filter_le ..) h.orders
          rw [hrank, Outline.rank_of_pending state phase]
          show _ + 1 + _ + 1 ≤ session.download.cost session.dex.length orders + _
          rw [show session.download.cost session.dex.length orders = orders + 2 from hcost]
          omega
        · intro other hne
          exact Function.update_of_ne hne ..
    · exact hquiet _ _ state phase (by rw [Bool.eq_false_of_not_eq_true hgranted]; rfl)

end MovesQueue

end OrderEntry

end Hyperliquid.Gateway
