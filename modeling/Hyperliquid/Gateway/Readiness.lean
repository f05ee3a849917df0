import Hyperliquid.Gateway.SessionRun

/-!
# When the drop copy stream is ready

READY should mean that the state of the account has been downloaded since the web socket
last became ready. The handlers of `OrderEntry` commit a slot after a failed reply too, so
this holds only of runs in which the download waits for no such reply.
-/

namespace Hyperliquid.Gateway

open Hyperliquid.Base

/-- What READY should mean: every part of the account has been received. -/
structure Ready.Complete (ready : Ready) : Prop where
  spotClearingHouseState : .spotClearingHouseState ∈ ready.received
  clearingHouseState : ∀ index < ready.dex.length, .clearingHouseState index ∈ ready.received
  openOrders : ∀ index < ready.dex.length, .openOrders index ∈ ready.received

namespace DownloadState

/-- The slot whose reply the download waits for in a state, if that reply is a part of the
account. -/
def waits : DownloadState → Option RequestName
  | getSpotClearingHouseState => some .spotClearingHouseState
  | getClearingHouseState => some .clearingHouseState
  | getOpenOrders => some .openOrders
  | _ => none

/-- The requests of a whole chain. -/
def chain (call : Nat → Call) (dex : List Dex) : List Call := (List.range dex.length).map call

/-- The successful replies that should have been received when a state is entered. -/
def required (dex : List Dex) : DownloadState → List Call
  | undefined => []
  | subscribeNotification => []
  | subscribeUserFundings => []
  | getSpotClearingHouseState => []
  | getClearingHouseState => [.spotClearingHouseState]
  | subscribeOrderUpdates => .spotClearingHouseState :: chain .clearingHouseState dex
  | getOpenOrders => .spotClearingHouseState :: chain .clearingHouseState dex
  | _ => .spotClearingHouseState :: (chain .clearingHouseState dex ++ chain .openOrders dex)

/-- Only a state that waits for a part of the account adds to what is required. -/
theorem required_next {state following : DownloadState} (dex : List Dex)
    (hnext : state.next = some following) (hwaits : state.waits = none) :
    following.required dex = state.required dex := by
  cases state <;> cases hnext <;> first | rfl | cases hwaits

end DownloadState

namespace Session

variable {library : LimitRequest}

/-- The list of dexes has been used by the download, which is not done. -/
def dexesUsed (session : Session library) : Bool :=
  match session.download with
  | .undefined => false
  | .subscribeNotification => false
  | .subscribeUserFundings => false
  | .getSpotClearingHouseState => false
  | .getClearingHouseState => library.committed session.request.clearingHouseState
  | .done => false
  | _ => true

/-- The condition on a reply that the download waits for: it is a redirection, which ends the
process, or it is successful and, where there is a next entry, its handler returns; at the
last entry its chain is not torn. -/
def SoundReply (session : Session library) (waiting : Outstanding) (reply : OrderEntry.Reply) :
    Prop :=
  session.download.waits = some waiting.call.name →
    reply.redirected = true ∨
      reply.successful = true ∧
        if (waiting.call.following session.dex).isSome then reply.dispatched.isOk = true
        else waiting.torn = false

/-- The condition on a step; the list of dexes does not grow after it has been used. -/
def Sound (session : Session library) : Event library → Prop
  | .reply position reply =>
    ∀ waiting ∈ session.outstanding[position]?, session.SoundReply waiting reply
  | .dexAdded _ => session.dexesUsed = false
  | _ => True

instance (session : Session library) (waiting : Outstanding) (reply : OrderEntry.Reply) :
    Decidable (session.SoundReply waiting reply) :=
  inferInstanceAs (Decidable (_ → _))

instance (session : Session library) : (event : Event library) → Decidable (session.Sound event)
  | .reply position reply =>
    inferInstanceAs (Decidable (∀ waiting ∈ session.outstanding[position]?,
      session.SoundReply waiting reply))
  | .dexAdded _ => inferInstanceAs (Decidable (session.dexesUsed = false))
  | .dropCopyReady _ => isTrue trivial
  | .dropCopyDisconnected => isTrue trivial
  | .dropCopyTimer _ _ _ _ => isTrue trivial
  | .subscriptionResponse _ _ => isTrue trivial
  | .orderEntryConnected => isTrue trivial
  | .orderEntryDisconnected => isTrue trivial
  | .orderEntryTimer _ _ => isTrue trivial

/-- All of some requests have had a successful reply. -/
def Received (session : Session library) (calls : List Call) : Prop :=
  ∀ call ∈ calls, call ∈ session.received

/-- What holds between the steps of a session. -/
structure Inv (session : Session library) : Prop where
  /-- the earlier requests of a chain that is not torn have been answered -/
  chains : ∀ waiting ∈ session.outstanding,
    waiting.torn = true ∨ session.Received waiting.call.earlier
  /-- what the download has passed has been received -/
  passed : session.download ≠ .done →
    session.Received (session.download.required session.dex)
  /-- what the download waits for has been received once its slot is committed -/
  committed : ∀ name following, session.download.waits = some name →
    session.download.next = some following →
    library.committed (session.request.slot name) = true →
      session.Received (following.required session.dex)
  readies : ∀ ready ∈ session.readies, ready.Complete

/-- What holds before the download enters a state. -/
structure Before (state : DownloadState) (session : Session library) : Prop where
  chains : ∀ waiting ∈ session.outstanding,
    waiting.torn = true ∨ session.Received waiting.call.earlier
  required : session.Received (state.required session.dex)
  readies : ∀ ready ∈ session.readies, ready.Complete

/-- What holds after the download has entered a state. -/
def After (state : DownloadState) (session : Session library) : Prop :=
  Inv { session with download := state }

/-- A READY that is published when all is received is complete. -/
theorem complete_of_received {session : Session library}
    (h : session.Received (DownloadState.done.required session.dex)) :
    Ready.Complete ⟨session.dex, session.received⟩ where
  spotClearingHouseState := h _ (List.mem_cons_self ..)
  clearingHouseState index hindex := by
    apply h
    apply List.mem_cons_of_mem
    apply List.mem_append_left
    exact List.mem_map_of_mem (List.mem_range.mpr hindex)
  openOrders index hindex := by
    apply h
    apply List.mem_cons_of_mem
    apply List.mem_append_right
    exact List.mem_map_of_mem (List.mem_range.mpr hindex)

/-- A state that waits for nothing can be entered. -/
theorem Before.after {state : DownloadState} {session session' : Session library}
    (h : Before state session) (hwaits : state.waits = none)
    (houtstanding : session'.outstanding = session.outstanding)
    (hdex : session'.dex = session.dex) (hreceived : session'.received = session.received)
    (hreadies : ∀ ready ∈ session'.readies, ready.Complete) : After state session' where
  chains := by
    intro waiting hwaiting
    show waiting.torn = true ∨ ∀ call ∈ waiting.call.earlier, call ∈ session'.received
    rw [hreceived]
    exact h.chains waiting (houtstanding ▸ hwaiting)
  passed _ := by
    show ∀ call ∈ state.required session'.dex, call ∈ session'.received
    rw [hdex, hreceived]
    exact h.required
  committed name following hname := by
    have hnone : state.waits = some name := hname
    rw [hwaits] at hnone
    cases hnone
  readies := hreadies

/-- A state that waits for a part of the account asks for it, so that its slot is not
committed. -/
theorem Before.ask {state : DownloadState} {session : Session library} {name : RequestName}
    (h : Before state session) (hwaits : state.waits = some name) :
    After state (DropCopy.ask name (DropCopy.publish .downloading session)) where
  chains := h.chains
  passed _ := h.required
  committed name' following hname _ hcommitted := by
    have hsame : state.waits = some name' := hname
    rw [hwaits] at hsame
    cases hsame
    have hslot : library.committed
        ((session.request.modify library.request name).slot name) = true := hcommitted
    rw [Request.slot_modify_self, library.committed_request] at hslot
    cases hslot
  readies := h.readies

variable (settings : DropCopy.DownloadSettings)

/-- Entering a state keeps the invariant. -/
theorem Before.download {state : DownloadState} {session : Session library}
    (h : Before state session) : After state (DropCopy.download settings state session).1 := by
  cases state with
  | getSpotClearingHouseState => exact h.ask rfl
  | getClearingHouseState => exact h.ask rfl
  | getOpenOrders => exact h.ask rfl
  | getStaleOrders =>
    unfold DropCopy.download
    dsimp only
    split <;> exact h.after rfl rfl rfl rfl h.readies
  | getUserFills =>
    unfold DropCopy.download
    dsimp only
    split <;> exact h.after rfl rfl rfl rfl h.readies
  | done =>
    refine h.after rfl rfl rfl rfl ?_
    intro ready hready
    rcases List.mem_append.mp hready with hearlier | hnew
    · exact h.readies ready hearlier
    · rw [List.mem_singleton.mp hnew]
      exact complete_of_received h.required
  | _ => exact h.after rfl rfl rfl rfl h.readies

private theorem one_ne_zero : (1 : Int32) ≠ 0 := by decide

/-- A state that is left at once adds nothing to what is required. -/
theorem Before.next {state following : DownloadState} {session : Session library}
    (h : Before state session) (hzero : (DropCopy.download settings state session).2 = 0)
    (hnext : state.next = some following) :
    Before following (DropCopy.download settings state session).1 := by
  cases state with
  | undefined =>
    cases hnext
    exact ⟨h.chains, h.required, h.readies⟩
  | getStaleOrders =>
    cases hnext
    unfold DropCopy.download at hzero ⊢
    dsimp only at hzero ⊢
    split at hzero
    · next hempty =>
      rw [if_pos hempty]
      exact ⟨h.chains, h.required, h.readies⟩
    · exact absurd hzero one_ne_zero
  | getUserFills =>
    cases hnext
    unfold DropCopy.download at hzero ⊢
    dsimp only at hzero ⊢
    split at hzero
    · exact absurd hzero one_ne_zero
    · next hnone =>
      rw [if_neg hnone]
      exact ⟨h.chains, h.required, h.readies⟩
  | done => cases hnext
  | _ => exact absurd hzero one_ne_zero

/-- The next state may be entered once the current one has what it waits for. -/
theorem Inv.before {session : Session library} (h : Inv session)
    (hcommitted : ∀ name, session.download.waits = some name →
      library.committed (session.request.slot name) = true) {following : DownloadState}
    (hnext : session.download.next = some following) : Before following session where
  chains := h.chains
  required := by
    cases hwaits : session.download.waits with
    | some name => exact h.committed name following hwaits hnext (hcommitted name hwaits)
    | none =>
      have hdone : session.download ≠ .done := by
        intro hdone
        rw [hdone] at hnext
        cases hnext
      rw [DownloadState.required_next session.dex hnext hwaits]
      exact h.passed hdone
  readies := h.readies

private theorem after_download (state : DownloadState) (session : Session library)
    (h : Before state session) : After state (DropCopy.download settings state session).1 :=
  h.download settings

private theorem before_next (state : DownloadState) (session : Session library)
    (following : DownloadState) (h : Before state session)
    (hzero : (DropCopy.download settings state session).2 = 0)
    (hnext : state.next = some following) :
    Before following (DropCopy.download settings state session).1 :=
  h.next settings hzero hnext

/-- A check keeps the invariant if the checked state has what it waits for. -/
theorem Inv.check {session : Session library} (h : Inv session) (leaves : Nat)
    {checked : DownloadState} (hcommitted : ∀ name, checked.waits = some name →
      library.committed (session.request.slot name) = true) :
    Inv (DropCopy.check settings leaves checked session) := by
  have hleave : session.download = checked → ∀ following, session.download.next = some following →
      Before following session := by
    rintro rfl following hfollowing
    exact h.before hcommitted hfollowing
  exact Download.check_induct (after_download settings) (before_next settings) leaves
    (show After session.download session from h) hleave

/-- The web socket becomes ready: the download begins, and nothing has been received since. -/
theorem Inv.ready {session : Session library} (h : Inv session) (leaves : Nat) :
    Inv (DropCopy.ready settings leaves session.restart) := by
  have hbefore : Before .subscribeNotification (DropCopy.publish .ready session.restart) := by
    refine ⟨?_, nofun, h.readies⟩
    intro waiting hwaiting
    obtain ⟨earlier, _, rfl⟩ := List.mem_map.mp hwaiting
    cases hcalls : earlier.call.earlier with
    | nil => exact Or.inr nofun
    | cons call calls => exact Or.inl rfl
  exact Download.enter_induct (after_download settings) (before_next settings) leaves hbefore

/-- The web socket is disconnected: the download is reset. -/
theorem Inv.disconnected {session : Session library} (h : Inv session) :
    Inv (DropCopy.disconnected session) where
  chains := h.chains
  passed _ := nofun
  committed := nofun
  readies := h.readies

/-- What the invariant depends on. -/
theorem Inv.frame {session session' : Session library} (h : Inv session)
    (houtstanding : session'.outstanding = session.outstanding)
    (hreceived : session'.received = session.received) (hdex : session'.dex = session.dex)
    (hdownload : session'.download = session.download)
    (hreadies : session'.readies = session.readies)
    (hcommitted : ∀ name, session.download.waits = some name →
      library.committed (session'.request.slot name) = true →
        library.committed (session.request.slot name) = true) : Inv session' := by
  have hsame : ∀ calls, session'.Received calls ↔ session.Received calls := by
    intro calls
    rw [Received, Received, hreceived]
  constructor
  · intro waiting hwaiting
    rw [hsame]
    exact h.chains waiting (houtstanding ▸ hwaiting)
  · intro hdone
    rw [hsame, hdownload, hdex]
    exact h.passed (hdownload ▸ hdone)
  · intro name following hname hnext hslot
    rw [hdownload] at hname hnext
    rw [hsame, hdex]
    exact h.committed name following hname hnext (hcommitted name hname hslot)
  · intro ready hready
    exact h.readies ready (hreadies ▸ hready)

/-- The stale orders are not a part of the account that the download waits for. -/
theorem Inv.ask_staleOrders {session : Session library} (h : Inv session) :
    Inv (DropCopy.ask .staleOrders session) := by
  refine h.frame rfl rfl rfl rfl rfl ?_
  intro name hname hcommitted
  have hne : name ≠ .staleOrders := by
    rintro rfl
    cases hstate : session.download <;> rw [hstate] at hname <;> cases hname
  unfold DropCopy.ask at hcommitted
  rwa [Request.slot_modify_of_ne _ _ hne] at hcommitted

/-- Stale orders that are collected keep the invariant. -/
theorem Inv.checkStaleOrders {session : Session library} (h : Inv session)
    (stale : List OrderKey) : Inv (DropCopy.checkStaleOrders stale session).1 := by
  refine h.frame rfl rfl rfl rfl rfl ?_
  intro name _ hcommitted
  simpa [DropCopy.checkStaleOrders] using hcommitted

/-- A look for stale orders keeps the invariant. -/
theorem Inv.checkStaleOrdersAt {session : Session library} (h : Inv session)
    (originCreateTime : Int) (stale : List OrderKey) :
    Inv (DropCopy.checkStaleOrdersAt settings originCreateTime stale session) := by
  unfold DropCopy.checkStaleOrdersAt
  split
  · have hlater : Inv { session with
        nextCheckStaleOrders := originCreateTime + settings.checkStaleOrderFreq } :=
      ⟨h.chains, h.passed, h.committed, h.readies⟩
    dsimp only
    split
    · exact (hlater.checkStaleOrders stale).ask_staleOrders
    · exact hlater.checkStaleOrders stale
  · exact h

/-- A state is checked when its slot has a response. -/
theorem Inv.check_of_hasResponse {session : Session library} (h : Inv session) (leaves : Nat)
    {checked : DownloadState} {name : RequestName} (hwaits : checked.waits = some name)
    (hresponse : library.hasResponse (session.request.slot name) = true) :
    Inv (DropCopy.check settings leaves checked session) := by
  apply h.check settings leaves
  intro name' hname
  rw [hwaits] at hname
  cases hname
  exact library.committed_of_hasResponse _ hresponse

/-- A look at the request of the download keeps the invariant. -/
theorem Inv.checkRequestQueue {session : Session library} (h : Inv session) (leaves : Nat)
    (stale : List OrderKey) :
    Inv (DropCopy.checkRequestQueue settings leaves stale session) := by
  unfold DropCopy.checkRequestQueue
  split
  · split
    · next hresponse => exact h.check_of_hasResponse settings leaves rfl hresponse
    · exact h
  · split
    · next hresponse => exact h.check_of_hasResponse settings leaves rfl hresponse
    · exact h
  · split
    · next hresponse =>
      exact (h.checkStaleOrders stale).check_of_hasResponse settings leaves rfl hresponse
    · exact h
  · split
    · split
      · exact h.check settings leaves nofun
      · exact ⟨h.chains, h.passed, h.committed, h.readies⟩
    · exact h
  · split
    · exact h.check settings leaves nofun
    · exact h
  · exact h

/-- A timer of the stream keeps the invariant. -/
theorem Inv.timer {session : Session library} (h : Inv session) (refreshed : Bool)
    (originCreateTime : Int) (stale : List OrderKey) (leaves : Nat) :
    Inv (DropCopy.timer settings refreshed originCreateTime stale leaves session) := by
  unfold DropCopy.timer
  split
  · apply Inv.checkRequestQueue
    split
    · exact h.checkStaleOrdersAt settings originCreateTime stale
    · exact h
  · exact h

/-- A confirmed subscription keeps the invariant. -/
theorem Inv.subscriptionResponse {session : Session library} (h : Inv session)
    (type : DropCopy.SubscriptionType) (leaves : Nat) :
    Inv (DropCopy.subscriptionResponse settings leaves type session) := by
  cases type with
  | notification => exact h.check settings leaves nofun
  | userFundings => exact h.check settings leaves nofun
  | orderUpdates => exact h.check settings leaves nofun
  | userFills => exact h.check settings leaves nofun
  | userEvents => exact h.check settings leaves nofun
  | _ => exact h

/-- An effect that keeps the invariant: a request of a torn chain or after the earlier ones of
its chain, and a commit after what the download waits for. -/
def Harmless (torn : Bool) (session : Session library) : OrderEntry.Effect library → Prop
  | .send call => torn = true ∨ session.Received call.earlier
  | .commit name => ∀ following, session.download.waits = some name →
    session.download.next = some following → session.Received (following.required session.dex)
  | _ => True

/-- The session has the history and the download of an earlier one. -/
structure SameDownload (session session' : Session library) : Prop where
  received : session'.received = session.received
  dex : session'.dex = session.dex
  download : session'.download = session.download

private theorem sameDownload_apply (torn : Bool) (session : Session library)
    (effect : OrderEntry.Effect library) : SameDownload session (session.apply torn effect) := by
  cases effect <;> exact ⟨rfl, rfl, rfl⟩

/-- A harmless effect keeps the invariant. -/
theorem Inv.apply {session : Session library} (h : Inv session) {torn : Bool}
    {effect : OrderEntry.Effect library} (hharmless : Harmless torn session effect) :
    Inv (session.apply torn effect) := by
  cases effect with
  | send call =>
    refine ⟨?_, h.passed, h.committed, h.readies⟩
    intro waiting hwaiting
    rcases List.mem_append.mp hwaiting with hearlier | hnew
    · exact h.chains waiting hearlier
    · rw [List.mem_singleton.mp hnew]
      exact hharmless
  | checkPending name input threw =>
    refine h.frame rfl rfl rfl rfl rfl ?_
    intro name' _ hcommitted
    unfold Session.apply at hcommitted
    by_cases hname : name' = name
    · rw [hname] at hcommitted ⊢
      rwa [Request.slot_modify_self, library.committed_checkPending] at hcommitted
    · rwa [Request.slot_modify_of_ne _ _ hname] at hcommitted
  | commit name =>
    refine ⟨h.chains, h.passed, ?_, h.readies⟩
    intro name' following hname hnext hcommitted
    by_cases hsame : name' = name
    · rw [hsame] at hname
      exact hharmless following hname hnext
    · have hslot : library.committed
          ((session.request.modify library.commit name).slot name') = true := hcommitted
      rw [Request.slot_modify_of_ne _ _ hsame] at hslot
      exact h.committed name' following hname hnext hslot
  | clearStaleOrders =>
    refine h.frame rfl rfl rfl rfl rfl ?_
    intro name _ hcommitted
    simpa [Session.apply] using hcommitted
  | _ => exact ⟨h.chains, h.passed, h.committed, h.readies⟩

/-- Whether an effect is harmless depends on the history and the download only. -/
theorem harmless_congr {session session' : Session library} (hsame : SameDownload session session')
    (torn : Bool) (effect : OrderEntry.Effect library) :
    Harmless torn session' effect ↔ Harmless torn session effect := by
  cases effect <;>
    simp only [Harmless, Received, hsame.received, hsame.dex, hsame.download]

/-- A handler with harmless effects keeps the invariant. -/
theorem Inv.perform {session : Session library} (h : Inv session) {torn : Bool}
    {handler : Proc (OrderEntry.Effect library) Web.Exception Unit}
    (hemits : handler.Emits (Harmless torn session)) : Inv (session.perform torn handler) := by
  have hrun : Inv (handler.events.foldl (Session.apply torn) session) ∧
      SameDownload session (handler.events.foldl (Session.apply torn) session) := by
    refine Run.invariant_foldl (fun session' ↦ Inv session' ∧ SameDownload session session')
      ?_ ⟨h, rfl, rfl, rfl⟩ (Run.along_of_forall session hemits.forall_mem)
    rintro session' effect ⟨hinv, hsame⟩ hharmless
    refine ⟨hinv.apply ((harmless_congr hsame torn effect).mpr hharmless), ?_⟩
    have happly := sameDownload_apply torn session' effect
    exact ⟨happly.received.trans hsame.received, happly.dex.trans hsame.dex,
      happly.download.trans hsame.download⟩
  unfold Session.perform
  dsimp only
  split
  · exact ⟨hrun.1.chains, hrun.1.passed, hrun.1.committed, hrun.1.readies⟩
  · exact hrun.1

/-- The queue of `OrderEntry` only starts chains. -/
theorem Inv.orderEntryTimer {session : Session library} (h : Inv session)
    (inputs : OrderEntry.QueueInputs library) :
    Inv (session.perform false
      (OrderEntry.checkRequestQueue session.request inputs session.dex)) := by
  apply h.perform
  apply (OrderEntry.emits_checkRequestQueue session.request inputs session.dex).mono
  intro effect heffect
  cases effect with
  | send call =>
    right
    have hfirst : call.earlier = [] := heffect
    rw [hfirst]
    exact nofun
  | commit name => exact heffect.elim
  | _ => trivial

/-- An answer keeps the invariant. -/
theorem Inv.answered {session : Session library} (h : Inv session) (position : Nat) (call : Call)
    (successful : Bool) : Inv (session.answered position call successful) := by
  have hkept : ∀ calls, session.Received calls →
      (session.answered position call successful).Received calls := by
    intro calls hcalls other hother
    have hreceived := hcalls other hother
    unfold Session.answered
    cases successful with
    | true => exact List.mem_cons_of_mem _ hreceived
    | false => exact hreceived
  refine ⟨?_, fun hdone ↦ hkept _ (h.passed hdone), ?_, h.readies⟩
  · intro waiting hwaiting
    have hearlier := h.chains waiting (List.mem_of_mem_eraseIdx hwaiting)
    exact hearlier.imp id (hkept _)
  · intro name following hname hnext hcommitted
    exact hkept _ (h.committed name following hname hnext hcommitted)

/-- After a successful reply all requests up to the answered one have been answered, if
those before it had. -/
theorem received_answered {session : Session library} (position : Nat) {call : Call}
    (hearlier : session.Received call.earlier) :
    (session.answered position call true).Received (call :: call.earlier) := by
  intro other hother
  rcases List.mem_cons.mp hother with rfl | hbefore
  · exact List.mem_cons_self ..
  · exact List.mem_cons_of_mem _ (hearlier other hbefore)

end Session

namespace Call

/-- A chain up to an entry. -/
theorem mem_of_le (call : Nat → Call) {index length : Nat} (h : length ≤ index + 1) {other : Call}
    (hother : other ∈ (List.range length).map call) :
    other ∈ call index :: (List.range index).map call := by
  obtain ⟨earlier, hearlier, rfl⟩ := List.mem_map.mp hother
  have hle : earlier < index + 1 := Nat.lt_of_lt_of_le (List.mem_range.mp hearlier) h
  rcases Nat.lt_succ_iff_lt_or_eq.mp hle with hlt | rfl
  · exact List.mem_cons_of_mem _ (List.mem_map_of_mem (List.mem_range.mpr hlt))
  · exact List.mem_cons_self ..

/-- The requests before the next one are those before a request, and the request. -/
theorem mem_of_following {call following other : Call} {dex : List Dex}
    (hfollowing : call.following dex = some following) (hother : other ∈ following.earlier) :
    other ∈ call :: call.earlier := by
  cases call with
  | spotClearingHouseState => cases hfollowing
  | orderStatus order => cases hfollowing
  | _ =>
    obtain ⟨_, hsame⟩ := Option.ite_none_right_eq_some.mp hfollowing
    cases hsame
    exact mem_of_le _ (Nat.le_refl _) hother

/-- The last request of a chain completes what the download waits for. -/
theorem mem_of_last {call other : Call} {dex : List Dex} {state next : DownloadState}
    (hlast : call.following dex = none) (hwaits : state.waits = some call.name)
    (hnext : state.next = some next) (hother : other ∈ next.required dex) :
    other ∈ state.required dex ∨ other ∈ call :: call.earlier := by
  have hlength : ∀ (request : Nat → Call) (index : Nat),
      (if index + 1 < dex.length then some (request (index + 1)) else none) = none →
        dex.length ≤ index + 1 := by
    intro request index hnone
    by_contra hlt
    rw [if_pos (Nat.lt_of_not_le hlt)] at hnone
    cases hnone
  cases state with
  | getSpotClearingHouseState =>
    cases call <;> cases hwaits
    cases hnext
    exact Or.inr hother
  | getClearingHouseState =>
    cases call <;> cases hwaits
    cases hnext
    rcases List.mem_cons.mp hother with rfl | hchain
    · exact Or.inl (List.mem_cons_self ..)
    · exact Or.inr (mem_of_le _ (hlength _ _ hlast) hchain)
  | getOpenOrders =>
    cases call <;> cases hwaits
    cases hnext
    have hsplit : other ∈ DownloadState.getOpenOrders.required dex ++
        DownloadState.chain .openOrders dex := hother
    exact (List.mem_append.mp hsplit).imp id (mem_of_le _ (hlength _ _ hlast))
  | _ => cases hwaits

end Call

namespace Session

variable {library : LimitRequest} (settings : DropCopy.DownloadSettings) (http : HttpLibrary)

/-- The handler of a reply keeps the invariant under the condition on the reply. -/
theorem Inv.reply {session : Session library} (h : Inv session) {position : Nat} {call : Call}
    {torn : Bool} (hwaiting : session.outstanding[position]? = some ⟨call, torn⟩)
    {reply : OrderEntry.Reply} (hsound : session.Sound (.reply position reply)) :
    Inv ((session.answered position call reply.successful).perform torn
      (OrderEntry.ack http session.dex session.downloadStaleOrdersCounter reply call)) := by
  have hchain := h.chains ⟨call, torn⟩ (List.mem_of_getElem? hwaiting)
  have hanswered := h.answered position call reply.successful
  apply hanswered.perform
  apply (OrderEntry.emits_ack http session.dex _ reply call).mono
  intro effect heffect
  cases effect with
  | send following =>
    obtain ⟨hfollowing, hhandled⟩ := heffect
    have hsuccessful : reply.successful = true := (Bool.and_eq_true_iff.mp hhandled).1
    rw [hsuccessful]
    rcases hchain with htorn | hearlier
    · exact Or.inl htorn
    · right
      intro other hother
      exact received_answered position hearlier other (Call.mem_of_following hfollowing hother)
  | commit name =>
    obtain ⟨rfl, hredirected, hlast⟩ := heffect
    intro next hwaits hnext
    have hcondition := hsound ⟨call, torn⟩ hwaiting hwaits
    rw [hredirected, or_iff_right Bool.false_ne_true] at hcondition
    obtain ⟨hsuccessful, hrest⟩ := hcondition
    -- a commit that is not after the last entry follows a handler that has not returned
    cases hfollowing : call.following session.dex with
    | some following =>
      rw [hfollowing, Option.isSome_some, if_pos rfl] at hrest
      have hnone := hlast (Bool.and_eq_true_iff.mpr ⟨hsuccessful, hrest⟩)
      rw [hfollowing] at hnone
      cases hnone
    | none =>
      rw [hfollowing, Option.isSome_none, if_neg Bool.false_ne_true] at hrest
      have hearlier := hchain.resolve_left (Bool.not_eq_true _ ▸ hrest)
      have hdone : session.download ≠ .done := by
        intro hdone
        have hstate : session.download.next = some next := hnext
        rw [hdone] at hstate
        cases hstate
      intro other hother
      rcases Call.mem_of_last hfollowing hwaits hnext hother with hpassed | hchained
      · exact hanswered.passed hdone other hpassed
      · rw [hsuccessful]
        exact received_answered position hearlier other hchained
  | _ => trivial

/-- The list of dexes may grow while the download has not used it. -/
theorem Inv.dexAdded {session : Session library} (h : Inv session) {dex : Dex}
    (hsound : session.Sound (.dexAdded dex)) :
    Inv { session with dex := session.dex ++ [dex] } := by
  have hused : session.dexesUsed = false := hsound
  unfold dexesUsed at hused
  refine ⟨h.chains, ?_, ?_, h.readies⟩
  · intro hdone
    have hsame : session.download.required (session.dex ++ [dex]) =
        session.download.required session.dex := by
      cases hstate : session.download <;> rw [hstate] at hused <;>
        first | rfl | exact absurd hstate hdone | cases hused
    intro call hcall
    exact h.passed hdone call (hsame ▸ hcall)
  · intro name following hname hnext hcommitted
    have hsame : following.required (session.dex ++ [dex]) = following.required session.dex := by
      change session.download.waits = some name at hname
      change session.download.next = some following at hnext
      cases hstate : session.download with
      | getSpotClearingHouseState =>
        rw [hstate] at hnext
        cases hnext
        rfl
      | getClearingHouseState =>
        rw [hstate] at hname hused
        cases hname
        have hslot : library.committed session.request.clearingHouseState = true := hcommitted
        have hnone : library.committed session.request.clearingHouseState = false := hused
        rw [hslot] at hnone
        cases hnone
      | getOpenOrders =>
        rw [hstate] at hused
        cases hused
      | _ =>
        rw [hstate] at hname
        cases hname
    intro call hcall
    exact h.committed name following hname hnext hcommitted call (hsame ▸ hcall)

/-- A step that meets the condition keeps the invariant. -/
theorem Inv.step {session : Session library} (h : Inv session) {event : Event library}
    (hsound : session.Sound event) : Inv (session.step settings http event) := by
  unfold Session.step
  split
  · exact h
  · cases event with
    | dropCopyReady leaves => exact h.ready settings leaves
    | dropCopyDisconnected => exact h.disconnected
    | dropCopyTimer refreshed originCreateTime stale leaves =>
      exact h.timer settings refreshed originCreateTime stale leaves
    | subscriptionResponse type leaves => exact h.subscriptionResponse settings type leaves
    | orderEntryConnected => exact ⟨h.chains, h.passed, h.committed, h.readies⟩
    | orderEntryDisconnected => exact ⟨h.chains, h.passed, h.committed, h.readies⟩
    | orderEntryTimer refreshed inputs =>
      dsimp only
      split
      · exact h.orderEntryTimer inputs
      · exact h
    | reply position reply =>
      dsimp only
      split
      · exact h
      · next call torn hwaiting => exact h.reply http hwaiting hsound
    | dexAdded dex => exact h.dexAdded hsound

/-- The invariant holds before anything is asked for. -/
theorem inv_new (library : LimitRequest) (dex : List Dex) : Inv (Session.new library dex) where
  chains := nofun
  passed _ := nofun
  committed := nofun
  readies := nofun

/-- In every run whose steps meet the condition, each READY that the download publishes
is complete: every part of the account has been received since the web socket became
ready. -/
theorem complete_of_sound (library : LimitRequest) (settings : DropCopy.DownloadSettings)
    (http : HttpLibrary) (dex : List Dex) (events : List (Event library))
    (hsound : Run.Along (step settings http) Sound (Session.new library dex) events) :
    ∀ ready ∈ (events.foldl (step settings http) (Session.new library dex)).readies,
      ready.Complete := by
  have hinv := Run.invariant_foldl Inv (fun _ _ h ↦ Inv.step settings http h)
    (inv_new library dex) hsound
  exact hinv.readies

/-! ## A fixed session -/

/-- A library whose texts are empty. -/
def silent : HttpLibrary := ⟨fun _ ↦ "", fun _ ↦ .std ""⟩

def success : OrderEntry.Reply := ⟨⟨.ok (.ok, .success, .ok ())⟩, .ok (), .ok ()⟩

def failure : OrderEntry.Reply := ⟨⟨.ok (.other 500, .serverError, .ok ())⟩, .ok (), .ok ()⟩

/-- A request is sent and answered, and the download notices. -/
def fetch (reply : OrderEntry.Reply) : List (Event oneSlot) :=
  [.orderEntryTimer true ⟨fun _ ↦ true, fun _ ↦ .ok (), fun _ ↦ true⟩, .reply 0 reply,
    .dropCopyTimer true 0 [] 12]

/-- A whole download, whose first request has a given reply. -/
def downloadOnce (first : OrderEntry.Reply) : List (Event oneSlot) :=
  [.orderEntryConnected, .dropCopyReady 12, .subscriptionResponse .notification 12,
    .subscriptionResponse .userFundings 12] ++
  fetch first ++ fetch success ++ [.subscriptionResponse .orderUpdates 12] ++ fetch success ++
  [.subscriptionResponse .userFills 12, .subscriptionResponse .userEvents 12]

/-- The main exchange alone. -/
def mainDex : List Dex := [⟨"", 0⟩]

/-- One download in which every reply is successful. -/
theorem complete_of_sound_once :
    ((downloadOnce success).foldl (step ⟨0, 0⟩ silent) (Session.new oneSlot mainDex)).readies =
        [⟨mainDex, [.openOrders 0, .clearingHouseState 0, .spotClearingHouseState]⟩] ∧
      ∀ ready ∈ ((downloadOnce success).foldl (step ⟨0, 0⟩ silent)
        (Session.new oneSlot mainDex)).readies, ready.Complete := by
  refine ⟨by decide, ?_⟩
  exact complete_of_sound oneSlot ⟨0, 0⟩ silent mainDex (downloadOnce success) (by decide)

/-- The download is done although the first request has failed. -/
theorem ready_after_failure :
    ¬ ∀ (library : LimitRequest) (settings : DropCopy.DownloadSettings) (http : HttpLibrary)
      (dex : List Dex) (events : List (Event library)),
      ∀ ready ∈ (events.foldl (step settings http) (Session.new library dex)).readies,
        ready.Complete := by
  intro h
  have hready := h oneSlot ⟨0, 0⟩ silent mainDex (downloadOnce failure)
    ⟨mainDex, [.openOrders 0, .clearingHouseState 0]⟩ (by decide)
  exact absurd hready.spotClearingHouseState (by decide)

end Session

end Hyperliquid.Gateway
