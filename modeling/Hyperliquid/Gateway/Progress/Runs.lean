import Hyperliquid.Gateway.Progress.DropCopy
import Hyperliquid.Gateway.Progress.Replies

/-!
# Downloads that end

The download of a session gets to READY: each step that it waits for lowers its rank, no other
step raises it, and until READY some step is due.
-/

namespace Hyperliquid.Gateway

open Hyperliquid.Base

variable {library : LimitRequest} {slots : SlotPhases library}

namespace Session

/-- A step that the download waits for. -/
def due (slots : SlotPhases library) (session : Session library) : Event library → Bool
  | .subscriptionResponse type _ => session.download.subscription? = some type
  | .dropCopyTimer refreshed _ _ _ => refreshed && DropCopy.answered slots session
  | .orderEntryTimer refreshed inputs =>
    (refreshed && session.orderEntryStatus = .ready) && OrderEntry.serves slots session inputs
  | .reply position _ => session.download.slot?.isSome && position < session.outstanding.length
  | _ => false

/-- A step in which nothing is lost: the web socket stays, no request throws, no reply is a
redirection, the download leaves a state that it may leave, and some of the stale orders that are
asked for are found. -/
def Smooth (orders : Nat) (session : Session library) : Event library → Prop
  | .dropCopyReady _ => False
  | .dropCopyDisconnected => False
  | .dropCopyTimer _ _ stale leaves => 2 ≤ leaves ∧ DropCopy.FindsAtMost orders stale session
  | .subscriptionResponse _ leaves => 2 ≤ leaves
  | .orderEntryConnected => True
  | .orderEntryDisconnected => True
  | .orderEntryTimer _ inputs =>
    (∀ call, inputs.sent call = .ok ()) ∧
      (session.download = .getStaleOrders → session.request.detailsStaleOrders ≠ [] →
        ∃ order ∈ session.request.detailsStaleOrders, inputs.findOrder order = true)
  | .reply _ reply => reply.redirected = false ∧ reply.sent = .ok ()
  | .dexAdded _ => False

variable (settings : DropCopy.DownloadSettings) (http : HttpLibrary) {orders : Nat}
  {session : Session library} {event : Event library}

/-- A step of a download that is under way. -/
theorem moves_step (h : (session.outline slots).UnderWay orders)
    (hsmooth : Smooth orders session event) :
    Moves slots orders (due slots session event).toNat session
      (session.step settings http event) := by
  have hended : ¬ session.ended = true := by
    rw [show session.ended = false from h.ended]
    exact Bool.false_ne_true
  unfold Session.step
  rw [if_neg hended]
  cases event with
  | dropCopyReady leaves => exact hsmooth.elim
  | dropCopyDisconnected => exact hsmooth.elim
  | dropCopyTimer refreshed originCreateTime stale leaves =>
    exact DropCopy.moves_timer settings h refreshed originCreateTime hsmooth.1 hsmooth.2
  | subscriptionResponse type leaves =>
    exact DropCopy.moves_subscriptionResponse settings h hsmooth type
  | orderEntryConnected => exact moves_self h
  | orderEntryDisconnected => exact moves_self h
  | orderEntryTimer refreshed inputs =>
    dsimp only [due]
    split
    · next hready =>
      rw [hready, Bool.true_and]
      exact OrderEntry.moves_queue h hsmooth.1 hsmooth.2
    · next hready =>
      rw [Bool.eq_false_of_not_eq_true hready, Bool.false_and]
      exact moves_self h
  | reply position reply =>
    dsimp only [due]
    split
    · next hnone =>
      rw [decide_eq_false (Nat.not_lt_of_le (List.getElem?_eq_none_iff.mp hnone)),
        Bool.and_false]
      exact moves_self h
    · next call torn hwaiting =>
      obtain ⟨hinv, hrank⟩ := OrderEntry.moves_reply http torn h hwaiting hsmooth.1
        hsmooth.2
      refine ⟨hinv, Nat.le_trans (Nat.add_le_add_left (Bool.toNat_le _) _) hrank⟩
  | dexAdded dex => exact hsmooth.elim

/-- The handlers of `OrderEntry` do not touch the download. -/
theorem done_perform (h : (session.outline slots).Done) (torn : Bool)
    (handler : Proc (OrderEntry.Effect library) Web.Exception Unit) :
    ((session.perform torn handler).outline slots).Done := by
  have hfold : ((handler.events.foldl (Session.apply torn) session).outline slots).Done := by
    refine List.foldlRecOn (motive := fun session' : Session library ↦
      (session'.outline slots).Done) handler.events _ h ?_
    intro session' h' effect _
    cases effect <;> exact ⟨h'.download, h'.status⟩
  unfold Session.perform
  dsimp only
  split
  · exact ⟨hfold.download, hfold.status⟩
  · exact hfold

/-- READY stays until the web socket is lost. -/
theorem done_step (h : (session.outline slots).Done) (hsmooth : Smooth orders session event) :
    ((session.step settings http event).outline slots).Done := by
  have hdownload : session.download = .done := h.download
  unfold Session.step
  split
  · exact h
  cases event with
  | dropCopyReady leaves => exact hsmooth.elim
  | dropCopyDisconnected => exact hsmooth.elim
  | dropCopyTimer refreshed originCreateTime stale leaves =>
    dsimp only
    unfold DropCopy.timer
    split
    · have hchecked : ∀ session' : Session library, session'.download = .done →
          DropCopy.checkRequestQueue settings leaves stale session' = session' := by
        intro session' hdone
        apply DropCopy.checkRequestQueue_eq_self
        intro name hname
        rw [hdone] at hname
        cases hname
      dsimp only
      split
      · have hat : ((DropCopy.checkStaleOrdersAt settings originCreateTime stale
            session).outline slots).Done := by
          unfold DropCopy.checkStaleOrdersAt
          split
          · dsimp only
            split <;> exact ⟨h.download, h.status⟩
          · exact h
        rw [hchecked _ hat.download]
        exact hat
      · rw [hchecked _ hdownload]
        exact h
    · exact h
  | subscriptionResponse type leaves =>
    have hcheck : ∀ checked, checked ≠ .done →
        ((DropCopy.check settings leaves checked session).outline slots).Done := by
      intro checked hne
      rw [DropCopy.check_of_ne settings leaves fun heq ↦ hne (heq.symm.trans hdownload)]
      exact h
    cases type with
    | notification => exact hcheck .subscribeNotification nofun
    | userFundings => exact hcheck .subscribeUserFundings nofun
    | orderUpdates => exact hcheck .subscribeOrderUpdates nofun
    | userFills => exact hcheck .subscribeUserFills nofun
    | userEvents => exact hcheck .subscribeUserEvents nofun
    | _ => exact h
  | orderEntryConnected => exact ⟨h.download, h.status⟩
  | orderEntryDisconnected => exact ⟨h.download, h.status⟩
  | orderEntryTimer refreshed inputs =>
    dsimp only
    split
    · exact done_perform h _ _
    · exact h
  | reply position reply =>
    dsimp only
    split
    · exact h
    · next call torn _ =>
      have hanswered : ((session.answered position call reply.successful).outline slots).Done :=
        ⟨h.download, h.status⟩
      exact done_perform hanswered torn _
  | dexAdded dex => exact hsmooth.elim

private theorem due_eq_false_of_done (h : (session.outline slots).Done) (event : Event library) :
    due slots session event = false := by
  have hdownload : session.download = .done := h.download
  cases event with
  | dropCopyTimer refreshed => simp [due, DropCopy.answered, hdownload, DownloadState.slot?]
  | subscriptionResponse type => simp [due, hdownload, DownloadState.subscription?]
  | orderEntryTimer refreshed => simp [due, OrderEntry.serves, hdownload, DownloadState.slot?]
  | reply position => simp [due, hdownload, DownloadState.slot?]
  | _ => rfl

/-- The steps that a download waits for are paid from its rank. -/
theorem ranked (slots : SlotPhases library) (orders : Nat) :
    Run.Ranked (step settings http) (due slots)
      (fun session : Session library ↦ (session.outline slots).Inv orders) (Smooth orders)
      fun session ↦ (session.outline slots).rank orders where
  inv session event h hsmooth := by
    rcases h with hunderWay | hdone
    · exact (moves_step settings http hunderWay hsmooth).1
    · exact .inr (done_step settings http hdone hsmooth)
  le session event h hsmooth := by
    rcases h with hunderWay | hdone
    · exact (moves_step settings http hunderWay hsmooth).2
    · rw [(done_step settings http hdone hsmooth).rank, due_eq_false_of_done hdone]
      exact Nat.zero_le _

/-- The web socket of a session becomes ready while nothing is asked and nothing is in flight. -/
theorem enters_ready (h : (session.outline slots).Rested orders) (leaves : Nat) :
    DropCopy.Enters slots orders .subscribeNotification session
      (session.step settings http (.dropCopyReady leaves)) := by
  have hended : ¬ session.ended = true := by
    rw [show session.ended = false from h.ended]
    exact Bool.false_ne_true
  have hempty : session.outstanding = [] := List.map_eq_nil_iff.mp h.outstanding
  have hrested : ((DropCopy.publish .ready session.restart).outline slots).Rested orders := by
    refine ⟨h.ended, h.dexes, h.orders, h.settled, ?_, h.counter⟩
    show (session.restart.outstanding).map Outstanding.call = []
    unfold Session.restart
    rw [hempty]
    rfl
  unfold Session.step
  rw [if_neg hended]
  exact DropCopy.enters_subscription settings hrested rfl leaves

private theorem smooth_queue (orders : Nat) (session : Session library) (refreshed : Bool)
    (input : RequestName → library.Input) :
    Smooth orders session (.orderEntryTimer refreshed ⟨input, fun _ ↦ .ok (), fun _ ↦ true⟩) := by
  refine ⟨fun _ ↦ rfl, fun _ hdetails ↦ ?_⟩
  obtain ⟨order, horder⟩ := List.exists_mem_of_ne_nil _ hdetails
  exact ⟨order, horder, rfl⟩

/-- A download that is under way waits for a step that can happen. -/
theorem exists_due (h : (session.outline slots).UnderWay orders)
    (hready : session.orderEntryStatus = .ready) :
    ∃ event, Smooth orders session event ∧ due slots session event = true := by
  cases h.waits with
  | @subscription type state =>
    refine ⟨.subscriptionResponse type 2, Nat.le_refl 2, ?_⟩
    exact decide_eq_true state
  | @queue name state phase =>
    refine ⟨.orderEntryTimer true ⟨fun _ ↦ slots.grant, fun _ ↦ .ok (), fun _ ↦ true⟩,
      smooth_queue orders session true _, ?_⟩
    have hserves : OrderEntry.serves slots session
        ⟨fun _ ↦ slots.grant, fun _ ↦ .ok (), fun _ ↦ true⟩ = true := by
      unfold OrderEntry.serves
      rw [show session.download.slot? = some name from state]
      show (slots.granted slots.grant && _) = true
      rw [slots.granted_grant, Bool.true_and]
      exact decide_eq_true phase
    simp [due, hready, hserves]
  | @chain call state _ _ houtstanding =>
    refine ⟨.reply 0 success, ⟨rfl, rfl⟩, ?_⟩
    have hlength : session.outstanding.length = 1 := by
      rw [← List.length_map (f := Outstanding.call)]
      exact congrArg List.length houtstanding
    have hslot : session.download.slot? = some call.name := state
    simp [due, hslot, hlength]
  | batch state _ houtstanding =>
    refine ⟨.reply 0 success, ⟨rfl, rfl⟩, ?_⟩
    have hlength : 0 < session.outstanding.length := by
      rw [← List.length_map (f := Outstanding.call)]
      exact List.length_pos_iff.mpr houtstanding
    have hslot : session.download.slot? = some .staleOrders := congrArg DownloadState.slot? state
    simp [due, hslot, hlength]
  | @timer name state phase =>
    refine ⟨.dropCopyTimer true 0 [] 2, ⟨Nat.le_refl 2, fun _ ↦ h.orders⟩, ?_⟩
    have hanswered : DropCopy.answered slots session = true := by
      unfold DropCopy.answered
      rw [show session.download.slot? = some name from state]
      exact decide_eq_true phase
    simp [due, hanswered]

/-- From a session at rest, whatever the order of timers, messages and replies, successful or
not: as long as nothing is lost and the dispatcher calls a bounded number of orders stale, the
download has published READY after a number of due steps that depends on the dexes and the bound
only, and until then some step is due while `OrderEntry` is connected. -/
theorem progress_run (slots : SlotPhases library) {orders : Nat} {session : Session library}
    (hrested : (session.outline slots).Rested orders) (leaves : Nat) (events : List (Event library))
    (hsmooth : Run.Along (step settings http) (Smooth orders)
      (session.step settings http (.dropCopyReady leaves)) events) :
    let start := session.step settings http (.dropCopyReady leaves)
    let final := events.foldl (step settings http) start
    (3 * session.dex.length + orders + 16 ≤
        Run.count (step settings http) (due slots) start events →
      final.download = .done ∧ final.dropCopyStatus = .ready) ∧
    (¬ (final.download = .done ∧ final.dropCopyStatus = .ready) →
      final.orderEntryStatus = .ready →
        ∃ event, Smooth orders final event ∧ due slots final event = true) := by
  intro start final
  have hranked := ranked settings http slots orders
  obtain ⟨hinv, hrank⟩ := enters_ready settings http hrested leaves
  have hfinal : (final.outline slots).Inv orders :=
    Run.invariant_foldl (fun session : Session library ↦ (session.outline slots).Inv orders)
      hranked.inv hinv hsmooth
  constructor
  · intro hcount
    have hbound : (start.outline slots).rank orders ≤ 3 * session.dex.length + orders + 16 := by
      refine Nat.le_trans hrank (Nat.le_of_eq ?_)
      simp only [DownloadState.cost, DownloadState.remaining]
      omega
    have hzero := hranked.rank_eq_zero hinv hsmooth (Nat.le_trans hbound hcount)
    rcases hfinal with hunderWay | hdone
    · exact absurd hzero (Nat.ne_of_gt hunderWay.rank_pos)
    · exact ⟨hdone.download, hdone.status⟩
  · intro hnot hready
    rcases hfinal with hunderWay | hdone
    · exact exists_due hunderWay hready
    · exact absurd ⟨hdone.download, hdone.status⟩ hnot

/-- A new session is at rest. -/
theorem rested_new (slots : SlotPhases library) (orders : Nat) {dex : List Dex} (hdex : dex ≠ []) :
    ((Session.new library dex).outline slots).Rested orders where
  ended := rfl
  dexes := List.length_pos_iff.mpr hdex
  orders := Nat.zero_le orders
  settled name := .inl (by cases name <;> exact slots.phase_new)
  outstanding := rfl
  counter := rfl

/-- A download with one dex and one stale order, in which no step is left out and one request
fails. -/
def wholeDownload : List (Event oneSlot) :=
  [.orderEntryConnected, .subscriptionResponse .notification 12,
    .subscriptionResponse .userFundings 12] ++
  fetch success ++ fetch failure ++ [.subscriptionResponse .orderUpdates 12] ++
  [queue, .reply 0 success, .dropCopyTimer true 0 [(0, 1)] 12] ++ fetch success ++
  [.subscriptionResponse .userFills 12] ++ fetch success ++ [.subscriptionResponse .userEvents 12]

/-- One download with one exchange, from the connection to READY. -/
theorem progress_run_whole :
    let final := wholeDownload.foldl (step ⟨1, 0⟩ silent)
      ((Session.new oneSlot mainDex).step ⟨1, 0⟩ silent (.dropCopyReady 12))
    final.download = .done ∧ final.dropCopyStatus = .ready := by
  have hrested := @rested_new oneSlot oneSlotPhases 1 mainDex (by decide)
  refine (progress_run ⟨1, 0⟩ silent oneSlotPhases hrested 12 wholeDownload ?_).1 (by decide)
  have hleaves : 2 ≤ 12 := by decide
  have hqueue : ∀ session : Session oneSlot, Smooth 1 session queue :=
    fun session ↦ smooth_queue 1 session true fun _ ↦ true
  exact ⟨trivial, hleaves, hleaves,
    hqueue _, ⟨rfl, rfl⟩, ⟨hleaves, by decide⟩, hqueue _, ⟨rfl, rfl⟩, ⟨hleaves, by decide⟩,
    hleaves, hqueue _, ⟨rfl, rfl⟩, ⟨hleaves, by decide⟩,
    hqueue _, ⟨rfl, rfl⟩, ⟨hleaves, by decide⟩, hleaves,
    hqueue _, ⟨rfl, rfl⟩, ⟨hleaves, by decide⟩, hleaves, trivial⟩

end Session

end Hyperliquid.Gateway
