import Hyperliquid.Gateway.Progress.Outline

/-!
# How `DropCopy` moves a download on

The response to a subscription and the timer, `src/roq/hyperliquid/gateway/drop_copy.cpp:118–129,
299–330, 484–532`, check the state of the download, which enters the next one.
-/

namespace Hyperliquid.Gateway

open Hyperliquid.Base

variable {library : LimitRequest} {slots : SlotPhases library}

namespace DropCopy

variable (settings : DownloadSettings) {orders : Nat} {session : Session library}

/-- The download enters a state. -/
def entered (leaves : Nat) (state : DownloadState) (session : Session library) :
    Session library :=
  let (state, session') :=
    Download.enter DownloadState.next (download settings) leaves state session
  { session' with download := state }

private theorem entered_of_one (leaves : Nat) {state : DownloadState} {session' : Session library}
    (h : download settings state session = (session', 1)) :
    entered settings leaves state session = { session' with download := state } := by
  have hone : (download settings state session).2 ≠ 0 := by
    rw [h]
    exact (by decide : (1 : Int32) ≠ 0)
  unfold entered
  rw [Download.enter_of_ne_zero leaves hone, h]

private theorem entered_of_eq_zero (leaves : Nat) {state following : DownloadState}
    (h : download settings state session = (session, 0)) (hnext : state.next = some following) :
    entered settings (leaves + 1) state session = entered settings leaves following session := by
  unfold entered
  rw [Download.enter_of_eq_zero leaves (congrArg Prod.snd h) hnext, h]

/-- A state that is not the current one is not checked. -/
theorem check_of_ne (leaves : Nat) {checked : DownloadState} (h : session.download ≠ checked) :
    check settings leaves checked session = session := by
  unfold check
  rw [Download.check_of_ne leaves h]

private theorem check_of_eq (leaves : Nat) {checked following : DownloadState}
    (h : session.download = checked) (hnext : checked.next = some following) :
    check settings (leaves + 1) checked session = entered settings leaves following session := by
  unfold check
  rw [h, Download.check_self leaves hnext]
  rfl

/-- What a download that has entered a state still waits for. -/
def Enters (slots : SlotPhases library) (orders : Nat) (state : DownloadState)
    (session session' : Session library) : Prop :=
  (session'.outline slots).Inv orders ∧
    (session'.outline slots).rank orders ≤
      state.cost session.dex.length orders + state.remaining session.dex.length orders

/-- A state that subscribes waits for the response. -/
theorem enters_subscription (h : (session.outline slots).Rested orders) {state : DownloadState}
    {type : SubscriptionType} (hstate : state.subscription? = some type) (leaves : Nat) :
    Enters slots orders state session (entered settings leaves state session) := by
  have hentered : entered settings leaves state session =
      { publish .downloading session with download := state } := by
    cases state <;> cases hstate <;> exact entered_of_one settings leaves rfl
  rw [hentered]
  constructor
  · left
    exact ⟨h.ended, rfl, h.dexes, h.orders, fun name _ ↦ h.settled name,
      .subscription hstate h.outstanding h.counter⟩
  · unfold Outline.rank Outline.waits
    rw [show (Session.outline slots _).download = state from rfl,
      DownloadState.slot?_of_subscription? hstate]
    exact Nat.le_refl _

/-- A slot that nothing is asked of becomes pending. -/
theorem outline_ask {name : RequestName} (h : (session.outline slots).Settled name) :
    (ask name session).outline slots =
      { session.outline slots with
        phase := Function.update (session.outline slots).phase name (some .pending) } := by
  apply Outline.ext
  · exact Session.outline_modify slots session name (slots.phase_request _ h)
  · exact Request.detailsStaleOrders_modify ..
  all_goals rfl

private theorem enters_slot (h : (session.outline slots).Rested orders) {state : DownloadState}
    {name : RequestName} (hstate : state.slot? = some name)
    (hdetails : name = .staleOrders → session.request.detailsStaleOrders ≠ []) :
    Enters slots orders state session
      { ask name (publish .downloading session) with download := state } := by
  have houtline : ({ ask name (publish .downloading session) with
      download := state } : Session library).outline slots =
        { session.outline slots with
          phase := Function.update (session.outline slots).phase name (some .pending)
          dropCopyStatus := .downloading
          download := state } := by
    have hask : (ask name (publish .downloading session)).outline slots = _ :=
      outline_ask (h.settled name)
    exact congrArg (fun outline ↦ { outline with download := state }) hask
  unfold Enters
  rw [houtline]
  constructor
  · left
    refine ⟨h.ended, rfl, h.dexes, h.orders, ?_,
      .queue hstate (Function.update_self ..) h.outstanding h.counter hdetails⟩
    intro other hother
    have hne : other ≠ name := fun heq ↦ hother (heq ▸ hstate)
    unfold Outline.Settled
    dsimp only
    rw [Function.update_of_ne hne]
    exact h.settled other
  · rw [Outline.rank_of_pending hstate (Function.update_self ..)]
    exact Nat.le_refl _

/-- What is left after a state that is not waited in. -/
theorem Enters.skip {state following : DownloadState} {session' : Session library}
    (h : Enters slots orders following session session') (hnext : state.next = some following) :
    Enters slots orders state session session' := by
  refine ⟨h.1, Nat.le_trans h.2 ?_⟩
  rw [DownloadState.remaining_next _ _ hnext]
  exact Nat.le_add_left ..

/-- A state is entered, and those after it that have nothing to ask for. -/
theorem enters (h : (session.outline slots).Rested orders) {state : DownloadState}
    (hstate : state ≠ .undefined) (leaves : Nat) :
    Enters slots orders state session (entered settings (leaves + 1) state session) := by
  cases state with
  | undefined => exact absurd rfl hstate
  | getSpotClearingHouseState =>
    rw [entered_of_one settings _ rfl]
    exact enters_slot h rfl nofun
  | getClearingHouseState =>
    rw [entered_of_one settings _ rfl]
    exact enters_slot h rfl nofun
  | getOpenOrders =>
    rw [entered_of_one settings _ rfl]
    exact enters_slot h rfl nofun
  | getStaleOrders =>
    by_cases hdetails : session.request.detailsStaleOrders.isEmpty = true
    · rw [entered_of_eq_zero settings leaves (by simp only [download, hdetails, if_true]) rfl]
      exact (enters_subscription settings h rfl leaves).skip rfl
    · have hdownload : download settings .getStaleOrders session =
          (ask .staleOrders (publish .downloading session), 1) := by
        simp only [download, hdetails, Bool.false_eq_true, if_false]
      rw [entered_of_one settings _ hdownload]
      exact enters_slot h rfl fun _ hempty ↦ hdetails (by rw [hempty]; rfl)
  | getUserFills =>
    by_cases hlookback : settings.tradesLookback ≠ 0
    · have hdownload : download settings .getUserFills session =
          (ask .trades (publish .downloading session), 1) := if_pos hlookback
      rw [entered_of_one settings _ hdownload]
      exact enters_slot h rfl nofun
    · have hdownload : download settings .getUserFills session = (session, 0) := if_neg hlookback
      rw [entered_of_eq_zero settings leaves hdownload rfl]
      exact (enters_subscription settings h rfl leaves).skip rfl
  | done =>
    have hdone : (Session.outline slots (entered settings (leaves + 1) .done session)).Done :=
      ⟨rfl, rfl⟩
    exact ⟨.inr hdone, Nat.le_of_eq (hdone.rank orders)⟩
  | _ => exact enters_subscription settings h rfl (leaves + 1)

/-- Where nothing is asked and nothing is in flight, one step is waited for. -/
theorem waits_of_rested (h : (session.outline slots).Rested orders)
    (hstate : session.download.slot?.isSome = true ∨
      session.download.subscription?.isSome = true) :
    1 ≤ (session.outline slots).waits orders := by
  unfold Outline.waits
  split
  · exact DownloadState.cost_pos _ _ hstate
  · next name _ =>
    rcases h.settled name with hidle | hanswered
    · simp only [hidle, Nat.le_refl]
    · simp only [hanswered, Nat.le_refl]

/-- A check of the current state moves the download on. -/
theorem moves_check (h : (session.outline slots).Rested orders)
    (hstate : session.download.slot?.isSome = true ∨
      session.download.subscription?.isSome = true)
    {leaves : Nat} (hleaves : 2 ≤ leaves) :
    Session.Moves slots orders 1 session (check settings leaves session.download session) := by
  obtain ⟨leaves, rfl⟩ := Nat.exists_eq_add_of_le' hleaves
  obtain ⟨following, hnext, hfollowing⟩ : ∃ following, session.download.next = some following ∧
      following ≠ .undefined := by
    cases hdownload : session.download <;> simp [hdownload, DownloadState.next,
      DownloadState.slot?, DownloadState.subscription?] at hstate ⊢
  rw [check_of_eq settings (leaves + 1) rfl hnext]
  obtain ⟨hinv, hrank⟩ := enters settings h hfollowing leaves
  refine ⟨hinv, ?_⟩
  have hremaining := DownloadState.remaining_next session.dex.length orders hnext
  have hwaits := waits_of_rested h hstate
  have hsession : (session.outline slots).rank orders = (session.outline slots).waits orders +
      session.download.remaining session.dex.length orders := rfl
  omega

/-- The response to a subscription moves the download on if its state waits for it. -/
theorem moves_subscriptionResponse (h : (session.outline slots).UnderWay orders) {leaves : Nat}
    (hleaves : 2 ≤ leaves) (type : SubscriptionType) :
    Session.Moves slots orders (decide (session.download.subscription? = some type)).toNat session
      (subscriptionResponse settings leaves type session) := by
  have hcheck : ∀ checked : DownloadState, checked.subscription? = some type →
      Session.Moves slots orders (decide (session.download.subscription? = some type)).toNat session
        (check settings leaves checked session) := by
    intro checked hchecked
    by_cases hstate : session.download = checked
    · subst hstate
      rw [hchecked, decide_eq_true rfl]
      have hslot := DownloadState.slot?_of_subscription? hchecked
      apply moves_check settings _ (.inr (Option.isSome_of_eq_some hchecked)) hleaves
      cases h.waits with
      | subscription _ houtstanding hcounter =>
        exact h.rested (fun name hname ↦ nomatch hslot.symm.trans hname) houtstanding hcounter
      | queue state => cases state.symm.trans hslot
      | chain state => cases state.symm.trans hslot
      | batch state => cases (congrArg DownloadState.slot? state).symm.trans hslot
      | timer state => cases state.symm.trans hslot
    · rw [check_of_ne settings leaves hstate]
      have hother : session.download.subscription? ≠ some type := by
        intro hsame
        exact hstate (DownloadState.subscription?_inj hsame hchecked)
      rw [decide_eq_false hother]
      exact Session.moves_self h
  cases type with
  | notification => exact hcheck .subscribeNotification rfl
  | userFundings => exact hcheck .subscribeUserFundings rfl
  | orderUpdates => exact hcheck .subscribeOrderUpdates rfl
  | userFills => exact hcheck .subscribeUserFills rfl
  | userEvents => exact hcheck .subscribeUserEvents rfl
  | _ =>
    rw [decide_eq_false (by cases session.download <;> exact nofun)]
    exact Session.moves_self h

/-- Without a response, the queue of requests changes nothing. -/
theorem checkRequestQueue_eq_self (leaves : Nat) (stale : List OrderKey)
    (h : ∀ name, session.download.slot? = some name →
      library.hasResponse (session.request.slot name) = false) :
    checkRequestQueue settings leaves stale session = session := by
  have hnone : ∀ name, session.download.slot? = some name →
      ¬ library.hasResponse (session.request.slot name) = true := by
    intro name hname hresponse
    rw [h name hname] at hresponse
    cases hresponse
  unfold checkRequestQueue
  split
  · next hdownload => exact if_neg (hnone .spotClearingHouseState (by rw [hdownload]; rfl))
  · next hdownload => exact if_neg (hnone .clearingHouseState (by rw [hdownload]; rfl))
  · next hdownload => exact if_neg (hnone .openOrders (by rw [hdownload]; rfl))
  · next hdownload => exact if_neg (hnone .staleOrders (by rw [hdownload]; rfl))
  · next hdownload => exact if_neg (hnone .trades (by rw [hdownload]; rfl))
  · rfl

/-- With a response, the queue of requests checks the state. -/
theorem checkRequestQueue_of_hasResponse (leaves : Nat) (stale : List OrderKey)
    {name : RequestName} (hslot : session.download.slot? = some name)
    (hresponse : library.hasResponse (session.request.slot name) = true)
    (hdetails : name = .staleOrders → session.request.detailsStaleOrders = []) :
    checkRequestQueue settings leaves stale session =
      check settings leaves session.download
        (if name = .openOrders then (checkStaleOrders stale session).1 else session) := by
  unfold checkRequestQueue
  cases hdownload : session.download with
  | getStaleOrders =>
    cases (congrArg DownloadState.slot? hdownload).symm.trans hslot
    exact (if_pos hresponse).trans (if_pos (List.isEmpty_iff.mpr (hdetails rfl)))
  | getSpotClearingHouseState =>
    cases (congrArg DownloadState.slot? hdownload).symm.trans hslot
    exact if_pos hresponse
  | getClearingHouseState =>
    cases (congrArg DownloadState.slot? hdownload).symm.trans hslot
    exact if_pos hresponse
  | getOpenOrders =>
    cases (congrArg DownloadState.slot? hdownload).symm.trans hslot
    exact if_pos hresponse
  | getUserFills =>
    cases (congrArg DownloadState.slot? hdownload).symm.trans hslot
    exact if_pos hresponse
  | _ => cases (congrArg DownloadState.slot? hdownload).symm.trans hslot

/-- The slot that the download waits for is answered. -/
def answered (slots : SlotPhases library) (session : Session library) : Bool :=
  session.download.slot?.any fun name ↦
    slots.phase (session.request.slot name) = some .answered

/-- The stale orders that a download finds are not more than a bound. -/
def FindsAtMost (orders : Nat) (stale : List OrderKey) (session : Session library) : Prop :=
  session.download = .getOpenOrders →
    (checkStaleOrders stale session).1.request.detailsStaleOrders.length ≤ orders

instance (stale : List OrderKey) (session : Session library) :
    Decidable (FindsAtMost orders stale session) :=
  inferInstanceAs (Decidable (_ → _))

/-- With a response, the queue of requests moves the download on. -/
theorem moves_checkRequestQueue (h : (session.outline slots).UnderWay orders) {leaves : Nat}
    (hleaves : 2 ≤ leaves) {stale : List OrderKey} (hstale : FindsAtMost orders stale session) :
    Session.Moves slots orders (answered slots session).toNat session
      (checkRequestQueue settings leaves stale session) := by
  have hself : (∀ name, session.download.slot? = some name → ∃ place,
      (session.outline slots).phase name = some place ∧ place ≠ .answered) →
        Session.Moves slots orders (answered slots session).toNat session
          (checkRequestQueue settings leaves stale session) := by
    intro hplace
    rw [checkRequestQueue_eq_self settings leaves stale]
    · have hanswered : answered slots session = false := by
        unfold answered
        cases hslot : session.download.slot? with
        | none => rfl
        | some name =>
          obtain ⟨place, hphase, hne⟩ := hplace name hslot
          show decide (slots.phase _ = _) = false
          rw [show slots.phase _ = some place from hphase]
          exact decide_eq_false fun heq ↦ hne (Option.some.inj heq)
      rw [hanswered]
      exact Session.moves_self h
    · intro name hslot
      obtain ⟨place, hphase, hne⟩ := hplace name hslot
      rw [slots.hasResponse_eq _ place hphase]
      exact decide_eq_false hne
  cases h.waits with
  | subscription state =>
    apply hself
    intro name hname
    cases (DownloadState.slot?_of_subscription? state).symm.trans hname
  | queue state phase =>
    apply hself
    intro name hname
    cases state.symm.trans hname
    exact ⟨.pending, phase, nofun⟩
  | chain state _ phase =>
    apply hself
    intro name hname
    cases state.symm.trans hname
    exact ⟨.inFlight, phase, nofun⟩
  | batch state phase =>
    apply hself
    intro name hname
    cases (congrArg DownloadState.slot? state).symm.trans hname
    exact ⟨.inFlight, phase, nofun⟩
  | @timer name state phase houtstanding hcounter hdetails =>
    have hresponse : library.hasResponse (session.request.slot name) = true :=
      slots.hasResponse_eq _ .answered phase
    have hanswered : answered slots session = true := by
      unfold answered
      rw [show session.download.slot? = some name from state]
      exact decide_eq_true phase
    have hrested : (session.outline slots).Rested orders := by
      refine h.rested ?_ houtstanding hcounter
      intro other hother
      cases state.symm.trans hother
      exact .inr phase
    rw [hanswered, checkRequestQueue_of_hasResponse settings leaves stale state hresponse hdetails]
    split
    · next hname =>
      have hopen : session.download = .getOpenOrders := by
        rw [hname] at state
        exact DownloadState.slot?_inj state rfl
      have hfound : ((checkStaleOrders stale session).1.outline slots).Rested orders :=
        ⟨hrested.ended, hrested.dexes, hstale hopen, hrested.settled, houtstanding, hcounter⟩
      exact moves_check settings hfound (.inl (Option.isSome_of_eq_some state)) hleaves
    · exact moves_check settings hrested (.inl (Option.isSome_of_eq_some state)) hleaves

/-- A timer of the stream pays a step for a response that has been committed. -/
theorem moves_timer (h : (session.outline slots).UnderWay orders) (refreshed : Bool)
    (originCreateTime : Int) {leaves : Nat} (hleaves : 2 ≤ leaves) {stale : List OrderKey}
    (hstale : FindsAtMost orders stale session) :
    Session.Moves slots orders (refreshed && answered slots session).toNat session
      (timer settings refreshed originCreateTime stale leaves session) := by
  cases refreshed with
  | false => exact Session.moves_self h
  | true =>
    have hstatus : ¬ session.dropCopyStatus = .ready := by
      rw [show session.dropCopyStatus = .downloading from h.status]
      exact nofun
    unfold timer
    rw [if_pos rfl, if_neg hstatus]
    exact moves_checkRequestQueue settings h hleaves hstale

end DropCopy

end Hyperliquid.Gateway
