import Hyperliquid.Base.Periodic
import Hyperliquid.Gateway.Readiness
import Mathlib.Algebra.Order.Group.Int

/-!
# Timers of the web sockets

When the three streams that have a web socket send a ping, and when `DropCopy` looks for stale
orders: the handlers of `Timer` in `src/roq/hyperliquid/gateway/market_data.cpp:128–141`,
`web_socket.cpp:142–153` and `drop_copy.cpp:118–129`. A time is a count of nanoseconds.
-/

namespace Hyperliquid.Gateway

open Hyperliquid.Base

/-- The time between two pings, from the setting `ws.ping_freq`. -/
def pingPeriod (pingFrequency : Int) : Int := pingFrequency.tdiv 2

private theorem pingPeriod_nonneg {pingFrequency : Int} (h : 0 < pingFrequency) :
    0 ≤ pingPeriod pingFrequency :=
  Int.tdiv_nonneg h.le (by decide)

/-- What `MarketData` and `WebSocket` keep of their web socket, and when they have sent a ping. -/
structure Socket where
  connectionStatus : ConnectionStatus
  nextPing : Int
  pings : List Int
  deriving DecidableEq, Repr

namespace Socket

def new : Socket := ⟨.undefined, 0, []⟩

/-- What happens to a web socket; `refreshed` is what `refresh` returns. -/
inductive Event where
  | ready
  | disconnected
  | timer (refreshed : Bool) (originCreateTime : Int)
  deriving DecidableEq, Repr

/-- The handlers of `web::socket::Ready`, `web::socket::Disconnected` and `Timer`. -/
def step (pingFrequency : Int) (socket : Socket) : Event → Socket
  | .ready => { socket with connectionStatus := .ready }
  | .disconnected => { socket with connectionStatus := .disconnected }
  | .timer refreshed originCreateTime =>
    if refreshed ∧ socket.connectionStatus = .ready ∧ socket.nextPing < originCreateTime then
      { socket with
        nextPing := originCreateTime + pingPeriod pingFrequency
        pings := socket.pings ++ [originCreateTime] }
    else socket

/-- The time at which a web socket looks at whether a ping is due. -/
def looks (socket : Socket) : Event → Option Int
  | .ready | .disconnected => none
  | .timer refreshed originCreateTime =>
    if refreshed ∧ socket.connectionStatus = .ready then some originCreateTime else none

/-- The timer of the pings. -/
def pingTimer (socket : Socket) : PeriodicTimer Int := ⟨socket.nextPing, socket.pings⟩

private theorem keepsTimer_ping (pingFrequency : Int) :
    KeepsTimer (step pingFrequency) looks (pingPeriod pingFrequency) pingTimer := by
  intro socket event
  cases event with
  | ready => rfl
  | disconnected => rfl
  | timer refreshed originCreateTime =>
    dsimp only [step, looks]
    by_cases hready : refreshed ∧ socket.connectionStatus = .ready
    · rw [if_pos hready, Option.elim_some]
      unfold PeriodicTimer.ask pingTimer
      by_cases hdue : socket.nextPing < originCreateTime
      · rw [if_pos ⟨hready.1, hready.2, hdue⟩, if_pos hdue]
      · rw [if_neg fun h ↦ hdue h.2.2, if_neg hdue]
    · rw [if_neg hready, if_neg fun h ↦ hready ⟨h.1, h.2.1⟩, Option.elim_none]

end Socket

namespace DropCopy

variable {library : LimitRequest}

/-- A session, with what its web socket keeps of the pings, when it has sent one, and when it has
looked for stale orders. -/
structure Watched (library : LimitRequest) where
  session : Session library
  nextPing : Int
  pings : List Int
  checks : List Int

namespace Watched

def new (library : LimitRequest) (dex : List Dex) : Watched library :=
  ⟨.new library dex, 0, [], []⟩

/-- An event of a session, with the clock of the timer, which is not the time of its trace. -/
structure Event (library : LimitRequest) where
  event : Session.Event library
  now : Int

/-- Whether a timer finds the web socket refreshed and the stream ready. -/
def Finds (session : Session library) : Session.Event library → Bool
  | .dropCopyTimer refreshed _ _ _ =>
    !session.ended && refreshed && session.dropCopyStatus = .ready
  | _ => false

/-- `trace_info.origin_create_time` of a timer. -/
def originCreateTime : Session.Event library → Int
  | .dropCopyTimer _ originCreateTime _ _ => originCreateTime
  | _ => 0

/-- One step of a session, with `send_ping`, `drop_copy.cpp:477–482`, and what
`check_stale_orders`, `drop_copy.cpp:560–567`, finds due. -/
def step (settings : DownloadSettings) (http : HttpLibrary) (pingFrequency : Int)
    (watched : Watched library) (event : Event library) : Watched library :=
  let session := watched.session.step settings http event.event
  if Finds watched.session event.event then
    { session
      nextPing :=
        if watched.nextPing < event.now then event.now + pingPeriod pingFrequency
        else watched.nextPing
      pings :=
        if watched.nextPing < event.now then watched.pings ++ [event.now] else watched.pings
      checks :=
        if watched.session.nextCheckStaleOrders < originCreateTime event.event then
          watched.checks ++ [originCreateTime event.event]
        else watched.checks }
  else { watched with session }

/-- The time at which a session looks at whether a ping is due. -/
def looks (watched : Watched library) (event : Event library) : Option Int :=
  if Finds watched.session event.event then some event.now else none

/-- The time at which a session looks at whether a check of the stale orders is due. -/
def looksForStale (watched : Watched library) (event : Event library) : Option Int :=
  if Finds watched.session event.event then some (originCreateTime event.event) else none

/-- The timer of the pings. -/
def pingTimer (watched : Watched library) : PeriodicTimer Int := ⟨watched.nextPing, watched.pings⟩

/-- The timer of the checks of the stale orders. -/
def checkTimer (watched : Watched library) : PeriodicTimer Int :=
  ⟨watched.session.nextCheckStaleOrders, watched.checks⟩

variable (settings : DownloadSettings) (http : HttpLibrary) (pingFrequency : Int)

private theorem keepsTimer_ping :
    KeepsTimer (@step library settings http pingFrequency) looks (pingPeriod pingFrequency)
      pingTimer := by
  intro watched event
  unfold step looks
  split
  · rw [Option.elim_some]
    unfold PeriodicTimer.ask pingTimer
    dsimp only
    split <;> rfl
  · rfl

end Watched

/-! ### When the next check of the stale orders is due -/

/-- When the next check of the stale orders is due, and that some orders are in the set. -/
structure Keeps (time : Int) (keys : List OrderKey) (session : Session library) : Prop where
  next_eq : session.nextCheckStaleOrders = time
  mem : ∀ key ∈ keys, key ∈ session.request.detailsStaleOrders

private theorem keeps_self (session : Session library) :
    Keeps session.nextCheckStaleOrders session.request.detailsStaleOrders session :=
  ⟨rfl, fun _ hkey ↦ hkey⟩

variable (settings : DownloadSettings) {time : Int} {keys : List OrderKey}

/-- A request leaves the next check and the orders. -/
theorem Keeps.ask {session : Session library} (h : Keeps time keys session) (name : RequestName) :
    Keeps time keys (ask name session) := by
  cases name <;> exact ⟨h.next_eq, h.mem⟩

/-- A state of the download leaves them. -/
theorem Keeps.download {session : Session library} (h : Keeps time keys session)
    (state : DownloadState) : Keeps time keys (download settings state session).1 := by
  have hpublish : Keeps time keys (publish .downloading session) := ⟨h.next_eq, h.mem⟩
  unfold DropCopy.download
  cases state with
  | getSpotClearingHouseState => exact hpublish.ask _
  | getClearingHouseState => exact hpublish.ask _
  | getOpenOrders => exact hpublish.ask _
  | getStaleOrders =>
    dsimp only
    split
    · exact h
    · exact hpublish.ask _
  | getUserFills =>
    dsimp only
    split
    · exact hpublish.ask _
    · exact h
  | _ => exact ⟨h.next_eq, h.mem⟩

/-- A check of the download leaves them. -/
theorem Keeps.check {session : Session library} (h : Keeps time keys session) (leaves : Nat)
    (checked : DownloadState) : Keeps time keys (check settings leaves checked session) := by
  have hcheck : Keeps time keys (Download.check DownloadState.next (DropCopy.download settings)
      leaves checked session.download session).2 :=
    Download.check_keeps (P := Keeps time keys)
      (fun state _ hother ↦ hother.download settings state) leaves h
  exact ⟨hcheck.next_eq, hcheck.mem⟩

/-- A connection leaves them. -/
theorem Keeps.ready {session : Session library} (h : Keeps time keys session) (leaves : Nat) :
    Keeps time keys (ready settings leaves session) := by
  have hpublish : Keeps time keys (publish .ready session) := ⟨h.next_eq, h.mem⟩
  have henter : Keeps time keys (Download.enter DownloadState.next (DropCopy.download settings)
      leaves .subscribeNotification (publish .ready session)).2 :=
    Download.enter_keeps (P := Keeps time keys)
      (fun state _ hother ↦ hother.download settings state) leaves hpublish
  exact ⟨henter.next_eq, henter.mem⟩

/-- A confirmed subscription leaves them. -/
theorem Keeps.subscriptionResponse {session : Session library} (h : Keeps time keys session)
    (leaves : Nat) (type : SubscriptionType) :
    Keeps time keys (subscriptionResponse settings leaves type session) := by
  cases type <;> first | exact h | exact h.check settings leaves _

private theorem mem_insertKey_iff (details : List OrderKey) (key other : OrderKey) :
    other ∈ insertKey details key ↔ other ∈ details ∨ other = key := by
  unfold insertKey
  split
  · next hmem =>
    refine ⟨.inl, ?_⟩
    rintro (hother | rfl)
    · exact hother
    · exact hmem
  · rw [List.mem_append, List.mem_singleton]

private theorem mem_foldl_insertKey_iff (stale details : List OrderKey) (key : OrderKey) :
    key ∈ stale.foldl insertKey details ↔ key ∈ details ∨ key ∈ stale := by
  induction stale generalizing details with
  | nil => simp
  | cons first stale ih => rw [List.foldl_cons, ih, mem_insertKey_iff, List.mem_cons, or_assoc]

/-- The stale orders that are found are in the set then. -/
theorem Keeps.checkStaleOrders {session : Session library} (h : Keeps time keys session)
    (stale : List OrderKey) :
    Keeps time (keys ++ stale) (checkStaleOrders stale session).1 := by
  refine ⟨h.next_eq, fun key hkey ↦ (mem_foldl_insertKey_iff stale _ key).mpr ?_⟩
  exact (List.mem_append.mp hkey).imp_left (h.mem key)

private theorem Keeps.of_append {session : Session library} {stale : List OrderKey}
    (h : Keeps time (keys ++ stale) session) : Keeps time keys session :=
  ⟨h.next_eq, fun key hkey ↦ h.mem key (List.mem_append_left _ hkey)⟩

/-- A check that is due leaves its orders in the set, and the next check for a period later. -/
theorem Keeps.checkStaleOrdersAt {session : Session library} (h : Keeps time keys session)
    (originCreateTime : Int) (stale : List OrderKey) :
    Keeps (if time < originCreateTime then originCreateTime + settings.checkStaleOrderFreq
        else time) (keys ++ if time < originCreateTime then stale else [])
      (checkStaleOrdersAt settings originCreateTime stale session) := by
  unfold DropCopy.checkStaleOrdersAt
  rw [h.next_eq]
  split
  · have hlater : Keeps (originCreateTime + settings.checkStaleOrderFreq) keys
        { session with
          nextCheckStaleOrders := originCreateTime + settings.checkStaleOrderFreq } :=
      ⟨rfl, h.mem⟩
    dsimp only
    split
    · exact (hlater.checkStaleOrders stale).ask _
    · exact hlater.checkStaleOrders stale
  · rw [List.append_nil]
    exact h

/-- A look at the request of the download leaves them. -/
theorem Keeps.checkRequestQueue {session : Session library} (h : Keeps time keys session)
    (leaves : Nat) (stale : List OrderKey) :
    Keeps time keys (checkRequestQueue settings leaves stale session) := by
  unfold DropCopy.checkRequestQueue
  split
  · split
    · exact h.check settings leaves _
    · exact h
  · split
    · exact h.check settings leaves _
    · exact h
  · split
    · exact (h.checkStaleOrders stale).of_append.check settings leaves _
    · exact h
  · split
    · split
      · exact h.check settings leaves _
      · exact ⟨h.next_eq, h.mem⟩
    · exact h
  · split
    · exact h.check settings leaves _
    · exact h
  · exact h

private theorem nextCheckStaleOrders_perform (torn : Bool)
    (handler : Proc (OrderEntry.Effect library) Web.Exception Unit) (session : Session library) :
    (session.perform torn handler).nextCheckStaleOrders = session.nextCheckStaleOrders := by
  have hevents : ∀ (effects : List (OrderEntry.Effect library)) (other : Session library),
      (effects.foldl (Session.apply torn) other).nextCheckStaleOrders =
        other.nextCheckStaleOrders := by
    intro effects
    induction effects with
    | nil => exact fun _ ↦ rfl
    | cons effect effects ih =>
      intro other
      rw [List.foldl_cons, ih]
      cases effect <;> rfl
  unfold Session.perform
  dsimp only
  split <;> exact hevents handler.events session

namespace Watched

private theorem finds_iff (session : Session library) (refreshed : Bool) (originCreateTime : Int)
    (stale : List OrderKey) (leaves : Nat) :
    Finds session (.dropCopyTimer refreshed originCreateTime stale leaves) ↔
      session.ended = false ∧ refreshed ∧ session.dropCopyStatus = .ready := by
  simp [Finds, and_assoc]

private theorem keeps_timer (http : HttpLibrary) (session : Session library)
    {refreshed : Bool} {originCreateTime : Int} {stale : List OrderKey} {leaves : Nat}
    (h : Finds session (.dropCopyTimer refreshed originCreateTime stale leaves)) :
    Keeps (if session.nextCheckStaleOrders < originCreateTime then
        originCreateTime + settings.checkStaleOrderFreq else session.nextCheckStaleOrders)
      (session.request.detailsStaleOrders ++
        if session.nextCheckStaleOrders < originCreateTime then stale else [])
      (session.step settings http (.dropCopyTimer refreshed originCreateTime stale leaves)) := by
  obtain ⟨hended, hrefreshed, hready⟩ := (finds_iff ..).mp h
  unfold Session.step
  rw [hended, if_neg Bool.false_ne_true]
  dsimp only [timer]
  rw [if_pos hrefreshed, if_pos hready]
  exact ((keeps_self session).checkStaleOrdersAt settings originCreateTime stale).checkRequestQueue
    settings leaves stale

/-- Nothing but a timer that finds a check due moves the next check. -/
theorem nextCheckStaleOrders_step (http : HttpLibrary) (session : Session library)
    {event : Session.Event library} (h : Finds session event = false) :
    (session.step settings http event).nextCheckStaleOrders = session.nextCheckStaleOrders := by
  unfold Session.step
  split
  · rfl
  · next hended =>
    cases event with
    | dropCopyReady leaves => exact ((keeps_self session.restart).ready settings leaves).next_eq
    | dropCopyDisconnected => rfl
    | dropCopyTimer refreshed time stale leaves =>
      dsimp only [timer]
      split
      · next hrefreshed =>
        have hready : session.dropCopyStatus ≠ .ready := by
          intro hready
          rw [(finds_iff ..).mpr ⟨Bool.not_eq_true _ ▸ hended, hrefreshed, hready⟩] at h
          cases h
        rw [if_neg hready]
        exact ((keeps_self session).checkRequestQueue settings leaves stale).next_eq
      · rfl
    | subscriptionResponse type leaves =>
      exact ((keeps_self session).subscriptionResponse settings leaves type).next_eq
    | orderEntryConnected => rfl
    | orderEntryDisconnected => rfl
    | orderEntryTimer refreshed inputs =>
      dsimp only
      split
      · exact nextCheckStaleOrders_perform false _ session
      · rfl
    | reply position reply =>
      dsimp only
      split
      · rfl
      · exact nextCheckStaleOrders_perform _ _ _
    | dexAdded dex => rfl

variable (http : HttpLibrary) (pingFrequency : Int)

private theorem keepsTimer_check :
    KeepsTimer (@step library settings http pingFrequency) looksForStale
      settings.checkStaleOrderFreq checkTimer := by
  intro watched event
  unfold step looksForStale checkTimer
  cases hfinds : Finds watched.session event.event with
  | false =>
    simp only [Bool.false_eq_true, if_false]
    rw [nextCheckStaleOrders_step settings http _ hfinds, Option.elim_none]
  | true =>
    obtain ⟨event, now⟩ := event
    cases event with
    | dropCopyTimer refreshed time stale leaves =>
      have hnext := (keeps_timer settings http _ hfinds).next_eq
      simp only [if_true]
      rw [hnext, Option.elim_some]
      unfold PeriodicTimer.ask originCreateTime
      dsimp only
      split <;> rfl
    | _ => cases hfinds

/-- A check leaves the orders that the dispatcher calls stale in the set. -/
def LeavesStale (watched : Watched library) (event : Event library) : Prop :=
  ∀ refreshed originCreateTime stale leaves,
    event.event = .dropCopyTimer refreshed originCreateTime stale leaves →
    (watched.step settings http pingFrequency event).checks ≠ watched.checks →
    ∀ order ∈ stale,
      order ∈ (watched.step settings http pingFrequency event).session.request.detailsStaleOrders

private theorem leavesStale (watched : Watched library) (event : Event library) :
    LeavesStale settings http pingFrequency watched event := by
  rintro refreshed time stale leaves hevent hchecks order horder
  obtain ⟨event, now⟩ := event
  subst hevent
  unfold step at hchecks ⊢
  cases hfinds : Finds watched.session (.dropCopyTimer refreshed time stale leaves) with
  | false => simp [hfinds] at hchecks
  | true =>
    have hkeeps := keeps_timer settings http _ hfinds
    simp only [hfinds, if_true] at hchecks ⊢
    split at hchecks
    · next hdue =>
      apply hkeeps.mem order
      rw [if_pos (show watched.session.nextCheckStaleOrders < time from hdue)]
      exact List.mem_append_right _ horder
    · exact absurd rfl hchecks

end Watched
end DropCopy

/-- In every run, whatever happens to the web sockets and to the session, the pings of each of the
three streams and the checks of the stale orders are paced: they are made by timers that find the
web socket refreshed and the stream ready, more than a period apart, and each such timer leaves
the last of them at most a period old. A check leaves the stale orders in the set that is asked
for. -/
theorem timers_run {library : LimitRequest} (settings : DropCopy.DownloadSettings)
    (http : HttpLibrary) (dex : List Dex) {pingFrequency : Int} (hping : 0 < pingFrequency)
    (hcheck : 0 ≤ settings.checkStaleOrderFreq) :
    (∀ events, Paced (Socket.step pingFrequency) Socket.looks (pingPeriod pingFrequency)
      Socket.pings 0 .new events) ∧
    ∀ events : List (DropCopy.Watched.Event library),
      Paced (DropCopy.Watched.step settings http pingFrequency) DropCopy.Watched.looks
        (pingPeriod pingFrequency) DropCopy.Watched.pings 0 (.new library dex) events ∧
      Paced (DropCopy.Watched.step settings http pingFrequency) DropCopy.Watched.looksForStale
        settings.checkStaleOrderFreq DropCopy.Watched.checks 0 (.new library dex) events ∧
      Run.Along (DropCopy.Watched.step settings http pingFrequency)
        (DropCopy.Watched.LeavesStale settings http pingFrequency) (.new library dex) events := by
  have hperiod := pingPeriod_nonneg hping
  refine ⟨fun events ↦ ?_, fun events ↦ ⟨?_, ?_, ?_⟩⟩
  · exact (Socket.keepsTimer_ping pingFrequency).paced hperiod rfl events
  · exact (DropCopy.Watched.keepsTimer_ping settings http pingFrequency).paced hperiod rfl events
  · exact (DropCopy.Watched.keepsTimer_check settings http pingFrequency).paced hcheck rfl events
  · exact Run.along_of_invariant (fun _ ↦ True) (fun _ _ _ _ ↦ trivial)
      (fun watched event _ _ ↦ DropCopy.Watched.leavesStale settings http pingFrequency watched
        event) trivial (Run.along_true _ events)

/-- The default ping frequency of half a minute. -/
theorem timers_run_default :
    (∀ events, Paced (Socket.step 30000000000) Socket.looks (pingPeriod 30000000000)
      Socket.pings 0 .new events) ∧
    ∀ events : List (DropCopy.Watched.Event oneSlot),
      Paced (DropCopy.Watched.step ⟨0, 0⟩ Session.silent 30000000000) DropCopy.Watched.looks
        (pingPeriod 30000000000) DropCopy.Watched.pings 0 (.new oneSlot []) events ∧
      Paced (DropCopy.Watched.step ⟨0, 0⟩ Session.silent 30000000000)
        DropCopy.Watched.looksForStale 0 DropCopy.Watched.checks 0 (.new oneSlot []) events ∧
      Run.Along (DropCopy.Watched.step ⟨0, 0⟩ Session.silent 30000000000)
        (DropCopy.Watched.LeavesStale ⟨0, 0⟩ Session.silent 30000000000) (.new oneSlot [])
        events :=
  timers_run ⟨0, 0⟩ Session.silent [] (by decide) (by decide)

end Hyperliquid.Gateway
