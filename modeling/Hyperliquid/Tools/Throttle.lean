import Hyperliquid.Base.Run
import Hyperliquid.Web.Http

/-!
# The throttle

`src/roq/hyperliquid/tools/throttle.cpp`: the interceptor of the HTTP connections, which
suspends requests after a `Retry-After` header and after the statuses 403 and 429. Times
are 64-bit counts of nanoseconds, which wrap around. The clocks a handler reads are arguments
of its event.
-/

namespace Hyperliquid.Tools

open Hyperliquid.Base Hyperliquid.Web

namespace Throttle

/-- What the throttle uses of libraries outside the repository. -/
structure Library where
  /-- `utils::charconv::from_chars<int64_t>`; the error is the exception it throws. -/
  fromChars : String → Except String Int64
  /-- `utils::hash::FNV::compute`. -/
  fnv : String → UInt64

/-- `DEFAULT_BACKOFF`, five seconds. -/
def defaultBackoff : Int64 := 5000000000

/-- `BLOCKED_BACKOFF`, ten minutes. -/
def blockedBackoff : Int64 := 600000000000

/-- `Header`, `throttle.cpp:34–37`. -/
inductive Header where
  | unknown
  | retryAfter
  deriving DecidableEq, Repr

/-- `parse_header`, `throttle.cpp:39–49`: by the hash of the name in lower case. -/
def parseHeader (lib : Library) (text : String) : Header :=
  if lib.fnv (text.map Char.toLower) = lib.fnv "retry-after" then .retryAfter else .unknown

/-- `Throttle::Params`. -/
structure Params where
  retryAfter : Int64 := 0
  deriving DecidableEq, Repr

end Throttle

open Throttle in
/-- `Throttle`, `throttle.hpp:22–46`. -/
structure Throttle where
  enabled : Bool
  params : Params := {}
  suspendUntil : Int64 := 0
  deriving DecidableEq, Repr

namespace Throttle

/-- The constructor, `throttle.cpp:56–57`. -/
def create (enableRateLimit : Bool) : Throttle := { enabled := enableRateLimit }

/-- The callbacks of `web::rest::Interceptor`, each with the clocks it reads: `now` is
`clock::get_system`, `nowUtc` is `clock::get_realtime`. -/
inductive Event where
  | messageBegin
  | messageHeader (name value : String) (now nowUtc : Int64)
  | messageEnd (status : Status) (now : Int64)
  deriving DecidableEq, Repr

/-- `utils::update`: stores the value and says whether the stored value changed. -/
def update (old value : Int64) : Int64 × Bool := (value, value ≠ old)

/-- `update_suspend_until`, `throttle.cpp:71–84`. -/
def updateSuspendUntil (throttle : Throttle) (now nowUtc : Int64) : Throttle :=
  if !throttle.enabled then throttle
  else
    -- the header is read as a point in time, in milliseconds, and compared in nanoseconds
    let timestamp := throttle.params.retryAfter * 1000000
    if nowUtc < timestamp then
      let period := timestamp - nowUtc
      { throttle with suspendUntil := max throttle.suspendUntil (now + period) }
    else
      { throttle with suspendUntil := max throttle.suspendUntil (now + defaultBackoff) }

-- A point in time far enough away wraps around to one in the past.
example :
    (updateSuspendUntil { enabled := true, params := ⟨18446744073710⟩ } 1 448384).suspendUntil =
      1 + defaultBackoff := by decide +kernel

/-- The handler of `MessageHeader`, `throttle.cpp:63–95`. An exception of `from_chars`
leaves the throttle as it is. -/
def messageHeader (lib : Library) (throttle : Throttle) (name value : String)
    (now nowUtc : Int64) : Throttle :=
  match parseHeader lib name with
  | .unknown => throttle
  | .retryAfter =>
    match lib.fromChars value with
    | .error _ => throttle
    | .ok value =>
      let (retryAfter, changed) := update throttle.params.retryAfter value
      let throttle := { throttle with params := { retryAfter } }
      if changed then updateSuspendUntil throttle now nowUtc else throttle

/-- The handler of `MessageEnd`, `throttle.cpp:97–119`. -/
def messageEnd (throttle : Throttle) (status : Status) (now : Int64) : Throttle :=
  if !throttle.enabled then throttle
  else
    match status with
    | .forbidden =>
      { throttle with suspendUntil := max throttle.suspendUntil (now + blockedBackoff) }
    | .tooManyRequests =>
      if throttle.suspendUntil = 0 then { throttle with suspendUntil := now + defaultBackoff }
      else throttle
    | _ => throttle

/-- One callback. -/
def step (lib : Library) (throttle : Throttle) : Event → Throttle
  | .messageBegin => throttle
  | .messageHeader name value now nowUtc => throttle.messageHeader lib name value now nowUtc
  | .messageEnd status now => throttle.messageEnd status now

/-- The system time a callback reads; a message's begin reads none. -/
def Event.now? : Event → Option Int64
  | .messageBegin => none
  | .messageHeader _ _ now _ => some now
  | .messageEnd _ now => some now

variable (lib : Library) (throttle : Throttle)

@[simp] private theorem enabled_updateSuspendUntil (now nowUtc : Int64) :
    (throttle.updateSuspendUntil now nowUtc).enabled = throttle.enabled := by
  simp only [updateSuspendUntil, apply_ite Throttle.enabled, ite_self]

@[simp] private theorem enabled_messageEnd (status : Status) (now : Int64) :
    (throttle.messageEnd status now).enabled = throttle.enabled := by
  cases status <;> simp only [messageEnd, apply_ite Throttle.enabled, ite_self]

@[simp] private theorem enabled_messageHeader (name value : String) (now nowUtc : Int64) :
    (throttle.messageHeader lib name value now nowUtc).enabled = throttle.enabled := by
  unfold messageHeader
  cases parseHeader lib name with
  | unknown => rfl
  | retryAfter =>
    cases lib.fromChars value with
    | error what => rfl
    | ok value => by_cases hchanged : value = throttle.params.retryAfter <;>
        simp [update, hchanged]

/-- No callback switches the throttle on or off. -/
@[simp] theorem enabled_step (event : Event) :
    (throttle.step lib event).enabled = throttle.enabled := by
  cases event with
  | messageBegin => rfl
  | messageHeader name value now nowUtc => exact enabled_messageHeader lib throttle ..
  | messageEnd status now => exact enabled_messageEnd throttle status now

/-- A clock above zero is before its sum with a period exactly when the sum does not wrap. -/
private theorem lt_add_period_iff {now period : Int64} (hnow : 0 < now) (hperiod : 0 < period) :
    now < now + period ↔ now ≤ Int64.maxValue - period := by
  have hnow' := Int64.lt_iff_toInt_lt.mp hnow
  have hperiod' := Int64.lt_iff_toInt_lt.mp hperiod
  have hnow_lt := now.toInt_lt
  have hperiod_lt := period.toInt_lt
  rw [Int64.lt_iff_toInt_lt, Int64.le_iff_toInt_le, Int64.toInt_add, Int64.toInt_sub,
    Int64.toInt_maxValue]
  rw [Int64.toInt_zero] at hnow' hperiod'
  have hsub : (2 ^ 63 - 1 - period.toInt).bmod (2 ^ 64) = 2 ^ 63 - 1 - period.toInt := by
    apply Int.bmod_eq_of_le <;> omega
  rw [hsub]
  by_cases hwraps : now.toInt + period.toInt < 2 ^ 63
  · rw [Int.bmod_eq_of_le (by omega) (by omega)]
    omega
  · have hadd : (now.toInt + period.toInt).bmod (2 ^ 64) = now.toInt + period.toInt - 2 ^ 64 := by
      rw [← Int.sub_bmod_right]
      apply Int.bmod_eq_of_le <;> omega
    rw [hadd]
    omega

/-- `std::max` is not below its first argument. -/
private theorem le_max_left (a b : Int64) : a ≤ max a b := by
  change a ≤ if a ≤ b then b else a
  split
  · next hle => exact hle
  · exact Int64.le_refl a

/-- Something is below `std::max` exactly when it is below an argument. -/
private theorem lt_max_iff {a b c : Int64} : a < max b c ↔ a < b ∨ a < c := by
  change (a < if b ≤ c then c else b) ↔ _
  split
  · next hle => exact ⟨.inr, fun h ↦ h.elim (Int64.lt_of_lt_of_le · hle) id⟩
  · next hle =>
    exact ⟨.inl, fun h ↦ h.elim id fun hlt ↦ Int64.lt_trans hlt (Int64.not_le.mp hle)⟩

private theorem le_updateSuspendUntil (now nowUtc : Int64) :
    throttle.suspendUntil ≤ (throttle.updateSuspendUntil now nowUtc).suspendUntil := by
  unfold updateSuspendUntil
  dsimp only
  split_ifs
  · exact Int64.le_refl _
  · exact le_max_left _ _
  · exact le_max_left _ _

/-- A header never shortens the suspension. -/
theorem le_messageHeader (name value : String) (now nowUtc : Int64) :
    throttle.suspendUntil ≤ (throttle.messageHeader lib name value now nowUtc).suspendUntil := by
  unfold messageHeader
  cases parseHeader lib name with
  | unknown => exact Int64.le_refl _
  | retryAfter =>
    cases lib.fromChars value with
    | error what => exact Int64.le_refl _
    | ok value =>
      by_cases hchanged : value = throttle.params.retryAfter
      · simp [update, hchanged]
      · simp only [update, ne_eq, hchanged, not_false_eq_true, decide_true, if_true]
        exact le_updateSuspendUntil { throttle with params := ⟨value⟩ } now nowUtc

/-- The end of a message that leaves the client suspended, if it was rate-limited, does not
shorten the suspension. -/
private theorem le_messageEnd (status : Status) (now : Int64) (hnow : 0 < now)
    (h : status = .tooManyRequests → now < (throttle.messageEnd status now).suspendUntil) :
    throttle.suspendUntil ≤ (throttle.messageEnd status now).suspendUntil := by
  cases status with
  | tooManyRequests =>
    -- only a suspension of zero is replaced
    by_cases hzero : throttle.suspendUntil = 0
    · rw [hzero]
      exact Int64.le_of_lt (Int64.lt_trans hnow (h rfl))
    · simp only [messageEnd, if_neg hzero, ite_self]
      exact Int64.le_refl _
  | forbidden =>
    unfold messageEnd
    split
    · exact Int64.le_refl _
    · exact le_max_left _ _
  | _ =>
    unfold messageEnd
    split <;> exact Int64.le_refl _

/-- A blocked client is suspended exactly when the end of its back-off can be counted, or it
is suspended past now already. -/
theorem lt_messageEnd_forbidden_iff (now : Int64) (henabled : throttle.enabled)
    (hnow : 0 < now) :
    now < (throttle.messageEnd .forbidden now).suspendUntil ↔
      now ≤ Int64.maxValue - blockedBackoff ∨ now < throttle.suspendUntil := by
  have hbackoff : now < now + blockedBackoff ↔ now ≤ Int64.maxValue - blockedBackoff :=
    lt_add_period_iff hnow (by decide +kernel)
  simp only [messageEnd, henabled, Bool.not_true, Bool.false_eq_true, if_false]
  rw [lt_max_iff, hbackoff]
  exact Or.comm

/-- A rate-limited client is suspended exactly when it never was before, and the end of its
back-off can be counted, or it still is. -/
theorem lt_messageEnd_tooManyRequests_iff (now : Int64) (henabled : throttle.enabled)
    (hnow : 0 < now) :
    now < (throttle.messageEnd .tooManyRequests now).suspendUntil ↔
      throttle.suspendUntil = 0 ∧ now ≤ Int64.maxValue - defaultBackoff ∨
        now < throttle.suspendUntil := by
  have hbackoff : now < now + defaultBackoff ↔ now ≤ Int64.maxValue - defaultBackoff :=
    lt_add_period_iff hnow (by decide +kernel)
  simp only [messageEnd, henabled, Bool.not_true, Bool.false_eq_true, if_false]
  split_ifs with hzero
  · have hnot : ¬ now < throttle.suspendUntil := by
      rw [hzero]
      exact Int64.not_lt.mpr (Int64.le_of_lt hnow)
    rw [hbackoff, or_iff_left hnot, and_iff_right hzero]
  · rw [or_iff_right (hzero ·.1)]

/-- What a callback must do: keep or extend the suspension, and after a message with
status 429 or 403 have the client suspended. -/
def Suspends (throttle : Throttle) (event : Event) : Prop :=
  throttle.suspendUntil ≤ (throttle.step lib event).suspendUntil ∧
    ∀ status now, event = .messageEnd status now →
      status = .tooManyRequests ∨ status = .forbidden →
        now < (throttle.step lib event).suspendUntil

/-- A message with status 429 ends while the client never was suspended or still is. A
suspension that begins, also after a message with status 403, ends within 64 bits of
nanoseconds. -/
def BackOffCounts (throttle : Throttle) : Event → Prop
  | .messageEnd .tooManyRequests now =>
    throttle.suspendUntil = 0 ∧ now ≤ Int64.maxValue - defaultBackoff ∨
      now < throttle.suspendUntil
  | .messageEnd .forbidden now =>
    now ≤ Int64.maxValue - blockedBackoff ∨ now < throttle.suspendUntil
  | _ => True

instance decidableBackOffCounts : ∀ throttle event, Decidable (BackOffCounts throttle event)
  | throttle, .messageEnd .tooManyRequests now =>
    inferInstanceAs (Decidable (throttle.suspendUntil = 0 ∧
      now ≤ Int64.maxValue - defaultBackoff ∨ now < throttle.suspendUntil))
  | throttle, .messageEnd .forbidden now =>
    inferInstanceAs (Decidable (now ≤ Int64.maxValue - blockedBackoff ∨
      now < throttle.suspendUntil))
  | _, .messageBegin | _, .messageHeader .. => isTrue trivial
  | _, .messageEnd .ok _ | _, .messageEnd (.other _) _ => isTrue trivial

/-- What the end of a message must do is to have the client suspended: then it does not shorten
the suspension either. -/
private theorem suspends_messageEnd_iff (status : Status) (now : Int64) (hnow : 0 < now) :
    Suspends lib throttle (.messageEnd status now) ↔
      (status = .tooManyRequests ∨ status = .forbidden →
        now < (throttle.messageEnd status now).suspendUntil) := by
  constructor
  · intro hsuspends
    exact hsuspends.2 status now rfl
  · intro hlt
    refine ⟨le_messageEnd throttle status now hnow fun hstatus ↦ hlt (.inl hstatus), ?_⟩
    rintro _ _ ⟨⟩
    exact hlt

/-- A callback does what it must exactly when its back-off counts. -/
private theorem suspends_iff (event : Event) (henabled : throttle.enabled)
    (hnow : ∀ now ∈ event.now?, 0 < now) :
    Suspends lib throttle event ↔ BackOffCounts throttle event := by
  cases event with
  | messageBegin => simp [Suspends, step, BackOffCounts]
  | messageHeader name value now nowUtc =>
    refine iff_of_true ⟨le_messageHeader lib throttle name value now nowUtc, ?_⟩ trivial
    rintro _ _ ⟨⟩
  | messageEnd status now =>
    rw [suspends_messageEnd_iff lib throttle status now (hnow now rfl)]
    have hforbidden := lt_messageEnd_forbidden_iff throttle now henabled (hnow now rfl)
    have htooMany := lt_messageEnd_tooManyRequests_iff throttle now henabled (hnow now rfl)
    cases status with
    | ok => simp [BackOffCounts]
    | other code => simp [BackOffCounts]
    | forbidden => simpa [BackOffCounts] using hforbidden
    | tooManyRequests => simpa [BackOffCounts] using htooMany

/-- For an enabled throttle and a clock above zero, every callback of a run does what it
must exactly when each message with status 429 ends while the client never was suspended
or still is, and no suspension begins so late that its end does not fit 64 bits: a back-off
that has expired is not renewed. -/
theorem suspends_along_iff (events : List Event) (henabled : throttle.enabled)
    (hclock : ∀ event ∈ events, ∀ now ∈ event.now?, 0 < now) :
    Run.Along (step lib) (Suspends lib) throttle events ↔
      Run.Along (step lib) BackOffCounts throttle events := by
  apply Run.along_congr (fun throttle ↦ throttle.enabled)
    (fun _ event ↦ ∀ now ∈ event.now?, 0 < now)
  · intro throttle event henabled _
    rwa [enabled_step]
  · intro throttle event henabled hnow
    exact suspends_iff lib throttle event henabled hnow
  · exact henabled
  · exact Run.along_of_forall throttle hclock

/-- Libraries for fixed runs: every header counts, and none can be read. -/
def Library.fixed : Library where
  fromChars _ := .error ""
  fnv _ := 0

/-- Two messages with status 429, the second ending at a given time. -/
def rateLimitedTwice (second : Int64) : List Event :=
  [.messageEnd .tooManyRequests 1, .messageEnd .tooManyRequests second]

/-- Both messages end on a clock above zero. -/
private theorem clock_rateLimitedTwice {second : Int64} (h : 0 < second) :
    ∀ event ∈ rateLimitedTwice second, ∀ now ∈ event.now?, 0 < now := by
  have hfirst : (0 : Int64) < 1 := by decide +kernel
  refine List.forall_mem_cons.mpr ⟨?_, List.forall_mem_singleton.mpr ?_⟩
  · rintro _ ⟨⟩
    exact hfirst
  · rintro _ ⟨⟩
    exact h

/-- The second message ends during the back-off of the first. -/
theorem suspends_along_iff_during :
    Run.Along (step .fixed) (Suspends .fixed) (create true) (rateLimitedTwice 2) :=
  (suspends_along_iff .fixed (create true) (rateLimitedTwice 2) rfl
    (clock_rateLimitedTwice (by decide +kernel))).mpr (by decide +kernel)

/-- The second message ends when the back-off of the first, of five seconds, is over. -/
theorem not_suspended_after_expiry :
    ¬ ∀ (lib : Library) (throttle : Throttle) (events : List Event),
      throttle.enabled → (∀ event ∈ events, ∀ now ∈ event.now?, 0 < now) →
        (events.filterMap Event.now?).Pairwise (· ≤ ·) →
          Run.Along (step lib) (Suspends lib) throttle events := by
  intro h
  have hrun := h .fixed (create true) (rateLimitedTwice (1 + defaultBackoff)) rfl
    (clock_rateLimitedTwice (by decide +kernel)) (by decide +kernel)
  have hsecond := hrun.2.1.2 .tooManyRequests (1 + defaultBackoff) rfl (Or.inl rfl)
  exact absurd hsecond (by decide +kernel)

end Throttle

end Hyperliquid.Tools
