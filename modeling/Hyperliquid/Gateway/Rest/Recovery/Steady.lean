import Hyperliquid.Gateway.Rest.MetaChain
import Mathlib.Tactic.Common

/-!
# What the download of reference data waits for

`src/roq/hyperliquid/gateway/rest.cpp:174–231, 253–273, 360–412, 443–538`: `Rest` waits for one
request at a time, or for the library of its download to call back. A reply that is not accepted, a
request that is not sent, a retry or a lost connection throws it back.
-/

namespace Hyperliquid.Gateway.Rest

open Hyperliquid.Base Hyperliquid.Web

/-- The state that sends a request. -/
def Call.state : Call → State
  | .spotMeta => .spotMeta
  | .perpDexs => .perpDexs
  | .metas _ => .metas

/-- The last state sends nothing. -/
theorem Call.state_ne_done (call : Call) : call.state ≠ .done := by
  cases call <;> nofun

/-- A request that has captured a given sequence. -/
def Request.callIn (sequence : UInt32) (request : Request) : Option Call :=
  if request.sequence = sequence then some request.call else none

/-- The body of a reply that is successful and not skipped. -/
def Reply.body? (reply : Reply) : Option Body :=
  match reply.response.result with
  | .ok (_, .success, body) => if reply.skip then none else some body
  | _ => none

/-- The decoded body of a reply to a request is handled without an exception, and the download
may leave the state if there is nothing more to ask for. -/
def Body.carriesOn (env : MetaEnv) (F : Type) [Double F] (view : View) (leaves : Bool)
    (body : Body) : Call → Bool
  | .spotMeta => leaves && body.spotMeta.isOk
  | .perpDexs =>
    leaves && body.perpDexs.toOption.any fun items ↦
      (perpDexsAck env.settings view.dex items).isOk
  | .metas index =>
    (decide (index + 1 < view.dex.length) || leaves) && body.metas.toOption.any fun items ↦
      (metaAck (F := F) env view.dex index items view.allSymbols).1.isOk

/-- A reply after which the download goes on to its next request, or to its end. -/
def Reply.carriesOn (env : MetaEnv) (F : Type) [Double F] (view : View) (reply : Reply)
    (call : Call) : Bool :=
  reply.sent.isOk && reply.body?.any fun body ↦ body.carriesOn env F view reply.leaves call

namespace Stream

/-- The requests in flight that have captured a sequence. -/
def calls (stream : Stream) (sequence : UInt32) : List Call :=
  stream.outstanding.filterMap (Request.callIn sequence)

/-- The requests that the download waits for. -/
def waiting (stream : Stream) : List Call := stream.calls stream.sequence

section

variable (http : HttpLibrary) (env : MetaEnv) (F : Type) [Double F]

/-- A step that carries the download on. -/
def due (stream : Stream) : Event → Bool
  | .sequenceChanged _ => stream.state ≠ .done && stream.started && stream.waiting.isEmpty
  | .connected sent => stream.state = .undefined && sent.isOk
  | .callback sent => stream.downloading && sent.isOk
  | .reply position reply _ =>
    stream.outstanding[position]?.any fun request ↦
      request.sequence = stream.sequence && reply.carriesOn env F stream.view request.call
  | _ => false

/-- A step that throws the download back: its request is given up, is not sent or has a reply that
is not accepted, or its connection is lost after it has ended. -/
def setback (stream : Stream) : Event → Bool
  | .sequenceChanged _ => !stream.waiting.isEmpty
  | .allSymbolsChanged _ => false
  | .connected sent => !stream.downloading && !(stream.state = .undefined && sent.isOk)
  | .disconnected => !stream.downloading
  | .callback sent => !(stream.downloading && sent.isOk)
  | .reply position reply _ =>
    stream.outstanding[position]?.any fun request ↦
      request.sequence = stream.sequence && !reply.carriesOn env F stream.view request.call

/-- What the library of the download is trusted with: its sequence takes a value that no request
in flight has captured, it has changed whenever the download begins or calls back again, and a
reply to a request with another sequence is skipped. -/
def Trusted (stream : Stream) : Event → Prop
  | .sequenceChanged sequence => stream.calls sequence = []
  | .connected _ => stream.downloading = true ∨ stream.started = false
  | .callback _ => stream.started = false
  | .reply position reply entered =>
    (∀ request ∈ stream.outstanding[position]?,
      request.sequence ≠ stream.sequence → reply.skip = true) ∧
    ∀ sequence ∈ entered, stream.calls sequence = []
  | _ => True

instance (stream : Stream) : (event : Event) → Decidable (stream.Trusted event)
  | .sequenceChanged _ => inferInstanceAs (Decidable (_ = _))
  | .allSymbolsChanged _ => isTrue trivial
  | .connected _ => inferInstanceAs (Decidable (_ ∨ _))
  | .disconnected => isTrue trivial
  | .callback _ => inferInstanceAs (Decidable (_ = _))
  | .reply position _ entered =>
    @instDecidableAnd _ _ (Option.decidableForallMem stream.outstanding[position]?)
      (Option.decidableForallMem entered)

/-- A step that the library allows, in which the process does not end and the list of dexes stays
within a bound. -/
def Sound (dexes : Nat) (stream : Stream) (event : Event) : Prop :=
  stream.Trusted event ∧ (stream.step http env F event).ended = false ∧
    (stream.step http env F event).dex.length ≤ dexes

instance (dexes : Nat) (stream : Stream) (event : Event) :
    Decidable (Sound http env F dexes stream event) :=
  inferInstanceAs (Decidable (_ ∧ _))

end

/-- The requests that a state and those after it send. -/
def cost (dexes : Nat) : State → Nat
  | .undefined => dexes + 2
  | .spotMeta => dexes + 2
  | .perpDexs => dexes + 1
  | .metas => dexes
  | .done => 0

/-- How many steps the download is away from its end: a request in flight stands for itself, and
without one the library has to call back, after its sequence has changed. -/
def rank (dexes : Nat) (stream : Stream) : Nat :=
  if stream.state = .done then 0
  else
    match stream.waiting with
    | [] => cost dexes stream.state + 1 + stream.started.toNat
    | call :: _ => cost dexes stream.state - call.index?.getD 0

/-! ## The invariant -/

/-- What holds between the steps. -/
structure Steady (stream : Stream) : Prop where
  waits : stream.waiting = [] ∨ ∃ call, stream.waiting = [call] ∧ call.state = stream.state
  within : ∀ index, .metas index ∈ stream.waiting → index < stream.dex.length
  unstarted : stream.started = false → stream.waiting = []
  listed : stream.state = .metas → stream.dex ≠ []
  ready : stream.state = .done → stream.status = .ready

/-- What remains of the invariant while nothing is in flight. -/
theorem steady_of_waiting_nil {stream : Stream} (hwaiting : stream.waiting = [])
    (hlisted : stream.state = .metas → stream.dex ≠ [])
    (hready : stream.state = .done → stream.status = .ready) : Steady stream where
  waits := .inl hwaiting
  within index hindex := by
    rw [hwaiting] at hindex
    cases hindex
  unstarted _ := hwaiting
  listed := hlisted
  ready := hready

/-- The invariant holds before the first connection. -/
theorem steady_new (sequence : UInt32) : Steady (new sequence) :=
  steady_of_waiting_nil rfl nofun nofun

/-- The steps that a download may still need. -/
theorem rank_le (dexes : Nat) (stream : Stream) : stream.rank dexes ≤ dexes + 4 := by
  have hcost : cost dexes stream.state ≤ dexes + 2 := by
    cases stream.state <;> simp [cost]
  have hstarted := Bool.toNat_le stream.started
  unfold rank
  split
  · exact Nat.zero_le _
  · split <;> omega

/-- A download at its end needs none. -/
theorem rank_of_done (dexes : Nat) {stream : Stream} (h : stream.state = .done) :
    stream.rank dexes = 0 := if_pos h

/-- Nothing is in flight. -/
theorem rank_of_waiting_nil (dexes : Nat) {stream : Stream} (hstate : stream.state ≠ .done)
    (h : stream.waiting = []) :
    stream.rank dexes = cost dexes stream.state + 1 + stream.started.toNat := by
  rw [rank, if_neg hstate, h]

/-- A request is in flight. -/
theorem rank_of_waiting (dexes : Nat) {stream : Stream} {call : Call}
    (h : stream.waiting = [call]) (hstate : call.state = stream.state) :
    stream.rank dexes = cost dexes call.state - call.index?.getD 0 := by
  have hdone : stream.state ≠ .done := hstate ▸ call.state_ne_done
  rw [rank, if_neg hdone, h, hstate]

/-- A download that is not at its end is away from it. -/
theorem Steady.rank_pos {dexes : Nat} {stream : Stream} (h : Steady stream)
    (hdexes : stream.dex.length ≤ dexes) (hstate : stream.state ≠ .done) :
    0 < stream.rank dexes := by
  rcases h.waits with hnil | ⟨call, hwaiting, hcall⟩
  · rw [rank_of_waiting_nil dexes hstate hnil]
    omega
  · rw [rank_of_waiting dexes hwaiting hcall]
    cases call with
    | spotMeta => exact Nat.succ_pos _
    | perpDexs => exact Nat.succ_pos _
    | metas index =>
      have hindex := h.within index (by rw [hwaiting]; exact List.mem_singleton_self _)
      exact Nat.sub_pos_of_lt (Nat.lt_of_lt_of_le hindex hdexes)

/-- Nothing is waited for outside the states that send a request. -/
theorem Steady.waiting_of_not_downloading {stream : Stream} (h : Steady stream)
    (hdownloading : stream.downloading = false) : stream.waiting = [] := by
  rcases h.waits with hnil | ⟨call, _, hcall⟩
  · exact hnil
  · rw [downloading, ← hcall] at hdownloading
    cases call <;> cases hdownloading

/-! ## Requests -/

/-- A request that is sent is waited for. -/
theorem waiting_send (stream : Stream) (index : Option Nat) (entered : Option UInt32)
    (call : Call) :
    (stream.apply index entered (.send call)).waiting = stream.waiting ++ [call] := by
  show (stream.outstanding ++ [_]).filterMap (Request.callIn stream.sequence) = _
  have hcall : Request.callIn stream.sequence ⟨call, stream.sequence⟩ = some call := if_pos rfl
  rw [List.filterMap_append, List.filterMap_cons_some hcall]
  rfl

private theorem calls_perm {stream : Stream} {position : Nat} {request : Request}
    (h : stream.outstanding[position]? = some request) (sequence : UInt32) :
    (stream.calls sequence).Perm
      ((request.callIn sequence).toList ++ (stream.answered position).calls sequence) := by
  obtain ⟨hposition, rfl⟩ := List.getElem?_eq_some_iff.mp h
  have hperm := (List.getElem_cons_eraseIdx_perm hposition).symm.filterMap
    (Request.callIn sequence)
  cases hcall : (stream.outstanding[position]).callIn sequence with
  | none =>
    rw [List.filterMap_cons_none hcall] at hperm
    exact hperm
  | some call =>
    rw [List.filterMap_cons_some hcall] at hperm
    exact hperm

/-- No other request of a sequence comes into flight by a reply. -/
theorem calls_answered {stream : Stream} {position : Nat} {request : Request}
    (hrequest : stream.outstanding[position]? = some request) {sequence : UInt32}
    (h : stream.calls sequence = []) : (stream.answered position).calls sequence = [] := by
  have hperm := calls_perm hrequest sequence
  rw [h] at hperm
  exact (List.append_eq_nil_iff.mp (List.nil_perm.mp hperm)).2

/-- A reply to a request of another sequence leaves those that the download waits for. -/
theorem waiting_answered_of_ne {stream : Stream} {position : Nat} {request : Request}
    (h : Steady stream) (hrequest : stream.outstanding[position]? = some request)
    (hsequence : request.sequence ≠ stream.sequence) :
    (stream.answered position).waiting = stream.waiting := by
  have hperm : stream.waiting.Perm (stream.answered position).waiting := by
    have hperm := calls_perm hrequest stream.sequence
    rwa [Request.callIn, if_neg hsequence] at hperm
  rcases h.waits with hnil | ⟨call, hwaiting, _⟩
  · rw [hnil] at hperm ⊢
    exact List.nil_perm.mp hperm
  · rw [hwaiting] at hperm ⊢
    exact (List.singleton_perm.mp hperm).symm

/-- The request that the download waits for has its reply. -/
theorem Steady.answered {stream : Stream} {position : Nat} {request : Request}
    (h : Steady stream) (hrequest : stream.outstanding[position]? = some request)
    (hsequence : request.sequence = stream.sequence) :
    stream.waiting = [request.call] ∧ request.call.state = stream.state ∧
      (stream.answered position).waiting = [] := by
  have hperm : stream.waiting.Perm (request.call :: (stream.answered position).waiting) := by
    have hperm := calls_perm hrequest stream.sequence
    rwa [Request.callIn, if_pos hsequence] at hperm
  rcases h.waits with hnil | ⟨call, hwaiting, hcall⟩
  · rw [hnil] at hperm
    cases List.nil_perm.mp hperm
  · rw [hwaiting] at hperm
    obtain ⟨rfl, hrest⟩ := List.cons.inj (List.singleton_perm.mp hperm)
    exact ⟨hwaiting, hcall, hrest.symm⟩

end Stream

end Hyperliquid.Gateway.Rest
