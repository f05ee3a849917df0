import Hyperliquid.Base.Run
import Hyperliquid.Gateway.OrderEntry

/-!
# Chains of requests

Three downloads of `OrderEntry` ask for one entry of the list of dexes after another, and the
handler of each reply sends the next request: `src/roq/hyperliquid/gateway/order_entry.cpp:301–411,
575–625`. A chain is one such download, from the call of `check_pending` that starts it.
-/

namespace Hyperliquid.Gateway

open Hyperliquid.Base Hyperliquid.Web

/-- The downloads that go through the list of dexes. -/
inductive DexDownload where
  | clearingHouseState
  | openOrders
  | userFills
  deriving DecidableEq, Repr

namespace DexDownload

/-- The request for an entry. -/
def call : DexDownload → Nat → Call
  | clearingHouseState => .clearingHouseState
  | openOrders => .openOrders
  | userFills => .userFills

/-- The slot that is committed. -/
def name : DexDownload → RequestName
  | clearingHouseState => .clearingHouseState
  | openOrders => .openOrders
  | userFills => .trades

variable {library : LimitRequest}

/-- What `check_pending` calls, with the default index. -/
def get (download : DexDownload) (dex : List Dex) (sent : Except Exception Unit) :
    Proc (OrderEntry.Effect library) Exception Unit :=
  match download with
  | clearingHouseState => OrderEntry.getClearingHouseState dex sent 0
  | openOrders => OrderEntry.getOpenOrders dex sent 0
  | userFills => OrderEntry.getUserFills dex sent 0

private theorem call_injective (download : DexDownload) {index other : Nat}
    (h : download.call index = download.call other) : index = other := by
  cases download <;> injection h

private theorem get_eq (download : DexDownload) (dex : List Dex) (sent : Except Exception Unit) :
    (download.get dex sent : Proc (OrderEntry.Effect library) Exception Unit) =
      OrderEntry.getDex download.call dex sent 0 := by
  cases download <;> rfl

private theorem ack_call (download : DexDownload) (http : HttpLibrary) (dex : List Dex)
    (counter : Nat)
    (reply : OrderEntry.Reply) (index : Nat) :
    (OrderEntry.ack http dex counter reply (download.call index) :
      Proc (OrderEntry.Effect library) Exception Unit) =
        OrderEntry.getDexAck http download.call download.name dex reply index := by
  cases download <;> rfl

private theorem following_call (download : DexDownload) (dex : List Dex) (index : Nat) :
    (download.call index).following dex =
      if index + 1 < dex.length then some (download.call (index + 1)) else none := by
  cases download <;> rfl

end DexDownload

/-- A chain: the requests without a reply, all requests that have been sent, and the calls of
`commit`, in order. -/
structure Chain where
  dex : List Dex
  outstanding : List Call
  sent : List Call
  commits : List RequestName
  /-- the process has ended -/
  ended : Bool
  deriving DecidableEq, Repr

namespace Chain

variable {library : LimitRequest} (http : HttpLibrary)

/-- What happens to a chain. -/
inductive Event where
  /-- the reply to one of the outstanding requests -/
  | reply (position : Nat) (reply : OrderEntry.Reply)
  /-- `Rest` appends an entry to the list of dexes. -/
  | dexAdded (dex : Dex)

/-- An effect of a handler of the chain. -/
def apply (chain : Chain) : OrderEntry.Effect library → Chain
  | .send call =>
    { chain with outstanding := chain.outstanding ++ [call], sent := chain.sent ++ [call] }
  | .commit name => { chain with commits := chain.commits ++ [name] }
  | _ => chain

/-- Runs a handler. -/
def perform (handler : Proc (OrderEntry.Effect library) Exception Unit) (chain : Chain) : Chain :=
  let chain := handler.events.foldl apply chain
  match handler.result with
  | .error (.fatal _) => { chain with ended := true }
  | _ => chain

/-- The slot fires; sending the first request may throw. -/
def start (library : LimitRequest) (download : DexDownload) (dex : List Dex)
    (sent : Except Exception Unit) : Chain :=
  perform (download.get dex sent : Proc (OrderEntry.Effect library) Exception Unit)
    ⟨dex, [], [], [], false⟩

/-- One step of a chain. -/
def step (library : LimitRequest) (chain : Chain) (event : Event) : Chain :=
  if chain.ended then chain
  else
    match event with
    | .dexAdded dex => { chain with dex := chain.dex ++ [dex] }
    | .reply position reply =>
      match chain.outstanding[position]? with
      | none => chain
      | some call =>
        { chain with outstanding := chain.outstanding.eraseIdx position }.perform
          (OrderEntry.ack http chain.dex 0 reply call :
            Proc (OrderEntry.Effect library) Exception Unit)

/-- A failure is logged, and the slot is committed. -/
theorem perform_of_failure (call : Nat → Call) (name : RequestName) (dex : List Dex) (index : Nat)
    {reply : OrderEntry.Reply} (h : reply.redirected = false) (hhandled : reply.handled = false)
    (chain : Chain) :
    chain.perform (OrderEntry.getDexAck http call name dex reply index :
      Proc (OrderEntry.Effect library) Exception Unit) =
        { chain with commits := chain.commits ++ [name] } := by
  obtain ⟨⟨result⟩, dispatched, sent⟩ := reply
  cases result with
  | error e => cases e <;> rfl
  | ok parts =>
    obtain ⟨status, category, body⟩ := parts
    cases category with
    | success =>
      cases body with
      | error what => rfl
      | ok _ =>
        cases dispatched with
        | error e => cases e <;> rfl
        | ok _ => cases hhandled
    | redirection => cases h
    | clientError =>
      unfold OrderEntry.getDexAck processResponse dispatchCategory
      dsimp only
      by_cases hstatus : status = .tooManyRequests
      · rw [if_pos hstatus]
        rfl
      · rw [if_neg hstatus]
        rfl
    | serverError => rfl
    | _ =>
      unfold OrderEntry.getDexAck processResponse dispatchCategory expectOk
      dsimp only
      by_cases hstatus : status = .ok
      · rw [if_pos hstatus]
        rfl
      · rw [if_neg hstatus]
        cases http.unexpected status <;> rfl

/-- A success at the last entry commits the slot; at another one it sends the next request. -/
theorem perform_of_success (call : Nat → Call) (name : RequestName) (dex : List Dex) (index : Nat)
    {reply : OrderEntry.Reply} (hhandled : reply.handled = true) (chain : Chain) :
    chain.perform (OrderEntry.getDexAck http call name dex reply index :
      Proc (OrderEntry.Effect library) Exception Unit) =
        if index + 1 < dex.length then
          match reply.sent with
          | .ok _ =>
            { chain with
              outstanding := chain.outstanding ++ [call (index + 1)]
              sent := chain.sent ++ [call (index + 1)] }
          | .error _ => chain
        else { chain with commits := chain.commits ++ [name] } := by
  obtain ⟨⟨status, hresponse⟩, hdispatched⟩ := reply.result_of_handled hhandled
  obtain ⟨response, dispatched, sent⟩ := reply
  cases hresponse
  cases hdispatched
  unfold OrderEntry.getDexAck processResponse dispatchCategory OrderEntry.handleDexSuccess
  dsimp only
  by_cases hindex : index + 1 < dex.length
  · rw [if_pos hindex, if_pos hindex]
    unfold OrderEntry.getDex
    rw [if_pos hindex]
    cases sent with
    | ok _ => rfl
    | error e => cases e <;> rfl
  · rw [if_neg hindex, if_neg hindex]
    rfl

/-- A redirection ends the process. -/
theorem perform_of_redirected (call : Nat → Call) (name : RequestName) (dex : List Dex)
    (index : Nat) {reply : OrderEntry.Reply} (h : reply.redirected = true) (chain : Chain) :
    chain.perform (OrderEntry.getDexAck http call name dex reply index :
      Proc (OrderEntry.Effect library) Exception Unit) = { chain with ended := true } := by
  obtain ⟨⟨result⟩, dispatched, sent⟩ := reply
  cases result with
  | error e => cases h
  | ok parts =>
    obtain ⟨status, category, body⟩ := parts
    cases category with
    | redirection => rfl
    | _ => cases h

/-- The requests go out for the entries in order, one at a time. -/
structure InOrder (download : DexDownload) (chain : Chain) : Prop where
  sent : ∃ number, chain.sent = (List.range number).map download.call
  outstanding : chain.outstanding.length ≤ 1

/-- What a reply for an entry leaves: the next request and no commit, or no request and one
commit. -/
def Continues (download : DexDownload) (index : Nat) (chain : Chain) : Prop :=
  (chain.outstanding = [download.call (index + 1)] ∧ chain.commits = []) ∨
    (chain.outstanding = [] ∧ chain.commits = [download.name])

/-- What a step of a chain should do. -/
structure Proper (library : LimitRequest) (download : DexDownload) (chain : Chain)
    (event : Event) : Prop where
  inOrder : InOrder download (chain.step http library event)
  continues : ∀ position reply index, event = .reply position reply →
    chain.outstanding[position]? = some (download.call index) →
      (chain.step http library event).ended = false →
        Continues download index (chain.step http library event)

/-- The condition on a step: after a reply that is handled, sending the next request does not
throw. -/
def SendsNext (chain : Chain) : Event → Prop
  | .reply position reply =>
    chain.ended = false → ∀ call ∈ chain.outstanding[position]?,
      (call.following chain.dex).isSome = true → reply.handled = true → reply.sent.isOk = true
  | .dexAdded _ => True

/-- What holds of a chain in every run: it waits for its last request, or for nothing. -/
def Inv (download : DexDownload) (chain : Chain) : Prop :=
  ∃ number, chain.sent = (List.range number).map download.call ∧
    (chain.outstanding = [] ∨ ∃ index, number = index + 1 ∧
      chain.outstanding = [download.call index] ∧ chain.commits = [])

private theorem Inv.inOrder {download : DexDownload} {chain : Chain} (h : Inv download chain) :
    InOrder download chain := by
  obtain ⟨number, hsent, hnone | ⟨index, _, hone, _⟩⟩ := h
  · exact ⟨⟨number, hsent⟩, by simp [hnone]⟩
  · exact ⟨⟨number, hsent⟩, by simp [hone]⟩

/-- A download starts with its first request, or with none that could be sent. -/
theorem inv_start (library : LimitRequest) (download : DexDownload) (dex : List Dex)
    (sent : Except Exception Unit) : Inv download (start library download dex sent) := by
  unfold start
  rw [download.get_eq]
  unfold OrderEntry.getDex
  split
  · cases sent with
    | ok _ => exact ⟨1, rfl, Or.inr ⟨0, rfl, rfl, rfl⟩⟩
    | error e => exact ⟨0, rfl, Or.inl rfl⟩
  · exact ⟨0, rfl, Or.inl rfl⟩

/-- The reply that a chain waits for. -/
theorem step_reply {download : DexDownload} {chain : Chain} {index : Nat}
    (hended : chain.ended = false)
    (hsent : chain.sent = (List.range (index + 1)).map download.call)
    (hone : chain.outstanding = [download.call index]) (hcommits : chain.commits = [])
    (reply : OrderEntry.Reply) :
    Inv download (chain.step http library (.reply 0 reply)) ∧
      (((chain.step http library (.reply 0 reply)).ended = false →
        Continues download index (chain.step http library (.reply 0 reply))) ↔
          (index + 1 < chain.dex.length → reply.handled = true → reply.sent.isOk = true)) := by
  have hstep : chain.step http library (.reply 0 reply) =
      { chain with outstanding := [] }.perform
        (OrderEntry.getDexAck http download.call download.name chain.dex reply index :
          Proc (OrderEntry.Effect library) Exception Unit) := by
    rw [← download.ack_call http chain.dex 0]
    simp [step, hended, hone]
  rw [hstep]
  cases hredirected : reply.redirected with
  | true =>
    rw [perform_of_redirected http download.call download.name chain.dex index hredirected]
    refine ⟨⟨index + 1, hsent, Or.inl rfl⟩, iff_of_true nofun ?_⟩
    intro _ hhandled
    obtain ⟨⟨status, hresponse⟩, _⟩ := reply.result_of_handled hhandled
    unfold OrderEntry.Reply.redirected at hredirected
    rw [hresponse] at hredirected
    cases hredirected
  | false =>
    cases hhandled : reply.handled with
    | false =>
      rw [perform_of_failure http download.call download.name chain.dex index hredirected hhandled,
        hcommits]
      exact ⟨⟨index + 1, hsent, Or.inl rfl⟩, iff_of_true (fun _ ↦ Or.inr ⟨rfl, rfl⟩) nofun⟩
    | true =>
      rw [perform_of_success http download.call download.name chain.dex index hhandled]
      by_cases hindex : index + 1 < chain.dex.length
      · rw [if_pos hindex]
        cases hnext : reply.sent with
        | ok _ =>
          refine ⟨⟨index + 2, ?_, Or.inr ⟨index + 1, rfl, rfl, hcommits⟩⟩,
            iff_of_true (fun _ ↦ Or.inl ⟨rfl, hcommits⟩) fun _ _ ↦ rfl⟩
          show chain.sent ++ [download.call (index + 1)] = _
          rw [hsent, List.range_succ (n := index + 1), List.map_append]
          rfl
        | error e =>
          refine ⟨⟨index + 1, hsent, Or.inl rfl⟩, iff_of_false ?_ ?_⟩
          · intro hcontinues
            rcases hcontinues hended with ⟨hsome, _⟩ | ⟨_, hsome⟩
            · cases hsome
            · rw [hcommits] at hsome
              cases hsome
          · intro h
            cases h hindex rfl
      · rw [if_neg hindex, hcommits]
        exact ⟨⟨index + 1, hsent, Or.inl rfl⟩,
          iff_of_true (fun _ ↦ Or.inr ⟨rfl, rfl⟩) fun h ↦ absurd h hindex⟩

/-- A step that answers nothing. -/
theorem Inv.proper_iff_of_idle {download : DexDownload} {chain : Chain} {event : Event}
    (h : Inv download (chain.step http library event))
    (hidle : ∀ position reply, event = .reply position reply →
      chain.ended = true ∨ chain.outstanding[position]? = none) :
    Proper http library download chain event ↔ chain.SendsNext event := by
  refine iff_of_true ⟨h.inOrder, ?_⟩ ?_
  · intro position reply index hevent hwaiting hended
    rcases hidle position reply hevent with hbefore | hnone
    · unfold step at hended
      rw [if_pos hbefore, hbefore] at hended
      cases hended
    · rw [hnone] at hwaiting
      cases hwaiting
  · cases event with
    | dexAdded dex => trivial
    | reply position reply =>
      intro hended call hcall
      rcases hidle position reply rfl with hbefore | hnone
      · rw [hended] at hbefore
        cases hbefore
      · rw [hnone] at hcall
        cases hcall

/-- A step keeps the order of the requests, and does what it should under its condition. -/
theorem Inv.step {download : DexDownload} {chain : Chain} (h : Inv download chain)
    (event : Event) :
    Inv download (chain.step http library event) ∧
      (Proper http library download chain event ↔ chain.SendsNext event) := by
  cases hended : chain.ended with
  | true =>
    have hstep : chain.step http library event = chain := by simp [Chain.step, hended]
    have hinv : Inv download (chain.step http library event) := by rwa [hstep]
    exact ⟨hinv, hinv.proper_iff_of_idle http fun _ _ _ ↦ Or.inl hended⟩
  | false =>
    cases event with
    | dexAdded dex =>
      have hinv : Inv download (chain.step http library (.dexAdded dex)) := by
        simp only [Chain.step, hended, Bool.false_eq_true, if_false]
        exact h
      exact ⟨hinv, hinv.proper_iff_of_idle http fun _ _ hevent ↦ by cases hevent⟩
    | reply position reply =>
      cases hcall : chain.outstanding[position]? with
      | none =>
        have hinv : Inv download (chain.step http library (.reply position reply)) := by
          simp only [Chain.step, hended, hcall, Bool.false_eq_true, if_false]
          exact h
        refine ⟨hinv, hinv.proper_iff_of_idle http ?_⟩
        rintro _ _ ⟨⟩
        exact Or.inr hcall
      | some call =>
        obtain ⟨number, hsent, hnone | ⟨index, rfl, hone, hcommits⟩⟩ := h
        · simp [hnone] at hcall
        · rw [hone] at hcall
          obtain ⟨rfl, rfl⟩ : position = 0 ∧ download.call index = call := by
            cases position with
            | zero => exact ⟨rfl, Option.some.inj hcall⟩
            | succ position => simp at hcall
          obtain ⟨hinv, hiff⟩ := @step_reply library http _ _ _ hended hsent hone hcommits
            reply
          have hfollowing : ((download.call index).following chain.dex).isSome = true ↔
              index + 1 < chain.dex.length := by
            rw [download.following_call]
            simp
          refine ⟨hinv, ⟨?_, ?_⟩⟩
          · intro hproper _ call hmem hsome
            rw [hone] at hmem
            cases hmem
            have hcontinues := hproper.continues 0 reply index rfl (by simp [hone])
            exact hiff.mp hcontinues (hfollowing.mp hsome)
          · intro hsends
            have hnext := hiff.mpr fun hindex ↦
              hsends hended (download.call index) (by simp [hone]) (hfollowing.mpr hindex)
            refine ⟨hinv.inOrder, ?_⟩
            intro position reply' index' hevent hwaiting
            cases hevent
            rw [hone] at hwaiting
            rw [← download.call_injective (Option.some.inj hwaiting)]
            exact hnext

/-- In every run of a chain, each step does what it should exactly when sending the next request
never throws. -/
theorem along_proper_iff (library : LimitRequest) (http : HttpLibrary) (download : DexDownload)
    (dex : List Dex) (sent : Except Exception Unit) (events : List Event) :
    (InOrder download (start library download dex sent) ∧
      Run.Along (Chain.step http library) (Proper http library download)
        (start library download dex sent) events) ↔
      Run.Along (Chain.step http library) SendsNext (start library download dex sent) events := by
  have hstart := inv_start library download dex sent
  have hrun : Run.Along (Chain.step http library) (fun _ _ ↦ True)
      (start library download dex sent) events := Run.along_true _ events
  rw [and_iff_right hstart.inOrder]
  exact Run.along_congr (Inv download) (fun _ _ ↦ True) (fun _ event h _ ↦ (h.step http event).1)
    (fun _ event h _ ↦ (h.step http event).2) hstart hrun

/-- The second request throws: none is outstanding, and the slot is not committed. -/
theorem stalls_after_throw :
    ¬ ∀ (library : LimitRequest) (http : HttpLibrary) (download : DexDownload) (dex : List Dex)
      (sent : Except Exception Unit) (events : List Event), dex ≠ [] →
      InOrder download (start library download dex sent) ∧
        Run.Along (Chain.step http library) (Proper http library download)
          (start library download dex sent) events := by
  intro h
  have hrun := (h oneSlot ⟨fun _ ↦ "", fun _ ↦ .std ""⟩ .openOrders [⟨"", 0⟩, ⟨"xyz", 110000⟩]
    (.ok ()) [.reply 0 ⟨⟨.ok (.ok, .success, .ok ())⟩, .ok (), .error (.std "not connected")⟩]
    (by simp)).2
  rcases hrun.1.continues 0 _ 0 rfl rfl (by decide) with ⟨hsent, _⟩ | ⟨_, hcommit⟩
  · exact absurd hsent (by decide)
  · exact absurd hcommit (by decide)

end Chain

end Hyperliquid.Gateway
