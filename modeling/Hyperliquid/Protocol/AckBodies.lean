import Hyperliquid.Protocol.Parser

/-!
# What the parsers of order replies find

The parsers of `src/roq/hyperliquid/protocol/json/create_order_ack_parser.cpp` and
`cancel_order_ack_parser.cpp` take a reply for a general error or for a list of statuses, and call
one handler at most, whatever members the reply has.
-/

namespace Hyperliquid.Protocol.Json

open Hyperliquid.Base Hyperliquid.Base.CoreJson Hyperliquid.Web
open Hyperliquid.Protocol.Json.Parser (membersOf)

/-- What a reply is taken for. -/
inductive Found where
  | generalError
  | statuses (value : Value)
  | nothing

/-- The response is a text or an object; members of other kinds are passed over. -/
def isResponse (hash : KeyHash) : String × Value → Bool
  | (key, .string _) | (key, .object _) => hash.is key "response"
  | _ => false

/-- A member under a label. -/
def isLabelled (hash : KeyHash) (label : String) (member : String × Value) : Bool :=
  hash.is member.1 label

/-- The statuses among the members of the data of a response. -/
def statuses? (hash : KeyHash) (response : List (String × Value)) : Option (String × Value) :=
  ((response.filter (isLabelled hash "data")).flatMap fun member ↦ membersOf member.2).find?
    (isLabelled hash "statuses")

/-- What the members of a reply are taken for. -/
def found (hash : KeyHash) (members : List (String × Value)) : Found :=
  match (members.find? (isResponse hash)).map Prod.snd with
  | some (.string _) => .generalError
  | some (.object response) =>
    match statuses? hash response with
    | some member => .statuses member.2
    | none => .nothing
  | _ => .nothing

section

variable {ω : Type} {hash : KeyHash} {generalError : Proc ω Exception Bool}
  {dataHelper : Callback ω} {onStatuses : Value → Proc ω Exception Bool}

/-- A helper that returns true whenever it returns. -/
def ReturnsTrue (x : Proc ω Exception Bool) : Prop :=
  ∀ result, x.result = .ok result → result = true

private theorem ReturnsTrue.bind_congr {α : Type} {x : Proc ω Exception Bool} (h : ReturnsTrue x)
    {f g : Bool → Proc ω Exception α} (hfg : f true = g true) : (x >>= f) = (x >>= g) := by
  obtain ⟨events, result⟩ := x
  cases result with
  | error failure => rfl
  | ok result =>
    obtain rfl := h result rfl
    exact congrArg (fun y ↦ (⟨events, .ok true⟩ : Proc ω Exception Bool) >>= fun _ ↦ y) hfg

/-- A handler that returns returns true. -/
theorem returnsTrue_dispatchHelper {τ : Type} (decode : Value → Except String τ)
    (handler : τ → Proc ω Exception Unit) (message : Value) :
    ReturnsTrue (dispatchHelper decode handler message) := by
  intro result h
  unfold dispatchHelper at h
  cases hdecoded : decode message with
  | error what =>
    rw [hdecoded] at h
    cases h
  | ok obj =>
    rw [hdecoded, Proc.ofExcept_ok, Proc.pure_bind] at h
    generalize handler obj = handled at h
    obtain ⟨events, _ | _⟩ := handled
    · cases h
    · exact (Except.ok.inj h).symm

/-- A helper for the data that handles the statuses and passes over everything else. -/
def HandlesStatuses (hash : KeyHash) (dataHelper : Callback ω)
    (onStatuses : Value → Proc ω Exception Bool) : Prop :=
  ∀ key value, dataHelper false key value =
    if hash.is key "statuses" then onStatuses value >>= fun result ↦ pure (result, true)
    else pure (false, false)

/-- The data is handled up to the first list of statuses. -/
theorem dispatch_dataHelper (h : HandlesStatuses hash dataHelper onStatuses)
    (members : List (String × Value)) :
    CoreJson.dispatch dataHelper false members =
      match members.find? (isLabelled hash "statuses") with
      | some member => onStatuses member.2
      | none => pure false := by
  induction members with
  | nil => rfl
  | cons member members ih =>
    obtain ⟨key, value⟩ := member
    by_cases hkey : isLabelled hash "statuses" (key, value) = true
    · rw [List.find?_cons_of_pos hkey]
      exact dispatch_of_stop ((h key value).trans (if_pos hkey))
    · rw [List.find?_cons_of_neg hkey, dispatch_of_continue ((h key value).trans (if_neg hkey)), ih]

private theorem responseHelper_of_data {key : String} (hkey : hash.is key "data" = true)
    (value : Value) :
    responseHelper hash dataHelper false key value =
      match value with
      | .object members => do
        let result ← CoreJson.dispatch dataHelper false members
        pure (result, result)
      | _ => Proc.throw (.std badVariantAccess) :=
  (if_neg (Bool.eq_false_iff.mp (KeyHash.is_type_of_data hkey))).trans (if_pos hkey)

/-- The response is handled up to the first list of statuses, unless some data before it is no
object. -/
theorem dispatch_responseHelper (h : HandlesStatuses hash dataHelper onStatuses)
    (hreturns : ∀ value, ReturnsTrue (onStatuses value)) (response : List (String × Value)) :
    CoreJson.dispatch (responseHelper hash dataHelper) false response =
        Proc.throw (.std badVariantAccess) ∨
      CoreJson.dispatch (responseHelper hash dataHelper) false response =
        match statuses? hash response with
        | some member => onStatuses member.2
        | none => pure false := by
  induction response with
  | nil => exact Or.inr rfl
  | cons member response ih =>
    obtain ⟨key, value⟩ := member
    by_cases hdata : isLabelled hash "data" (key, value) = true
    · have hhandled := @responseHelper_of_data ω hash dataHelper key hdata value
      have hstatuses : statuses? hash ((key, value) :: response) =
          ((membersOf value).find? (isLabelled hash "statuses")).or
            (statuses? hash response) := by
        rw [statuses?, List.filter_cons_of_pos hdata, List.flatMap_cons, List.find?_append,
          statuses?]
      rw [hstatuses]
      cases value with
      | object members =>
        dsimp only at hhandled
        rw [dispatch_dataHelper h] at hhandled
        rw [membersOf]
        cases hfind : members.find? (isLabelled hash "statuses") with
        | some found =>
          rw [hfind] at hhandled
          have hstop : responseHelper hash dataHelper false key (.object members) =
              onStatuses found.2 >>= fun result ↦ pure (result, true) :=
            hhandled.trans ((hreturns found.2).bind_congr rfl)
          exact Or.inr (dispatch_of_stop hstop)
        | none =>
          rw [hfind] at hhandled
          rw [dispatch_of_continue hhandled]
          exact ih
      | _ =>
        left
        rw [CoreJson.dispatch, hhandled]
        rfl
    · have hcontinue : responseHelper hash dataHelper false key value = pure (false, false) := by
        unfold responseHelper
        exact (congrArg _ (if_neg hdata)).trans (ite_self _)
      have hstatuses : statuses? hash ((key, value) :: response) = statuses? hash response := by
        rw [statuses?, List.filter_cons_of_neg hdata, statuses?]
      rw [dispatch_of_continue hcontinue, hstatuses]
      exact ih

/-- What is done for what a reply is taken for. -/
def handleFound (generalError : Proc ω Exception Bool)
    (onStatuses : Value → Proc ω Exception Bool) : Found → Proc ω Exception Bool
  | .generalError => generalError
  | .statuses value => onStatuses value
  | .nothing => pure false

private theorem helper_of_response {key : String} (hkey : hash.is key "response" = true)
    (value : Value) :
    helper hash generalError dataHelper false key value =
      match value with
      | .string _ => do
        let result ← generalError
        pure (result, true)
      | .object members => do
        let result ← CoreJson.dispatch (responseHelper hash dataHelper) false members
        pure (result, true)
      | _ => pure (false, false) :=
  (if_neg (Bool.eq_false_iff.mp (KeyHash.is_of_response hkey).2)).trans (if_pos hkey)

/-- The reply is handled up to the first response, unless some data before the statuses is no
object. -/
theorem dispatch_helper (h : HandlesStatuses hash dataHelper onStatuses)
    (hreturns : ∀ value, ReturnsTrue (onStatuses value)) (members : List (String × Value)) :
    CoreJson.dispatch (helper hash generalError dataHelper) false members =
        Proc.throw (.std badVariantAccess) ∨
      CoreJson.dispatch (helper hash generalError dataHelper) false members =
        handleFound generalError onStatuses (found hash members) := by
  induction members with
  | nil => exact Or.inr rfl
  | cons member members ih =>
    obtain ⟨key, value⟩ := member
    by_cases hmember : isResponse hash (key, value) = true
    · rw [found, List.find?_cons_of_pos hmember]
      cases value with
      | string text => exact Or.inr (dispatch_of_stop (helper_of_response hmember _))
      | object response =>
        rw [dispatch_of_stop (helper_of_response hmember _)]
        rcases dispatch_responseHelper h hreturns response with hthrown | hhandled
        · exact Or.inl hthrown
        · right
          rw [hhandled, Option.map_some]
          cases hstatuses : statuses? hash response with
          | some member => simp only [hstatuses, handleFound]
          | none => simp only [hstatuses, handleFound]
      | _ => cases hmember
    · have hcontinue : helper hash generalError dataHelper false key value =
          pure (false, false) := by
        by_cases hkey : hash.is key "response" = true
        · rw [helper_of_response hkey]
          cases value with
          | string text => exact absurd hkey hmember
          | object response => exact absurd hkey hmember
          | _ => rfl
        · unfold helper
          exact (congrArg _ (if_neg hkey)).trans (ite_self _)
      have hfound : found hash ((key, value) :: members) = found hash members := by
        rw [found, List.find?_cons_of_neg hmember, found]
      rw [dispatch_of_continue hcontinue, hfound]
      exact ih

/-- A parser handles what it takes a reply for, or throws. -/
theorem dispatchAck_object (h : HandlesStatuses hash dataHelper onStatuses)
    (hreturns : ∀ value, ReturnsTrue (onStatuses value)) (allowUnknown : Bool)
    (members : List (String × Value)) :
    dispatchAck hash generalError dataHelper allowUnknown (.object members) =
        Proc.throw (.std badVariantAccess) ∨
      dispatchAck hash generalError dataHelper allowUnknown (.object members) =
        handleFound generalError onStatuses (found hash members) >>= fun result ↦
          if result || allowUnknown then pure result else Proc.fatal "Unexpected" := by
  rw [dispatchAck]
  rcases dispatch_helper h hreturns members with hthrown | hhandled
  · rw [hthrown]
    exact Or.inl rfl
  · rw [hhandled]
    exact Or.inr rfl

end

/-- The statuses of a reply to a new order are all decoded. -/
theorem handlesStatuses_create {ω : Type} (hash : KeyHash)
    (createOrderAck : Proc ω Exception Bool) :
    HandlesStatuses hash (createDataHelper hash createOrderAck) fun _ ↦ createOrderAck :=
  fun _ _ ↦ rfl

/-- What the cancel parser does with the statuses. -/
def onCancelStatuses {ω : Type} (cancelOrderAck : Proc ω Exception Bool) :
    Value → Proc ω Exception Bool
  | .array items => if isArrayOfString items then pure true else cancelOrderAck
  | _ => Proc.throw (.std badVariantAccess)

/-- The helper of cancellations hands the statuses on. -/
theorem handlesStatuses_cancel {ω : Type} (hash : KeyHash)
    (cancelOrderAck : Proc ω Exception Bool) :
    HandlesStatuses hash (cancelDataHelper hash cancelOrderAck)
      (onCancelStatuses cancelOrderAck) := by
  intro key value
  unfold cancelDataHelper onCancelStatuses
  cases value with
  | array items =>
    dsimp only
    by_cases hstrings : isArrayOfString items = true
    · rw [if_pos hstrings, if_pos hstrings]
      rfl
    · rw [if_neg hstrings, if_neg hstrings]
  | _ => rfl

/-- An array of statuses is handled like the handler does it. -/
theorem returnsTrue_onCancelStatuses {ω : Type} {cancelOrderAck : Proc ω Exception Bool}
    (h : ReturnsTrue cancelOrderAck) (value : Value) :
    ReturnsTrue (onCancelStatuses cancelOrderAck value) := by
  intro result hresult
  unfold onCancelStatuses at hresult
  cases value with
  | array items =>
    dsimp only at hresult
    split at hresult
    · exact (Except.ok.inj hresult).symm
    · exact h result hresult
  | _ => cases hresult

end Hyperliquid.Protocol.Json
